import CryptoTrader.Wallet.Exits
import Mathlib.Tactic.NormNum

/-!
# Market regimes

`RegimeClassifier` of `regime.py`: the eight regimes, the scalar each gives the
size of a position, and which of them forbid new entries.
-/

namespace CryptoTrader

/-- `ExtendedRegime`. -/
inductive ExtendedRegime where
  | deadMarket
  | lowVolChop
  | accumulation
  | trendExpansion
  | liquidationEvent
  | breakoutEnvironment
  | meanReversion
  | highRiskChaos
  deriving DecidableEq, Repr

/-- `RegimeContext`, as far as the entry path reads it. -/
structure RegimeContext where
  extended : ExtendedRegime
  sizeMultiplier : Decimal
  deriving DecidableEq

/-- Neither dead nor chaotic nor a liquidation event. -/
def ExtendedRegime.allowsNewEntries (regime : ExtendedRegime) : Bool :=
  regime ∉ [ExtendedRegime.deadMarket, .highRiskChaos, .liquidationEvent]

/-- `allows_new_entries`. -/
def RegimeContext.allowsNewEntries (ctx : RegimeContext) : Bool := ctx.extended.allowsNewEntries

/-- `RegimeClassifier`. -/
structure RegimeClassifier where
  rvolDead : Decimal := 6 / 10
  rvolWeak : Decimal := 9 / 10
  rvolStrong : Decimal := 15 / 10
  sizeHigh : Decimal := 125 / 100
  sizeLow : Decimal := 5 / 10
  liqIntensityThreshold : Decimal := 3 / 10
  adxRanging : Decimal := 20
  deriving DecidableEq

/-- The arguments of `classify`. -/
structure RegimeMetrics where
  baseRegime : MarketRegime
  adx : Decimal
  rvol : Decimal
  oiDelta : Decimal
  liquidationIntensity : Decimal
  isKillZone : Bool
  spreadPct : Decimal := 0
  deriving DecidableEq

def MarketRegime.isTrending : MarketRegime → Bool
  | .trendingUp | .trendingDown => true
  | .ranging | .chop => false

/-- `classify`: the gates of the highest risk come first. -/
def RegimeClassifier.classify (c : RegimeClassifier) (m : RegimeMetrics) : RegimeContext :=
  let isTrending := m.baseRegime.isTrending
  if m.rvol < c.rvolDead then ⟨.deadMarket, 0⟩
  else if 5 / 10 < m.spreadPct then ⟨.highRiskChaos, 0⟩
  else if isTrending ∧ c.rvolStrong ≤ m.rvol ∧ 0 < m.oiDelta ∧
      c.liqIntensityThreshold ≤ m.liquidationIntensity then ⟨.liquidationEvent, 0⟩
  else if isTrending ∧ c.rvolStrong ≤ m.rvol ∧ (m.isKillZone ∨ 0 < m.oiDelta) then
    ⟨.trendExpansion, c.sizeHigh⟩
  else if isTrending ∧ c.rvolWeak ≤ m.rvol ∧ m.isKillZone then ⟨.breakoutEnvironment, 1⟩
  else if isTrending ∧ c.rvolWeak ≤ m.rvol then ⟨.accumulation, 75 / 100⟩
  else if ¬ isTrending ∧ m.adx < c.adxRanging then ⟨.meanReversion, c.sizeLow⟩
  else if m.rvol < c.rvolWeak then ⟨.lowVolChop, c.sizeLow⟩
  else ⟨.meanReversion, c.sizeLow⟩

/-- With positive size scalars a context scales to zero exactly if its regime
forbids new entries. -/
theorem RegimeClassifier.sizeMultiplier_eq_zero_iff (c : RegimeClassifier) (hhigh : 0 < c.sizeHigh)
    (hlow : 0 < c.sizeLow) (m : RegimeMetrics) :
    (c.classify m).sizeMultiplier = 0 ↔ ¬ (c.classify m).allowsNewEntries := by
  have hhigh := hhigh.ne'
  have hlow := hlow.ne'
  unfold classify
  dsimp only
  by_cases hdead : m.rvol < c.rvolDead
  · simp [if_pos hdead, RegimeContext.allowsNewEntries, ExtendedRegime.allowsNewEntries]
  · rw [if_neg hdead]
    split_ifs
    all_goals simp [RegimeContext.allowsNewEntries, ExtendedRegime.allowsNewEntries, hhigh, hlow]

end CryptoTrader
