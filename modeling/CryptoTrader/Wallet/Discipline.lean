import CryptoTrader.Wallet.Terms
import Mathlib.Tactic.Linarith
import Mathlib.Tactic.Ring

/-!
# The limits of a position per unit

The margin of a marked position and its PnL both scale with the quantity.  So
what `update_positions` tests before it looks at the playbook limits the mark
alone, and still does when part of the position is closed.
-/

namespace CryptoTrader

open CryptoTrader.Lib

/-- The move of the price in favour of a position, as a share of its entry. -/
def EnhancedPosition.movePct (pos : EnhancedPosition) (markPrice : Decimal) : Decimal :=
  pos.side.gain pos.entryPrice markPrice / pos.entryPrice

/-- The best move once one more was seen. -/
def bestMove (best : Option Decimal) (move : Decimal) : Option Decimal :=
  match best with
  | none => some move
  | some b => some (max b move)

/-- At the mark the position is not liquidatable, its PnL is above the
catastrophic limit and its margin return below 40%. -/
structure Wallet.WithinLimits (w : Wallet) (rules : ExitRules) (pos : EnhancedPosition)
    (markPrice : Decimal) : Prop where
  solvent : w.isLiquidationRequired pos markPrice = false
  loss : (pos.updatePnl markPrice).marginUsed * rules.catastrophicSlPct <
    (pos.updatePnl markPrice).unrealizedPnl
  windfall : (pos.updatePnl markPrice).currentMarginPnlPct < 40 / 100

/-- The same of one unit. -/
structure PositionTerms.WithinLimits (t : PositionTerms) (rules : ExitRules) (ratio : Decimal)
    (markPrice : Decimal) : Prop where
  solvent : markPrice * ratio ≤
    markPrice / (t.leverage : ℕ) + t.side.gain t.entryPrice markPrice
  loss : markPrice / (t.leverage : ℕ) * rules.catastrophicSlPct <
    t.side.gain t.entryPrice markPrice
  windfall : t.side.gain t.entryPrice markPrice < 40 / 100 * (markPrice / (t.leverage : ℕ))

/-- One unit has not fallen from the peak. -/
def PositionTerms.HoldsPeak (t : PositionTerms) (markPrice : Decimal) : Prop :=
  2 / 100 ≤ t.peakPnlPct →
    75 / 100 * t.side.gain t.entryPrice t.highestPrice < t.side.gain t.entryPrice markPrice

/-- The best price and the peak are as good as the best move seen. -/
structure PositionTerms.Remembers (t : PositionTerms) (best : Option Decimal) : Prop where
  entryPrice : 0 < t.entryPrice
  peak : ∀ b, best = some b → b ≤ t.peakPnlPct
  highest : ∀ b, best = some b → b * t.entryPrice ≤ t.side.gain t.entryPrice t.highestPrice

section Marked

variable {pos : EnhancedPosition} {markPrice : Decimal} (hopen : pos.status = .opened)
  (hmark : 0 < markPrice)
include hopen hmark

/-- A mark takes effect on an open position. -/
theorem EnhancedPosition.updatePnl_takes : ¬ (pos.status ≠ .opened ∨ markPrice ≤ 0) := by
  rintro (h | h)
  · exact h hopen
  · exact absurd hmark (not_lt.mpr h)

theorem EnhancedPosition.notional_updatePnl :
    (pos.updatePnl markPrice).notional = markPrice * pos.remainingQuantity := by
  rw [updatePnl, if_neg (updatePnl_takes hopen hmark)]
  exact mul_comm _ _

theorem EnhancedPosition.marginUsed_updatePnl :
    (pos.updatePnl markPrice).marginUsed =
      markPrice / (pos.leverage : ℕ) * pos.remainingQuantity := by
  rw [updatePnl, if_neg (updatePnl_takes hopen hmark)]
  dsimp only
  ring

/-- The best price is as good as the mark and as it was. -/
theorem EnhancedPosition.gain_highestPrice_updatePnl :
    pos.side.gain pos.entryPrice (pos.updatePnl markPrice).highestPrice =
      max (pos.side.gain pos.entryPrice pos.highestPrice)
        (pos.side.gain pos.entryPrice markPrice) := by
  rw [updatePnl, if_neg (updatePnl_takes hopen hmark)]
  dsimp only
  unfold PositionSide.gain
  cases pos.side with
  | long =>
      dsimp only
      split
      · rw [max_eq_right (by linarith)]
      · rw [max_eq_left (by linarith)]
  | short =>
      dsimp only
      split
      · rw [max_eq_right (by linarith)]
      · rw [max_eq_left (by linarith)]

/-- The peak counts the mark when there is something to count it for. -/
theorem EnhancedPosition.peakPnlPct_updatePnl (hentry : 0 < pos.entryPrice)
    (hquantity : 0 < pos.remainingQuantity) :
    (pos.updatePnl markPrice).peakPnlPct = max pos.peakPnlPct (pos.movePct markPrice) := by
  rw [updatePnl, if_neg (updatePnl_takes hopen hmark)]
  dsimp only
  have hmove : pos.side.gain pos.entryPrice markPrice * pos.remainingQuantity /
      (pos.entryPrice * pos.remainingQuantity) = pos.movePct markPrice :=
    mul_div_mul_right _ _ hquantity.ne'
  rw [hmove]
  by_cases hbetter : pos.movePct markPrice > pos.peakPnlPct
  · rw [if_pos ⟨hentry, hquantity, hbetter⟩, max_eq_right hbetter.le]
  · rw [if_neg (fun h => hbetter h.2.2), max_eq_left (not_lt.mp hbetter)]

/-- A mark is remembered. -/
theorem EnhancedPosition.remembers_updatePnl {best : Option Decimal}
    (h : pos.terms.Remembers best) (hquantity : 0 < pos.remainingQuantity) :
    (pos.updatePnl markPrice).terms.Remembers (bestMove best (pos.movePct markPrice)) := by
  obtain ⟨-, hside, hentry, -⟩ := pos.updatePnl_frame markPrice
  have hpeak := peakPnlPct_updatePnl hopen hmark h.entryPrice hquantity
  have hhighest := gain_highestPrice_updatePnl hopen hmark
  have hmove : pos.movePct markPrice * pos.entryPrice = pos.side.gain pos.entryPrice markPrice :=
    div_mul_cancel₀ _ h.entryPrice.ne'
  refine ⟨?_, fun b hb => ?_, fun b hb => ?_⟩
  · show 0 < (pos.updatePnl markPrice).entryPrice
    rw [hentry]
    exact h.entryPrice
  · show b ≤ (pos.updatePnl markPrice).peakPnlPct
    rw [hpeak]
    cases best with
    | none =>
        obtain rfl := Option.some.inj hb
        exact le_max_right _ _
    | some b' =>
        obtain rfl := Option.some.inj hb
        exact max_le_max_right _ (h.peak b' rfl)
  · show b * (pos.updatePnl markPrice).entryPrice ≤ (pos.updatePnl markPrice).side.gain
      (pos.updatePnl markPrice).entryPrice (pos.updatePnl markPrice).highestPrice
    rw [hside, hentry, hhighest, ← hmove]
    cases best with
    | none =>
        obtain rfl := Option.some.inj hb
        exact le_max_right _ _
    | some b' =>
        obtain rfl := Option.some.inj hb
        have hentry : 0 ≤ pos.entryPrice := h.entryPrice.le
        rw [max_mul_of_nonneg _ _ hentry]
        exact max_le_max_right _ (h.highest b' rfl)

/-- The limits are limits on one unit, and nothing is within them. -/
theorem Wallet.withinLimits_iff (w : Wallet) (rules : ExitRules)
    (hquantity : 0 ≤ pos.remainingQuantity) :
    w.WithinLimits rules pos markPrice ↔
      0 < pos.remainingQuantity ∧
        pos.terms.WithinLimits rules w.maintenanceMarginRatio markPrice := by
  have hpnl := pos.updatePnl_unrealizedPnl markPrice hopen hmark
  have hmargin := EnhancedPosition.marginUsed_updatePnl hopen hmark
  have hnotional := EnhancedPosition.notional_updatePnl hopen hmark
  have hunit : 0 < markPrice / (pos.leverage : ℕ) :=
    div_pos hmark (by exact_mod_cast pos.leverage.pos)
  have hliquidation : w.isLiquidationRequired pos markPrice = false ↔
      markPrice * w.maintenanceMarginRatio * pos.remainingQuantity ≤
        (markPrice / (pos.leverage : ℕ) + pos.side.gain pos.entryPrice markPrice) *
          pos.remainingQuantity := by
    unfold Wallet.isLiquidationRequired
    rw [decide_eq_false_iff_not, not_lt, hpnl, hmargin, hnotional, ← add_mul, mul_right_comm]
  rcases hquantity.eq_or_lt with hzero | hpos
  · -- of nothing there is neither PnL nor margin
    constructor
    · intro h
      have hloss := h.loss
      rw [hpnl, hmargin, ← hzero, mul_zero, mul_zero, zero_mul] at hloss
      exact absurd hloss (lt_irrefl 0)
    · intro h
      exact absurd hzero h.1.ne
  · have hloss : (pos.updatePnl markPrice).marginUsed * rules.catastrophicSlPct <
          (pos.updatePnl markPrice).unrealizedPnl ↔
        markPrice / (pos.leverage : ℕ) * rules.catastrophicSlPct <
          pos.side.gain pos.entryPrice markPrice := by
      rw [hpnl, hmargin, mul_right_comm]
      exact mul_lt_mul_iff_of_pos_right hpos
    have hwindfall : (pos.updatePnl markPrice).currentMarginPnlPct < 40 / 100 ↔
        pos.side.gain pos.entryPrice markPrice < 40 / 100 * (markPrice / (pos.leverage : ℕ)) := by
      unfold EnhancedPosition.currentMarginPnlPct
      rw [hmargin, if_neg (mul_pos hunit hpos).ne', hpnl, mul_div_mul_right _ _ hpos.ne',
        div_lt_iff₀ hunit]
    constructor
    · intro h
      refine ⟨hpos, ?_, hloss.mp h.loss, hwindfall.mp h.windfall⟩
      exact le_of_mul_le_mul_right (hliquidation.mp h.solvent) hpos
    · intro h
      refine ⟨hliquidation.mpr ?_, hloss.mpr h.2.loss, hwindfall.mpr h.2.windfall⟩
      exact mul_le_mul_of_nonneg_right h.2.solvent hpos.le

/-- So is the test of the peak. -/
theorem EnhancedPosition.fallsFromPeak_updatePnl (hquantity : 0 < pos.remainingQuantity) :
    (pos.updatePnl markPrice).fallsFromPeak = false ↔
      (pos.updatePnl markPrice).terms.HoldsPeak markPrice := by
  obtain ⟨-, hside, hentry, hrest, -⟩ := pos.updatePnl_frame markPrice
  have hpnl := pos.updatePnl_unrealizedPnl markPrice hopen hmark
  have htest : (pos.updatePnl markPrice).fallsFromPeak = true ↔
      2 / 100 ≤ (pos.updatePnl markPrice).peakPnlPct ∧
        pos.side.gain pos.entryPrice markPrice * pos.remainingQuantity ≤
          75 / 100 * pos.side.gain pos.entryPrice (pos.updatePnl markPrice).highestPrice *
            pos.remainingQuantity := by
    unfold fallsFromPeak
    rw [Bool.and_eq_true, decide_eq_true_eq, decide_eq_true_eq, hpnl, hside, hentry, hrest]
    rw [mul_comm (75 / 100 : Decimal), mul_right_comm]
  rw [← Bool.not_eq_true, htest, mul_le_mul_iff_of_pos_right hquantity]
  unfold PositionTerms.HoldsPeak
  show _ ↔ (2 / 100 ≤ (pos.updatePnl markPrice).peakPnlPct →
    75 / 100 * (pos.updatePnl markPrice).side.gain (pos.updatePnl markPrice).entryPrice
        (pos.updatePnl markPrice).highestPrice <
      (pos.updatePnl markPrice).side.gain (pos.updatePnl markPrice).entryPrice markPrice)
  rw [hside, hentry, not_and, not_le]

end Marked

/-- What was seen has not been given back by a quarter. -/
theorem PositionTerms.HoldsPeak.move {t : PositionTerms} {best : Option Decimal}
    {markPrice : Decimal} (h : t.HoldsPeak markPrice) (hbest : t.Remembers best) {b : Decimal}
    (hb : best = some b) (hrisen : 2 / 100 ≤ b) :
    75 / 100 * b < t.side.gain t.entryPrice markPrice / t.entryPrice := by
  rw [lt_div_iff₀ hbest.entryPrice, mul_assoc]
  refine lt_of_le_of_lt ?_ (h (hrisen.trans (hbest.peak b hb)))
  exact mul_le_mul_of_nonneg_left (hbest.highest b hb) (by norm_num)

/-! ## What no exit says -/

/-- A position marked twice is marked once. -/
theorem EnhancedPosition.updatePnl_updatePnl (pos : EnhancedPosition) (markPrice : Decimal) :
    (pos.updatePnl markPrice).updatePnl markPrice = pos.updatePnl markPrice := by
  by_cases htakes : pos.status ≠ .opened ∨ markPrice ≤ 0
  · have hsame : pos.updatePnl markPrice = pos := if_pos htakes
    rw [hsame, hsame]
  · unfold updatePnl
    simp only [if_neg htakes]
    obtain ⟨_, side, _⟩ := pos
    cases side <;> grind

/-- A mark that none of the exits that return at once takes is within the limits. -/
theorem Wallet.withinLimits_of_forcedExit {w : Wallet} {rules : ExitRules}
    {pos : EnhancedPosition} {u : MarkUpdate}
    (h : w.forcedExit rules (pos.updatePnl u.markPrice) u = none) :
    w.WithinLimits rules pos u.markPrice ∧ (pos.updatePnl u.markPrice).fallsFromPeak = false := by
  unfold Wallet.forcedExit at h
  dsimp only at h
  split_ifs at h with hliquidation hloss hwindfall hpeak
  refine ⟨⟨?_, not_le.mp hloss, not_le.mp hwindfall⟩, Bool.not_eq_true _ ▸ hpeak⟩
  rw [Bool.not_eq_true] at hliquidation
  unfold Wallet.isLiquidationRequired at hliquidation ⊢
  rw [EnhancedPosition.updatePnl_updatePnl] at hliquidation
  exact hliquidation

/-- A mark that the playbook lets pass has not gone through the stop. -/
theorem Wallet.clears_of_playbookExit {w : Wallet} {rules : ExitRules}
    {pos : EnhancedPosition} {u : MarkUpdate} (h : w.playbookExit rules pos u = none) :
    pos.side.stopsAt u.markPrice (w.softwareSlLevel rules pos) = false := by
  have hstop : w.stopExit rules pos u = none := by
    unfold Wallet.playbookExit at h
    cases hplaybook : pos.playbook with
    | intraday =>
        rw [hplaybook] at h
        dsimp only at h
        unfold Wallet.intradayExit at h
        dsimp only at h
        split at h
        · cases h
        · exact (Option.or_eq_none_iff.mp h).1
    | swing =>
        rw [hplaybook] at h
        dsimp only at h
        unfold Wallet.swingExit at h
        split at h
        · cases h
        · exact (Option.or_eq_none_iff.mp (Option.or_eq_none_iff.mp h).1).1
  unfold Wallet.stopExit at hstop
  split at hstop
  · cases hstop
  · next hclear => exact Bool.not_eq_true _ ▸ hclear

/-- A target that is taken is one of the position's, and reached. -/
theorem Wallet.target_of_playbookExit {w : Wallet} {rules : ExitRules}
    {pos : EnhancedPosition} {u : MarkUpdate} {tp : TpLevel}
    (h : w.playbookExit rules pos u = some (.takeProfit tp)) :
    tp ∈ pos.tpLevels ∧ pos.side.reaches u.markPrice tp.price = true := by
  have hstop : w.stopExit rules pos u ≠ some (.takeProfit tp) := by
    unfold Wallet.stopExit
    split <;> simp
  have htime : pos.timeExit u ≠ some (.takeProfit tp) := by
    unfold EnhancedPosition.timeExit
    dsimp only
    split <;> simp
  have htrail : pos.trailExit u ≠ some (.takeProfit tp) := by
    unfold EnhancedPosition.trailExit
    dsimp only
    split
    · split <;> simp
    · simp
  unfold Wallet.playbookExit at h
  cases hplaybook : pos.playbook with
  | intraday =>
      rw [hplaybook] at h
      dsimp only at h
      unfold Wallet.intradayExit at h
      dsimp only at h
      split at h
      · cases h
      · rw [Option.or_eq_some_iff] at h
        simp [hstop, htime] at h
  | swing =>
      rw [hplaybook] at h
      dsimp only at h
      unfold Wallet.swingExit at h
      split at h
      · next tp' hfind =>
          obtain rfl : tp' = tp := by simpa using h
          have hreached := List.find?_some hfind
          rw [Bool.and_eq_true] at hreached
          exact ⟨List.mem_of_find?_eq_some hfind, hreached.2⟩
      · rw [Option.or_eq_some_iff, Option.or_eq_some_iff] at h
        simp [hstop, htime, htrail] at h

end CryptoTrader
