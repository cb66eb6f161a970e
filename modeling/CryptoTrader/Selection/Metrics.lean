import CryptoTrader.Backtest.Replay
import CryptoTrader.Lib.Significant
import Mathlib.Algebra.Order.BigOperators.Group.List
import Mathlib.Tactic.NormNum

/-!
# The figures of a list of trades

What the champion selector reads of `analytics/metrics.py`.  The win rate and the
profit factor come from `realized_pnl`, which is net of fees; the expectancy
averages `pnl_r`, which is not.  Every figure is rounded to four decimals.
-/

namespace CryptoTrader.Selection

open CryptoTrader.Lib CryptoTrader.Backtest

/-- `mean(values)`, and `0.0` without values. -/
def mean (values : List ℚ) : ℚ := values.sum / values.length

/-! ## The figures -/

section Figures

variable (records : List Backtest.Trade)

def pnls : List ℚ := records.map Backtest.Trade.realizedPnl

def winRate : ℚ :=
  roundPlaces 4 ((pnls records).countP (0 < ·) / (pnls records).length)

def grossWin : ℚ := ((pnls records).filter (0 < ·)).sum

def grossLoss : ℚ := -((pnls records).filter (· < 0)).sum

/-- `gross_win / gross_loss`; `None` without losses. -/
def profitFactor : Option ℚ :=
  if grossLoss records = 0 then none
  else some (roundPlaces 4 (grossWin records / grossLoss records))

/-- Mean `pnl_r` of the winning trades. -/
def avgWinR : ℚ :=
  roundPlaces 4 (mean (records.filterMap (fun r => if 0 < r.realizedPnl then r.pnlR else none)))

/-- Mean `pnl_r` of the losing trades. -/
def avgLossR : ℚ :=
  roundPlaces 4 (mean (records.filterMap (fun r => if r.realizedPnl < 0 then r.pnlR else none)))

/-- `win_rate * avg_win_r + (1 - win_rate) * avg_loss_r`. -/
def weightedR : ℚ :=
  winRate records * avgWinR records + (1 - winRate records) * avgLossR records

def expectancyR : ℚ := roundPlaces 4 (weightedR records)

end Figures

/-- `compute_metrics`, less what the selector does not read. -/
structure Metrics where
  totalTrades : ℕ
  winRate : ℚ
  avgWinR : ℚ
  avgLossR : ℚ
  expectancyR : ℚ
  profitFactor : Option ℚ
  deriving DecidableEq

def computeMetrics (records : List Backtest.Trade) : Metrics :=
  { totalTrades := records.length
    winRate := winRate records
    avgWinR := avgWinR records
    avgLossR := avgLossR records
    expectancyR := expectancyR records
    profitFactor := profitFactor records }

/-! ## What the rounded figures say -/

section Thresholds

variable {records : List Backtest.Trade}

theorem grossLoss_nonneg : 0 ≤ grossLoss records := by
  unfold grossLoss
  rw [List.sum_neg]
  apply List.sum_nonneg
  intro loss hloss
  obtain ⟨pnl, hpnl, rfl⟩ := List.mem_map.mp hloss
  have hneg : pnl < 0 := by simpa using List.of_mem_filter hpnl
  linarith

theorem profitFactor_eq_none_iff : profitFactor records = none ↔ grossLoss records = 0 := by
  simp [profitFactor]

/-- The gate on the profit factor is passed a half of the last decimal early. -/
theorem le_profitFactor_iff : (∃ pf, profitFactor records = some pf ∧ 11 / 10 ≤ pf) ↔
    grossLoss records ≠ 0 ∧ 109995 / 100000 * grossLoss records ≤ grossWin records := by
  by_cases hnone : grossLoss records = 0
  · simp [profitFactor, hnone]
  · have hpos : 0 < grossLoss records := lt_of_le_of_ne grossLoss_nonneg (Ne.symm hnone)
    have hunits : (11 / 10 : ℚ) = ((11000 : ℤ) : ℚ) / 10 ^ 4 := by norm_num
    simp only [profitFactor, hnone, if_false, Option.some.injEq, exists_eq_left', ne_eq,
      not_false_eq_true, true_and]
    rw [hunits, le_roundPlaces, le_roundHalfEven_of_even (by decide), ← le_div_iff₀ hpos]
    constructor
    · intro h
      push_cast at h
      linarith
    · intro h
      push_cast
      linarith

/-- The gate on the expectancy is passed a half of the last decimal late. -/
theorem expectancyR_pos_iff : 0 < expectancyR records ↔ 1 / 20000 < weightedR records := by
  have hunit : ∀ x : ℚ, 0 < roundPlaces 4 x ↔ ((1 : ℤ) : ℚ) / 10 ^ 4 ≤ roundPlaces 4 x := by
    intro x
    rw [le_roundPlaces]
    unfold roundPlaces
    rw [div_pos_iff_of_pos_right (by positivity), Int.cast_pos]
    exact Int.lt_iff_add_one_le
  unfold expectancyR
  rw [hunit, le_roundPlaces, le_roundHalfEven_of_odd (by decide)]
  constructor
  · intro h
    push_cast at h
    linarith
  · intro h
    push_cast
    linarith

end Thresholds

/-! ## Net of fees -/

/-- `realized_pnl` over the risk of a trade; a trade without risk has none. -/
def netR (t : Backtest.Trade) : Option ℚ :=
  if 0 < t.entry.risk then some (t.realizedPnl / t.entry.risk) else none

/-- The mean fee-net R of a list. -/
def netExpectancyR (records : List Backtest.Trade) : ℚ := mean (records.filterMap netR)

end CryptoTrader.Selection
