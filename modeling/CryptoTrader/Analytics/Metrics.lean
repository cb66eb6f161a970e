import CryptoTrader.Lib.Drawdown
import CryptoTrader.Lib.Groups
import CryptoTrader.Lib.Significant
import Mathlib.Data.List.Sort
import Mathlib.Order.WithBot
import Mathlib.Data.Int.ConditionallyCompleteOrder

/-!
# The metrics of closed trades

What `analytics/metrics.py` computes of a list of `TradeOutcomeRecord`s: the win rate,
the mean R of wins and of losses, the expectancy in R, over all and by regime, and the
drawdown.  Each figure is given the rounding of its results, which is to four decimals
in the program.
-/

namespace CryptoTrader.Analytics

open CryptoTrader.Lib

/-- `TradeOutcomeRecord`, as far as the metrics and the calibration read it. -/
structure TradeOutcomeRecord where
  realizedPnl : Option ℚ
  closedAt : Option ℤ
  pnlR : Option ℚ := none
  regime : Option String := none
  entryReason : Option String := none
  mae : Option ℚ := none
  deriving DecidableEq

/-- `mean` of `statistics`. -/
def mean (values : List ℚ) : ℚ := values.sum / values.length

/-- The rounding of the program. -/
def round4 : ℚ → ℚ := roundPlaces 4

section Figures

variable (round : ℚ → ℚ) (records : List TradeOutcomeRecord)

/-- `_pnls`. -/
def pnls : List ℚ := records.filterMap TradeOutcomeRecord.realizedPnl

/-- `win_rate`. -/
def winRate : ℚ :=
  if pnls records = [] then 0
  else round ((pnls records).countP (0 < ·) / (pnls records).length)

/-- The R of the trades whose PnL is as asked. -/
def rsWhere (p : ℚ → Bool) : List ℚ :=
  records.filterMap (fun r => if r.realizedPnl.any p then r.pnlR else none)

/-- The mean of some R values, and zero without any. -/
def roundedMean (rs : List ℚ) : ℚ := if rs = [] then 0 else round (mean rs)

/-- `avg_win_r`. -/
def avgWinR : ℚ := roundedMean round (rsWhere records (0 < ·))

/-- `avg_loss_r`. -/
def avgLossR : ℚ := roundedMean round (rsWhere records (· < 0))

/-- `expectancy_r`. -/
def expectancyR : ℚ :=
  round (winRate round records * avgWinR round records +
    (1 - winRate round records) * avgLossR round records)

/-- `(r.closed_at is None, r.closed_at or 0)`: what has no time comes last. -/
def TradeOutcomeRecord.sortKey (r : TradeOutcomeRecord) : WithTop ℤ := r.closedAt

/-- The trades in the order of their closes. -/
def ordered : List TradeOutcomeRecord :=
  (records.filter (fun r => r.realizedPnl.isSome)).insertionSort
    (fun r r' => r.sortKey ≤ r'.sortKey)

/-- `max_drawdown`. -/
def maxDrawdown : ℚ := round (drawdown (pnls (ordered records))).fall

/-- `r.regime or "unknown"`. -/
def TradeOutcomeRecord.regimeName (r : TradeOutcomeRecord) : String :=
  (r.regime.filter (· ≠ "")).getD "unknown"

/-- The trades of a regime. -/
abbrev ofRegime (regime : String) : List TradeOutcomeRecord :=
  groupOf TradeOutcomeRecord.regimeName records regime

/-- The figures of a regime. -/
structure RegimeFigures where
  winRate : ℚ
  expectancyR : ℚ
  deriving DecidableEq

/-- `per_regime_expectancy_r`. -/
def perRegimeExpectancyR : List (String × RegimeFigures) :=
  (firstSeen TradeOutcomeRecord.regimeName records).map (fun regime =>
    (regime, ⟨winRate round (ofRegime records regime), expectancyR round (ofRegime records regime)⟩))

end Figures

/-- One of `_percentiles`: the sorted values, read at a place between two of them. -/
def percentile (p : ℚ) (values : List ℚ) : ℚ :=
  if values = [] then 0
  else
    let s := values.insertionSort (· ≤ ·)
    let k : ℚ := (s.length - 1) * (p / 100)
    let lo := ⌊k⌋₊
    let hi := ⌈k⌉₊
    if lo = hi then roundPlaces 6 (s.getD lo 0)
    else roundPlaces 6 (s.getD lo 0 * (hi - k) + s.getD hi 0 * (k - lo))

/-! ## The figures before rounding -/

/-- A record with both figures, of one sign. -/
def TradeOutcomeRecord.EqualSigns (r : TradeOutcomeRecord) : Prop :=
  ∃ pnl rr, r.realizedPnl = some pnl ∧ r.pnlR = some rr ∧
    (0 < pnl ↔ 0 < rr) ∧ (pnl < 0 ↔ rr < 0)

/-- The R of a record that has one. -/
def TradeOutcomeRecord.r (r : TradeOutcomeRecord) : ℚ := r.pnlR.getD 0

/-- The number of trades that neither win nor lose. -/
def breakevens (records : List TradeOutcomeRecord) : ℕ :=
  records.countP (fun r => r.realizedPnl = some 0)

section Exact

variable {records : List TradeOutcomeRecord} {r : TradeOutcomeRecord}

theorem mul_mean (rs : List ℚ) : rs.length * roundedMean id rs = rs.sum := by
  unfold roundedMean mean
  cases rs with
  | nil => simp
  | cons x rs =>
      rw [if_neg (by simp), id_eq, mul_div_cancel₀]
      exact Nat.cast_ne_zero.mpr (by simp)

/-- The three kinds of trades make up the list, and only wins and losses have an R. -/
theorem partition (h : ∀ r ∈ records, r.EqualSigns) :
    (pnls records).length = records.length ∧
      (pnls records).countP (0 < ·) = (rsWhere records (0 < ·)).length ∧
      records.length = (rsWhere records (0 < ·)).length + (rsWhere records (· < 0)).length +
        breakevens records ∧
      (records.map TradeOutcomeRecord.r).sum =
        (rsWhere records (0 < ·)).sum + (rsWhere records (· < 0)).sum := by
  induction records with
  | nil => simp [pnls, rsWhere, breakevens]
  | cons r rest ih =>
      obtain ⟨hlength, hwins, hsplit, hsum⟩ := ih (fun s hs => h s (List.mem_cons_of_mem r hs))
      obtain ⟨pnl, rr, hpnl, hrr, hpos, hneg⟩ := h r List.mem_cons_self
      have hpnls : pnls (r :: rest) = pnl :: pnls rest := by
        unfold pnls
        rw [List.filterMap_cons, hpnl]
      have hwhere : ∀ p : ℚ → Bool, rsWhere (r :: rest) p =
          if p pnl then rr :: rsWhere rest p else rsWhere rest p := by
        intro p
        unfold rsWhere
        rw [List.filterMap_cons, hpnl, hrr]
        cases hp : p pnl <;> simp [hp]
      have hbreak : breakevens (r :: rest) = (if pnl = 0 then 1 else 0) + breakevens rest := by
        unfold breakevens
        rw [List.countP_cons, hpnl]
        simp [add_comm]
      rw [hpnls, hwhere, hwhere, hbreak]
      simp only [List.length_cons, List.countP_cons, List.map_cons, List.sum_cons, hlength,
        TradeOutcomeRecord.r, hrr, Option.getD_some]
      rcases lt_trichotomy pnl 0 with hlt | rfl | hgt
      · have hnot : ¬ 0 < pnl := not_lt.mpr hlt.le
        simp only [hlt, hnot, hlt.ne, decide_true, decide_false, if_true, if_false,
          Bool.false_eq_true, List.length_cons, List.sum_cons]
        exact ⟨trivial, by omega, by omega, by rw [hsum]; ring⟩
      · have hzero : rr = 0 :=
          le_antisymm (not_lt.mp (fun h => lt_irrefl _ (hpos.mpr h)))
            (not_lt.mp (fun h => lt_irrefl _ (hneg.mpr h)))
        simp only [lt_irrefl, decide_false, if_true, if_false, Bool.false_eq_true, hzero, zero_add]
        exact ⟨trivial, by omega, by omega, hsum⟩
      · have hnot : ¬ pnl < 0 := not_lt.mpr hgt.le
        simp only [hgt, hnot, hgt.ne', decide_true, decide_false, if_true, if_false,
          Bool.false_eq_true, List.length_cons, List.sum_cons]
        exact ⟨trivial, by omega, by omega, by rw [hsum]; ring⟩

/-- The expectancy, for all the trades: each breakeven trade brings in one more mean loss. -/
theorem length_mul_expectancyR (h : ∀ r ∈ records, r.EqualSigns) :
    records.length * expectancyR id records =
      (records.map TradeOutcomeRecord.r).sum + breakevens records * avgLossR id records := by
  obtain ⟨hlength, hwins, hsplit, hsum⟩ := partition h
  have hwin := mul_mean (rsWhere records (0 < ·))
  have hloss := mul_mean (rsWhere records (· < 0))
  by_cases hempty : records = []
  · subst hempty
    simp [breakevens]
  have hne : (records.length : ℚ) ≠ 0 :=
    Nat.cast_ne_zero.mpr (fun h => hempty (List.length_eq_zero_iff.mp h))
  have hpnls : pnls records ≠ [] := by
    intro hnil
    rw [hnil] at hlength
    exact hempty (List.length_eq_zero_iff.mp hlength.symm)
  have hrate : records.length * winRate id records = (rsWhere records (0 < ·)).length := by
    unfold winRate
    rw [if_neg hpnls, hwins, hlength, id_eq, mul_div_cancel₀ _ hne]
  have hcount : (records.length : ℚ) = (rsWhere records (0 < ·)).length +
      (rsWhere records (· < 0)).length + breakevens records := by
    exact_mod_cast hsplit
  calc records.length * expectancyR id records
      = records.length * winRate id records * avgWinR id records +
          (records.length - records.length * winRate id records) * avgLossR id records := by
        unfold expectancyR
        rw [id_eq]
        ring
    _ = (rsWhere records (0 < ·)).length * avgWinR id records +
          ((rsWhere records (· < 0)).length + breakevens records) * avgLossR id records := by
        rw [hrate, hcount]
        ring
    _ = (records.map TradeOutcomeRecord.r).sum + breakevens records * avgLossR id records := by
        rw [hsum, ← hwin, ← hloss]
        unfold avgWinR avgLossR
        ring

/-- A mean loss is a loss. -/
theorem avgLossR_neg (h : ∀ r ∈ records, r.EqualSigns)
    (hloss : ∃ r ∈ records, ∃ pnl ∈ r.realizedPnl, pnl < 0) : avgLossR id records < 0 := by
  have hneg : ∀ x ∈ rsWhere records (· < 0), x < 0 := by
    intro x hx
    obtain ⟨r, hr, hsome⟩ := List.mem_filterMap.mp hx
    obtain ⟨pnl, rr, hpnl, hrr, -, hsign⟩ := h r hr
    rw [hpnl, hrr] at hsome
    by_cases hlt : pnl < 0
    · have heq : rr = x := by simpa [hlt] using hsome
      exact heq ▸ hsign.mp hlt
    · simp [hlt] at hsome
  have hne : rsWhere records (· < 0) ≠ [] := by
    obtain ⟨r, hr, pnl, hpnl, hlt⟩ := hloss
    obtain ⟨pnl', rr, hpnl', hrr, -, -⟩ := h r hr
    have hmem : rr ∈ rsWhere records (· < 0) := by
      refine List.mem_filterMap.mpr ⟨r, hr, ?_⟩
      rw [Option.mem_def.mp hpnl, hrr]
      simp [hlt]
    exact List.ne_nil_of_mem hmem
  unfold avgLossR roundedMean
  rw [if_neg hne]
  unfold mean
  refine div_neg_of_neg_of_pos ?_ (Nat.cast_pos.mpr (List.length_pos_iff.mpr hne))
  rw [← neg_pos, List.sum_neg]
  refine List.sum_pos _ (fun y hy => ?_) (by simpa using hne)
  obtain ⟨x, hx, rfl⟩ := List.mem_map.mp hy
  exact neg_pos.mpr (hneg x hx)

/-- What breakeven trades bring in is nothing only without them, or without a loss. -/
theorem breakevens_mul_eq_zero (h : ∀ r ∈ records, r.EqualSigns) :
    breakevens records * avgLossR id records = 0 ↔
      breakevens records = 0 ∨ ∀ r ∈ records, ∀ pnl ∈ r.realizedPnl, ¬ pnl < 0 := by
  rw [mul_eq_zero, Nat.cast_eq_zero]
  refine or_congr_right ⟨fun hzero r hr pnl hpnl hlt => ?_, fun hnone => ?_⟩
  · exact (avgLossR_neg h ⟨r, hr, pnl, hpnl, hlt⟩).ne hzero
  · have hnil : rsWhere records (· < 0) = [] := by
      refine List.filterMap_eq_nil_iff.mpr (fun r hr => if_neg ?_)
      intro hany
      obtain ⟨pnl, hpnl, hlt⟩ := Option.any_eq_true _ _ |>.mp hany
      exact hnone r hr pnl hpnl (of_decide_eq_true hlt)
    unfold avgLossR
    rw [hnil]
    rfl

/-- Trades that close at different times are put in one order, however they are listed. -/
theorem ordered_eq_of_perm {records' : List TradeOutcomeRecord} (hperm : records'.Perm records)
    (hnodup : (records.map TradeOutcomeRecord.closedAt).Nodup) :
    ordered records' = ordered records := by
  have hsame : (ordered records').Perm (ordered records) :=
    (List.perm_insertionSort _ _).trans
      ((hperm.filter _).trans (List.perm_insertionSort _ _).symm)
  refine hsame.eq_of_pairwise (fun r r' hr hr' hle hge => ?_)
    (List.pairwise_insertionSort _ _) (List.pairwise_insertionSort _ _)
  have hmem : ∀ {s}, s ∈ ordered records → s ∈ records := fun hs =>
    List.mem_of_mem_filter ((List.mem_insertionSort _).mp hs)
  exact List.inj_on_of_nodup_map hnodup (hmem (hsame.mem_iff.mp hr)) (hmem hr')
    (le_antisymm (α := WithTop ℤ) hle hge)

/-- The counts of the regimes weigh their expectancies. -/
theorem sum_regimes (h : ∀ r ∈ records, r.EqualSigns) :
    ((perRegimeExpectancyR id records).map (fun kv =>
      ((ofRegime records kv.1).length : ℚ) * kv.2.expectancyR)).sum =
      (records.map TradeOutcomeRecord.r).sum +
        ((firstSeen TradeOutcomeRecord.regimeName records).map (fun regime =>
          (breakevens (ofRegime records regime) : ℚ) * avgLossR id (ofRegime records regime))).sum := by
  have hcover : ∀ r ∈ records,
      r.regimeName ∈ firstSeen TradeOutcomeRecord.regimeName records := by
    intro r hr
    exact mem_firstSeen.mpr ⟨r, hr, rfl⟩
  unfold perRegimeExpectancyR
  rw [List.map_map, ← sum_groups nodup_firstSeen hcover TradeOutcomeRecord.r, ← List.sum_map_add]
  refine congrArg List.sum (List.map_congr_left (fun regime _ => ?_))
  exact length_mul_expectancyR (fun r hr => h r (mem_groupOf.mp hr).1)

/-- The figures as they are meant: the expectancy is the mean R, those of the regimes
average to it by their counts, and the drawdown is the largest fall of the running PnL,
in whatever order the trades are supplied. -/
structure ExactFigures (records : List TradeOutcomeRecord) : Prop where
  mean : expectancyR id records = mean (records.map TradeOutcomeRecord.r)
  regimes : ((perRegimeExpectancyR id records).map (fun kv =>
    ((ofRegime records kv.1).length : ℚ) * kv.2.expectancyR)).sum / records.length =
      expectancyR id records
  drawdown : IsGreatest {d | ∃ i j, i ≤ j ∧ j ≤ (pnls (ordered records)).length ∧
    d = runningSum (pnls (ordered records)) i - runningSum (pnls (ordered records)) j}
      (maxDrawdown id records)
  order : (records.map TradeOutcomeRecord.closedAt).Nodup →
    ∀ records', records'.Perm records → maxDrawdown id records' = maxDrawdown id records

/-- The figures are exact only for trades none of which breaks even, or none of which
loses: a breakeven trade is counted among the losses, at their mean. -/
theorem exactFigures_iff (h : ∀ r ∈ records, r.EqualSigns) :
    ExactFigures records ↔ (∀ r ∈ records, r.realizedPnl ≠ some 0) ∨
      ∀ r ∈ records, ∀ pnl ∈ r.realizedPnl, ¬ pnl < 0 := by
  have hzero : ∀ l : List TradeOutcomeRecord,
      breakevens l = 0 ↔ ∀ r ∈ l, r.realizedPnl ≠ some 0 := by
    intro l
    simp [breakevens, List.countP_eq_zero]
  rw [← hzero, ← breakevens_mul_eq_zero h]
  by_cases hempty : records = []
  · subst hempty
    refine iff_of_true ⟨by decide +kernel, by decide +kernel, drawdown_fall, fun _ l hl => ?_⟩
      (by decide +kernel)
    rw [List.perm_nil.mp hl]
  have hne : (records.length : ℚ) ≠ 0 :=
    Nat.cast_ne_zero.mpr (fun h => hempty (List.length_eq_zero_iff.mp h))
  constructor
  · intro hexact
    have hmean := hexact.mean
    have hall := length_mul_expectancyR h
    unfold Analytics.mean at hmean
    rw [hmean, List.length_map, mul_div_cancel₀ _ hne] at hall
    exact (left_eq_add.mp hall)
  · intro hnone
    have hall := length_mul_expectancyR h
    rw [hnone, add_zero] at hall
    refine ⟨?_, ?_, drawdown_fall, fun hnodup records' hperm => ?_⟩
    · unfold Analytics.mean
      rw [List.length_map, ← hall, mul_div_cancel_left₀ _ hne]
    · have hregimes : ∀ regime, (breakevens (ofRegime records regime) : ℚ) *
          avgLossR id (ofRegime records regime) = 0 := by
        intro regime
        rw [breakevens_mul_eq_zero (fun r hr => h r (mem_groupOf.mp hr).1), hzero]
        rw [breakevens_mul_eq_zero h, hzero] at hnone
        exact hnone.imp (fun hb r hr => hb r (mem_groupOf.mp hr).1)
          (fun hl r hr => hl r (mem_groupOf.mp hr).1)
      rw [sum_regimes h, ← hall]
      simp only [hregimes, List.map_const', List.sum_replicate, nsmul_zero, add_zero]
      exact mul_div_cancel_left₀ _ hne
    · unfold maxDrawdown
      rw [ordered_eq_of_perm hperm hnodup]

/-- A win of two R, a loss of one, and a breakeven trade. -/
def winLossEven : List TradeOutcomeRecord :=
  [{ realizedPnl := some 20, closedAt := some 1, pnlR := some 2 },
    { realizedPnl := some (-10), closedAt := some 2, pnlR := some (-1) },
    { realizedPnl := some 0, closedAt := some 3, pnlR := some 0 }]

/-- The mean R is a third, and the expectancy is zero. -/
theorem winLossEven_inexact :
    ¬ ∀ records : List TradeOutcomeRecord, (∀ r ∈ records, r.EqualSigns) → ExactFigures records := by
  intro h
  have hsigns : ∀ r ∈ winLossEven, r.EqualSigns := by
    intro r hr
    simp only [winLossEven, List.mem_cons, List.not_mem_nil, or_false] at hr
    rcases hr with rfl | rfl | rfl
    · exact ⟨_, _, rfl, rfl, by norm_num, by norm_num⟩
    · exact ⟨_, _, rfl, rfl, by norm_num, by norm_num⟩
    · exact ⟨_, _, rfl, rfl, by norm_num, by norm_num⟩
  exact absurd (h winLossEven hsigns).mean (by decide +kernel)

theorem exactFigures_iff_winLossEven :
    ExactFigures (winLossEven.take 2) ↔
      (∀ r ∈ winLossEven.take 2, r.realizedPnl ≠ some 0) ∨
        ∀ r ∈ winLossEven.take 2, ∀ pnl ∈ r.realizedPnl, ¬ pnl < 0 := by
  refine exactFigures_iff (fun r hr => ?_)
  simp only [winLossEven, List.take_succ_cons, List.take_zero, List.mem_cons,
    List.not_mem_nil, or_false] at hr
  rcases hr with rfl | rfl
  · exact ⟨_, _, rfl, rfl, by norm_num, by norm_num⟩
  · exact ⟨_, _, rfl, rfl, by norm_num, by norm_num⟩

end Exact

end CryptoTrader.Analytics
