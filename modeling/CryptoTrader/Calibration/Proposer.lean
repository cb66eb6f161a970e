import CryptoTrader.Analytics.Metrics
import CryptoTrader.Lib.FixedPoint
import CryptoTrader.Lib.Settling
import Mathlib.Data.List.MinMax

/-!
# Calibration proposals

`calibration/proposer.py`: from closed trades each lever's rule may ask for another
value of its parameter.  The value is clamped to the range of the parameter, to one
step from the current value, to the range again, and rounded to six decimals.
-/

namespace CryptoTrader.Calibration

open CryptoTrader.Analytics CryptoTrader.Lib

/-- The levers. -/
inductive Param where
  | riskPerTradePct
  | regimeSizeMultiplierHigh
  | regimeSizeMultiplierLow
  | st2SlAtrMult
  | mrEntryBand
  deriving DecidableEq

/-- `(min, max, max_step_per_run)`. -/
structure Bounds where
  lo : ℚ
  hi : ℚ
  step : ℚ
  lo_le_hi : lo ≤ hi
  step_nonneg : 0 ≤ step

/-- `DEFAULT_BOUNDS`. -/
def defaultBounds : Param → Bounds
  | .riskPerTradePct => ⟨25 / 10000, 2 / 100, 25 / 10000, by norm_num, by norm_num⟩
  | .regimeSizeMultiplierHigh => ⟨1, 15 / 10, 1 / 10, by norm_num, by norm_num⟩
  | .regimeSizeMultiplierLow => ⟨25 / 100, 1, 1 / 10, by norm_num, by norm_num⟩
  | .st2SlAtrMult => ⟨15 / 10, 4, 25 / 100, by norm_num, by norm_num⟩
  | .mrEntryBand => ⟨5 / 1000, 3 / 100, 25 / 10000, by norm_num, by norm_num⟩

/-- `MIN_TRADES`. -/
def minTrades : ℕ := 20

/-- `MIN_REGIME_TRADES`. -/
def minRegimeTrades : ℕ := 10

/-- The numbers that a proposal's rationale quotes. -/
inductive Rationale where
  | halfKelly (targetFrac winRate r : ℚ)
  | bestRegime (regime : String) (expectancyR : ℚ)
  | worstRegime (regime : String) (expectancyR : ℚ)
  | st2Mae (p75 : ℚ)
  | mrWinRate (winRate : ℚ)
  deriving DecidableEq

structure Proposal where
  param : Param
  current : ℚ
  proposed : ℚ
  rationale : Rationale
  nTrades : ℕ
  trainMetric : ℚ
  deriving DecidableEq

section ClampStep

variable (current target : ℚ) (bounds : Bounds)

/-- `_clamp_step`, before its last line. -/
def confine : ℚ :=
  let target := max bounds.lo (min bounds.hi target)
  let target :=
    if current + bounds.step < target then current + bounds.step
    else if target < current - bounds.step then current - bounds.step
    else target
  max bounds.lo (min bounds.hi target)

/-- `_clamp_step`. -/
def clampStep : ℚ := roundPlaces 6 (confine current target bounds)

end ClampStep

/-! ## The levers -/

/-- What the rule of a lever asks for, before any clamp. -/
structure Ask where
  target : ℚ
  rationale : Rationale
  nTrades : ℕ
  trainMetric : ℚ

/-- The end of every lever: clamp, and propose what differs. -/
def settle (param : Param) (current : ℚ) (bounds : Bounds) (ask : Ask) : Option Proposal :=
  let proposed := clampStep current ask.target bounds
  if proposed = current then none
  else some ⟨param, current, proposed, ask.rationale, ask.nTrades, ask.trainMetric⟩

section Levers

variable (records : List TradeOutcomeRecord) (current : ℚ) (bounds : Bounds)

/-- The rule of `_propose_risk_per_trade`: half of the Kelly fraction. -/
def askRiskPerTrade : Option Ask :=
  if records.length < minTrades then none
  else
    let wr := winRate round4 records
    let awr := avgWinR round4 records
    let alr := |avgLossR round4 records|
    if awr ≤ 0 ∨ alr ≤ 0 then none
    else
      let r := awr / alr
      let kelly := wr - (1 - wr) / r
      let targetFrac := max 0 kelly * (1 / 2)
      let target :=
        if 0 < targetFrac then current * (1 + (targetFrac - 1 / 2)) else current * (1 / 2)
      some ⟨target, .halfKelly targetFrac wr r, records.length,
        roundPlaces 4 (expectancyR round4 records)⟩

def proposeRiskPerTrade : Option Proposal :=
  (askRiskPerTrade records current).bind (settle .riskPerTradePct current bounds)

/-- The regimes with enough trades, and their figures. -/
def eligible : List (String × RegimeFigures) :=
  (perRegimeExpectancyR round4 records).filter
    (fun kv => minRegimeTrades ≤ (ofRegime records kv.1).length)

/-- The rule for the high multiplier: the best regime is strongly positive. -/
def askRegimeHigh : Option Ask :=
  ((eligible records).argmax (fun kv => kv.2.expectancyR)).bind (fun best =>
    if 1 / 10 < best.2.expectancyR then
      some ⟨current + bounds.step, .bestRegime best.1 best.2.expectancyR,
        (ofRegime records best.1).length, roundPlaces 4 best.2.expectancyR⟩
    else none)

/-- The rule for the low multiplier: the worst regime is negative. -/
def askRegimeLow : Option Ask :=
  ((eligible records).argmin (fun kv => kv.2.expectancyR)).bind (fun worst =>
    if worst.2.expectancyR < 0 then
      some ⟨current - bounds.step, .worstRegime worst.1 worst.2.expectancyR,
        (ofRegime records worst.1).length, roundPlaces 4 worst.2.expectancyR⟩
    else none)

def proposeRegimeMultipliers (currentHigh currentLow : ℚ) (boundsHigh boundsLow : Bounds) :
    List Proposal :=
  ((askRegimeHigh records currentHigh boundsHigh).bind
    (settle .regimeSizeMultiplierHigh currentHigh boundsHigh)).toList ++
  ((askRegimeLow records currentLow boundsLow).bind
    (settle .regimeSizeMultiplierLow currentLow boundsLow)).toList

/-- The rule of `_propose_sl_atr_mult`: the adverse excursion is deep, or shallow. -/
def askSlAtrMult : Option Ask :=
  let st2 := records.filter (fun r => "supertrend".toList.isPrefixOf (r.entryReason.getD "").toList)
  if st2.length < minTrades then none
  else
    let maes := st2.filterMap TradeOutcomeRecord.mae
    if maes = [] then none
    else
      let p75 := percentile 75 maes
      let ask := fun target => some
        ⟨target, .st2Mae p75, st2.length, roundPlaces 4 (expectancyR round4 st2)⟩
      if 2 / 100 < |p75| then ask (current + bounds.step)
      else if |p75| < 5 / 1000 then ask (current - bounds.step)
      else none

def proposeSlAtrMult : Option Proposal :=
  (askSlAtrMult records current bounds).bind (settle .st2SlAtrMult current bounds)

/-- The rule of `_propose_mr_band`: a poor win rate. -/
def askMrBand : Option Ask :=
  let mr := records.filter (fun r => r.entryReason.getD "" = "mean_reversion")
  if mr.length < minTrades then none
  else
    let wr := winRate round4 mr
    if wr < 4 / 10 then
      some ⟨current + bounds.step, .mrWinRate wr, mr.length,
        roundPlaces 4 (expectancyR round4 mr)⟩
    else none

def proposeMrBand : Option Proposal :=
  (askMrBand records current bounds).bind (settle .mrEntryBand current bounds)

end Levers

/-- The defaults of `current_params.get`. -/
def defaultParams : Param → ℚ
  | .riskPerTradePct => 5 / 1000
  | .regimeSizeMultiplierHigh => 125 / 100
  | .regimeSizeMultiplierLow => 5 / 10
  | .st2SlAtrMult => 25 / 10
  | .mrEntryBand => 15 / 1000

/-- `current_params.get`. -/
def value (currentParams : Param → Option ℚ) (param : Param) : ℚ :=
  (currentParams param).getD (defaultParams param)

section Propose

variable (records : List TradeOutcomeRecord) (bounds : Option (Param → Bounds))
variable (currentParams : Param → Option ℚ)

/-- `bounds or DEFAULT_BOUNDS`. -/
def table (bounds : Option (Param → Bounds)) : Param → Bounds := bounds.getD defaultBounds

def propose : List Proposal :=
  let b := table bounds
  let c := value currentParams
  (proposeRiskPerTrade records (c .riskPerTradePct) (b .riskPerTradePct)).toList ++
  proposeRegimeMultipliers records (c .regimeSizeMultiplierHigh) (c .regimeSizeMultiplierLow)
    (b .regimeSizeMultiplierHigh) (b .regimeSizeMultiplierLow) ++
  (proposeSlAtrMult records (c .st2SlAtrMult) (b .st2SlAtrMult)).toList ++
  (proposeMrBand records (c .mrEntryBand) (b .mrEntryBand)).toList

/-- The parameters after the proposals are approved. -/
def approve (proposals : List Proposal) : Param → Option ℚ := fun param =>
  ((proposals.find? (fun p => p.param = param)).map Proposal.proposed).or (currentParams param)

/-- The parameters after so many approvals of what the records propose. -/
def approved (n : ℕ) : Param → Option ℚ :=
  (fun c => approve c (propose records bounds c))^[n] currentParams

end Propose

/-! ## What one lever does -/

/-- The levers in the order in which they are asked. -/
def Param.all : List Param :=
  [.riskPerTradePct, .regimeSizeMultiplierHigh, .regimeSizeMultiplierLow, .st2SlAtrMult,
    .mrEntryBand]

/-- What the rule of a lever asks for. -/
def ask (records : List TradeOutcomeRecord) (param : Param) (bounds : Bounds) (current : ℚ) :
    Option Ask :=
  match param with
  | .riskPerTradePct => askRiskPerTrade records current
  | .regimeSizeMultiplierHigh => askRegimeHigh records current bounds
  | .regimeSizeMultiplierLow => askRegimeLow records current bounds
  | .st2SlAtrMult => askSlAtrMult records current bounds
  | .mrEntryBand => askMrBand records current bounds

/-- What a lever proposes. -/
def lever (records : List TradeOutcomeRecord) (param : Param) (bounds : Bounds) (current : ℚ) :
    Option Proposal :=
  (ask records param bounds current).bind (settle param current bounds)

/-- The value of a parameter after its proposal, if there is one, is approved. -/
def next (records : List TradeOutcomeRecord) (param : Param) (bounds : Bounds) (current : ℚ) : ℚ :=
  ((lever records param bounds current).map Proposal.proposed).getD current

section Lever

variable {records : List TradeOutcomeRecord} {param : Param} {b : Bounds} {c t : ℚ}
variable {bounds : Option (Param → Bounds)} {currentParams : Param → Option ℚ} {p : Proposal}

theorem settle_eq_some {ask : Ask} : settle param c b ask = some p ↔
    clampStep c ask.target b ≠ c ∧ p = ⟨param, c, clampStep c ask.target b, ask.rationale,
      ask.nTrades, ask.trainMetric⟩ := by
  unfold settle
  by_cases h : clampStep c ask.target b = c <;> simp [h, eq_comm]

theorem lever_eq_some : lever records param b c = some p ↔
    ∃ a, ask records param b c = some a ∧ clampStep c a.target b ≠ c ∧
      p = ⟨param, c, clampStep c a.target b, a.rationale, a.nTrades, a.trainMetric⟩ := by
  simp [lever, Option.bind_eq_some_iff, settle_eq_some]

/-- The levers speak one after the other. -/
theorem propose_eq : propose records bounds currentParams = Param.all.filterMap (fun param =>
    lever records param (table bounds param) (value currentParams param)) := by
  rw [List.filterMap_eq_flatMap_toList]
  simp [propose, Param.all, lever, ask, proposeRiskPerTrade, proposeRegimeMultipliers,
    proposeSlAtrMult, proposeMrBand]

theorem mem_propose : p ∈ propose records bounds currentParams ↔
    lever records p.param (table bounds p.param) (value currentParams p.param) = some p := by
  rw [propose_eq, List.mem_filterMap]
  constructor
  · rintro ⟨param, -, h⟩
    obtain ⟨_, -, -, rfl⟩ := lever_eq_some.mp h
    exact h
  · intro h
    exact ⟨p.param, by cases p.param <;> simp [Param.all], h⟩

/-- Each lever has its own parameter. -/
theorem nodup_propose : ((propose records bounds currentParams).map Proposal.param).Nodup := by
  rw [propose_eq, List.map_filterMap]
  have hsub : ∀ l : List Param, (l.filterMap (fun param =>
      (lever records param (table bounds param) (value currentParams param)).map
        Proposal.param)).Sublist l := by
    intro l
    induction l with
    | nil => simp
    | cons param l ih =>
        rw [List.filterMap_cons]
        cases h : lever records param (table bounds param) (value currentParams param) with
        | none => exact ih.cons param
        | some p =>
            obtain ⟨_, -, -, rfl⟩ := lever_eq_some.mp h
            exact ih.cons_cons param
  exact (hsub Param.all).nodup (by decide)

theorem value_approve (param : Param) :
    value (approve currentParams (propose records bounds currentParams)) param =
      next records param (table bounds param) (value currentParams param) := by
  have hfind : (propose records bounds currentParams).find? (fun p => p.param = param) =
      lever records param (table bounds param) (value currentParams param) := by
    cases h : lever records param (table bounds param) (value currentParams param) with
    | none =>
        refine List.find?_eq_none.mpr (fun p hp heq => ?_)
        obtain rfl : p.param = param := of_decide_eq_true heq
        cases h.symm.trans (mem_propose.mp hp)
    | some p =>
        have hparam : p.param = param := by
          obtain ⟨_, -, -, rfl⟩ := lever_eq_some.mp h
          rfl
        cases hfound : (propose records bounds currentParams).find? (fun p => p.param = param) with
        | none =>
            have hmem : p ∈ propose records bounds currentParams :=
              mem_propose.mpr (by rw [hparam]; exact h)
            exact absurd (decide_eq_true hparam) (List.find?_eq_none.mp hfound p hmem)
        | some q =>
            have hq : q.param = param := by simpa using List.find?_some hfound
            have hlever := mem_propose.mp (List.mem_of_find?_eq_some hfound)
            rw [hq] at hlever
            exact hlever.symm.trans h
  have hvalue : approve currentParams (propose records bounds currentParams) param =
      ((lever records param (table bounds param) (value currentParams param)).map
        Proposal.proposed).or (currentParams param) := by
    unfold approve
    rw [hfind]
  unfold next
  cases h : lever records param (table bounds param) (value currentParams param) with
  | none =>
      rw [h] at hvalue
      simp [value, hvalue]
  | some p =>
      rw [h] at hvalue
      simp [value, hvalue]

theorem value_approved (param : Param) (n : ℕ) :
    value (approved records bounds currentParams n) param =
      (next records param (table bounds param))^[n] (value currentParams param) := by
  induction n with
  | zero => rfl
  | succ n ih =>
      unfold approved at ih ⊢
      rw [Function.iterate_succ_apply', Function.iterate_succ_apply', value_approve, ih]

end Lever

/-! ## Repeated approval -/

section Repeated

variable {records : List TradeOutcomeRecord} {param : Param} {b : Bounds} {c c' t t' : ℚ}

/-- The clamps, as a composition of monotone functions of both values. -/
theorem confine_eq : confine c t b = max b.lo (min b.hi
    (max (c - b.step) (min (c + b.step) (max b.lo (min b.hi t))))) := by
  have hstep := b.step_nonneg
  unfold confine
  generalize max b.lo (min b.hi t) = x
  have hclamp : (if c + b.step < x then c + b.step else if x < c - b.step then c - b.step else x) =
      max (c - b.step) (min (c + b.step) x) := by
    by_cases hhigh : c + b.step < x
    · rw [if_pos hhigh, min_eq_left hhigh.le, max_eq_right (by linarith)]
    · rw [if_neg hhigh, min_eq_right (not_lt.mp hhigh)]
      by_cases hlow : x < c - b.step
      · rw [if_pos hlow, max_eq_left hlow.le]
      · rw [if_neg hlow, max_eq_right (not_lt.mp hlow)]
  simp only [hclamp]

theorem confine_mem : b.lo ≤ confine c t b ∧ confine c t b ≤ b.hi := by
  rw [confine_eq]
  exact ⟨le_max_left _ _, max_le b.lo_le_hi (min_le_left _ _)⟩

theorem clampStep_mono (hc : c ≤ c') (ht : t ≤ t') : clampStep c t b ≤ clampStep c' t' b := by
  refine roundPlaces_mono 6 ?_
  rw [confine_eq, confine_eq]
  gcongr

/-- A rule asks by the records alone, for a target that rises with the current value. -/
theorem ask_cases (records : List TradeOutcomeRecord) (param : Param) (b : Bounds) :
    (∀ c, ask records param b c = none) ∨
      ∃ target : ℚ → ℚ, Monotone target ∧
        ∀ c, ∃ a, ask records param b c = some a ∧ a.target = target c := by
  have hup : Monotone (fun c : ℚ => c + b.step) := fun c c' h => by simpa using h
  have hdown : Monotone (fun c : ℚ => c - b.step) := fun c c' h => by simpa using h
  cases param with
  | riskPerTradePct =>
      simp only [ask, askRiskPerTrade]
      by_cases hfew : records.length < minTrades
      · simp [hfew]
      by_cases hnone : avgWinR round4 records ≤ 0 ∨ |avgLossR round4 records| ≤ 0
      · simp only [hnone, if_true, ite_self]
        exact .inl (fun _ => trivial)
      simp only [hfew, hnone, if_false]
      right
      generalize max 0 (winRate round4 records - (1 - winRate round4 records) /
        (avgWinR round4 records / |avgLossR round4 records|)) * (1 / 2) = frac
      by_cases hfrac : 0 < frac
      · refine ⟨fun c => c * (1 + (frac - 1 / 2)), fun c c' h => ?_, fun c => ⟨_, rfl, if_pos hfrac⟩⟩
        exact mul_le_mul_of_nonneg_right h (by linarith)
      · refine ⟨fun c => c * (1 / 2), fun c c' h => ?_, fun c => ⟨_, rfl, if_neg hfrac⟩⟩
        exact mul_le_mul_of_nonneg_right h (by norm_num)
  | regimeSizeMultiplierHigh =>
      simp only [ask, askRegimeHigh]
      cases (eligible records).argmax (fun kv => kv.2.expectancyR) with
      | none => exact .inl (fun c => rfl)
      | some best =>
          by_cases hpos : 1 / 10 < best.2.expectancyR
          · simp only [Option.bind_some, if_pos hpos]
            exact .inr ⟨_, hup, fun c => ⟨_, rfl, rfl⟩⟩
          · simp only [Option.bind_some, if_neg hpos]
            exact .inl (fun _ => trivial)
  | regimeSizeMultiplierLow =>
      simp only [ask, askRegimeLow]
      cases (eligible records).argmin (fun kv => kv.2.expectancyR) with
      | none => exact .inl (fun c => rfl)
      | some worst =>
          by_cases hneg : worst.2.expectancyR < 0
          · simp only [Option.bind_some, if_pos hneg]
            exact .inr ⟨_, hdown, fun c => ⟨_, rfl, rfl⟩⟩
          · simp only [Option.bind_some, if_neg hneg]
            exact .inl (fun _ => trivial)
  | st2SlAtrMult =>
      simp only [ask, askSlAtrMult]
      generalize records.filter
        (fun r => "supertrend".toList.isPrefixOf (r.entryReason.getD "").toList) = st2
      by_cases hfew : st2.length < minTrades
      · simp [hfew]
      by_cases hnone : st2.filterMap TradeOutcomeRecord.mae = []
      · simp [hnone]
      simp only [hfew, hnone, if_false]
      by_cases hdeep : 2 / 100 < |percentile 75 (st2.filterMap TradeOutcomeRecord.mae)|
      · simp only [if_pos hdeep]
        exact .inr ⟨_, hup, fun c => ⟨_, rfl, rfl⟩⟩
      by_cases hshallow : |percentile 75 (st2.filterMap TradeOutcomeRecord.mae)| < 5 / 1000
      · simp only [if_neg hdeep, if_pos hshallow]
        exact .inr ⟨_, hdown, fun c => ⟨_, rfl, rfl⟩⟩
      · simp only [if_neg hdeep, if_neg hshallow]
        exact .inl (fun _ => trivial)
  | mrEntryBand =>
      simp only [ask, askMrBand]
      generalize records.filter (fun r => r.entryReason.getD "" = "mean_reversion") = mr
      by_cases hfew : mr.length < minTrades
      · simp [hfew]
      by_cases hpoor : winRate round4 mr < 4 / 10
      · simp only [hfew, hpoor, if_false, if_true]
        exact .inr ⟨_, hup, fun c => ⟨_, rfl, rfl⟩⟩
      · simp [hpoor]

theorem next_of_none (h : ask records param b c = none) : next records param b c = c := by
  simp [next, lever, h]

theorem next_of_some {a : Ask} (h : ask records param b c = some a) :
    next records param b c = clampStep c a.target b := by
  unfold next lever settle
  rw [h, Option.bind_some]
  by_cases heq : clampStep c a.target b = c <;> simp [heq]

theorem next_mono : Monotone (next records param b) := by
  intro c c' h
  rcases ask_cases records param b with hnone | ⟨target, hmono, hsome⟩
  · rw [next_of_none (hnone c), next_of_none (hnone c')]
    exact h
  · obtain ⟨a, ha, htarget⟩ := hsome c
    obtain ⟨a', ha', htarget'⟩ := hsome c'
    rw [next_of_some ha, next_of_some ha', htarget, htarget']
    exact clampStep_mono h (hmono h)

/-- A lever that does not move its parameter proposes nothing. -/
theorem lever_eq_none (h : next records param b c = c) : lever records param b c = none := by
  cases hlever : lever records param b c with
  | none => rfl
  | some p =>
      obtain ⟨a, ha, hne, -⟩ := lever_eq_some.mp hlever
      rw [next_of_some ha] at h
      exact absurd h hne

/-- Repeated, a lever comes to rest. -/
theorem exists_next_fixed (records : List TradeOutcomeRecord) (param : Param) (b : Bounds) (c : ℚ) :
    ∃ n, next records param b ((next records param b)^[n] c) = (next records param b)^[n] c := by
  rcases ask_cases records param b with hnone | ⟨target, -, hsome⟩
  · exact ⟨0, next_of_none (hnone _)⟩
  · refine exists_iterate_fixed next_mono (finite_roundPlaces 6 b.lo b.hi) (fun y => ?_) c
    obtain ⟨a, ha, -⟩ := hsome y
    exact ⟨_, confine_mem.1, confine_mem.2, next_of_some ha⟩

end Repeated

/-! ## What a proposal keeps to -/

section Bounded

variable {records : List TradeOutcomeRecord} {param : Param} {b : Bounds} {c t : ℚ}

/-- The least value in the range and a step from the current one. -/
def Bounds.least (b : Bounds) (c : ℚ) : ℚ := max b.lo (c - b.step)

/-- The greatest value in the range and a step from the current one. -/
def Bounds.greatest (b : Bounds) (c : ℚ) : ℚ := min b.hi (c + b.step)

/-- The current value is at most a step out of the range, and rounding the target, cut to
the limits, does not cross them. -/
structure Fits (b : Bounds) (c t : ℚ) : Prop where
  near : b.lo ≤ c + b.step ∧ c - b.step ≤ b.hi
  least_le : b.least c ≤ roundPlaces 6 (max (b.least c) (min (b.greatest c) t))
  le_greatest : roundPlaces 6 (max (b.least c) (min (b.greatest c) t)) ≤ b.greatest c

/-- Near the range the three clamps are one. -/
theorem confine_eq_limits (h : b.lo ≤ c + b.step ∧ c - b.step ≤ b.hi) :
    confine c t b = max (b.least c) (min (b.greatest c) t) := by
  obtain ⟨hlow, hhigh⟩ := h
  have hle : max (b.least c) (min (b.greatest c) t) ≤ b.hi :=
    max_le (max_le b.lo_le_hi hhigh) ((min_le_left _ _).trans (min_le_left _ _))
  have hge : b.lo ≤ max (b.least c) (min (b.greatest c) t) :=
    (le_max_left _ _).trans (le_max_left _ _)
  have hinner : max (c - b.step) (min (c + b.step) (max b.lo (min b.hi t))) =
      max (b.least c) (min (b.greatest c) t) := by
    rw [min_max_distrib_left, min_eq_right hlow, ← min_assoc, min_comm (c + b.step), ← max_assoc,
      max_comm (c - b.step)]
    rfl
  rw [confine_eq, hinner, min_eq_right hle, max_eq_right hge]

theorem within_iff : (b.lo ≤ clampStep c t b ∧ clampStep c t b ≤ b.hi ∧
    |clampStep c t b - c| ≤ b.step) ↔ Fits b c t := by
  have hlimits : (b.lo ≤ clampStep c t b ∧ clampStep c t b ≤ b.hi ∧
      |clampStep c t b - c| ≤ b.step) ↔
      b.least c ≤ clampStep c t b ∧ clampStep c t b ≤ b.greatest c := by
    rw [Bounds.least, Bounds.greatest, max_le_iff, le_min_iff, abs_le]
    constructor
    · rintro ⟨hlo, hhi, hdown, hup⟩
      exact ⟨⟨hlo, by linarith⟩, hhi, by linarith⟩
    · rintro ⟨⟨hlo, hdown⟩, hhi, hup⟩
      exact ⟨hlo, hhi, by linarith, by linarith⟩
  rw [hlimits]
  constructor
  · rintro ⟨hleast, hgreatest⟩
    have hle := hleast.trans hgreatest
    have hnear : b.lo ≤ c + b.step ∧ c - b.step ≤ b.hi :=
      ⟨(le_max_left _ _).trans (hle.trans (min_le_right _ _)),
        (le_max_right _ _).trans (hle.trans (min_le_left _ _))⟩
    unfold clampStep at hleast hgreatest
    rw [confine_eq_limits hnear] at hleast hgreatest
    exact ⟨hnear, hleast, hgreatest⟩
  · intro h
    unfold clampStep
    rw [confine_eq_limits h.near]
    exact ⟨h.least_le, h.le_greatest⟩

/-- What a proposal keeps to: it is in the range, at most a step from the current value
and other than it; no parameter has two; and under repeated approval every parameter goes
one way, until it stays and is no longer proposed. -/
structure Bounded (records : List TradeOutcomeRecord) (bounds : Option (Param → Bounds))
    (currentParams : Param → Option ℚ) : Prop where
  each : ∀ p ∈ propose records bounds currentParams,
    ((table bounds p.param).lo ≤ p.proposed ∧ p.proposed ≤ (table bounds p.param).hi ∧
      |p.proposed - value currentParams p.param| ≤ (table bounds p.param).step) ∧
      p.proposed ≠ value currentParams p.param
  once : ((propose records bounds currentParams).map Proposal.param).Nodup
  moves : ∀ param, Monotone (fun n => value (approved records bounds currentParams n) param) ∨
    Antitone (fun n => value (approved records bounds currentParams n) param)
  stops : ∀ param, ∃ n, ∀ m, n ≤ m →
    value (approved records bounds currentParams m) param =
        value (approved records bounds currentParams n) param ∧
      ∀ p ∈ propose records bounds (approved records bounds currentParams m), p.param ≠ param

/-- A proposal keeps to its range and its step only for a current value that fits, wherever
a rule asks for another value than the current one. -/
theorem proposals_bounded_iff (records : List TradeOutcomeRecord) (bounds : Option (Param → Bounds))
    (currentParams : Param → Option ℚ) :
    Bounded records bounds currentParams ↔
      ∀ param a, ask records param (table bounds param) (value currentParams param) = some a →
        clampStep (value currentParams param) a.target (table bounds param) =
            value currentParams param ∨
          Fits (table bounds param) (value currentParams param) a.target := by
  constructor
  · intro h param a hask
    rw [or_iff_not_imp_left]
    intro hne
    have hmem : (⟨param, value currentParams param,
        clampStep (value currentParams param) a.target (table bounds param), a.rationale, a.nTrades,
        a.trainMetric⟩ : Proposal) ∈ propose records bounds currentParams :=
      mem_propose.mpr (lever_eq_some.mpr ⟨a, hask, hne, rfl⟩)
    exact within_iff.mp (h.each _ hmem).1
  · intro h
    refine ⟨fun p hp => ?_, nodup_propose, fun param => ?_, fun param => ?_⟩
    · obtain ⟨a, hask, hne, hp⟩ := lever_eq_some.mp (mem_propose.mp hp)
      have hproposed := congrArg Proposal.proposed hp
      rw [hproposed]
      exact ⟨within_iff.mpr ((h p.param a hask).resolve_left hne), hne⟩
    · simp only [value_approved]
      exact iterate_monotone_or_antitone next_mono _
    · obtain ⟨n, hn⟩ := exists_next_fixed records param (table bounds param)
        (value currentParams param)
      refine ⟨n, fun m hm => ?_⟩
      have hrest := iterate_eq_of_fixed hn hm
      rw [value_approved, value_approved, hrest]
      refine ⟨rfl, fun p hp hparam => ?_⟩
      have hlever := mem_propose.mp hp
      rw [hparam, value_approved, hrest, lever_eq_none hn] at hlever
      cases hlever

/-- Twelve trades of one regime, each of two R. -/
def strongRegime : List TradeOutcomeRecord :=
  List.replicate 12
    { realizedPnl := some 10, closedAt := some 0, pnlR := some 2, regime := some "trend" }

/-- The high multiplier is at two, and its range ends at one and a half. -/
def outOfRange : Param → Option ℚ := fun param =>
  if param = .regimeSizeMultiplierHigh then some 2 else none

/-- It is proposed to come down by half, five times its step. -/
theorem outOfRange_jumps :
    ¬ ∀ records bounds currentParams, Bounded records bounds currentParams := by
  intro h
  have hproposed : ∃ p ∈ propose strongRegime none outOfRange,
      ¬ |p.proposed - value outOfRange p.param| ≤ (table none p.param).step := by
    decide +kernel
  obtain ⟨p, hp, hjump⟩ := hproposed
  exact hjump ((h strongRegime none outOfRange).each p hp).1.2.2

end Bounded

end CryptoTrader.Calibration
