import CryptoTrader.Ai.Salvage

/-!
# The decision gate

`DecisionValidator.validate`: the parsed output becomes a decision, a decision out of a
repaired text is refused unless it does not trade, and four rules follow.  The third of
them knows only one of the two sides.
-/

namespace CryptoTrader.DecisionValidator

open CryptoTrader.Lib CryptoTrader.Lib.Json

structure EntryZone where
  low : PyFloat
  high : PyFloat
  deriving DecidableEq

structure LLMDecision where
  action : String
  confidence : PyFloat
  setupType : String
  entryZone : EntryZone
  stopLoss : PyFloat
  targets : List PyFloat
  riskReward : PyFloat
  invalidation : String
  warnings : List String := []
  reasonCodes : List String := []
  deriving DecidableEq

/-- `MarketStatePayload`, as far as the gate reads it. -/
structure MarketStatePayload where
  mode : String
  price : ℚ
  htfTrend : String
  deriving DecidableEq

/-- What the gate is run with: the interpreter's limit on nesting, the construction of a
decision from what was parsed, and the texts of their errors and of a float. -/
structure Libraries where
  depth : ℕ
  decision : PyValue → Except String LLMDecision
  message : Failure → String
  floatText : PyFloat → String

/-! ## The gate -/

/-- `fallback_no_trade`. -/
def fallbackNoTrade : LLMDecision where
  action := "NO_TRADE"
  confidence := .fin 0
  setupType := "FALLBACK_SAFETY"
  entryZone := ⟨.fin 0, .fin 0⟩
  stopLoss := .fin 0
  targets := []
  riskReward := .fin 0
  invalidation := "Failed validation gate checks"
  warnings := ["Risk gate fallback activated"]
  reasonCodes := ["GATED_BY_SYSTEM"]

/-- Whether the gate is strict: as it is told, or by `LLM_STRICT_TRUNCATION`. -/
def isStrict (strictTruncation : Option Bool) (env : Option String) : Bool :=
  strictTruncation.getD
    (((strip (env.getD "true").toList).map Char.toLower) ∈
      ["1".toList, "true".toList, "yes".toList])

section Gate

variable (lib : Libraries)

/-- Why `validate` refuses a decision that could be constructed, if it does. -/
def refusal (strict repaired : Bool) (decision : LLMDecision) (state : MarketStatePayload) :
    Option String :=
  let price := PyFloat.fin state.price
  if decision.action = "NO_TRADE" then none
  else if repaired ∧ strict then
    some ("RiskGate: actionable decision required JSON repair " ++
      "(truncated model output) — rejected fail-closed")
  else if decision.action = "LONG" ∧ PyFloat.le price decision.stopLoss then
    some "RiskGate: LONG stop_loss must be below current price"
  else if decision.action = "SHORT" ∧ PyFloat.le decision.stopLoss price then
    some "RiskGate: SHORT stop_loss must be above current price"
  else if PyFloat.lt decision.riskReward (.fin (3 / 2)) then
    some ("RiskGate: Risk Reward ratio " ++ lib.floatText decision.riskReward ++
      " below minimum 1.5")
  else if decision.action = "LONG" ∧ state.htfTrend = "bearish" ∧ state.mode = "swing" then
    some "RiskGate: LONG swing entry blocked on bearish HTF trend"
  else if decision.targets.length = 0 then some "RiskGate: Missing profit targets"
  else none

/-- `validate`, of a decision that could be constructed. -/
def judge (strict repaired : Bool) (decision : LLMDecision) (state : MarketStatePayload) :
    LLMDecision × Option String :=
  match refusal lib strict repaired decision state with
  | some error => (fallbackNoTrade, some error)
  | none => (decision, none)

/-- `validate`; nothing while its parse is still running. -/
def validate (fuel : ℕ) (raw : List Char) (state : MarketStatePayload)
    (strictTruncation : Option Bool) (env : Option String) :
    Option (LLMDecision × Option String) :=
  (parseJson lib.depth fuel raw).map (fun parse =>
    match parse with
    | .error failure => (fallbackNoTrade, some ("JSONDecodeError: " ++ lib.message failure))
    | .ok (parsed, repaired) =>
        match lib.decision parsed with
        | .error error => (fallbackNoTrade, some ("ValidationError: " ++ error))
        | .ok decision => judge lib (isStrict strictTruncation env) repaired decision state)

/-- The strict gate accepts the output as this decision. -/
def Accepts (raw : List Char) (state : MarketStatePayload) (decision : LLMDecision) : Prop :=
  ∃ fuel strictTruncation env, isStrict strictTruncation env = true ∧
    validate lib fuel raw state strictTruncation env = some (decision, none)

/-- The output is read as this decision, out of a repaired text or not. -/
def Reads (raw : List Char) (decision : LLMDecision) (repaired : Bool) : Prop :=
  ∃ fuel parsed, parseJson lib.depth fuel raw = some (.ok (parsed, repaired)) ∧
    lib.decision parsed = .ok decision

end Gate

/-! ## The two sides -/

/-- The price on the other side, as far away. -/
def reflect (price : ℚ) (x : PyFloat) : PyFloat := PyFloat.sub (.fin (2 * price)) x

/-- The decision for the other side. -/
def LLMDecision.mirror (decision : LLMDecision) (price : ℚ) : LLMDecision :=
  { decision with
    action :=
      if decision.action = "LONG" then "SHORT"
      else if decision.action = "SHORT" then "LONG"
      else decision.action
    stopLoss := reflect price decision.stopLoss
    targets := decision.targets.map (reflect price) }

/-- The market with the other trend. -/
def MarketStatePayload.mirror (state : MarketStatePayload) : MarketStatePayload :=
  { state with
    htfTrend :=
      if state.htfTrend = "bullish" then "bearish"
      else if state.htfTrend = "bearish" then "bullish"
      else state.htfTrend }

/-- The stop is strictly on the side on which the trade loses. -/
def OnLosingSide (decision : LLMDecision) (price : ℚ) : Prop :=
  (decision.action = "LONG" ∧ PyFloat.lt decision.stopLoss (.fin price)) ∨
    (decision.action = "SHORT" ∧ PyFloat.lt (.fin price) decision.stopLoss)

/-- A swing entry against the trend. -/
def AgainstTrend (decision : LLMDecision) (state : MarketStatePayload) : Prop :=
  state.mode = "swing" ∧ ((decision.action = "LONG" ∧ state.htfTrend = "bearish") ∨
    (decision.action = "SHORT" ∧ state.htfTrend = "bullish"))

/-- The stop is on the wrong side, by the comparison that the gate makes. -/
def StopMisplaced (decision : LLMDecision) (price : ℚ) : Prop :=
  (decision.action = "LONG" ∧ PyFloat.le (.fin price) decision.stopLoss) ∨
    (decision.action = "SHORT" ∧ PyFloat.le decision.stopLoss (.fin price))

/-! ## What the gate accepts -/

section Accepted

variable {lib : Libraries} {strict repaired : Bool} {decision : LLMDecision}
variable {state : MarketStatePayload} {raw : List Char} {price : ℚ} {x : PyFloat}

/-- The gate refuses nothing that does not trade, and nothing that passes the rules. -/
theorem refusal_eq_none_iff : refusal lib strict repaired decision state = none ↔
    decision.action = "NO_TRADE" ∨
      (¬ (repaired = true ∧ strict = true) ∧ ¬ StopMisplaced decision state.price ∧
        PyFloat.lt decision.riskReward (.fin (3 / 2)) = false ∧
        ¬ (decision.action = "LONG" ∧ state.htfTrend = "bearish" ∧ state.mode = "swing") ∧
        decision.targets ≠ []) := by
  unfold refusal StopMisplaced
  by_cases hidle : decision.action = "NO_TRADE"
  · rw [if_pos hidle]
    exact iff_of_true rfl (.inl hidle)
  rw [if_neg hidle, or_iff_right hidle]
  by_cases hrepair : repaired = true ∧ strict = true
  · rw [if_pos hrepair]
    exact iff_of_false (Option.some_ne_none _) (fun h => h.1 hrepair)
  rw [if_neg hrepair]
  by_cases hlong : decision.action = "LONG" ∧ PyFloat.le (.fin state.price) decision.stopLoss
  · rw [if_pos hlong]
    exact iff_of_false (Option.some_ne_none _) (fun h => h.2.1 (.inl hlong))
  rw [if_neg hlong]
  by_cases hshort : decision.action = "SHORT" ∧ PyFloat.le decision.stopLoss (.fin state.price)
  · rw [if_pos hshort]
    exact iff_of_false (Option.some_ne_none _) (fun h => h.2.1 (.inr hshort))
  rw [if_neg hshort]
  by_cases hratio : PyFloat.lt decision.riskReward (.fin (3 / 2)) = true
  · rw [if_pos hratio]
    exact iff_of_false (Option.some_ne_none _)
      (fun h => Bool.false_ne_true (h.2.2.1.symm.trans hratio))
  rw [if_neg hratio]
  by_cases htrend :
      decision.action = "LONG" ∧ state.htfTrend = "bearish" ∧ state.mode = "swing"
  · rw [if_pos htrend]
    exact iff_of_false (Option.some_ne_none _) (fun h => h.2.2.2.1 htrend)
  rw [if_neg htrend]
  by_cases htargets : decision.targets.length = 0
  · rw [if_pos htargets]
    exact iff_of_false (Option.some_ne_none _)
      (fun h => h.2.2.2.2 (List.length_eq_zero_iff.mp htargets))
  · rw [if_neg htargets]
    exact iff_of_true rfl ⟨hrepair, not_or.mpr ⟨hlong, hshort⟩, Bool.eq_false_iff.mpr hratio,
      htrend, fun h => htargets (List.length_eq_zero_iff.mpr h)⟩

theorem judge_eq_iff {accepted : LLMDecision} :
    judge lib strict repaired decision state = (accepted, none) ↔
      refusal lib strict repaired decision state = none ∧ decision = accepted := by
  unfold judge
  cases refusal lib strict repaired decision state <;> simp

/-- What was not repaired is what the text is, parsed. -/
theorem reads_false_iff : Reads lib raw decision false ↔
    ∃ parsed, loads lib.depth (extractText raw) = .ok parsed ∧
      lib.decision parsed = .ok decision := by
  constructor
  · rintro ⟨fuel, parsed, hparse, hdecision⟩
    refine ⟨parsed, ?_, hdecision⟩
    unfold parseJson at hparse
    cases hloads : loads lib.depth (extractText raw) with
    | ok v =>
        simp only [hloads, Option.some.injEq, Except.ok.injEq, Prod.mk.injEq] at hparse
        rw [hparse.1]
    | error failure =>
        cases failure with
        | digits => simp [hloads] at hparse
        | recursion => simp [hloads] at hparse
        | decode =>
            simp only [hloads, Option.map_eq_some_iff] at hparse
            obtain ⟨repaired, -, hparse⟩ := hparse
            cases repaired with
            | error failure => cases hparse
            | ok text =>
                cases hagain : loads lib.depth text <;>
                  simp [Except.bind, Except.map, hagain] at hparse
  · rintro ⟨parsed, hloads, hdecision⟩
    refine ⟨0, parsed, ?_, hdecision⟩
    unfold parseJson
    simp [hloads]

theorem accepts_iff : Accepts lib raw state decision ↔
    ∃ repaired, Reads lib raw decision repaired ∧
      refusal lib true repaired decision state = none := by
  constructor
  · rintro ⟨fuel, strictTruncation, env, hstrict, hvalidate⟩
    obtain ⟨parse, hparse, hresult⟩ := Option.map_eq_some_iff.mp hvalidate
    cases parse with
    | error failure => simp at hresult
    | ok read =>
        obtain ⟨parsed, repaired⟩ := read
        simp only [hstrict] at hresult
        cases hdecision : lib.decision parsed with
        | error error => simp [hdecision] at hresult
        | ok read =>
            rw [hdecision] at hresult
            obtain ⟨hnone, rfl⟩ := judge_eq_iff.mp hresult
            exact ⟨repaired, ⟨fuel, parsed, hparse, hdecision⟩, hnone⟩
  · rintro ⟨repaired, ⟨fuel, parsed, hparse, hdecision⟩, hnone⟩
    refine ⟨fuel, some true, none, rfl, ?_⟩
    unfold validate
    simp only [hparse, Option.map_some, hdecision]
    exact congrArg some (judge_eq_iff.mpr ⟨hnone, rfl⟩)

@[simp] theorem le_reflect :
    PyFloat.le (.fin price) (reflect price x) = PyFloat.le x (.fin price) := by
  cases x with
  | fin q =>
      simp only [reflect, PyFloat.sub, PyFloat.le, decide_eq_decide]
      constructor <;> intro h <;> linarith
  | nan => rfl
  | negInf => rfl
  | posInf => rfl

@[simp] theorem reflect_le :
    PyFloat.le (reflect price x) (.fin price) = PyFloat.le (.fin price) x := by
  cases x with
  | fin q =>
      simp only [reflect, PyFloat.sub, PyFloat.le, decide_eq_decide]
      constructor <;> intro h <;> linarith
  | nan => rfl
  | negInf => rfl
  | posInf => rfl

theorem mirror_action_long :
    (decision.mirror price).action = "LONG" ↔ decision.action = "SHORT" := by
  unfold LLMDecision.mirror
  by_cases hlong : decision.action = "LONG"
  · simp [hlong]
  by_cases hshort : decision.action = "SHORT" <;> simp [hlong, hshort]

theorem mirror_action_short :
    (decision.mirror price).action = "SHORT" ↔ decision.action = "LONG" := by
  unfold LLMDecision.mirror
  by_cases hlong : decision.action = "LONG"
  · simp [hlong]
  by_cases hshort : decision.action = "SHORT" <;> simp [hlong, hshort]

theorem mirror_action_idle :
    (decision.mirror price).action = "NO_TRADE" ↔ decision.action = "NO_TRADE" := by
  unfold LLMDecision.mirror
  by_cases hlong : decision.action = "LONG"
  · simp [hlong]
  by_cases hshort : decision.action = "SHORT" <;> simp [hlong, hshort]

theorem mirror_htfTrend_bearish :
    state.mirror.htfTrend = "bearish" ↔ state.htfTrend = "bullish" := by
  unfold MarketStatePayload.mirror
  by_cases hbullish : state.htfTrend = "bullish"
  · simp [hbullish]
  by_cases hbearish : state.htfTrend = "bearish" <;> simp [hbullish, hbearish]

theorem stopMisplaced_mirror :
    StopMisplaced (decision.mirror price) price ↔ StopMisplaced decision price := by
  unfold StopMisplaced
  rw [mirror_action_long, mirror_action_short]
  simp only [LLMDecision.mirror, le_reflect, reflect_le]
  exact or_comm

end Accepted

/-! ## Sound and symmetric -/

section Gated

variable {lib : Libraries} {decision : LLMDecision} {state : MarketStatePayload} {raw : List Char}
variable {price : ℚ}

/-- What the gate is for: what it accepts and trades was parsed without repair, has its stop
on the losing side, a reward of one and a half times the risk and a target; its verdict is
that of the mirrored market; and no swing entry goes against the trend. -/
structure GateHolds (lib : Libraries) (raw : List Char) (state : MarketStatePayload) : Prop where
  sound : ∀ decision, Accepts lib raw state decision → decision.action ≠ "NO_TRADE" →
    (∃ parsed, loads lib.depth (extractText raw) = .ok parsed ∧
      lib.decision parsed = .ok decision) ∧
    OnLosingSide decision state.price ∧ PyFloat.le (.fin (3 / 2)) decision.riskReward ∧
    decision.targets ≠ []
  symmetric : ∀ decision repaired, Reads lib raw decision repaired →
    ((judge lib true repaired (decision.mirror state.price) state.mirror).2 = none ↔
      (judge lib true repaired decision state).2 = none)
  withTrend : ∀ decision, Accepts lib raw state decision → ¬ AgainstTrend decision state

/-- The stop and the ratio are numbers, the trade has a side, and is no swing entry against
the trend. -/
structure Comparable (decision : LLMDecision) (state : MarketStatePayload) : Prop where
  side : decision.action = "LONG" ∨ decision.action = "SHORT"
  stop : decision.stopLoss ≠ .nan
  ratio : decision.riskReward ≠ .nan
  trend : ¬ AgainstTrend decision state

theorem judge_snd {strict repaired : Bool} :
    (judge lib strict repaired decision state).2 = refusal lib strict repaired decision state := by
  unfold judge
  cases refusal lib strict repaired decision state <;> rfl

theorem lt_of_not_le {x y : PyFloat} (h : PyFloat.le x y = false) (hx : x ≠ .nan) (hy : y ≠ .nan) :
    PyFloat.lt y x = true := by
  cases x <;> cases y <;> simp_all [PyFloat.le, PyFloat.lt]

theorem le_of_not_lt {x y : PyFloat} (h : PyFloat.lt x y = false) (hx : x ≠ .nan) (hy : y ≠ .nan) :
    PyFloat.le y x = true := by
  cases x <;> cases y <;> simp_all [PyFloat.le, PyFloat.lt]

/-- Where numbers compare, a stop that is not misplaced is on the losing side. -/
theorem Comparable.onLosingSide (h : Comparable decision state)
    (hplaced : ¬ StopMisplaced decision state.price) : OnLosingSide decision state.price := by
  rw [StopMisplaced, not_or] at hplaced
  rcases h.side with hlong | hshort
  · refine .inl ⟨hlong, lt_of_not_le (Bool.eq_false_iff.mpr (fun hle => hplaced.1 ⟨hlong, hle⟩))
      (by simp) h.stop⟩
  · refine .inr ⟨hshort, lt_of_not_le (Bool.eq_false_iff.mpr (fun hle => hplaced.2 ⟨hshort, hle⟩))
      h.stop (by simp)⟩

/-- The gate keeps what it is for, for an output that is parsed without repair into a trade
with targets, a stop that is not misplaced and a ratio that is not too small, only if its
numbers compare and it goes with the trend. -/
theorem gateHolds_iff (lib : Libraries) (raw : List Char) (state : MarketStatePayload) :
    GateHolds lib raw state ↔
      ∀ parsed decision, loads lib.depth (extractText raw) = .ok parsed →
        lib.decision parsed = .ok decision → decision.action ≠ "NO_TRADE" →
        decision.targets ≠ [] → ¬ StopMisplaced decision state.price →
        PyFloat.lt decision.riskReward (.fin (3 / 2)) = false → Comparable decision state := by
  constructor
  · intro h parsed decision hloads hdecision htrades htargets hplaced hratio
    have hreads : Reads lib raw decision false := reads_false_iff.mpr ⟨parsed, hloads, hdecision⟩
    by_cases hagainst :
        decision.action = "LONG" ∧ state.htfTrend = "bearish" ∧ state.mode = "swing"
    · -- the mirrored trade is accepted, and this one is not
      have hmirror : refusal lib true false (decision.mirror state.price) state.mirror = none := by
        refine refusal_eq_none_iff.mpr (.inr ⟨by simp, mt stopMisplaced_mirror.mp hplaced, hratio,
          fun hlong => ?_, fun hnil => htargets (List.map_eq_nil_iff.mp hnil)⟩)
        exact absurd (hagainst.1.symm.trans (mirror_action_long.mp hlong.1)) (by decide)
      have hsame := h.symmetric decision false hreads
      rw [judge_snd, judge_snd] at hsame
      rcases refusal_eq_none_iff.mp (hsame.mp hmirror) with hidle | hpass
      · exact absurd hidle htrades
      · exact absurd hagainst hpass.2.2.2.1
    · have hnone : refusal lib true false decision state = none :=
        refusal_eq_none_iff.mpr (.inr ⟨by simp, hplaced, hratio, hagainst, htargets⟩)
      have haccepts : Accepts lib raw state decision := accepts_iff.mpr ⟨false, hreads, hnone⟩
      obtain ⟨-, hside, hreward, -⟩ := h.sound decision haccepts htrades
      refine ⟨?_, ?_, ?_, h.withTrend decision haccepts⟩
      · exact hside.imp And.left And.left
      · intro hnan
        rw [OnLosingSide, hnan] at hside
        simp [PyFloat.lt] at hside
      · intro hnan
        rw [hnan] at hreward
        simp [PyFloat.le] at hreward
  · intro h
    have hread : ∀ {decision}, Accepts lib raw state decision → decision.action ≠ "NO_TRADE" →
        (∃ parsed, loads lib.depth (extractText raw) = .ok parsed ∧
          lib.decision parsed = .ok decision) ∧ ¬ StopMisplaced decision state.price ∧
        PyFloat.lt decision.riskReward (.fin (3 / 2)) = false ∧ decision.targets ≠ [] ∧
        Comparable decision state := by
      intro decision haccepts htrades
      obtain ⟨repaired, hreads, hnone⟩ := accepts_iff.mp haccepts
      obtain ⟨hclean, hplaced, hratio, -, htargets⟩ :=
        (refusal_eq_none_iff.mp hnone).resolve_left htrades
      obtain rfl : repaired = false := by simpa using hclean
      obtain ⟨parsed, hloads, hdecision⟩ := reads_false_iff.mp hreads
      exact ⟨⟨parsed, hloads, hdecision⟩, hplaced, hratio, htargets,
        h parsed decision hloads hdecision htrades htargets hplaced hratio⟩
    refine ⟨fun decision haccepts htrades => ?_, fun decision repaired hreads => ?_,
      fun decision haccepts hagainst => ?_⟩
    · obtain ⟨hparsed, hplaced, hratio, htargets, hcompare⟩ := hread haccepts htrades
      exact ⟨hparsed, hcompare.onLosingSide hplaced,
        le_of_not_lt hratio hcompare.ratio (by simp), htargets⟩
    · rw [judge_snd, judge_snd, refusal_eq_none_iff, refusal_eq_none_iff, mirror_action_idle,
        mirror_action_long, mirror_htfTrend_bearish]
      refine or_congr_right' (fun htrades => and_congr_right (fun hclean => ?_))
      obtain rfl : repaired = false := by simpa using hclean
      obtain ⟨parsed, hloads, hdecision⟩ := reads_false_iff.mp hreads
      have htargets : (decision.mirror state.price).targets ≠ [] ↔ decision.targets ≠ [] :=
        not_congr List.map_eq_nil_iff
      by_cases hpass : ¬ StopMisplaced decision state.price ∧
          PyFloat.lt decision.riskReward (.fin (3 / 2)) = false ∧ decision.targets ≠ []
      · obtain ⟨hplaced, hratio, hsome⟩ := hpass
        have htrend := (h parsed decision hloads hdecision htrades hsome hplaced hratio).trend
        exact iff_of_true
          ⟨mt stopMisplaced_mirror.mp hplaced, hratio,
            fun hshort => htrend ⟨hshort.2.2, .inr ⟨hshort.1, hshort.2.1⟩⟩, htargets.mpr hsome⟩
          ⟨hplaced, hratio, fun hlong => htrend ⟨hlong.2.2, .inl ⟨hlong.1, hlong.2.1⟩⟩, hsome⟩
      · refine iff_of_false (fun hmirror => hpass ?_) (fun hself => hpass ?_)
        · exact ⟨mt stopMisplaced_mirror.mpr hmirror.1, hmirror.2.1, htargets.mp hmirror.2.2.2⟩
        · exact ⟨hself.1, hself.2.1, hself.2.2.2⟩
    · by_cases hidle : decision.action = "NO_TRADE"
      · rcases hagainst.2 with ⟨hlong, -⟩ | ⟨hshort, -⟩
        · exact absurd (hidle.symm.trans hlong) (by decide)
        · exact absurd (hidle.symm.trans hshort) (by decide)
      · exact (hread haccepts hidle).2.2.2.2.trend hagainst

end Gated

/-! ## A trade against the trend -/

/-- A field of an object. -/
def fieldOf (fields : List (String × PyValue)) (name : String) : Except String PyValue :=
  match fields.lookup name with
  | some v => .ok v
  | none => .error (name ++ ": Field required")

def asFloat : PyValue → Except String PyFloat
  | .int n => .ok (.fin n)
  | .float x => .ok x
  | _ => .error "Input should be a valid number"

def asString : PyValue → Except String String
  | .str s => .ok s
  | _ => .error "Input should be a valid string"

def asList : PyValue → Except String (List PyValue)
  | .list vs => .ok vs
  | _ => .error "Input should be a valid list"

def asObject : PyValue → Except String (List (String × PyValue))
  | .dict fields => .ok fields
  | _ => .error "Input should be a valid dictionary"

/-- The decision of an object whose fields have their types. -/
def typedDecision (parsed : PyValue) : Except String LLMDecision := do
  let fields ← asObject parsed
  let zone ← asObject (← fieldOf fields "entry_zone")
  pure
    { action := ← asString (← fieldOf fields "action")
      confidence := ← asFloat (← fieldOf fields "confidence")
      setupType := ← asString (← fieldOf fields "setup_type")
      entryZone := ⟨← asFloat (← fieldOf zone "low"), ← asFloat (← fieldOf zone "high")⟩
      stopLoss := ← asFloat (← fieldOf fields "stop_loss")
      targets := ← (← asList (← fieldOf fields "targets")).mapM asFloat
      riskReward := ← asFloat (← fieldOf fields "risk_reward")
      invalidation := ← asString (← fieldOf fields "invalidation")
      warnings := ← (← asList ((fields.lookup "warnings").getD (.list []))).mapM asString
      reasonCodes := ← (← asList ((fields.lookup "reason_codes").getD (.list []))).mapM asString }

/-- A library for objects whose fields have their types. -/
def typedLibraries : Libraries where
  depth := 1000
  decision := typedDecision
  message := fun _ => ""
  floatText := fun _ => ""

/-- A short from 100, with its stop at 110 and its target at 80. -/
def shortOutput : List Char :=
  ("\x7b\"action\": \"SHORT\", \"confidence\": 0.9, \"setup_type\": \"Sweep\", " ++
    "\"entry_zone\": \x7b\"low\": 99, \"high\": 101\x7d, \"stop_loss\": 110, " ++
    "\"targets\": [80], \"risk_reward\": 2.0, \"invalidation\": \"none\"\x7d").toList

def shortDecision : LLMDecision where
  action := "SHORT"
  confidence := .fin (9 / 10)
  setupType := "Sweep"
  entryZone := ⟨.fin 99, .fin 101⟩
  stopLoss := .fin 110
  targets := [.fin 80]
  riskReward := .fin 2
  invalidation := "none"

/-- The short is accepted in a swing market that rises. -/
theorem shortSwing_accepted : ¬ ∀ lib raw state, GateHolds lib raw state := by
  intro h
  let state : MarketStatePayload := ⟨"swing", 100, "bullish"⟩
  have hvalidate : validate typedLibraries 1 shortOutput state (some true) none =
      some (shortDecision, none) := by
    decide +kernel
  have haccepts : Accepts typedLibraries shortOutput state shortDecision :=
    ⟨1, some true, none, rfl, hvalidate⟩
  exact (h typedLibraries shortOutput state).withTrend shortDecision haccepts
    ⟨rfl, .inr ⟨rfl, rfl⟩⟩

end CryptoTrader.DecisionValidator
