import CryptoTrader.Management.Execution
import CryptoTrader.Management.StateEngine

/-!
# Stale prices

How `MarketContextEngine.build` judges the age of its candles, and what an evaluation
of the reassessment loop makes of it, from the last tick and the fetched candles to the
calls of the executor.  Ticks and candles carry the time from which they are; the code
keeps neither.
-/

namespace CryptoTrader

open CryptoTrader.Lib

/-! ## Candles -/

/-- The `close_time` of the last candle: no such column, what `int` makes of it, or
something that `int` raises on (as on a timestamp). -/
inductive CloseTime where
  | missing
  | number (ms : ℤ)
  | unreadable

/-- A frame that was fetched: the last candle is as of its close, and if it is still
forming as of the fetch. -/
structure FetchedFrame where
  length : ℕ
  closeTime : CloseTime
  asOf : ℤ

/-- `_STALE_THRESHOLD_MS`. -/
def staleThresholdMs : ℤ := 60000

/-- `data_age_ms`. -/
def dataAgeMs (closeTime : CloseTime) (nowMs : ℤ) : ℤ :=
  match closeTime with
  | .number lastTs => if lastTs ≠ 0 then nowMs - lastTs else 0
  | _ => 0

/-- `is_stale` of the context that is built. -/
def contextIsStale (frame : Option FetchedFrame) (nowMs : ℤ) : Bool :=
  match frame with
  | none => true
  | some df => df.length < 20 ∨ staleThresholdMs < dataAgeMs df.closeTime nowMs

/-! ## An evaluation -/

/-- A price that was noted, and when. -/
structure NotedTick where
  ltp : Decimal
  time : ℤ

/-- What an evaluation meets: the clock, the candles of the first fetch and of the one
in `build`, the open position and the contexts. -/
structure EvaluationInput where
  nowMs : ℤ
  fetched : Option FetchedFrame
  refetched : Option FetchedFrame
  position : Option EnhancedPosition
  wallet : WalletContext
  portfolio : PortfolioContext
  constraints : PositionConstraints
  atrPct : Decimal
  dryRun : Bool

/-- What the assessor makes of data it takes for fresh: the language model's answer, or
the scorer's. -/
abbrev Assessment := PositionManagementInput → PositionManagementDecision

/-- `_pause_decision`. -/
def pauseDecision : PositionManagementDecision :=
  { action := .pauseManagement, confidence := 1, fallback := .pauseManagement }

/-- `AIAssessor.assess`. -/
def assess (assessment : Assessment) (inp : PositionManagementInput) :
    PositionManagementDecision :=
  if inp.stale then pauseDecision else assessment inp

namespace EvaluationInput

variable (env : EvaluationInput)

/-- The candles that `build` works on: it fetches again if there are none. -/
def frame : Option FetchedFrame := env.fetched.or env.refetched

/-- `is_stale`. -/
def flagged : Bool := contextIsStale env.frame env.nowMs

/-- `build_snapshot`, with the context merged into it. -/
def managementInput (symbol : Symbol) (ltp : Decimal) (pos : EnhancedPosition) :
    PositionManagementInput :=
  { position := { pos.buildSnapshot ltp symbol with atrPct := env.atrPct, isStale := env.flagged }
    market := { isStale := env.flagged }
    wallet := env.wallet
    portfolio := env.portfolio
    constraints := env.constraints }

/-- The position that a snapshot is built of. -/
def openPosition : Option EnhancedPosition := env.position.filter (fun pos => pos.status = .opened)

/-- The decision of the policy guard; none, if there is no open position or the
evaluation raises. -/
def policy (assessment : Assessment) (symbol : Symbol) (ltp : Decimal) : Option PolicyDecision :=
  env.openPosition.bind (fun pos =>
    let inp := env.managementInput symbol ltp pos
    (PolicyGuard.validate inp (assess assessment inp)).toOption)

/-- The calls that the executor makes on the wallet and the client. -/
def calls (assessment : Assessment) (host : Host) (symbol : Symbol) (ltp : Decimal) :
    List ExecutorCall :=
  match env.openPosition, env.policy assessment symbol ltp with
  | some pos, some policy =>
      final (PositionExecutor.apply host env.dryRun (env.managementInput symbol ltp pos) policy) []
  | _, _ => []

/-- The evaluation ends in a pause, or leaves wallet and venue alone. -/
def Idle (assessment : Assessment) (host : Host) (symbol : Symbol) (ltp : Decimal) : Prop :=
  (∃ policy, env.policy assessment symbol ltp = some policy ∧ policy.action = .pauseManagement) ∨
    env.calls assessment host symbol ltp = []

/-- The tick or the last candle is older than the threshold. -/
def Stale (tick : NotedTick) : Prop :=
  staleThresholdMs < env.nowMs - tick.time ∨
    ∃ df, env.frame = some df ∧ staleThresholdMs < env.nowMs - df.asOf

/-- Stale prices are not acted on, whatever the assessor decides and the wallet and the
client answer. -/
def Safe (symbol : Symbol) (tick : NotedTick) : Prop :=
  env.Stale tick → ∀ assessment host, env.Idle assessment host symbol tick.ltp

/-- The candles give themselves away: they are missing, too few, or the last one has
a number for its close that is past the threshold. -/
def Exposed : Prop :=
  ∀ df, env.frame = some df → df.length < 20 ∨
    ∃ ms, df.closeTime = .number ms ∧ ms ≠ 0 ∧ staleThresholdMs < env.nowMs - ms

/-- The prices are fresh, or the candles give themselves away; or there is nothing to
act on. -/
def Guarded (tick : NotedTick) : Prop :=
  ¬ env.Stale tick ∨ env.Exposed ∨ env.dryRun ∨ env.openPosition = none

/-! ## What the flag is worth -/

section Evaluations

variable {env} {symbol : Symbol} {tick : NotedTick}

theorem threshold_lt_dataAgeMs_iff {closeTime : CloseTime} {nowMs : ℤ} :
    staleThresholdMs < dataAgeMs closeTime nowMs ↔
      ∃ ms, closeTime = .number ms ∧ ms ≠ 0 ∧ staleThresholdMs < nowMs - ms := by
  have hnonneg : ¬ staleThresholdMs < 0 := by decide
  unfold dataAgeMs
  cases closeTime with
  | missing => simp [hnonneg]
  | unreadable => simp [hnonneg]
  | number lastTs =>
      dsimp only
      by_cases hzero : lastTs = 0
      · simp [hzero, hnonneg]
      · simp [hzero]

/-- The context is stale exactly if the candles give themselves away. -/
theorem flagged_iff : env.flagged = true ↔ env.Exposed := by
  unfold flagged contextIsStale Exposed
  cases env.frame with
  | none => simp
  | some df => simp [threshold_lt_dataAgeMs_iff]

theorem stale_managementInput (ltp : Decimal) (pos : EnhancedPosition) :
    (env.managementInput symbol ltp pos).stale = env.flagged := by
  simp [managementInput, PositionManagementInput.stale]

/-- Without an open position nothing is decided. -/
theorem calls_of_none (hnone : env.openPosition = none) (assessment : Assessment) (host : Host)
    (ltp : Decimal) : env.calls assessment host symbol ltp = [] := by
  simp [calls, hnone]

theorem calls_of_dryRun (hdry : env.dryRun = true) (assessment : Assessment) (host : Host)
    (ltp : Decimal) : env.calls assessment host symbol ltp = [] := by
  unfold calls
  cases env.openPosition with
  | none => rfl
  | some pos =>
      cases env.policy assessment symbol ltp with
      | none => rfl
      | some policy =>
          dsimp only
          obtain ⟨outcome, happly⟩ : ∃ outcome, PositionExecutor.apply host env.dryRun
              (env.managementInput symbol ltp pos) policy = pure outcome :=
            PositionExecutor.apply_idle (Or.inl hdry)
          rw [happly]
          rfl

/-- What the guard makes of a pause. -/
def pausedPolicy : PolicyDecision :=
  { approved := true
    action := .pauseManagement
    originalAction := .pauseManagement
    modifiedParams := none }

theorem validate_pauseDecision (inp : PositionManagementInput) :
    PolicyGuard.validate inp pauseDecision = .ok pausedPolicy := by
  have hspecs : firstViolation ⟨inp, pauseDecision⟩ policySpecs = .ok none := by
    simp [firstViolation, policySpecs, staleDataSpec, noSlRemovalSpec, noSlWideningSpec,
      scaleInSafetySpec, reverseAndReopenSpec, noPortfolioRiskBreachSpec, pauseDecision,
      ExecutionParams.keep, PositionActionType.modifiesSl, PositionActionType.tightens]
  unfold PolicyGuard.validate
  rw [hspecs]
  rfl

/-- Flagged data is met with a pause. -/
theorem idle_of_flagged (hflagged : env.flagged = true) (assessment : Assessment) (host : Host)
    (ltp : Decimal) : env.Idle assessment host symbol ltp := by
  cases hposition : env.openPosition with
  | none => exact Or.inr (calls_of_none hposition assessment host ltp)
  | some pos =>
      left
      have hstale : (env.managementInput symbol ltp pos).stale = true := by
        rw [stale_managementInput, hflagged]
      have hdecision : assess assessment (env.managementInput symbol ltp pos) = pauseDecision :=
        if_pos hstale
      refine ⟨pausedPolicy, ?_, rfl⟩
      simp [policy, hposition, hdecision, validate_pauseDecision, Except.toOption]

/-- A partial exit of twice the position, which the guard brings into bounds. -/
def excessiveExit : PositionManagementDecision :=
  { action := .takePartialProfit
    confidence := 1
    execution := { type := "partial_exit", exitQtyPct := some (.fin 2) } }

/-- What is handed on of it. -/
def exitPolicy : PolicyDecision :=
  { approved := true
    action := .takePartialProfit
    originalAction := .takePartialProfit
    modifiedParams := some { type := "partial_exit", exitQtyPct := some (.fin 1) } }

theorem validate_excessiveExit {inp : PositionManagementInput} (hfresh : inp.stale = false) :
    PolicyGuard.validate inp excessiveExit = .ok exitPolicy := by
  have hspecs : firstViolation ⟨inp, excessiveExit⟩ policySpecs = .ok none := by
    simp [firstViolation, policySpecs, staleDataSpec, noSlRemovalSpec, noSlWideningSpec,
      scaleInSafetySpec, reverseAndReopenSpec, noPortfolioRiskBreachSpec, excessiveExit, hfresh,
      PositionActionType.modifiesSl, PositionActionType.tightens]
  have hclamped : clampParams inp excessiveExit =
      { type := "partial_exit", exitQtyPct := some (.fin 1) } := by
    have hpct : clampExitPct (.fin 2) = .fin 1 := by decide +kernel
    simp [clampParams, excessiveExit, hpct]
  unfold PolicyGuard.validate
  rw [hspecs, hclamped]
  rfl

/-- It is a call on the wallet, at the price that was noted. -/
theorem apply_exitPolicy {inp : PositionManagementInput} :
    final (PositionExecutor.apply demoHost false inp exitPolicy) [] =
      [.partialClose inp.position.symbol inp.position.ltp (.fin (99 / 100))] := by
  rw [PositionExecutor.apply_approved rfl (by decide)]
  have hpct : exitFraction { type := "partial_exit", exitQtyPct := some (.fin 1) } =
      .fin (99 / 100) := by decide +kernel
  show final (tryCatch (partialExit demoHost inp.position.symbol
    { type := "partial_exit", exitQtyPct := some (.fin 1) } inp) _) [] = _
  unfold partialExit
  rw [hpct]
  rfl

/-- Data that is not flagged is acted on. -/
theorem not_idle_of_unflagged (hflagged : env.flagged = false) (hdry : env.dryRun = false)
    {pos : EnhancedPosition} (hposition : env.openPosition = some pos) (ltp : Decimal) :
    ¬ env.Idle (fun _ => excessiveExit) demoHost symbol ltp := by
  have hfresh : (env.managementInput symbol ltp pos).stale = false := by
    rw [stale_managementInput, hflagged]
  have hdecision : assess (fun _ => excessiveExit) (env.managementInput symbol ltp pos) =
      excessiveExit := by
    simp [assess, hfresh]
  have hpolicy : env.policy (fun _ => excessiveExit) symbol ltp = some exitPolicy := by
    simp [policy, hposition, hdecision, validate_excessiveExit hfresh, Except.toOption]
  rintro (⟨policy, hsome, hpause⟩ | hnone)
  · rw [hpolicy, Option.some.injEq] at hsome
    rw [← hsome] at hpause
    cases hpause
  · simp [calls, hposition, hpolicy, hdry, apply_exitPolicy] at hnone

/-- An evaluation leaves stale prices alone exactly if it is guarded. -/
theorem safe_iff : env.Safe symbol tick ↔ env.Guarded tick := by
  unfold Guarded
  rw [← flagged_iff]
  constructor
  · intro hsafe
    by_contra hunguarded
    simp only [not_or, not_not, Bool.not_eq_true] at hunguarded
    obtain ⟨hstale, hflagged, hdry, hposition⟩ := hunguarded
    obtain ⟨pos, hpos⟩ := Option.ne_none_iff_exists'.mp hposition
    exact not_idle_of_unflagged hflagged hdry hpos tick.ltp (hsafe hstale _ _)
  · rintro (hfresh | hflagged | hdry | hnone) hstale assessment host
    · exact absurd hstale hfresh
    · exact idle_of_flagged hflagged assessment host tick.ltp
    · exact Or.inr (calls_of_dryRun hdry assessment host tick.ltp)
    · exact Or.inr (calls_of_none hnone assessment host tick.ltp)

end Evaluations

end EvaluationInput

/-! ## Ticks and evaluations -/

/-- An evaluation that was started, with the price it took for the current one. -/
structure StartedEvaluation where
  symbol : Symbol
  tick : NotedTick
  env : EvaluationInput

/-- `_last_prices`, and the evaluations so far. -/
structure NotedPrices where
  lastPrices : Symbol → Option NotedTick := fun _ => none
  started : List StartedEvaluation := []

/-- A tick, or an evaluation that gets past the debounce. -/
inductive PriceEvent where
  | onTick (symbol : Symbol) (tick : NotedTick)
  | evaluateSymbol (symbol : Symbol) (env : EvaluationInput)

namespace NotedPrices

/-- A tick replaces the price of its symbol; without one there is no evaluation. -/
def step (s : NotedPrices) : PriceEvent → NotedPrices
  | .onTick symbol tick => { s with lastPrices := Function.update s.lastPrices symbol (some tick) }
  | .evaluateSymbol symbol env =>
      match s.lastPrices symbol with
      | none => s
      | some tick => { s with started := s.started ++ [⟨symbol, tick, env⟩] }

/-- No evaluation has acted on stale prices. -/
def NeverStale (s : NotedPrices) : Prop :=
  ∀ evaluation ∈ s.started, evaluation.env.Safe evaluation.symbol evaluation.tick

/-- An evaluation that starts is guarded. -/
def Guards (s : NotedPrices) : PriceEvent → Prop
  | .onTick _ _ => True
  | .evaluateSymbol symbol env => ∀ tick, s.lastPrices symbol = some tick → env.Guarded tick

theorem step_iff {s : NotedPrices} (h : s.NeverStale) (e : PriceEvent) :
    (s.step e).NeverStale ↔ s.Guards e := by
  cases e with
  | onTick symbol tick => exact iff_of_true h trivial
  | evaluateSymbol symbol env =>
      show _ ↔ ∀ tick, s.lastPrices symbol = some tick → env.Guarded tick
      cases hprice : s.lastPrices symbol with
      | none =>
          have hsame : s.step (.evaluateSymbol symbol env) = s := by simp [step, hprice]
          rw [hsame]
          simpa [hprice] using h
      | some tick =>
          have hnext : (s.step (.evaluateSymbol symbol env)).started =
              s.started ++ [⟨symbol, tick, env⟩] := by simp [step, hprice]
          unfold NeverStale
          rw [hnext, List.forall_mem_append, List.forall_mem_singleton]
          have hold : ∀ started ∈ s.started, started.env.Safe started.symbol started.tick := h
          rw [and_iff_right hold, EvaluationInput.safe_iff]
          simp

/-- Stale prices are never acted on throughout a run exactly if every evaluation of it
is guarded. -/
theorem neverStale_iff (events : List PriceEvent) :
    (∀ before, before <+: events → (before.foldl step {}).NeverStale) ↔
      AllOk step Guards {} events := by
  have hstart : ({} : NotedPrices).NeverStale := fun _ hmem => by cases hmem
  have hstep : ∀ (s : NotedPrices) (e : PriceEvent), True → s.NeverStale →
      True ∧ ((s.step e).NeverStale ↔ s.Guards e) :=
    fun _ e _ h => ⟨trivial, step_iff h e⟩
  exact AllOk.kept_iff hstep events trivial hstart

/-! ### Ticks that stop -/

/-- The candle that is forming was fetched a moment ago and closes in half an hour. -/
def formingFrame (nowMs : ℤ) : FetchedFrame :=
  { length := 200, closeTime := .number (nowMs + 1800000), asOf := nowMs }

/-- Ten minutes after the last tick. -/
def outage : List PriceEvent :=
  [.onTick demoSymbol ⟨100, 0⟩,
    .evaluateSymbol demoSymbol
      { nowMs := 600000
        fetched := some (formingFrame 600000)
        refetched := none
        position := some RiskBook.lockedLong.val
        wallet := { equity := 4000, freeCapital := 3900 }
        portfolio := { maxTotalRisk := 4000, currentTotalRisk := 100 }
        constraints := {}
        atrPct := 0
        dryRun := false }]

theorem outage_acted_on : ¬ ∀ events : List PriceEvent, (events.foldl step {}).NeverStale := by
  intro h
  have hguarded := EvaluationInput.safe_iff.mp (h outage _ List.mem_cons_self)
  rcases hguarded with hfresh | hexposed | hdry | hnone
  · exact hfresh (Or.inl (by decide))
  · obtain hfew | ⟨ms, hms, -, hold⟩ := hexposed (formingFrame 600000) rfl
    · exact absurd hfew (by decide)
    · cases hms
      exact absurd hold (by decide)
  · cases hdry
  · cases hnone

end NotedPrices

end CryptoTrader
