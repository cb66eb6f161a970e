import CryptoTrader.Management.Schemas
import Mathlib.Tactic.Linarith

/-!
# The policy guard

`PolicyGuard` of `position_management/policy_guard.py`: six rules, each a
predicate with a reason, tried in order, and the clamps that an approved
decision goes through.  A rule can raise: the reason for a widened stop divides
by the current risk distance.
-/

namespace CryptoTrader

open CryptoTrader.Lib

/-! ## The rules -/

def minMarginHeadroomForScaleIn : Decimal := 25 / 100
def maxRiskUtilisationForScaleIn : Decimal := 80 / 100
def minConfidenceReverse : Decimal := 85 / 100
def maxSlWidenFactor : Decimal := 12 / 10

structure PolicyCtx where
  inp : PositionManagementInput
  decision : PositionManagementDecision

/-- A rule: nothing when it is satisfied, else the reason. -/
abbrev PolicySpec := PolicyCtx → Except PyErr (Option String)

/-- `_StaleDataSpec`. -/
def staleDataSpec : PolicySpec := fun ctx =>
  if ctx.inp.stale ∧ ctx.decision.action ≠ .pauseManagement then
    .ok (some "stale_data: feed disconnected or data > 60s")
  else .ok none

/-- `_NoSLRemovalSpec`. -/
def noSlRemovalSpec : PolicySpec := fun ctx =>
  if ctx.decision.action.modifiesSl ∧ ctx.decision.execution.newStopLoss = none then
    .ok (some "no_sl_removal: SL-modification action must supply new_stop_loss")
  else .ok none

/-- `_NoSLWideningSpec`. -/
def noSlWideningSpec : PolicySpec := fun ctx =>
  let pos := ctx.inp.position
  match ctx.decision.execution.newStopLoss with
  | none => .ok none
  | some newStop =>
      if pos.stopLoss = 0 then .ok none
      else
        let currentDist := |pos.entryPrice - pos.stopLoss|
        let newDist := PyFloat.distance pos.entryPrice newStop
        if PyFloat.lt (.fin (currentDist * maxSlWidenFactor)) newDist then
          if currentDist = 0 then .error .divisionByZero
          else
            let factor := (PyFloat.scale (1 / currentDist) newDist).fixed 2
            .ok (some s!"sl_widening: new SL widens risk by {factor}x (max 1.2x)")
        else if ctx.decision.action = .loosenSl ∧ ¬ ctx.inp.constraints.allowLoosenSl then
          .ok (some "loosen_sl_not_allowed: strategy does not permit SL loosening")
        else .ok none

/-- The free share of the equity. -/
def WalletContext.freeRatio (wallet : WalletContext) : Decimal :=
  if wallet.equity = 0 then 0 else wallet.freeCapital / wallet.equity

/-- The used share of the risk cap. -/
def PortfolioContext.riskRatio (portfolio : PortfolioContext) : Decimal :=
  if portfolio.maxTotalRisk = 0 then 1
  else portfolio.currentTotalRisk / portfolio.maxTotalRisk

/-- `_ScaleInSafetySpec`. -/
def scaleInSafetySpec : PolicySpec := fun ctx =>
  let pos := ctx.inp.position
  let freeRatio := ctx.inp.wallet.freeRatio
  let riskRatio := ctx.inp.portfolio.riskRatio
  if ctx.decision.action ≠ .scaleIn then .ok none
  else if ¬ ctx.inp.constraints.allowScaleIn then
    .ok (some "scale_in_not_allowed: strategy does not permit SCALE_IN")
  else if pos.rMultiple < 5 / 10 then
    let multiple := (PyFloat.fin pos.rMultiple).fixed 2
    .ok (some s!"scale_in_not_profitable: r_multiple={multiple} < 0.5")
  else if ¬ ctx.inp.constraints.allowAverageDown ∧ pos.unrealizedPnl ≤ 0 then
    .ok (some "no_avg_down: position is not in profit")
  else if freeRatio < minMarginHeadroomForScaleIn then
    let free := (PyFloat.fin freeRatio).percent 1
    .ok (some s!"margin_headroom: free={free} < 25.0%")
  else if maxRiskUtilisationForScaleIn ≤ riskRatio then
    let used := (PyFloat.fin riskRatio).percent 1
    .ok (some s!"portfolio_risk_cap: utilisation={used} ≥ 80.0%")
  else .ok none

/-- `_ReverseAndReopenSpec`. -/
def reverseAndReopenSpec : PolicySpec := fun ctx =>
  if ctx.decision.action = .reverseAndReopen ∧ ctx.decision.confidence < minConfidenceReverse then
    let confidence := (PyFloat.fin ctx.decision.confidence).fixed 2
    .ok (some s!"reverse_confidence: {confidence} < 0.85")
  else .ok none

/-- `_NoPortfolioRiskBreachSpec`. -/
def noPortfolioRiskBreachSpec : PolicySpec := fun ctx =>
  let portfolio := ctx.inp.portfolio
  if (ctx.decision.action = .scaleIn ∨ ctx.decision.action = .loosenSl) ∧
      portfolio.maxTotalRisk ≤ portfolio.currentTotalRisk then
    let current := (PyFloat.fin portfolio.currentTotalRisk).fixed 0
    let cap := (PyFloat.fin portfolio.maxTotalRisk).fixed 0
    .ok (some s!"portfolio_risk_breach: current={current} >= cap={cap}")
  else .ok none

/-- `PolicyGuard._specs`, each with its class name. -/
def policySpecs : List (String × PolicySpec) :=
  [("_StaleDataSpec", staleDataSpec), ("_NoSLRemovalSpec", noSlRemovalSpec),
    ("_NoSLWideningSpec", noSlWideningSpec), ("_ScaleInSafetySpec", scaleInSafetySpec),
    ("_ReverseAndReopenSpec", reverseAndReopenSpec),
    ("_NoPortfolioRiskBreachSpec", noPortfolioRiskBreachSpec)]

/-- The first rule that is not satisfied, with its reason. -/
def firstViolation (ctx : PolicyCtx) :
    List (String × PolicySpec) → Except PyErr (Option (String × String))
  | [] => .ok none
  | (name, spec) :: rest =>
      match spec ctx with
      | .error e => .error e
      | .ok (some reason) => .ok (some (name, reason))
      | .ok none => firstViolation ctx rest

/-! ## The clamps -/

/-- The market has reached the stop: it would trigger immediately. -/
def PositionSnapshot.reaches (pos : PositionSnapshot) (stop : PyFloat) : Bool :=
  match pos.side with
  | .long => PyFloat.le (.fin pos.ltp) stop
  | .short => PyFloat.le stop (.fin pos.ltp)

/-- A stop that the market has reached is put just short of it. -/
def PositionSnapshot.snapStop (pos : PositionSnapshot) (newStop : PyFloat) : PyFloat :=
  if pos.reaches newStop then
    match pos.side with
    | .long => .fin (pos.ltp * (999 / 1000))
    | .short => .fin (pos.ltp * (1001 / 1000))
  else newStop

/-- The stop is farther from the entry than the current one. -/
def PositionSnapshot.fartherThanStop (pos : PositionSnapshot) (newStop : PyFloat) : Bool :=
  PyFloat.lt (.fin |pos.entryPrice - pos.stopLoss|) (PyFloat.distance pos.entryPrice newStop)

/-- The clamps on a new stop. -/
def PositionSnapshot.clampStop (pos : PositionSnapshot) (action : PositionActionType)
    (newStop : PyFloat) : PyFloat :=
  let snapped := pos.snapStop newStop
  if action.tightens ∧ pos.fartherThanStop snapped then .fin pos.stopLoss else snapped

/-- The clamp on the fraction of an exit. -/
def clampExitPct (pct : PyFloat) : PyFloat :=
  PyFloat.pyMax (.fin (1 / 100)) (PyFloat.pyMin (.fin 1) pct)

/-- `_clamp_params`. -/
def clampParams (inp : PositionManagementInput) (decision : PositionManagementDecision) :
    ExecutionParams :=
  { decision.execution with
    exitQtyPct := decision.execution.exitQtyPct.map clampExitPct
    newStopLoss := decision.execution.newStopLoss.map (inp.position.clampStop decision.action) }

/-! ## Validation -/

/-- `PolicyGuard.validate`. -/
def PolicyGuard.validate (inp : PositionManagementInput) (decision : PositionManagementDecision) :
    Except PyErr PolicyDecision :=
  let action := decision.action
  if action = .fullExit then
    .ok { approved := true, action := action, originalAction := action }
  else
    match firstViolation ⟨inp, decision⟩ policySpecs with
    | .error e => .error e
    | .ok (some (name, reason)) =>
        .ok
          { approved := false
            action := decision.fallback
            originalAction := action
            rejectionReason := some reason
            modifiedParams := some .keep
            hardRuleTriggered := some name }
    | .ok none =>
        let safeParams := clampParams inp decision
        .ok
          { approved := true
            action := action
            originalAction := action
            modifiedParams := if safeParams ≠ decision.execution then some safeParams else none }

/-! ## What an approval says -/

/-- The rules for scaling in. -/
structure PositionManagementInput.ScaleInRules (inp : PositionManagementInput) : Prop where
  allowed : inp.constraints.allowScaleIn
  profitable : 5 / 10 ≤ inp.position.rMultiple
  noAverageDown : inp.constraints.allowAverageDown ∨ 0 < inp.position.unrealizedPnl
  headroom : minMarginHeadroomForScaleIn ≤ inp.wallet.freeRatio
  riskUtilisation : inp.portfolio.riskRatio < maxRiskUtilisationForScaleIn

/-- What the six rules say of a decision that satisfies them. -/
structure PolicyCtx.Passes (ctx : PolicyCtx) : Prop where
  fresh : ctx.inp.stale → ctx.decision.action = .pauseManagement
  supplied : ctx.decision.action.modifiesSl → ctx.decision.execution.newStopLoss ≠ none
  notWidened : ∀ newStop, ctx.decision.execution.newStopLoss = some newStop →
    ctx.inp.position.stopLoss ≠ 0 →
      ¬ PyFloat.lt
          (.fin (|ctx.inp.position.entryPrice - ctx.inp.position.stopLoss| * maxSlWidenFactor))
          (PyFloat.distance ctx.inp.position.entryPrice newStop) ∧
        (ctx.decision.action = .loosenSl → ctx.inp.constraints.allowLoosenSl)
  scaleIn : ctx.decision.action = .scaleIn → ctx.inp.ScaleInRules
  reverse : ctx.decision.action = .reverseAndReopen →
    minConfidenceReverse ≤ ctx.decision.confidence
  riskCap : ctx.decision.action = .scaleIn ∨ ctx.decision.action = .loosenSl →
    ctx.inp.portfolio.currentTotalRisk < ctx.inp.portfolio.maxTotalRisk

section Rules

variable {ctx : PolicyCtx}

theorem staleDataSpec_satisfied (h : staleDataSpec ctx = .ok none) :
    ctx.inp.stale → ctx.decision.action = .pauseManagement := by
  intro hstale
  unfold staleDataSpec at h
  by_contra hother
  rw [if_pos ⟨hstale, hother⟩] at h
  cases h

theorem noSlRemovalSpec_satisfied (h : noSlRemovalSpec ctx = .ok none) :
    ctx.decision.action.modifiesSl → ctx.decision.execution.newStopLoss ≠ none := by
  intro hmodifies hnone
  unfold noSlRemovalSpec at h
  rw [if_pos ⟨hmodifies, hnone⟩] at h
  cases h

theorem noSlWideningSpec_satisfied (h : noSlWideningSpec ctx = .ok none) {newStop : PyFloat}
    (hstop : ctx.decision.execution.newStopLoss = some newStop)
    (hcurrent : ctx.inp.position.stopLoss ≠ 0) :
    ¬ PyFloat.lt
        (.fin (|ctx.inp.position.entryPrice - ctx.inp.position.stopLoss| * maxSlWidenFactor))
        (PyFloat.distance ctx.inp.position.entryPrice newStop) ∧
      (ctx.decision.action = .loosenSl → ctx.inp.constraints.allowLoosenSl) := by
  unfold noSlWideningSpec at h
  simp only [hstop, if_neg hcurrent] at h
  split at h
  · split at h
    · cases h
    · cases h
  · refine ⟨‹_›, fun hloosen => ?_⟩
    split at h
    · cases h
    · rename_i hnot
      by_contra hforbidden
      exact hnot ⟨hloosen, hforbidden⟩

theorem scaleInSafetySpec_satisfied (h : scaleInSafetySpec ctx = .ok none)
    (haction : ctx.decision.action = .scaleIn) : ctx.inp.ScaleInRules := by
  unfold scaleInSafetySpec at h
  simp only [haction, ne_eq, not_true_eq_false, if_false] at h
  split at h
  · cases h
  · rename_i hallowed
    split at h
    · cases h
    · rename_i hprofitable
      split at h
      · cases h
      · rename_i haverage
        split at h
        · cases h
        · rename_i hheadroom
          split at h
          · cases h
          · rename_i hrisk
            rw [not_and_or, not_not, not_le] at haverage
            exact ⟨not_not.mp hallowed, not_lt.mp hprofitable, haverage, not_lt.mp hheadroom,
              not_le.mp hrisk⟩

theorem reverseAndReopenSpec_satisfied (h : reverseAndReopenSpec ctx = .ok none)
    (haction : ctx.decision.action = .reverseAndReopen) :
    minConfidenceReverse ≤ ctx.decision.confidence := by
  unfold reverseAndReopenSpec at h
  by_contra hlow
  rw [if_pos ⟨haction, not_le.mp hlow⟩] at h
  cases h

theorem noPortfolioRiskBreachSpec_satisfied (h : noPortfolioRiskBreachSpec ctx = .ok none)
    (haction : ctx.decision.action = .scaleIn ∨ ctx.decision.action = .loosenSl) :
    ctx.inp.portfolio.currentTotalRisk < ctx.inp.portfolio.maxTotalRisk := by
  unfold noPortfolioRiskBreachSpec at h
  by_contra hbreach
  simp only [if_pos (And.intro haction (not_lt.mp hbreach))] at h
  cases h

/-- Without a violation every rule is satisfied. -/
theorem firstViolation_none {specs : List (String × PolicySpec)}
    (h : firstViolation ctx specs = .ok none) : ∀ rule ∈ specs, rule.2 ctx = .ok none := by
  induction specs with
  | nil => simp
  | cons rule rest ih =>
      obtain ⟨name, spec⟩ := rule
      unfold firstViolation at h
      cases hspec : spec ctx with
      | error e =>
          rw [hspec] at h
          cases h
      | ok reason? =>
          rw [hspec] at h
          cases reason? with
          | some reason => cases h
          | none =>
              intro rule hrule
              rcases List.mem_cons.mp hrule with rfl | hrest
              · exact hspec
              · exact ih h rule hrest

theorem passes_of_firstViolation (h : firstViolation ctx policySpecs = .ok none) : ctx.Passes := by
  have hrules := firstViolation_none h
  simp only [policySpecs, List.forall_mem_cons] at hrules
  obtain ⟨hstale, hremoval, hwidening, hscaleIn, hreverse, hrisk, -⟩ := hrules
  exact
    { fresh := staleDataSpec_satisfied hstale
      supplied := noSlRemovalSpec_satisfied hremoval
      notWidened := fun _ => noSlWideningSpec_satisfied hwidening
      scaleIn := scaleInSafetySpec_satisfied hscaleIn
      reverse := reverseAndReopenSpec_satisfied hreverse
      riskCap := noPortfolioRiskBreachSpec_satisfied hrisk }

end Rules

section Validate

variable {inp : PositionManagementInput} {decision : PositionManagementDecision}
  {policy : PolicyDecision}

/-- A full exit is approved without parameters. -/
theorem PolicyGuard.validate_fullExit (haction : decision.action = .fullExit) :
    PolicyGuard.validate inp decision =
      .ok { approved := true, action := .fullExit, originalAction := .fullExit } := by
  unfold PolicyGuard.validate
  simp only [haction, if_true]

/-- Any other decision that is approved passes the rules, and its parameters
are handed on only where the clamps changed them. -/
theorem PolicyGuard.validate_approved (h : PolicyGuard.validate inp decision = .ok policy)
    (happroved : policy.approved) (haction : decision.action ≠ .fullExit) :
    PolicyCtx.Passes ⟨inp, decision⟩ ∧ policy.action = decision.action ∧
      policy.modifiedParams = if clampParams inp decision ≠ decision.execution then
        some (clampParams inp decision) else none := by
  unfold PolicyGuard.validate at h
  simp only [if_neg haction] at h
  cases hviolation : firstViolation ⟨inp, decision⟩ policySpecs with
  | error e =>
      rw [hviolation] at h
      cases h
  | ok violation? =>
      rw [hviolation] at h
      cases violation? with
      | some violation =>
          cases h
          cases happroved
      | none =>
          cases h
          exact ⟨passes_of_firstViolation hviolation, rfl, rfl⟩

/-- Whatever is approved keeps its action. -/
theorem PolicyGuard.validate_action (h : PolicyGuard.validate inp decision = .ok policy)
    (happroved : policy.approved) : policy.action = decision.action := by
  by_cases haction : decision.action = .fullExit
  · rw [PolicyGuard.validate_fullExit haction] at h
    cases h
    exact haction.symm
  · exact (PolicyGuard.validate_approved h happroved haction).2.1

end Validate

end CryptoTrader
