import CryptoTrader.Management.Executor
import CryptoTrader.Management.Stops

/-!
# The execution of what is approved

The guard hands parameters on only where its clamps changed them, and the
executor takes their absence for `keep`.  An approved decision is therefore
carried out only if the clamps happened to change it, and a full exit never is.
-/

namespace CryptoTrader

open CryptoTrader.Lib

/-- No call raises. -/
def Host.Quiet (host : Host) : Prop :=
  ∀ calls call, ∃ result, host.answer calls call = .ok result

/-- A call that puts the venue's protective order at `newStop`. -/
def ExecutorCall.replacesStop (newStop : PyFloat) : ExecutorCall → Prop
  | .cancelOrder _ _ => True
  | .placeStopMarket _ _ _ stopPrice => stopPrice = newStop
  | .recordStop _ => True
  | _ => False

/-- The calls do what the parameters say. -/
def ExecutionParams.CarriedOutBy (params : ExecutionParams) (inp : PositionManagementInput)
    (calls : List ExecutorCall) : Prop :=
  let pos := inp.position
  if params.type = "modify_stop" then
    ∃ newStop rest, params.newStopLoss = some newStop ∧
      calls = .adjustSl pos.symbol newStop :: rest ∧ ∀ call ∈ rest, call.replacesStop newStop
  else if params.type = "partial_exit" then
    calls = [.partialClose pos.symbol pos.ltp (params.exitQtyPct.getD (.fin (1 / 2)))]
  else if params.type = "full_exit" then calls = [.closePosition pos.symbol pos.ltp]
  else if params.type = "scale_in" then
    calls = [.placeMarketOrder pos.symbol pos.side
      (PyFloat.scale pos.qty (params.scaleQtyPct.getD (.fin (1 / 4))))]
  else calls = []

/-- A decision is performed: no skip is reported, a full exit closes the
position, and any other action does what its clamped parameters say. -/
structure PositionManagementDecision.PerformedBy (decision : PositionManagementDecision)
    (inp : PositionManagementInput) (outcome : ExecutionOutcome) (calls : List ExecutorCall) :
    Prop where
  reported : ¬ outcome.isSkip
  closed : decision.action = .fullExit → calls = [.closePosition inp.position.symbol inp.position.ltp]
  carried : decision.action ≠ .fullExit → (clampParams inp decision).CarriedOutBy inp calls

/-- What the handlers need in order to do what the parameters say. -/
def ExecutionParams.Feasible (params : ExecutionParams) (host : Host)
    (inp : PositionManagementInput) : Prop :=
  let symbol := inp.position.symbol
  if params.type = "modify_stop" then
    (∃ newStop, params.newStopLoss = some newStop ∧
      ¬ PyFloat.lt (PyFloat.distance inp.position.stopLoss newStop) (.fin (1 / 10 ^ 8))) ∧
      ∃ pos, host.position [] symbol = some pos ∧ pos.isOpen
  else if params.type = "partial_exit" then
    ∀ pct, params.exitQtyPct = some pct → PyFloat.le pct (.fin (99 / 100))
  else if params.type = "full_exit" then True
  else if params.type = "scale_in" then
    (∃ pos, host.position [] symbol = some pos ∧ pos.mode = .live) ∧
      (∃ client, host.execution = some client ∧ client.placeMarketOrder) ∧
      (params.scaleQtyPct = some (.fin 0) → inp.position.qty = 0)
  else False

/-- A quiet host answers. -/
theorem Host.Quiet.wp_call {host : Host} (hquiet : host.Quiet) {calls : List ExecutorCall}
    {Q : Bool → List ExecutorCall → Prop} {E : PyErr → List ExecutorCall → Prop}
    {call : ExecutorCall} (h : ∀ result, Q result (calls ++ [call])) :
    wp (makeCall host call) Q E calls := by
  rw [wp_makeCall]
  obtain ⟨result, hanswer⟩ := hquiet calls call
  rw [hanswer]
  exact h result

/-! ## The handlers -/

section Handlers

variable {host : Host} {params : ExecutionParams} {inp : PositionManagementInput}

/-- The outcome is no skip and the calls do what the parameters say. -/
def ExecutionParams.Done (params : ExecutionParams) (inp : PositionManagementInput)
    (outcome : ExecutionOutcome) (calls : List ExecutorCall) : Prop :=
  ¬ outcome.isSkip ∧ params.CarriedOutBy inp calls

/-- A handler that ends normally, having done its work exactly when it can. -/
def ExecutionParams.DoneWhen (params : ExecutionParams) (inp : PositionManagementInput)
    (handler : Manage ExecutionOutcome) (condition : Prop) : Prop :=
  wp handler (fun outcome calls => params.Done inp outcome calls ↔ condition) (fun _ _ => False) []

theorem ExecutionParams.doneWhen_skip {condition : Prop} {reason : String} (h : ¬ condition) :
    params.DoneWhen inp (pure (.skipped reason)) condition :=
  ⟨fun hdone => absurd rfl hdone.1, fun hcondition => absurd hcondition h⟩

/-- The stop is adjusted where the position is open. -/
theorem walletAdjustSl_calls (hquiet : host.Quiet) {symbol : Symbol} {newStop : PyFloat} :
    wp (walletAdjustSl host symbol newStop)
      (fun _ calls => calls = if (host.position [] symbol).any HeldPosition.isOpen then
        [.adjustSl symbol newStop] else [])
      (fun _ _ => False) [] := by
  unfold walletAdjustSl
  rw [wp_bind, wp_getPosition]
  by_cases hopen : (host.position [] symbol).any HeldPosition.isOpen
  · simp only [if_pos hopen]
    rw [wp_bind]
    exact hquiet.wp_call (fun _ => rfl)
  · simp only [if_neg hopen]
    rfl

/-- A change of the stop, where one is given. -/
theorem modifyStop_done (hquiet : host.Quiet) (htype : params.type = "modify_stop") :
    params.DoneWhen inp (modifyStop host inp.position.symbol params inp)
      (params.Feasible host inp) := by
  unfold ExecutionParams.Feasible
  simp only [htype, if_true]
  unfold modifyStop
  cases hstop : params.newStopLoss with
  | none =>
      refine ExecutionParams.doneWhen_skip ?_
      rintro ⟨⟨_, h, -⟩, -⟩
      cases h
  | some newStop =>
      dsimp only
      by_cases hsame : PyFloat.lt (PyFloat.distance inp.position.stopLoss newStop)
          (.fin (1 / 10 ^ 8))
      · rw [if_pos hsame]
        refine ExecutionParams.doneWhen_skip ?_
        rintro ⟨⟨_, ⟨⟩, h⟩, -⟩
        exact h hsame
      · rw [if_neg hsame]
        unfold ExecutionParams.DoneWhen
        rw [wp_bind]
        refine wp_mono (walletAdjustSl_calls hquiet) ?_ (fun _ _ h => h)
        intro _ calls hcalls
        -- what follows only replaces the venue's order
        have hreplaced {outcome : ExecutionOutcome} {calls' : List ExecutorCall}
            (hok : outcome = .ok) (hadds : Adds (ExecutorCall.replacesStop newStop) calls calls') :
            params.Done inp outcome calls' ↔
              (∃ newStop', some newStop = some newStop' ∧
                ¬ PyFloat.lt (PyFloat.distance inp.position.stopLoss newStop') (.fin (1 / 10 ^ 8))) ∧
                ∃ pos, host.position [] inp.position.symbol = some pos ∧ pos.isOpen := by
          obtain ⟨rest, rfl, hrest⟩ := hadds
          have hopen : (host.position [] inp.position.symbol).any HeldPosition.isOpen ↔
              ∃ pos, host.position [] inp.position.symbol = some pos ∧ pos.isOpen := by
            rw [Option.any_eq_true]
          unfold ExecutionParams.Done ExecutionParams.CarriedOutBy
          simp only [htype, if_true, hstop, hok]
          rw [← hopen]
          by_cases hheld : (host.position [] inp.position.symbol).any HeldPosition.isOpen
          · rw [if_pos hheld] at hcalls
            subst hcalls
            exact ⟨fun _ => ⟨⟨newStop, rfl, hsame⟩, hheld⟩,
              fun _ => ⟨by decide, newStop, rest, rfl, rfl, hrest⟩⟩
          · rw [if_neg hheld] at hcalls
            subst hcalls
            refine ⟨?_, fun h => absurd h.2 hheld⟩
            rintro ⟨-, _, _, -, rfl, -⟩
            exact absurd (hrest _ List.mem_cons_self) id
        cases host.execution with
        | none => exact hreplaced rfl (refl_of _ _)
        | some client =>
            dsimp only
            rw [wp_bind, wp_isLive]
            by_cases hlive : (host.position calls inp.position.symbol).any
                (fun pos => pos.mode = .live)
            · rw [if_pos hlive, wp_bind]
              exact wp_mono (wp_exchangeReplaceSl (fun _ => trivial) (fun _ => rfl) trivial)
                (fun _ _ hadds => hreplaced rfl hadds) (fun _ _ h => h)
            · rw [if_neg hlive]
              exact hreplaced rfl (refl_of _ _)

/-- Part of the position, clamped once more. -/
theorem partialExit_done (hquiet : host.Quiet) (htype : params.type = "partial_exit")
    (hclamped : ∀ pct, params.exitQtyPct = some pct →
      ∃ q : ℚ, pct = .fin q ∧ 1 / 100 ≤ q) :
    params.DoneWhen inp (partialExit host inp.position.symbol params inp)
      (params.Feasible host inp) := by
  unfold ExecutionParams.Feasible ExecutionParams.DoneWhen partialExit
  simp only [htype, if_true, wp_bind]
  refine hquiet.wp_call (fun _ => ?_)
  rw [wp_pure]
  unfold ExecutionParams.Done ExecutionParams.CarriedOutBy
  simp only [htype, if_true]
  have hnoSkip : ¬ ExecutionOutcome.isSkip .ok := by decide
  have hfraction : exitFraction params = params.exitQtyPct.getD (.fin (1 / 2)) ↔
      ∀ pct, params.exitQtyPct = some pct → PyFloat.le pct (.fin (99 / 100)) := by
    unfold exitFraction
    cases hpct : params.exitQtyPct with
    | none =>
        have hhalf : max (1 / 100 : ℚ) (min (99 / 100) (1 / 2)) = 1 / 2 := by norm_num
        simp only [Option.filter_none, Option.getD_none, PyFloat.pyMin_fin, PyFloat.pyMax_fin, hhalf]
        simp
    | some pct =>
        obtain ⟨q, rfl, hleast⟩ := hclamped pct hpct
        have htruthy : PyFloat.truthy (.fin q) := by
          have hpos : q ≠ 0 := by linarith
          simp [PyFloat.truthy, hpos]
        simp only [Option.filter_some, htruthy, if_true, Option.getD_some, PyFloat.pyMin_fin,
          PyFloat.pyMax_fin, PyFloat.fin.injEq, Option.some.injEq, forall_eq', PyFloat.le_fin]
        constructor
        · intro h
          rw [← h]
          exact max_le (by norm_num) (min_le_left _ _)
        · intro h
          rw [min_eq_right h, max_eq_right hleast]
  rw [← hfraction]
  constructor
  · rintro ⟨-, hcalls⟩
    simpa using hcalls
  · intro h
    rw [h]
    exact ⟨hnoSkip, rfl⟩

theorem fullExit_done (hquiet : host.Quiet) (htype : params.type = "full_exit") :
    params.DoneWhen inp (fullExit host inp.position.symbol inp) (params.Feasible host inp) := by
  unfold ExecutionParams.Feasible ExecutionParams.DoneWhen fullExit
  simp only [htype, if_true, wp_bind]
  refine hquiet.wp_call (fun _ => ?_)
  rw [wp_pure]
  refine ⟨fun _ => trivial, fun _ => ⟨by decide, ?_⟩⟩
  unfold ExecutionParams.CarriedOutBy
  simp [htype]

/-- The added quantity is the decided one, but for an explicit zero. -/
theorem scaleQuantity_eq_iff :
    scaleQuantity params inp = PyFloat.scale inp.position.qty (params.scaleQtyPct.getD (.fin (1 / 4))) ↔
      (params.scaleQtyPct = some (.fin 0) → inp.position.qty = 0) := by
  unfold scaleQuantity
  cases params.scaleQtyPct with
  | none => simp
  | some pct =>
      by_cases hzero : pct = .fin 0
      · subst hzero
        have hfalsy : PyFloat.truthy (.fin 0) = false := by decide
        simp [Option.filter_some, hfalsy]
      · have htruthy : pct.truthy := by simpa [PyFloat.truthy] using hzero
        simp [Option.filter_some, htruthy, hzero]

theorem scaleIn_done (hquiet : host.Quiet) (htype : params.type = "scale_in") :
    params.DoneWhen inp (scaleIn host inp.position.symbol params inp)
      (params.Feasible host inp) := by
  have hdone (calls : List ExecutorCall) : params.Done inp .ok calls ↔
      calls = [.placeMarketOrder inp.position.symbol inp.position.side
        (PyFloat.scale inp.position.qty (params.scaleQtyPct.getD (.fin (1 / 4))))] := by
    unfold ExecutionParams.Done ExecutionParams.CarriedOutBy
    simp [htype, ExecutionOutcome.isSkip]
  unfold ExecutionParams.Feasible
  simp only [htype, if_true]
  have hlive : (host.position [] inp.position.symbol).any (fun pos => pos.mode = .live) ↔
      ∃ pos, host.position [] inp.position.symbol = some pos ∧ pos.mode = .live := by
    rw [Option.any_eq_true]
    simp
  rw [← hlive, ← scaleQuantity_eq_iff]
  unfold scaleIn ExecutionParams.DoneWhen
  rw [wp_bind, wp_isLive]
  by_cases h : (host.position [] inp.position.symbol).any (fun pos => pos.mode = .live)
  · rw [if_pos h]
    cases host.execution with
    | none =>
        refine ExecutionParams.doneWhen_skip ?_
        rintro ⟨-, ⟨_, ⟨⟩, -⟩, -⟩
    | some client =>
        unfold exchangeScaleIn
        rw [wp_tryCatch]
        by_cases horders : client.placeMarketOrder
        · rw [if_pos horders, wp_bind]
          refine hquiet.wp_call (fun _ => ?_)
          rw [wp_pure, hdone]
          simp [h, horders]
        · rw [if_neg horders, wp_pure, hdone]
          simp [horders]
  · rw [if_neg h]
    exact ExecutionParams.doneWhen_skip (fun hall => h hall.1)

/-- The dispatch, on parameters whose fraction has been clamped. -/
theorem dispatch_done (hquiet : host.Quiet)
    (hclamped : ∀ pct, params.exitQtyPct = some pct → ∃ q : ℚ, pct = .fin q ∧ 1 / 100 ≤ q) :
    params.DoneWhen inp (dispatch host inp params) (params.Feasible host inp) := by
  unfold dispatch
  dsimp only
  split
  · exact modifyStop_done hquiet ‹_›
  · split
    · exact partialExit_done hquiet ‹_› hclamped
    · split
      · exact fullExit_done hquiet ‹_›
      · split
        · exact scaleIn_done hquiet ‹_›
        · refine ExecutionParams.doneWhen_skip ?_
          unfold ExecutionParams.Feasible
          simp [*]

end Handlers

/-! ## Approved decisions -/

/-- The guard's clamps change the decision, which is no full exit, and the
handlers can do what the clamped parameters say. -/
structure PositionManagementDecision.HandedOn (decision : PositionManagementDecision) (host : Host)
    (inp : PositionManagementInput) : Prop where
  notFullExit : decision.action ≠ .fullExit
  changed : clampParams inp decision ≠ decision.execution
  feasible : (clampParams inp decision).Feasible host inp

/-- The fraction of a clamped exit. -/
theorem clampParams_exitQtyPct {inp : PositionManagementInput}
    {decision : PositionManagementDecision} {pct : PyFloat}
    (h : (clampParams inp decision).exitQtyPct = some pct) : ∃ q : ℚ, pct = .fin q ∧ 1 / 100 ≤ q := by
  unfold clampParams at h
  obtain ⟨raw, -, rfl⟩ := Option.map_eq_some_iff.mp h
  exact PyFloat.pyMax_pyMin_fin _ _ raw

/-- An approved action that asks for something is dispatched. -/
theorem PositionExecutor.apply_approved {host : Host} {inp : PositionManagementInput}
    {policy : PolicyDecision} (happroved : policy.approved) (hactive : ¬ policy.action.passive) :
    PositionExecutor.apply host false inp policy =
      tryCatch (dispatch host inp (policy.modifiedParams.getD .keep))
        (fun e => pure (.error e.pyStr)) := by
  unfold PositionExecutor.apply
  have hpause : policy.action ≠ .pauseManagement := by
    intro h
    rw [h] at hactive
    exact hactive rfl
  have hkeep : ¬ (policy.action = .keepOpen ∨ policy.action = .holdAndMonitor) := by
    rintro (h | h)
    · rw [h] at hactive
      exact hactive rfl
    · rw [h] at hactive
      exact hactive rfl
  simp only [Bool.false_eq_true, if_false, happroved, not_true_eq_false, if_neg hpause,
    if_neg hkeep]

/-- In a dry run, and where nothing is approved or asked for, nothing is done. -/
theorem PositionExecutor.apply_idle {host : Host} {dryRun : Bool} {inp : PositionManagementInput}
    {policy : PolicyDecision} (h : dryRun ∨ ¬ policy.approved ∨ policy.action.passive) :
    ∃ outcome, PositionExecutor.apply host dryRun inp policy = pure outcome := by
  unfold PositionExecutor.apply
  dsimp only
  by_cases hdry : dryRun = true
  · rw [if_pos hdry]
    exact ⟨_, rfl⟩
  · rw [if_neg hdry]
    by_cases happroved : policy.approved
    · have hpassive := (h.resolve_left hdry).resolve_left (not_not.mpr happroved)
      rw [if_neg (not_not.mpr happroved)]
      cases haction : policy.action with
      | keepOpen => exact ⟨_, rfl⟩
      | holdAndMonitor => exact ⟨_, rfl⟩
      | pauseManagement => exact ⟨_, rfl⟩
      | _ =>
          rw [haction] at hpassive
          cases hpassive
    · rw [if_pos happroved]
      exact ⟨_, rfl⟩

/-- An approved decision that asks for something is performed, on a host none of
whose calls raise, if and only if it is handed on. -/
theorem approved_performed_iff (host : Host) (inp : PositionManagementInput)
    (decision : PositionManagementDecision) (policy : PolicyDecision) (hquiet : host.Quiet)
    (hvalidate : PolicyGuard.validate inp decision = .ok policy) (happroved : policy.approved)
    (hactive : ¬ decision.action.passive) :
    (∃ outcome calls, PositionExecutor.apply host false inp policy [] = .ok outcome calls ∧
      decision.PerformedBy inp outcome calls) ↔ decision.HandedOn host inp := by
  have haction := PolicyGuard.validate_action hvalidate happroved
  rw [PositionExecutor.apply_approved happroved (by rwa [haction])]
  refine exists_ok_iff ?_
  rw [wp_tryCatch]
  by_cases hexit : decision.action = .fullExit
  · rw [PolicyGuard.validate_fullExit hexit] at hvalidate
    cases hvalidate
    exact ⟨fun h => absurd rfl h.reported, fun h => absurd hexit h.notFullExit⟩
  · have hparams := (PolicyGuard.validate_approved hvalidate happroved hexit).2.2
    rw [hparams]
    by_cases hchanged : clampParams inp decision ≠ decision.execution
    · rw [if_pos hchanged, Option.getD_some]
      refine wp_mono (dispatch_done hquiet (fun _ => clampParams_exitQtyPct)) ?_
        (fun _ _ h => h.elim)
      intro outcome calls hdone
      constructor
      · intro h
        exact ⟨hexit, hchanged, hdone.mp ⟨h.reported, h.carried hexit⟩⟩
      · intro h
        obtain ⟨hreported, hcarried⟩ := hdone.mpr h.feasible
        exact ⟨hreported, fun h' => absurd h' hexit, fun _ => hcarried⟩
    · rw [if_neg hchanged]
      exact ⟨fun h => absurd rfl h.reported, fun h => absurd h.changed hchanged⟩

/-! ### One decision that is performed, and one that is not -/

/-- An open paper position, and every call answered. -/
def demoHost : Host :=
  { execution := none
    position := fun _ _ => some { isOpen := true, mode := .paper, stopOrderId := "" }
    answer := fun _ _ => .ok true }

theorem demoHost_quiet : demoHost.Quiet := fun _ _ => ⟨true, rfl⟩

/-- An exit of a thousandth, which is clamped to a hundredth. -/
def demoPartialExit : PositionManagementDecision :=
  { action := .takePartialProfit
    confidence := 1
    execution := { type := "partial_exit", exitQtyPct := some (.fin (1 / 1000)) } }

theorem demoPartialExit_performed :
    ∃ outcome calls, PositionExecutor.apply demoHost false (demoPosition 95)
        { approved := true
          action := .takePartialProfit
          originalAction := .takePartialProfit
          modifiedParams := some (clampParams (demoPosition 95) demoPartialExit) } [] =
        .ok outcome calls ∧
      demoPartialExit.PerformedBy (demoPosition 95) outcome calls := by
  refine (approved_performed_iff demoHost (demoPosition 95) demoPartialExit _ demoHost_quiet
    (by decide +kernel) rfl (by decide)).mpr ⟨by decide, by decide +kernel, ?_⟩
  have hpct : (clampParams (demoPosition 95) demoPartialExit).exitQtyPct = some (.fin (1 / 100)) := by
    decide +kernel
  show ∀ pct, (clampParams (demoPosition 95) demoPartialExit).exitQtyPct = some pct →
    PyFloat.le pct (.fin (99 / 100))
  rw [hpct]
  rintro _ ⟨⟩
  rw [PyFloat.le_fin]
  norm_num

/-- A full exit is approved, and leaves the position open. -/
theorem not_approved_performed_fullExit :
    ¬ ∀ (host : Host) (inp : PositionManagementInput) (decision : PositionManagementDecision)
        (policy : PolicyDecision), host.Quiet →
      PolicyGuard.validate inp decision = .ok policy → policy.approved →
      ¬ decision.action.passive →
      ∃ outcome calls, PositionExecutor.apply host false inp policy [] = .ok outcome calls ∧
        decision.PerformedBy inp outcome calls := by
  intro h
  obtain ⟨outcome, calls, happly, hperformed⟩ := h demoHost (demoPosition 95)
    { action := .fullExit, confidence := 1 }
    { approved := true, action := .fullExit, originalAction := .fullExit } demoHost_quiet rfl rfl
    (by decide)
  cases happly
  exact hperformed.reported rfl

end CryptoTrader
