import CryptoTrader.Management.Assessor
import CryptoTrader.Management.Execution

/-!
# What a response of a language model can bring about

The guard's rules look at the action of a decision, and the executor dispatches
on the type of its parameters, which is any string.  Nothing relates the two,
so whether a response stays within its action depends on whether the clamps
hand its parameters on.
-/

namespace CryptoTrader

open CryptoTrader.Lib

/-- The stop is not farther from the market than the current one, if there is
one. -/
def PositionSnapshot.NotAway (pos : PositionSnapshot) (newStop : PyFloat) : Prop :=
  pos.stopLoss ≠ 0 →
    match pos.side with
    | .long => PyFloat.le (.fin pos.stopLoss) newStop
    | .short => PyFloat.le newStop (.fin pos.stopLoss)

/-- The action is for moving the stop there. -/
def PositionManagementInput.AllowsStop (inp : PositionManagementInput)
    (action : PositionActionType) (newStop : PyFloat) : Prop :=
  action.modifiesSl ∧
    (inp.position.NotAway newStop ∨ (action = .loosenSl ∧ inp.constraints.allowLoosenSl))

/-- The fraction by which a decision scales in. -/
def PositionManagementDecision.scalePct (decision : PositionManagementDecision) : PyFloat :=
  decision.execution.scaleQtyPct.getD (.fin (1 / 4))

/-- The call is one that the action of the decision is for. -/
def ExecutorCall.Within (inp : PositionManagementInput) (decision : PositionManagementDecision) :
    ExecutorCall → Prop
  | .placeMarketOrder _ _ qty =>
      decision.action = .scaleIn ∧ inp.ScaleInRules ∧
        (∃ q : ℚ, qty = .fin q ∧ 0 < q) ∧
        PyFloat.le qty (PyFloat.scale inp.position.qty decision.scalePct)
  | .adjustSl _ newStop => inp.AllowsStop decision.action newStop
  | .placeStopMarket _ _ _ newStop => inp.AllowsStop decision.action newStop
  | .cancelOrder _ _ => decision.action.modifiesSl
  | .recordStop _ => decision.action.modifiesSl
  | .partialClose _ _ _ => decision.action.exits
  | .closePosition _ _ => decision.action.exits

/-- The call may be made for the decision. -/
structure ExecutorCall.Authorised (inp : PositionManagementInput)
    (decision : PositionManagementDecision) (call : ExecutorCall) : Prop where
  fresh : inp.stale → decision.action = .fullExit
  within : call.Within inp decision

/-- The type of the parameters is one that the action of the decision is for. -/
def ExecutionParams.Fits (params : ExecutionParams) (inp : PositionManagementInput)
    (decision : PositionManagementDecision) : Prop :=
  if params.type = "modify_stop" then
    ∀ newStop, params.newStopLoss = some newStop →
      ¬ PyFloat.lt (PyFloat.distance inp.position.stopLoss newStop) (.fin (1 / 10 ^ 8)) →
      inp.AllowsStop decision.action newStop
  else if params.type = "partial_exit" ∨ params.type = "full_exit" then decision.action.exits = true
  else if params.type = "scale_in" then
    decision.action = .scaleIn ∧ ∃ pct : ℚ, decision.scalePct = .fin pct ∧ 0 < inp.position.qty * pct
  else True

/-! ## Within the action -/

section Within

variable {host : Host} {inp : PositionManagementInput} {decision : PositionManagementDecision}

/-- The clamps leave the quantity that is added alone. -/
theorem scaleQuantity_clampParams :
    scaleQuantity (clampParams inp decision) inp =
      PyFloat.scale inp.position.qty
        ((decision.execution.scaleQtyPct.filter PyFloat.truthy).getD (.fin (1 / 4))) := rfl

/-- The added quantity is positive and no more than was decided exactly when the
decided fraction gives a positive one. -/
theorem scaleQuantity_bounded_iff :
    ((∃ q : ℚ, scaleQuantity (clampParams inp decision) inp = .fin q ∧ 0 < q) ∧
      PyFloat.le (scaleQuantity (clampParams inp decision) inp)
        (PyFloat.scale inp.position.qty decision.scalePct)) ↔
      ∃ pct : ℚ, decision.scalePct = .fin pct ∧ 0 < inp.position.qty * pct := by
  rw [scaleQuantity_clampParams]
  unfold PositionManagementDecision.scalePct
  cases decision.execution.scaleQtyPct with
  | none => simp
  | some pct =>
      rw [Option.getD_some]
      by_cases hzero : pct = .fin 0
      · subst hzero
        have hfalsy : PyFloat.truthy (.fin 0) = false := by decide
        simp [Option.filter_some, hfalsy]
      · have htruthy : pct.truthy := by simpa [PyFloat.truthy] using hzero
        simp only [Option.filter_some, htruthy, if_true, Option.getD_some]
        cases pct with
        | fin q => simp
        | nan => simp [PyFloat.scale]
        | posInf =>
            have hinfinite (q : ℚ) : PyFloat.scale inp.position.qty .posInf ≠ .fin q := by
              unfold PyFloat.scale
              split_ifs <;> exact PyFloat.noConfusion
            simp [hinfinite]
        | negInf =>
            have hinfinite (q : ℚ) : PyFloat.scale inp.position.qty .negInf ≠ .fin q := by
              unfold PyFloat.scale
              split_ifs <;> exact PyFloat.noConfusion
            simp [hinfinite]

/-- Parameters that fit lead only to calls that are within the action. -/
theorem dispatch_within (hrules : PolicyCtx.Passes ⟨inp, decision⟩)
    (hfits : (clampParams inp decision).Fits inp decision) :
    Moves (Adds (ExecutorCall.Within inp decision))
      (dispatch host inp (clampParams inp decision)) := by
  unfold ExecutionParams.Fits at hfits
  unfold dispatch
  dsimp only
  by_cases hmodify : (clampParams inp decision).type = "modify_stop"
  · rw [if_pos hmodify] at hfits ⊢
    refine modifyStop_adds (fun newStop hstop hchanged => ?_)
    have hallows := hfits newStop hstop hchanged
    exact ⟨hallows, fun _ => hallows.1, fun _ => hallows, hallows.1⟩
  · rw [if_neg hmodify] at hfits ⊢
    by_cases hpart : (clampParams inp decision).type = "partial_exit"
    · rw [if_pos (Or.inl hpart)] at hfits
      rw [if_pos hpart]
      exact Moves.bind (makeCall_adds hfits) (fun _ => Moves.pure _)
    · rw [if_neg hpart]
      by_cases hfull : (clampParams inp decision).type = "full_exit"
      · rw [if_pos (Or.inr hfull)] at hfits
        rw [if_pos hfull]
        exact Moves.bind (makeCall_adds hfits) (fun _ => Moves.pure _)
      · rw [if_neg (not_or.mpr ⟨hpart, hfull⟩)] at hfits
        rw [if_neg hfull]
        by_cases hscale : (clampParams inp decision).type = "scale_in"
        · rw [if_pos hscale] at hfits ⊢
          have hbounded := scaleQuantity_bounded_iff.mpr hfits.2
          exact scaleIn_adds ⟨hfits.1, hrules.scaleIn hfits.1, hbounded⟩
        · rw [if_neg hscale]
          exact Moves.pure _

end Within

/-! ## A host on which everything succeeds -/

/-- A live position, and a client with every method. -/
def busyHost : Host :=
  { execution := some { cancelOrder := true, placeStopMarket := true, placeMarketOrder := true }
    position := fun _ _ => some { isOpen := true, mode := .live, stopOrderId := "SL-1" }
    answer := fun _ _ => .ok true }

theorem busyHost_quiet : busyHost.Quiet := fun _ _ => ⟨true, rfl⟩

section Busy

variable {inp : PositionManagementInput} {decision : PositionManagementDecision}
  {params : ExecutionParams}

/-- A stop that changes is adjusted. -/
theorem busyHost_modifyStop (htype : params.type = "modify_stop") {newStop : PyFloat}
    (hstop : params.newStopLoss = some newStop)
    (hchanged : ¬ PyFloat.lt (PyFloat.distance inp.position.stopLoss newStop) (.fin (1 / 10 ^ 8))) :
    .adjustSl inp.position.symbol newStop ∈ final (dispatch busyHost inp params) [] := by
  have hfeasible : params.Feasible busyHost inp := by
    unfold ExecutionParams.Feasible
    simp only [htype, if_true]
    exact ⟨⟨newStop, hstop, hchanged⟩, _, rfl, rfl⟩
  have hdispatch : dispatch busyHost inp params =
      modifyStop busyHost inp.position.symbol params inp := if_pos htype
  rw [hdispatch]
  refine (wp_final (P := fun calls => .adjustSl inp.position.symbol newStop ∈ calls) _).mp
    (wp_mono (modifyStop_done busyHost_quiet htype) ?_ (fun _ _ h => h.elim))
  intro outcome calls hdone
  obtain ⟨-, hcarried⟩ := hdone.mpr hfeasible
  unfold ExecutionParams.CarriedOutBy at hcarried
  simp only [htype, if_true, hstop, Option.some.injEq] at hcarried
  obtain ⟨_, rest, rfl, rfl, -⟩ := hcarried
  exact List.mem_cons_self

theorem busyHost_partialExit (htype : params.type = "partial_exit") :
    final (dispatch busyHost inp params) [] =
      [.partialClose inp.position.symbol inp.position.ltp (exitFraction params)] := by
  unfold dispatch
  simp only [htype]
  rfl

theorem busyHost_fullExit (htype : params.type = "full_exit") :
    final (dispatch busyHost inp params) [] =
      [.closePosition inp.position.symbol inp.position.ltp] := by
  unfold dispatch
  simp only [htype]
  rfl

theorem busyHost_scaleIn (htype : params.type = "scale_in") :
    final (dispatch busyHost inp params) [] =
      [.placeMarketOrder inp.position.symbol inp.position.side (scaleQuantity params inp)] := by
  unfold dispatch
  simp only [htype]
  rfl

/-- Where every call is within the action, the parameters fit. -/
theorem fits_of_busyHost
    (h : ∀ call ∈ final (dispatch busyHost inp (clampParams inp decision)) [],
      call.Within inp decision) :
    (clampParams inp decision).Fits inp decision := by
  unfold ExecutionParams.Fits
  by_cases hmodify : (clampParams inp decision).type = "modify_stop"
  · rw [if_pos hmodify]
    intro newStop hstop hchanged
    exact h _ (busyHost_modifyStop hmodify hstop hchanged)
  · rw [if_neg hmodify]
    by_cases hpart : (clampParams inp decision).type = "partial_exit"
    · rw [if_pos (Or.inl hpart)]
      rw [busyHost_partialExit hpart] at h
      exact h _ List.mem_cons_self
    · by_cases hfull : (clampParams inp decision).type = "full_exit"
      · rw [if_pos (Or.inr hfull)]
        rw [busyHost_fullExit hfull] at h
        exact h _ List.mem_cons_self
      · rw [if_neg (not_or.mpr ⟨hpart, hfull⟩)]
        by_cases hscale : (clampParams inp decision).type = "scale_in"
        · rw [if_pos hscale]
          rw [busyHost_scaleIn hscale] at h
          obtain ⟨haction, -, hbounded⟩ := h _ List.mem_cons_self
          exact ⟨haction, scaleQuantity_bounded_iff.mp hbounded⟩
        · rw [if_neg hscale]
          trivial

end Busy

/-! ## Responses -/

section Apply

variable {inp : PositionManagementInput} {decision : PositionManagementDecision}
  {policy : PolicyDecision}

/-- What runs is the dispatch of an approved action that asks for something. -/
theorem PositionExecutor.apply_adds {host : Host} {dryRun : Bool} {P : ExecutorCall → Prop}
    (h : policy.approved → ¬ policy.action.passive →
      Moves (Adds P) (dispatch host inp (policy.modifiedParams.getD .keep))) :
    Moves (Adds P) (PositionExecutor.apply host dryRun inp policy) := by
  by_cases hidle : dryRun ∨ ¬ policy.approved ∨ policy.action.passive
  · obtain ⟨outcome, happly⟩ : ∃ outcome,
        PositionExecutor.apply host dryRun inp policy = pure outcome :=
      PositionExecutor.apply_idle hidle
    rw [happly]
    exact Moves.pure outcome
  · obtain ⟨hdry, hruns⟩ := not_or.mp hidle
    obtain ⟨happroved, hactive⟩ := not_or.mp hruns
    rw [Bool.not_eq_true] at hdry
    rw [hdry, PositionExecutor.apply_approved (not_not.mp happroved) hactive]
    exact Moves.tryCatch (h (not_not.mp happroved) hactive) (fun _ => Moves.pure _)

/-- The guard accepts the decision by its rules. -/
theorem PolicyGuard.approved_iff (h : PolicyGuard.validate inp decision = .ok policy)
    (hexit : decision.action ≠ .fullExit) :
    policy.approved ↔ firstViolation ⟨inp, decision⟩ policySpecs = .ok none := by
  unfold PolicyGuard.validate at h
  simp only [if_neg hexit] at h
  cases hviolation : firstViolation ⟨inp, decision⟩ policySpecs with
  | error e =>
      rw [hviolation] at h
      cases h
  | ok violation? =>
      rw [hviolation] at h
      cases violation? with
      | some violation =>
          cases h
          simp
      | none =>
          cases h
          simp

end Apply

/-- The guard hands the parameters of the decision on: the rules are satisfied,
the action asks for something other than a full exit, and the clamps change a
parameter. -/
structure PositionManagementDecision.Passed (decision : PositionManagementDecision)
    (inp : PositionManagementInput) : Prop where
  satisfied : firstViolation ⟨inp, decision⟩ policySpecs = .ok none
  active : ¬ decision.action.passive
  notFullExit : decision.action ≠ .fullExit
  changed : clampParams inp decision ≠ decision.execution

/-- Whatever a response is read as, the executor keeps to what its action is for,
on every host, if and only if the type of the parameters fits the action
whenever they are handed on. -/
theorem response_confined_iff (py : Python) (raw : String) (inp : PositionManagementInput)
    (decision : PositionManagementDecision) (policy : PolicyDecision) :
    parseResponse py raw inp = .ok (some decision) →
    PolicyGuard.validate inp decision = .ok policy →
      ((∀ (host : Host) (dryRun : Bool),
        ∀ call ∈ final (PositionExecutor.apply host dryRun inp policy) [],
          call.Authorised inp decision) ↔
        (decision.Passed inp → (clampParams inp decision).Fits inp decision)) := by
  intro _ hvalidate
  constructor
  · intro h hpassed
    have happroved := (PolicyGuard.approved_iff hvalidate hpassed.notFullExit).mpr hpassed.satisfied
    obtain ⟨-, haction, hparams⟩ :=
      PolicyGuard.validate_approved hvalidate happroved hpassed.notFullExit
    have hcalls := h busyHost false
    rw [PositionExecutor.apply_approved happroved (by rw [haction]; exact hpassed.active), hparams,
      if_pos hpassed.changed, Option.getD_some] at hcalls
    rw [final_tryCatch_pure] at hcalls
    exact fits_of_busyHost (fun call hcall => (hcalls call hcall).within)
  · intro h host dryRun
    have hruns : Moves (Adds (ExecutorCall.Authorised inp decision))
        (PositionExecutor.apply host dryRun inp policy) := by
      refine PositionExecutor.apply_adds (fun happroved hactive => ?_)
      have hkeep : Moves (Adds (ExecutorCall.Authorised inp decision)) (dispatch host inp .keep) :=
        Moves.pure _
      by_cases hexit : decision.action = .fullExit
      · rw [PolicyGuard.validate_fullExit hexit] at hvalidate
        cases hvalidate
        exact hkeep
      · obtain ⟨hrules, haction, hparams⟩ :=
          PolicyGuard.validate_approved hvalidate happroved hexit
        rw [haction] at hactive
        rw [hparams]
        by_cases hchanged : clampParams inp decision ≠ decision.execution
        · rw [if_pos hchanged, Option.getD_some]
          have hfits := h ⟨(PolicyGuard.approved_iff hvalidate hexit).mp happroved, hactive, hexit,
            hchanged⟩
          refine (dispatch_within hrules hfits).mono ?_
          rintro calls _ ⟨more, rfl, hmore⟩
          refine ⟨more, rfl, fun call hcall => ⟨fun hstale => ?_, hmore call hcall⟩⟩
          -- only a pause passes the rules on stale data
          have hpause := hrules.fresh hstale
          rw [show decision.action = .pauseManagement from hpause] at hactive
          exact absurd rfl hactive
        · rw [if_neg hchanged]
          exact hkeep
    obtain ⟨more, hfinal, hmore⟩ := (wp_final (P := Adds (ExecutorCall.Authorised inp decision) [])
      _).mp (hruns [])
    rw [hfinal]
    exact hmore

/-! ### Half the position sold, and a stop that closes it -/

/-- An interpreter whose `str` and `float` are not asked. -/
def demoPython : Python := { str := fun _ => "", float := fun _ => none, recursionLimit := 1000 }

def exitResponse : String :=
  "```\x7b\"action\": \"TAKE_PARTIAL_PROFIT\", \"execution\": " ++
    "\x7b\"type\": \"partial_exit\", \"exit_qty_pct\": 2.5\x7d\x7d```"

def exitDecision : PositionManagementDecision :=
  { action := .takePartialProfit
    confidence := 1 / 2
    execution := { type := "partial_exit", exitQtyPct := some (.fin (5 / 2)) } }

theorem exitResponse_confined :
    .partialClose (demoPosition 95).position.symbol 110 (.fin (99 / 100)) ∈
        final (PositionExecutor.apply busyHost false (demoPosition 95)
          { approved := true
            action := .takePartialProfit
            originalAction := .takePartialProfit
            modifiedParams := some { type := "partial_exit", exitQtyPct := some (.fin 1) } }) [] ∧
      (ExecutorCall.partialClose (demoPosition 95).position.symbol 110 (.fin (99 / 100))).Authorised
        (demoPosition 95) exitDecision := by
  have hcall : .partialClose (demoPosition 95).position.symbol 110 (.fin (99 / 100)) ∈
      final (PositionExecutor.apply busyHost false (demoPosition 95)
        { approved := true
          action := .takePartialProfit
          originalAction := .takePartialProfit
          modifiedParams := some { type := "partial_exit", exitQtyPct := some (.fin 1) } }) [] := by
    decide +kernel
  refine ⟨hcall, (response_confined_iff demoPython exitResponse (demoPosition 95) exitDecision _
    (by decide +kernel) (by decide +kernel)).mpr (fun _ => ?_) busyHost false _ hcall⟩
  unfold ExecutionParams.Fits
  rw [if_neg (by decide), if_pos (by decide)]
  decide

def closingResponse : String :=
  "\x7b\"action\": \"TIGHTEN_SL\", \"execution\": \x7b\"type\": \"full_exit\", " ++
    "\"new_stop_loss\": 96, \"exit_qty_pct\": 5\x7d\x7d"

def closingDecision : PositionManagementDecision :=
  { action := .tightenSl
    confidence := 1 / 2
    execution :=
      { type := "full_exit", newStopLoss := some (.fin 96), exitQtyPct := some (.fin 5) } }

/-- The fraction is clamped, the parameters are handed on, and the position is
closed. -/
theorem not_response_confined_tightenSl :
    ¬ ∀ (py : Python) (raw : String) (inp : PositionManagementInput)
        (decision : PositionManagementDecision) (policy : PolicyDecision),
      parseResponse py raw inp = .ok (some decision) →
      PolicyGuard.validate inp decision = .ok policy →
      ∀ (host : Host) (dryRun : Bool),
        ∀ call ∈ final (PositionExecutor.apply host dryRun inp policy) [],
          call.Authorised inp decision := by
  intro h
  have hclose : closingDecision.action.exits = true := (h demoPython closingResponse (demoPosition 95) closingDecision
    { approved := true
      action := .tightenSl
      originalAction := .tightenSl
      modifiedParams :=
        some { type := "full_exit", newStopLoss := some (.fin 96), exitQtyPct := some (.fin 1) } }
    (by decide +kernel) (by decide +kernel) busyHost false
    (.closePosition (demoPosition 95).position.symbol 110) (by decide +kernel)).within
  exact absurd hclose (by decide)

end CryptoTrader
