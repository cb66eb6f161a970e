import CryptoTrader.Orders.Manager

/-!
# Retries

Whether `submit` tries as often as it should.  The first step of an attempt is
the transition to SUBMITTED.  A failed attempt leaves SUBMITTED behind, from
which that transition is not legal, so no attempt after the first reaches the
venue.
-/

namespace CryptoTrader.Orders

open CryptoTrader.Lib

/-! ## What a submission touches -/

/-- Only the lifecycle of one client order id moves, and only legally. -/
structure OnlyLifecycle (clientOrderId : String) (m m' : OrderManager) : Prop where
  engine : m'.engine = m.engine
  maxRetries : m'.maxRetries = m.maxRetries
  others : ∀ id, id ≠ clientOrderId → m'.lifecycles.get? id = m.lifecycles.get? id
  own : ∀ lc, m.lifecycles.get? clientOrderId = some lc →
    ∃ lc', m'.lifecycles.get? clientOrderId = some lc' ∧ lc.state.Legally lc'.state ∧
      lc' = { lc with state := lc'.state }

section Frame

variable {clientOrderId : String}

instance : Std.Refl (OnlyLifecycle clientOrderId) where
  refl _ := ⟨rfl, rfl, fun _ _ => rfl, fun lc h => ⟨lc, h, Relation.ReflTransGen.refl, rfl⟩⟩

instance : IsTrans OrderManager (OnlyLifecycle clientOrderId) where
  trans m m₁ m' h h' := by
    refine ⟨h'.engine.trans h.engine, h'.maxRetries.trans h.maxRetries,
      fun id hid => (h'.others id hid).trans (h.others id hid), fun lc hlc => ?_⟩
    obtain ⟨lc₁, hlc₁, hlegal₁, hsame₁⟩ := h.own lc hlc
    obtain ⟨lc', hlc', hlegal', hsame'⟩ := h'.own lc₁ hlc₁
    refine ⟨lc', hlc', hlegal₁.trans hlegal', ?_⟩
    rw [hsame', hsame₁]

theorem transition_moves (target : OrderState) :
    Moves (OnlyLifecycle clientOrderId) (transition clientOrderId target) := by
  intro m
  unfold transition
  rw [wp_bind, wp_get]
  cases hget : m.lifecycles.get? clientOrderId with
  | none => exact refl_of _ m
  | some lc =>
      dsimp only
      cases hlc : lc.transition target with
      | error e => exact refl_of _ m
      | ok lc' =>
          obtain ⟨hlegal, hsame⟩ := OrderLifecycle.transition_ok hlc
          refine ⟨rfl, rfl, fun id hid => Dict.get?_set_ne _ _ (Ne.symm hid), fun lc₀ hlc₀ => ?_⟩
          rw [hget] at hlc₀
          cases hlc₀
          exact ⟨lc', Dict.get?_set_self _ _ _, hlegal, hsame⟩

theorem publish_moves (event : OrderEvent) :
    Moves (OnlyLifecycle clientOrderId) (publish event) := by
  refine Moves.modify (fun m => ?_)
  split
  · exact ⟨rfl, rfl, fun _ _ => rfl, fun lc h => ⟨lc, h, Relation.ReflTransGen.refl, rfl⟩⟩
  · exact refl_of _ m

theorem placeOrder_moves (r : Submission) : Moves (OnlyLifecycle clientOrderId) (placeOrder r) := by
  intro m
  have hplaced : OnlyLifecycle clientOrderId m { m with placed := m.placed ++ [r] } :=
    ⟨rfl, rfl, fun _ _ => rfl, fun lc h => ⟨lc, h, Relation.ReflTransGen.refl, rfl⟩⟩
  unfold placeOrder
  rw [wp_bind, wp_get, wp_bind]
  show wp _ _ _ { m with placed := m.placed ++ [r] }
  cases m.engine m.placed.length with
  | error e => exact hplaced
  | ok order => exact hplaced

end Frame

theorem placeSingleAttempt_moves (r : Submission) :
    Moves (OnlyLifecycle r.clientOrderId) (placeSingleAttempt r) := by
  refine (transition_moves _).bind (fun _ => (placeOrder_moves r).bind (fun order => ?_))
  refine Moves.bind ((transition_moves _).bind (fun _ => publish_moves _)) (fun _ => ?_)
  refine Moves.bind ?_ (fun _ => Moves.pure _)
  unfold publishFill
  split
  · exact Moves.pure _
  · exact publish_moves _

theorem executeWithRetry_moves (r : Submission) (attempts : ℕ) (lastExc : Option OrderError) :
    Moves (OnlyLifecycle r.clientOrderId) (executeWithRetry r attempts lastExc) := by
  induction attempts generalizing lastExc with
  | zero => exact (transition_moves _).bind (fun _ => Moves.throw _)
  | succ attempts ih =>
      refine (placeSingleAttempt_moves r).attempt.bind (fun outcome => ?_)
      cases outcome with
      | ok order => exact Moves.pure _
      | error e => exact ih _

/-! ## Attempts -/

section Attempts

variable {r : Submission} {m : OrderManager} {lc : OrderLifecycle}
  (hlc : m.lifecycles.get? r.clientOrderId = some lc)
include hlc

theorem transition_of_refused {target : OrderState} (h : lc.state.canTransition target = false) :
    ∃ e, transition r.clientOrderId target m = .error e m ∧ e.isVenue = false := by
  obtain ⟨e, he, hvenue⟩ := OrderLifecycle.transition_of_not_can h
  refine ⟨e, ?_, hvenue⟩
  unfold transition
  rw [bind_of_ok (show (get : Orders OrderManager) m = .ok m m from rfl), hlc]
  dsimp only
  rw [he]
  rfl

theorem transition_of_legal {target : OrderState} (h : lc.state.canTransition target) :
    transition r.clientOrderId target m =
      .ok () { m with lifecycles := m.lifecycles.set r.clientOrderId { lc with state := target } } := by
  unfold transition
  rw [bind_of_ok (show (get : Orders OrderManager) m = .ok m m from rfl), hlc]
  dsimp only
  rw [OrderLifecycle.transition_of_can h]
  rfl

/-- Attempts from a lifecycle that cannot be submitted never reach the venue. -/
theorem executeWithRetry_stuck (hstuck : lc.state.canTransition .submitted = false)
    (attempts : ℕ) (lastExc : OrderError) (hlast : lastExc.isVenue = false) :
    ∃ e m', executeWithRetry r attempts (some lastExc) m = .error e m' ∧ e.isVenue = false ∧
      m'.placed = m.placed := by
  induction attempts generalizing lastExc with
  | zero =>
      unfold executeWithRetry
      cases hcan : lc.state.canTransition .failed with
      | true =>
          rw [bind_of_ok (transition_of_legal hlc hcan)]
          exact ⟨lastExc, _, rfl, hlast, rfl⟩
      | false =>
          obtain ⟨e, he, hvenue⟩ := transition_of_refused hlc hcan
          rw [bind_of_error he]
          exact ⟨e, m, rfl, hvenue, rfl⟩
  | succ attempts ih =>
      obtain ⟨e, he, hvenue⟩ := transition_of_refused hlc hstuck
      have hattempt : attempt (placeSingleAttempt r) m = .ok (.error e) m := by
        unfold attempt placeSingleAttempt
        rw [bind_of_error he]
      unfold executeWithRetry
      rw [bind_of_ok hattempt]
      exact ih e hvenue

/-- The manager when an attempt has been marked as submitted. -/
def OrderManager.submitting (m : OrderManager) (r : Submission) (lc : OrderLifecycle) :
    OrderManager :=
  { m with lifecycles := m.lifecycles.set r.clientOrderId { lc with state := .submitted } }

/-- And when it has reached the venue. -/
def OrderManager.sent (m : OrderManager) (r : Submission) (lc : OrderLifecycle) : OrderManager :=
  { m.submitting r lc with placed := m.placed ++ [r] }

omit hlc in
/-- Every status of the venue is a legal step from SUBMITTED. -/
theorem resolveVenueState_legal (order : VenueOrder) :
    OrderState.submitted.canTransition (resolveVenueState order) := by
  unfold resolveVenueState
  cases order.status with
  | _ => decide

omit hlc in
theorem placeOrder_fails {e : PyErr} (h : m.engine m.placed.length = .error e) :
    placeOrder r m = .error (.venue e) { m with placed := m.placed ++ [r] } := by
  unfold placeOrder
  rw [bind_of_ok (show (get : Orders OrderManager) m = .ok m m from rfl), h]
  rfl

omit hlc in
theorem placeOrder_serves {order : VenueOrder} (h : m.engine m.placed.length = .ok order) :
    placeOrder r m = .ok order { m with placed := m.placed ++ [r] } := by
  unfold placeOrder
  rw [bind_of_ok (show (get : Orders OrderManager) m = .ok m m from rfl), h]
  rfl

omit hlc in
theorem OrderManager.get?_sent :
    (m.sent r lc).lifecycles.get? r.clientOrderId = some { lc with state := .submitted } :=
  Dict.get?_set_self _ _ _

variable (hcreated : lc.state = .created)
include hcreated

theorem transition_submitted :
    transition r.clientOrderId .submitted m = .ok () (m.submitting r lc) :=
  transition_of_legal hlc (by rw [hcreated]; decide)

/-- The first attempt reaches the venue, which fails it. -/
theorem placeSingleAttempt_fails {e : PyErr} (h : m.engine m.placed.length = .error e) :
    placeSingleAttempt r m = .error (.venue e) (m.sent r lc) := by
  unfold placeSingleAttempt
  rw [bind_of_ok (transition_submitted hlc hcreated)]
  exact bind_of_error (placeOrder_fails (m := m.submitting r lc) h) _

/-- The first attempt reaches the venue, which serves it. -/
theorem placeSingleAttempt_serves {order : VenueOrder} (h : m.engine m.placed.length = .ok order) :
    ∃ m', placeSingleAttempt r m = .ok order m' ∧ m'.placed = m.placed ++ [r] := by
  have hsent : (m.sent r lc).lifecycles.get? r.clientOrderId =
      some { lc with state := .submitted } := OrderManager.get?_sent
  have hplace : placeOrder r (m.submitting r lc) = .ok order (m.sent r lc) :=
    placeOrder_serves (m := m.submitting r lc) h
  unfold placeSingleAttempt
  rw [bind_of_ok (transition_submitted hlc hcreated), bind_of_ok hplace]
  unfold updateLifecycleFromVenue
  rw [bind_assoc, bind_of_ok (transition_of_legal (m := m.sent r lc) hsent
    (resolveVenueState_legal order))]
  -- what is published changes neither the calls nor the result
  unfold publishFill publish
  split
  · refine ⟨_, rfl, ?_⟩
    dsimp only
    split
    · rfl
    · rfl
  · refine ⟨_, rfl, ?_⟩
    dsimp only
    split
    · rfl
    · rfl

/-! ### The loop -/

theorem executeWithRetry_serves {order : VenueOrder} (h : m.engine m.placed.length = .ok order)
    (attempts : ℕ) (lastExc : Option OrderError) :
    ∃ m', executeWithRetry r (attempts + 1) lastExc m = .ok order m' ∧
      m'.placed = m.placed ++ [r] := by
  obtain ⟨m', hsingle, hplaced⟩ := placeSingleAttempt_serves hlc hcreated h
  have hattempt : attempt (placeSingleAttempt r) m = .ok (.ok order) m' := by
    unfold attempt
    rw [hsingle]
  unfold executeWithRetry
  rw [bind_of_ok hattempt]
  exact ⟨m', rfl, hplaced⟩

/-- Once the first attempt has failed, the loop goes on from SUBMITTED. -/
theorem executeWithRetry_retries {e : PyErr} (h : m.engine m.placed.length = .error e)
    (attempts : ℕ) (lastExc : Option OrderError) :
    executeWithRetry r (attempts + 1) lastExc m =
      executeWithRetry r attempts (some (.venue e)) (m.sent r lc) := by
  have hattempt : attempt (placeSingleAttempt r) m = .ok (.error (.venue e)) (m.sent r lc) := by
    unfold attempt
    rw [placeSingleAttempt_fails hlc hcreated h]
  rw [executeWithRetry, bind_of_ok hattempt]

/-- One attempt in all: the venue's exception is raised, and the order is
FAILED. -/
theorem executeWithRetry_once {e : PyErr} (h : m.engine m.placed.length = .error e)
    (lastExc : Option OrderError) :
    ∃ m', executeWithRetry r 1 lastExc m = .error (.venue e) m' ∧
      m'.placed = m.placed ++ [r] ∧
      m'.lifecycles.get? r.clientOrderId = some { lc with state := .failed } := by
  rw [executeWithRetry_retries hlc hcreated h]
  unfold executeWithRetry
  have hsent : (m.sent r lc).lifecycles.get? r.clientOrderId =
      some { lc with state := .submitted } := OrderManager.get?_sent
  rw [bind_of_ok (transition_of_legal (m := m.sent r lc) hsent
    (show OrderState.submitted.canTransition .failed from rfl))]
  exact ⟨_, rfl, rfl, Dict.get?_set_self _ _ _⟩

/-- More than one: the second is stuck, and its refusal is what is raised. -/
theorem executeWithRetry_refused {e : PyErr} (h : m.engine m.placed.length = .error e)
    (attempts : ℕ) (lastExc : Option OrderError) :
    ∃ e' m', executeWithRetry r (attempts + 2) lastExc m = .error e' m' ∧ e'.isVenue = false ∧
      m'.placed = m.placed ++ [r] := by
  have hsent : (m.sent r lc).lifecycles.get? r.clientOrderId =
      some { lc with state := .submitted } := OrderManager.get?_sent
  obtain ⟨e₁, he₁, hvenue⟩ :=
    transition_of_refused (m := m.sent r lc) hsent
      (show OrderState.submitted.canTransition .submitted = false from rfl)
  have hattempt : attempt (placeSingleAttempt r) (m.sent r lc) = .ok (.error e₁) (m.sent r lc) := by
    unfold attempt placeSingleAttempt
    rw [bind_of_error he₁]
  rw [executeWithRetry_retries hlc hcreated h, executeWithRetry, bind_of_ok hattempt]
  exact executeWithRetry_stuck hsent rfl attempts e₁ hvenue

end Attempts

/-! ## The guard -/

/-- Only orders that are not terminal stand in the way of a submission. -/
theorem OrderManager.hasWorkingEntry_iff (m : OrderManager) (symbol : String) :
    m.hasWorkingEntry symbol ↔ ∃ id lc, m.lifecycles.get? id = some lc ∧ lc.terminal = false ∧
      lc.symbol.toUpper = symbol.toUpper ∧ lc.intent ≠ "exit" := by
  unfold hasWorkingEntry Dict.values
  rw [List.any_eq_true]
  constructor
  · rintro ⟨lc, hmem, hworking⟩
    obtain ⟨⟨id, lc'⟩, hentry, rfl⟩ := List.mem_map.mp hmem
    refine ⟨id, lc', (Dict.mem_entries_iff _).mp hentry, ?_⟩
    simpa [and_assoc] using hworking
  · rintro ⟨id, lc, hget, hworking⟩
    refine ⟨lc, List.mem_map.mpr ⟨(id, lc), (Dict.mem_entries_iff _).mpr hget, rfl⟩, ?_⟩
    simpa [and_assoc] using hworking

/-- The order of an id is not working. -/
def OrderManager.Released (m : OrderManager) (clientOrderId : String) : Prop :=
  ∀ lc, m.lifecycles.get? clientOrderId = some lc → lc.terminal

/-- Two managers that differ in an order that is working in neither refuse the
same submissions. -/
theorem OrderManager.guard_eq {m m' : OrderManager} {clientOrderId : String}
    (hothers : ∀ id, id ≠ clientOrderId → m'.lifecycles.get? id = m.lifecycles.get? id)
    (hm : m.Released clientOrderId) (hm' : m'.Released clientOrderId) (r : Submission) :
    m'.guardDuplicateSubmission r = m.guardDuplicateSubmission r := by
  have hopen (id : String) : (m'.lifecycles.get? id).filter (fun lc => !lc.terminal) =
      (m.lifecycles.get? id).filter (fun lc => !lc.terminal) := by
    by_cases hid : id = clientOrderId
    · subst hid
      have hnone {m : OrderManager} (h : m.Released id) :
          (m.lifecycles.get? id).filter (fun lc => !lc.terminal) = none := by
        cases hget : m.lifecycles.get? id with
        | none => rfl
        | some lc => simp [Option.filter, h lc hget]
      rw [hnone hm, hnone hm']
    · rw [hothers id hid]
  have hworking : m'.hasWorkingEntry r.symbol = m.hasWorkingEntry r.symbol := by
    rw [Bool.eq_iff_iff, hasWorkingEntry_iff, hasWorkingEntry_iff]
    have hsame (id : String) (lc : OrderLifecycle) (hlc : lc.terminal = false) :
        m'.lifecycles.get? id = some lc ↔ m.lifecycles.get? id = some lc := by
      have hfilter := hopen id
      constructor
      · intro hget
        rw [hget] at hfilter
        simp only [Option.filter, hlc, Bool.not_false, if_true] at hfilter
        exact (Option.filter_eq_some_iff.mp hfilter.symm).1
      · intro hget
        rw [hget] at hfilter
        simp only [Option.filter, hlc, Bool.not_false, if_true] at hfilter
        exact (Option.filter_eq_some_iff.mp hfilter).1
    constructor
    · rintro ⟨id, lc, hget, hlc, hrest⟩
      exact ⟨id, lc, (hsame id lc hlc).mp hget, hlc, hrest⟩
    · rintro ⟨id, lc, hget, hlc, hrest⟩
      exact ⟨id, lc, (hsame id lc hlc).mpr hget, hlc, hrest⟩
  unfold guardDuplicateSubmission
  rw [hopen, hworking]

/-! ## Exact retries -/

/-- The first `k` placements of the next submission fail, and the one after
them succeeds. -/
structure OrderManager.FailsFirst (m : OrderManager) (k : ℕ) : Prop where
  fails : ∀ i, i < k → ∃ e, m.engine (m.placed.length + i) = .error e
  serves : ∃ order, m.engine (m.placed.length + k) = .ok order

/-- The submission retries as it should at a venue that fails the first `k`
placements. -/
structure OrderManager.RetriesExactly (m : OrderManager) (r : Submission) (k : ℕ) : Prop where
  returns : (k : ℤ) ≤ m.maxRetries → ∃ order m', submit r m = .ok order m' ∧
    m.engine (m.placed.length + k) = .ok order ∧ m'.placed.length = m.placed.length + (k + 1)
  raises : m.maxRetries < k → ∃ e i m', submit r m = .error (.venue e) m' ∧ i < k ∧
    m.engine (m.placed.length + i) = .error e ∧
    (m'.placed.length : ℤ) = m.placed.length + (m.maxRetries + 1) ∧
    ∃ lc, m'.lifecycles.get? r.clientOrderId = some lc ∧ lc.state = .failed
  legal : ∃ lc lc', (m.register r).lifecycles.get? r.clientOrderId = some lc ∧
    (final (submit r) m).lifecycles.get? r.clientOrderId = some lc' ∧ lc.state.Legally lc'.state
  released : (final (submit r) m).Released r.clientOrderId →
    ∀ r', (final (submit r) m).guardDuplicateSubmission r' = m.guardDuplicateSubmission r'

section Submit

variable {m : OrderManager} {r : Submission}

theorem OrderManager.register_known (m : OrderManager) (r : Submission) :
    ∃ lc, (m.register r).lifecycles.get? r.clientOrderId = some lc := by
  unfold register
  cases hget : m.lifecycles.get? r.clientOrderId with
  | none => exact ⟨_, Dict.get?_set_self _ _ _⟩
  | some lc => exact ⟨lc, hget⟩

/-- A new client order id gets a lifecycle of its own. -/
theorem OrderManager.register_new (hnew : m.lifecycles.get? r.clientOrderId = none) :
    ∃ lc, (m.register r).lifecycles.get? r.clientOrderId = some lc ∧ lc.state = .created := by
  unfold register
  rw [hnew]
  exact ⟨_, Dict.get?_set_self _ _ _, rfl⟩

theorem OrderManager.register_placed (m : OrderManager) (r : Submission) :
    (m.register r).placed = m.placed ∧ (m.register r).engine = m.engine := by
  unfold register
  cases m.lifecycles.get? r.clientOrderId with
  | none => exact ⟨rfl, rfl⟩
  | some lc => exact ⟨rfl, rfl⟩

theorem OrderManager.register_others (m : OrderManager) (r : Submission) {id : String}
    (hid : id ≠ r.clientOrderId) : (m.register r).lifecycles.get? id = m.lifecycles.get? id := by
  unfold register
  cases m.lifecycles.get? r.clientOrderId with
  | none => exact Dict.get?_set_ne _ _ (Ne.symm hid)
  | some lc => rfl

variable (hguard : m.guardDuplicateSubmission r = .ok ())
include hguard

theorem OrderManager.released_of_guard : m.Released r.clientOrderId := by
  intro lc hlc
  unfold guardDuplicateSubmission at hguard
  rw [hlc] at hguard
  cases hterminal : lc.terminal with
  | true => rfl
  | false =>
      simp only [Option.filter, hterminal, Bool.not_false, if_true] at hguard
      cases hguard

theorem submit_eq : submit r m = executeWithRetry r m.attempts none (m.register r) := by
  unfold submit
  rw [bind_of_ok (show (get : Orders OrderManager) m = .ok m m from rfl), hguard]
  rfl

/-- However a submission ends, its lifecycle has only moved legally, and once it
is terminal it refuses nobody. -/
theorem submit_legal :
    (∃ lc lc', (m.register r).lifecycles.get? r.clientOrderId = some lc ∧
      (final (submit r) m).lifecycles.get? r.clientOrderId = some lc' ∧
      lc.state.Legally lc'.state) ∧
    ((final (submit r) m).Released r.clientOrderId →
      ∀ r', (final (submit r) m).guardDuplicateSubmission r' = m.guardDuplicateSubmission r') := by
  have hfinal : final (submit r) m = final (executeWithRetry r m.attempts none) (m.register r) := by
    unfold final
    rw [submit_eq hguard]
  have hmoves : OnlyLifecycle r.clientOrderId (m.register r) (final (submit r) m) := by
    rw [hfinal]
    exact (wp_final _).mp (executeWithRetry_moves r m.attempts none (m.register r))
  constructor
  · obtain ⟨lc, hlc⟩ := m.register_known r
    obtain ⟨lc', hlc', hlegal, -⟩ := hmoves.own lc hlc
    exact ⟨lc, lc', hlc, hlc', hlegal⟩
  · intro hreleased r'
    refine OrderManager.guard_eq (fun id hid => ?_) (OrderManager.released_of_guard hguard)
      hreleased r'
    rw [hmoves.others id hid, m.register_others r hid]

/-- Taking over a terminal lifecycle, the submission never reaches the venue. -/
theorem submit_known {lc : OrderLifecycle} (hlc : m.lifecycles.get? r.clientOrderId = some lc)
    (hattempts : 0 < m.attempts) :
    ∃ e m', submit r m = .error e m' ∧ e.isVenue = false ∧ m'.placed = m.placed := by
  have hterminal := OrderManager.released_of_guard hguard lc hlc
  have hstuck := OrderState.canTransition_of_terminal hterminal .submitted
  have hregister : m.register r = m := by
    unfold OrderManager.register
    rw [hlc]
  obtain ⟨attempts, hn⟩ := Nat.exists_eq_succ_of_ne_zero hattempts.ne'
  obtain ⟨e, he, hvenue⟩ := transition_of_refused hlc hstuck
  have hattempt : attempt (placeSingleAttempt r) m = .ok (.error e) m := by
    unfold attempt placeSingleAttempt
    rw [bind_of_error he]
  rw [submit_eq hguard, hregister, hn, executeWithRetry, bind_of_ok hattempt]
  exact executeWithRetry_stuck hlc hstuck attempts e hvenue

/-- Without an attempt, what is raised is no exception of the venue. -/
theorem submit_unattempted (hattempts : m.attempts = 0) :
    ∃ e m', submit r m = .error e m' ∧ e.isVenue = false := by
  rw [submit_eq hguard, hattempts]
  obtain ⟨lc, hlc⟩ := m.register_known r
  unfold executeWithRetry
  cases hcan : lc.state.canTransition .failed with
  | true =>
      rw [bind_of_ok (transition_of_legal hlc hcan)]
      exact ⟨_, _, rfl, rfl⟩
  | false =>
      obtain ⟨e, he, hvenue⟩ := transition_of_refused hlc hcan
      rw [bind_of_error he]
      exact ⟨e, _, rfl, hvenue⟩

omit hguard in
/-- An exception that is not the venue's is not what a submission should end
with. -/
theorem not_retriesExactly {k : ℕ} {e : OrderError} {m' : OrderManager}
    (hraises : submit r m = .error e m') (he : e.isVenue = false) : ¬ m.RetriesExactly r k := by
  intro h
  by_cases hk : (k : ℤ) ≤ m.maxRetries
  · obtain ⟨order, m₁, hok, -⟩ := h.returns hk
    rw [hraises] at hok
    cases hok
  · obtain ⟨e₁, i, m₁, herror, -⟩ := h.raises (not_le.mp hk)
    rw [hraises] at herror
    cases herror
    cases he

/-- A submission retries as it should exactly if its client order id is new and
there is nothing to retry. -/
theorem retriesExactly_iff {k : ℕ} (hvenue : m.FailsFirst k) :
    m.RetriesExactly r k ↔
      m.lifecycles.get? r.clientOrderId = none ∧ 0 ≤ m.maxRetries ∧ (k = 0 ∨ m.maxRetries = 0) := by
  obtain ⟨hplaced, hengine⟩ := m.register_placed r
  have hattempts : m.attempts = (m.maxRetries + 1).toNat := rfl
  constructor
  · intro h
    have hmax : 0 ≤ m.maxRetries := by
      by_contra hneg
      obtain ⟨e, m', hraises, he⟩ := submit_unattempted hguard (by omega)
      exact not_retriesExactly hraises he h
    have hnew : m.lifecycles.get? r.clientOrderId = none := by
      cases hlc : m.lifecycles.get? r.clientOrderId with
      | none => rfl
      | some lc =>
          obtain ⟨e, m', hraises, he, -⟩ := submit_known hguard hlc (by omega)
          exact absurd h (not_retriesExactly hraises he)
    refine ⟨hnew, hmax, ?_⟩
    by_contra hretry
    push Not at hretry
    obtain ⟨hk, hretries⟩ := hretry
    obtain ⟨lc, hlc, hcreated⟩ := OrderManager.register_new hnew
    obtain ⟨e, he⟩ := hvenue.fails 0 (Nat.pos_of_ne_zero hk)
    obtain ⟨attempts, hn⟩ : ∃ attempts, m.attempts = attempts + 2 :=
      ⟨m.attempts - 2, by omega⟩
    obtain ⟨e', m', hraises, hown, -⟩ :=
      executeWithRetry_refused hlc hcreated (by rw [hengine, hplaced]; exact he) attempts none
    have hsubmit : submit r m = .error e' m' := by
      rw [submit_eq hguard, hn]
      exact hraises
    exact not_retriesExactly hsubmit hown h
  · rintro ⟨hnew, hmax, hretry⟩
    obtain ⟨hlegal, hreleased⟩ := submit_legal hguard
    obtain ⟨lc, hlc, hcreated⟩ := OrderManager.register_new hnew
    refine ⟨fun hk => ?_, fun hk => ?_, hlegal, hreleased⟩
    · obtain rfl : k = 0 := by omega
      obtain ⟨order, horder⟩ := hvenue.serves
      obtain ⟨attempts, hn⟩ : ∃ attempts, m.attempts = attempts + 1 := ⟨m.attempts - 1, by omega⟩
      obtain ⟨m', hok, hm'⟩ :=
        executeWithRetry_serves hlc hcreated (by rw [hengine, hplaced]; exact horder) attempts none
      refine ⟨order, m', ?_, horder, ?_⟩
      · rw [submit_eq hguard, hn]
        exact hok
      · rw [hm', hplaced, List.length_append]
        rfl
    · obtain ⟨e, he⟩ := hvenue.fails 0 (by omega)
      have hn : m.attempts = 1 := by omega
      obtain ⟨m', hraises, hm', hfailed⟩ :=
        executeWithRetry_once hlc hcreated (by rw [hengine, hplaced]; exact he) none
      refine ⟨e, 0, m', ?_, by omega, he, ?_, _, hfailed, rfl⟩
      · rw [submit_eq hguard, hn]
        exact hraises
      · rw [hm', hplaced, List.length_append, List.length_singleton]
        omega

end Submit

/-! ### A retry that is refused -/

/-- An entry order. -/
def demoSubmission : Submission :=
  { clientOrderId := "ct-SOLUSDT-entry-1"
    symbol := "SOLUSDT"
    side := .long
    quantity := 1 }

/-- A manager whose venue times out once and then takes the order. -/
def demoManager : OrderManager :=
  { engine := fun n =>
      if n = 0 then .error (.requestError "timeout") else .ok { id := "ex-1", status := .new } }

theorem demoManager_failsOnce : demoManager.FailsFirst 1 where
  fails i hi := by
    obtain rfl : i = 0 := by omega
    exact ⟨_, rfl⟩
  serves := ⟨_, rfl⟩

/-- A venue that answers at once is asked once. -/
theorem demoManager_retriesExactly :
    { demoManager with engine := fun _ => .ok { id := "ex-1", status := .new } }.RetriesExactly
      demoSubmission 0 :=
  (retriesExactly_iff rfl ⟨fun _ hi => absurd hi (Nat.not_lt_zero _), _, rfl⟩).mpr
    ⟨rfl, by decide, Or.inl rfl⟩

/-- After one timeout nothing is tried again. -/
theorem not_retriesExactly_timeout :
    ¬ ∀ (m : OrderManager) (r : Submission) (k : ℕ), m.guardDuplicateSubmission r = .ok () →
      m.FailsFirst k → m.RetriesExactly r k := by
  intro h
  have hraises : raises (submit demoSubmission) demoManager (fun e _ => !e.isVenue) := by
    decide +kernel
  obtain ⟨e, m', hsubmit, he⟩ := exists_of_raises hraises
  exact not_retriesExactly hsubmit (by simpa using he)
    (h demoManager demoSubmission 1 rfl demoManager_failsOnce)

end CryptoTrader.Orders
