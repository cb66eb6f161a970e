import CryptoTrader.Patterns.CircuitBreaker

/-!
# The transport of the CoinDCX client

`_send` of `exchanges/coindcx_client.py` against a venue that answers in any
way.  Signing, the rate limiter, back-pressure and the waits between attempts
change nothing that is modelled, except a wait that is too long to be made.
-/

namespace CryptoTrader

open CryptoTrader.Lib CryptoTrader.Patterns

/-! ## Replies and errors -/

/-- What one attempt gets: a response, with whether it asks by `Retry-After` for
a wait that `time.sleep` refuses, `requests.Timeout`, or another exception. -/
inductive VenueReply where
  | response (statusCode : ℕ) (text : String) (endless : Bool)
  | timeout
  | networkError (message : String)
  deriving DecidableEq, Repr

/-- What `_send` raises, with its message. -/
inductive SendError where
  | circuitOpen (message : String)
  | rateLimited (message : String)
  | clientError (statusCode : ℕ) (message : String)
  | serverError (statusCode : ℕ) (message : String)
  | timeout (message : String)
  | networkError (message : String)
  | overflow
  | retriesExceeded (message : String)
  deriving DecidableEq, Repr

/-- A 5xx, a timeout or a network error. -/
def SendError.venueSide : SendError → Bool
  | .serverError .. | .timeout _ | .networkError _ => true
  | .circuitOpen _ | .rateLimited _ | .clientError .. | .overflow | .retriesExceeded _ => false

/-! ## One call -/

/-- `CoinDCXClient`, less its credentials and its session. -/
structure CoinDCXClient where
  maxRetries : ℤ := 3
  breaker : CircuitBreaker := {}

/-- A call of `_send` to the endpoint `ep`, the times of its first and its last
step, and what its attempts would get. -/
structure SendCall where
  ep : String
  retrySafe : Bool := true
  start : ℚ
  finish : ℚ
  replies : ℕ → VenueReply

/-- What is done about one reply. -/
inductive Attempt where
  | returns (text : String)
  | raises (e : SendError)
  | retries (lastExc : Option SendError)
  deriving DecidableEq, Repr

/-- The body of the loop of `_send`. -/
def SendCall.attempt (call : SendCall) : VenueReply → Attempt
  | .response statusCode text endless =>
      if statusCode = 429 then
        match endless, call.retrySafe with
        | true, true => .retries (some .overflow)
        | true, false => .raises .overflow
        | false, true => .retries none
        | false, false => .raises (.rateLimited s!"rate limited (429) on {call.ep}")
      else if 500 ≤ statusCode then
        if call.retrySafe then .retries (some (.serverError statusCode s!"server error on {call.ep}"))
        else .raises (.serverError statusCode (s!"CoinDCX {statusCode} on non-idempotent call "
          ++ "(not retried — reconcile against venue)"))
      else if 400 ≤ statusCode then
        .raises (.clientError statusCode s!"CoinDCX {statusCode}: {text.take 300}")
      else .returns text
  | .timeout =>
      if call.retrySafe then .retries (some (.timeout s!"CoinDCX request timed out on {call.ep}"))
      else .raises (.timeout ("CoinDCX timeout on non-idempotent call "
        ++ "(not retried — reconcile against venue)"))
  | .networkError message =>
      if call.retrySafe then .retries (some (.networkError message))
      else .raises (.networkError message)

/-- The loop of `_send` over the replies that are left, and what comes after it. -/
def SendCall.loop (call : SendCall) (breaker : CircuitBreaker) :
    Option SendError → List VenueReply → CircuitBreaker × Except SendError String
  | lastExc, [] =>
      (breaker.onFailure call.finish,
        .error (lastExc.getD (.retriesExceeded s!"Max retries exceeded on {call.ep}")))
  | lastExc, reply :: rest =>
      match call.attempt reply with
      | .returns text => (breaker.onSuccess, .ok text)
      | .raises e => (breaker, .error e)
      | .retries none => call.loop breaker lastExc rest
      | .retries (some e) => call.loop breaker (some e) rest

/-- The attempts that a call may make. -/
def CoinDCXClient.maxAttempts (client : CoinDCXClient) (call : SendCall) : ℕ :=
  if call.retrySafe then client.maxRetries.toNat else 1

/-- `_send`. -/
def CoinDCXClient.send (client : CoinDCXClient) (call : SendCall) :
    CircuitBreaker × Except SendError String :=
  let breaker := client.breaker.readState call.start
  if breaker.state = .opened then
    (breaker, .error (.circuitOpen ("CoinDCX circuit is OPEN — venue may be down. "
      ++ s!"Retry in {breaker.recoveryTimeout}s.")))
  else call.loop breaker none ((List.range (client.maxAttempts call)).map call.replies)

/-! ## The accounting of outages -/

/-- The count of consecutive failures after a call that ends so. -/
def countAfter (before : ℕ) : Except SendError String → ℕ
  | .ok _ => 0
  | .error e => if e.venueSide then before + 1 else before

/-- A call moves the count as its end demands. -/
def CoinDCXClient.Accounts (client : CoinDCXClient) (call : SendCall) : Prop :=
  (client.send call).1.failureCount =
    countAfter client.breaker.failureCount (client.send call).2

/-- A 5xx, a timeout or a network error. -/
def VenueReply.fails : VenueReply → Bool
  | .response statusCode _ _ => 500 ≤ statusCode
  | .timeout | .networkError _ => true

/-- A 429 whose wait can be made. -/
def VenueReply.waits : VenueReply → Bool
  | .response statusCode _ endless => statusCode = 429 ∧ ¬ endless
  | .timeout | .networkError _ => false

/-- A response that ends the call, with what it asked for or with a 4xx. -/
def VenueReply.settles : VenueReply → Bool
  | .response statusCode _ _ => statusCode < 500 ∧ statusCode ≠ 429
  | .timeout | .networkError _ => false

/-- A call that may retry has an attempt that settles it, or the last of its
attempts that was not a wait fails; an order placement does not fail. -/
def SendCall.Counted (call : SendCall) (replies : List VenueReply) : Prop :=
  if call.retrySafe then
    (∃ r ∈ replies, r.settles) ∨ ∃ r ∈ (replies.filter (fun r => ¬ r.waits)).getLast?, r.fails
  else ∀ r ∈ replies, ¬ r.fails

/-- A call that the open circuit turns away, or one whose failure is counted. -/
def CoinDCXClient.Counted (client : CoinDCXClient) (call : SendCall) : Prop :=
  (client.breaker.readState call.start).state = .opened ∨
    call.Counted ((List.range (client.maxAttempts call)).map call.replies)

/-! ## The loop -/

section Loop

variable {call : SendCall} {breaker : CircuitBreaker} {r : VenueReply} {replies : List VenueReply}

/-- The error that an attempt leaves for the end of the loop. -/
def SendCall.errorOf (call : SendCall) (r : VenueReply) : Option SendError :=
  match call.attempt r with
  | .retries e => e
  | _ => none

/-- An attempt of a call that may retry. -/
theorem SendCall.attempt_of_settles (call : SendCall) (h : r.settles = true) :
    (∃ text, call.attempt r = .returns text) ∨
      ∃ statusCode message, call.attempt r = .raises (.clientError statusCode message) := by
  cases r with
  | timeout => cases h
  | networkError message => cases h
  | response statusCode text endless =>
      simp only [VenueReply.settles, decide_eq_true_eq] at h
      have hbelow : ¬ 500 ≤ statusCode := by omega
      by_cases herror : 400 ≤ statusCode
      · simp [SendCall.attempt, h.2, hbelow, herror]
      · simp [SendCall.attempt, h.2, hbelow, herror]

theorem SendCall.attempt_of_not_settles (hsafe : call.retrySafe = true)
    (h : r.settles = false) : call.attempt r = .retries (call.errorOf r) ∧
      (call.errorOf r = none ↔ r.waits = true) ∧
      ∀ e ∈ call.errorOf r, e.venueSide = r.fails := by
  cases r with
  | timeout => simp [SendCall.errorOf, SendCall.attempt, hsafe, VenueReply.waits, VenueReply.fails,
      SendError.venueSide]
  | networkError message => simp [SendCall.errorOf, SendCall.attempt, hsafe, VenueReply.waits,
      VenueReply.fails, SendError.venueSide]
  | response statusCode text endless =>
      simp only [VenueReply.settles, decide_eq_false_iff_not, not_and] at h
      by_cases hlimited : statusCode = 429
      · cases endless with
        | true => simp [SendCall.errorOf, SendCall.attempt, hsafe, hlimited, VenueReply.waits,
            VenueReply.fails, SendError.venueSide]
        | false => simp [SendCall.errorOf, SendCall.attempt, hsafe, hlimited, VenueReply.waits,
            VenueReply.fails]
      · have hserver : 500 ≤ statusCode := by
          by_contra hbelow
          exact h (by omega) hlimited
        simp [SendCall.errorOf, SendCall.attempt, hsafe, hlimited, hserver, VenueReply.waits,
          VenueReply.fails, SendError.venueSide]

/-- A reply that settles the call is all that counts, wherever it comes. -/
theorem SendCall.loop_of_settles (hsafe : call.retrySafe = true) :
    ∀ {replies : List VenueReply} (lastExc : Option SendError), (∃ r ∈ replies, r.settles = true) →
      (call.loop breaker lastExc replies).1.failureCount =
        countAfter breaker.failureCount (call.loop breaker lastExc replies).2 := by
  intro replies
  induction replies with
  | nil =>
      rintro _ ⟨r, hr, _⟩
      cases hr
  | cons reply rest ih =>
      intro lastExc hsettles
      cases hreply : reply.settles with
      | true =>
          rcases call.attempt_of_settles hreply with ⟨text, hattempt⟩ |
            ⟨statusCode, message, hattempt⟩
          · simp [SendCall.loop, hattempt, CircuitBreaker.onSuccess, countAfter]
          · simp [SendCall.loop, hattempt, countAfter, SendError.venueSide]
      | false =>
          obtain ⟨hattempt, -, -⟩ := SendCall.attempt_of_not_settles hsafe hreply
          have hrest : ∃ r ∈ rest, r.settles = true := by
            obtain ⟨r, hr, hrsettles⟩ := hsettles
            rcases List.mem_cons.mp hr with rfl | hr
            · rw [hreply] at hrsettles
              cases hrsettles
            · exact ⟨r, hr, hrsettles⟩
          cases herror : call.errorOf reply with
          | none =>
              rw [herror] at hattempt
              simpa [SendCall.loop, hattempt] using ih lastExc hrest
          | some e =>
              rw [herror] at hattempt
              simpa [SendCall.loop, hattempt] using ih (some e) hrest

/-- Attempts none of which settles the call end in a failure, and the error is
that of the last one that was not a wait. -/
theorem SendCall.loop_of_not_settles (hsafe : call.retrySafe = true) :
    ∀ {replies : List VenueReply} (lastExc : Option SendError),
      (∀ r ∈ replies, r.settles = false) →
      call.loop breaker lastExc replies = (breaker.onFailure call.finish,
        .error (((replies.filter (fun r => ¬ r.waits)).getLast?.bind call.errorOf <|> lastExc).getD
          (.retriesExceeded s!"Max retries exceeded on {call.ep}"))) := by
  intro replies
  induction replies with
  | nil =>
      intro lastExc _
      simp [SendCall.loop]
  | cons reply rest ih =>
      intro lastExc hnone
      obtain ⟨hattempt, hwaits, -⟩ :=
        SendCall.attempt_of_not_settles hsafe (hnone reply List.mem_cons_self)
      have hrest : ∀ r ∈ rest, r.settles = false := fun r hr =>
        hnone r (List.mem_cons_of_mem reply hr)
      cases herror : call.errorOf reply with
      | none =>
          rw [herror] at hattempt
          have hwait := hwaits.mp herror
          simp [SendCall.loop, hattempt, ih lastExc hrest, hwait]
      | some e =>
          rw [herror] at hattempt
          have hwait : reply.waits = false := by
            rw [Bool.eq_false_iff]
            intro hwait
            rw [hwaits.mpr hwait] at herror
            cases herror
          have hlast : ∀ x ∈ (rest.filter (fun r => ¬ r.waits)).getLast?,
              (call.errorOf x).isSome := by
            intro x hx
            have hmem := List.mem_filter.mp (List.mem_of_mem_getLast? hx)
            obtain ⟨-, hxwaits, -⟩ := SendCall.attempt_of_not_settles hsafe (hrest x hmem.1)
            rw [Option.isSome_iff_ne_none]
            intro hxnone
            simp [hxwaits.mp hxnone] at hmem
          simp only [SendCall.loop, hattempt, ih (some e) hrest]
          rw [List.filter_cons_of_pos (by simp [hwait]), List.getLast?_cons]
          cases hx : (rest.filter (fun r => ¬ r.waits)).getLast? with
          | none => simp [herror]
          | some x =>
              obtain ⟨ex, hex⟩ := Option.isSome_iff_exists.mp (hlast x hx)
              simp [hex]

/-- A call that may retry is counted right exactly if it is settled, or fails. -/
theorem SendCall.loop_counts_iff (hsafe : call.retrySafe = true) (replies : List VenueReply) :
    (call.loop breaker none replies).1.failureCount =
        countAfter breaker.failureCount (call.loop breaker none replies).2 ↔
      (∃ r ∈ replies, r.settles = true) ∨
        ∃ r ∈ (replies.filter (fun r => ¬ r.waits)).getLast?, r.fails = true := by
  by_cases hsettles : ∃ r ∈ replies, r.settles = true
  · exact ⟨fun _ => Or.inl hsettles, fun _ => SendCall.loop_of_settles hsafe none hsettles⟩
  · have hnone : ∀ r ∈ replies, r.settles = false := by
      intro r hr
      rw [Bool.eq_false_iff]
      exact fun hr' => hsettles ⟨r, hr, hr'⟩
    rw [SendCall.loop_of_not_settles hsafe none hnone]
    simp only [hsettles, false_or, CircuitBreaker.onFailure, countAfter]
    cases hlast : (replies.filter (fun r => ¬ r.waits)).getLast? with
    | none => simp [SendError.venueSide]
    | some r =>
        have hmem := List.mem_filter.mp (List.mem_of_mem_getLast? hlast)
        obtain ⟨-, hwaits, hvenue⟩ := SendCall.attempt_of_not_settles hsafe (hnone r hmem.1)
        cases herror : call.errorOf r with
        | none => simp [hwaits.mp herror] at hmem
        | some e =>
            have hfails := hvenue e herror
            cases hr : r.fails <;> simp [herror, hfails, hr]

/-- An order placement is counted right exactly if it does not fail. -/
theorem SendCall.single_counts_iff (hsafe : call.retrySafe = false) (r : VenueReply) :
    (call.loop breaker none [r]).1.failureCount =
        countAfter breaker.failureCount (call.loop breaker none [r]).2 ↔ r.fails = false := by
  cases r with
  | timeout => simp [SendCall.loop, SendCall.attempt, hsafe, countAfter, SendError.venueSide,
      VenueReply.fails]
  | networkError message => simp [SendCall.loop, SendCall.attempt, hsafe, countAfter,
      SendError.venueSide, VenueReply.fails]
  | response statusCode text endless =>
      by_cases hlimited : statusCode = 429
      · cases endless <;> simp [SendCall.loop, SendCall.attempt, hsafe, hlimited, countAfter,
          SendError.venueSide, VenueReply.fails]
      · by_cases hserver : 500 ≤ statusCode
        · simp [SendCall.loop, SendCall.attempt, hsafe, hlimited, hserver, countAfter,
            SendError.venueSide, VenueReply.fails]
        · by_cases herror : 400 ≤ statusCode
          · simp [SendCall.loop, SendCall.attempt, hlimited, hserver, herror, countAfter,
              SendError.venueSide, VenueReply.fails]
          · simp [SendCall.loop, SendCall.attempt, hlimited, hserver, herror, countAfter,
              CircuitBreaker.onSuccess, VenueReply.fails]

end Loop

/-- Reading the state counts nothing. -/
theorem CircuitBreaker.readState_failureCount (breaker : CircuitBreaker) (now : ℚ) :
    (breaker.readState now).failureCount = breaker.failureCount := by
  unfold CircuitBreaker.readState
  split
  · rfl
  · rfl

/-- A call is counted right exactly if the circuit turns it away or its failure
is counted. -/
theorem CoinDCXClient.accounts_iff (client : CoinDCXClient) (call : SendCall) :
    client.Accounts call ↔ client.Counted call := by
  unfold CoinDCXClient.Accounts CoinDCXClient.Counted CoinDCXClient.send
  by_cases hopen : (client.breaker.readState call.start).state = .opened
  · simp [hopen, countAfter, SendError.venueSide, CircuitBreaker.readState_failureCount]
  · simp only [hopen, if_false, false_or]
    rw [← CircuitBreaker.readState_failureCount client.breaker call.start]
    unfold SendCall.Counted
    cases hsafe : call.retrySafe with
    | true =>
        rw [if_pos rfl]
        exact SendCall.loop_counts_iff hsafe _
    | false =>
        have hone : (List.range (client.maxAttempts call)).map call.replies = [call.replies 0] := by
          simp [CoinDCXClient.maxAttempts, hsafe]
        rw [hone, SendCall.single_counts_iff hsafe]
        simp

/-! ## Runs of calls -/

/-- The client after a call. -/
def CoinDCXClient.step (client : CoinDCXClient) (call : SendCall) : CoinDCXClient :=
  { client with breaker := (client.send call).1 }

/-- The call ends in a failure of the venue. -/
def CoinDCXClient.Fails (client : CoinDCXClient) (call : SendCall) : Prop :=
  ∃ e, (client.send call).2 = .error e ∧ e.venueSide = true

/-- Every call of a run is counted right, and as many failures in a row as the
threshold open the circuit. -/
structure CoinDCXClient.Lawful (client : CoinDCXClient) (calls : List SendCall) : Prop where
  accounts : AllOk CoinDCXClient.step CoinDCXClient.Accounts client calls
  opens : ∀ before failing after : List SendCall, calls = before ++ failing ++ after →
    failing ≠ [] → client.breaker.failureThreshold ≤ failing.length →
    AllOk CoinDCXClient.step CoinDCXClient.Fails (before.foldl CoinDCXClient.step client) failing →
    ((before ++ failing).foldl CoinDCXClient.step client).breaker.state = .opened

/-- What a call makes of the breaker. -/
theorem SendCall.loop_breaker (call : SendCall) (breaker : CircuitBreaker) :
    ∀ (replies : List VenueReply) (lastExc : Option SendError),
      (call.loop breaker lastExc replies).1 = breaker ∨
      (call.loop breaker lastExc replies).1 = breaker.onSuccess ∨
      (call.loop breaker lastExc replies).1 = breaker.onFailure call.finish := by
  intro replies
  induction replies with
  | nil => exact fun _ => Or.inr (Or.inr rfl)
  | cons reply rest ih =>
      intro lastExc
      unfold SendCall.loop
      cases call.attempt reply with
      | returns text => exact Or.inr (Or.inl rfl)
      | raises e => exact Or.inl rfl
      | retries e =>
          cases e with
          | none => exact ih lastExc
          | some e => exact ih (some e)

section Runs

variable {client : CoinDCXClient} {call : SendCall}

theorem CoinDCXClient.send_breaker (client : CoinDCXClient) (call : SendCall) :
    (client.send call).1 = client.breaker.readState call.start ∨
    (client.send call).1 = (client.breaker.readState call.start).onSuccess ∨
    (client.send call).1 = (client.breaker.readState call.start).onFailure call.finish := by
  unfold CoinDCXClient.send
  dsimp only
  split
  · exact Or.inl rfl
  · exact SendCall.loop_breaker call _ _ none

theorem CoinDCXClient.step_failureThreshold (client : CoinDCXClient) (call : SendCall) :
    (client.step call).breaker.failureThreshold = client.breaker.failureThreshold := by
  have hread : (client.breaker.readState call.start).failureThreshold =
      client.breaker.failureThreshold := by
    unfold CircuitBreaker.readState
    split
    · rfl
    · rfl
  unfold CoinDCXClient.step
  rcases client.send_breaker call with h | h | h
  · simp [h, hread]
  · simp [h, hread, CircuitBreaker.onSuccess]
  · simp [h, hread, CircuitBreaker.onFailure]

/-- A failure that is counted adds one, and opens the circuit at the threshold. -/
theorem CoinDCXClient.Fails.step (h : client.Fails call) (haccounts : client.Accounts call) :
    (client.step call).breaker.failureCount = client.breaker.failureCount + 1 ∧
      (client.breaker.failureThreshold ≤ (client.step call).breaker.failureCount →
        (client.step call).breaker.state = .opened) := by
  obtain ⟨e, herror, hvenue⟩ := h
  have hcount : (client.send call).1.failureCount = client.breaker.failureCount + 1 := by
    rw [haccounts, herror]
    simp [countAfter, hvenue]
  have hread := CircuitBreaker.readState_failureCount client.breaker call.start
  refine ⟨hcount, fun hthreshold => ?_⟩
  have hkept := client.step_failureThreshold call
  unfold CoinDCXClient.step at hthreshold hkept ⊢
  dsimp only at hthreshold hkept ⊢
  rcases client.send_breaker call with hsent | hsent | hsent
  · rw [hsent, hread] at hcount
    omega
  · rw [hsent] at hcount
    simp [CircuitBreaker.onSuccess] at hcount
  · rw [← hkept, hsent] at hthreshold
    rw [hsent]
    unfold CircuitBreaker.onFailure at hthreshold ⊢
    dsimp only at hthreshold ⊢
    rw [if_pos (Or.inr (by exact_mod_cast hthreshold))]

/-- Failures in a row that are counted add up, and open the circuit at the
threshold. -/
theorem CoinDCXClient.failing_run (failing : List SendCall) : ∀ {client : CoinDCXClient},
    AllOk CoinDCXClient.step CoinDCXClient.Accounts client failing →
    AllOk CoinDCXClient.step CoinDCXClient.Fails client failing → failing ≠ [] →
    client.breaker.failureThreshold ≤ client.breaker.failureCount + failing.length →
    (failing.foldl CoinDCXClient.step client).breaker.state = .opened := by
  induction failing with
  | nil =>
      intro client _ _ hne
      exact absurd rfl hne
  | cons call rest ih =>
      intro client haccounts hfails _ hthreshold
      obtain ⟨hcount, hopens⟩ := hfails.1.step haccounts.1
      cases rest with
      | nil =>
          refine hopens ?_
          rw [hcount]
          simpa using hthreshold
      | cons call' rest =>
          refine ih haccounts.2 hfails.2 (by simp) ?_
          rw [client.step_failureThreshold, hcount]
          simp only [List.length_cons] at hthreshold ⊢
          omega

theorem CoinDCXClient.foldl_failureThreshold (calls : List SendCall) :
    ∀ client : CoinDCXClient, (calls.foldl CoinDCXClient.step client).breaker.failureThreshold =
      client.breaker.failureThreshold := by
  induction calls with
  | nil => exact fun _ => rfl
  | cons call rest ih => exact fun client => (ih _).trans (client.step_failureThreshold call)

/-- The outage law holds of a run exactly if every failure in it is counted. -/
theorem CoinDCXClient.lawful_iff (client : CoinDCXClient) (calls : List SendCall) :
    client.Lawful calls ↔ AllOk CoinDCXClient.step CoinDCXClient.Counted client calls := by
  have hiff : AllOk CoinDCXClient.step CoinDCXClient.Accounts client calls ↔
      AllOk CoinDCXClient.step CoinDCXClient.Counted client calls :=
    AllOk.congr calls (fun s call _ (_ : True) => s.accounts_iff call)
      (fun _ _ _ _ _ => trivial) trivial
  constructor
  · exact fun h => hiff.mp h.accounts
  · intro h
    have haccounts := hiff.mpr h
    refine ⟨haccounts, ?_⟩
    rintro before failing after rfl hne hthreshold hfails
    have hfailing := ((AllOk.append_iff before failing).mp
      ((AllOk.append_iff (before ++ failing) after).mp haccounts).1).2
    rw [List.foldl_append]
    refine CoinDCXClient.failing_run failing hfailing hfails hne ?_
    rw [CoinDCXClient.foldl_failureThreshold]
    omega

end Runs

/-- An order placement that times out. -/
def demoPlacement : SendCall where
  ep := "POST v1/orders/create"
  retrySafe := false
  start := 0
  finish := 15
  replies := fun _ => .timeout

/-- Five order placements in a row time out, and the circuit stays closed. -/
theorem not_demoPlacement_lawful : ¬ ∀ (client : CoinDCXClient) (calls : List SendCall),
    client.Lawful calls := by
  intro h
  have hfails : AllOk CoinDCXClient.step CoinDCXClient.Fails {}
      (List.replicate 5 demoPlacement) := by
    refine ⟨?_, ?_, ?_, ?_, ?_, trivial⟩
    all_goals exact ⟨_, rfl, rfl⟩
  have hopened := (h {} (List.replicate 5 demoPlacement)).opens [] _ [] rfl (by decide)
    (by decide) hfails
  exact absurd hopened (by decide +kernel)

end CryptoTrader
