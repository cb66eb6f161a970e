import CryptoTrader.Lib.Run
import Mathlib.Data.Rat.Defs
import Mathlib.Algebra.Order.Ring.Rat

/-!
# The circuit breaker under concurrent calls

`CircuitBreaker` of `patterns/circuit_breaker.py`, called by any number of
threads.  The lock covers one read or one report at a time, so a call is three
steps: it is admitted by a read of the state, the function runs and ends, and
the outcome is reported.  Other calls, the clock and the operators come in
between.  Times are in seconds.
-/

namespace CryptoTrader.Patterns

open CryptoTrader.Lib

/-! ## The breaker -/

inductive CircuitState where
  | closed
  | opened
  | halfOpen
  deriving DecidableEq, Repr

/-- `CircuitBreaker`, less its name and the exceptions it expects. -/
structure CircuitBreaker where
  failureThreshold : ℤ := 5
  recoveryTimeout : ℚ := 60
  state : CircuitState := .closed
  failureCount : ℕ := 0
  lastFailureTime : Option ℚ := none
  deriving DecidableEq

namespace CircuitBreaker

/-- The recovery timeout has elapsed since the last failure. -/
def recovered (breaker : CircuitBreaker) (now : ℚ) : Bool :=
  breaker.lastFailureTime.any (fun failed => breaker.recoveryTimeout ≤ now - failed)

/-- The test of the property `state`. -/
def probes (breaker : CircuitBreaker) (now : ℚ) : Prop :=
  breaker.state = .opened ∧ breaker.recovered now

instance (breaker : CircuitBreaker) (now : ℚ) : Decidable (breaker.probes now) :=
  inferInstanceAs (Decidable (_ ∧ _))

/-- The property `state`; what it returns is the state it leaves. -/
def readState (breaker : CircuitBreaker) (now : ℚ) : CircuitBreaker :=
  if breaker.probes now then { breaker with state := .halfOpen } else breaker

/-- `_on_success`. -/
def onSuccess (breaker : CircuitBreaker) : CircuitBreaker :=
  { breaker with failureCount := 0, state := .closed }

/-- `_on_failure`. -/
def onFailure (breaker : CircuitBreaker) (now : ℚ) : CircuitBreaker :=
  { breaker with
    failureCount := breaker.failureCount + 1
    lastFailureTime := some now
    state :=
      if breaker.state = .halfOpen ∨ breaker.failureThreshold ≤ breaker.failureCount + 1 then .opened
      else breaker.state }

/-- `reset`. -/
def reset (breaker : CircuitBreaker) : CircuitBreaker :=
  { breaker with state := .closed, failureCount := 0, lastFailureTime := none }

/-- `trip`. -/
def trip (breaker : CircuitBreaker) (now : ℚ) : CircuitBreaker :=
  { breaker with state := .opened, lastFailureTime := some now }

end CircuitBreaker

/-! ## The calls -/

/-- A call, known by a number. -/
abbrev CallId := ℕ

/-- How the protected function ends: it returns, it raises an exception the
breaker expects, or another one, which is reported nowhere. -/
inductive Outcome where
  | returned
  | raised
  | escaped
  deriving DecidableEq

/-- The breaker with the calls that are in the function, and those that have
left it and not reported yet.  `probing` is a history variable: the calls that
have been in the function since HALF_OPEN was entered and whose outcome is
open. -/
structure SharedBreaker where
  breaker : CircuitBreaker
  now : ℚ := 0
  running : List CallId := []
  succeeded : List CallId := []
  failed : List CallId := []
  probing : List CallId := []
  deriving DecidableEq

/-- One step of some thread, or of the clock. -/
inductive BreakerStep where
  | clock (now : ℚ)
  | read
  | call (id : CallId)
  | finish (id : CallId) (outcome : Outcome)
  | reportSuccess (id : CallId)
  | reportFailure (id : CallId)
  | reset
  | trip
  deriving DecidableEq

namespace SharedBreaker

/-- A read of the property `state`. -/
def readState (s : SharedBreaker) : SharedBreaker :=
  { s with
    breaker := s.breaker.readState s.now
    probing := if s.breaker.probes s.now then s.running else s.probing }

/-- `call` up to the function: the read, and the rejection while OPEN. -/
def enter (s : SharedBreaker) (id : CallId) : SharedBreaker :=
  match s.readState.breaker.state with
  | .opened => s.readState
  | .closed => { s.readState with running := id :: s.running }
  | .halfOpen =>
      { s.readState with running := id :: s.running, probing := id :: s.readState.probing }

/-- The function of a call ends. -/
def finish (s : SharedBreaker) (id : CallId) : Outcome → SharedBreaker
  | .returned => { s with running := s.running.erase id, succeeded := id :: s.succeeded }
  | .raised => { s with running := s.running.erase id, failed := id :: s.failed }
  | .escaped => { s with running := s.running.erase id, probing := s.probing.erase id }

/-- One step; a call that is not where the step takes it from does nothing. -/
def step (s : SharedBreaker) : BreakerStep → SharedBreaker
  | .clock now => { s with now := now }
  | .read => s.readState
  | .call id => s.enter id
  | .finish id outcome => if id ∈ s.running then s.finish id outcome else s
  | .reportSuccess id =>
      if id ∈ s.succeeded then
        { s with succeeded := s.succeeded.erase id, breaker := s.breaker.onSuccess }
      else s
  | .reportFailure id =>
      if id ∈ s.failed then
        { s with failed := s.failed.erase id, breaker := s.breaker.onFailure s.now }
      else s
  | .reset => { s with breaker := s.breaker.reset }
  | .trip => { s with breaker := s.breaker.trip s.now }

/-! ## What the breaker promises -/

/-- The breaker leaves OPEN by `reset`, or for HALF_OPEN once the recovery
timeout has elapsed since the last failure. -/
def LeavesOpen (s : SharedBreaker) (a : BreakerStep) : Prop :=
  s.breaker.state = .opened → (s.step a).breaker.state ≠ .opened →
    a = .reset ∨ ((s.step a).breaker.state = .halfOpen ∧ s.breaker.recovered s.now)

/-- In HALF_OPEN at most one call has been in the function. -/
def OneProbe (s : SharedBreaker) : Prop :=
  s.breaker.state = .halfOpen → s.probing.length ≤ 1

/-- The step keeps both promises. -/
def Safe (s : SharedBreaker) (a : BreakerStep) : Prop :=
  s.LeavesOpen a ∧ (s.step a).OneProbe

/-- No success is reported while the breaker is OPEN. -/
def InTime (s : SharedBreaker) : BreakerStep → Prop
  | .reportSuccess id => id ∈ s.succeeded → s.breaker.state ≠ .opened
  | _ => True

/-- The read that enters HALF_OPEN finds at most one call in the function, or
none when it is the read of a call, and a call in HALF_OPEN finds that none has
been there. -/
def Alone (s : SharedBreaker) : BreakerStep → Prop
  | .read => s.breaker.probes s.now → s.running.length ≤ 1
  | .call _ =>
      (s.breaker.probes s.now → s.running = []) ∧ (s.breaker.state = .halfOpen → s.probing = [])
  | _ => True

def Orderly (s : SharedBreaker) (a : BreakerStep) : Prop :=
  s.InTime a ∧ s.Alone a

instance (s : SharedBreaker) (a : BreakerStep) : Decidable (s.LeavesOpen a) := by
  unfold LeavesOpen
  infer_instance

instance (s : SharedBreaker) : Decidable s.OneProbe := by
  unfold OneProbe
  infer_instance

instance (s : SharedBreaker) (a : BreakerStep) : Decidable (s.Safe a) :=
  inferInstanceAs (Decidable (_ ∧ _))

/-! ## One step -/

section Step

variable {s : SharedBreaker}

theorem readState_of_probes (h : s.breaker.probes s.now) :
    s.readState =
      { s with breaker := { s.breaker with state := .halfOpen }, probing := s.running } := by
  unfold readState CircuitBreaker.readState
  rw [if_pos h, if_pos h]

theorem readState_of_not_probes (h : ¬ s.breaker.probes s.now) : s.readState = s := by
  unfold readState CircuitBreaker.readState
  rw [if_neg h, if_neg h]

theorem readState_state (h : s.readState.breaker.state ≠ s.breaker.state) :
    s.readState.breaker.state = .halfOpen ∧ s.breaker.recovered s.now := by
  by_cases hprobes : s.breaker.probes s.now
  · rw [readState_of_probes hprobes]
    exact ⟨rfl, hprobes.2⟩
  · rw [readState_of_not_probes hprobes] at h
    exact absurd rfl h

/-- A call leaves the breaker as its read left it. -/
theorem enter_breaker (id : CallId) : (s.enter id).breaker = s.readState.breaker := by
  unfold enter
  cases s.readState.breaker.state with
  | opened => rfl
  | closed => rfl
  | halfOpen => rfl

theorem enter_probing (id : CallId) (h : s.readState.breaker.state = .halfOpen) :
    (s.enter id).probing = id :: s.readState.probing := by
  unfold enter
  rw [h]

/-- A failure is never the way out of OPEN. -/
theorem onFailure_opened (breaker : CircuitBreaker) (now : ℚ) (h : breaker.state = .opened) :
    (breaker.onFailure now).state = .opened := by
  unfold CircuitBreaker.onFailure
  split
  · rfl
  · exact h

/-- Nor does it lead into HALF_OPEN. -/
theorem onFailure_ne_halfOpen (breaker : CircuitBreaker) (now : ℚ) :
    (breaker.onFailure now).state ≠ .halfOpen := by
  unfold CircuitBreaker.onFailure
  by_cases h : breaker.state = .halfOpen
  · simp [h]
  · split
    · simp
    · exact h

/-- The way out of OPEN is barred exactly to the successes. -/
theorem leavesOpen_iff (s : SharedBreaker) (a : BreakerStep) : s.LeavesOpen a ↔ s.InTime a := by
  cases a with
  | clock now => exact ⟨fun _ => trivial, fun _ hopen hleft => absurd hopen hleft⟩
  | read =>
      refine ⟨fun _ => trivial, fun _ hopen hleft => Or.inr (readState_state ?_)⟩
      rw [hopen]
      exact hleft
  | call id =>
      refine ⟨fun _ => trivial, fun _ hopen hleft => Or.inr ?_⟩
      simp only [step, enter_breaker] at hleft ⊢
      refine readState_state ?_
      rw [hopen]
      exact hleft
  | finish id outcome =>
      refine ⟨fun _ => trivial, fun _ hopen hleft => absurd ?_ hleft⟩
      simp only [step]
      split
      · cases outcome with
        | returned => exact hopen
        | raised => exact hopen
        | escaped => exact hopen
      · exact hopen
  | reportSuccess id =>
      constructor
      · intro h hmem hopen
        have hclosed : (s.step (.reportSuccess id)).breaker.state = .closed := by
          simp only [step, if_pos hmem]
          rfl
        rcases h hopen (by rw [hclosed]; decide) with hreset | ⟨hhalf, -⟩
        · cases hreset
        · rw [hclosed] at hhalf
          cases hhalf
      · intro h hopen hleft
        by_cases hmem : id ∈ s.succeeded
        · exact absurd hopen (h hmem)
        · simp only [step, if_neg hmem] at hleft
          exact absurd hopen hleft
  | reportFailure id =>
      refine ⟨fun _ => trivial, fun _ hopen hleft => absurd ?_ hleft⟩
      simp only [step]
      split
      · exact onFailure_opened s.breaker s.now hopen
      · exact hopen
  | reset => exact ⟨fun _ => trivial, fun _ _ _ => Or.inl rfl⟩
  | trip => exact ⟨fun _ => trivial, fun _ _ hleft => absurd rfl hleft⟩

/-- The read of `state` keeps the promise of one probe exactly if it finds at
most one call. -/
theorem read_oneProbe_iff (h : s.OneProbe) :
    s.readState.OneProbe ↔ (s.breaker.probes s.now → s.running.length ≤ 1) := by
  by_cases hprobes : s.breaker.probes s.now
  · rw [readState_of_probes hprobes]
    exact ⟨fun hone _ => hone rfl, fun hone _ => hone hprobes⟩
  · rw [readState_of_not_probes hprobes]
    exact ⟨fun _ hp => absurd hp hprobes, fun _ => h⟩

theorem call_oneProbe_iff (id : CallId) :
    (s.enter id).OneProbe ↔
      (s.breaker.probes s.now → s.running = []) ∧
        (s.breaker.state = .halfOpen → s.probing = []) := by
  unfold OneProbe
  rw [enter_breaker]
  by_cases hprobes : s.breaker.probes s.now
  · have hhalf : s.readState.breaker.state = .halfOpen := by rw [readState_of_probes hprobes]
    have hopen : s.breaker.state ≠ .halfOpen := by
      rw [hprobes.1]
      decide
    rw [enter_probing id hhalf, readState_of_probes hprobes]
    constructor
    · intro hone
      exact ⟨fun _ => List.eq_nil_of_length_eq_zero (by simpa using hone rfl),
        fun h => absurd h hopen⟩
    · rintro ⟨hnone, -⟩ -
      simp [hnone hprobes]
  · by_cases hhalf : s.breaker.state = .halfOpen
    · have hread : s.readState.breaker.state = .halfOpen := by
        rw [readState_of_not_probes hprobes]
        exact hhalf
      rw [enter_probing id hread, readState_of_not_probes hprobes]
      constructor
      · intro hone
        exact ⟨fun h => absurd h hprobes,
          fun _ => List.eq_nil_of_length_eq_zero (by simpa using hone hhalf)⟩
      · rintro ⟨-, hnone⟩ -
        simp [hnone hhalf]
    · rw [readState_of_not_probes hprobes]
      exact ⟨fun _ => ⟨fun h => absurd h hprobes, fun h => absurd h hhalf⟩,
        fun _ h => absurd h hhalf⟩

theorem oneProbe_of_ne (h : s.breaker.state ≠ .halfOpen) : s.OneProbe :=
  fun hhalf => absurd hhalf h

/-- At most one call has been in the function exactly if the step finds what it
must. -/
theorem oneProbe_iff (h : s.OneProbe) (a : BreakerStep) : (s.step a).OneProbe ↔ s.Alone a := by
  cases a with
  | clock now => exact ⟨fun _ => trivial, fun _ => h⟩
  | read => exact read_oneProbe_iff h
  | call id => exact call_oneProbe_iff id
  | finish id outcome =>
      refine ⟨fun _ => trivial, fun _ => ?_⟩
      simp only [step]
      split
      · cases outcome with
        | returned => exact h
        | raised => exact h
        | escaped => exact fun hhalf => (List.length_erase_le ..).trans (h hhalf)
      · exact h
  | reportSuccess id =>
      refine ⟨fun _ => trivial, fun _ => ?_⟩
      simp only [step]
      split
      · exact oneProbe_of_ne (by simp [CircuitBreaker.onSuccess])
      · exact h
  | reportFailure id =>
      refine ⟨fun _ => trivial, fun _ => ?_⟩
      simp only [step]
      split
      · exact oneProbe_of_ne (onFailure_ne_halfOpen s.breaker s.now)
      · exact h
  | reset =>
      exact ⟨fun _ => trivial, fun _ => oneProbe_of_ne (by simp [step, CircuitBreaker.reset])⟩
  | trip => exact ⟨fun _ => trivial, fun _ => oneProbe_of_ne (by simp [step, CircuitBreaker.trip])⟩

theorem safe_iff_orderly (h : s.OneProbe) (a : BreakerStep) : s.Safe a ↔ s.Orderly a :=
  and_congr (leavesOpen_iff s a) (oneProbe_iff h a)

end Step

/-! ## Runs -/

/-- The promises are kept in a run of a new breaker exactly if every step of the
run is orderly. -/
theorem breaker_safe_iff (failureThreshold : ℤ) (recoveryTimeout : ℚ) (steps : List BreakerStep) :
    let start : SharedBreaker := { breaker := { failureThreshold, recoveryTimeout } }
    AllOk step Safe start steps ↔ AllOk step Orderly start steps := by
  intro start
  have hstart : start.OneProbe := oneProbe_of_ne (by simp [start])
  exact AllOk.congr steps (fun s a _ hs => safe_iff_orderly hs a) (fun s a _ _ ha => ha.2) hstart

/-- A call is admitted, the breaker trips, and the call returns. -/
theorem not_breaker_safe :
    ¬ ∀ (failureThreshold : ℤ) (recoveryTimeout : ℚ) (steps : List BreakerStep),
      AllOk step Safe { breaker := { failureThreshold, recoveryTimeout } } steps := by
  intro h
  have hlate := h 1 60 [.call 1, .call 2, .finish 2 .raised, .reportFailure 2, .finish 1 .returned,
    .reportSuccess 1]
  exact absurd hlate (by decide +kernel)

end SharedBreaker

end CryptoTrader.Patterns
