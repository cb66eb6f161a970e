import CryptoTrader.Lib.Reservoir
import CryptoTrader.Lib.Run
import Mathlib.Algebra.Order.Field.Rat

/-!
# The REST rate limiter

`TokenBucket` of `infra/rate_limiter.py` under any number of threads.  What stands
inside `with self._lock` is one step, the clock reading of its refill included;
between two such blocks the threads interleave as they like.  A grant is dated by
that reading.
-/

namespace CryptoTrader.Infra

open CryptoTrader.Lib

/-- `TokenBucket`, less the lock. -/
structure TokenBucket where
  rate : ℚ
  capacity : ℚ
  tokens : ℚ
  last : ℚ

namespace TokenBucket

/-- `__init__`. -/
def new (ratePerSec capacity now : ℚ) : TokenBucket :=
  { rate := ratePerSec, capacity, tokens := capacity, last := now }

/-- `_refill_locked`. -/
def refillLocked (b : TokenBucket) (now : ℚ) : TokenBucket :=
  let elapsed := now - b.last
  if 0 < elapsed then
    { b with tokens := min b.capacity (b.tokens + elapsed * b.rate), last := now }
  else b

/-- `try_acquire`, and the locked block of `acquire`. -/
def tryAcquire (b : TokenBucket) (weight now : ℚ) : Bool × TokenBucket :=
  let b := b.refillLocked now
  if weight ≤ b.tokens then (true, { b with tokens := b.tokens - weight }) else (false, b)

/-- The time until enough tokens accrue. -/
def wait (b : TokenBucket) (weight : ℚ) : ℚ :=
  let deficit := weight - b.tokens
  if 0 < b.rate then deficit / b.rate else 5 / 100

/-- `available`. -/
def available (b : TokenBucket) (now : ℚ) : ℚ × TokenBucket :=
  let b := b.refillLocked now
  (b.tokens, b)

end TokenBucket

/-! ## Threads -/

/-- Where a thread is: outside, with the answer of its last call; in `acquire`, before
the locked block; after it, with the time to wait; or asleep. -/
inductive Caller where
  | idle (answer : Option Bool)
  | trying (weight : ℚ) (deadline : Option ℚ)
  | waiting (weight : ℚ) (deadline : Option ℚ) (wait : ℚ)
  | sleeping (weight : ℚ) (deadline : Option ℚ) (wakeAt : ℚ)

/-- What a thread does next: begin a call, or go on with `acquire`. -/
inductive Action where
  | tryAcquire (weight : ℚ)
  | acquire (weight : ℚ) (timeout : Option ℚ)
  | available
  | attempt
  | checkDeadline
  | wake

structure Event (Thread : Type) where
  thread : Thread
  now : ℚ
  action : Action

/-- The bucket and its threads, the last reading of the clock, and the grants with
their times. -/
structure Limiter (Thread : Type) where
  bucket : TokenBucket
  caller : Thread → Caller
  clock : ℚ
  granted : List (ℚ × ℚ) := []

namespace Limiter

variable {Thread : Type} [DecidableEq Thread]

def new (ratePerSec capacity now : ℚ) : Limiter Thread :=
  { bucket := .new ratePerSec capacity now, caller := fun _ => .idle none, clock := now }

def setCaller (s : Limiter Thread) (thread : Thread) (caller : Caller) : Limiter Thread :=
  { s with caller := Function.update s.caller thread caller }

/-- A locked block that takes the weight, or goes on with `otherwise`. -/
def locked (s : Limiter Thread) (e : Event Thread) (weight : ℚ)
    (otherwise : TokenBucket → Caller) : Limiter Thread :=
  match s.bucket.tryAcquire weight e.now with
  | (true, bucket) =>
      { s.setCaller e.thread (.idle (some true)) with
        bucket
        granted := s.granted ++ [(e.now, weight)] }
  | (false, bucket) => { s.setCaller e.thread (otherwise bucket) with bucket }

/-- The end of the loop body of `acquire`. -/
def afterWait (weight : ℚ) (deadline : Option ℚ) (wait now : ℚ) : Caller :=
  match deadline with
  | none => .sleeping weight deadline (now + max 0 (min wait (1 / 4)))
  | some limit =>
      let remaining := limit - now
      if remaining ≤ 0 then .idle (some false)
      else .sleeping weight deadline (now + max 0 (min (min wait remaining) (1 / 4)))

/-- One step of one thread; a step that the thread is not at does nothing. -/
def act (s : Limiter Thread) (e : Event Thread) : Limiter Thread :=
  match e.action, s.caller e.thread with
  | .tryAcquire weight, .idle _ => s.locked e weight (fun _ => .idle (some false))
  | .acquire weight timeout, .idle _ =>
      s.setCaller e.thread (.trying weight (timeout.map (fun t => e.now + t)))
  | .available, .idle _ => { s with bucket := (s.bucket.available e.now).2 }
  | .attempt, .trying weight deadline =>
      s.locked e weight (fun bucket => .waiting weight deadline (bucket.wait weight))
  | .checkDeadline, .waiting weight deadline wait =>
      s.setCaller e.thread (afterWait weight deadline wait e.now)
  | .wake, .sleeping weight deadline wakeAt =>
      if wakeAt ≤ e.now then s.setCaller e.thread (.trying weight deadline) else s
  | _, _ => s

def step (s : Limiter Thread) (e : Event Thread) : Limiter Thread :=
  { s.act e with clock := e.now }

end Limiter

/-! ## What one call does to the bucket -/

/-- The weight a call asks for. -/
def Action.weight? : Action → Option ℚ
  | .tryAcquire weight => some weight
  | .acquire weight _ => some weight
  | _ => none

/-- The weight a thread is waiting for. -/
def Caller.weight? : Caller → Option ℚ
  | .idle _ => none
  | .trying weight _ => some weight
  | .waiting weight _ _ => some weight
  | .sleeping weight _ _ => some weight

/-- The bucket has these limits and is covered at its last refill. -/
structure TokenBucket.Sound (b : TokenBucket) (rate capacity : ℚ) (granted : List (ℚ × ℚ)) :
    Prop where
  rate_eq : b.rate = rate
  capacity_eq : b.capacity = capacity
  covered : Covered capacity rate b.tokens b.last granted

namespace TokenBucket

variable {b : TokenBucket} {rate capacity now : ℚ} {granted : List (ℚ × ℚ)}

/-- A refill that is not behind the last one brings the bucket to the present. -/
theorem refillLocked_eq (h : b.last ≤ now) (hfull : b.tokens ≤ b.capacity) :
    b.refillLocked now =
      { b with tokens := min b.capacity (b.tokens + (now - b.last) * b.rate), last := now } := by
  unfold refillLocked
  by_cases hlater : 0 < now - b.last
  · simp only [if_pos hlater]
  · have hsame : now = b.last := le_antisymm (by simpa using hlater) h
    simp only [if_neg hlater]
    rw [hsame, sub_self, zero_mul, add_zero, min_eq_right hfull]

theorem Sound.refillLocked (h : b.Sound rate capacity granted) (hrate : 0 ≤ rate)
    (hnow : b.last ≤ now) :
    (b.refillLocked now).Sound rate capacity granted ∧ (b.refillLocked now).last = now := by
  have hfull : b.tokens ≤ b.capacity := by
    rw [h.capacity_eq]
    exact h.covered.level_le
  rw [refillLocked_eq hnow hfull]
  refine ⟨⟨h.rate_eq, h.capacity_eq, ?_⟩, rfl⟩
  have hfill := h.covered.fill hrate hnow
  rw [← h.rate_eq, ← h.capacity_eq] at hfill ⊢
  exact hfill

/-- A grant is a draw at the time of its refill, a refusal is only the refill. -/
theorem Sound.tryAcquire (h : b.Sound rate capacity granted) (hrate : 0 ≤ rate)
    (hnow : b.last ≤ now) {weight : ℚ} (hweight : 0 < weight) :
    (b.tryAcquire weight now).2.Sound rate capacity
        (if (b.tryAcquire weight now).1 then granted ++ [(now, weight)] else granted) ∧
      (b.tryAcquire weight now).2.last = now := by
  obtain ⟨hsound, hlast⟩ := h.refillLocked hrate hnow
  unfold TokenBucket.tryAcquire
  by_cases hroom : weight ≤ (b.refillLocked now).tokens
  · simp only [if_pos hroom, if_true]
    refine ⟨⟨hsound.rate_eq, hsound.capacity_eq, ?_⟩, hlast⟩
    have hdraw := hsound.covered.draw hrate hweight.le hroom
    rw [hlast] at hdraw ⊢
    exact hdraw
  · simp only [if_neg hroom, Bool.false_eq_true, if_false]
    exact ⟨hsound, hlast⟩

end TokenBucket

/-! ## Every interleaving -/

namespace Limiter

variable {Thread : Type} [DecidableEq Thread]

/-- The clock does not go back, and a call asks for a positive weight. -/
def Ordered (s : Limiter Thread) (e : Event Thread) : Prop :=
  s.clock ≤ e.now ∧ ∀ weight, e.action.weight? = some weight → 0 < weight

/-- What holds between two steps. -/
structure Sound (rate capacity : ℚ) (s : Limiter Thread) : Prop where
  bucket : s.bucket.Sound rate capacity s.granted
  clock : s.bucket.last ≤ s.clock
  pending : ∀ thread weight, (s.caller thread).weight? = some weight → 0 < weight

section Steps

variable {rate capacity : ℚ} {s : Limiter Thread} {e : Event Thread}

omit [DecidableEq Thread] in
theorem new_sound (now : ℚ) (hrate : 0 ≤ rate) (hcapacity : 0 ≤ capacity) :
    (new rate capacity now : Limiter Thread).Sound rate capacity where
  bucket := ⟨rfl, rfl, Covered.full hcapacity hrate⟩
  clock := le_refl now
  pending thread weight h := by cases h

/-- A thread that waits for a positive weight, if any, may be put in place. -/
theorem Sound.pending_update (h : s.Sound rate capacity) {caller : Caller}
    (hcaller : ∀ weight, caller.weight? = some weight → 0 < weight) (thread : Thread) :
    ∀ other weight, (Function.update s.caller thread caller other).weight? = some weight →
      0 < weight := by
  intro other weight hother
  by_cases hsame : other = thread
  · rw [hsame, Function.update_self] at hother
    exact hcaller weight hother
  · rw [Function.update_of_ne hsame] at hother
    exact h.pending other weight hother

/-- The clock moves on while a thread moves. -/
theorem Sound.setCaller (h : s.Sound rate capacity) (hnow : s.clock ≤ e.now) {caller : Caller}
    (hcaller : ∀ weight, caller.weight? = some weight → 0 < weight) :
    ({ s.setCaller e.thread caller with clock := e.now } : Limiter Thread).Sound rate capacity where
  bucket := h.bucket
  clock := h.clock.trans hnow
  pending := h.pending_update hcaller e.thread

omit [DecidableEq Thread] in
theorem Sound.idle (h : s.Sound rate capacity) (hnow : s.clock ≤ e.now) :
    ({ s with clock := e.now } : Limiter Thread).Sound rate capacity where
  bucket := h.bucket
  clock := h.clock.trans hnow
  pending := h.pending

theorem Sound.locked (h : s.Sound rate capacity) (hrate : 0 ≤ rate) (hnow : s.clock ≤ e.now)
    {weight : ℚ} (hweight : 0 < weight) {otherwise : TokenBucket → Caller}
    (hotherwise : ∀ bucket w, (otherwise bucket).weight? = some w → 0 < w) :
    ({ s.locked e weight otherwise with clock := e.now } : Limiter Thread).Sound rate capacity := by
  obtain ⟨hsound, hlast⟩ := h.bucket.tryAcquire hrate (h.clock.trans hnow) hweight
  unfold Limiter.locked
  generalize s.bucket.tryAcquire weight e.now = result at hsound hlast ⊢
  obtain ⟨answer, bucket⟩ := result
  cases answer with
  | true => exact ⟨hsound, hlast.le, h.pending_update (by simp [Caller.weight?]) e.thread⟩
  | false => exact ⟨hsound, hlast.le, h.pending_update (hotherwise bucket) e.thread⟩

theorem afterWait_weight {weight : ℚ} {deadline : Option ℚ} {wait now w : ℚ}
    (h : (afterWait weight deadline wait now).weight? = some w) : w = weight := by
  unfold afterWait at h
  cases deadline with
  | none => exact (Option.some.inj h).symm
  | some limit =>
      by_cases hover : limit - now ≤ 0
      · simp [hover, Caller.weight?] at h
      · simp only [if_neg hover, Caller.weight?, Option.some.injEq] at h
        exact h.symm

theorem Sound.step (h : s.Sound rate capacity) (hrate : 0 ≤ rate) (ha : s.Ordered e) :
    (s.step e).Sound rate capacity := by
  obtain ⟨hnow, hasked⟩ := ha
  have hpending := h.pending e.thread
  unfold Limiter.step act
  cases haction : e.action <;> cases hcaller : s.caller e.thread <;>
    rw [haction] at hasked <;> rw [hcaller] at hpending <;> dsimp only
  -- a step that the thread is not at
  any_goals exact h.idle hnow
  case tryAcquire.idle weight answer =>
    exact h.locked hrate hnow (hasked weight rfl) (by simp [Caller.weight?])
  case acquire.idle weight timeout answer =>
    refine h.setCaller hnow (fun w hw => ?_)
    rw [← Option.some.inj hw]
    exact hasked weight rfl
  case available.idle answer =>
    obtain ⟨hsound, hlast⟩ := h.bucket.refillLocked hrate (h.clock.trans hnow)
    exact ⟨hsound, hlast.le, h.pending⟩
  case attempt.trying weight deadline =>
    refine h.locked hrate hnow (hpending weight rfl) (fun bucket w hw => ?_)
    rw [← Option.some.inj hw]
    exact hpending weight rfl
  case checkDeadline.waiting weight deadline wait =>
    refine h.setCaller hnow (fun w hw => ?_)
    rw [afterWait_weight hw]
    exact hpending weight rfl
  case wake.sleeping weight deadline wakeAt =>
    by_cases hawake : wakeAt ≤ e.now
    · rw [if_pos hawake]
      refine h.setCaller hnow (fun w hw => ?_)
      rw [← Option.some.inj hw]
      exact hpending weight rfl
    · rw [if_neg hawake]
      exact h.idle hnow

end Steps

/-- Two threads; the second finds the bucket empty, sleeps, and gets its token half a
second later. -/
def demoGrants : List (Event Bool) :=
  [⟨false, 0, .tryAcquire 2⟩, ⟨true, 0, .acquire 1 (some 1)⟩, ⟨true, 0, .attempt⟩,
    ⟨true, 0, .checkDeadline⟩, ⟨true, 1 / 2, .wake⟩, ⟨true, 1 / 2, .attempt⟩]

end Limiter

end CryptoTrader.Infra
