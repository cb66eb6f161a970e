import Mathlib.Logic.Function.Basic
import CryptoTrader.Lib.Dict
import CryptoTrader.Lib.Run

/-!
# The distributed lock

`lock`, `try_lock` and `release_lock` of `ledger/redis_layer.py` over a Redis
whose commands are atomic.  The value of a lock key is the same for every
worker, and a release deletes the key, whoever has set it.
-/

namespace CryptoTrader

open CryptoTrader.Lib

/-! ## Redis -/

/-- A key that was set with `PX`. -/
structure RedisEntry where
  value : String
  expiresAt : ℤ
  deriving DecidableEq, Repr

abbrev Redis := Dict String RedisEntry

/-- The entry of a key, unless it has expired. -/
def Redis.live? (redis : Redis) (now : ℤ) (key : String) : Option RedisEntry :=
  (redis.get? key).filter (fun e => now < e.expiresAt)

/-- What becomes of one command: it gets to Redis, and its reply gets back. -/
structure RedisLink where
  delivered : Bool := true
  answered : Bool := true

/-- `set(key, value, nx=True, px=px)`: the truth of its reply, or `none` when it
raises.  Redis refuses an expiry that is not positive. -/
def Redis.setNx (redis : Redis) (link : RedisLink) (now : ℤ) (key value : String) (px : ℤ) :
    Redis × Option Bool :=
  if ¬ link.delivered ∨ px ≤ 0 then (redis, none)
  else
    match redis.live? now key with
    | some _ => (redis, if link.answered then some false else none)
    | none => (redis.set key ⟨value, now + px⟩, if link.answered then some true else none)

/-- `delete(key)`; what it raises is dropped by the callers. -/
def Redis.delete (redis : Redis) (link : RedisLink) (key : String) : Redis :=
  if link.delivered then redis.erase key else redis

theorem Redis.live?_eq_some {redis : Redis} {now : ℤ} {key : String} {e : RedisEntry} :
    redis.live? now key = some e ↔ redis.get? key = some e ∧ now < e.expiresAt := by
  simp [Redis.live?, Option.filter_eq_some_iff]

theorem Redis.live?_set (redis : Redis) (now : ℤ) (key key' : String) (e : RedisEntry) :
    Redis.live? (redis.set key e) now key' =
      if key = key' then (some e).filter (fun e => now < e.expiresAt)
      else redis.live? now key' := by
  unfold Redis.live?
  rw [Dict.get?_set]
  split
  · rfl
  · rfl

theorem Redis.live?_delete_ne (redis : Redis) (link : RedisLink) (now : ℤ) {key key' : String}
    (h : key ≠ key') : (redis.delete link key).live? now key' = redis.live? now key' := by
  unfold Redis.live? Redis.delete
  split
  · rw [Dict.get?_erase_ne redis h]
  · rfl

/-! ## The lock -/

/-- The two ways to take a lock: the context manager lets an error of Redis
through, `try_lock` fails open. -/
inductive LockCall where
  | lock
  | tryLock
  deriving DecidableEq, Repr

def lockKey (scope key : String) : String := s!"lock:{scope}:{key}"

/-- Whether the caller goes on with the lock. -/
def LockCall.acquired : LockCall → Option Bool → Bool
  | .lock, reply => reply.getD false
  | .tryLock, reply => reply.getD true

/-- `lock` up to its `yield`, and `try_lock`. -/
def LockCall.acquire (call : LockCall) (redis : Redis) (link : RedisLink) (now : ℤ)
    (scope key : String) (ttlMs : ℤ) : Redis × Bool :=
  let (redis', reply) := redis.setNx link now (lockKey scope key) "1" ttlMs
  (redis', call.acquired reply)

/-- `release_lock`, and what `lock` does when its body ends. -/
def releaseLock (redis : Redis) (link : RedisLink) (key : String) : Redis := redis.delete link key

/-! ## Workers -/

/-- A lock that a worker has taken, and the end of its own TTL. -/
structure LockHolding where
  key : String
  expiresAt : ℤ
  deriving DecidableEq, Repr

/-- The clock, Redis, and the lock each worker goes on with. -/
structure LockSystem (W : Type*) where
  now : ℤ
  redis : Redis
  holding : W → Option LockHolding

/-- Time passes, which a worker that holds a lock spends on its work; a worker
takes a lock; a worker releases the lock it has taken. -/
inductive LockStep (W : Type*) where
  | tick (elapsed : ℕ)
  | acquire (w : W) (call : LockCall) (scope key : String) (ttlMs : ℤ) (link : RedisLink)
  | release (w : W) (link : RedisLink)

section System

variable {W : Type*} [DecidableEq W]

def LockSystem.step (s : LockSystem W) : LockStep W → LockSystem W
  | .tick elapsed => { s with now := s.now + elapsed }
  | .acquire w call scope key ttlMs link =>
      match s.holding w with
      | some _ => s
      | none =>
          let (redis, acquired) := call.acquire s.redis link s.now scope key ttlMs
          if acquired then
            { s with
              redis := redis
              holding := Function.update s.holding w
                (some ⟨lockKey scope key, s.now + ttlMs⟩) }
          else { s with redis := redis }
  | .release w link =>
      match s.holding w with
      | none => s
      | some h =>
          { s with
            redis := releaseLock s.redis link h.key
            holding := Function.update s.holding w none }

/-- No worker has taken a lock, whatever is left in Redis. -/
def LockSystem.start (W : Type*) (now : ℤ) (redis : Redis) : LockSystem W := ⟨now, redis, fun _ => none⟩

/-- A worker holds the lock of a key within its own TTL. -/
def LockSystem.Holds (s : LockSystem W) (w : W) (key : String) : Prop :=
  ∃ h, s.holding w = some h ∧ h.key = key ∧ s.now < h.expiresAt

/-- At most one worker holds a lock within its TTL, and until then nobody has
removed it. -/
structure LockSystem.Exclusive (s : LockSystem W) : Prop where
  unique : ∀ w v key, s.Holds w key → s.Holds v key → w = v
  kept : ∀ w h, s.holding w = some h → s.now < h.expiresAt →
    s.redis.live? s.now h.key = some ⟨"1", h.expiresAt⟩

/-- A release comes within its worker's TTL, or while no other worker holds the
lock; and `try_lock` hears from Redis, unless its command has set the key. -/
def LockSystem.Timely (s : LockSystem W) : LockStep W → Prop
  | .tick _ => True
  | .acquire _ call scope key ttlMs link => call = .tryLock → 0 < ttlMs →
      link.delivered ∧ (link.answered ∨ s.redis.live? s.now (lockKey scope key) = none)
  | .release w _ => ∀ h, s.holding w = some h → h.expiresAt ≤ s.now →
      ∀ v, v ≠ w → ¬ s.Holds v h.key

omit [DecidableEq W] in
/-- What taking a lock comes to: it is not taken, it is taken of a free key, or
it is gone as soon as it is taken. -/
theorem LockCall.acquire_cases {s : LockSystem W} {w : W} {call : LockCall} {scope key : String}
    {ttlMs : ℤ} {link : RedisLink} (hok : s.Timely (.acquire w call scope key ttlMs link)) :
    (call.acquire s.redis link s.now scope key ttlMs = (s.redis, false)) ∨
    (call.acquire s.redis link s.now scope key ttlMs = (s.redis, true) ∧ ttlMs ≤ 0) ∨
    (s.redis.live? s.now (lockKey scope key) = none ∧ 0 < ttlMs ∧
      (call.acquire s.redis link s.now scope key ttlMs).1 =
        s.redis.set (lockKey scope key) ⟨"1", s.now + ttlMs⟩) := by
  by_cases hpx : ttlMs ≤ 0
  · cases call <;> simp [LockCall.acquire, Redis.setNx, LockCall.acquired, hpx]
  · have hpos : 0 < ttlMs := by omega
    by_cases hdelivered : link.delivered = true
    · cases hlive : s.redis.live? s.now (lockKey scope key) with
      | none => simp [LockCall.acquire, Redis.setNx, hpx, hdelivered, hlive, hpos]
      | some e =>
          cases call with
          | lock =>
              cases hanswered : link.answered <;>
                simp [LockCall.acquire, Redis.setNx, LockCall.acquired, hpx, hdelivered, hlive,
                  hanswered]
          | tryLock =>
              have hanswered : link.answered = true := by
                rcases (hok rfl hpos).2 with h | h
                · exact h
                · rw [hlive] at h
                  cases h
              simp [LockCall.acquire, Redis.setNx, LockCall.acquired, hpx, hdelivered, hlive,
                hanswered]
    · cases call with
      | lock => simp [LockCall.acquire, Redis.setNx, LockCall.acquired, hdelivered]
      | tryLock => exact absurd (hok rfl hpos).1 hdelivered

/-! ## The locks are exclusive -/

omit [DecidableEq W] in
theorem LockSystem.Exclusive.not_holds {s : LockSystem W} (h : s.Exclusive) {key : String}
    (hlive : s.redis.live? s.now key = none) (v : W) : ¬ s.Holds v key := by
  rintro ⟨held, hheld, rfl, hwithin⟩
  have hkept := h.kept v held hheld hwithin
  rw [hlive] at hkept
  cases hkept

omit [DecidableEq W] in
/-- The hands stay as they are while time passes and keys nobody holds change. -/
theorem LockSystem.Exclusive.of_holding_eq {s s' : LockSystem W} (h : s.Exclusive)
    (hholding : s'.holding = s.holding) (hnow : s.now ≤ s'.now)
    (hlive : ∀ w key, s.Holds w key → ∀ e, s.redis.live? s.now key = some e →
      s'.now < e.expiresAt → s'.redis.live? s'.now key = some e) : s'.Exclusive := by
  have hback : ∀ {w key}, s'.Holds w key → s.Holds w key := by
    rintro w key ⟨held, hheld, hkey, hwithin⟩
    exact ⟨held, hholding ▸ hheld, hkey, by omega⟩
  constructor
  · intro w v key hw hv
    exact h.unique w v key (hback hw) (hback hv)
  · intro w held hheld hwithin
    rw [hholding] at hheld
    have hbefore : s.now < held.expiresAt := by omega
    exact hlive w held.key ⟨held, hheld, rfl, hbefore⟩ _ (h.kept w held hheld hbefore) hwithin

theorem LockSystem.Exclusive.tick {s : LockSystem W} (h : s.Exclusive) (elapsed : ℕ) :
    (s.step (.tick elapsed)).Exclusive := by
  have hnow : s.now ≤ s.now + elapsed := by omega
  refine LockSystem.Exclusive.of_holding_eq h (by rfl) hnow ?_
  intro w key _ e hlive hwithin
  rw [Redis.live?_eq_some] at hlive ⊢
  exact ⟨hlive.1, hwithin⟩

omit [DecidableEq W] in
/-- A free key that is set is held by nobody else. -/
theorem LockSystem.Exclusive.set {s : LockSystem W} (h : s.Exclusive) {key : String}
    (hfree : s.redis.live? s.now key = none) (e : RedisEntry) :
    LockSystem.Exclusive { s with redis := s.redis.set key e } := by
  refine LockSystem.Exclusive.of_holding_eq h (by rfl) (le_refl _) ?_
  intro w key' hholds e' hlive _
  have hne : key ≠ key' := by
    rintro rfl
    exact h.not_holds hfree w hholds
  rw [Redis.live?_set, if_neg hne]
  exact hlive

/-- Taking a lock that nobody else holds, unless it is gone at once. -/
theorem LockSystem.Exclusive.take {s : LockSystem W} (h : s.Exclusive) (w : W) (held : LockHolding)
    (hothers : s.now < held.expiresAt → ∀ v, ¬ s.Holds v held.key)
    (hkept : s.now < held.expiresAt →
      s.redis.live? s.now held.key = some ⟨"1", held.expiresAt⟩) :
    LockSystem.Exclusive { s with holding := Function.update s.holding w (some held) } := by
  have hback : ∀ v key, LockSystem.Holds
      { s with holding := Function.update s.holding w (some held) } v key →
      (v = w ∧ key = held.key ∧ s.now < held.expiresAt) ∨ s.Holds v key := by
    rintro v key ⟨held', hheld', hkey, hwithin⟩
    by_cases hv : v = w
    · subst hv
      simp only [Function.update_self, Option.some.injEq] at hheld'
      subst hheld'
      exact Or.inl ⟨rfl, hkey.symm, hwithin⟩
    · simp only [Function.update_of_ne hv] at hheld'
      exact Or.inr ⟨held', hheld', hkey, hwithin⟩
  constructor
  · intro v v' key hv hv'
    rcases hback v key hv with ⟨hvw, hkey, hwithin⟩ | hold
    · rcases hback v' key hv' with ⟨hvw', _⟩ | hold'
      · rw [hvw, hvw']
      · exact absurd (hkey ▸ hold') (hothers hwithin v')
    · rcases hback v' key hv' with ⟨_, hkey, hwithin⟩ | hold'
      · exact absurd (hkey ▸ hold) (hothers hwithin v)
      · exact h.unique v v' key hold hold'
  · intro v held' hheld' hwithin
    by_cases hv : v = w
    · subst hv
      simp only [Function.update_self, Option.some.injEq] at hheld'
      subst hheld'
      exact hkept hwithin
    · simp only [Function.update_of_ne hv] at hheld'
      exact h.kept v held' hheld' hwithin

theorem LockSystem.Exclusive.acquire {s : LockSystem W} (h : s.Exclusive) {w : W}
    {call : LockCall} {scope key : String} {ttlMs : ℤ} {link : RedisLink}
    (hok : s.Timely (.acquire w call scope key ttlMs link)) :
    (s.step (.acquire w call scope key ttlMs link)).Exclusive := by
  simp only [LockSystem.step]
  split
  · exact h
  · rcases LockCall.acquire_cases hok with hcall | ⟨hcall, hgone⟩ | ⟨hfree, hpos, hcall⟩
    · simpa [hcall] using h
    · simp only [hcall, if_true]
      apply h.take w ⟨lockKey scope key, s.now + ttlMs⟩
      · intro hwithin
        dsimp only at hwithin
        omega
      · intro hwithin
        dsimp only at hwithin
        omega
    · rw [hcall]
      have hset := h.set hfree ⟨"1", s.now + ttlMs⟩
      split
      · apply hset.take w ⟨lockKey scope key, s.now + ttlMs⟩
        · exact fun _ v hv => h.not_holds hfree v hv
        · intro hwithin
          rw [Redis.live?_set, if_pos rfl, Option.filter_eq_some_iff]
          exact ⟨rfl, by simpa using hwithin⟩
      · exact hset

/-- Deleting a key that no other worker holds. -/
theorem LockSystem.Exclusive.release {s : LockSystem W} (h : s.Exclusive) {w : W}
    {link : RedisLink} (hok : s.Timely (.release w link)) :
    (s.step (.release w link)).Exclusive := by
  simp only [LockSystem.step]
  cases hheld : s.holding w with
  | none => exact h
  | some held =>
      have hothers : ∀ v, v ≠ w → ¬ s.Holds v held.key := by
        intro v hv
        by_cases hwithin : s.now < held.expiresAt
        · exact fun hholds => hv (h.unique v w held.key hholds ⟨held, hheld, rfl, hwithin⟩)
        · exact hok held hheld (by omega) v hv
      have hback : ∀ {v held'}, Function.update s.holding w none v = some held' →
          v ≠ w ∧ s.holding v = some held' := by
        intro v held' hv
        by_cases hvw : v = w
        · subst hvw
          simp at hv
        · rw [Function.update_of_ne hvw] at hv
          exact ⟨hvw, hv⟩
      constructor
      · rintro v v' key ⟨a, ha, hakey, hawithin⟩ ⟨b, hb, hbkey, hbwithin⟩
        exact h.unique v v' key ⟨a, (hback ha).2, hakey, hawithin⟩ ⟨b, (hback hb).2, hbkey, hbwithin⟩
      · intro v held' hv hwithin
        obtain ⟨hvw, hv⟩ := hback hv
        have hne : held.key ≠ held'.key := by
          intro hkey
          exact hothers v hvw ⟨held', hv, hkey.symm, hwithin⟩
        dsimp only [releaseLock]
        rw [Redis.live?_delete_ne s.redis link s.now hne]
        exact h.kept v held' hv hwithin

theorem LockSystem.Exclusive.step {s : LockSystem W} (h : s.Exclusive) {a : LockStep W}
    (hok : s.Timely a) : (s.step a).Exclusive := by
  cases a with
  | tick elapsed => exact h.tick elapsed
  | acquire w call scope key ttlMs link => exact h.acquire hok
  | release w link => exact h.release hok

omit [DecidableEq W] in
theorem LockSystem.exclusive_start (now : ℤ) (redis : Redis) :
    (LockSystem.start W now redis).Exclusive := by
  constructor
  · rintro w v key ⟨held, hheld, _⟩
    cases hheld
  · intro w held hheld
    cases hheld

/-- In every run of any workers whose releases are timely the lock is exclusive. -/
theorem LockSystem.exclusive_of_reaches {now : ℤ} {redis : Redis} {s : LockSystem W}
    (h : Reaches LockSystem.step LockSystem.Timely (LockSystem.start W now redis) s) :
    s.Exclusive :=
  h.invariant (LockSystem.exclusive_start now redis) (fun _ _ hs ha => hs.step ha)

end System

/-! ## A release that comes late -/

/-- The first worker outlives its TTL, the second takes the lock, the first
releases it, and the third takes it too. -/
def demoLateRelease : List (LockStep (Fin 3)) :=
  [.acquire 0 .lock "order" "user1" 5000 {}, .tick 6000, .acquire 1 .lock "order" "user1" 5000 {},
    .tick 100, .release 0 {}, .acquire 2 .lock "order" "user1" 5000 {}]

theorem demoLateRelease_not_exclusive :
    ¬ (demoLateRelease.foldl LockSystem.step (LockSystem.start (Fin 3) 0 Dict.empty)).Exclusive := by
  intro h
  have hsecond : LockSystem.Holds (demoLateRelease.foldl LockSystem.step
      (LockSystem.start (Fin 3) 0 Dict.empty)) 1 "lock:order:user1" :=
    ⟨⟨"lock:order:user1", 11000⟩, by decide +kernel, rfl, by decide +kernel⟩
  have hthird : LockSystem.Holds (demoLateRelease.foldl LockSystem.step
      (LockSystem.start (Fin 3) 0 Dict.empty)) 2 "lock:order:user1" :=
    ⟨⟨"lock:order:user1", 11100⟩, by decide +kernel, rfl, by decide +kernel⟩
  have heq := h.unique 1 2 "lock:order:user1" hsecond hthird
  exact absurd heq (by decide)

/-- A worker takes the lock for five seconds, and is done with it at once. -/
def demoTimely : List (LockStep (Fin 3)) :=
  [.acquire 0 .tryLock "order" "user1" 5000 {}, .tick 100, .release 0 {}]

theorem demoTimely_exclusive :
    (demoTimely.foldl LockSystem.step (LockSystem.start (Fin 3) 0 Dict.empty)).Exclusive := by
  refine LockSystem.exclusive_of_reaches (Reaches.start.foldl demoTimely ?_)
  refine ⟨fun _ _ => ⟨rfl, Or.inl rfl⟩, trivial, ?_, trivial⟩
  intro held hheld hlate
  have hrun : some held = some ⟨"lock:order:user1", 5000⟩ := by
    rw [← hheld]
    decide +kernel
  rw [Option.some.inj hrun] at hlate
  exact absurd hlate (by decide +kernel)

end CryptoTrader
