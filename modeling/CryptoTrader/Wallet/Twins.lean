import CryptoTrader.Lib.Latest
import CryptoTrader.Wallet.Recovery

/-!
# Wallets that run alike

Two wallets with different pasts are twins when an operation cannot tell them
apart: they show the same, read the same clock and have since written the same
to stores of their own.
-/

namespace CryptoTrader

open CryptoTrader.Lib

/-! ## What an operation can see -/

/-- The portfolio without the fields that no operation reads. -/
def PortfolioState.core (s : PortfolioState) : PortfolioState :=
  { s with fundingTotal := 0, violations := [], lastTs := 0, eventsApplied := 0 }

theorem PortfolioState.core_apply (s : PortfolioState) (event : Event) :
    (s.apply event).core = (s.core.apply event).core := by
  unfold apply
  cases event.payload with
  | orderCreated p =>
      simp only [applyPayload]
      split <;> rfl
  | _ => rfl

/-- What is seen after an event depends on what was seen before it. -/
theorem PortfolioState.core_congruence :
    EventLog.Congruence PortfolioState.apply PortfolioState.core := by
  intro s t event h
  rw [core_apply s, core_apply t, h]

/-- The wallet without its clock, its counts and its stores. -/
def Wallet.core (w : Wallet) : Wallet :=
  { w with
    clock := fun _ => 0
    reads := 0
    runtime := w.runtime.core
    base := {}
    journal := [] }

/-- The snapshot without the fields that no operation reads. -/
def Snapshot.core (snap : Snapshot) : Snapshot :=
  { snap with reducerViolations := [], reducerLastTs := 0, reducerEventsApplied := 0 }

theorem Snapshot.core_reducerState (snap : Snapshot) :
    snap.reducerState.core = snap.core.reducerState := rfl

theorem Wallet.core_snapshot (w : Wallet) : w.snapshot.core = w.core.snapshot.core := rfl

/-! ## Stores that are alike -/

/-- Two counts of applied events, one of them with the `past` events before,
the other with a bootstrap event. -/
def CountsPast (past n m : Nat) : Prop := ∃ since, n = past + since ∧ m = since + 1

theorem CountsPast.succ {past n m : Nat} (h : CountsPast past n m) :
    CountsPast past (n + 1) (m + 1) := by
  obtain ⟨since, rfl, rfl⟩ := h
  exact ⟨since + 1, by omega, rfl⟩

structure Snapshot.Alike (past : Nat) (a b : Snapshot) : Prop where
  core : a.core = b.core
  counts : CountsPast past a.reducerEventsApplied b.reducerEventsApplied

/-- Two writes that differ in what they count only. -/
inductive Write.Alike (past : Nat) : Write → Write → Prop where
  | jsonl (event : Event) : Write.Alike past (.jsonl event) (.jsonl event)
  | dbEvent (event : Event) : Write.Alike past (.dbEvent event) (.dbEvent event)
  | domainEvent (event : Event) : Write.Alike past (.domainEvent event) (.domainEvent event)
  | stateFile {a b : Snapshot} (h : a.Alike past b) : Write.Alike past (.stateFile a) (.stateFile b)
  | dbSnapshot {a b : Snapshot} (ts maxSnapshots : Nat) (h : a.Alike past b) :
      Write.Alike past (.dbSnapshot ts a maxSnapshots) (.dbSnapshot ts b maxSnapshots)
  | redisPut {a b : Snapshot} (h : a.Alike past b) : Write.Alike past (.redisPut a) (.redisPut b)

/-- Two snapshots that are both of the time since, or the one from before and
none. -/
def Snapshot.SinceOr (past : Nat) (before a b : Option Snapshot) : Prop :=
  (a = before ∧ b = none) ∨ Option.Rel (Snapshot.Alike past) a b ∧ a.isSome

/-- Stores that have been written alike, those of `s` on top of what was there
before. -/
structure Stores.Alike (before s t : Stores) : Prop where
  events : ∃ first new, s.events = before.events ++ new ∧ t.events = first :: new ∧ first.ts = 0
  stateFile : Snapshot.SinceOr before.events.length before.stateFile s.stateFile t.stateFile
  redis : Snapshot.SinceOr before.events.length before.redis s.redis t.redis
  latest : (∃ ts a b, s.latestSnapshot = some (ts, a) ∧ t.latestSnapshot = some (ts, b) ∧
      Snapshot.Alike before.events.length a b) ∨
    (s.latestSnapshot = before.latestSnapshot ∧
      ∀ row, t.latestSnapshot = some row → ∃ old, before.latestSnapshot = some old ∧ row.1 ≤ old.1)

section Latest

theorem Stores.latestSnapshot_eq (s : Stores) : s.latestSnapshot = s.snapshots.argmax Prod.fst :=
  head?_insertionSort_desc Prod.fst s.snapshots

/-- The rotation keeps the latest row. -/
theorem argmax_rotateSnapshots (maxSnapshots : Nat) (rows : List (Nat × Snapshot)) :
    (rotateSnapshots maxSnapshots rows).argmax Prod.fst = rows.argmax Prod.fst := by
  unfold rotateSnapshots
  simp only
  split
  · rfl
  · next hids =>
      have hrows : rows.argmax Prod.fst =
          (rows.zipIdx.argmax (fun row => row.1.1)).map Prod.fst := by
        rw [← argmax_map Prod.fst Prod.fst, List.zipIdx_map_fst]
      have hhead := head?_insertionSort_desc (fun row : (Nat × Snapshot) × Nat => row.1.1)
        rows.zipIdx
      rw [argmax_map Prod.fst Prod.fst, hrows]
      cases hsorted : rows.zipIdx.insertionSort (fun a b => b.1.1 ≤ a.1.1) with
      | nil => rw [hsorted] at hids; simp at hids
      | cons top sorted =>
          rw [hsorted] at hhead hids
          cases maxSnapshots with
          | zero => simp at hids
          | succ n =>
              have hkeep : decide (top.2 ∈ ((top :: sorted).take (n + 1)).map Prod.snd) = true := by
                simp
              rw [← hhead, argmax_filter _ hhead.symm hkeep]
              rfl

theorem Stores.latestSnapshot_dbSnapshot (s : Stores) (ts : Nat) (snap : Snapshot)
    (maxSnapshots : Nat) :
    (s.write (.dbSnapshot ts snap maxSnapshots)).latestSnapshot =
      (s.snapshots ++ [(ts, snap)]).argmax Prod.fst := by
  rw [Stores.latestSnapshot_eq]
  exact argmax_rotateSnapshots maxSnapshots _

end Latest

section Write

variable {before s t : Stores}

/-- A row that is saved to both tables leaves them alike: the older row of the
one may stay on top, of the same millisecond or later. -/
theorem Stores.Alike.latest_write (h : Stores.Alike before s t) {a b : Snapshot}
    (hab : a.Alike before.events.length b) (ts maxSnapshots : Nat) :
    let s' := s.write (.dbSnapshot ts a maxSnapshots)
    let t' := t.write (.dbSnapshot ts b maxSnapshots)
    (∃ ts a b, s'.latestSnapshot = some (ts, a) ∧ t'.latestSnapshot = some (ts, b) ∧
        Snapshot.Alike before.events.length a b) ∨
      (s'.latestSnapshot = before.latestSnapshot ∧
        ∀ row, t'.latestSnapshot = some row →
          ∃ old, before.latestSnapshot = some old ∧ row.1 ≤ old.1) := by
  simp only [Stores.latestSnapshot_dbSnapshot]
  have hlatest := h.latest
  simp only [Stores.latestSnapshot_eq s, Stores.latestSnapshot_eq t] at hlatest
  rcases hlatest with ⟨last, c, d, hs, ht, hcd⟩ | ⟨hs, ht⟩
  · left
    by_cases hlt : last < ts
    · exact ⟨ts, a, b, argmax_concat_of_lt Prod.fst hs hlt, argmax_concat_of_lt Prod.fst ht hlt, hab⟩
    · have hle : ts ≤ last := Nat.le_of_not_lt hlt
      exact ⟨last, c, d, argmax_concat_of_le Prod.fst hs hle, argmax_concat_of_le Prod.fst ht hle,
        hcd⟩
  · cases hbefore : before.latestSnapshot with
    | none =>
        left
        have hnone : t.snapshots.argmax Prod.fst = none := by
          cases htop : t.snapshots.argmax Prod.fst with
          | none => rfl
          | some row =>
              obtain ⟨old, hold, -⟩ := ht row htop
              rw [hbefore] at hold
              cases hold
        exact ⟨ts, a, b, argmax_concat_of_none Prod.fst (hs.trans hbefore),
          argmax_concat_of_none Prod.fst hnone, hab⟩
    | some old =>
        rw [hbefore] at hs
        by_cases hlt : old.1 < ts
        · left
          refine ⟨ts, a, b, argmax_concat_of_lt Prod.fst hs hlt, ?_, hab⟩
          cases htop : t.snapshots.argmax Prod.fst with
          | none => exact argmax_concat_of_none Prod.fst htop
          | some row =>
              obtain ⟨old', hold', hle⟩ := ht row htop
              rw [hbefore] at hold'
              cases hold'
              exact argmax_concat_of_lt Prod.fst htop (Nat.lt_of_le_of_lt hle hlt)
        · right
          have hle : ts ≤ old.1 := Nat.le_of_not_lt hlt
          refine ⟨argmax_concat_of_le Prod.fst hs hle, fun row hrow => ⟨old, rfl, ?_⟩⟩
          have hmem := List.argmax_mem hrow
          rcases List.mem_append.mp hmem with hmem | hnew
          · cases htop : t.snapshots.argmax Prod.fst with
            | none =>
                rw [List.argmax_eq_none] at htop
                rw [htop] at hmem
                cases hmem
            | some top =>
                obtain ⟨old', hold', htop'⟩ := ht top htop
                rw [hbefore] at hold'
                cases hold'
                exact (List.le_of_mem_argmax hmem htop).trans htop'
          · rw [List.mem_singleton.mp hnew]
            exact hle

theorem Stores.Alike.write (h : Stores.Alike before s t) {x y : Write}
    (hxy : Write.Alike before.events.length x y) : Stores.Alike before (s.write x) (t.write y) := by
  cases hxy with
  | jsonl event => exact ⟨h.events, h.stateFile, h.redis, h.latest⟩
  | domainEvent event => exact h
  | dbEvent event =>
      obtain ⟨first, new, hs, ht, hts⟩ := h.events
      refine ⟨⟨first, new ++ [event], ?_, ?_, hts⟩, h.stateFile, h.redis, h.latest⟩
      · simp [Stores.write, hs]
      · simp [Stores.write, ht]
  | stateFile hab => exact ⟨h.events, Or.inr ⟨.some hab, rfl⟩, h.redis, h.latest⟩
  | redisPut hab => exact ⟨h.events, h.stateFile, Or.inr ⟨.some hab, rfl⟩, h.latest⟩
  | dbSnapshot ts maxSnapshots hab =>
      exact ⟨h.events, h.stateFile, h.redis, h.latest_write hab ts maxSnapshots⟩

theorem Stores.Alike.writes {xs ys : List Write}
    (hxs : List.Forall₂ (Write.Alike before.events.length) xs ys) :
    ∀ {s t : Stores}, Stores.Alike before s t → Stores.Alike before (s.writes xs) (t.writes ys) := by
  induction hxs with
  | nil => exact fun h => h
  | cons hxy _ ih => exact fun h => ih (h.write hxy)

end Write

/-! ## Twins -/

/-- `w` runs as `v` does, on top of the stores `before`. -/
structure Wallet.Twins (before : Stores) (w v : Wallet) : Prop where
  core : w.core = v.core
  clock : ∀ n, w.clock (w.reads + n) = v.clock (v.reads + n)
  counts : CountsPast before.events.length w.runtime.eventsApplied v.runtime.eventsApplied
  journal : ∃ start written, v.journal = start ++ written ∧
    Stores.Alike before w.base (v.base.writes start) ∧
    List.Forall₂ (Write.Alike before.events.length) w.journal written

/-- Two results of an operation: the values are equal and the wallets twins. -/
def Wallet.TwinResults {α : Type} (before : Stores) (r r' : α × Wallet) : Prop :=
  r.1 = r'.1 ∧ Wallet.Twins before r.2 r'.2

namespace Wallet.Twins

variable {before : Stores} {w v : Wallet}

theorem read {α : Type} (h : Twins before w v) (f : Wallet → α) (hf : ∀ u : Wallet, f u = f u.core) :
    f w = f v := by
  rw [hf w, hf v, h.core]

theorem nowMs (h : Twins before w v) : w.nowMs = v.nowMs := h.clock 0

theorem getOpenPosition (h : Twins before w v) (symbol : Symbol) :
    w.getOpenPosition symbol = v.getOpenPosition symbol :=
  h.read (fun u => u.getOpenPosition symbol) (fun _ => rfl)

/-- Writes in step leave alike journals. -/
theorem journal_append (h : Twins before w v) {xs ys : List Write}
    (hxs : List.Forall₂ (Write.Alike before.events.length) xs ys) :
    ∃ start written, v.journal ++ ys = start ++ written ∧
      Stores.Alike before w.base (v.base.writes start) ∧
      List.Forall₂ (Write.Alike before.events.length) (w.journal ++ xs) written := by
  obtain ⟨start, written, hv, hbase, hw⟩ := h.journal
  exact ⟨start, written ++ ys, by rw [hv, List.append_assoc], hbase, List.rel_append hw hxs⟩

theorem crashed (h : Twins before w v) (k : Nat) :
    Stores.Alike before (w.crashed k) (v.crashed (v.journal.length - w.journal.length + k)) := by
  obtain ⟨start, written, hv, hbase, hw⟩ := h.journal
  have hlength : v.journal.length - w.journal.length + k = start.length + k := by
    rw [hv, List.length_append, hw.length_eq]
    omega
  unfold Wallet.crashed
  rw [hlength, hv, List.take_length_add_append, Stores.writes_append]
  exact hbase.writes (List.forall₂_take k hw)

/-! ### Primitive steps -/

/-- A change of what is in the core, read off the core. -/
theorem update (h : Twins before w v) (f : Wallet → Wallet) (hcore : ∀ u, (f u).core = (f u.core).core)
    (hframe : ∀ u, (f u).clock = u.clock ∧ (f u).reads = u.reads ∧ (f u).runtime = u.runtime ∧
      (f u).base = u.base ∧ (f u).journal = u.journal) : Twins before (f w) (f v) := by
  obtain ⟨hclock, hreads, hruntime, hbase, hjournal⟩ := hframe w
  obtain ⟨hclock', hreads', hruntime', hbase', hjournal'⟩ := hframe v
  refine ⟨by rw [hcore w, hcore v, h.core], ?_, ?_, ?_⟩
  · rw [hclock, hreads, hclock', hreads']
    exact h.clock
  · rw [hruntime, hruntime']
    exact h.counts
  · rw [hbase, hjournal, hbase', hjournal']
    exact h.journal

theorem setPosition (h : Twins before w v) (symbol : Symbol) (pos : EnhancedPosition) :
    Twins before (w.setPosition symbol pos) (v.setPosition symbol pos) :=
  h.update (fun u => u.setPosition symbol pos) (fun _ => rfl) (fun _ => ⟨rfl, rfl, rfl, rfl, rfl⟩)

theorem editPosition (h : Twins before w v) (symbol : Symbol)
    (f : EnhancedPosition → EnhancedPosition) :
    Twins before (w.editPosition symbol f) (v.editPosition symbol f) :=
  h.update (fun u => u.editPosition symbol f) (fun _ => rfl) (fun _ => ⟨rfl, rfl, rfl, rfl, rfl⟩)

theorem appendHistory (h : Twins before w v) (record : EnhancedPosition) :
    Twins before (w.appendHistory record) (v.appendHistory record) :=
  h.update (fun u => u.appendHistory record) (fun _ => rfl) (fun _ => ⟨rfl, rfl, rfl, rfl, rfl⟩)

theorem syncUnrealizedTotal (h : Twins before w v) :
    Twins before w.syncUnrealizedTotal v.syncUnrealizedTotal :=
  h.update Wallet.syncUnrealizedTotal (fun _ => rfl) (fun _ => ⟨rfl, rfl, rfl, rfl, rfl⟩)

theorem tick (h : Twins before w v) : Twins before w.tick v.tick := by
  refine ⟨h.core, fun n => ?_, h.counts, h.journal⟩
  show w.clock (w.reads + 1 + n) = v.clock (v.reads + 1 + n)
  rw [Nat.add_assoc, Nat.add_assoc]
  exact h.clock (1 + n)

/-- Twins build the same event, and it does the same to both. -/
theorem emit (h : Twins before w v) (payload : Payload) :
    Twins before (w.emit payload) (v.emit payload) := by
  have hevent : w.event payload = v.event payload := by
    unfold Wallet.event
    rw [h.nowMs, h.read Wallet.cfg (fun _ => rfl)]
  have hruntime : (w.emit payload).runtime.core = (v.emit payload).runtime.core := by
    rw [Wallet.runtime_emit, Wallet.runtime_emit, hevent]
    exact PortfolioState.core_congruence _ _ _ (h.read (fun u => u.runtime.core) (fun _ => rfl))
  have hcore : ∀ u : Wallet, (u.emit payload).core =
      { u.core with
        runtime := (u.emit payload).runtime.core
        walletBalance := (u.emit payload).runtime.core.walletBalance
        realizedPnlTotal := (u.emit payload).runtime.core.realizedPnlTotal
        positions := (u.emit payload).runtime.core.openPositions.mapVal (fun symbol data =>
          syncPosition (u.core.positions.get? symbol) u.core.liveExecution symbol data)
        halted := u.core.halted ||
          (payload.isInvariantViolation && u.core.cfg.haltOnInvariantViolation) } := fun _ => rfl
  refine ⟨by rw [hcore w, hcore v, h.core, hruntime], h.tick.clock, ?_, ?_⟩
  · rw [Wallet.runtime_emit, Wallet.runtime_emit, PortfolioState.eventsApplied_apply,
      PortfolioState.eventsApplied_apply]
    exact h.counts.succ
  · refine h.journal_append ?_
    rw [hevent]
    exact .cons (.jsonl _) (.cons (.dbEvent _) (.cons (.domainEvent _) .nil))

theorem save (h : Twins before w v) : Twins before w.save v.save := by
  have hsnap : w.snapshot.Alike before.events.length v.snapshot := by
    refine ⟨?_, h.counts⟩
    rw [w.core_snapshot, v.core_snapshot, h.core]
  have hcore : ∀ u : Wallet, u.save.core = { u.core with runtime := u.core.runtimeWithPeaks } :=
    fun _ => rfl
  refine ⟨by rw [hcore w, hcore v, h.core], h.tick.clock, h.counts, ?_⟩
  have hredis : w.cfg.redisAttached = v.cfg.redisAttached :=
    h.read (fun u => u.cfg.redisAttached) (fun _ => rfl)
  have hmax : w.cfg.maxSnapshots = v.cfg.maxSnapshots :=
    h.read (fun u => u.cfg.maxSnapshots) (fun _ => rfl)
  have hwrites : List.Forall₂ (Write.Alike before.events.length)
      ([.stateFile w.snapshot, .dbSnapshot w.nowMs w.snapshot w.cfg.maxSnapshots] ++
        (if w.cfg.redisAttached then [.redisPut w.snapshot] else []))
      ([.stateFile v.snapshot, .dbSnapshot v.nowMs v.snapshot v.cfg.maxSnapshots] ++
        (if v.cfg.redisAttached then [.redisPut v.snapshot] else [])) := by
    rw [← hredis, ← hmax, ← h.nowMs]
    refine List.rel_append (.cons (.stateFile hsnap) (.cons (.dbSnapshot _ _ hsnap) .nil)) ?_
    cases w.cfg.redisAttached with
    | false => exact .nil
    | true => exact .cons (.redisPut hsnap) .nil
  have happend := h.journal_append hwrites
  rw [← List.append_assoc, ← List.append_assoc] at happend
  exact happend

end Wallet.Twins

end CryptoTrader
