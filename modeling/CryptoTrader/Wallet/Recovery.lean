import CryptoTrader.Wallet.Ledger

/-!
# Crash recovery

A wallet may die between any two of its persistent writes; what it leaves is
a prefix of its journal over the stores it started from.  Every snapshot in
there stands for a prefix of the event table, of the length it counts.  The
database snapshot is completed with the events past that count.  The Redis
snapshot, the state file and the blank start are taken as they are.
-/

namespace CryptoTrader

open CryptoTrader.Lib

/-! ## Sound stores -/

/-- A snapshot stands for the first events of the table, as many as it counts. -/
structure Stores.SnapshotOf (initialBalance : Decimal) (s : Stores) (snap : Snapshot) : Prop where
  pos : 0 < snap.reducerEventsApplied
  le : snap.reducerEventsApplied ≤ s.events.length
  view : snap.reducerState.view =
    (PortfolioState.ofLog initialBalance (s.events.take snap.reducerEventsApplied)).view

/-- The event table is in time order and all snapshots stand for prefixes of
it. -/
structure Stores.Sound (initialBalance : Decimal) (s : Stores) : Prop where
  sorted : s.events.Pairwise (fun a b => a.ts ≤ b.ts)
  snapshots : ∀ row ∈ s.snapshots, s.SnapshotOf initialBalance row.2
  stateFile : ∀ snap, s.stateFile = some snap → s.SnapshotOf initialBalance snap
  redis : ∀ snap, s.redis = some snap → s.SnapshotOf initialBalance snap

/-- What a write must satisfy to keep the stores sound. -/
def Stores.WriteOk (initialBalance : Decimal) (s : Stores) : Write → Prop
  | .jsonl _ | .domainEvent _ => True
  | .dbEvent event => ∀ e ∈ s.events, e.ts ≤ event.ts
  | .stateFile snap | .dbSnapshot _ snap _ | .redisPut snap => s.SnapshotOf initialBalance snap

section Sound

variable {initialBalance : Decimal} {s : Stores}

/-- Snapshots are looked up in the event table only. -/
theorem Stores.SnapshotOf.congr {s' : Stores} {snap : Snapshot}
    (h : s.SnapshotOf initialBalance snap) (hevents : s'.events = s.events) :
    s'.SnapshotOf initialBalance snap :=
  ⟨h.pos, hevents ▸ h.le, hevents ▸ h.view⟩

/-- Later rows do not disturb the prefix. -/
theorem Stores.SnapshotOf.append {s' : Stores} {snap : Snapshot} {new : List Event}
    (h : s.SnapshotOf initialBalance snap) (hevents : s'.events = s.events ++ new) :
    s'.SnapshotOf initialBalance snap := by
  refine ⟨h.pos, ?_, ?_⟩
  · rw [hevents, List.length_append]
    exact h.le.trans (Nat.le_add_right _ _)
  · rw [hevents, List.take_append_of_le_length h.le]
    exact h.view

theorem Stores.Sound.write (h : s.Sound initialBalance) (x : Write)
    (hx : s.WriteOk initialBalance x) : (s.write x).Sound initialBalance := by
  cases x with
  | jsonl event =>
      exact ⟨h.sorted, fun row hrow => (h.snapshots row hrow).congr rfl,
        fun snap hsnap => (h.stateFile snap hsnap).congr rfl,
        fun snap hsnap => (h.redis snap hsnap).congr rfl⟩
  | domainEvent event => exact h
  | dbEvent event =>
      refine ⟨?_, fun row hrow => (h.snapshots row hrow).append rfl,
        fun snap hsnap => (h.stateFile snap hsnap).append rfl,
        fun snap hsnap => (h.redis snap hsnap).append rfl⟩
      rw [Stores.write, List.pairwise_append]
      refine ⟨h.sorted, List.pairwise_singleton _ _, ?_⟩
      intro a ha b hb
      rw [List.mem_singleton.mp hb]
      exact hx a ha
  | stateFile snap =>
      refine ⟨h.sorted, fun row hrow => (h.snapshots row hrow).congr rfl, ?_,
        fun snap hsnap => (h.redis snap hsnap).congr rfl⟩
      intro snap' hsnap'
      rw [← Option.some.inj hsnap']
      exact hx.congr rfl
  | dbSnapshot ts snap maxSnapshots =>
      refine ⟨h.sorted, ?_, fun snap hsnap => (h.stateFile snap hsnap).congr rfl,
        fun snap hsnap => (h.redis snap hsnap).congr rfl⟩
      intro row hrow
      rcases List.mem_append.mp (mem_rotateSnapshots hrow) with hold | hnew
      · exact (h.snapshots row hold).congr rfl
      · rw [List.mem_singleton.mp hnew]
        exact hx.congr rfl
  | redisPut snap =>
      refine ⟨h.sorted, fun row hrow => (h.snapshots row hrow).congr rfl,
        fun snap hsnap => (h.stateFile snap hsnap).congr rfl, ?_⟩
      intro snap' hsnap'
      rw [← Option.some.inj hsnap']
      exact hx.congr rfl

/-- Every write of a list is fine when its turn comes. -/
def Stores.WritesOk (initialBalance : Decimal) : Stores → List Write → Prop
  | _, [] => True
  | s, x :: rest => s.WriteOk initialBalance x ∧ (s.write x).WritesOk initialBalance rest

/-- Then the stores are sound after each of them. -/
theorem Stores.Sound.writes_take (j : List Write) : ∀ {s : Stores}, s.Sound initialBalance →
    s.WritesOk initialBalance j → ∀ k, (s.writes (j.take k)).Sound initialBalance := by
  induction j with
  | nil => intro s h _ k; simpa using h
  | cons x rest ih =>
      intro s h hok k
      cases k with
      | zero => exact h
      | succ k => exact ih (h.write x hok.1) hok.2 k

theorem Stores.writesOk_append (j₁ j₂ : List Write) : ∀ (s : Stores),
    s.WritesOk initialBalance (j₁ ++ j₂) ↔
      s.WritesOk initialBalance j₁ ∧ (s.writes j₁).WritesOk initialBalance j₂ := by
  induction j₁ with
  | nil => intro s; simp [WritesOk]
  | cons x rest ih =>
      intro s
      simp only [List.cons_append, WritesOk, ih, Stores.writes_cons, and_assoc]

end Sound

/-! ## What a living wallet keeps -/

/-- The wallet follows its log, counts it, and has journalled sound writes. -/
structure Wallet.Durable (w : Wallet) : Prop where
  tracks : w.Tracks
  clock : Monotone w.clock
  counted : w.runtime.eventsApplied = w.log.length
  base : w.base.Sound w.cfg.initialBalance
  journal : w.base.WritesOk w.cfg.initialBalance w.journal

section Durable

variable {w w' : Wallet}

/-- Whatever prefix of the writes a crash leaves is sound. -/
theorem Wallet.Durable.crashed (h : w.Durable) (k : Nat) :
    (w.base.writes (w.journal.take k)).Sound w.cfg.initialBalance :=
  h.base.writes_take w.journal h.journal k

/-- A snapshot taken now stands for the whole table. -/
theorem Wallet.Durable.snapshotOf (h : w.Durable) (hpos : 0 < w.runtime.eventsApplied)
    {s : Stores} (hevents : s.events = w.log) :
    s.SnapshotOf w.cfg.initialBalance w.snapshot := by
  have hcount : w.snapshot.reducerEventsApplied = s.events.length := by
    rw [hevents]
    exact h.counted
  refine ⟨hpos, hcount.le, ?_⟩
  rw [hcount, List.take_length, hevents,
    w.view_snapshot h.tracks.walletBalance h.tracks.realizedPnlTotal]
  exact h.tracks.view

theorem Wallet.Durable.step (h : w.Durable) (hstep : Wallet.Step w w') : w'.Durable := by
  have htracks := h.tracks.step h.clock hstep
  cases hstep with
  | emit payload =>
      refine ⟨htracks, h.clock, ?_, h.base, ?_⟩
      · rw [Wallet.runtime_emit, PortfolioState.eventsApplied_apply, h.counted, Wallet.log_emit,
          List.length_append, List.length_singleton]
      · refine (Stores.writesOk_append _ _ _).mpr ⟨h.journal, trivial, ?_, trivial, trivial⟩
        intro e he
        exact h.tracks.bounded e he
  | save hpos =>
      have hsnap : ∀ {s : Stores}, s.events = w.log →
          s.SnapshotOf w.cfg.initialBalance w.snapshot := h.snapshotOf hpos
      refine ⟨htracks, h.clock, ?_, h.base, ?_⟩
      · rw [Wallet.log_save]
        exact h.counted
      · refine (Stores.writesOk_append _ _ _).mpr
          ⟨(Stores.writesOk_append _ _ _).mpr ⟨h.journal, hsnap rfl, hsnap rfl, trivial⟩, ?_⟩
        split
        · refine ⟨hsnap ?_, trivial⟩
          rw [Stores.writes_append]
          rfl
        · trivial
  | volatile hv =>
      refine ⟨htracks, ?_, ?_, ?_, ?_⟩
      · rw [hv.clock]
        exact h.clock
      · rw [hv.runtime, hv.log]
        exact h.counted
      · rw [hv.base, hv.cfg]
        exact h.base
      · rw [hv.base, hv.cfg, hv.journal]
        exact h.journal

theorem Wallet.Durable.steps (h : w.Durable) (hsteps : Wallet.Steps w w') : w'.Durable := by
  induction hsteps with
  | refl => exact h
  | tail _ hstep ih => exact ih.step hstep

end Durable

/-! ## What a reload recovers -/

/-- The stored log holds bootstrap events only. -/
def Stores.OnlyBootstrap (initialBalance : Decimal) (s : Stores) : Prop :=
  ∀ e ∈ s.iterEvents, e.payload = .walletInitialized initialBalance

/-- The source `_load_state` will use has nothing stored past it: a database
snapshot, whose remainder is replayed; another snapshot that counts every
row; or nothing, over a log that only says so. -/
def Stores.Complete (cfg : WalletConfig) (redisUp : Bool) (s : Stores) : Prop :=
  match if cfg.redisAttached && redisUp then s.redis else none with
  | some cached => cached.reducerEventsApplied = s.events.length
  | none =>
      match s.latestSnapshot, s.stateFile with
      | some _, _ => True
      | none, some state => state.reducerEventsApplied = s.events.length
      | none, none => s.OnlyBootstrap cfg.initialBalance

/-- Besides, a blank start finds no rows it would have to count. -/
def Stores.Aligned (cfg : WalletConfig) (redisUp : Bool) (s : Stores) : Prop :=
  s.Complete cfg redisUp ∧
    ((if cfg.redisAttached && redisUp then s.redis else none) = none → s.latestSnapshot = none →
      s.stateFile = none → s.events = [])

/-- With a database snapshot and no answer from the cache the stores are
aligned. -/
theorem Stores.aligned_of_snapshot {cfg : WalletConfig} {s : Stores}
    (hsnap : s.latestSnapshot.isSome) : s.Aligned cfg false := by
  obtain ⟨row, hrow⟩ := Option.isSome_iff_exists.mp hsnap
  refine ⟨?_, fun _ hnone => ?_⟩
  · unfold Stores.Complete
    simp [hrow]
  · rw [hrow] at hnone
    simp at hnone

/-- The wallet shows what applying the full stored log in order shows. -/
structure Wallet.Recovered (w : Wallet) : Prop where
  view : w.runtime.view =
    (PortfolioState.ofLog w.cfg.initialBalance w.stores.iterEvents).view
  coherent : w.Coherent

section Reload

variable {cfg : WalletConfig} {s : Stores}

/-- A table with rows is what `_iter_events` yields. -/
theorem Stores.Sound.iterEvents_eq {initialBalance : Decimal} (h : s.Sound initialBalance)
    (hrows : s.events ≠ []) : s.iterEvents = s.events := by
  rw [Stores.iterEvents, if_neg hrows]
  exact Stores.eventRows_of_sorted h.sorted

/-- A snapshot is a snapshot of something. -/
theorem Stores.SnapshotOf.events_ne_nil {initialBalance : Decimal} {snap : Snapshot}
    (h : s.SnapshotOf initialBalance snap) : s.events ≠ [] := by
  intro hnil
  have hle := h.le
  have hpos := h.pos
  rw [hnil, List.length_nil] at hle
  omega

/-- A snapshot that counts every row shows the whole log. -/
theorem Stores.SnapshotOf.view_of_full {initialBalance : Decimal} {snap : Snapshot}
    (h : s.SnapshotOf initialBalance snap) (hs : s.Sound initialBalance)
    (hfull : snap.reducerEventsApplied = s.events.length) :
    snap.reducerState.view = (PortfolioState.ofLog initialBalance s.iterEvents).view := by
  rw [hs.iterEvents_eq h.events_ne_nil, h.view, hfull, List.take_length]

/-- The events past a snapshot's count complete it. -/
theorem Stores.SnapshotOf.replayDelta {initialBalance : Decimal} {snap : Snapshot} (ts : Nat)
    (h : s.SnapshotOf initialBalance snap) (hs : s.Sound initialBalance) :
    (s.replayDelta ts snap).view = (PortfolioState.ofLog initialBalance s.iterEvents).view ∧
      (s.replayDelta ts snap).eventsApplied = s.events.length := by
  have hiter := hs.iterEvents_eq h.events_ne_nil
  have hpos : 0 < snap.reducerState.eventsApplied := h.pos
  unfold Stores.replayDelta
  simp only [if_pos hpos, hiter]
  refine ⟨?_, ?_⟩
  · exact PortfolioState.view_congruence.resume _ _ s.events _ h.view
  · rw [PortfolioState.eventsApplied_foldl, List.length_drop]
    exact Nat.add_sub_of_le h.le

/-- Bootstrap events leave the initial portfolio as it is. -/
theorem PortfolioState.view_ofLog_bootstrap (initialBalance : Decimal) (log : List Event)
    (h : ∀ e ∈ log, e.payload = .walletInitialized initialBalance) :
    (PortfolioState.ofLog initialBalance log).view = (PortfolioState.initial initialBalance).view := by
  induction log with
  | nil => rfl
  | cons e rest ih =>
      have hhead : ((PortfolioState.initial initialBalance).apply e).view =
          (PortfolioState.initial initialBalance).view := by
        rw [PortfolioState.view_apply, h e List.mem_cons_self]
        rfl
      rw [← ih (fun x hx => h x (List.mem_cons_of_mem _ hx))]
      exact PortfolioState.view_congruence.foldl rest hhead

/-- `_load_state` over sound stores with a complete source recovers the log,
and counts it when the stores are aligned. -/
theorem Wallet.loadState_spec (init : WalletInit) (clock : Nat → Nat) (redisUp : Bool)
    (hs : s.Sound init.cfg.initialBalance) (hcomplete : s.Complete init.cfg redisUp) :
    let w := (Wallet.blank init clock s).loadState redisUp
    w.stores = s ∧ w.cfg = init.cfg ∧ w.clock = clock ∧ w.base = s ∧ w.journal = [] ∧
      w.Recovered ∧
      (s.Aligned init.cfg redisUp →
        w.runtime.view = (PortfolioState.ofLog init.cfg.initialBalance s.events).view ∧
          w.runtime.eventsApplied = s.events.length) := by
  unfold Stores.Complete at hcomplete
  unfold Stores.Aligned Wallet.loadState
  have hcfg : (Wallet.blank init clock s).cfg = init.cfg := rfl
  have hstores : (Wallet.blank init clock s).stores = s := rfl
  simp only [hcfg, hstores]
  cases hredis : (if init.cfg.redisAttached && redisUp then s.redis else none) with
  | some cached =>
      simp only [hredis] at hcomplete
      have hsome : s.redis = some cached := by
        split at hredis
        · exact hredis
        · simp at hredis
      have hof := hs.redis cached hsome
      exact ⟨rfl, rfl, rfl, rfl, rfl, ⟨hof.view_of_full hs hcomplete, ⟨rfl, rfl⟩⟩,
        fun _ => ⟨hs.iterEvents_eq hof.events_ne_nil ▸ hof.view_of_full hs hcomplete, hcomplete⟩⟩
  | none =>
      simp only [hredis] at hcomplete
      unfold Wallet.loadFromDbSnapshotAndReplay
      simp only [hstores]
      cases hlatest : s.latestSnapshot with
      | some row =>
          obtain ⟨ts, snap⟩ := row
          have hof := hs.snapshots (ts, snap) (Stores.mem_of_latestSnapshot hlatest)
          obtain ⟨hview, hcount⟩ := hof.replayDelta ts hs
          exact ⟨rfl, rfl, rfl, rfl, rfl, ⟨hview, ⟨rfl, rfl⟩⟩,
            fun _ => ⟨hs.iterEvents_eq hof.events_ne_nil ▸ hview, hcount⟩⟩
      | none =>
          simp only [hlatest] at hcomplete
          cases hfile : s.stateFile with
          | some state =>
              simp only [hfile] at hcomplete
              have hof := hs.stateFile state hfile
              exact ⟨rfl, rfl, rfl, rfl, rfl, ⟨hof.view_of_full hs hcomplete, ⟨rfl, rfl⟩⟩,
                fun _ => ⟨hs.iterEvents_eq hof.events_ne_nil ▸ hof.view_of_full hs hcomplete,
                  hcomplete⟩⟩
          | none =>
              simp only [hfile] at hcomplete
              refine ⟨rfl, rfl, rfl, rfl, rfl, ⟨?_, ⟨rfl, rfl⟩⟩, fun haligned => ?_⟩
              · exact (PortfolioState.view_ofLog_bootstrap _ _ hcomplete).symm
              · rw [haligned.2 trivial rfl rfl]
                exact ⟨rfl, rfl⟩

end Reload

/-! ## Runs with crashes -/

/-- A wallet either runs an operation, or dies after `k` of its writes and is
created again, with a clock of its own and the cache up or down. -/
inductive CrashStep where
  | operate (op : Operation)
  | crash (k : Nat) (clock : Nat → Nat) (redisUp : Bool)

/-- The stores a crash after `k` writes leaves. -/
def Wallet.crashed (w : Wallet) (k : Nat) : Stores := w.base.writes (w.journal.take k)

def CrashStep.run (init : WalletInit) (w : Wallet) : CrashStep → Wallet
  | .operate op => op.run w
  | .crash k clock redisUp => Wallet.boot init clock (w.crashed k) redisUp

/-- The new clock does not go back, and is not behind the stored events. -/
def Stores.ClockOk (s : Stores) (clock : Nat → Nat) : Prop :=
  Monotone clock ∧ ∀ e ∈ s.events, e.ts ≤ clock 0

/-- A crash step is safe when the stores it leaves are aligned for the reload. -/
def CrashStep.Safe (init : WalletInit) (w : Wallet) : CrashStep → Prop
  | .operate _ => True
  | .crash k clock redisUp =>
      (w.crashed k).Aligned init.cfg redisUp ∧ (w.crashed k).ClockOk clock

theorem Wallet.Durable.boot (init : WalletInit) {clock : Nat → Nat} {s : Stores} {redisUp : Bool}
    (hs : s.Sound init.cfg.initialBalance) (haligned : s.Aligned init.cfg redisUp)
    (hclock : s.ClockOk clock) : (Wallet.boot init clock s redisUp).Durable := by
  obtain ⟨hstores, hcfg, hclk, hbase, hjournal, hrecovered, hcount⟩ :=
    Wallet.loadState_spec init clock redisUp hs haligned.1
  unfold Wallet.boot
  generalize (Wallet.blank init clock s).loadState redisUp = w at *
  have hlog : w.log = s.events := by
    rw [Wallet.log, hstores]
  obtain ⟨hview, hcounted⟩ := hcount haligned
  have hdurable : w.Durable := by
    refine ⟨⟨hrecovered.coherent, ?_, ?_, ?_⟩, ?_, ?_, ?_, ?_⟩
    · rw [hlog, hcfg]
      exact hview
    · rw [hlog]
      exact hs.sorted
    · intro e he
      rw [hlog] at he
      unfold Wallet.nowMs
      rw [hclk]
      exact (hclock.2 e he).trans (hclock.1 (Nat.zero_le _))
    · rw [hclk]
      exact hclock.1
    · rw [hlog]
      exact hcounted
    · rw [hbase, hcfg]
      exact hs
    · rw [hjournal]
      trivial
  unfold Wallet.bootstrap
  split
  · exact hdurable.step (.emit w _)
  · exact hdurable

theorem Stores.sound_empty (initialBalance : Decimal) : Stores.Sound initialBalance {} :=
  ⟨List.Pairwise.nil, fun _ h => absurd h List.not_mem_nil, fun _ h => by simp at h,
    fun _ h => by simp at h⟩

theorem Stores.aligned_empty (cfg : WalletConfig) (redisUp : Bool) :
    Stores.Aligned cfg redisUp {} := by
  have hredis : (if cfg.redisAttached && redisUp then ({} : Stores).redis else none) = none := by
    split <;> rfl
  refine ⟨?_, fun _ _ _ => rfl⟩
  unfold Stores.Complete
  rw [hredis]
  exact fun e he => absurd he List.not_mem_nil

/-- A durable wallet of the given configuration. -/
def Wallet.DurableAs (init : WalletInit) (w : Wallet) : Prop := w.Durable ∧ w.cfg = init.cfg

theorem Wallet.DurableAs.run {init : WalletInit} {w : Wallet} (h : w.DurableAs init)
    (s : CrashStep) (hs : s.Safe init w) : (s.run init w).DurableAs init := by
  obtain ⟨h, hcfg⟩ := h
  cases s with
  | operate op =>
      have hsteps := Operation.run_steps w op
      exact ⟨h.steps hsteps, hsteps.cfg.trans hcfg⟩
  | crash k clock redisUp =>
      have hsound : (w.crashed k).Sound init.cfg.initialBalance := hcfg ▸ h.crashed k
      refine ⟨Wallet.Durable.boot init hsound hs.1 hs.2, ?_⟩
      have hload := (Wallet.loadState_spec init clock redisUp hsound hs.1.1).2.1
      show (Wallet.bootstrap _).cfg = _
      unfold Wallet.bootstrap
      split
      · exact hload
      · exact hload

/-- In every run from empty stores whose crashes leave aligned stores, a wallet
created again after any further crash recovers the full stored log, as long
as the source it loads is complete. -/
theorem Wallet.recovered_of_reaches (init : WalletInit) (clock₀ : Nat → Nat)
    (hclock₀ : Monotone clock₀) (redisUp₀ : Bool) (w : Wallet)
    (hrun : Reaches (CrashStep.run init) (CrashStep.Safe init)
      (Wallet.boot init clock₀ {} redisUp₀) w)
    (k : Nat) (clock : Nat → Nat) (redisUp : Bool)
    (hcomplete : (w.crashed k).Complete init.cfg redisUp) :
    ((Wallet.blank init clock (w.crashed k)).loadState redisUp).Recovered := by
  have hstart : (Wallet.boot init clock₀ {} redisUp₀).Durable :=
    Wallet.Durable.boot init (Stores.sound_empty _) (Stores.aligned_empty _ _)
      ⟨hclock₀, fun e he => absurd he List.not_mem_nil⟩
  have hcfg : (Wallet.boot init clock₀ {} redisUp₀).cfg = init.cfg := by
    rw [Wallet.boot_empty]
    rfl
  have hinv : w.DurableAs init :=
    hrun.invariant ⟨hstart, hcfg⟩ (fun _ s hv hs => hv.run s hs)
  obtain ⟨hdurable, hcfg'⟩ := hinv
  have hsound : (w.crashed k).Sound init.cfg.initialBalance := hcfg' ▸ hdurable.crashed k
  exact (Wallet.loadState_spec init clock redisUp hsound hcomplete).2.2.2.2.2.1

/-! ### A reload from the database and one from the cache -/

/-- Adopt, place an order, die before it reaches the event table, come back and
trade on. -/
def demoCrashes : List CrashStep :=
  [.operate (.adoptVenuePosition demoAdoption), .operate (.placePendingOrder demoOrder),
    .crash 9 (fun _ => 1000) false, .operate (.activateTrailingStop demoSymbol)]

/-- After another crash the database snapshot and its remainder give
everything back. -/
theorem Wallet.recovered_of_reaches_snapshot :
    ((Wallet.blank demoInit (fun _ => 2000)
      ((demoCrashes.foldl (CrashStep.run demoInit)
        (Wallet.boot demoInit (fun n => n) {} false)).crashed 3)).loadState false).Recovered :=
  Wallet.recovered_of_reaches demoInit (fun n => n) monotone_id false _
    (Reaches.foldl demoCrashes .start
      ⟨trivial, trivial, ⟨Stores.aligned_of_snapshot (by decide +kernel), monotone_const,
        by decide +kernel⟩, trivial, trivial⟩)
    3 (fun _ => 2000) false (Stores.aligned_of_snapshot (by decide +kernel)).1

/-- The cache answers with the snapshot taken before the order, and the order
is gone. -/
theorem Wallet.not_recovered_of_cache :
    ¬ ∀ (init : WalletInit) (clock₀ : Nat → Nat), Monotone clock₀ → ∀ (ops : List Operation)
        (k : Nat) (clock : Nat → Nat), Monotone clock → ∀ (redisUp : Bool),
        ((Wallet.blank init clock ((ops.foldl Operation.run
          (Wallet.boot init clock₀ {} redisUp)).crashed k)).loadState redisUp).Recovered := by
  intro h
  have hview := (h { demoInit with cfg := { demoInit.cfg with redisAttached := true } }
    (fun n => n) monotone_id
    [.adoptVenuePosition demoAdoption, .placePendingOrder demoOrder]
    100 (fun _ => 2000) monotone_const true).view
  revert hview
  decide +kernel

end CryptoTrader
