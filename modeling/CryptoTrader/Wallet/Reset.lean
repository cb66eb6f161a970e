import CryptoTrader.Wallet.Parity
import CryptoTrader.Wallet.TwinOperations

/-!
# Resetting a wallet

`reset` clears the visible fields and removes the state file.  The reducer
state, the event log, the database snapshots and the cache stay, and the next
event or the next restart reads them back.  A trial runs a wallet beside a
fresh one, created with the reset balance at its last reset, through the same
operations and crashes.
-/

namespace CryptoTrader

open CryptoTrader.Lib

/-- The balance `reset` sets. -/
def resetBalance : Decimal := 1000

/-- `reset`.  What it does to the stores is done when it returns. -/
def Wallet.reset (w : Wallet) : Wallet :=
  { w with
    positions := Dict.empty
    positionHistory := []
    walletBalance := resetBalance
    unrealizedPnlTotal := 0
    realizedPnlTotal := 0
    base := { w.stores with stateFile := none }
    journal := [] }

/-- The first event after a reset brings back the balances, the orders, the
fills and the reducer's positions as if there had been none. -/
theorem Wallet.emit_reset (w : Wallet) (payload : Payload) :
    (w.reset.emit payload).runtime = (w.emit payload).runtime ∧
      (w.reset.emit payload).walletBalance = (w.emit payload).walletBalance ∧
      (w.reset.emit payload).realizedPnlTotal = (w.emit payload).realizedPnlTotal :=
  ⟨rfl, rfl, rfl⟩

/-! ## Reloading twins -/

/-- The snapshot `_load_state` goes by. -/
def Stores.source (cfg : WalletConfig) (redisUp : Bool) (s : Stores) : Option Snapshot :=
  match if cfg.redisAttached && redisUp then s.redis else none with
  | some cached => some cached
  | none =>
      match s.latestSnapshot with
      | some row => some row.2
      | none => s.stateFile

/-- It counts an event past the first `past`. -/
def Stores.LoadsSince (past : Nat) (cfg : WalletConfig) (redisUp : Bool) (s : Stores) : Prop :=
  (s.source cfg redisUp).any (fun snap => past < snap.reducerEventsApplied)

instance (past : Nat) (cfg : WalletConfig) (redisUp : Bool) (s : Stores) :
    Decidable (s.LoadsSince past cfg redisUp) := by
  unfold Stores.LoadsSince
  infer_instance

/-- Loading reads the stores only. -/
theorem Wallet.stores_loadState (w : Wallet) (redisUp : Bool) :
    (w.loadState redisUp).stores = w.stores := by
  unfold loadState
  split
  · rfl
  · split
    · next loaded heq =>
        unfold loadFromDbSnapshotAndReplay at heq
        split at heq
        · cases heq
        · rw [← Option.some.inj heq]
          rfl
    · split
      · rfl
      · rfl

/-- Over a log with rows there is no bootstrap event. -/
theorem Wallet.boot_of_rows (init : WalletInit) (clock : Nat → Nat) {s : Stores} (redisUp : Bool)
    (hrows : s.events ≠ []) :
    Wallet.boot init clock s redisUp = (Wallet.blank init clock s).loadState redisUp := by
  unfold boot bootstrap
  rw [stores_loadState]
  exact if_neg (fun hnone => hrows hnone.2)

section Reload

variable {init : WalletInit} {before s t : Stores}

/-- A snapshot that counts more than there was before is of the time since. -/
theorem Snapshot.SinceOr.alike {past : Nat} {old a b : Option Snapshot}
    (h : Snapshot.SinceOr past old a b) (hold : ∀ snap, old = some snap →
      snap.reducerEventsApplied ≤ past) {snap : Snapshot} (ha : a = some snap)
    (hpast : past < snap.reducerEventsApplied) :
    ∃ snap', b = some snap' ∧ snap.Alike past snap' := by
  subst ha
  rcases h with ⟨heq, -⟩ | ⟨hrel, -⟩
  · exact absurd (hold snap heq.symm) (Nat.not_le.mpr hpast)
  · cases hrel with
    | some hab => exact ⟨_, rfl, hab⟩

theorem Snapshot.SinceOr.none {past : Nat} {old b : Option Snapshot}
    (h : Snapshot.SinceOr past old none b) : b = none := by
  rcases h with ⟨-, hb⟩ | ⟨-, hsome⟩
  · exact hb
  · cases hsome

/-- Past the same count both yield the same rows. -/
theorem Stores.Alike.drop_iterEvents (h : Stores.Alike before s t)
    (hs : s.Sound init.cfg.initialBalance) (hrows : s.events ≠ []) {n m : Nat}
    (hcounts : CountsPast before.events.length n m) :
    s.iterEvents.drop n = t.iterEvents.drop m := by
  obtain ⟨first, new, hsevents, htevents, hts⟩ := h.events
  obtain ⟨since, rfl, rfl⟩ := hcounts
  have hsorted := hs.sorted
  rw [hsevents, List.pairwise_append] at hsorted
  have hiter : t.iterEvents = t.events := by
    unfold Stores.iterEvents
    rw [if_neg (by rw [htevents]; exact List.cons_ne_nil _ _)]
    refine Stores.eventRows_of_sorted ?_
    rw [htevents]
    refine List.pairwise_cons.mpr ⟨fun e _ => ?_, hsorted.2.1⟩
    rw [hts]
    exact Nat.zero_le _
  rw [hs.iterEvents_eq hrows, hiter, hsevents, htevents, List.drop_length_add_append]
  rfl

/-- Snapshots that are alike load alike. -/
theorem Wallet.Twins.hydrateFromState (h : Stores.Alike before s t) (clock : Nat → Nat)
    {a b : Snapshot} (hab : a.Alike before.events.length b) :
    Twins before ((Wallet.blank init clock s).hydrateFromState a)
      ((Wallet.blank init clock t).hydrateFromState b) := by
  have hcore : ∀ (stores : Stores) (snap : Snapshot),
      ((Wallet.blank init clock stores).hydrateFromState snap).core =
        ((Wallet.blank init clock {}).hydrateFromState snap.core).core := fun _ _ => rfl
  exact ⟨by rw [hcore s, hcore t, hab.core], fun _ => rfl, hab.counts, [], [], rfl, h, .nil⟩

/-- What `_load_from_db_snapshot_and_replay` makes of a snapshot and the
replayed state. -/
def Wallet.loadedFrom (w : Wallet) (snap : Snapshot) (replayState : PortfolioState) : Wallet :=
  { w with
    positions := snap.positions.filterVal EnhancedPosition.isOpen
    positionHistory := snap.positionHistory
    runtime := replayState
    walletBalance := replayState.walletBalance
    realizedPnlTotal :=
      replayState.realizedPnlTotal }.syncPositionsFromReducer.syncUnrealizedTotal

theorem Wallet.loadFromDbSnapshotAndReplay_eq {w : Wallet} {ts : Nat} {snap : Snapshot}
    (h : w.stores.latestSnapshot = some (ts, snap)) :
    w.loadFromDbSnapshotAndReplay =
      some (w.loadedFrom snap (w.stores.replayDelta ts snap)) := by
  unfold Wallet.loadFromDbSnapshotAndReplay
  rw [h]
  rfl

theorem Stores.replayDelta_of_pos (s : Stores) (ts : Nat) {snap : Snapshot}
    (h : 0 < snap.reducerEventsApplied) :
    s.replayDelta ts snap =
      (s.iterEvents.drop snap.reducerEventsApplied).foldl PortfolioState.apply
        snap.reducerState := by
  have hpos : 0 < snap.reducerState.eventsApplied := h
  unfold Stores.replayDelta
  simp only [if_pos hpos]
  rfl

/-- Database snapshots that are alike load alike, with the rows past their
counts. -/
theorem Wallet.Twins.loadedFrom (h : Stores.Alike before s t)
    (hs : s.Sound init.cfg.initialBalance) (hrows : s.events ≠ []) (clock : Nat → Nat) (ts : Nat)
    {a b : Snapshot} (hab : a.Alike before.events.length b) (hpos : 0 < a.reducerEventsApplied) :
    Twins before ((Wallet.blank init clock s).loadedFrom a (s.replayDelta ts a))
      ((Wallet.blank init clock t).loadedFrom b (t.replayDelta ts b)) := by
  have hdrop := h.drop_iterEvents hs hrows hab.counts
  obtain ⟨since, ha, hb⟩ := hab.counts
  have hreplay := s.replayDelta_of_pos ts hpos
  have hpos' : 0 < b.reducerEventsApplied := by omega
  have hreplay' := t.replayDelta_of_pos ts hpos'
  have hruntime : (s.replayDelta ts a).core = (t.replayDelta ts b).core := by
    rw [hreplay, hreplay', hdrop]
    refine PortfolioState.core_congruence.foldl _ ?_
    rw [Snapshot.core_reducerState, Snapshot.core_reducerState, hab.core]
  have hcounts : CountsPast before.events.length (s.replayDelta ts a).eventsApplied
      (t.replayDelta ts b).eventsApplied := by
    rw [hreplay, hreplay', hdrop, PortfolioState.eventsApplied_foldl,
      PortfolioState.eventsApplied_foldl]
    refine ⟨since + (t.iterEvents.drop b.reducerEventsApplied).length, ?_, ?_⟩
    · show a.reducerEventsApplied + _ = _
      omega
    · show b.reducerEventsApplied + _ = _
      omega
  have hcore : ∀ (stores : Stores) (snap : Snapshot) (runtime : PortfolioState),
      ((Wallet.blank init clock stores).loadedFrom snap runtime).core =
        ((Wallet.blank init clock {}).loadedFrom snap.core runtime.core).core := fun _ _ _ => rfl
  exact ⟨by rw [hcore s, hcore t, hab.core, hruntime], fun _ => rfl, hcounts, [], [], rfl, h, .nil⟩

/-- Over stores that are alike, twins come back as twins when what is loaded
was saved since. -/
theorem Wallet.Twins.loadState (h : Stores.Alike before s t)
    (hbefore : before.Sound init.cfg.initialBalance) (hs : s.Sound init.cfg.initialBalance)
    (hrows : s.events ≠ []) (clock : Nat → Nat) {redisUp : Bool}
    (hsource : s.LoadsSince before.events.length init.cfg redisUp) :
    Twins before ((Wallet.blank init clock s).loadState redisUp)
      ((Wallet.blank init clock t).loadState redisUp) := by
  have hcfg : ∀ stores, (Wallet.blank init clock stores).cfg = init.cfg := fun _ => rfl
  have hstores : ∀ stores, (Wallet.blank init clock stores).stores = stores := fun _ => rfl
  unfold Stores.LoadsSince Stores.source at hsource
  unfold Wallet.loadState
  simp only [hcfg, hstores]
  have hredis : Snapshot.SinceOr before.events.length
      (if init.cfg.redisAttached && redisUp then before.redis else none)
      (if init.cfg.redisAttached && redisUp then s.redis else none)
      (if init.cfg.redisAttached && redisUp then t.redis else none) := by
    split
    · exact h.redis
    · exact Or.inl ⟨rfl, rfl⟩
  cases hcache : (if init.cfg.redisAttached && redisUp then s.redis else none) with
  | some cached =>
      simp only [hcache, Option.any_some, decide_eq_true_eq] at hsource
      obtain ⟨cached', hcached', hab⟩ := hredis.alike (fun snap hsnap => by
        split at hsnap
        · exact (hbefore.redis snap hsnap).le
        · cases hsnap) hcache hsource
      rw [hcached']
      exact Twins.hydrateFromState h clock hab
  | none =>
      rw [hcache] at hredis
      rw [hredis.none]
      simp only [hcache] at hsource
      cases hlatest : s.latestSnapshot with
      | some row =>
          obtain ⟨ts, a⟩ := row
          simp only [hlatest, Option.any_some, decide_eq_true_eq] at hsource
          rcases h.latest with ⟨ts', a', b, hs', ht', hab⟩ | ⟨hold, -⟩
          · rw [hlatest] at hs'
            cases hs'
            have hload := Wallet.loadFromDbSnapshotAndReplay_eq (w := Wallet.blank init clock s) hlatest
            have hload' := Wallet.loadFromDbSnapshotAndReplay_eq (w := Wallet.blank init clock t) ht'
            rw [hload, hload']
            exact Twins.loadedFrom h hs hrows clock ts hab (Nat.zero_lt_of_lt hsource)
          · rw [hlatest] at hold
            have hle := (hbefore.snapshots _ (Stores.mem_of_latestSnapshot hold.symm)).le
            exact absurd hle (Nat.not_le.mpr hsource)
      | none =>
          simp only [hlatest] at hsource
          have htlatest : t.latestSnapshot = none := by
            rcases h.latest with ⟨ts', a', b, hs', -⟩ | ⟨hold, hrow⟩
            · rw [hlatest] at hs'
              cases hs'
            · cases htop : t.latestSnapshot with
              | none => rfl
              | some row =>
                  obtain ⟨old, hsome, -⟩ := hrow row htop
                  rw [← hold, hlatest] at hsome
                  cases hsome
          have hload : ∀ {stores : Stores}, stores.latestSnapshot = none →
              (Wallet.blank init clock stores).loadFromDbSnapshotAndReplay = none := by
            intro stores hnone
            unfold Wallet.loadFromDbSnapshotAndReplay
            rw [hstores, hnone]
          rw [hload hlatest, hload htlatest]
          obtain ⟨a, ha, hpast⟩ := (Option.any_eq_true _ _).mp hsource
          obtain ⟨b, hb, hab⟩ := h.stateFile.alike (fun snap hsnap =>
            (hbefore.stateFile snap hsnap).le) ha (of_decide_eq_true hpast)
          rw [ha, hb]
          exact Twins.hydrateFromState h clock hab

theorem Wallet.Twins.boot (h : Stores.Alike before s t)
    (hbefore : before.Sound init.cfg.initialBalance) (hs : s.Sound init.cfg.initialBalance)
    (hrows : s.events ≠ []) (clock : Nat → Nat) {redisUp : Bool}
    (hsource : s.LoadsSince before.events.length init.cfg redisUp) :
    Twins before (Wallet.boot init clock s redisUp) (Wallet.boot init clock t redisUp) := by
  have hrows' : t.events ≠ [] := by
    obtain ⟨first, new, -, ht, -⟩ := h.events
    rw [ht]
    exact List.cons_ne_nil _ _
  rw [Wallet.boot_of_rows init clock redisUp hrows, Wallet.boot_of_rows init clock redisUp hrows']
  exact Twins.loadState h hbefore hs hrows clock hsource

end Reload

/-! ## Trials -/

/-- `init` with the reset balance. -/
def WalletInit.fresh (init : WalletInit) : WalletInit :=
  { init with cfg := { init.cfg with initialBalance := resetBalance } }

/-- A wallet created over empty stores: its bootstrap event is stamped 0, and
from there on it reads what `w` reads. -/
def Wallet.fresh (init : WalletInit) (w : Wallet) : Wallet :=
  Wallet.boot init.fresh (fun n => if n = 0 then 0 else w.clock (w.reads + (n - 1))) {} false

/-- The fresh wallet of a reset, and the number of rows logged before it. -/
structure Twin where
  past : Nat
  wallet : Wallet

/-- A wallet and, after a reset, its twin. -/
structure Trial where
  wallet : Wallet
  twin : Option Twin

/-- A life of a wallet also has resets. -/
inductive TrialStep where
  | live (s : CrashStep)
  | reset

/-- The twin takes every step as well; it dies after the same write. -/
def Trial.step (init : WalletInit) (t : Trial) : TrialStep → Trial
  | .live (.operate op) =>
      { wallet := op.run t.wallet
        twin := t.twin.map (fun v => { v with wallet := op.run v.wallet }) }
  | .live (.crash k clock redisUp) =>
      { wallet := Wallet.boot init clock (t.wallet.crashed k) redisUp
        twin := t.twin.map (fun v =>
          let k' := v.wallet.journal.length - t.wallet.journal.length + k
          { v with wallet := Wallet.boot init.fresh clock (v.wallet.crashed k') redisUp }) }
  | .reset =>
      { wallet := t.wallet.reset
        twin := some { past := t.wallet.log.length, wallet := Wallet.fresh init t.wallet } }

/-- Everything that is visible of the two wallets is the same. -/
structure Wallet.Matches (w v : Wallet) : Prop where
  walletBalance : w.walletBalance = v.walletBalance
  unrealizedPnlTotal : w.unrealizedPnlTotal = v.unrealizedPnlTotal
  realizedPnlTotal : w.realizedPnlTotal = v.realizedPnlTotal
  positions : w.positions = v.positions
  positionHistory : w.positionHistory = v.positionHistory
  orders : w.runtime.orders = v.runtime.orders
  fills : w.runtime.fills = v.runtime.fills
  openPositions : w.runtime.openPositions = v.runtime.openPositions
  halted : w.halted = v.halted

/-- The last reset was final, and the runtime still shows what a replay shows. -/
def Trial.Final (t : Trial) : Prop :=
  ∀ v, t.twin = some v → t.wallet.Matches v.wallet ∧ t.wallet.InParity

/-- A reset finds nothing to forget: the wallet runs as it was set up with the
reset balance, and its reducer state is still the initial one. -/
structure Wallet.NothingToForget (init : WalletInit) (w : Wallet) : Prop where
  initialBalance : init.cfg.initialBalance = resetBalance
  makerFeeRate : w.makerFeeRate = init.makerFeeRate
  takerFeeRate : w.takerFeeRate = init.takerFeeRate
  maintenanceMarginRatio : w.maintenanceMarginRatio = init.maintenanceMarginRatio
  leverage : w.leverage = init.leverage
  symbolLeverages : w.symbolLeverages = Dict.empty
  halted : w.halted = false
  liveExecution : w.liveExecution = false
  runtime : w.runtime.core = PortfolioState.initial resetBalance

/-- Operations append no harmful repeat; a crash leaves aligned stores with
rows, and after a reset a snapshot saved since is loaded; a reset finds nothing
to forget. -/
def Trial.Ok (init : WalletInit) (t : Trial) : TrialStep → Prop
  | .live (.operate op) => op.RepeatsHarmless t.wallet
  | .live (.crash k clock redisUp) =>
      CrashStep.Safe init t.wallet (.crash k clock redisUp) ∧ (t.wallet.crashed k).events ≠ [] ∧
        ∀ v ∈ t.twin, (t.wallet.crashed k).LoadsSince v.past init.cfg redisUp
  | .reset => t.wallet.NothingToForget init

/-! ## A reset with nothing to forget -/

section Reset

variable {init : WalletInit} {w : Wallet}

/-- The stores a reset leaves. -/
theorem Wallet.Durable.reset_stores (h : w.Durable) :
    w.reset.base.Sound w.cfg.initialBalance := by
  have hstores : w.stores.Sound w.cfg.initialBalance := by
    have hall := h.crashed w.journal.length
    rw [List.take_length] at hall
    exact hall
  refine ⟨hstores.sorted, fun row hrow => (hstores.snapshots row hrow).congr rfl, ?_,
    fun snap hsnap => (hstores.redis snap hsnap).congr rfl⟩
  intro snap hnone
  cases hnone

theorem Wallet.DurableAs.reset (h : w.DurableAs init) (hforget : w.NothingToForget init) :
    w.reset.DurableAs init := by
  obtain ⟨hdurable, hcfg⟩ := h
  refine ⟨⟨⟨⟨?_, ?_⟩, hdurable.tracks.view, hdurable.tracks.sorted, hdurable.tracks.bounded⟩,
    hdurable.clock, hdurable.counted, hdurable.reset_stores, trivial⟩, hcfg⟩
  · exact (congrArg PortfolioState.walletBalance hforget.runtime).symm
  · exact (congrArg PortfolioState.realizedPnlTotal hforget.runtime).symm

theorem WalletInit.fresh_eq (h : init.cfg.initialBalance = resetBalance) : init.fresh = init := by
  unfold fresh
  rw [← h]

/-- Then the wallet runs as a fresh one does. -/
theorem Wallet.Twins.reset (h : w.DurableAs init) (hforget : w.NothingToForget init) :
    Twins w.reset.base w.reset (Wallet.fresh init w) := by
  obtain ⟨hdurable, hcfg⟩ := h
  have hfresh := Wallet.boot_empty init.fresh
    (fun n => if n = 0 then 0 else w.clock (w.reads + (n - 1))) false
  unfold Wallet.fresh
  rw [hfresh]
  refine ⟨?_, ?_, ?_, ?_⟩
  · have hcfg' : w.cfg = init.fresh.cfg := by
      rw [hcfg, WalletInit.fresh_eq hforget.initialBalance]
    simp only [Wallet.core, Wallet.reset, hcfg', hforget.makerFeeRate, hforget.takerFeeRate,
      hforget.maintenanceMarginRatio, hforget.leverage, hforget.symbolLeverages, hforget.halted,
      hforget.liveExecution, hforget.runtime]
    rfl
  · intro n
    show w.clock (w.reads + n) = if 0 + 1 + n = 0 then 0 else w.clock (w.reads + (0 + 1 + n - 1))
    rw [if_neg (by omega)]
    congr 2
    omega
  · exact ⟨0, hdurable.counted, rfl⟩
  · refine ⟨_, [], (List.append_nil _).symm, ?_, .nil⟩
    exact ⟨⟨_, [], (List.append_nil _).symm, rfl, rfl⟩, Or.inl ⟨rfl, rfl⟩, Or.inl ⟨rfl, rfl⟩,
      Or.inr ⟨rfl, fun _ hnone => nomatch hnone⟩⟩

end Reset

/-! ## Every trial -/

/-- What a trial keeps. -/
structure Trial.Inv (init : WalletInit) (t : Trial) : Prop where
  durable : t.wallet.DurableAs init
  started : t.wallet.log ≠ []
  harmless : t.wallet.HarmlessLog
  twins : ∀ v ∈ t.twin, init.fresh = init ∧ ∃ before : Stores, before.events.length = v.past ∧
    before.Sound init.cfg.initialBalance ∧ Wallet.Twins before t.wallet v.wallet

section Trial

variable {init : WalletInit} {t : Trial}

theorem Trial.Inv.final (h : t.Inv init) : t.Final := by
  intro v hv
  obtain ⟨-, before, -, -, htwins⟩ := h.twins v hv
  refine ⟨?_, h.durable.1.tracks.inParity h.started h.harmless⟩
  exact ⟨htwins.read Wallet.walletBalance (fun _ => rfl),
    htwins.read Wallet.unrealizedPnlTotal (fun _ => rfl),
    htwins.read Wallet.realizedPnlTotal (fun _ => rfl),
    htwins.read Wallet.positions (fun _ => rfl),
    htwins.read Wallet.positionHistory (fun _ => rfl),
    htwins.read (fun u => u.runtime.orders) (fun _ => rfl),
    htwins.read (fun u => u.runtime.fills) (fun _ => rfl),
    htwins.read (fun u => u.runtime.openPositions) (fun _ => rfl),
    htwins.read Wallet.halted (fun _ => rfl)⟩

theorem Trial.Inv.boot (init : WalletInit) {clock : Nat → Nat} (hclock : Monotone clock)
    (redisUp : Bool) : Trial.Inv init { wallet := Wallet.boot init clock {} redisUp, twin := none } := by
  have hparity := Wallet.ParityInv.boot init hclock redisUp
  have hdurable : (Wallet.boot init clock {} redisUp).Durable :=
    Wallet.Durable.boot init (Stores.sound_empty _) (Stores.aligned_empty _ _)
      ⟨hclock, fun e he => absurd he List.not_mem_nil⟩
  refine ⟨⟨hdurable, ?_⟩, hparity.started, hparity.harmless, fun v hv => nomatch hv⟩
  rw [Wallet.boot_empty]
  rfl

/-- The rows a crash leaves are the first of the log. -/
theorem Wallet.crashed_events_prefix (w : Wallet) (k : Nat) : (w.crashed k).events <+: w.log := by
  have hgrow : ∀ (j : List Write) (s : Stores), s.events <+: (s.writes j).events := by
    intro j
    induction j with
    | nil => exact fun s => List.prefix_rfl
    | cons x rest ih =>
        intro s
        refine List.IsPrefix.trans ?_ (ih (s.write x))
        cases x with
        | dbEvent event => exact List.prefix_append _ _
        | _ => exact List.prefix_rfl
  have hlog : w.stores = (w.crashed k).writes (w.journal.drop k) := by
    unfold Wallet.stores Wallet.crashed
    rw [← Stores.writes_append, List.take_append_drop]
  unfold Wallet.log
  rw [hlog]
  exact hgrow _ _

theorem Trial.Inv.operate (h : t.Inv init) {op : Operation}
    (hok : Trial.Ok init t (.live (.operate op))) :
    (t.step init (.live (.operate op))).Inv init := by
  have hparity : t.wallet.ParityInv :=
    ⟨h.durable.1.clock, h.durable.1.tracks, h.started, h.harmless⟩
  have hnext := hparity.run op hok
  refine ⟨h.durable.run (.operate op) trivial, hnext.started, hnext.harmless, ?_⟩
  intro v' hv'
  obtain ⟨v, hv, rfl⟩ := Option.map_eq_some_iff.mp hv'
  obtain ⟨hfresh, before, hpast, hbefore, htwins⟩ := h.twins v hv
  exact ⟨hfresh, before, hpast, hbefore, htwins.run op⟩

theorem Trial.Inv.crash (h : t.Inv init) {k : Nat} {clock : Nat → Nat} {redisUp : Bool}
    (hok : Trial.Ok init t (.live (.crash k clock redisUp))) :
    (t.step init (.live (.crash k clock redisUp))).Inv init := by
  obtain ⟨hsafe, hrows, hsource⟩ := hok
  have hdurable := h.durable.run (.crash k clock redisUp) hsafe
  have hlog : (Wallet.boot init clock (t.wallet.crashed k) redisUp).log =
      (t.wallet.crashed k).events := by
    rw [Wallet.boot_of_rows init clock redisUp hrows, Wallet.log, Wallet.stores_loadState]
    rfl
  refine ⟨hdurable, ?_, ?_, ?_⟩
  · show (Wallet.boot init clock (t.wallet.crashed k) redisUp).log ≠ []
    rw [hlog]
    exact hrows
  · obtain ⟨rest, hrest⟩ := t.wallet.crashed_events_prefix k
    have hharm := h.harmless
    unfold Wallet.HarmlessLog at hharm ⊢
    rw [← hrest, EventLog.repeatsHarmless_append, h.durable.2, ← hdurable.2] at hharm
    show EventLog.RepeatsHarmless _ _ [] _ (Wallet.boot init clock _ redisUp).log
    rw [hlog]
    exact hharm.1
  · intro v' hv'
    obtain ⟨v, hv, rfl⟩ := Option.map_eq_some_iff.mp hv'
    obtain ⟨hfresh, before, hpast, hbefore, htwins⟩ := h.twins v hv
    have hsound : (t.wallet.crashed k).Sound init.cfg.initialBalance :=
      h.durable.2 ▸ h.durable.1.crashed k
    refine ⟨hfresh, before, hpast, hbefore, ?_⟩
    rw [hfresh]
    exact Wallet.Twins.boot (htwins.crashed k) hbefore hsound hrows clock
      (hpast ▸ hsource v hv)

theorem Trial.Inv.reset (h : t.Inv init) (hok : Trial.Ok init t .reset) :
    (t.step init .reset).Inv init := by
  refine ⟨h.durable.reset hok, h.started, h.harmless, ?_⟩
  intro v hv
  cases hv
  exact ⟨WalletInit.fresh_eq hok.initialBalance, t.wallet.reset.base, rfl,
    h.durable.2 ▸ h.durable.1.reset_stores, Wallet.Twins.reset h.durable hok⟩

end Trial

/-- In every run with resets, operations and restarts, as long as each reset
finds nothing to forget and each restart after one loads a snapshot saved since
it, the wallet is in step with a fresh one, and the runtime matches the
replay. -/
theorem Wallet.reset_final (init : WalletInit) (clock : Nat → Nat) (hclock : Monotone clock)
    (redisUp : Bool) (t : Trial)
    (hrun : Reaches (Trial.step init) (Trial.Ok init)
      { wallet := Wallet.boot init clock {} redisUp, twin := none } t) : t.Final := by
  have hinv : t.Inv init := hrun.invariant (.boot init hclock redisUp) (fun t s ht hs => by
    match s with
    | .live (.operate op) => exact ht.operate hs
    | .live (.crash k clock redisUp) => exact ht.crash hs
    | .reset => exact ht.reset hs)
  exact hinv.final

/-! ### A reset of a new wallet and one of a used one -/

/-- Reset at once, adopt, restart from the database, trade on. -/
def demoTrial : List TrialStep :=
  [.reset, .live (.operate (.adoptVenuePosition demoAdoption)),
    .live (.crash 100 (fun _ => 1000) false),
    .live (.operate (.activateTrailingStop demoSymbol))]

theorem Wallet.reset_final_demoTrial :
    (demoTrial.foldl (Trial.step demoInit)
      { wallet := Wallet.boot demoInit (fun n => n) {} false, twin := none }).Final :=
  Wallet.reset_final demoInit (fun n => n) monotone_id false _
    (Reaches.foldl demoTrial .start
      ⟨⟨rfl, rfl, rfl, rfl, rfl, rfl, rfl, rfl, by decide +kernel⟩,
        (by decide +kernel : Operation.RepeatsHarmless _ _),
        ⟨⟨Stores.aligned_of_snapshot (by decide +kernel), monotone_const, by decide +kernel⟩,
          by decide +kernel, fun v hv => by
            obtain rfl : v = _ := (Option.mem_some_iff.mp hv).symm
            decide +kernel⟩,
        (by decide +kernel : Operation.RepeatsHarmless _ _), trivial⟩)

/-- An adopted position is reset, and the next order brings it back. -/
theorem Wallet.not_reset_final :
    ¬ ∀ (init : WalletInit) (clock : Nat → Nat), Monotone clock →
        init.cfg.initialBalance = resetBalance → ∀ (redisUp : Bool) (ops later : List Operation),
        let w := ops.foldl Operation.run (Wallet.boot init clock {} redisUp)
        (later.foldl Operation.run w.reset).Matches
          (later.foldl Operation.run (Wallet.fresh init w)) := by
  intro h
  have hpositions := (h demoInit (fun n => n) monotone_id rfl false
    [.adoptVenuePosition demoAdoption] [.placePendingOrder demoOrder]).positions
  revert hpositions
  decide +kernel

end CryptoTrader
