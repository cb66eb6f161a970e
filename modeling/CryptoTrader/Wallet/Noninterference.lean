import CryptoTrader.Wallet.Sharing

/-!
# What the other wallets change

Runs of several wallets over one database, in any interleaving, and what one
of them reads there: its replay, what a restart restores, whether a start
emits `WALLET_INITIALIZED`, and when funding is due.  These are compared with
the run in which the other wallets never acted.
-/

namespace CryptoTrader

open CryptoTrader.Lib

/-! ## Runs -/

/-- The database and the running wallets of the parties `ι`. -/
structure SharedWorld (ι : Type) where
  db : SharedStores
  wallet : ι → Option Wallet

/-- One party acts. -/
structure SharedStep (ι : Type) where
  party : ι
  act : WalletAct

def SharedWorld.empty (ι : Type) : SharedWorld ι := ⟨.empty, fun _ => none⟩

section Runs

variable {ι : Type} [DecidableEq ι] (inits : ι → WalletInit)

/-- The party reads the database, acts, and what it wrote stands there. -/
def SharedWorld.step (s : SharedWorld ι) (a : SharedStep ι) : SharedWorld ι :=
  match a.act.perform (inits a.party) s.db (s.wallet a.party) with
  | none => s
  | some w =>
      { db := s.db.writes (inits a.party).cfg w.journal
        wallet := Function.update s.wallet a.party (some w) }

/-- The world after a list of steps, from an empty database. -/
def SharedWorld.run (steps : List (SharedStep ι)) : SharedWorld ι :=
  steps.foldl (SharedWorld.step inits) (.empty ι)

end Runs

/-- What a wallet makes of the stores. -/
structure WalletReadings where
  replayed : Option PortfolioState
  restored : (Nat → Nat) → Bool → Wallet
  bootstraps : Bool
  fundingDue : Symbol → Int → Int → Bool

/-- `events_empty` at the end of `__init__`. -/
def Stores.bootstraps (s : Stores) : Bool := s.jsonl = [] ∧ s.events = []

/-- `replay_portfolio_state`, the wallet a restart leaves in memory, the
bootstrap decision and the decisions of `run_funding_scheduler`. -/
def SharedStores.readings (s : SharedStores) (init : WalletInit) : WalletReadings :=
  { replayed := (s.view init.cfg).replayPortfolioState init.cfg.initialBalance
    restored := fun clock redisUp => (Wallet.boot init clock (s.view init.cfg) redisUp).attach {}
    bootstraps := (s.view init.cfg).bootstraps
    fundingDue := fun symbol intervalMs now =>
      isFundingDue (s.fundingLastTs symbol) intervalMs now }

/-! ## What one act adds -/

/-- The events between two states of a wallet stand at the end of both logs,
under the wallet's own name, and the reducer has counted them. -/
theorem Wallet.Steps.logs {v w : Wallet} (h : Wallet.Steps v w) :
    ∃ new, w.stores.events = v.stores.events ++ new ∧ w.stores.jsonl = v.stores.jsonl ++ new ∧
      w.runtime.eventsApplied = v.runtime.eventsApplied + new.length ∧
      ∀ e ∈ new, e.identity = v.cfg.identity := by
  induction h with
  | refl => exact ⟨[], by simp⟩
  | @tail w w' hsteps hstep ih =>
      obtain ⟨new, hevents, hjsonl, hcount, hnames⟩ := ih
      cases hstep with
      | emit payload =>
          refine ⟨new ++ [w.event payload], ?_, ?_, ?_, fun e he => ?_⟩
          · simp [hevents]
          · simp [hjsonl]
          · simp [hcount, Nat.add_assoc]
          · rcases List.mem_append.mp he with he | he
            · exact hnames e he
            · have hcfg : w.cfg = v.cfg := Wallet.Steps.cfg hsteps
              rw [List.mem_singleton.mp he, ← hcfg]
              rfl
      | save _ =>
          refine ⟨new, ?_, ?_, hcount, hnames⟩ <;> rw [Wallet.stores_save]
          · exact hevents
          · exact hjsonl
      | volatile hv =>
          refine ⟨new, ?_, ?_, ?_, hnames⟩
          · rw [hv.stores, hevents]
          · rw [hv.stores, hjsonl]
          · rw [hv.runtime, hcount]

theorem Wallet.Steps.base {v w : Wallet} (h : Wallet.Steps v w) : w.base = v.base := by
  induction h with
  | refl => rfl
  | tail _ hstep ih =>
      cases hstep with
      | emit payload => exact ih
      | save _ => exact ih
      | volatile hv => rw [hv.base, ih]

section StepEffects

variable {ι : Type} [DecidableEq ι] {inits : ι → WalletInit}

/-- Every running wallet has the configuration it was started with. -/
def SharedWorld.Configured (inits : ι → WalletInit) (s : SharedWorld ι) : Prop :=
  ∀ q w, s.wallet q = some w → w.cfg = (inits q).cfg

/-- What a step of the party `q` does, with the events it records. -/
structure SharedWorld.Acted (inits : ι → WalletInit) (q : ι) (new : List Event)
    (s s' : SharedWorld ι) : Prop where
  events : s'.db.events = s.db.events ++ new
  jsonl : s'.db.jsonl (inits q).cfg.fileStem = s.db.jsonl (inits q).cfg.fileStem ++ new
  names : ∀ e ∈ new, e.identity = (inits q).cfg.identity
  silent : new = [] → s'.db = s.db
  others : ∀ p, p ≠ q → s'.wallet p = s.wallet p
  configured : s'.Configured inits

theorem SharedWorld.step_acted {s : SharedWorld ι} (hs : s.Configured inits) (a : SharedStep ι) :
    ∃ new, Acted inits a.party new s (s.step inits a) := by
  unfold step
  split
  · exact ⟨[], by simp, by simp, by simp, fun _ => rfl, fun _ _ => rfl, hs⟩
  · next w hw =>
      obtain ⟨v, hbase, hjournal, hcfg, hreported⟩ := a.act.perform_reported (hs a.party) hw
      obtain ⟨new, hevents, hjsonl, hcount, hnames⟩ := hreported.steps.logs
      have hview : v.stores = s.db.view (inits a.party).cfg := by
        rw [Wallet.stores, hjournal, hbase, Stores.writes_nil]
      have hwrites : w.stores = (s.db.view (inits a.party).cfg).writes w.journal := by
        rw [Wallet.stores, hreported.steps.base, hbase]
      refine ⟨new, ?_, ?_, ?_, fun hnew => ?_, fun p hp => ?_, fun q w' hq => ?_⟩
      · show (s.db.writes _ w.journal).events = _
        rw [SharedStores.events_writes _ _ _ (s.db.view (inits a.party).cfg) rfl, ← hwrites,
          hevents, hview]
        rfl
      · show (s.db.writes _ w.journal).jsonl _ = _
        rw [SharedStores.jsonl_writes _ _ _ (s.db.view (inits a.party).cfg) rfl, ← hwrites,
          hjsonl, hview]
        rfl
      · rw [← hcfg]
        exact hnames
      · -- no event, hence no save either
        have hsilent : w.journal = [] := by
          rcases hreported.silent_or_recorded with h | hlt
          · rw [h, hjournal]
          · rw [hcount, hnew] at hlt
            simp at hlt
        show s.db.writes _ w.journal = s.db
        rw [hsilent]
        rfl
      · exact Function.update_of_ne hp _ _
      · by_cases hqa : q = a.party
        · subst hqa
          have hsame : some w = some w' :=
            (Function.update_self a.party (some w) s.wallet).symm.trans hq
          rw [← Option.some.inj hsame, hreported.steps.cfg, hcfg]
        · exact hs q w' ((Function.update_of_ne hqa (some w) s.wallet).symm.trans hq)

end StepEffects

/-! ## What a replay counts -/

theorem Stores.eventsApplied_replay {s : Stores} (hlines : s.events = [] → s.jsonl = [])
    (initialBalance : Decimal) :
    ∃ st, s.replayPortfolioState initialBalance = some st ∧
      st.eventsApplied = s.events.toFinset.card := by
  have hiter : s.iterEvents = s.eventRows := by
    unfold iterEvents
    split
    · next hempty => rw [hlines hempty, eventRows, hempty, List.insertionSort_nil]
    · rfl
  have hsorted : s.eventRows.Pairwise (fun a b => a.ts ≤ b.ts) :=
    List.pairwise_insertionSort _ _
  have hset : s.eventRows.toFinset = s.events.toFinset := by
    ext e
    simp [eventRows]
  refine ⟨(EventLog.firsts [] s.eventRows).foldl PortfolioState.apply (.initial initialBalance),
    ?_, ?_⟩
  · rw [replayPortfolioState, hiter]
    exact EventLog.guardedReplay_eq _ _ _ hsorted (-1) [] _ (fun e _ => by omega)
  · rw [PortfolioState.eventsApplied_foldl, EventLog.length_firsts, hset]
    exact Nat.zero_add _

section Interference

variable {ι : Type} [DecidableEq ι] {inits : ι → WalletInit} {p : ι}

/-- The database and the wallet of the party `p` are the same. -/
structure SharedWorld.SameFor (p : ι) (s t : SharedWorld ι) : Prop where
  db : s.db = t.db
  wallet : s.wallet p = t.wallet p

/-- Only the party `p` has written, to both of its logs. -/
structure SharedWorld.Alone (inits : ι → WalletInit) (p : ι) (t : SharedWorld ι) : Prop where
  configured : t.Configured inits
  jsonl : t.db.jsonl (inits p).cfg.fileStem = t.db.events
  names : ∀ e ∈ t.db.events, e.identity = (inits p).cfg.identity

/-- The world without the other parties. -/
def SharedWorld.stepAlone (inits : ι → WalletInit) (p : ι) (t : SharedWorld ι)
    (a : SharedStep ι) : SharedWorld ι :=
  if a.party = p then t.step inits a else t

/-- The step leaves the rows of the event table as they are, or the party `p`
takes it. -/
def SharedStep.RecordsNothing (inits : ι → WalletInit) (p : ι) (s : SharedWorld ι)
    (a : SharedStep ι) : Prop :=
  a.party = p ∨ (s.step inits a).db.events = s.db.events

theorem SharedWorld.Alone.step {t : SharedWorld ι} (h : t.Alone inits p) (a : SharedStep ι) :
    (t.stepAlone inits p a).Alone inits p := by
  unfold stepAlone
  split
  · next hparty =>
      subst hparty
      obtain ⟨new, hacted⟩ := step_acted h.configured a
      refine ⟨hacted.configured, ?_, fun e he => ?_⟩
      · rw [hacted.jsonl, hacted.events, h.jsonl]
      · rw [hacted.events] at he
        rcases List.mem_append.mp he with he | he
        · exact h.names e he
        · exact hacted.names e he
  · exact h

/-- The party's own step does the same in both worlds. -/
theorem SharedWorld.SameFor.step {s t : SharedWorld ι} (h : SameFor p s t) {a : SharedStep ι}
    (ha : a.party = p) : SameFor p (s.step inits a) (t.step inits a) := by
  subst ha
  unfold SharedWorld.step
  rw [h.db, h.wallet]
  split
  · exact ⟨h.db, h.wallet⟩
  · exact ⟨rfl, by simp⟩

/-- A step of another party is invisible if it records nothing. -/
theorem SharedWorld.SameFor.step_other {s t : SharedWorld ι} (hs : s.Configured inits)
    (h : SameFor p s t) {a : SharedStep ι} (ha : a.party ≠ p)
    (hevents : (s.step inits a).db.events = s.db.events) : SameFor p (s.step inits a) t := by
  obtain ⟨new, hacted⟩ := step_acted hs a
  have hnew : new = [] := by
    rw [hacted.events] at hevents
    exact List.append_right_eq_self.mp hevents
  exact ⟨(hacted.silent hnew).trans h.db, (hacted.others p (Ne.symm ha)).trans h.wallet⟩

/-- The first event of another party shows in the replay: it is counted, and
it is none of the events that were there. -/
theorem SharedWorld.Alone.replayed_ne {s t : SharedWorld ι} (ht : t.Alone inits p)
    (hs : s.Configured inits) (h : SameFor p s t) {a : SharedStep ι}
    (hid : (inits a.party).cfg.identity ≠ (inits p).cfg.identity)
    (hevents : (s.step inits a).db.events ≠ s.db.events) :
    ((s.step inits a).db.readings (inits p)).replayed ≠ (t.db.readings (inits p)).replayed := by
  obtain ⟨new, hacted⟩ := step_acted hs a
  have hafter : (s.step inits a).db.events = t.db.events ++ new := by rw [hacted.events, h.db]
  obtain ⟨e, he⟩ : ∃ e, e ∈ new := by
    refine List.exists_mem_of_ne_nil new (fun hnil => hevents ?_)
    rw [hacted.events, hnil, List.append_nil]
  have hforeign : e ∉ t.db.events :=
    fun hmem => hid ((hacted.names e he).symm.trans (ht.names e hmem))
  have hmore : t.db.events.toFinset.card < (s.step inits a).db.events.toFinset.card := by
    rw [hafter]
    refine Finset.card_lt_card (Finset.ssubset_iff_of_subset ?_ |>.mpr ⟨e, ?_, ?_⟩)
    · intro x hx
      simp only [List.mem_toFinset] at hx
      simp [hx]
    · simp [he]
    · simpa using hforeign
  obtain ⟨st, hst, hcount⟩ := Stores.eventsApplied_replay
    (s := (s.step inits a).db.view (inits p).cfg)
    (fun hnil => absurd (hafter.symm.trans hnil) (by simp [List.ne_nil_of_mem he]))
    (inits p).cfg.initialBalance
  obtain ⟨st', hst', hcount'⟩ := Stores.eventsApplied_replay (s := t.db.view (inits p).cfg)
    (fun hnil => ht.jsonl.trans hnil) (inits p).cfg.initialBalance
  intro heq
  have hsame : st = st' := Option.some.inj (hst.symm.trans (heq.trans hst'))
  rw [hsame, hcount'] at hcount
  exact absurd hcount hmore.ne

/-- The two worlds a run is compared in: one has only ever seen the party
`p`, and as long as the readings agree, nothing tells them apart. -/
structure SharedWorld.Compared (inits : ι → WalletInit) (p : ι) (s t : SharedWorld ι) :
    Prop where
  configured : s.Configured inits
  alone : t.Alone inits p
  same : s.db.readings (inits p) = t.db.readings (inits p) → SameFor p s t

/-- One step keeps the readings the same exactly if it records nothing. -/
theorem SharedWorld.Compared.readings_step {s t : SharedWorld ι} (h : Compared inits p s t)
    (hids : ∀ q, q ≠ p → (inits q).cfg.identity ≠ (inits p).cfg.identity)
    (hsame : SameFor p s t) (a : SharedStep ι) :
    (s.step inits a).db.readings (inits p) = (t.stepAlone inits p a).db.readings (inits p) ↔
      a.RecordsNothing inits p s := by
  unfold stepAlone SharedStep.RecordsNothing
  by_cases hparty : a.party = p
  · rw [if_pos hparty, (hsame.step hparty).db]
    simp [hparty]
  · rw [if_neg hparty]
    constructor
    · intro heq
      refine .inr (by_contra fun hevents => ?_)
      exact h.alone.replayed_ne h.configured hsame (hids a.party hparty) hevents
        (congrArg WalletReadings.replayed heq)
    · intro hnothing
      have hevents := hnothing.resolve_left hparty
      rw [(hsame.step_other h.configured hparty hevents).db]

theorem SharedWorld.Compared.step {s t : SharedWorld ι} (h : Compared inits p s t)
    (hids : ∀ q, q ≠ p → (inits q).cfg.identity ≠ (inits p).cfg.identity)
    (hsame : SameFor p s t) (a : SharedStep ι) :
    Compared inits p (s.step inits a) (t.stepAlone inits p a) := by
  obtain ⟨new, hacted⟩ := step_acted h.configured a
  refine ⟨hacted.configured, h.alone.step a, fun heq => ?_⟩
  rcases (h.readings_step hids hsame a).mp heq with hparty | hevents
  · rw [stepAlone, if_pos hparty]
    exact hsame.step hparty
  · by_cases hparty : a.party = p
    · rw [stepAlone, if_pos hparty]
      exact hsame.step hparty
    · rw [stepAlone, if_neg hparty]
      exact hsame.step_other h.configured hparty hevents

/-- Wallets under different names share one database.  Throughout a run, in
whatever order they act, a wallet replays, restores, bootstraps and schedules
funding as if it had been alone exactly if no step of another wallet, its
start included, records an event. -/
theorem SharedWorld.readings_iff (inits : ι → WalletInit) (p : ι)
    (hids : ∀ q, q ≠ p → (inits q).cfg.identity ≠ (inits p).cfg.identity)
    (steps : List (SharedStep ι)) :
    (∀ before, before <+: steps →
      (run inits before).db.readings (inits p) =
        (run inits (before.filter (fun a => a.party = p))).db.readings (inits p)) ↔
      AllOk (SharedWorld.step inits) (fun s a => a.RecordsNothing inits p s) (.empty ι) steps := by
  have hstart : Compared inits p (.empty ι) (.empty ι) :=
    ⟨fun _ _ h => by simp [SharedWorld.empty] at h,
      ⟨fun _ _ h => by simp [SharedWorld.empty] at h, rfl,
        by simp [SharedWorld.empty, SharedStores.empty]⟩,
      fun _ => ⟨rfl, rfl⟩⟩
  let same : SharedWorld ι → SharedWorld ι → Prop :=
    fun s t => s.db.readings (inits p) = t.db.readings (inits p)
  have hkeep : ∀ s t a, Compared inits p s t → same s t →
      Compared inits p (s.step inits a) (t.stepAlone inits p a) :=
    fun s t a hinv hrel => hinv.step hids (hinv.same hrel) a
  have hstep : ∀ s t a, Compared inits p s t → same s t →
      (same (s.step inits a) (t.stepAlone inits p a) ↔ a.RecordsNothing inits p s) :=
    fun s t a hinv hrel => hinv.readings_step hids (hinv.same hrel) a
  rw [← AllOk.related_iff hkeep hstep steps hstart rfl]
  refine forall₂_congr (fun before _ => ?_)
  have halone : run inits (before.filter (fun a => a.party = p)) =
      before.foldl (SharedWorld.stepAlone inits p) (.empty ι) := by
    simp only [run, List.foldl_filter, decide_eq_true_eq]
    rfl
  rw [halone, run]

end Interference

/-! ## A paper and a live wallet -/

/-- Two wallets that differ in their namespace only. -/
def demoParties (live : Bool) : WalletInit :=
  { demoInit with
    cfg := { demoInit.cfg with stateNamespace := if live then "live" else "paper" } }

/-- The paper wallet runs, the live one has nothing to do. -/
def demoQuiet : List (SharedStep Bool) :=
  [ ⟨false, .start (fun _ => 0) false⟩,
    ⟨true, .start (fun _ => 1) false⟩,
    ⟨true, .call (Operation.cancelOrder "" "").call⟩,
    ⟨false, .call (Operation.adoptVenuePosition demoAdoption).call⟩ ]

theorem demoQuiet_readings :
    AllOk (SharedWorld.step demoParties)
        (fun s a => a.RecordsNothing demoParties false s) (.empty Bool) demoQuiet ∧
      ∀ before, before <+: demoQuiet →
        (SharedWorld.run demoParties before).db.readings (demoParties false) =
          (SharedWorld.run demoParties
            (before.filter (fun a => a.party = false))).db.readings (demoParties false) := by
  have hquiet : AllOk (SharedWorld.step demoParties)
      (fun s a => a.RecordsNothing demoParties false s) (.empty Bool) demoQuiet :=
    ⟨.inl rfl, .inr (by decide), .inr (by decide), .inl rfl, trivial⟩
  exact ⟨hquiet, (SharedWorld.readings_iff demoParties false (by decide) demoQuiet).mpr hquiet⟩

/-- The live wallet starts first.  The paper wallet then finds an event and
does not emit its own `WALLET_INITIALIZED`. -/
theorem not_readings_alone :
    ¬ ∀ (inits : Bool → WalletInit) (p : Bool) (steps : List (SharedStep Bool)),
      (∀ q, q ≠ p → (inits q).cfg.identity ≠ (inits p).cfg.identity) →
        (SharedWorld.run inits steps).db.readings (inits p) =
          (SharedWorld.run inits
            (steps.filter (fun a => a.party = p))).db.readings (inits p) := by
  intro h
  have hsame := h demoParties false [⟨true, .start (fun _ => 0) false⟩] (by decide)
  have hfound : ((SharedWorld.run demoParties
      [⟨true, .start (fun _ => 0) false⟩]).db.readings
        (demoParties false)).bootstraps = false := by
    decide
  rw [hsame] at hfound
  revert hfound
  decide

end CryptoTrader
