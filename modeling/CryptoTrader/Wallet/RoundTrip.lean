import CryptoTrader.Wallet.Recovery

/-!
# The snapshot as a copy of the reducer state

`_save_state` and `_deserialize_reducer_state` are two hand-written lists of
keys.  What the decoder yields is compared with the encoded state on
everything that the reducer and `_sync_positions_from_reducer` read.
-/

namespace CryptoTrader

open CryptoTrader.Lib

/-! ## What is read of a reducer state -/

/-- An entry as the reducer and `_sync_positions_from_reducer` read it.  The
provenance is only ever written, and the peaks have defaults in the entry.
The protective orders and the mode default to those of the position at
hand, so a missing key stands for no value of its own. -/
def PositionData.reads (data : PositionData) : PositionData :=
  { data with
    source := none
    openedExternally := none
    highestPrice := some (data.highestPrice.getD data.entryPrice)
    peakPnlPct := some (data.peakPnlPct.getD 0) }

def PortfolioState.reads (s : PortfolioState) : PortfolioState :=
  { s with openPositions := s.openPositions.mapVal (fun _ data => data.reads) }

/-- A position is synced with what is read of its entry. -/
theorem syncPosition_reads (existing : Option EnhancedPosition) (live : Bool) (symbol : Symbol)
    (data : PositionData) :
    syncPosition existing live symbol data.reads = syncPosition existing live symbol data := by
  cases existing with
  | none => rfl
  | some pos => rfl

@[simp] theorem PositionData.reads_reads (data : PositionData) : data.reads.reads = data.reads :=
  rfl

theorem readEntries_modify (positions : Dict Symbol PositionData) (symbol : Symbol)
    (f : PositionData → PositionData) (hf : ∀ data, (f data).reads = f data.reads) :
    ((positions.mapVal (fun _ data => data.reads)).modify symbol f).mapVal
        (fun _ data => data.reads) =
      (positions.modify symbol f).mapVal (fun _ data => data.reads) := by
  rw [Dict.mapVal_modify _ _ _ f f hf, Dict.mapVal_modify _ _ _ f f hf, Dict.mapVal_mapVal]
  rfl

/-- No branch of the reducer looks at anything else. -/
theorem PortfolioState.reads_apply (s : PortfolioState) (event : Event) :
    (s.reads.apply event).reads = (s.apply event).reads := by
  have hall : (s.openPositions.mapVal (fun _ data => data.reads)).mapVal
      (fun _ data => data.reads) = s.openPositions.mapVal (fun _ data => data.reads) :=
    Dict.mapVal_mapVal _ _ _
  unfold apply
  cases event.payload with
  | orderCreated p =>
      by_cases hid : p.orderId = ""
      · simp [applyPayload, reads, hid, hall]
      · simp [applyPayload, reads, hid, hall]
  | positionOpened p => simp [applyPayload, reads, Dict.mapVal_set, hall]
  | positionAdopted p => simp [applyPayload, reads, Dict.mapVal_set, hall]
  | positionPartiallyClosed p =>
      have hmod := readEntries_modify s.openPositions p.symbol (·.reduce p) (fun _ => rfl)
      simp [applyPayload, reads, credit, hmod]
  | slAdjusted symbol slPrice =>
      have hmod := readEntries_modify s.openPositions symbol
        (fun pos => { pos with slPrice := slPrice }) (fun _ => rfl)
      simp [applyPayload, reads, hmod]
  | trailingStopActivated symbol =>
      have hmod := readEntries_modify s.openPositions symbol
        (fun pos => { pos with trailingActive := true }) (fun _ => rfl)
      simp [applyPayload, reads, hmod]
  | positionClosed p => simp [applyPayload, reads, credit, Dict.mapVal_erase, hall]
  | liquidation p => simp [applyPayload, reads, credit, Dict.mapVal_erase, hall]
  | protectiveOrdersPlaced symbol placed =>
      have hmod := readEntries_modify s.openPositions symbol (·.placeProtective placed)
        (fun _ => rfl)
      simp [applyPayload, reads, hmod]
  | protectiveOrdersCancelled symbol =>
      have hmod := readEntries_modify s.openPositions symbol
        (fun pos => { pos with protectiveOrders := some .none }) (fun _ => rfl)
      simp [applyPayload, reads, hmod]
  | _ => simp [applyPayload, reads, credit, hall]

/-- States that read the same stay so under the same events. -/
theorem PortfolioState.reads_congruence :
    EventLog.Congruence PortfolioState.apply PortfolioState.reads := by
  intro s t e h
  rw [← reads_apply s, ← reads_apply t, h]

/-- Whatever positions a wallet has, it syncs them alike with states that read
the same. -/
theorem PortfolioState.syncPositions_congr {s t : PortfolioState} (h : s.reads = t.reads)
    (existing : Symbol → Option EnhancedPosition) (live : Bool) :
    s.openPositions.mapVal (fun symbol => syncPosition (existing symbol) live symbol) =
      t.openPositions.mapVal (fun symbol => syncPosition (existing symbol) live symbol) := by
  have hreads (s : PortfolioState) :
      s.openPositions.mapVal (fun symbol => syncPosition (existing symbol) live symbol) =
        s.reads.openPositions.mapVal
          (fun symbol => syncPosition (existing symbol) live symbol) := by
    simp only [reads, Dict.mapVal_mapVal, syncPosition_reads]
  rw [hreads s, hreads t, h]

/-! ## Encoding and decoding -/

/-- The decoded copy of the snapshot that `_save_state` writes reads like the
reducer state it leaves. -/
def Wallet.RoundTrips (w : Wallet) : Prop :=
  w.snapshot.reducerState.reads = w.save.runtime.reads

instance (w : Wallet) : Decidable w.RoundTrips :=
  inferInstanceAs (Decidable (_ = _))

/-- Then a wallet restarted from the copy goes on like this one: the same
events leave states that read the same. -/
theorem Wallet.RoundTrips.resume {w : Wallet} (h : w.RoundTrips) (log : List Event) :
    (log.foldl PortfolioState.apply w.snapshot.reducerState).reads =
      (log.foldl PortfolioState.apply w.save.runtime).reads :=
  PortfolioState.reads_congruence.foldl log h

/-- The entry is one that a decoder built, and no protective order has been
recorded or cancelled since. -/
def PositionData.Bare (data : PositionData) : Prop :=
  data.protectiveOrders = none ∧ data.mode = none

instance (data : PositionData) : Decidable data.Bare :=
  inferInstanceAs (Decidable (_ ∧ _))

/-- The decoder drops two keys that are read, and nothing else. -/
theorem PositionData.reads_deserialize (data : PositionData) :
    data.deserialize.reads = { data.reads with protectiveOrders := none, mode := none } := rfl

theorem PositionData.deserialize_reads_iff (data : PositionData) :
    data.deserialize.reads = data.reads ↔ data.Bare := by
  rw [reads_deserialize]
  constructor
  · intro h
    exact ⟨(congrArg PositionData.protectiveOrders h).symm, (congrArg PositionData.mode h).symm⟩
  · intro h
    have horders : data.reads.protectiveOrders = none := h.1
    have hmode : data.reads.mode = none := h.2
    rw [← horders, ← hmode]

/-- The write-back of the peaks does not touch those keys. -/
theorem PositionData.bare_withPeaks (data : PositionData) (pos : Option EnhancedPosition) :
    (data.withPeaks pos).Bare ↔ data.Bare := by
  cases pos with
  | none => exact Iff.rfl
  | some pos => exact Iff.rfl

/-- A coherent wallet's snapshot is a faithful copy exactly when all entries
are bare and nothing has been paid for funding. -/
theorem Wallet.Coherent.roundTrips_iff {w : Wallet} (h : w.Coherent) :
    w.RoundTrips ↔
      (∀ data ∈ w.runtime.openPositions.values, data.Bare) ∧ w.runtime.fundingTotal = 0 := by
  have hentries :
      w.runtime.openPositions.mapVal
          (fun symbol data => (data.withPeaks (w.positions.get? symbol)).deserialize.reads) =
        w.runtime.openPositions.mapVal
          (fun symbol data => (data.withPeaks (w.positions.get? symbol)).reads) ↔
      ∀ data ∈ w.runtime.openPositions.values, data.Bare := by
    rw [Dict.mapVal_eq_iff]
    simp only [PositionData.deserialize_reads_iff, PositionData.bare_withPeaks, Dict.values,
      List.mem_map, forall_exists_index, and_imp, forall_apply_eq_imp_iff₂]
  unfold RoundTrips
  simp only [PortfolioState.reads, Snapshot.reducerState, snapshot, save, runtimeWithPeaks,
    Dict.mapVal_mapVal, h.walletBalance, h.realizedPnlTotal, PortfolioState.mk.injEq, true_and,
    and_true, hentries]
  rw [eq_comm (a := (0 : Decimal))]

/-! ## Every wallet that has run -/

/-- The wallets of one namespace: created over empty stores, taken through
durable steps, and now and then created again over what a crash left. -/
inductive Wallet.Lives (init : WalletInit) : Wallet → Prop where
  | start (clock : Nat → Nat) (redisUp : Bool) : Wallet.Lives init (Wallet.boot init clock {} redisUp)
  | step {w w' : Wallet} (h : Wallet.Lives init w) (hstep : Wallet.Step w w') : Wallet.Lives init w'
  | restart {w : Wallet} (h : Wallet.Lives init w) (k : Nat) (clock : Nat → Nat) (redisUp : Bool) :
      Wallet.Lives init (Wallet.boot init clock (w.crashed k) redisUp)

theorem Wallet.Lives.steps {init : WalletInit} {w w' : Wallet} (h : Wallet.Lives init w)
    (hsteps : Wallet.Steps w w') : Wallet.Lives init w' := by
  induction hsteps with
  | refl => exact h
  | tail _ hstep ih => exact ih.step hstep

theorem Wallet.Lives.coherent {init : WalletInit} {w : Wallet} (h : Wallet.Lives init w) :
    w.Coherent := by
  induction h with
  | start clock redisUp => exact .boot init clock {} redisUp
  | step _ hstep ih => exact ih.step hstep
  | restart _ k clock redisUp _ => exact .boot init clock _ redisUp

/-- In every wallet that has run, before any of its durable steps, the
snapshot `_save_state` would write reads like the reducer state exactly when
no entry carries protective orders or a mode and the funding total is zero. -/
theorem Wallet.roundTrips_iff_of_lives (init : WalletInit) (w : Wallet)
    (h : Wallet.Lives init w) :
    w.RoundTrips ↔
      (∀ data ∈ w.runtime.openPositions.values, data.Bare) ∧ w.runtime.fundingTotal = 0 :=
  h.coherent.roundTrips_iff

/-- A wallet that has adopted a position. -/
def demoAdopted : Wallet :=
  (Operation.adoptVenuePosition demoAdoption).run (Wallet.boot demoInit (fun n => n) {} false)

theorem demoAdopted_lives : Wallet.Lives demoInit demoAdopted :=
  (Wallet.Lives.start (fun n => n) false).steps (Operation.run_steps _ _)

/-- The same wallet after a restart holds the adopted position, and its next
snapshot is a faithful copy. -/
theorem demoRestarted_roundTrips :
    (Wallet.boot demoInit (fun _ => 1000) (demoAdopted.crashed 100) false).RoundTrips :=
  (Wallet.roundTrips_iff_of_lives demoInit _
    (demoAdopted_lives.restart 100 (fun _ => 1000) false)).mpr (by decide +kernel)

/-- **A restart goes on alike.**  A wallet that has run, whose entries are bare and that
has paid no funding, and its decoded snapshot read the same after any further events,
and any positions are synced alike with the two. -/
theorem Wallet.resume_of_lives {init : WalletInit} {w : Wallet} (h : Wallet.Lives init w)
    (hbare : ∀ data ∈ w.runtime.openPositions.values, data.Bare)
    (hfunding : w.runtime.fundingTotal = 0) (log : List Event)
    (existing : Symbol → Option EnhancedPosition) (live : Bool) :
    let copy := log.foldl PortfolioState.apply w.snapshot.reducerState
    let state := log.foldl PortfolioState.apply w.save.runtime
    copy.reads = state.reads ∧
      copy.openPositions.mapVal (fun symbol => syncPosition (existing symbol) live symbol) =
        state.openPositions.mapVal (fun symbol => syncPosition (existing symbol) live symbol) := by
  have hresume := (h.coherent.roundTrips_iff.mpr ⟨hbare, hfunding⟩).resume log
  exact ⟨hresume, PortfolioState.syncPositions_congr hresume existing live⟩

theorem demoRestarted_resume :
    let w := Wallet.boot demoInit (fun _ => 1000) (demoAdopted.crashed 100) false
    (w.snapshot.reducerState.reads = w.save.runtime.reads) :=
  (Wallet.resume_of_lives (demoAdopted_lives.restart 100 (fun _ => 1000) false)
    (by decide +kernel) (by decide +kernel) [] (fun _ => none) false).1

/-- A live position that has paid funding comes back without its mode, its
protective orders and the funding total. -/
theorem demoFunded_not_roundTrips :
    ¬ ∀ (init : WalletInit) (w : Wallet), Wallet.Lives init w → w.RoundTrips := by
  intro h
  have hfunded := h demoInit _
    (demoAdopted_lives.steps (Operation.run_steps _ (.applyFunding demoSymbol (1 / 1000))))
  revert hfunded
  decide +kernel

end CryptoTrader
