import CryptoTrader.Management.Mirror

/-!
# The registry and the exchange

A reconcile holds the lock of the sync service for one row, for the list of
stale ids and for one removal at a time, and websocket events come in between.
What the exchange has reported is kept beside the service: the positions that
are open, and how often each has ended.
-/

namespace CryptoTrader.Sync

open CryptoTrader.Lib

/-! ## Reports -/

/-- The id and the amount of a row, where both can be read. -/
def rowAmount (py : Interpreter) : PyValue → Option (PyStr × PyFloat)
  | .dict raw => do
      let exchangeId := ((get raw "id").orElse
        ((get raw "positionId").orElse (getD raw "position_id" (.str "")))).toStr py.toPython
      let qty ← ((get raw "positionAmt").orElse
        ((get raw "quantity").orElse (getD raw "qty" (.int 0)))).toFloat py.float
      pure (exchangeId, qty)
  | _ => none

/-- The row reports an open position: a negative amount is a short. -/
def RowOpens (py : Interpreter) (exchangeId : PyStr) (raw : PyValue) : Prop :=
  ∃ qty, rowAmount py raw = some (exchangeId, qty) ∧ qty ≠ .fin 0

/-- The rows report an open position. -/
def RowsOpen (py : Interpreter) (rows : List PyValue) (exchangeId : PyStr) : Prop :=
  ∃ raw ∈ rows, RowOpens py exchangeId raw

/-- The positions that are open at the exchange, and how often each has ended. -/
structure Exchange where
  opened : PyStr → Bool := fun _ => false
  ended : PyStr → ℕ := fun _ => 0

/-- The exchange now has other positions. -/
def Exchange.report (exchange : Exchange) (opened : PyStr → Bool) : Exchange where
  opened := opened
  ended := fun id => exchange.ended id + if exchange.opened id ∧ ¬ opened id then 1 else 0

instance (py : Interpreter) (exchangeId : PyStr) (raw : PyValue) :
    Decidable (RowOpens py exchangeId raw) :=
  decidable_of_iff ((rowAmount py raw).any (fun row => row.1 = exchangeId ∧ row.2 ≠ .fin 0)) (by
    unfold RowOpens
    cases h : rowAmount py raw with
    | none => simp
    | some row =>
        obtain ⟨id, qty⟩ := row
        simp only [Option.any_some, decide_eq_true_eq, Option.some.injEq, Prod.mk.injEq]
        constructor
        · intro ⟨hid, hqty⟩
          exact ⟨qty, ⟨hid, rfl⟩, hqty⟩
        · intro ⟨qty', ⟨hid, hqty⟩, hne⟩
          exact ⟨hid, hqty ▸ hne⟩)

instance (py : Interpreter) (rows : List PyValue) (exchangeId : PyStr) :
    Decidable (RowsOpen py rows exchangeId) :=
  inferInstanceAs (Decidable (∃ raw ∈ rows, RowOpens py exchangeId raw))

/-- What a websocket update says of one position. -/
def Exchange.hear (exchange : Exchange) (py : Interpreter) (data : PyValue) : Exchange :=
  match rowAmount py data with
  | none => exchange
  | some (exchangeId, qty) =>
      exchange.report (Function.update exchange.opened exchangeId (qty ≠ .fin 0))

/-! ## The threads -/

/-- The rows that `_fetch_positions_rest` is given, unless it fails. -/
def fetchedRows (rest : Option RestClient) : Option (List PyValue) :=
  match rest.bind (fun client => client.getFuturesPositions.or client.getPositions) with
  | some (.ok raws) => some raws
  | _ => none

theorem fetchPositionsRest_eq (rest : Option RestClient) :
    fetchPositionsRest rest = (fetchedRows rest).getD [] := by
  cases rest with
  | none => rfl
  | some client =>
      simp only [fetchPositionsRest, fetchedRows, Option.bind_some]
      cases client.getFuturesPositions.or client.getPositions with
      | none => rfl
      | some answer =>
          cases answer with
          | error e => rfl
          | ok raws => rfl

/-- Where `_reconcile_once` is, and whether its fetch succeeded: between runs,
at its rows with the ids it has seen, at the removal of the stale ids. -/
inductive ReconcilePhase where
  | idle
  | upserting (fetched : Bool) (rows : List PyValue) (live : List PyStr)
  | removing (fetched : Bool) (ids : List PyStr)

/-- The row that is next. -/
def ReconcilePhase.row? : ReconcilePhase → Option PyValue
  | .upserting _ (raw :: _) _ => some raw
  | _ => none

/-- The stale id that is next. -/
def ReconcilePhase.stale? : ReconcilePhase → Option PyStr
  | .removing _ (exchangeId :: _) => some exchangeId
  | _ => none

/-- The service with its reconcile thread and the exchange; `unfounded` counts
the removals after a fetch that failed. -/
structure SyncSystem where
  service : PositionSyncService := {}
  phase : ReconcilePhase := .idle
  exchange : Exchange := {}
  unfounded : ℕ := 0

/-- A step of the reconcile thread, or a whole websocket event. -/
inductive SyncStep where
  | fetch (rest : Option RestClient)
  | upsertNext (wallet : Option (PyStr → Bool)) (cb : Callbacks)
  | removeNext (closedRaises : Bool)
  | wsPositionUpdate (data : PyValue) (wallet : Option (PyStr → Bool)) (cb : Callbacks)

/-- How often `on_position_closed` has fired for a position. -/
def PositionSyncService.fired (s : PositionSyncService) (exchangeId : PyStr) : ℕ :=
  s.history.count (.dropped exchangeId)

/-- The position is in the registry. -/
def PositionSyncService.Registered (s : PositionSyncService) (exchangeId : PyStr) : Prop :=
  (s.positions.get? exchangeId).isSome

instance (s : PositionSyncService) (exchangeId : PyStr) : Decidable (s.Registered exchangeId) :=
  inferInstanceAs (Decidable (_ = true))

namespace SyncSystem

variable (py : Interpreter) (s : SyncSystem)

/-- `_reconcile_once` up to its first lock. -/
def fetch (rest : Option RestClient) : SyncSystem :=
  { s with
    phase := .upserting (fetchedRows rest).isSome (fetchPositionsRest rest) []
    exchange := match fetchedRows rest with
      | none => s.exchange
      | some rows => s.exchange.report (fun id => RowsOpen py rows id) }

/-- One row of `_reconcile_once`; an error of a callback ends it. -/
def upsertRow (fetched : Bool) (raw : PyValue) (rest : List PyValue) (live : List PyStr)
    (wallet : Option (PyStr → Bool)) (cb : Callbacks) : SyncSystem :=
  match parseRestPosition py wallet raw with
  | none => { s with phase := .upserting fetched rest live }
  | some pos =>
      let (service, raised) := (s.service.note (.received pos)).upsert cb pos
      { s with
        service := service
        phase := if raised then .idle else .upserting fetched rest (live ++ [pos.exchangeId]) }

/-- The list of stale ids. -/
def findStale (fetched : Bool) (live : List PyStr) : SyncSystem :=
  { s with
    phase := .removing fetched
      (s.service.positions.keys.filter (fun exchangeId => exchangeId ∉ live)) }

/-- The removal of one stale id, and its callback. -/
def removeStale (fetched : Bool) (exchangeId : PyStr) (rest : List PyStr) (closedRaises : Bool) :
    SyncSystem :=
  { s with
    service := s.service.drop exchangeId
    phase := if closedRaises then .idle else .removing fetched rest
    unfounded := if fetched then s.unfounded else s.unfounded + 1 }

/-- `on_ws_position_update`, as the exchange has reported. -/
def hear (data : PyValue) (wallet : Option (PyStr → Bool)) (cb : Callbacks) : SyncSystem :=
  { s with
    service := s.service.onWsPositionUpdate ⟨py, wallet, fun _ => cb, fun _ => false⟩ data
    exchange := s.exchange.hear py data }

def step : SyncStep → SyncSystem
  | .fetch rest =>
      match s.phase with
      | .idle => s.fetch py rest
      | _ => s
  | .upsertNext wallet cb =>
      match s.phase with
      | .upserting fetched (raw :: rest) live => s.upsertRow py fetched raw rest live wallet cb
      | .upserting fetched [] live => s.findStale fetched live
      | _ => s
  | .removeNext closedRaises =>
      match s.phase with
      | .removing fetched (exchangeId :: rest) =>
          s.removeStale fetched exchangeId rest closedRaises
      | .removing _ [] => { s with phase := .idle }
      | _ => s
  | .wsPositionUpdate data wallet cb => s.hear py data wallet cb

/-! ## What is promised -/

/-- `on_position_closed` never fires more often than the position has ended, and
not after a fetch that failed; between reconciles it has fired as often, and the
registry holds what is open. -/
structure Tracks : Prop where
  fired_le : ∀ id, s.service.fired id ≤ s.exchange.ended id
  unfounded : s.unfounded = 0
  fired : s.phase = .idle → ∀ id, s.service.fired id = s.exchange.ended id
  registered : s.phase = .idle → ∀ id, s.service.Registered id ↔ s.exchange.opened id = true

/-- A row is of a position that is open; a row that cannot be parsed is of none;
and a callback raises only when nothing is left to do. -/
@[irreducible] def RowOk (raw : PyValue) (wallet : Option (PyStr → Bool)) (cb : Callbacks) : Prop :=
  match parseRestPosition py wallet raw with
  | none => ∀ row ∈ rowAmount py raw, s.exchange.opened row.1 = false
  | some pos => s.exchange.opened pos.exchangeId = true ∧
      (((s.service.note (.received pos)).upsert cb pos).2 = true →
        ∀ id, s.service.Registered id ∨ id = pos.exchangeId ↔ s.exchange.opened id = true)

/-- What is removed is there and has ended; its callback raises only when
nothing else is left to remove. -/
def RemovalOk (exchangeId : PyStr) (closedRaises : Bool) : Prop :=
  s.service.Registered exchangeId ∧ s.exchange.opened exchangeId = false ∧
    (closedRaises = true → ∀ id, s.service.Registered id → id ≠ exchangeId → s.exchange.opened id = true)

/-- An amount that is not zero is positive, and of a position that is new or
still open; a position that ends is in the registry. -/
def WsOk (data : PyValue) (wallet : Option (PyStr → Bool)) : Prop :=
  ∀ exchangeId qty, rowAmount py data = some (exchangeId, qty) →
    if qty = .fin 0 then
      s.exchange.opened exchangeId = true →
        s.service.Registered exchangeId ∧ (parseRestPosition py wallet data).isSome
    else
      PyFloat.le qty (.fin 0) = false ∧ (parseRestPosition py wallet data).isSome ∧
        (s.service.Registered exchangeId → s.exchange.opened exchangeId = true)

def Ok : SyncStep → Prop
  | .fetch _ => True
  | .upsertNext wallet cb => ∀ raw ∈ s.phase.row?, s.RowOk py raw wallet cb
  | .removeNext closedRaises => ∀ exchangeId ∈ s.phase.stale?, s.RemovalOk exchangeId closedRaises
  | .wsPositionUpdate data wallet _ => s.WsOk py data wallet

end SyncSystem

/-! ## The service, one position at a time -/

theorem rowAmount_of_parse {py : Interpreter} {wallet : Option (PyStr → Bool)} {raw : PyValue}
    {pos : ExternalPosition} (h : parseRestPosition py wallet raw = some pos) :
    rowAmount py raw = some (pos.exchangeId, pos.qty) := by
  cases raw with
  | dict fields =>
      simp only [parseRestPosition, bind, Option.bind_eq_some_iff, pure, Option.some.injEq] at h
      obtain ⟨qty, hqty, _, _, _, _, _, _, _, _, _, _, _, _, _, _, rfl⟩ := h
      simp [rowAmount, hqty]
  | none => cases h
  | bool b => cases h
  | int n => cases h
  | float x => cases h
  | str s => cases h
  | surrogates points => cases h
  | list xs => cases h

namespace PositionSyncService

variable {s : PositionSyncService} {cb : Callbacks} {pos : ExternalPosition} {id : PyStr}

theorem fired_note (moment : Moment) (h : moment ≠ .dropped id) :
    (s.note moment).fired id = s.fired id := by
  simp [fired, note, h]

theorem fired_requireProtection (handler : ProtectionHandler) :
    (s.requireProtection handler pos).1.fired id = s.fired id := by
  cases handler with
  | unwired => rfl
  | observer raises => exact fired_note (.required pos.exchangeId) (by simp)
  | manager pm =>
      rw [requireProtection_manager, fired_note _ (by simp)]
      exact fired_note (.required pos.exchangeId) (by simp)

/-- An upsert reports no end. -/
theorem fired_upsert : (s.upsert cb pos).1.fired id = s.fired id := by
  cases hget : s.positions.get? pos.exchangeId with
  | none =>
      rw [upsert_new hget]
      split
      · rfl
      · split
        · exact fired_requireProtection cb.protectionRequired
        · rfl
  | some existing =>
      rw [upsert_known hget]
      rfl

theorem registered_requireProtection (handler : ProtectionHandler)
    (h : s.Registered pos.exchangeId) :
    (s.requireProtection handler pos).1.Registered pos.exchangeId := by
  cases handler with
  | unwired => exact h
  | observer raises => exact h
  | manager pm =>
      rw [requireProtection_manager]
      simp [Registered, settled_exchangeId]

theorem registered_upsert_self : (s.upsert cb pos).1.Registered pos.exchangeId := by
  have hput : (s.put (pos.syncedAt cb.nowMs)).Registered pos.exchangeId := by
    simp [Registered, ExternalPosition.syncedAt]
  cases hget : s.positions.get? pos.exchangeId with
  | none =>
      rw [upsert_new hget]
      split
      · exact hput
      · split
        · exact registered_requireProtection cb.protectionRequired hput
        · exact hput
  | some existing =>
      rw [upsert_known hget]
      simp [Registered]

theorem registered_upsert :
    (s.upsert cb pos).1.Registered id ↔ s.Registered id ∨ id = pos.exchangeId := by
  by_cases hid : id = pos.exchangeId
  · simp only [hid, or_true, iff_true]
    exact registered_upsert_self
  · have hothers : s.SameElsewhere (s.upsert cb pos).1 pos.exchangeId := sameElsewhere_upsert
    have hother := hothers id (Ne.symm hid)
    simp [Registered, hother.1, hid]

theorem registered_drop (exchangeId : PyStr) :
    (s.drop exchangeId).Registered id ↔ s.Registered id ∧ id ≠ exchangeId := by
  by_cases hid : exchangeId = id
  · simp [Registered, drop, hid]
  · simp [Registered, drop, Dict.get?_erase_ne s.positions hid, Ne.symm hid]

theorem fired_drop (exchangeId : PyStr) :
    (s.drop exchangeId).fired id = s.fired id + if exchangeId = id then 1 else 0 := by
  by_cases hid : exchangeId = id
  · simp [fired, drop, note, hid]
  · simp [fired, drop, note, hid]

/-- A websocket update of a position that has ended. -/
theorem onWs_closes (s : PositionSyncService) (id : PyStr) (around : Surroundings) {data : PyValue}
    (hparse : parseRestPosition around.py around.wallet data = some pos)
    (hqty : PyFloat.le pos.qty (.fin 0) = true) :
    ((s.onWsPositionUpdate around data).Registered id ↔ s.Registered id ∧ id ≠ pos.exchangeId) ∧
      (s.onWsPositionUpdate around data).fired id = s.fired id +
        if s.Registered pos.exchangeId ∧ pos.exchangeId = id then 1 else 0 := by
  have hnote : (s.note (.received pos)).fired id = s.fired id := fired_note _ (by simp)
  simp only [onWsPositionUpdate, hparse, hqty, if_true]
  by_cases hregistered : s.Registered pos.exchangeId
  · have hsome : (s.positions.get? pos.exchangeId).isSome = true := hregistered
    rw [if_pos hsome, registered_drop, fired_drop, hnote]
    exact ⟨Iff.rfl, by simp [hregistered]⟩
  · have hnone : ¬ (s.positions.get? pos.exchangeId).isSome = true := hregistered
    rw [if_neg hnone, hnote]
    constructor
    · constructor
      · intro hid
        exact ⟨hid, fun heq => hregistered (heq ▸ hid)⟩
      · exact fun hid => hid.1
    · simp [hregistered]

/-- A websocket update of a position that is open. -/
theorem onWs_opens (s : PositionSyncService) (id : PyStr) (around : Surroundings) {data : PyValue}
    (hparse : parseRestPosition around.py around.wallet data = some pos)
    (hqty : PyFloat.le pos.qty (.fin 0) = false) :
    ((s.onWsPositionUpdate around data).Registered id ↔ s.Registered id ∨ id = pos.exchangeId) ∧
      (s.onWsPositionUpdate around data).fired id = s.fired id := by
  simp only [onWsPositionUpdate, hparse, hqty]
  rw [if_neg (by simp), registered_upsert, fired_upsert, fired_note _ (by simp)]
  exact ⟨Iff.rfl, rfl⟩

end PositionSyncService

/-! ## What a step keeps -/

/-- What a phase asks of a position, in the registry and at the exchange. -/
def ReconcilePhase.Allows (py : Interpreter) (id : PyStr) (registered opened : Prop) :
    ReconcilePhase → Prop
  | .idle => registered ↔ opened
  | .upserting fetched rows live => (opened → registered ∨ RowsOpen py rows id) ∧
      (registered → opened ∨ id ∉ live ∧ fetched = true)
  | .removing fetched ids => (opened → registered) ∧
      (registered → opened ∨ id ∈ ids ∧ fetched = true)

/-- No phase objects to a position that is registered if it is open. -/
theorem ReconcilePhase.allows_of_iff {py : Interpreter} {id : PyStr} {registered opened : Prop}
    (phase : ReconcilePhase) (h : registered ↔ opened) : phase.Allows py id registered opened := by
  cases phase with
  | idle => exact h
  | upserting fetched rows live =>
      exact ⟨fun hopen => Or.inl (h.mpr hopen), fun hregistered => Or.inl (h.mp hregistered)⟩
  | removing fetched ids =>
      exact ⟨h.mpr, fun hregistered => Or.inl (h.mp hregistered)⟩

/-- A report on one position leaves the others as they were. -/
theorem Exchange.report_of_ne (exchange : Exchange) {exchangeId id : PyStr} (h : id ≠ exchangeId)
    (opened : Bool) :
    (exchange.report (Function.update exchange.opened exchangeId opened)).opened id =
        exchange.opened id ∧
      (exchange.report (Function.update exchange.opened exchangeId opened)).ended id =
        exchange.ended id := by
  simp [Exchange.report, Function.update_of_ne h]

/-- What is heard of a position that is not open, and that it has ended, is
known. -/
theorem Exchange.report_closed (exchange : Exchange) {exchangeId : PyStr}
    (h : exchange.opened exchangeId = false) :
    exchange.report (Function.update exchange.opened exchangeId false) = exchange := by
  have hsame : Function.update exchange.opened exchangeId false = exchange.opened := by
    rw [← h, Function.update_eq_self]
  rw [hsame]
  simp [Exchange.report]

/-- The report of an update that can be read. -/
theorem Exchange.hear_of_amount (exchange : Exchange) {py : Interpreter} {data : PyValue}
    {exchangeId : PyStr} {qty : PyFloat} (h : rowAmount py data = some (exchangeId, qty)) : exchange.hear py data =
      exchange.report (Function.update exchange.opened exchangeId (decide (qty ≠ .fin 0))) := by
  simp [Exchange.hear, h]

namespace SyncSystem

variable {py : Interpreter} {s : SyncSystem}

/-- The books of one position: each end has been reported, or is about to be. -/
structure Settled (py : Interpreter) (s : SyncSystem) (id : PyStr) : Prop where
  ended : s.exchange.ended id = s.service.fired id +
    if s.service.Registered id ∧ s.exchange.opened id = false then 1 else 0
  allows : s.phase.Allows py id (s.service.Registered id) (s.exchange.opened id = true)

/-- The books of a position that a step does not touch. -/
theorem Settled.of_eq {s' : SyncSystem} {id : PyStr} (h : s.Settled py id)
    (hended : s'.exchange.ended id = s.exchange.ended id)
    (hopened : s'.exchange.opened id = s.exchange.opened id)
    (hfired : s'.service.fired id = s.service.fired id)
    (hregistered : s'.service.Registered id ↔ s.service.Registered id)
    (hallows : s.phase.Allows py id (s.service.Registered id) (s.exchange.opened id = true) →
      s'.phase.Allows py id (s.service.Registered id) (s.exchange.opened id = true)) :
    s'.Settled py id := by
  constructor
  · simp only [hended, hfired, hopened, hregistered]
    exact h.ended
  · rw [hopened, propext hregistered]
    exact hallows h.allows

/-- The books of a position that is registered and open, or neither. -/
theorem Settled.of_iff {s' : SyncSystem} {id : PyStr}
    (hended : s'.exchange.ended id = s'.service.fired id)
    (hregistered : s'.service.Registered id ↔ s'.exchange.opened id = true) : s'.Settled py id := by
  constructor
  · have hneither : ¬ (s'.service.Registered id ∧ s'.exchange.opened id = false) := by
      rw [hregistered]
      simp
    rw [if_neg hneither]
    exact hended
  · exact s'.phase.allows_of_iff hregistered

/-- A list of the exchange arrives, or none. -/
theorem Settled.fetch (h : ∀ id, s.Settled py id) (hidle : s.phase = .idle)
    (rest : Option RestClient) (id : PyStr) : (s.fetch py rest).Settled py id := by
  obtain ⟨hended, hallows⟩ := h id
  rw [hidle] at hallows
  have hiff : s.service.Registered id ↔ s.exchange.opened id = true := hallows
  cases hrows : fetchedRows rest with
  | none =>
      constructor
      · simpa [SyncSystem.fetch, hrows] using hended
      · simp only [SyncSystem.fetch, hrows]
        exact ReconcilePhase.allows_of_iff _ hiff
  | some rows =>
      have hfetched : fetchPositionsRest rest = rows := by
        simp [fetchPositionsRest_eq, hrows]
      constructor
      · simp only [SyncSystem.fetch, hrows, Exchange.report, hended, hiff]
        by_cases hopen : s.exchange.opened id = true
        · simp [hopen]
        · simp [hopen]
      · simp only [SyncSystem.fetch, hrows, hfetched, Exchange.report]
        constructor
        · intro hopen
          exact Or.inr (by simpa using hopen)
        · intro _
          simp

/-- A row that is there for a position of the exchange. -/
theorem Settled.upsertRow (h : ∀ id, s.Settled py id) {fetched : Bool} {raw : PyValue}
    {rest : List PyValue} {live : List PyStr}
    (hphase : s.phase = .upserting fetched (raw :: rest) live) {wallet : Option (PyStr → Bool)}
    {cb : Callbacks} (hok : s.RowOk py raw wallet cb) (id : PyStr) :
    (s.upsertRow py fetched raw rest live wallet cb).Settled py id := by
  obtain ⟨hended, hallows⟩ := h id
  rw [hphase] at hallows
  obtain ⟨hleft, hseen⟩ := hallows
  unfold RowOk at hok
  cases hparse : parseRestPosition py wallet raw with
  | none =>
      simp only [hparse] at hok
      simp only [SyncSystem.upsertRow, hparse]
      refine ⟨hended, ?_, hseen⟩
      intro hopen
      rcases hleft hopen with hregistered | ⟨row, hrow, hopens⟩
      · exact Or.inl hregistered
      · rcases List.mem_cons.mp hrow with rfl | hrow
        · obtain ⟨qty, hamount, -⟩ := hopens
          have hclosed := hok (id, qty) hamount
          rw [hopen] at hclosed
          cases hclosed
        · exact Or.inr ⟨row, hrow, hopens⟩
  | some pos =>
      simp only [hparse] at hok
      obtain ⟨hopened, hlast⟩ := hok
      have hamount := rowAmount_of_parse hparse
      have hfired : ((s.service.note (.received pos)).upsert cb pos).1.fired id =
          s.service.fired id := by
        rw [PositionSyncService.fired_upsert, PositionSyncService.fired_note _ (by simp)]
      have hregistered : ((s.service.note (.received pos)).upsert cb pos).1.Registered id ↔
          s.service.Registered id ∨ id = pos.exchangeId := PositionSyncService.registered_upsert
      simp only [SyncSystem.upsertRow, hparse]
      generalize (s.service.note (.received pos)).upsert cb pos = upserted at hlast hfired hregistered
      obtain ⟨service, raised⟩ := upserted
      dsimp only at hlast hfired hregistered ⊢
      constructor
      · dsimp only
        rw [hended, hfired]
        by_cases hid : id = pos.exchangeId
        · simp [hid, hopened]
        · simp [hregistered, hid]
      · dsimp only
        cases raised with
        | true =>
            rw [if_pos rfl]
            exact hregistered.trans (hlast rfl id)
        | false =>
            rw [if_neg (by simp)]
            by_cases hid : id = pos.exchangeId
            · apply ReconcilePhase.allows_of_iff
              rw [hregistered]
              simp [hid, hopened]
            · constructor
              · intro hopen
                rcases hleft hopen with hold | ⟨row, hrow, hopens⟩
                · exact Or.inl (hregistered.mpr (Or.inl hold))
                · rcases List.mem_cons.mp hrow with rfl | hrow
                  · obtain ⟨qty, hamount', -⟩ := hopens
                    rw [hamount] at hamount'
                    simp only [Option.some.injEq, Prod.mk.injEq] at hamount'
                    exact absurd hamount'.1.symm hid
                  · exact Or.inr ⟨row, hrow, hopens⟩
              · intro hnow
                have hold := (hregistered.mp hnow).resolve_right hid
                rcases hseen hold with hopen | ⟨hnew, hfetched⟩
                · exact Or.inl hopen
                · exact Or.inr ⟨by simp [hnew, hid], hfetched⟩

/-- The stale ids are those that are registered and have not been seen. -/
theorem Settled.findStale (h : ∀ id, s.Settled py id) {fetched : Bool} {live : List PyStr}
    (hphase : s.phase = .upserting fetched [] live) (id : PyStr) :
    (s.findStale fetched live).Settled py id := by
  obtain ⟨hended, hallows⟩ := h id
  rw [hphase] at hallows
  obtain ⟨hleft, hseen⟩ := hallows
  refine ⟨hended, ?_, ?_⟩
  · intro hopen
    rcases hleft hopen with hregistered | ⟨row, hrow, -⟩
    · exact hregistered
    · cases hrow
  · intro hregistered
    rcases hseen hregistered with hopen | ⟨hnew, hfetched⟩
    · exact Or.inl hopen
    · have hkey : id ∈ s.service.positions.keys :=
        (Dict.lookupIn_isSome_iff id s.service.positions.entries).mp hregistered
      exact Or.inr ⟨List.mem_filter.mpr ⟨hkey, by simpa using hnew⟩, hfetched⟩

/-- A stale id that is still registered, and has ended. -/
theorem Settled.removeStale (h : ∀ id, s.Settled py id) {fetched : Bool} {exchangeId : PyStr}
    {rest : List PyStr} (hphase : s.phase = .removing fetched (exchangeId :: rest))
    {closedRaises : Bool} (hok : s.RemovalOk exchangeId closedRaises) (id : PyStr) :
    (s.removeStale fetched exchangeId rest closedRaises).Settled py id := by
  obtain ⟨hended, hallows⟩ := h id
  rw [hphase] at hallows
  obtain ⟨hopen, hstale⟩ := hallows
  obtain ⟨hregistered, hclosed, hlast⟩ := hok
  by_cases hid : exchangeId = id
  · subst hid
    apply Settled.of_iff
    · simp only [SyncSystem.removeStale, PositionSyncService.fired_drop, if_true]
      simpa [hregistered, hclosed] using hended
    · simp [SyncSystem.removeStale, PositionSyncService.registered_drop, hclosed]
  · apply Settled.of_eq (h id)
    · rfl
    · rfl
    · simp [SyncSystem.removeStale, PositionSyncService.fired_drop, hid]
    · simp [SyncSystem.removeStale, PositionSyncService.registered_drop, Ne.symm hid]
    · intro _
      unfold SyncSystem.removeStale
      cases closedRaises with
      | true =>
          simp only [if_true]
          exact ⟨fun hreg => hlast rfl id hreg (Ne.symm hid), hopen⟩
      | false =>
          refine ⟨hopen, fun hreg => ?_⟩
          rcases hstale hreg with hopened | ⟨hmem, hfetched⟩
          · exact Or.inl hopened
          · rcases List.mem_cons.mp hmem with rfl | hmem
            · exact absurd rfl hid
            · exact Or.inr ⟨hmem, hfetched⟩

section Hear

variable {data : PyValue} {wallet : Option (PyStr → Bool)} {cb : Callbacks} {pos : ExternalPosition}

/-- An update that the service cannot parse, of a position that is not open. -/
theorem Settled.hear_ignored (h : ∀ id, s.Settled py id) (hok : s.WsOk py data wallet)
    (hparse : parseRestPosition py wallet data = none) (id : PyStr) :
    (s.hear py data wallet cb).Settled py id := by
  have hexchange : s.exchange.hear py data = s.exchange := by
    cases hamount : rowAmount py data with
    | none => simp [Exchange.hear, hamount]
    | some row =>
        have hhere := hok row.1 row.2 hamount
        by_cases hzero : row.2 = .fin 0
        · have hclosed : s.exchange.opened row.1 = false := by
            simpa [hzero, hparse] using hhere
          rw [s.exchange.hear_of_amount hamount]
          simpa [hzero] using s.exchange.report_closed hclosed
        · simp [hzero, hparse] at hhere
  have hsame : s.hear py data wallet cb = s := by
    simp [SyncSystem.hear, PositionSyncService.onWsPositionUpdate, hparse, hexchange]
  rw [hsame]
  exact h id

/-- An update that ends a position. -/
theorem Settled.hear_closes (h : ∀ id, s.Settled py id) (hok : s.WsOk py data wallet)
    (hparse : parseRestPosition py wallet data = some pos) (hqty : pos.qty = .fin 0) (id : PyStr) :
    (s.hear py data wallet cb).Settled py id := by
  have hamount := rowAmount_of_parse hparse
  have hreport : s.exchange.hear py data =
      s.exchange.report (Function.update s.exchange.opened pos.exchangeId false) := by
    simpa [hqty] using s.exchange.hear_of_amount hamount
  have hopen : s.exchange.opened pos.exchangeId = true → s.service.Registered pos.exchangeId := by
    have hhere := hok pos.exchangeId pos.qty hamount
    rw [if_pos hqty] at hhere
    exact fun hopened => (hhere hopened).1
  obtain ⟨hregistered, hfired⟩ :=
    s.service.onWs_closes id ⟨py, wallet, fun _ => cb, fun _ => false⟩ hparse (by simp [hqty])
  by_cases hid : id = pos.exchangeId
  · subst hid
    apply Settled.of_iff
    · simp only [SyncSystem.hear, hreport, hfired, Exchange.report, (h pos.exchangeId).ended]
      by_cases hreg : s.service.Registered pos.exchangeId
      · cases hopened : s.exchange.opened pos.exchangeId <;> simp [hreg]
      · cases hopened : s.exchange.opened pos.exchangeId with
        | true => exact absurd (hopen hopened) hreg
        | false => simp [hreg]
    · simp [SyncSystem.hear, hreport, hregistered, Exchange.report]
  · obtain ⟨hopened, hended⟩ := s.exchange.report_of_ne hid false
    apply Settled.of_eq (h id)
    · simp only [SyncSystem.hear, hreport, hended]
    · simp only [SyncSystem.hear, hreport, hopened]
    · simp [SyncSystem.hear, hfired, Ne.symm hid]
    · simp [SyncSystem.hear, hregistered, hid]
    · exact fun hallows => hallows

/-- An update that shows a position open. -/
theorem Settled.hear_opens (h : ∀ id, s.Settled py id) (hok : s.WsOk py data wallet)
    (hparse : parseRestPosition py wallet data = some pos) (hqty : pos.qty ≠ .fin 0) (id : PyStr) :
    (s.hear py data wallet cb).Settled py id := by
  have hamount := rowAmount_of_parse hparse
  have hreport : s.exchange.hear py data =
      s.exchange.report (Function.update s.exchange.opened pos.exchangeId true) := by
    simpa [hqty] using s.exchange.hear_of_amount hamount
  have hhere := hok pos.exchangeId pos.qty hamount
  rw [if_neg hqty] at hhere
  obtain ⟨hpositive, -, hknown⟩ := hhere
  obtain ⟨hregistered, hfired⟩ :=
    s.service.onWs_opens id ⟨py, wallet, fun _ => cb, fun _ => false⟩ hparse hpositive
  by_cases hid : id = pos.exchangeId
  · subst hid
    apply Settled.of_iff
    · simp only [SyncSystem.hear, hreport, hfired, Exchange.report, (h pos.exchangeId).ended]
      by_cases hreg : s.service.Registered pos.exchangeId
      · simp [hreg, hknown hreg]
      · simp [hreg]
    · simp [SyncSystem.hear, hreport, hregistered, Exchange.report]
  · obtain ⟨hopened, hended⟩ := s.exchange.report_of_ne hid true
    apply Settled.of_eq (h id)
    · simp only [SyncSystem.hear, hreport, hended]
    · simp only [SyncSystem.hear, hreport, hopened]
    · simp [SyncSystem.hear, hfired]
    · simp [SyncSystem.hear, hregistered, hid]
    · exact fun hallows => hallows

/-- An update that the service takes for what it is. -/
theorem Settled.hear (h : ∀ id, s.Settled py id) (hok : s.WsOk py data wallet) (id : PyStr) :
    (s.hear py data wallet cb).Settled py id := by
  cases hparse : parseRestPosition py wallet data with
  | none => exact Settled.hear_ignored h hok hparse id
  | some pos =>
      by_cases hqty : pos.qty = .fin 0
      · exact Settled.hear_closes h hok hparse hqty id
      · exact Settled.hear_opens h hok hparse hqty id

end Hear

/-! ## Runs -/

/-- What a run keeps true: the books are settled, and nothing was removed for a
fetch that failed. -/
structure Sound (py : Interpreter) (s : SyncSystem) : Prop where
  settled : ∀ id, s.Settled py id
  unfounded : s.unfounded = 0

/-- After a fetch that failed nothing can be removed. -/
theorem Sound.removeStale (h : s.Sound py) {fetched : Bool} {exchangeId : PyStr}
    {rest : List PyStr} (hphase : s.phase = .removing fetched (exchangeId :: rest))
    {closedRaises : Bool} (hok : s.RemovalOk exchangeId closedRaises) :
    (s.removeStale fetched exchangeId rest closedRaises).Sound py := by
  constructor
  · exact Settled.removeStale h.settled hphase hok
  · have hallows := (h.settled exchangeId).allows
    rw [hphase] at hallows
    obtain ⟨hregistered, hclosed, -⟩ := hok
    rcases hallows.2 hregistered with hopen | ⟨-, hfetched⟩
    · rw [hclosed] at hopen
      cases hopen
    · simpa [SyncSystem.removeStale, hfetched] using h.unfounded

theorem Sound.step (h : s.Sound py) {a : SyncStep} (hok : s.Ok py a) : (s.step py a).Sound py := by
  cases a with
  | fetch rest =>
      cases hphase : s.phase with
      | idle => simpa [SyncSystem.step, hphase] using
          (⟨Settled.fetch h.settled hphase rest, h.unfounded⟩ : (s.fetch py rest).Sound py)
      | upserting fetched rows live => simpa [SyncSystem.step, hphase] using h
      | removing fetched ids => simpa [SyncSystem.step, hphase] using h
  | upsertNext wallet cb =>
      cases hphase : s.phase with
      | idle => simpa [SyncSystem.step, hphase] using h
      | removing fetched ids => simpa [SyncSystem.step, hphase] using h
      | upserting fetched rows live =>
          cases rows with
          | nil =>
              simp only [SyncSystem.step, hphase]
              exact ⟨Settled.findStale h.settled hphase, h.unfounded⟩
          | cons raw rest =>
              have hrow := hok raw (by simp [hphase, ReconcilePhase.row?])
              simp only [SyncSystem.step, hphase]
              refine ⟨Settled.upsertRow h.settled hphase hrow, ?_⟩
              unfold SyncSystem.upsertRow
              split
              · exact h.unfounded
              · exact h.unfounded
  | removeNext closedRaises =>
      cases hphase : s.phase with
      | idle => simpa [SyncSystem.step, hphase] using h
      | upserting fetched rows live => simpa [SyncSystem.step, hphase] using h
      | removing fetched ids =>
          cases ids with
          | nil =>
              simp only [SyncSystem.step, hphase]
              refine ⟨fun id => ?_, h.unfounded⟩
              have hallows := (h.settled id).allows
              rw [hphase] at hallows
              apply Settled.of_eq (h.settled id)
              · rfl
              · rfl
              · rfl
              · exact Iff.rfl
              · intro _
                constructor
                · intro hregistered
                  rcases hallows.2 hregistered with hopen | ⟨hmem, -⟩
                  · exact hopen
                  · cases hmem
                · exact hallows.1
          | cons exchangeId rest =>
              have hremoval := hok exchangeId (by simp [hphase, ReconcilePhase.stale?])
              simp only [SyncSystem.step, hphase]
              exact h.removeStale hphase hremoval
  | wsPositionUpdate data wallet cb => exact ⟨Settled.hear h.settled hok, h.unfounded⟩

theorem Sound.tracks (h : s.Sound py) : s.Tracks where
  fired_le := by
    intro id
    have hended := (h.settled id).ended
    omega
  unfounded := h.unfounded
  fired := by
    intro hidle id
    have hended := (h.settled id).ended
    have hallows := (h.settled id).allows
    rw [hidle] at hallows
    have hiff : s.service.Registered id ↔ s.exchange.opened id = true := hallows
    have hneither : ¬ (s.service.Registered id ∧ s.exchange.opened id = false) := by
      rw [hiff]
      simp
    rw [if_neg hneither] at hended
    exact hended.symm
  registered := by
    intro hidle id
    have hallows := (h.settled id).allows
    rw [hidle] at hallows
    exact hallows

theorem sound_start (py : Interpreter) : Sound py {} := by
  refine ⟨fun id => Settled.of_iff rfl ?_, rfl⟩
  simp [PositionSyncService.Registered]

/-- In every run that meets the conditions the registry tracks the exchange. -/
theorem tracks_of_reaches (h : Reaches (step py) (Ok py) {} s) : s.Tracks :=
  (h.invariant (sound_start py) (fun _ _ hs ha => hs.step ha)).tracks

/-! ### A fetch that fails -/

def demoInterpreter : Interpreter := (PositionSyncService.demoAround .unwired).py

def demoCallbacks : Callbacks := ⟨0, false, false, .observer false⟩

/-- A list of the exchange with one position. -/
def demoFetch : SyncStep :=
  .fetch (some { getPositions := some (.ok [PositionSyncService.demoRow "LONG" 1 (.int 90)]) })

/-- The position is listed, and then ends. -/
def demoEnds : List SyncStep :=
  [demoFetch, .upsertNext none demoCallbacks, .upsertNext none demoCallbacks, .removeNext false,
    .wsPositionUpdate (PositionSyncService.demoRow "LONG" 0 (.int 90)) none demoCallbacks]

/-- A position that is open when the client raises. -/
def demoFailedFetch : List SyncStep :=
  [.wsPositionUpdate (PositionSyncService.demoRow "LONG" 1 (.int 90)) none demoCallbacks,
    .fetch (some { getPositions := some (.error "timeout") }), .upsertNext none demoCallbacks,
    .removeNext false]

/-- A row whose callbacks do not raise. -/
theorem rowOk_of_parse {raw : PyValue} {wallet : Option (PyStr → Bool)} {cb : Callbacks}
    {pos : ExternalPosition} (hparse : parseRestPosition py wallet raw = some pos)
    (hopened : s.exchange.opened pos.exchangeId = true)
    (hquiet : ((s.service.note (.received pos)).upsert cb pos).2 = false) :
    s.RowOk py raw wallet cb := by
  simp [RowOk, hparse, hopened, hquiet]

theorem ok_of_no_row {wallet : Option (PyStr → Bool)} {cb : Callbacks}
    (h : s.phase.row?.isNone = true) : s.Ok py (.upsertNext wallet cb) := by
  intro raw hraw
  rw [Option.isNone_iff_eq_none.mp h] at hraw
  cases hraw

theorem ok_of_none_stale {closedRaises : Bool} (h : s.phase.stale?.isNone = true) :
    s.Ok py (.removeNext closedRaises) := by
  intro exchangeId hid
  rw [Option.isNone_iff_eq_none.mp h] at hid
  cases hid

def demoPosition : ExternalPosition where
  exchangeId := .text "p"
  symbol := .text "BTCUSDT"
  side := .long
  qty := .fin 1
  entryPrice := .fin 100
  leverage := 10
  ltp := .fin 100
  unrealizedPnl := .fin 0
  stopLoss := some (.fin 90)
  takeProfit := some (.fin 120)
  source := .manual
  syncState := .synced
  marginUsed := .fin 0

theorem demoFetch_rowOk : (step demoInterpreter {} demoFetch).RowOk demoInterpreter
    (PositionSyncService.demoRow "LONG" 1 (.int 90)) none demoCallbacks := by
  have hparse : parseRestPosition demoInterpreter none
      (PositionSyncService.demoRow "LONG" 1 (.int 90)) = some demoPosition := by decide +kernel
  have hopened : (step demoInterpreter {} demoFetch).exchange.opened demoPosition.exchangeId =
      true := by decide +kernel
  have hquiet : (((step demoInterpreter {} demoFetch).service.note
      (.received demoPosition)).upsert demoCallbacks demoPosition).2 = false := by decide +kernel
  exact rowOk_of_parse hparse hopened hquiet

theorem demoEnds_tracks : (demoEnds.foldl (step demoInterpreter) {}).Tracks := by
  apply tracks_of_reaches
  apply Reaches.start.foldl demoEnds
  refine ⟨trivial, ?_, ?_, ?_, ?_, trivial⟩
  · intro raw hraw
    cases hraw
    exact demoFetch_rowOk
  · exact ok_of_no_row (by decide +kernel)
  · exact ok_of_none_stale (by decide +kernel)
  · intro exchangeId qty hamount
    have hrow : some (exchangeId, qty) = some (.text "p", .fin 0) := by
      rw [← hamount]
      decide +kernel
    simp only [Option.some.injEq, Prod.mk.injEq] at hrow
    obtain ⟨rfl, rfl⟩ := hrow
    decide +kernel

/-- The position is taken for closed. -/
theorem not_demoFailedFetch_tracks : ¬ ∀ (py : Interpreter) (steps : List SyncStep),
    (steps.foldl (step py) {}).Tracks := by
  intro h
  have hfired := (h demoInterpreter demoFailedFetch).fired_le (.text "p")
  exact absurd hfired (by decide +kernel)

end SyncSystem

end CryptoTrader.Sync
