import CryptoTrader.Lib.Dict
import CryptoTrader.Management.Protection

/-!
# The position sync service

`PositionSyncService` of `position_management/sync_service.py`, with the
callback `_on_protection_required` of `position_management/__init__.py`.  Beside
the registry, the state keeps what has happened: the records received, the
requests for protection, the attempts of the protection manager, and the
positions dropped.
-/

namespace CryptoTrader.Sync

open CryptoTrader.Lib

/-! ## The records -/

/-- The interpreter, with `int` of a string. -/
structure Interpreter extends Python where
  int : String → Option ℤ

/-- `raw.get(key, default)`. -/
def getD (fields : List (String × PyValue)) (key : String) (default : PyValue) : PyValue :=
  (PyValue.lookup fields key).getD default

/-- `raw.get(key)`. -/
def get (fields : List (String × PyValue)) (key : String) : PyValue := getD fields key .none

/-- `_classify_source`; `wallet` says for which symbols it has an open position. -/
def classifySource (wallet : Option (PyStr → Bool)) (symbol : PyStr) : PositionSource :=
  match wallet with
  | none => .manual
  | some hasOpen => if hasOpen symbol then .bot else .manual

/-- The side a text stands for: all but `LONG` and `BUY` is short. -/
def parseSide : PyStr → PositionSide
  | .text s => if s.toUpper ∈ ["LONG", "BUY"] then .long else .short
  | .surrogates _ => .short

/-- `float(v) if v else None`. -/
def parseLevel (py : Interpreter) (v : PyValue) : Option (Option PyFloat) :=
  if v.truthy then (v.toFloat py.float).map some else some none

/-- `_parse_rest_position`; nothing where it raises. -/
def parseRestPosition (py : Interpreter) (wallet : Option (PyStr → Bool)) :
    PyValue → Option ExternalPosition
  | .dict raw => do
      let exchangeId := ((get raw "id").orElse
        ((get raw "positionId").orElse (getD raw "position_id" (.str "")))).toStr py.toPython
      let symbol := ((get raw "symbol").orElse (getD raw "pair" (.str ""))).toStr py.toPython
      let sideRaw := ((get raw "positionSide").orElse (getD raw "side" (.str ""))).toStr py.toPython
      let side := parseSide sideRaw
      let qty ← ((get raw "positionAmt").orElse
        ((get raw "quantity").orElse (getD raw "qty" (.int 0)))).toFloat py.float
      let entry ← ((get raw "entryPrice").orElse
        (getD raw "entry_price" (.int 0))).toFloat py.float
      let leverage ← (getD raw "leverage" (.int 1)).toInt py.int
      let ltp ← ((get raw "markPrice").orElse
        ((get raw "ltp").orElse (getD raw "mark_price" (.float entry)))).toFloat py.float
      let upnl ← ((get raw "unRealizedProfit").orElse
        (getD raw "unrealized_pnl" (.int 0))).toFloat py.float
      let sl := (get raw "stopLossPrice").orElse
        ((get raw "stop_loss_price").orElse (get raw "stop_loss"))
      let tp := (get raw "takeProfitPrice").orElse
        ((get raw "take_profit_price").orElse (get raw "take_profit"))
      let margin ← ((get raw "initialMargin").orElse
        ((get raw "margin_used").orElse (getD raw "margin" (.int 0)))).toFloat py.float
      let stopLoss ← parseLevel py sl
      let takeProfit ← parseLevel py tp
      pure {
        exchangeId := exchangeId
        symbol := symbol
        side := side
        qty := qty
        entryPrice := entry
        leverage := leverage
        ltp := ltp
        unrealizedPnl := upnl
        stopLoss := stopLoss
        takeProfit := takeProfit
        source := classifySource wallet symbol
        syncState := .synced
        marginUsed := margin }
  | _ => none

/-- The REST client, with what each method does, where it has it. -/
structure RestClient where
  getFuturesPositions : Option (Except String (List PyValue)) := none
  getPositions : Option (Except String (List PyValue)) := none

/-- `_fetch_positions_rest`: an error is an empty list. -/
def fetchPositionsRest : Option RestClient → List PyValue
  | none => []
  | some rest =>
      match rest.getFuturesPositions.or rest.getPositions with
      | some (.ok raws) => raws
      | _ => []

/-! ## The service -/

/-- What happens at the service. -/
inductive Moment where
  | received (pos : ExternalPosition)
  | required (exchangeId : PyStr)
  | attempted (exchangeId : PyStr) (orders : List Placement)
  | dropped (exchangeId : PyStr)
  deriving DecidableEq

/-- The position it happens to. -/
def Moment.exchangeId : Moment → PyStr
  | .received pos => pos.exchangeId
  | .required exchangeId | .attempted exchangeId _ | .dropped exchangeId => exchangeId

structure PositionSyncService where
  positions : Dict PyStr ExternalPosition := .empty
  history : List Moment := []

/-- `on_protection_required`: not wired, a callback that only looks, or
`PositionManager._on_protection_required`. -/
inductive ProtectionHandler where
  | unwired
  | observer (raises : Bool)
  | manager (pm : ProtectionManager)

/-- The callbacks as they answer the upsert of one record; those that only look
may raise. -/
structure Callbacks where
  nowMs : ℕ
  newPositionRaises : Bool
  positionUpdateRaises : Bool
  protectionRequired : ProtectionHandler

/-- What surrounds one event: the interpreter, the open positions of the
wallet, the callbacks at the upsert of each row, and whether
`on_position_closed` raises. -/
structure Surroundings where
  py : Interpreter
  wallet : Option (PyStr → Bool)
  callbacks : ℕ → Callbacks
  closedRaises : PyStr → Bool

/-- The records of some rows. -/
def Surroundings.records (around : Surroundings) (raws : List PyValue) : List ExternalPosition :=
  raws.filterMap (parseRestPosition around.py around.wallet)

/-- `incoming.last_synced_ms`, set by `_upsert`. -/
def ExternalPosition.syncedAt (pos : ExternalPosition) (nowMs : ℕ) : ExternalPosition :=
  { pos with lastSyncedMs := nowMs }

/-- What `_upsert` copies into the position that is there. -/
def ExternalPosition.refresh (existing incoming : ExternalPosition) : ExternalPosition :=
  { existing with
    qty := incoming.qty
    ltp := incoming.ltp
    unrealizedPnl := incoming.unrealizedPnl
    stopLoss := incoming.stopLoss
    takeProfit := incoming.takeProfit
    marginUsed := incoming.marginUsed
    lastSyncedMs := incoming.lastSyncedMs
    syncState := if existing.syncState = .new then .synced else existing.syncState }

namespace PositionSyncService

variable (s : PositionSyncService)

def note (moment : Moment) : PositionSyncService := { s with history := s.history ++ [moment] }

def put (pos : ExternalPosition) : PositionSyncService :=
  { s with positions := s.positions.set pos.exchangeId pos }

/-- The call of `on_protection_required`, and whether it raises. -/
def requireProtection (handler : ProtectionHandler) (pos : ExternalPosition) :
    PositionSyncService × Bool :=
  match handler with
  | .unwired => (s, false)
  | .observer raises => (s.note (.required pos.exchangeId), raises)
  | .manager pm =>
      let (assessed, result, orders) := pm.assessAndProtect pos
      let after := if result.error.isSome then assessed
        else { assessed with syncState := .protected_ }
      (((s.note (.required pos.exchangeId)).put after).note (.attempted pos.exchangeId orders), false)

/-- `_upsert`, and whether a callback raises. -/
def upsert (cb : Callbacks) (pos : ExternalPosition) : PositionSyncService × Bool :=
  let incoming := pos.syncedAt cb.nowMs
  match s.positions.get? incoming.exchangeId with
  | none =>
      let inserted := s.put incoming
      if cb.newPositionRaises then (inserted, true)
      else if ¬ incoming.hasStopLoss ∨ ¬ incoming.hasTakeProfit then
        inserted.requireProtection cb.protectionRequired incoming
      else (inserted, false)
  | some existing =>
      ({ s with positions := s.positions.set incoming.exchangeId (existing.refresh incoming) },
        cb.positionUpdateRaises)

/-- The rows of a response, upserted from the `n`th on, and whether a callback
raised; the rows after it are received but not looked at. -/
def upsertRows (around : Surroundings) :
    ℕ → List PyValue → PositionSyncService → PositionSyncService × Bool
  | _, [], s => (s, false)
  | n, raw :: rest, s =>
      match parseRestPosition around.py around.wallet raw with
      | none => upsertRows around (n + 1) rest s
      | some pos =>
          match (s.note (.received pos)).upsert (around.callbacks n) pos with
          | (after, true) => ((around.records rest).foldl (fun s pos => s.note (.received pos)) after, true)
          | (after, false) => upsertRows around (n + 1) rest after

/-- `_bootstrap_rest`. -/
def bootstrapRest (around : Surroundings) (rest : Option RestClient) : PositionSyncService :=
  match rest with
  | none => s
  | some client => (upsertRows around 0 (fetchPositionsRest (some client)) s).1

/-- Forget a position. -/
def drop (exchangeId : PyStr) : PositionSyncService :=
  { s with positions := s.positions.erase exchangeId }.note (.dropped exchangeId)

/-- The removal of the stale positions, up to one whose callback raises. -/
def dropStale (around : Surroundings) : List PyStr → PositionSyncService → PositionSyncService
  | [], s => s
  | exchangeId :: rest, s =>
      if around.closedRaises exchangeId then s.drop exchangeId else dropStale around rest (s.drop exchangeId)

/-- `_reconcile_once`. -/
def reconcileOnce (around : Surroundings) (rest : Option RestClient) : PositionSyncService :=
  let rows := fetchPositionsRest rest
  match upsertRows around 0 rows s with
  | (after, true) => after
  | (after, false) =>
      let live := (around.records rows).map ExternalPosition.exchangeId
      dropStale around (after.positions.keys.filter (fun exchangeId => exchangeId ∉ live)) after

/-- `on_ws_position_update`, which swallows what the callbacks raise. -/
def onWsPositionUpdate (around : Surroundings) (data : PyValue) : PositionSyncService :=
  match parseRestPosition around.py around.wallet data with
  | none => s
  | some pos =>
      let received := s.note (.received pos)
      if PyFloat.le pos.qty (.fin 0) then
        if (s.positions.get? pos.exchangeId).isSome then received.drop pos.exchangeId else received
      else (received.upsert (around.callbacks 0) pos).1

end PositionSyncService

/-! ## Runs -/

/-- An event, with what surrounds it. -/
inductive SyncEvent where
  | bootstrap (rest : Option RestClient)
  | reconcile (rest : Option RestClient)
  | wsPositionUpdate (data : PyValue)

def PositionSyncService.step (s : PositionSyncService) : SyncEvent × Surroundings → PositionSyncService
  | (.bootstrap rest, around) => s.bootstrapRest around rest
  | (.reconcile rest, around) => s.reconcileOnce around rest
  | (.wsPositionUpdate data, around) => s.onWsPositionUpdate around data

end CryptoTrader.Sync
