import Mathlib.Data.List.Sort
import CryptoTrader.Ledger.Service

/-!
# The position engine

`PositionEngine` of `ledger/position_engine.py` over the table `positions_v2`.
A row holds one position of a user; its status follows the state machine of
`_make_position_sm`.  The Postgres table checks the status and rounds numbers
to the decimals of its columns, the SQLite one does neither.

`playbook` and `strategy` are stored and never read, and are left out.
-/

namespace CryptoTrader

open CryptoTrader.Lib

/-! ## Lifecycle -/

/-- `status`: `open`, `reducing` and `closed`. -/
inductive LedgerPositionStatus where
  | opened
  | reducing
  | closed
  deriving DecidableEq, Repr

inductive PositionTrigger where
  | add
  | partialClose
  | fullClose
  deriving DecidableEq, Repr

/-- `_Transition`. -/
structure PositionTransition where
  fromState : LedgerPositionStatus
  toState : LedgerPositionStatus
  trigger : PositionTrigger
  deriving DecidableEq, Repr

/-- `_make_position_sm`. -/
def positionTransitions : List PositionTransition :=
  [⟨.opened, .opened, .add⟩, ⟨.opened, .reducing, .partialClose⟩,
    ⟨.reducing, .reducing, .partialClose⟩, ⟨.opened, .closed, .fullClose⟩,
    ⟨.reducing, .closed, .fullClose⟩]

/-- The state that `StateMachine.trigger` moves to; no transition matches where
`can_trigger` is false. -/
def LedgerPositionStatus.next? (status : LedgerPositionStatus) (trigger : PositionTrigger) :
    Option LedgerPositionStatus :=
  (positionTransitions.find? (fun t => t.fromState = status ∧ t.trigger = trigger)).map
    (fun t => t.toState)

/-! ## Positions -/

/-- `Position` of `ledger/models.py`. -/
structure LedgerPosition where
  positionUid : String
  userId : String
  venue : String
  symbol : String
  side : PositionSide
  qty : Decimal
  entryPriceAvg : Decimal
  leverage : ℤ
  markPrice : Option Decimal := none
  notional : Option Decimal := none
  initialMargin : Option Decimal := none
  maintenanceMargin : Option Decimal := none
  marginUsed : Option Decimal := none
  liquidationPrice : Option Decimal := none
  unrealizedPnl : Decimal := 0
  realizedPnl : Decimal := 0
  unrealizedPnlPct : Decimal := 0
  fundingAccrued : Decimal := 0
  feesAccrued : Decimal := 0
  tpPrice : Option Decimal := none
  slPrice : Option Decimal := none
  status : LedgerPositionStatus := .opened
  openedAt : ℤ
  closedAt : Option ℤ := none
  updatedAt : ℤ
  deriving DecidableEq, Repr

/-- `compute_liquidation_price`. -/
def computeLiquidationPrice (side : PositionSide) (entry : Decimal) (leverage : ℤ)
    (maintenanceMarginRate : Decimal) : Decimal :=
  let invLev := 1 / (leverage : Decimal)
  let denom := match side with
    | .long => 1 + invLev - maintenanceMarginRate
    | .short => 1 - invLev + maintenanceMarginRate
  if denom ≤ 0 then 0 else entry / denom

/-- `Position.refresh`. -/
def LedgerPosition.refresh (pos : LedgerPosition) (mark : Decimal) (now : ℤ) : LedgerPosition :=
  let entryMargin := pos.qty * pos.entryPriceAvg / pos.leverage
  let initialMargin := match pos.initialMargin with
    | none => entryMargin
    | some margin => if margin ≤ 0 then entryMargin else margin
  let unrealizedPnl := pos.side.gain pos.entryPriceAvg mark * pos.qty
  { pos with
    markPrice := some mark
    notional := some (pos.qty * mark)
    initialMargin := some initialMargin
    unrealizedPnl := unrealizedPnl
    unrealizedPnlPct :=
      if 0 < initialMargin then unrealizedPnl / initialMargin * 100 else pos.unrealizedPnlPct
    updatedAt := now }

/-- `PositionEngine`: the owner and the maintenance margin rate. -/
structure PositionEngine where
  userId : String
  maintenanceMarginRate : Decimal := 5 / 1000

/-- `_recalculate`. -/
def PositionEngine.recalculate (engine : PositionEngine) (pos : LedgerPosition) (mark : Decimal)
    (now : ℤ) : LedgerPosition :=
  let pos := pos.refresh mark now
  { pos with
    liquidationPrice := some (computeLiquidationPrice pos.side pos.entryPriceAvg pos.leverage
      engine.maintenanceMarginRate)
    maintenanceMargin := (pos.notional.filter (fun notional => notional ≠ 0)).map
      (fun notional => notional * engine.maintenanceMarginRate)
    marginUsed := pos.initialMargin }

/-! ## Rows -/

/-- The rows of `positions_v2`, oldest first. -/
abbrev PositionDb := List LedgerPosition

abbrev PositionM := EStateM PyErr PositionDb

/-- What a nullable column stores: `str(x) if x else None`. -/
def Backend.optionColumn (b : Backend) : Option Decimal → Except PyErr (Option Decimal)
  | none => .ok none
  | some x => if x = 0 then .ok none else (b.column x).map some

/-- The `NUMERIC(14,6)` column of `unrealized_pnl_pct`. -/
def Backend.pctColumn : Backend → Decimal → Except PyErr Decimal
  | .sqlite, x => .ok x
  | .postgres, x =>
      let stored := roundTo 6 x
      if 10 ^ 8 ≤ |stored| then .error (.databaseError "numeric field overflow") else .ok stored

/-- `CHECK (status IN ('open','closing','closed'))`. -/
def Backend.acceptsStatus : Backend → LedgerPositionStatus → Bool
  | .sqlite, _ => true
  | .postgres, status => status = .opened ∨ status = .closed

/-- The row that is stored for a position. -/
def Backend.positionRow (b : Backend) (pos : LedgerPosition) : Except PyErr LedgerPosition := do
  let qty ← b.column pos.qty
  let entryPriceAvg ← b.column pos.entryPriceAvg
  let markPrice ← b.optionColumn pos.markPrice
  let notional ← b.optionColumn pos.notional
  let initialMargin ← b.optionColumn pos.initialMargin
  let maintenanceMargin ← b.optionColumn pos.maintenanceMargin
  let marginUsed ← b.optionColumn pos.marginUsed
  let liquidationPrice ← b.optionColumn pos.liquidationPrice
  let unrealizedPnl ← b.column pos.unrealizedPnl
  let realizedPnl ← b.column pos.realizedPnl
  let unrealizedPnlPct ← b.pctColumn pos.unrealizedPnlPct
  let fundingAccrued ← b.column pos.fundingAccrued
  let feesAccrued ← b.column pos.feesAccrued
  let tpPrice ← b.optionColumn pos.tpPrice
  let slPrice ← b.optionColumn pos.slPrice
  if ¬ b.acceptsStatus pos.status then
    .error (.databaseError "positions_v2_status_check")
  else
    .ok { pos with
      qty := qty
      entryPriceAvg := entryPriceAvg
      markPrice := markPrice
      notional := notional
      initialMargin := initialMargin
      maintenanceMargin := maintenanceMargin
      marginUsed := marginUsed
      liquidationPrice := liquidationPrice
      unrealizedPnl := unrealizedPnl
      realizedPnl := realizedPnl
      unrealizedPnlPct := unrealizedPnlPct
      fundingAccrued := fundingAccrued
      feesAccrued := feesAccrued
      tpPrice := tpPrice
      slPrice := slPrice }

section Engine

variable (b : Backend) (engine : PositionEngine)

/-- `_insert_position`. -/
def insertPosition (pos : LedgerPosition) : PositionM Unit := do
  let rows ← get
  let row ← ofExcept (b.positionRow pos)
  if rows.any (fun r => r.positionUid = pos.positionUid) then
    throw (.databaseError "UNIQUE constraint failed: positions_v2.position_uid")
  else set (rows ++ [row])

/-- `_update_position`; the columns it does not set are those of the position as
it was loaded. -/
def updatePosition (pos : LedgerPosition) : PositionM Unit := do
  let row ← ofExcept (b.positionRow pos)
  modify (fun rows => rows.map (fun r => if r.positionUid = pos.positionUid then row else r))

/-- `_load_by_uid`. -/
def PositionDb.loadByUid (rows : PositionDb) (uid : String) : Option LedgerPosition :=
  rows.find? (fun r => r.positionUid = uid)

/-- The position of a call, or the error that it is not there. -/
def loadPosition (uid : String) : PositionM LedgerPosition := do
  let rows ← get
  match rows.loadByUid uid with
  | none => throw (.valueError s!"Position {uid} not found")
  | some pos => pure pos

/-! ## Queries -/

/-- `get_open_position`. -/
def PositionEngine.getOpenPosition (rows : PositionDb) (venue symbol : String) :
    Option LedgerPosition :=
  ((rows.filter (fun r => r.userId = engine.userId ∧ r.venue = venue ∧ r.symbol = symbol ∧
    r.status = .opened)).insertionSort (fun r r' => r'.openedAt ≤ r.openedAt)).head?

/-- `list_open_positions`; no venue and an empty one list all venues. -/
def PositionEngine.listOpenPositions (rows : PositionDb) (venue : Option String) :
    List LedgerPosition :=
  match venue.filter (fun v => v ≠ "") with
  | some v => (rows.filter (fun r => r.userId = engine.userId ∧ r.venue = v ∧
      r.status = .opened)).insertionSort (fun r r' => r.openedAt ≤ r'.openedAt)
  | none => (rows.filter (fun r => r.userId = engine.userId ∧
      r.status = .opened)).insertionSort (fun r r' => r.openedAt ≤ r'.openedAt)

/-- `refresh_marks`: the positions of a venue that have a mark, recalculated. -/
def PositionEngine.refreshMarks (rows : PositionDb) (venue : String)
    (marks : Dict String Decimal) (now : ℤ) : List LedgerPosition :=
  (engine.listOpenPositions rows (some venue)).filterMap (fun pos =>
    (marks.get? pos.symbol).map (fun mark => engine.recalculate pos mark now))

/-! ## Operations -/

/-- `_build_position`. -/
def PositionEngine.buildPosition (uid venue symbol : String) (side : PositionSide)
    (qty entryPrice : Decimal) (leverage : ℤ) (tpPrice slPrice : Option Decimal) (now : ℤ) :
    LedgerPosition :=
  let notional := qty * entryPrice
  let initMargin := notional / leverage
  { positionUid := uid
    userId := engine.userId
    venue := venue
    symbol := symbol
    side := side
    qty := qty
    entryPriceAvg := entryPrice
    leverage := leverage
    markPrice := some entryPrice
    notional := some notional
    initialMargin := some initMargin
    maintenanceMargin := some (notional * engine.maintenanceMarginRate)
    marginUsed := some initMargin
    liquidationPrice := some (computeLiquidationPrice side entryPrice leverage
      engine.maintenanceMarginRate)
    tpPrice := tpPrice
    slPrice := slPrice
    openedAt := now
    updatedAt := now }

/-- `open_position`; `uid` is the fresh identifier of the position. -/
def openLedgerPosition (uid venue symbol : String) (side : PositionSide)
    (qty entryPrice : Decimal) (leverage : ℤ) (tpPrice slPrice : Option Decimal) (now : ℤ) :
    PositionM Unit := do
  let rows ← get
  match engine.getOpenPosition rows venue symbol with
  | some existing =>
      throw (.valueError (s!"Open position already exists for {venue}/{symbol} "
        ++ s!"(uid={existing.positionUid}). Use add_to_position()."))
  | none =>
      if leverage = 0 then throw .divisionByZero
      else insertPosition b (engine.buildPosition uid venue symbol side qty entryPrice leverage
        tpPrice slPrice now)

/-- `str(status)`. -/
def LedgerPositionStatus.pyStr : LedgerPositionStatus → String
  | .opened => "open"
  | .reducing => "reducing"
  | .closed => "closed"

/-- `add_to_position`. -/
def addToPosition (uid : String) (qtyDelta fillPrice : Decimal) (now : ℤ) : PositionM Unit := do
  let pos ← loadPosition uid
  match pos.status.next? .add with
  | none => throw (.valueError s!"Cannot add to a {pos.status.pyStr} position")
  | some _ =>
      let totalQty := pos.qty + qtyDelta
      if totalQty = 0 then throw .divisionByZero
      else
        let totalCost := pos.qty * pos.entryPriceAvg + qtyDelta * fillPrice
        updatePosition b (engine.recalculate
          { pos with
            qty := totalQty
            entryPriceAvg := totalCost / totalQty
            updatedAt := now } fillPrice now)

/-- `reduce_position`. -/
def reducePosition (uid : String) (qtyDelta exitPrice : Decimal) (now : ℤ) : PositionM Unit := do
  let pos ← loadPosition uid
  match pos.status.next? (if qtyDelta ≥ pos.qty then .fullClose else .partialClose) with
  | none => throw (.valueError s!"Cannot reduce a {pos.status.pyStr} position")
  | some status =>
      if qtyDelta > pos.qty then
        throw (.valueError s!"qty_delta {qtyDelta} > position qty {pos.qty}")
      else
        let portionPnl := pos.side.gain pos.entryPriceAvg exitPrice * qtyDelta
        let reduced := { pos with
          qty := pos.qty - qtyDelta
          realizedPnl := pos.realizedPnl + portionPnl
          updatedAt := now }
        if status = .closed then
          updatePosition b { reduced with
            qty := 0
            status := .closed
            closedAt := some now
            unrealizedPnl := 0 }
        else
          updatePosition b (engine.recalculate { reduced with status := .reducing } exitPrice now)

/-- `close_position`. -/
def closeLedgerPosition (uid : String) (exitPrice : Decimal) (now : ℤ) : PositionM Unit := do
  let pos ← loadPosition uid
  reducePosition b engine uid pos.qty exitPrice now

/-- `update_sl_tp`. -/
def updateSlTp (uid : String) (slPrice tpPrice : Option Decimal) (now : ℤ) : PositionM Unit := do
  let pos ← loadPosition uid
  updatePosition b { pos with
    slPrice := slPrice <|> pos.slPrice
    tpPrice := tpPrice <|> pos.tpPrice
    updatedAt := now }

/-- `accrue_funding`. -/
def accrueFunding (uid : String) (amount : Decimal) (now : ℤ) : PositionM Unit := do
  let pos ← loadPosition uid
  updatePosition b { pos with
    fundingAccrued := pos.fundingAccrued + amount
    updatedAt := now }

/-- `accrue_fee`. -/
def accrueFee (uid : String) (fee : Decimal) (now : ℤ) : PositionM Unit := do
  let pos ← loadPosition uid
  updatePosition b { pos with
    feesAccrued := pos.feesAccrued + fee
    updatedAt := now }

end Engine

/-! ## Sequences of operations -/

/-- A call of the engine. -/
inductive PositionOp where
  | openPosition (uid venue symbol : String) (side : PositionSide) (qty entryPrice : Decimal)
      (leverage : ℤ) (tpPrice slPrice : Option Decimal) (now : ℤ)
  | addToPosition (uid : String) (qtyDelta fillPrice : Decimal) (now : ℤ)
  | reducePosition (uid : String) (qtyDelta exitPrice : Decimal) (now : ℤ)
  | closePosition (uid : String) (exitPrice : Decimal) (now : ℤ)
  | updateSlTp (uid : String) (slPrice tpPrice : Option Decimal) (now : ℤ)
  | accrueFee (uid : String) (fee : Decimal) (now : ℤ)
  | accrueFunding (uid : String) (amount : Decimal) (now : ℤ)

/-- Make the call. -/
def PositionOp.run (b : Backend) (engine : PositionEngine) : PositionOp → PositionM Unit
  | .openPosition uid venue symbol side qty entryPrice leverage tpPrice slPrice now =>
      openLedgerPosition b engine uid venue symbol side qty entryPrice leverage tpPrice slPrice now
  | .addToPosition uid qtyDelta fillPrice now =>
      CryptoTrader.addToPosition b engine uid qtyDelta fillPrice now
  | .reducePosition uid qtyDelta exitPrice now =>
      CryptoTrader.reducePosition b engine uid qtyDelta exitPrice now
  | .closePosition uid exitPrice now => closeLedgerPosition b engine uid exitPrice now
  | .updateSlTp uid slPrice tpPrice now => CryptoTrader.updateSlTp b uid slPrice tpPrice now
  | .accrueFee uid fee now => CryptoTrader.accrueFee b uid fee now
  | .accrueFunding uid amount now => CryptoTrader.accrueFunding b uid amount now

end CryptoTrader
