import CryptoTrader.Lib.PyValue
import CryptoTrader.Lib.Run
import CryptoTrader.Lib.Table
import CryptoTrader.Wallet.Types

/-!
# The relational projection

`storage/projection.py`: `ProjectionState` reduces domain events into orders,
active positions and fills, and `PostgresProjection` keeps them in three tables,
either event by event or all at once from the whole stream.

One event at a time, a fresh reducer writes what it can, and a statement of its
own does the rest on the row of the event's id and *mode*.  The stream as a
whole goes through one reducer, which keeps an order or a position under its id
or symbol *alone*.
-/

namespace CryptoTrader.Storage

open CryptoTrader.Lib

/-! ## Events -/

/-- The event types a projection knows. -/
inductive EventKind where
  | orderCreated
  | orderFilled
  | orderPartiallyFilled
  | orderCancelled
  | orderRejected
  | orderExpired
  | positionOpened
  | positionPartiallyClosed
  | positionClosed
  | liquidation
  | reconAdjust
  | other (name : String)
  deriving DecidableEq

/-- `et.replace("ORDER_", "")` of the types that end an order. -/
def EventKind.ending : EventKind → String
  | .orderCancelled => "CANCELLED"
  | .orderRejected => "REJECTED"
  | .orderExpired => "EXPIRED"
  | _ => ""

/-- A number in a payload: a text, the text of a `Decimal`, or a number. -/
inductive Amount where
  | text (s : String)
  | decimal (d : Decimal)
  | number (x : PyFloat)
  deriving DecidableEq

/-- A payload, of which a key that is not there is `none`. -/
structure Fields where
  orderId : Option String := none
  symbol : Option String := none
  side : Option String := none
  mode : Option String := none
  orderType : Option String := none
  status : Option String := none
  quantity : Option Amount := none
  fillPrice : Option Amount := none
  fee : Option Amount := none
  executionPrice : Option Amount := none
  entryPrice : Option Amount := none
  closedQty : Option Amount := none
  avgPrice : Option Amount := none
  deriving DecidableEq

/-- An event of the stream. -/
structure DomainEvent where
  kind : EventKind
  ts : ℤ
  payload : Fields
  deriving DecidableEq

/-- `if oid`. -/
def Fields.oid (p : Fields) : Option String := p.orderId.filter (· ≠ "")

/-- `if sym`. -/
def Fields.sym (p : Fields) : Option String := p.symbol.filter (· ≠ "")

/-! ## Numbers -/

/-- Numbers in the interpreter, whose floats round, and in the database, whose
`NUMERIC` columns do not. -/
structure Numbers where
  /-- `float` of a text; nothing where it raises. -/
  parse : String → Option PyFloat
  /-- `float` of a `Decimal`. -/
  ofDecimal : Decimal → PyFloat
  ofDecimal_zero : ofDecimal 0 = .fin 0
  /-- `a + b`. -/
  add : PyFloat → PyFloat → PyFloat
  /-- `a - b`. -/
  sub : PyFloat → PyFloat → PyFloat
  /-- What a column keeps of a float. -/
  numeric : PyFloat → PyFloat
  /-- `COALESCE(filled_qty, 0) + %s`. -/
  sqlAdd : PyFloat → PyFloat → PyFloat
  /-- `GREATEST(0, COALESCE(qty, 0) - %s)`. -/
  sqlReduce : PyFloat → PyFloat → PyFloat

/-- `_f`. -/
def Numbers.f (num : Numbers) : Option Amount → PyFloat
  | some (.text s) => (num.parse s).getD (.fin 0)
  | some (.decimal d) => num.ofDecimal d
  | some (.number x) => x
  | none => .fin 0

/-- An operation on two numbers, where no rounding happens. -/
def exactly (f : ℚ → ℚ → ℚ) : PyFloat → PyFloat → PyFloat
  | .fin a, .fin b => .fin (f a b)
  | _, _ => .nan

/-- Numbers as small integers behave. -/
def demoNumbers : Numbers where
  parse := fun _ => none
  ofDecimal := .fin
  ofDecimal_zero := rfl
  add := exactly (· + ·)
  sub := exactly (· - ·)
  numeric := id
  sqlAdd := exactly (· + ·)
  sqlReduce := exactly (fun a b => max 0 (a - b))

/-! ## Rows -/

/-- An order, in the reducer and in the table. -/
structure OrderRow where
  exchangeOrderId : String
  symbol : Option String
  side : Option String
  mode : String
  orderType : String
  qty : PyFloat
  filledQty : PyFloat
  avgFillPrice : PyFloat
  status : String
  createdAt : ℤ
  deriving DecidableEq

/-- A position, in the reducer and in the table. -/
structure PositionRow where
  symbol : String
  mode : String
  side : Option String
  qty : PyFloat
  avgPrice : PyFloat
  status : String
  lastEventTs : ℤ
  deriving DecidableEq

/-- A fill, in the reducer and in the table. -/
structure FillRow where
  exchangeOrderId : Option String
  symbol : Option String
  side : Option String
  mode : String
  price : PyFloat
  qty : PyFloat
  fee : PyFloat
  ts : ℤ
  deriving DecidableEq

/-! ## The reducer -/

/-- `ProjectionState`. -/
structure ProjectionState where
  mode : String := "live"
  orders : Dict String OrderRow := Dict.empty
  positions : Dict String PositionRow := Dict.empty
  fills : List FillRow := []

section Values

variable (num : Numbers)

/-- The order of an `ORDER_CREATED`. -/
def createdOrder (mode oid : String) (event : DomainEvent) : OrderRow :=
  { exchangeOrderId := oid
    symbol := event.payload.symbol
    side := event.payload.side
    mode := mode
    orderType := event.payload.orderType.getD "MARKET"
    qty := num.f event.payload.quantity
    filledQty := .fin 0
    avgFillPrice := .fin 0
    status := event.payload.status.getD "NEW"
    createdAt := event.ts }

/-- What a fill makes of its order. -/
def OrderRow.fill (o : OrderRow) (p : Fields) : OrderRow :=
  { o with
    filledQty := num.add o.filledQty (num.f p.quantity)
    avgFillPrice := if (num.f p.fillPrice).truthy then num.f p.fillPrice else o.avgFillPrice
    status := p.status.getD "FILLED" }

/-- The fill of a fill event. -/
def eventFill (mode : String) (event : DomainEvent) : FillRow :=
  { exchangeOrderId := event.payload.orderId
    symbol := event.payload.symbol
    side := event.payload.side
    mode := mode
    price := num.f event.payload.fillPrice
    qty := num.f event.payload.quantity
    fee := num.f event.payload.fee
    ts := event.ts }

/-- The position of a `POSITION_OPENED`. -/
def openedPosition (mode sym : String) (event : DomainEvent) : PositionRow :=
  { symbol := sym
    mode := mode
    side := event.payload.side
    qty := num.f event.payload.quantity
    avgPrice := num.f (event.payload.executionPrice.or event.payload.entryPrice)
    status := "OPEN"
    lastEventTs := event.ts }

/-- What a partial close makes of its position. -/
def PositionRow.reduce (pos : PositionRow) (event : DomainEvent) : PositionRow :=
  { pos with
    qty := PyFloat.pyMax (.fin 0) (num.sub pos.qty (num.f event.payload.closedQty))
    lastEventTs := event.ts }

/-- The position of a `RECON_ADJUST`. -/
def adjustedPosition (mode sym : String) (event : DomainEvent) : PositionRow :=
  { symbol := sym
    mode := mode
    side := event.payload.side
    qty := num.f event.payload.quantity
    avgPrice := num.f event.payload.avgPrice
    status := "OPEN"
    lastEventTs := event.ts }

end Values

/-- A change to the value of a key that may be missing. -/
def modifyAt {ν : Type} (d : Dict String ν) (key : Option String) (f : ν → ν) : Dict String ν :=
  match key with
  | none => d
  | some key => d.modify key f

/-- `d.pop(key, None)`. -/
def eraseAt {ν : Type} (d : Dict String ν) (key : Option String) : Dict String ν :=
  match key with
  | none => d
  | some key => d.erase key

/-- `ProjectionState.apply`. -/
def ProjectionState.apply (num : Numbers) (st : ProjectionState) (event : DomainEvent) :
    ProjectionState :=
  let p := event.payload
  let mode := p.mode.getD st.mode
  match event.kind with
  | .orderCreated =>
      match p.oid with
      | none => st
      | some oid => { st with orders := st.orders.set oid (createdOrder num mode oid event) }
  | .orderFilled | .orderPartiallyFilled =>
      { st with
        orders := modifyAt st.orders p.orderId (fun o => o.fill num p)
        fills := st.fills ++ [eventFill num mode event] }
  | .orderCancelled | .orderRejected | .orderExpired =>
      { st with
        orders := modifyAt st.orders p.orderId (fun o => { o with status := event.kind.ending }) }
  | .positionOpened =>
      match p.sym with
      | none => st
      | some sym => { st with positions := st.positions.set sym (openedPosition num mode sym event) }
  | .positionPartiallyClosed =>
      { st with positions := modifyAt st.positions p.symbol (fun pos => pos.reduce num event) }
  | .positionClosed | .liquidation => { st with positions := eraseAt st.positions p.symbol }
  | .reconAdjust =>
      match p.sym with
      | none => st
      | some sym =>
          if PyFloat.le (num.f p.quantity) (.fin 0) then
            { st with positions := st.positions.erase sym }
          else
            { st with positions := st.positions.set sym (adjustedPosition num mode sym event) }
  | .other _ => st

/-- `ProjectionState.rebuild`. -/
def ProjectionState.rebuild (num : Numbers) (st : ProjectionState) (events : List DomainEvent) :
    ProjectionState :=
  events.foldl (ProjectionState.apply num) st

/-! ## The tables -/

/-- The rows of the three tables. -/
structure Tables where
  activePositions : Table (String × String) PositionRow
  orders : Table (String × String) OrderRow
  fills : List FillRow

/-- Tables without rows, as the first start and `TRUNCATE` leave them. -/
def Tables.empty : Tables := ⟨Table.empty, Table.empty, []⟩

section Writers

variable (num : Numbers)

/-- The row a position is written to. -/
def Numbers.positionRow (pos : PositionRow) : PositionRow :=
  { pos with qty := num.numeric pos.qty, avgPrice := num.numeric pos.avgPrice }

/-- The row an order is written to. -/
def Numbers.orderRow (o : OrderRow) : OrderRow :=
  { o with
    qty := num.numeric o.qty
    filledQty := num.numeric o.filledQty
    avgFillPrice := num.numeric o.avgFillPrice }

/-- The row a fill is written to. -/
def Numbers.fillRow (fill : FillRow) : FillRow :=
  { fill with
    price := num.numeric fill.price
    qty := num.numeric fill.qty
    fee := num.numeric fill.fee }

/-- `ON CONFLICT (symbol, mode) DO UPDATE`. -/
def PositionRow.merge (old new : PositionRow) : PositionRow :=
  { old with
    side := new.side
    qty := new.qty
    avgPrice := new.avgPrice
    status := new.status
    lastEventTs := new.lastEventTs }

/-- `ON CONFLICT (exchange_order_id, mode) DO UPDATE`: the terms of the order
stay as they are. -/
def OrderRow.merge (old new : OrderRow) : OrderRow :=
  { old with
    filledQty := new.filledQty
    avgFillPrice := new.avgFillPrice
    status := new.status }

/-- `_upsert_position`. -/
def upsertPosition (t : Table (String × String) PositionRow) (pos : PositionRow) :
    Table (String × String) PositionRow :=
  t.upsert PositionRow.merge (pos.symbol, pos.mode) (num.positionRow pos)

/-- `_upsert_order`. -/
def upsertOrder (t : Table (String × String) OrderRow) (o : OrderRow) :
    Table (String × String) OrderRow :=
  t.upsert OrderRow.merge (o.exchangeOrderId, o.mode) (num.orderRow o)

/-- The rows of a reducer, written one by one. -/
def Tables.write (t : Tables) (st : ProjectionState) : Tables :=
  { activePositions := st.positions.values.foldl (upsertPosition num) t.activePositions
    orders := st.orders.values.foldl (upsertOrder num) t.orders
    fills := t.fills ++ st.fills.map num.fillRow }

/-- `UPDATE orders SET filled_qty = …, avg_fill_price = …, status = …`. -/
def OrderRow.sqlFill (o : OrderRow) (p : Fields) : OrderRow :=
  { o with
    filledQty := num.sqlAdd o.filledQty (num.f p.quantity)
    avgFillPrice :=
      if (num.f p.fillPrice).truthy then num.numeric (num.f p.fillPrice) else o.avgFillPrice
    status := p.status.getD "FILLED" }

/-- `UPDATE active_positions SET qty = …, last_event_ts = …`. -/
def PositionRow.sqlReduce (pos : PositionRow) (event : DomainEvent) : PositionRow :=
  { pos with
    qty := num.sqlReduce pos.qty (num.f event.payload.closedQty)
    lastEventTs := event.ts }

/-- The statement `PostgresProjection.apply` has of its own for an event. -/
def Tables.statement (mode : String) (t : Tables) (event : DomainEvent) : Tables :=
  let p := event.payload
  match event.kind with
  | .orderFilled | .orderPartiallyFilled =>
      match p.oid with
      | none => t
      | some oid => { t with orders := t.orders.modify (oid, mode) (fun o => o.sqlFill num p) }
  | .orderCancelled | .orderRejected | .orderExpired =>
      match p.oid with
      | none => t
      | some oid =>
          { t with
            orders := t.orders.modify (oid, mode) (fun o => { o with status := event.kind.ending }) }
  | .positionPartiallyClosed =>
      match p.sym with
      | none => t
      | some sym =>
          { t with
            activePositions :=
              t.activePositions.modify (sym, mode) (fun pos => pos.sqlReduce num event) }
  | .positionClosed | .liquidation =>
      match p.sym with
      | none => t
      | some sym => { t with activePositions := t.activePositions.delete (sym, mode) }
  | _ => t

/-- `PostgresProjection.apply`. -/
def Tables.apply (mode : String) (t : Tables) (event : DomainEvent) : Tables :=
  let st : ProjectionState := ProjectionState.apply num { mode := mode } event
  (t.write num st).statement num (event.payload.mode.getD mode) event

/-- `PostgresProjection.rebuild_from`: whatever the tables held before. -/
def Tables.rebuildFrom (mode : String) (_ : Tables) (events : List DomainEvent) : Tables :=
  Tables.empty.write num (ProjectionState.rebuild num { mode := mode } events)

end Writers

end CryptoTrader.Storage
