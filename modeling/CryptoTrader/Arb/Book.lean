import CryptoTrader.Lib.Dict
import CryptoTrader.Lib.Hoare
import CryptoTrader.Wallet.Types

/-!
# The funding-arb book

`ArbBook` of `arb_book.py`, with the venues it is to account for.  A book is of
one symbol, which is its namespace, so `_open` is one position or none.  What is
in memory is lost when the process is killed; the rows of `arb_positions` are
not.  The process can be killed before every venue order, every event and every
snapshot: the places are listed.
-/

namespace CryptoTrader.Arb

open CryptoTrader.Lib

/-! ## Positions -/

inductive Leg where
  | perp
  | spot
  deriving DecidableEq

inductive ArbState where
  | placingPerp
  | perpOnly
  | hedged
  | unwindingPerp
  | unwindingSpot
  | closed
  deriving DecidableEq

/-- `ArbPosition`, less the symbol and the venue's position id. -/
structure ArbPosition where
  arbId : String
  state : ArbState
  spotQty : Decimal := 0
  perpQty : Decimal := 0
  spotEntryPrice : Decimal := 0
  perpEntryPrice : Decimal := 0
  entryBasis : Decimal := 0
  accruedFunding : Decimal := 0
  fundingPayments : ℕ := 0
  entryFees : Decimal := 0
  spotOrderId : String := ""
  perpOrderId : String := ""
  openTime : ℤ := 0
  lastFundingTs : ℤ := 0
  closeTime : Option ℤ := none
  closeReason : Option String := none
  realizedPnl : Decimal := 0
  deriving DecidableEq

/-! ## Where a tick can end -/

/-- A book operation writes an event, then a snapshot. -/
inductive Write where
  | emit
  | snapshot
  deriving DecidableEq

/-- The venue orders and the book operations of a tick, where they stand in the
source: those of `_maybe_enter`, of `_rollback_perp`, of `_manage`, of `_unwind`
and of `_resolve`. -/
inductive Place where
  | shortPerp
  | entryFailed (write : Write)
  | opening (write : Write)
  | perpFilled (write : Write)
  | buySpot
  | opened (write : Write)
  | rollingBack (write : Write)
  | rollBackPerp
  | rolledBack (write : Write)
  | rollbackClosed (write : Write)
  | fundingAccrued (write : Write)
  | unwinding (write : Write)
  | buyBackPerp
  | perpDone (write : Write)
  | sellSpot
  | unwound (write : Write)
  | completeSpot
  | completed (write : Write)
  | abandoned (write : Write)
  deriving DecidableEq

/-- How a tick ends early: by an exception, or by the process being killed, which
no handler sees. -/
inductive Stop where
  | raised (e : PyErr)
  | crashed

/-! ## The world -/

/-- The order a venue returns. -/
structure ArbOrder where
  id : String
  avgFillPrice : Decimal
  deriving DecidableEq

/-- What comes of an order: how much of it the venue executes, and whether the
call returns. -/
structure Outcome where
  executed : Decimal
  result : Except PyErr ArbOrder

/-- The price an order is filled at, and the fee it is charged; the manager sees
neither. -/
structure Terms where
  price : Decimal := 0
  fee : Decimal := 0

/-- What a venue has executed, and the arb it was for. -/
structure ArbFill where
  arbId : String
  leg : Leg
  side : PositionSide
  quantity : Decimal
  terms : Terms

abbrev Reading := Except PyErr Decimal

/-- What a tick meets: the readings of the feeds, each where the source takes it,
the clocks, the id of a new arb, the venues with their terms, and where the process
is killed, if it is. -/
structure Tick where
  fundingRate : Reading
  basisMark : Reading
  basisSpotMark : Reading
  sizeMark : Reading
  accrualMark : Reading
  exitMark : Reading
  now : ℤ
  bookNow : ℤ
  arbId : String
  place : Leg → PositionSide → Decimal → Outcome
  terms : Leg → PositionSide → Decimal → Terms := fun _ _ _ => {}
  crashAt : Option Place := none

/-- The net exposure on the venues, all their fills, whether the HALT file exists, the
tables `arb_positions` and `arb_events`, and the position in memory. -/
structure ArbWorld where
  perp : Decimal := 0
  spot : Decimal := 0
  fills : List ArbFill := []
  halt : Bool := false
  rows : Dict String ArbPosition := Dict.empty
  events : List String := []
  book : Option ArbPosition := none

abbrev ArbM := EStateM Stop ArbWorld

/-- `try: m except Exception as e: handler`. -/
def catching {α : Type} (m : ArbM α) (handler : PyErr → ArbM α) : ArbM α :=
  tryCatch m (fun stop => match stop with
    | .raised e => handler e
    | .crashed => throw .crashed)

def read (reading : Reading) : ArbM Decimal :=
  match reading with
  | .ok value => pure value
  | .error e => throw (.raised e)

/-- A trade of a leg. -/
def ArbWorld.trade (w : ArbWorld) (leg : Leg) (amount : Decimal) : ArbWorld :=
  match leg with
  | .perp => { w with perp := w.perp + amount }
  | .spot => { w with spot := w.spot + amount }

/-- The arb an order is for: the one in memory, or the one that is being entered. -/
def ArbWorld.arbId (w : ArbWorld) (tick : Tick) : String :=
  match w.book with
  | some arb => arb.arbId
  | none => tick.arbId

/-- The fill of an order, if it is executed. -/
def Tick.fills (tick : Tick) (arbId : String) (leg : Leg) (side : PositionSide) (qty : Decimal) :
    List ArbFill :=
  let quantity := (tick.place leg side qty).executed
  if quantity = 0 then [] else [⟨arbId, leg, side, quantity, tick.terms leg side qty⟩]

/-- What an order does on the venues. -/
def ArbWorld.execute (w : ArbWorld) (tick : Tick) (leg : Leg) (side : PositionSide)
    (qty : Decimal) : ArbWorld :=
  { w.trade leg (side.sign * (tick.place leg side qty).executed) with
    fills := w.fills ++ tick.fills (w.arbId tick) leg side qty }

/-- `trip_halt`. -/
def tripHalt : ArbM Unit := modify (fun w => { w with halt := true })

section Book

variable (tick : Tick)

/-- The process gets to a place, unless it is killed before. -/
def reach (place : Place) : ArbM Unit :=
  if tick.crashAt = some place then throw .crashed else pure ()

/-- `place_order` of an engine. -/
def placeOrder (place : Place) (leg : Leg) (side : PositionSide) (qty : Decimal) :
    ArbM ArbOrder := do
  reach tick place
  modify (fun w => w.execute tick leg side qty)
  match (tick.place leg side qty).result with
  | .ok order => pure order
  | .error e => throw (.raised e)

/-! ## The book's operations -/

/-- `_emit`. -/
def emit (place : Write → Place) (eventType : String) : ArbM Unit := do
  reach tick (place .emit)
  modify (fun w => { w with events := w.events ++ [eventType] })

/-- `_snapshot`. -/
def snapshot (place : Write → Place) (arb : ArbPosition) : ArbM Unit := do
  reach tick (place .snapshot)
  modify (fun w => { w with rows := w.rows.set arb.arbId arb })

/-- `open_record`. -/
def openRecord (place : Write → Place) (arb : ArbPosition) : ArbM Unit := do
  modify (fun w => { w with book := some arb })
  emit tick place "ARB_OPENING"
  snapshot tick place arb

/-- A position as `_open` holds it: a closed one is not held. -/
def ArbPosition.open? (arb : ArbPosition) : Option ArbPosition :=
  if arb.state = .closed then none else some arb

/-- `update`. -/
def update (place : Write → Place) (arb : ArbPosition) (eventType : String) : ArbM Unit := do
  modify (fun w => { w with book := arb.open? })
  emit tick place eventType
  snapshot tick place arb

/-- `record_funding`; the position is the one it has changed. -/
def recordFunding (place : Write → Place) (arb : ArbPosition) (amount : Decimal) :
    ArbM ArbPosition := do
  let arb := { arb with
    accruedFunding := arb.accruedFunding + amount
    fundingPayments := arb.fundingPayments + 1
    lastFundingTs := tick.bookNow }
  update tick place arb "ARB_FUNDING_ACCRUED"
  pure arb

/-- `close`. -/
def close (place : Write → Place) (arb : ArbPosition) (reason : String) (realizedPnl : Decimal) :
    ArbM Unit := do
  let arb := { arb with
    state := .closed
    closeReason := some reason
    closeTime := some tick.bookNow
    realizedPnl := realizedPnl }
  modify (fun w => { w with book := none })
  emit tick place "ARB_CLOSED"
  snapshot tick place arb

end Book

/-- `_load_open`. -/
def loadOpen (rows : Dict String ArbPosition) : Option ArbPosition :=
  (rows.values.filter (fun arb => arb.state ≠ .closed)).getLast?

/-- A new process, with what the tables have. -/
def ArbWorld.restart (w : ArbWorld) : ArbWorld := { w with book := loadOpen w.rows }

end CryptoTrader.Arb
