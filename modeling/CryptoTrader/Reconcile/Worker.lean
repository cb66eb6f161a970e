import CryptoTrader.Ledger.PositionEngine

/-!
# The reconciliation worker

The position check of `ReconciliationWorker` in `ledger/reconciliation.py`, over
the open positions of the position engine and an exchange snapshot.
-/

namespace CryptoTrader

open CryptoTrader.Lib

/-- A position of the exchange snapshot, with the keys it may have. -/
structure ExchangeRow where
  symbol : String := ""
  qty : Option Decimal := none
  positionAmt : Option Decimal := none
  side : Option PositionSide := none

/-- `p.get("qty", p.get("positionAmt", 0))`. -/
def ExchangeRow.quantity (p : ExchangeRow) : Decimal := p.qty.getD (p.positionAmt.getD 0)

/-- What the worker keeps of such a row. -/
structure ExchangePosition where
  qty : Decimal
  side : PositionSide

/-- `p.get("side", …)`: the sign of the quantity where there is no side. -/
def ExchangeRow.position (p : ExchangeRow) : ExchangePosition :=
  { qty := p.quantity
    side := p.side.getD (if 0 < p.quantity then .long else .short) }

/-- The rows with a position, by symbol. -/
def exchangePositions (rows : List ExchangeRow) : Dict String ExchangePosition :=
  rows.foldl (fun positions p =>
    if p.symbol ≠ "" ∧ 0 < |p.quantity| then positions.set p.symbol p.position else positions)
    Dict.empty

/-- The open positions, by symbol. -/
def localPositions (opened : List LedgerPosition) : Dict String LedgerPosition :=
  opened.foldl (fun positions p => positions.set p.symbol p) Dict.empty

inductive CheckStatus where
  | ok
  | drift
  deriving DecidableEq, Repr

/-- `delta` of a result. -/
inductive PositionDelta where
  | missingLocally
  | ghostPosition
  | quantity (delta pct : Decimal)
  | none
  deriving DecidableEq

/-- `ReconciliationResult` of a position check. -/
structure PositionResult where
  status : CheckStatus
  symbol : Option String
  localQty : Option Decimal
  exchangeQty : Option Decimal
  delta : PositionDelta
  actionTaken : String := "none"
  deriving DecidableEq

/-- `ReconciliationWorker`, as far as positions are concerned. -/
structure ReconciliationWorker where
  engine : PositionEngine
  positionQtyTolerance : Decimal := 5 / 1000

namespace ReconciliationWorker

variable (worker : ReconciliationWorker)

/-- The result for a position of the exchange. -/
def checkExchange (localPos : Dict String LedgerPosition) (sym : String)
    (exPos : ExchangePosition) : PositionResult :=
  match localPos.get? sym with
  | none =>
      { status := .drift
        symbol := some sym
        localQty := none
        exchangeQty := some exPos.qty
        delta := .missingLocally
        actionTaken := "alert" }
  | some pos =>
      let exQty := |exPos.qty|
      let qtyDelta := |pos.qty - exQty|
      let qtyPct := if exPos.qty ≠ 0 then qtyDelta / exQty else 0
      { status := if qtyPct ≤ worker.positionQtyTolerance then .ok else .drift
        symbol := some sym
        localQty := some pos.qty
        exchangeQty := some exPos.qty
        delta := .quantity qtyDelta qtyPct }

/-- The result for a local position the exchange does not have. -/
def checkGhost (exPos : Dict String ExchangePosition) (sym : String) (pos : LedgerPosition) :
    Option PositionResult :=
  match exPos.get? sym with
  | some _ => none
  | none =>
      some
        { status := .drift
          symbol := some sym
          localQty := some pos.qty
          exchangeQty := none
          delta := .ghostPosition
          actionTaken := "alert" }

/-- `_check_positions`. -/
def checkPositions (opened : List LedgerPosition) (rows : List ExchangeRow) :
    List PositionResult :=
  let exPos := exchangePositions rows
  let localPos := localPositions opened
  let results :=
    exPos.entries.map (fun entry => worker.checkExchange localPos entry.1 entry.2) ++
      localPos.entries.filterMap (fun entry => checkGhost exPos entry.1 entry.2)
  if results = [] then
    [{ status := .ok, symbol := none, localQty := none, exchangeQty := none, delta := .none }]
  else results

/-- `_check_positions` of the worker's own positions. -/
def check (db : PositionDb) (venue : String) (rows : List ExchangeRow) : List PositionResult :=
  worker.checkPositions (worker.engine.listOpenPositions db (some venue)) rows

end ReconciliationWorker

end CryptoTrader
