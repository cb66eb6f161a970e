import CryptoTrader.Reconcile.Reconciler

/-!
# The per-symbol reconciler

`ExchangeStateReconciler` of `reconciliation.py`.  What it reads of the venue is
an argument here.  It never raises: whatever goes wrong is logged, and the
symbol counts as consistent.
-/

namespace CryptoTrader

open CryptoTrader.Lib

/-- An order of the venue, as far as this reconciler reads it. -/
structure VenueOrder where
  id : String
  orderType : String
  reduceOnly : Bool

/-- What `reconcile_symbol` reads: the balance in USDT, where it could be read,
and the positions with the orders of the symbol. -/
structure SymbolReading where
  balance : Option Decimal
  positions : Except PyErr (List (Symbol × VenueHolding))
  orders : List VenueOrder

/-- Why `reconcile_symbol` tripped the kill switch. -/
inductive HaltReason where
  | phantomPosition (exQty : Decimal) (symbol : Symbol)
  | missingPosition (localQty : Decimal) (symbol : Symbol)
  | sizeDesync (exQty localQty : Decimal) (symbol : Symbol)
  | missingStop (symbol : Symbol)
  deriving DecidableEq

/-- The reason is a mismatch of positions. -/
def HaltReason.isPosition : HaltReason → Bool
  | .phantomPosition .. | .missingPosition .. | .sizeDesync .. => true
  | .missingStop _ => false

/-- What comes of comparing the quantities. -/
inductive SizeCheck where
  | agreed
  | halt (reason : HaltReason)
  | align
  deriving DecidableEq

/-- The comparison of `reconcile_symbol`. -/
def sizeCheck (live : Bool) (symbol : Symbol) (exQty localQty : Decimal) : SizeCheck :=
  if 1 / 10000 < |exQty - localQty| then
    if 0 < exQty ∧ localQty = 0 then .halt (.phantomPosition exQty symbol)
    else if 0 < localQty ∧ exQty = 0 then .halt (.missingPosition localQty symbol)
    else if live then .align
    else .halt (.sizeDesync exQty localQty symbol)
  else .agreed

variable (env : Env)

/-- Synchronize the live balance. -/
def syncBalance (balance : Option Decimal) : Live Unit :=
  modifyWallet (fun w =>
    match balance with
    | none => w
    | some balance =>
        if w.liveExecution ∧ 1 / 100 < |w.walletBalance - balance| then
          { w with walletBalance := balance }
        else w)

/-- The leverage of the symbol, from its position or else from the venue. -/
def syncPositionLeverage (symbol : Symbol) (exPos : Option VenueHolding) : Live Unit := do
  let s ← get
  if s.wallet.liveExecution then
    match exPos.bind VenueHolding.leverage with
    | none => syncLeverageFromVenue env symbol
    | some leverage =>
        modify (fun s =>
          { s with
            wallet := s.wallet.syncedLeverage symbol leverage
            engineLeverage := leverage })
  else pure ()

/-- The position of the wallet that is compared. -/
def Wallet.liveOpenPosition (w : Wallet) (symbol : Symbol) : Option EnhancedPosition :=
  (w.getOpenPosition symbol).filter (fun pos => pos.mode = .live)

/-- Position size reconciliation. -/
def reconcileSize (symbol : Symbol) (exQty : Decimal) : Live (Option HaltReason) := do
  let s ← get
  let localPos := s.wallet.liveOpenPosition symbol
  let localQty := (localPos.map EnhancedPosition.remainingQuantity).getD 0
  match sizeCheck s.wallet.liveExecution symbol exQty localQty with
  | .agreed => pure none
  | .halt reason => pure (some reason)
  | .align =>
      match localPos with
      | none => throw (.attributeError
          "'NoneType' object has no attribute 'remaining_quantity'")
      | some _ => do
          modifyWallet (fun w => (w.alignQuantity symbol exQty).save)
          pure none

/-- Cancel the protective orders that are left of a position. -/
def cancelLeftovers : List VenueOrder → Live Unit
  | [] => pure ()
  | order :: rest => do
      if order.reduceOnly ∨ order.orderType.toUpper ∈ ["STOP_MARKET", "TAKE_PROFIT"] then
        let _ ← tryCatch (cancelOrder env order.id) (fun _ => pure false)
      cancelLeftovers rest

/-- Orphaned order cleanup, when the venue is flat. -/
def cancelOrphaned (exQty : Decimal) (orders : List VenueOrder) : Live Unit :=
  if exQty = 0 then cancelLeftovers env orders else pure ()

/-- Put a missing stop back. -/
def recreateStop (symbol : Symbol) (exQty : Decimal) (orders : List VenueOrder) :
    Live (Option HaltReason) := do
  let s ← get
  match s.wallet.liveOpenPosition symbol with
  | none => pure none
  | some pos =>
      let hasStop := orders.any (fun order =>
        order.orderType.toUpper ∈ ["STOP_MARKET", "STOP_LOSS_MARKET", "STOP"])
      if 0 < exQty ∧ s.wallet.liveExecution ∧ s.wallet.cfg.venueSlEnabled ∧ ¬ hasStop ∧
          0 < pos.slPrice then do
        let placed ← tryCatch (placeProtective env pos) (fun _ => pure .none)
        if placed.sl.getD "" ≠ "" ∨ ¬ env.orderExecutionEnabled then pure none
        else pure (some (.missingStop symbol))
      else pure none

/-- The row of a symbol: the first one. -/
def exchangePosition (positions : List (Symbol × VenueHolding)) (symbol : Symbol) :
    Option VenueHolding :=
  (positions.find? (fun row => row.1 = symbol)).map Prod.snd

/-- What `reconcile_symbol` does inside its `try`. -/
def reconcileSymbolBody (reading : SymbolReading) (symbol : Symbol) : Live (Option HaltReason) := do
  syncBalance reading.balance
  let positions ← ofReply reading.positions
  let exPos := exchangePosition positions symbol
  syncPositionLeverage env symbol exPos
  let exQty := (exPos.map VenueHolding.quantity).getD 0
  match ← reconcileSize symbol exQty with
  | some reason => pure (some reason)
  | none => do
      cancelOrphaned env exQty reading.orders
      recreateStop env symbol exQty reading.orders

/-- `reconcile_symbol`, with the reason of the kill switch where it returns
`False`. -/
def reconcileSymbol (reading : SymbolReading) (symbol : Symbol) : Live (Option HaltReason) :=
  tryCatch (reconcileSymbolBody env reading symbol) (fun _ => pure none)

end CryptoTrader
