import CryptoTrader.Live.Protection

/-!
# The reconciler

`Reconciler` of `execution/reconciler.py`.  It compares a snapshot of the venue
with the wallet, and repairs what it can: it aligns a quantity, adopts a
position, puts a stop back and cancels an order that belongs to no position.
The snapshot is an argument here, as `account_sync.py` read it.
-/

namespace CryptoTrader

open CryptoTrader.Lib

/-! ## The snapshot -/

/-- A position of a snapshot. -/
structure VenueHolding where
  side : PositionSide
  quantity : Decimal
  entryPrice : Decimal
  leverage : Option Leverage

/-- An open order of a snapshot. -/
structure OpenOrder where
  exchangeOrderId : String
  symbol : Option Symbol

/-- `AccountSnapshot`, as far as the reconciler reads it. -/
structure AccountSnapshot where
  positions : Dict Symbol VenueHolding
  openOrders : List OpenOrder

/-! ## Mismatches -/

inductive MismatchKind where
  | ghostPosition
  | missingPosition
  | positionQty
  | missingProtectiveStop
  | orphanOrder
  deriving DecidableEq, Repr

/-- What a mismatch shows of a side: a quantity, an order, or that there is none. -/
inductive MismatchValue where
  | quantity (q : Decimal)
  | order (id : String)
  | absent
  deriving DecidableEq

/-- `ReconciliationMismatchEvent`. -/
structure Mismatch where
  symbol : Symbol
  kind : MismatchKind
  internal : MismatchValue
  exchange : MismatchValue
  repaired : Bool := false
  detail : String

/-- The mismatch is one of positions. -/
def MismatchKind.isPosition : MismatchKind → Bool
  | .ghostPosition | .missingPosition | .positionQty => true
  | .missingProtectiveStop | .orphanOrder => false

/-! ## The reconciler -/

/-- `Reconciler`, with what it was given. -/
structure Reconciler where
  qtyTolerance : Decimal := 1 / 100
  strictCancel : Bool := false
  adoptVenue : Bool := false

/-- A position of the wallet that is open and live. -/
def EnhancedPosition.isLive (pos : EnhancedPosition) : Bool :=
  pos.status = .opened && pos.mode = .live

/-- What `_internal_positions` keeps of a position. -/
structure InternalHolding where
  quantity : Decimal
  side : PositionSide
  entryPrice : Decimal

/-- `_internal_positions`. -/
def Wallet.internalPositions (w : Wallet) : Dict Symbol InternalHolding :=
  (w.positions.filterVal EnhancedPosition.isLive).mapVal
    (fun _ pos => ⟨pos.remainingQuantity, pos.side, pos.entryPrice⟩)

/-- The symbols that are compared. -/
def inScope (symbol : Option Symbol) (s : Symbol) : Bool :=
  match symbol with
  | some symbol => s = symbol
  | none => true

variable (env : Env) (r : Reconciler)

/-- Go through a collection, and note the mismatches found. -/
def collect {α : Type} (find : α → Live (Option Mismatch)) : List α → Live (List Mismatch)
  | [] => pure []
  | a :: rest => do
      let found ← find a
      let others ← collect find rest
      pure (found.toList ++ others)

/-! ### Leverage -/

/-- Set the leverage of a symbol, and the wallet's own if it is its symbol. -/
def Wallet.syncedLeverage (w : Wallet) (symbol : Symbol) (leverage : Leverage) : Wallet :=
  { w with
    symbolLeverages := w.symbolLeverages.set symbol leverage
    leverage := if symbol = w.cfg.symbol then leverage else w.leverage }

/-- `sync_leverage_from_venue`. -/
def syncLeverageFromVenue (symbol : Symbol) : Live Unit := do
  let s ← get
  if s.wallet.liveExecution ∧ symbol.name ≠ "GLOBAL" then
    match ← fetchSymbolLeverage env symbol with
    | none => pure ()
    | some leverage =>
        modify (fun s =>
          { s with
            wallet := s.wallet.syncedLeverage symbol leverage
            engineLeverage := leverage })
  else pure ()

/-- The leverage of one symbol, from the snapshot or else from the venue. -/
def syncSymbolLeverage (snap : AccountSnapshot) (symbol : Symbol) : Live Unit :=
  match snap.positions.get? symbol with
  | none => syncLeverageFromVenue env symbol
  | some row =>
      match row.leverage with
      | none => pure ()
      | some leverage =>
          modify (fun s =>
            { s with
              wallet := s.wallet.syncedLeverage symbol leverage
              engineLeverage := leverage })

/-- The first part of `_compare`. -/
def syncLeverage (snap : AccountSnapshot) (symbol : Option Symbol) : Live Unit := do
  let s ← get
  if s.wallet.liveExecution then
    match symbol with
    | some symbol => syncSymbolLeverage env snap symbol
    | none => do
        modifyWallet (fun w =>
          snap.positions.entries.foldl (fun w entry =>
            match entry.2.leverage with
            | none => w
            | some leverage => w.syncedLeverage entry.1 leverage) w)
        syncLeverageFromVenue env s.wallet.cfg.symbol
  else pure ()

/-! ### Positions -/

/-- `_find_ghost_positions`. -/
def findGhostPositions (internal : Dict Symbol InternalHolding) (venue : Dict Symbol VenueHolding) :
    List Mismatch :=
  internal.entries.filterMap (fun entry =>
    match venue.get? entry.1 with
    | some _ => none
    | none =>
        some
          { symbol := entry.1
            kind := .ghostPosition
            internal := .quantity entry.2.quantity
            exchange := .quantity 0
            detail := "internal position not present on venue" })

/-- Write a quantity into the position of a symbol and into the reducer state. -/
def Wallet.alignQuantity (w : Wallet) (symbol : Symbol) (qty : Decimal) : Wallet :=
  { w.editPosition symbol (fun pos =>
      { pos with remainingQuantity := qty, originalQuantity := qty }) with
    runtime :=
      { w.runtime with
        openPositions := w.runtime.openPositions.modify symbol (fun data =>
          { data with
            quantity := qty
            margin := qty * data.entryPrice / (data.leverage : ℕ) }) } }

/-- The quantities differ beyond the tolerance. -/
def Reconciler.drifts (iq vq : Decimal) : Bool :=
  0 < iq && r.qtyTolerance < |iq - vq| / iq

/-- What `_find_quantity_drifts` does about one position. -/
def quantityDrift (venue : Dict Symbol VenueHolding) (sym : Symbol) (ipos : InternalHolding) :
    Live (Option Mismatch) :=
  match venue.get? sym with
  | none => pure none
  | some row =>
      let found : Mismatch :=
        { symbol := sym
          kind := .positionQty
          internal := .quantity ipos.quantity
          exchange := .quantity row.quantity
          detail := "quantity drift beyond tolerance" }
      if r.drifts ipos.quantity row.quantity then do
        let s ← get
        if r.adoptVenue ∧ (s.wallet.positions.get? sym).isSome then do
          modifyWallet (fun w => (w.alignQuantity sym row.quantity).save)
          pure (some
            { found with repaired := true, detail := "quantity drift auto-aligned to venue" })
        else pure (some found)
      else pure none

/-- `_find_quantity_drifts`. -/
def findQuantityDrifts (internal : Dict Symbol InternalHolding)
    (venue : Dict Symbol VenueHolding) : Live (List Mismatch) :=
  collect (fun entry => quantityDrift r venue entry.1 entry.2) internal.entries

/-- `_adopt`. -/
def adopt (sym : Symbol) (row : VenueHolding) : Live Bool :=
  tryCatch (do
      let pos ← adoptVenuePosition env
        { symbol := sym
          side := row.side
          quantity := row.quantity
          entryPrice := row.entryPrice
          leverage := row.leverage }
      pure pos.isSome)
    (fun _ => pure false)

/-- What `_find_missing_positions` does about one position of the venue. -/
def missingPosition (internal : Dict Symbol InternalHolding) (sym : Symbol) (row : VenueHolding) :
    Live (Option Mismatch) := do
  let found : Mismatch :=
    { symbol := sym
      kind := .missingPosition
      internal := .quantity 0
      exchange := .quantity row.quantity
      detail := "venue position missing internally" }
  if (internal.get? sym).isSome ∨ row.quantity ≤ 0 then pure none
  else if r.adoptVenue then do
    let adopted ← adopt env sym row
    let detail :=
      if adopted then "venue position adopted into wallet" else "venue position adoption failed"
    pure (some { found with repaired := adopted, detail := detail })
  else pure (some found)

/-- `_find_missing_positions`. -/
def findMissingPositions (internal : Dict Symbol InternalHolding)
    (venue : Dict Symbol VenueHolding) : Live (List Mismatch) :=
  collect (fun entry => missingPosition env r internal entry.1 entry.2) venue.entries

/-- The part of `_compare` that looks at positions. -/
def comparePositions (internal : Dict Symbol InternalHolding) (venue : Dict Symbol VenueHolding) :
    Live (List Mismatch) := do
  let drifts ← findQuantityDrifts r internal venue
  let missing ← findMissingPositions env r internal venue
  pure (findGhostPositions internal venue ++ drifts ++ missing)

/-! ### Protective orders -/

/-- `_place_protective_orders` with the ids it returns. -/
def placeProtective (pos : EnhancedPosition) : Live ProtectiveOrders := do
  match ← attemptProtective env pos with
  | .placed orders => do
      recordProtective pos orders
      pure orders
  | .failed msg => requiredStopFailed env pos msg

/-- The ids of the open orders. -/
def AccountSnapshot.openIds (snap : AccountSnapshot) : List String :=
  (snap.openOrders.map OpenOrder.exchangeOrderId).filter (· ≠ "")

/-- What `_sync_protective_stops` does about the position of a symbol: the ids it
tracks, and the mismatch it found. -/
def syncStop (venue : Dict Symbol VenueHolding) (openIds : List String) (sym : Symbol) :
    Live (List String × Option Mismatch) := do
  let s ← get
  match s.wallet.positions.get? sym with
  | none => pure ([], none)
  | some pos =>
      if pos.isLive then
        let tracked := pos.protectiveOrders.ids
        let slId := pos.protectiveOrders.sl.getD ""
        if slId ≠ "" ∧ (venue.get? sym).isSome ∧ slId ∉ openIds then do
          let replaced ← placeProtective env pos
          let detail :=
            if replaced.any then "venue protective stop missing; re-placed"
            else "venue protective stop missing; re-place failed"
          pure (tracked, some
            { symbol := sym
              kind := .missingProtectiveStop
              internal := .order slId
              exchange := .absent
              repaired := replaced.any
              detail := detail })
        else pure (tracked, none)
      else pure ([], none)

/-- The loop of `_sync_protective_stops`. -/
def syncStops (venue : Dict Symbol VenueHolding) (openIds : List String) :
    List Symbol → Live (List String × List Mismatch)
  | [] => pure ([], [])
  | sym :: rest => do
      let (tracked, found) ← syncStop env venue openIds sym
      let (others, more) ← syncStops venue openIds rest
      pure (tracked ++ others, found.toList ++ more)

/-- `_sync_protective_stops`; without order execution it tracks nothing. -/
def syncProtectiveStops (venue : Dict Symbol VenueHolding) (openIds : List String) :
    Live (List String × List Mismatch) := do
  let s ← get
  if env.orderExecutionEnabled then syncStops env venue openIds s.wallet.positions.keys
  else pure ([], [])

/-- What `_cancel_orphan_orders` does about one order. -/
def cancelOrphan (internalSyms : List Symbol) (trackedIds : List String) (order : OpenOrder) :
    Live (Option Mismatch) :=
  match order.symbol with
  | none => pure none
  | some sym =>
      if order.exchangeOrderId = "" ∨ order.exchangeOrderId ∈ trackedIds ∨
          sym ∈ internalSyms ∨ ¬ env.orderExecutionEnabled then pure none
      else do
        let ok ← tryCatch (cancelOrder env order.exchangeOrderId) (fun _ => pure false)
        let detail :=
          if ok then "venue order with no internal position; cancelled"
          else "orphan order; cancel failed"
        pure (some
          { symbol := sym
            kind := .orphanOrder
            internal := .absent
            exchange := .order order.exchangeOrderId
            repaired := ok
            detail := detail })

/-- `_cancel_orphan_orders`. -/
def cancelOrphanOrders (internalSyms : List Symbol) (trackedIds : List String)
    (orders : List OpenOrder) : Live (List Mismatch) :=
  collect (cancelOrphan env internalSyms trackedIds) orders

/-- The symbols of the live positions. -/
def Wallet.liveSymbols (w : Wallet) : List Symbol :=
  (w.positions.filterVal EnhancedPosition.isLive).keys

/-- `_reconcile_protective_orders`. -/
def reconcileProtectiveOrders (snap : AccountSnapshot) (venue : Dict Symbol VenueHolding) :
    Live (List Mismatch) := do
  let (tracked, stops) ← syncProtectiveStops env venue snap.openIds
  let s ← get
  let orphans ← cancelOrphanOrders env s.wallet.liveSymbols tracked snap.openOrders
  pure (stops ++ orphans)

/-! ### The whole -/

/-- The snapshot, as far as it is compared. -/
def AccountSnapshot.scoped (snap : AccountSnapshot) (symbol : Option Symbol) :
    Dict Symbol VenueHolding := snap.positions.filterKeys (inScope symbol)

/-- The wallet's positions, as far as they are compared. -/
def Wallet.scopedPositions (w : Wallet) (symbol : Option Symbol) : Dict Symbol InternalHolding :=
  w.internalPositions.filterKeys (inScope symbol)

/-- The part of `_compare` before the protective orders. -/
def findPositionMismatches (snap : AccountSnapshot) (symbol : Option Symbol) :
    Live (List Mismatch) := do
  syncLeverage env snap symbol
  let s ← get
  comparePositions env r (s.wallet.scopedPositions symbol) (snap.scoped symbol)

/-- `_compare`. -/
def compare (snap : AccountSnapshot) (symbol : Option Symbol) : Live (List Mismatch) := do
  let positions ← findPositionMismatches env r snap symbol
  let orders ← reconcileProtectiveOrders env snap (snap.scoped symbol)
  pure (positions ++ orders)

/-- Cancel orders until one raises. -/
def cancelListed : List OrderRow → Live Unit
  | [] => pure ()
  | row :: rest => do
      if row.id ≠ "" then
        let _ ← cancelOrder env row.id
      cancelListed rest

/-- `cancel_all_orders`, less the count. -/
def cancelAllOrders (symbol : Option Symbol) : Live Unit := do
  let rows ← ofReply (← exchange env.venue.listOrders (fun _ => .listOrders))
  cancelListed env (rows.filter (fun row => inScope symbol row.symbol))

/-- What `reconcile` comes to: the mismatches, and the reason of the kill switch
where it was tripped. -/
structure Reconciliation where
  mismatches : List Mismatch
  tripped : Option String := none

/-- The mismatches left. -/
def unresolved (mismatches : List Mismatch) : List Mismatch :=
  mismatches.filter (fun m => !m.repaired)

/-- `reconcile`; without a snapshot nothing is compared. -/
def reconcile (snap : Option AccountSnapshot) (symbol : Option Symbol) : Live Reconciliation :=
  match snap with
  | none => pure { mismatches := [] }
  | some snap => do
      let mismatches ← compare env r snap symbol
      let left := (unresolved mismatches).length
      if left = 0 ∨ ¬ env.orderExecutionEnabled then pure { mismatches := mismatches }
      else do
        if r.strictCancel then
          tryCatch (cancelAllOrders env symbol) (fun _ => pure ())
        pure
          { mismatches := mismatches
            tripped := some s!"{left} unresolved reconciliation mismatch(es)" }

end CryptoTrader
