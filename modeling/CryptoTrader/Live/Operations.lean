import CryptoTrader.Exchange.Engine
import CryptoTrader.Wallet.Boot

/-!
# Trading operations with a live execution engine

`open_position`, `adopt_venue_position`, `partial_close`, `close_position`
and the protective orders of `wallet/_wallet.py` when an engine is attached.
An operation that trades has two locked phases with the venue call between
them; the lock is free around that call, and what other threads do there is an
`Interference`.  A nested call runs inside the caller's lock.
-/

namespace CryptoTrader

open CryptoTrader.Lib

/-- What other threads do to the world while an operation has released the
lock: before its venue call and after it. -/
structure Interference where
  before : World → World
  after : World → World

/-- The lock is never taken by anyone else. -/
def Interference.none : Interference := ⟨id, id⟩

/-- Run a wallet operation. -/
def onWallet {α : Type} (f : Wallet → α × Wallet) : Live α :=
  modifyGet (fun s => ((f s.wallet).1, { s with wallet := (f s.wallet).2 }))

/-- Change the wallet. -/
def modifyWallet (f : Wallet → Wallet) : Live Unit :=
  modify (fun s => { s with wallet := f s.wallet })

/-- A position object as it is now: the wallet's entry while it has one. -/
def current (pos : EnhancedPosition) : Live EnhancedPosition := do
  let s ← get
  pure ((s.wallet.positions.get? pos.symbol).getD pos)

variable (env : Env)

/-! ## The venue fill -/

/-- The `place_order` call of `_venue_fill`; the client order id reads the
clock. -/
def venueOrder (symbol : Symbol) (side : PositionSide) (quantity : Decimal) :
    Live PlacedOrder := do
  modifyWallet Wallet.tick
  let s ← get
  placeOrder env
    { symbol := symbol
      side := side
      quantity := quantity
      orderType := .market
      leverage := some (s.wallet.getLeverage symbol) }

/-- The fill `_venue_fill` makes of the order; the fee is that of the
requested quantity. -/
def fillOf (symbol : Symbol) (quantity : Decimal) (intent : String) (order : PlacedOrder) :
    Live ExternalFill := do
  let s ← get
  if order.avgFillPrice ≤ 0 then
    throw (.valueError (s!"venue fill for {symbol.name} ({intent}) returned no usable price "
      ++ s!"(order_id={order.id}); refusing to book a zero-price fill"))
  else
    pure
      { price := order.avgFillPrice
        fee := s.wallet.calculateFee (order.avgFillPrice * quantity) true
        orderId := order.id }

/-- `_venue_fill`. -/
def venueFill (symbol : Symbol) (side : PositionSide) (quantity : Decimal) (intent : String) :
    Live ExternalFill := do
  let order ← venueOrder env symbol side quantity
  fillOf symbol quantity intent order

/-- `_venue_position_qty`: `None` when the read fails. -/
def venuePositionQty (symbol : Symbol) : Live (Option Decimal) :=
  tryCatch (do
      let positions ← getPositions env
      pure (some (((positions.find? (fun p => p.symbol = symbol)).map
        VenuePosition.quantity).getD 0)))
    (fun _ => pure none)

/-! ## Cancelling protective orders -/

/-- The ids to cancel. -/
def ProtectiveOrders.ids (p : ProtectiveOrders) : List String :=
  (p.sl.toList ++ p.tp.toList).filter (· ≠ "")

/-- Cancel each id; a failure is logged and skipped. -/
def cancelEach : List String → Live Unit
  | [] => pure ()
  | id :: rest => do
      let _ ← tryCatch (cancelOrder env id) (fun _ => pure false)
      cancelEach rest

/-- `_cancel_protective_orders`. -/
def cancelProtectiveOrders (pos : EnhancedPosition) : Live Unit := do
  let s ← get
  if s.wallet.liveExecution ∧ pos.protectiveOrders.any then
    cancelEach env pos.protectiveOrders.ids
    modifyWallet (fun w =>
      (w.editPosition pos.symbol (fun pos => { pos with protectiveOrders := .none })).emit
        (.protectiveOrdersCancelled pos.symbol))
  else pure ()

/-! ## Closing -/

/-- What phase 1 of `close_position` reads: the side of the exit, the quantity
held, and the quantity the venue reports. -/
structure ClosePlan where
  side : PositionSide
  quantity : Decimal
  venueQty : Option Decimal

/-- The quantity to order after the flip guard: nothing when the venue is
flat, never more than the venue holds. -/
def ClosePlan.order (plan : ClosePlan) : Option Decimal :=
  match plan.venueQty with
  | none => some plan.quantity
  | some qty => if qty ≤ 0 then none else some (if qty < plan.quantity then qty else plan.quantity)

/-- Phase 1 of `close_position`. -/
def closePlan (symbol : Symbol) : Live (Option ClosePlan) := do
  let s ← get
  match s.wallet.getOpenPosition symbol with
  | none => pure none
  | some pos => do
      cancelProtectiveOrders env pos
      let pos ← current pos
      let venueQty ← venuePositionQty env symbol
      pure (some ⟨pos.side.exitSide, pos.remainingQuantity, venueQty⟩)

/-- The venue call between the phases of an exit. -/
def exitFill (symbol : Symbol) (side : PositionSide) (order : Option Decimal) (intent : String) :
    Live (Option ExternalFill) :=
  match order with
  | none => pure none
  | some qty => do
      let fill ← venueFill env symbol side qty intent
      pure (some fill)

/-- Phase 2 of `close_position`. -/
def closeBook (symbol : Symbol) (markPrice : Decimal) (reason : String)
    (fill : Option ExternalFill) : Live (Option EnhancedPosition) :=
  onWallet (fun w => w.bookClose symbol markPrice reason fill)

/-- `close_position`. -/
def closePosition (others : Interference) (symbol : Symbol) (markPrice : Decimal)
    (reason : String) (externalFill : Option ExternalFill) : Live (Option EnhancedPosition) := do
  let s ← get
  if externalFill.isNone ∧ s.wallet.liveExecution then
    match ← closePlan env symbol with
    | none => pure none
    | some plan => do
        modify others.before
        let fill ← exitFill env symbol plan.side plan.order "exit"
        modify others.after
        closeBook symbol markPrice reason fill
  else closeBook symbol markPrice reason externalFill

/-! ## Placing protective orders -/

/-- The price of an emergency exit. -/
def EnhancedPosition.emergencyPrice (pos : EnhancedPosition) : Decimal :=
  if pos.highestPrice > 0 then pos.highestPrice else pos.entryPrice

/-- What follows a failed stop under `require_venue_sl`: HALT, an attempt to
flatten, and an exception. -/
def requiredStopFailed {α : Type} (pos : EnhancedPosition) (msg : String) : Live α := do
  tripHalt
  let pos ← current pos
  let _ ← tryCatch
    (closePosition env .none pos.symbol pos.emergencyPrice "REQUIRED_SL_FAILED" none)
    (fun _ => pure none)
  throw (.runtimeError s!"Required venue Stop Loss placement failed: {msg}")

/-- `pos.protective_orders.update(placed)` and its event, when anything was
placed. -/
def recordProtective (pos : EnhancedPosition) (placed : ProtectiveOrders) : Live Unit :=
  if placed.any then
    modifyWallet (fun w =>
      (w.editPosition pos.symbol (fun pos =>
        { pos with
          protectiveOrders :=
            { sl := placed.sl.or pos.protectiveOrders.sl
              tp := placed.tp.or pos.protectiveOrders.tp } })).emit
        (.protectiveOrdersPlaced pos.symbol placed))
  else pure ()

/-- The price of the last take-profit level, when a target is to rest. -/
def EnhancedPosition.targetPrice (pos : EnhancedPosition) (venueTpEnabled : Bool) :
    Option Decimal :=
  if venueTpEnabled then pos.tpLevels.getLast?.map TpLevel.price else none

/-- `_venue_position_id`. -/
def venuePositionId (symbol : Symbol) : Live (Option String) :=
  tryCatch (do
      let positions ← getPositions env
      pure ((positions.find? (fun p => p.symbol = symbol ∧ p.positionId ≠ "")).map
        VenuePosition.positionId))
    (fun _ => pure none)

/-- `needle in text`. -/
def pyIn (needle text : String) : Bool := decide (needle.toList <:+: text.toList)

/-- `is_readonly`: the failure is the read-only mode's. -/
def isReadonly (e : PyErr) : Bool :=
  pyIn "PLACE_ORDER=false" e.pyStr || pyIn "read-only" e.pyStr.toLower

/-- The id of a placed leg: its own, or the position's. -/
def legId (leg : Json) (positionId : String) : String :=
  if (leg.get "id").truthy then (leg.get "id").pyStr else s!"tpsl:{positionId}"

/-- What `_place_position_tpsl` reads off the response of `create_tpsl`: the
stop counts as placed unless its leg says `success: false`. -/
def placedLegs (request : TpslRequest) (resp : Json) : Except PyErr ProtectiveOrders :=
  let slLeg := resp.get "stop_loss"
  let tpLeg := resp.get "take_profit"
  if slLeg.isDict ∧ (slLeg.get "success").isFalse then
    let error := slLeg.get "error"
    .error (.runtimeError s!"SL leg rejected: {error.pyStr}")
  else
    .ok
      { sl := some (legId slLeg request.positionId)
        tp :=
          if request.takeProfit.isSome ∧ tpLeg.isDict ∧ ¬ (tpLeg.get "success").isFalse then
            some (legId tpLeg request.positionId)
          else none }

/-- The prices sent to `create_tpsl`, rounded when the instrument can be read. -/
def tpslRequest (pos : EnhancedPosition) (positionId : String) (venueTpEnabled : Bool)
    (spec : Option InstrumentSpec) : TpslRequest :=
  let round (price : Decimal) : Decimal := (spec.map (·.roundPrice price)).getD price
  { positionId := positionId
    symbol := pos.symbol
    stopLoss := round pos.slPrice
    takeProfit := (pos.targetPrice venueTpEnabled).map round }

/-- `_place_position_tpsl`. -/
def placePositionTpsl (pos : EnhancedPosition) : Live Unit := do
  let s ← get
  let cfg := s.wallet.cfg
  match ← venuePositionId env pos.symbol with
  | none =>
      if cfg.requireVenueSl then
        requiredStopFailed env pos
          "venue position id not found (cannot attach SL via create_tpsl)"
      else pure ()
  | some positionId => do
      let spec ← tryCatch (some <$> getSpec env pos.symbol) (fun _ => pure none)
      let request := tpslRequest pos positionId cfg.venueTpEnabled spec
      let placed ← tryCatch (do
          let resp ← createPositionTpsl env request
          ofReply (placedLegs request resp))
        (fun e =>
          if cfg.requireVenueSl ∧ ¬ isReadonly e then requiredStopFailed env pos e.pyStr
          else pure .none)
      recordProtective pos placed

/-- The id of a separate protective order of the whole position. -/
def placeSeparate (pos : EnhancedPosition) (orderType : OrderType) (trigger : Decimal) :
    Live (Option String) := do
  let order ← placeOrder env
    { symbol := pos.symbol
      side := pos.side.exitSide
      quantity := pos.remainingQuantity
      orderType := orderType
      triggerPrice := some trigger
      leverage := some pos.leverage }
  pure (if order.id = "" then none else some order.id)

/-- The legacy fallback of `_place_protective_orders`: separate opposite-side
orders. -/
def placeSeparateOrders (pos : EnhancedPosition) : Live Unit := do
  let s ← get
  let cfg := s.wallet.cfg
  let sl ← tryCatch (placeSeparate env pos .stopMarket pos.slPrice)
    (fun e =>
      if cfg.requireVenueSl then requiredStopFailed env pos e.pyStr else pure none)
  let tp ← match pos.targetPrice cfg.venueTpEnabled with
    | none => pure none
    | some price =>
        tryCatch (placeSeparate env pos .takeProfit price) (fun _ => pure none)
  recordProtective pos ⟨sl, tp⟩

/-- `_place_protective_orders`. -/
def placeProtectiveOrders (pos : EnhancedPosition) : Live Unit := do
  let s ← get
  if s.wallet.liveExecution ∧ s.wallet.cfg.venueSlEnabled then
    if env.tpslEndpoint then placePositionTpsl env pos else placeSeparateOrders env pos
  else pure ()

/-! ## Opening -/

/-- Phase 1 of `open_position`: the quantity to order. -/
def Wallet.openPlan (w : Wallet) (symbol : Symbol) (setup : Setup)
    (customMargin customQuantity : Option Decimal) : Except PyErr (Option Decimal) :=
  if !(w.canOpen symbol).1 then .ok none
  else
    match customQuantity.filter (0 < ·) with
    | some qty => .ok (some qty)
    | none =>
        let margin := customMargin.getD (w.availableBalance * w.cfg.equityUtilization)
        if margin ≤ 0 then .ok none
        else if setup.entryPrice = 0 then .error .divisionByZero
        else .ok (some (margin * (w.getLeverage symbol : ℕ) / setup.entryPrice))

/-- Phase 2 of `open_position`. -/
def openBook (symbol : Symbol) (setup : Setup) (markPrice : Decimal)
    (customMargin customQuantity : Option Decimal) (fill : Option ExternalFill)
    (liveQty : Option Decimal) : Live (Option EnhancedPosition) := do
  let booked ← onWallet (fun w =>
    w.bookOpen symbol setup markPrice customMargin customQuantity fill liveQty)
  match ← ofReply booked with
  | none => pure none
  | some pos => do
      placeProtectiveOrders env pos
      modifyWallet Wallet.save
      let pos ← current pos
      pure (some pos)

/-- `open_position`. -/
def openPosition (others : Interference) (symbol : Symbol) (setup : Setup) (markPrice : Decimal)
    (customMargin customQuantity : Option Decimal) (externalFill : Option ExternalFill) :
    Live (Option EnhancedPosition) := do
  let s ← get
  if externalFill.isNone ∧ s.wallet.liveExecution then
    match ← ofReply (s.wallet.openPlan symbol setup customMargin customQuantity) with
    | none => pure none
    | some qty => do
        modify others.before
        let fill ← venueFill env symbol setup.side qty "entry"
        modify others.after
        openBook env symbol setup markPrice customMargin customQuantity (some fill) (some qty)
  else openBook env symbol setup markPrice customMargin customQuantity externalFill none

/-- `adopt_venue_position`. -/
def adoptVenuePosition (r : AdoptRequest) : Live (Option EnhancedPosition) := do
  match ← onWallet (fun w => w.bookAdoption r) with
  | none => pure none
  | some pos => do
      placeProtectiveOrders env pos
      modifyWallet Wallet.save
      let pos ← current pos
      pure (some pos)

/-! ## Partial closes -/

/-- What phase 1 of `partial_close` reads: the side of the exit, the quantity,
and whether protective orders had been resting. -/
structure PartialPlan where
  side : PositionSide
  quantity : Decimal
  hadProtective : Bool

/-- The quantity to order. -/
def PartialPlan.order (plan : PartialPlan) : Option Decimal :=
  if 0 < plan.quantity then some plan.quantity else none

/-- Phase 1 of `partial_close`. -/
def partialPlan (symbol : Symbol) (pct : Decimal) : Live (Option PartialPlan) := do
  let s ← get
  match s.wallet.getOpenPosition symbol with
  | none => pure none
  | some pos => do
      let hadProtective := pos.protectiveOrders.any
      cancelProtectiveOrders env pos
      let pos ← current pos
      pure (some ⟨pos.side.exitSide, pos.remainingQuantity * pct, hadProtective⟩)

/-- Whether a position is left without the stop it must have. -/
def Wallet.lacksRequiredStop (w : Wallet) (pos : EnhancedPosition) : Bool :=
  w.liveExecution && w.cfg.venueSlEnabled && w.cfg.requireVenueSl &&
    !(pos.protectiveOrders.sl.any (· ≠ ""))

/-- The end of `partial_close`: put the stop back, and HALT when none came of
it. -/
def restoreProtective (symbol : Symbol) : Live Unit := do
  let s ← get
  match s.wallet.getOpenPosition symbol with
  | none => pure ()
  | some pos => do
      placeProtectiveOrders env pos
      let pos ← current pos
      let s ← get
      if s.wallet.lacksRequiredStop pos then tripHalt else pure ()

/-- Phase 2 of `partial_close`. -/
def partialBook (symbol : Symbol) (markPrice pct : Decimal) (reason : String)
    (tpLabel : Option String) (fill : Option ExternalFill) (hadProtective : Bool) :
    Live PartialResult := do
  match ← onWallet (fun w => w.bookPartial symbol markPrice pct reason tpLabel fill) with
  | none => pure (.slice 0)
  | some pnl => do
      let s ← get
      if s.wallet.isDust symbol then
        let pos ← closePosition env .none symbol markPrice "FULL_VIA_PARTIALS" none
        pure (.full pos)
      else do
        if hadProtective then restoreProtective env symbol
        modifyWallet Wallet.save
        pure (.slice pnl)

/-- `partial_close`. -/
def partialClose (others : Interference) (symbol : Symbol) (markPrice pct : Decimal)
    (reason : String) (tpLabel : Option String) (externalFill : Option ExternalFill) :
    Live PartialResult := do
  let s ← get
  if externalFill.isNone ∧ s.wallet.liveExecution then
    match ← partialPlan env symbol pct with
    | none => pure (.slice 0)
    | some plan => do
        modify others.before
        let fill ← exitFill env symbol plan.side plan.order "exit-partial"
        modify others.after
        partialBook env symbol markPrice pct reason tpLabel fill plan.hadProtective
  else partialBook env symbol markPrice pct reason tpLabel externalFill false

/-! ## Other operations -/

/-- `adjust_sl_price`; the venue does not hear of it. -/
def adjustSlPrice (symbol : Symbol) (newSlPrice : Decimal) : Live Unit :=
  modifyWallet (fun w => w.adjustSlPrice symbol newSlPrice)

/-- `apply_external_fill`: an exit closes the whole position at the fill's
price, whatever its quantity. -/
def applyExternalFill (symbol : Symbol) (fillPrice fillQuantity : Decimal) (orderId : String)
    (reduceOnly : Bool) (setup : Option Setup) : Live (Option EnhancedPosition) :=
  let external : ExternalFill := { price := fillPrice, fee := 0, orderId := orderId }
  if reduceOnly then closePosition env .none symbol fillPrice "VENUE_EXIT" (some external)
  else
    match setup with
    | none => throw (.valueError "apply_external_fill entry requires a setup dict")
    | some setup =>
        openPosition env .none symbol setup fillPrice none (some fillQuantity) (some external)

/-! ## Inputs of the worked runs -/

/-- The net position the executed orders add up to. -/
def netPosition (trace : List Interaction) (symbol : Symbol) : Decimal :=
  ((created trace).map (fun c =>
    if c.body.symbol = symbol then c.body.side.sign * c.outcome.executed else 0)).sum

/-- A venue that fills every market order at once at 100, takes every stop and
keeps every promise.  `step` is the quantity step of its instruments. -/
def fairVenue (step : Decimal) : Venue :=
  { instrument := fun _ => ⟨1 / 100, step, 0, 0, 10⟩
    initialLeverage := fun _ => 10
    getSpec := fun _ _ => none
    createOrder := fun trace body =>
      match body.orderType with
      | .market =>
          ⟨true, body.totalQuantity,
            .ok ⟨s!"o{trace.length}", "filled", body.totalQuantity, 100⟩⟩
      | _ => ⟨true, 0, .ok ⟨s!"o{trace.length}", "open", 0, 0⟩⟩
    cancelOrder := fun _ _ => ⟨true, .ok ()⟩
    listOrders := fun _ => .ok []
    listTrades := fun _ _ _ => .ok []
    listPositions := fun trace => .ok [⟨demoSymbol, "p1", netPosition trace demoSymbol⟩]
    createTpsl := fun trace _ =>
      ⟨some s!"s{trace.length}", none,
        .ok (.obj [("stop_loss", .obj [("id", .str s!"s{trace.length}")])])⟩
    updateLeverage := fun _ _ _ => ⟨true, .ok ()⟩ }

/-- Its instruments trade in whole units. -/
def demoEnv : Env := { venue := fairVenue 1 }

/-- A fresh wallet with the engine attached. -/
def demoWorld : World :=
  { wallet := { Wallet.boot demoInit id {} false with liveExecution := true }
    engineLeverage := 10
    halt := false
    trace := [] }

/-- A long of the demo symbol at 100 with a stop at 95. -/
def demoSetup : Setup :=
  { side := .long, playbook := .intraday, entryPrice := 100, slPrice := 95 }

end CryptoTrader
