import CryptoTrader.Orders.Lifecycle

/-!
# Submitting orders

`OrderManager` of `execution/order_manager.py`: the duplicate guard, the retry
loop and the mapping of the venue's status.  The client order id is what
`make_client_order_id` made of symbol, intent and nonce.
-/

namespace CryptoTrader.Orders

open CryptoTrader.Lib

/-- What `submit` is called with. -/
structure Submission where
  clientOrderId : String
  symbol : String
  side : PositionSide
  quantity : Decimal
  orderType : OrderType := .market
  intent : String := "entry"
  triggerPrice : Option Decimal := none
  limitPrice : Option Decimal := none
  reduceOnly : Bool := false
  expiresAt : Option ℕ := none
  deriving DecidableEq

/-- What is read of the order that `place_order` returns. -/
structure VenueOrder where
  id : String
  status : OrderStatus
  filledQuantity : Decimal := 0
  avgFillPrice : Decimal := 0
  deriving DecidableEq

/-- What is published on the bus. -/
inductive OrderEvent where
  | submitted (symbol : String) (side : PositionSide) (clientOrderId exchangeOrderId : String)
      (orderType : OrderType) (quantity : Decimal) (reduceOnly : Bool)
  | filled (symbol : String) (side : PositionSide) (clientOrderId exchangeOrderId : String)
      (fillPrice fillQuantity : Decimal) (isPartial : Bool)
  deriving DecidableEq

/-- `OrderManager` with its engine, whose `n`-th `place_order` answers
`engine n`; `placed` are the calls made so far. -/
structure OrderManager where
  engine : ℕ → Except PyErr VenueOrder
  maxRetries : ℤ := 2
  bus : Bool := false
  lifecycles : Dict String OrderLifecycle := Dict.empty
  placed : List Submission := []
  events : List OrderEvent := []

abbrev Orders := EStateM OrderError OrderManager

/-- `_has_working_entry`. -/
def OrderManager.hasWorkingEntry (m : OrderManager) (symbol : String) : Bool :=
  m.lifecycles.values.any (fun lc =>
    !lc.terminal && lc.symbol.toUpper = symbol.toUpper && lc.intent ≠ "exit")

/-- `_guard_duplicate_submission`. -/
def OrderManager.guardDuplicateSubmission (m : OrderManager) (r : Submission) :
    Except OrderError Unit :=
  match (m.lifecycles.get? r.clientOrderId).filter (fun lc => !lc.terminal) with
  | some lc =>
      let state := lc.state.value
      .error (.duplicateOrder s!"order {r.clientOrderId} already in-flight ({state})")
  | none =>
      if !r.reduceOnly && m.hasWorkingEntry r.symbol then
        .error (.duplicateOrder s!"working entry already exists for {r.symbol}")
      else .ok ()

/-- `_resolve_venue_state`. -/
def resolveVenueState (order : VenueOrder) : OrderState :=
  match order.status with
  | .filled => .filled
  | .partiallyFilled => .partialFill
  | .rejected => .rejected
  | .expired => .expired
  | .cancelled => .cancelled
  | .new | .pending => .acked

/-- `lifecycle.transition`, on the lifecycle of a client order id. -/
def transition (clientOrderId : String) (target : OrderState) : Orders Unit := do
  let m ← get
  match m.lifecycles.get? clientOrderId with
  | none => throw (.runtimeError clientOrderId)
  | some lc =>
      match lc.transition target with
      | .error e => throw e
      | .ok lc => set { m with lifecycles := m.lifecycles.set clientOrderId lc }

/-- `engine.place_order`. -/
def placeOrder (r : Submission) : Orders VenueOrder := do
  let m ← get
  set { m with placed := m.placed ++ [r] }
  match m.engine m.placed.length with
  | .error e => throw (.venue e)
  | .ok order => pure order

/-- `bus.publish`, if there is a bus; what the subscribers raise is logged. -/
def publish (event : OrderEvent) : Orders Unit :=
  modify (fun m => if m.bus then { m with events := m.events ++ [event] } else m)

/-- `_update_lifecycle_from_venue`. -/
def updateLifecycleFromVenue (r : Submission) (order : VenueOrder) : Orders Unit := do
  transition r.clientOrderId (resolveVenueState order)
  publish (.submitted r.symbol r.side r.clientOrderId order.id r.orderType r.quantity r.reduceOnly)

/-- `_publish_fill`. -/
def publishFill (r : Submission) (order : VenueOrder) : Orders Unit :=
  if order.filledQuantity ≤ 0 then pure ()
  else
    publish (.filled r.symbol r.side r.clientOrderId order.id order.avgFillPrice
      order.filledQuantity (order.status = .partiallyFilled))

/-- `_place_single_attempt`. -/
def placeSingleAttempt (r : Submission) : Orders VenueOrder := do
  transition r.clientOrderId .submitted
  let order ← placeOrder r
  updateLifecycleFromVenue r order
  publishFill r order
  pure order

/-- `_execute_with_retry`, with the attempts left and the last exception. -/
def executeWithRetry (r : Submission) : ℕ → Option OrderError → Orders VenueOrder
  | 0, lastExc => do
      transition r.clientOrderId .failed
      throw (lastExc.getD (.runtimeError "order submission failed"))
  | attempts + 1, _ => do
      match ← attempt (placeSingleAttempt r) with
      | .ok order => pure order
      | .error e => executeWithRetry r attempts (some e)

/-- `setdefault` of the lifecycle. -/
def OrderManager.register (m : OrderManager) (r : Submission) : OrderManager :=
  match m.lifecycles.get? r.clientOrderId with
  | some _ => m
  | none =>
      { m with
        lifecycles := m.lifecycles.set r.clientOrderId
          { clientOrderId := r.clientOrderId, symbol := r.symbol, intent := r.intent } }

/-- How often the retry loop runs at most. -/
def OrderManager.attempts (m : OrderManager) : ℕ := (m.maxRetries + 1).toNat

/-- `submit`. -/
def submit (r : Submission) : Orders VenueOrder := do
  let m ← get
  match m.guardDuplicateSubmission r with
  | .error e => throw e
  | .ok () => do
      set (m.register r)
      executeWithRetry r m.attempts none

end CryptoTrader.Orders
