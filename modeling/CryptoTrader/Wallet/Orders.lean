import CryptoTrader.Wallet.State
import Mathlib.Algebra.Order.Ring.Abs

/-!
# Orders of the wallet

Prices, fees and sizes an operation reads from the wallet, the simulated
order book (`_create_order`, `_record_fill`, `place_pending_order`,
`cancel_order`, `evaluate_pending_orders`) and the invariant sweep that ends
an evaluation.
-/

namespace CryptoTrader

open CryptoTrader.Lib

/-! ## Reading the wallet -/

/-- `get_open_position`. -/
def Wallet.getOpenPosition (w : Wallet) (symbol : Symbol) : Option EnhancedPosition :=
  (w.positions.get? symbol).filter (fun pos => pos.status = .opened)

theorem Wallet.getOpenPosition_eq_some {w : Wallet} {symbol : Symbol} {pos : EnhancedPosition} :
    w.getOpenPosition symbol = some pos ↔
      w.positions.get? symbol = some pos ∧ pos.status = .opened := by
  simp [getOpenPosition, Option.filter_eq_some_iff]

/-- `margin_balance`. -/
def Wallet.marginBalance (w : Wallet) : Decimal := w.walletBalance + w.unrealizedPnlTotal

/-- Margin locked by the open positions. -/
def Wallet.usedMargin (w : Wallet) : Decimal :=
  ((w.positions.values.filter (fun pos => pos.status = .opened)).map
    EnhancedPosition.marginUsed).sum

/-- `available_balance`. -/
def Wallet.availableBalance (w : Wallet) : Decimal := max 0 (w.marginBalance - w.usedMargin)

/-- `can_open`. -/
def Wallet.canOpen (w : Wallet) (symbol : Symbol) : Bool × String :=
  if w.halted then (false, "Wallet is halted due to invariant violation")
  else if (w.getOpenPosition symbol).isSome then
    (false, s!"Already have open position on {symbol.name}")
  else if w.availableBalance ≤ 0 then (false, "No available balance")
  else (true, "OK")

/-- A position can be opened on a flat symbol only. -/
theorem Wallet.flat_of_canOpen (w : Wallet) {symbol : Symbol} (h : (w.canOpen symbol).1) :
    w.getOpenPosition symbol = none := by
  unfold canOpen at h
  by_cases hhalted : w.halted
  · simp [hhalted] at h
  · by_cases hheld : (w.getOpenPosition symbol).isSome
    · simp [hhalted, hheld] at h
    · exact Option.not_isSome_iff_eq_none.mp hheld

/-- `_calculate_fee`. -/
def Wallet.calculateFee (w : Wallet) (notional : Decimal) (isTaker : Bool) : Decimal :=
  |notional| * (if isTaker then w.takerFeeRate else w.makerFeeRate)

/-- `_calculate_tds`: deducted on the sell leg only. -/
def Wallet.calculateTds (w : Wallet) (isSellLeg : Bool) (grossValue : Decimal) : Decimal :=
  if !w.cfg.tdsEnabled || !isSellLeg then 0 else |grossValue| * w.cfg.tdsRate

/-- `_execution_price`; the spread and the slippage come from the setup. -/
def Wallet.executionPrice (w : Wallet) (markPrice : Decimal) (side : PositionSide)
    (isEntry : Bool) (spreadBps slippageBps : Decimal) : Decimal :=
  let bump := w.cfg.paperSpreadCoeff.getD ((spreadBps + slippageBps) / 10000)
  match isEntry, side with
  | true, .long | false, .short => markPrice * (1 + bump)
  | true, .short | false, .long => markPrice * (1 - bump)

/-- `spread_bps` of an empty setup. -/
def defaultSpreadBps : Decimal := 2

/-- `slippage_bps` of an empty setup. -/
def defaultSlippageBps : Decimal := 3

/-! ## Creating and filling orders -/

/-- An `Order`: its id and the fields it was created with. -/
structure Order where
  id : String
  data : OrderData

/-- The arguments of `_create_order_with_type`. -/
structure OrderRequest where
  symbol : Symbol
  side : PositionSide
  quantity : Decimal
  orderType : OrderType
  reduceOnly : Bool := false
  triggerPrice : Option Decimal := none
  limitPrice : Option Decimal := none
  expiresAt : Option Nat := none

/-- The id of the next order: symbol, time and number of orders. -/
def Wallet.nextOrderId (w : Wallet) (symbol : Symbol) : String :=
  s!"{symbol.name}-{w.nowMs}-{w.runtime.orders.size + 1}"

/-- The payload of the `ORDER_CREATED` event for a request. -/
def OrderRequest.payload (r : OrderRequest) (orderId : String) : OrderPayload :=
  { orderId := orderId
    symbol := r.symbol
    side := r.side
    quantity := r.quantity
    status := .pending
    orderType := r.orderType
    reduceOnly := r.reduceOnly
    triggerPrice := r.triggerPrice
    limitPrice := r.limitPrice
    expiresAt := r.expiresAt }

/-- `_create_order_with_type`. -/
def Wallet.createOrderWithType (w : Wallet) (r : OrderRequest) : Order × Wallet :=
  let p := r.payload (w.nextOrderId r.symbol)
  ({ id := p.orderId, data := p.toOrderData }, w.tick.emit (.orderCreated p))

/-- `_create_order`. -/
def Wallet.createOrder (w : Wallet) (symbol : Symbol) (side : PositionSide)
    (quantity : Decimal) : Order × Wallet :=
  w.createOrderWithType
    { symbol := symbol, side := side, quantity := quantity, orderType := .market }

/-- The order object as `_sync_orders_from_reducer` keeps it. -/
def Wallet.currentOrder (w : Wallet) (order : Order) : OrderData :=
  (w.runtime.orders.get? order.id).getD order.data

/-- `_record_fill`. -/
def Wallet.recordFill (w : Wallet) (order : Order) (quantity fillPrice fee : Decimal)
    (sequence : Nat) : Wallet :=
  let current := w.currentOrder order
  w.emit (.orderFilled
    { orderId := order.id
      symbol := current.symbol
      side := current.side
      quantity := quantity
      fillPrice := fillPrice
      fee := fee
      status :=
        if current.quantity ≤ current.filledQuantity + quantity then .filled else .partiallyFilled
      sequence := sequence })

/-- `Decimal.quantize(Decimal("0.00000001"))`: half to even at eight places. -/
def quantize8 (x : Decimal) : Decimal :=
  let scaled := x * 100000000
  let low := scaled.floor
  let rest := scaled - low
  let rounded :=
    if rest < 1 / 2 then low
    else if 1 / 2 < rest then low + 1
    else if low % 2 = 0 then low else low + 1
  (rounded : Decimal) / 100000000

/-- The loop of `_execute_order_in_chunks`: `left` chunks to go, the last of
which takes whatever remains. -/
def Wallet.executeChunks (order : Order) (chunkQty fillPrice feeRate : Decimal) :
    (left idx : Nat) → (remaining totalFee : Decimal) → Wallet → Decimal × Wallet
  | 0, _, _, totalFee, w => (totalFee, w)
  | left + 1, idx, remaining, totalFee, w =>
      let qty := if left = 0 then remaining else chunkQty
      let chunkFee := |qty * fillPrice| * feeRate
      executeChunks order chunkQty fillPrice feeRate left (idx + 1) (remaining - chunkQty)
        (totalFee + chunkFee) (w.recordFill order qty fillPrice chunkFee idx)

/-- `_execute_order_in_chunks`. -/
def Wallet.executeOrderInChunks (w : Wallet) (order : Order)
    (totalQuantity fillPrice feeRate : Decimal) (chunkCount : Int) : Decimal × Wallet :=
  let count := (max 1 chunkCount).toNat
  executeChunks order (quantize8 (totalQuantity / count)) fillPrice feeRate count 1
    totalQuantity 0 w

/-- `place_pending_order`. -/
def Wallet.placePendingOrder (w : Wallet) (r : OrderRequest) : Except PyErr Order × Wallet :=
  if w.halted then
    (.error (.valueError "Cannot place order: Wallet is halted due to invariant violation"), w)
  else
    let (order, w) := w.createOrderWithType r
    (.ok order, w)

/-- `cancel_order`. -/
def Wallet.cancelOrder (w : Wallet) (orderId reason : String) : Bool × Wallet :=
  match w.runtime.orders.get? orderId with
  | none => (false, w)
  | some order =>
      if order.status ∈ [OrderStatus.filled, .cancelled, .rejected, .expired] then (false, w)
      else (true, w.emit (.orderCancelled orderId reason))

/-! ## The invariant sweep -/

structure InvariantRule where
  name : String
  severity : Severity
  fn : Wallet → Option ViolationContext

/-- `_check_equity_consistency`. -/
def Wallet.checkEquityConsistency (w : Wallet) : Option ViolationContext :=
  let expected := w.walletBalance + w.unrealizedPnlTotal
  let actual := w.marginBalance
  let diff := |actual - expected|
  if diff > 1 / 10000 then some (.equity expected actual diff) else none

/-- `_check_order_fill_limits`. -/
def Wallet.checkOrderFillLimits (w : Wallet) : Option ViolationContext :=
  w.runtime.orders.entries.findSome? (fun (orderId, order) =>
    let filledSum :=
      ((w.runtime.fills.filter (fun f => f.orderId = orderId)).map FillPayload.quantity).sum
    if filledSum > order.quantity then some (.sumFills orderId filledSum order.quantity)
    else if order.filledQuantity > order.quantity then
      some (.overFilled orderId order.filledQuantity order.quantity)
    else none)

/-- `_check_remaining_quantity_non_negative`. -/
def Wallet.checkRemainingQuantityNonNegative (w : Wallet) : Option ViolationContext :=
  (w.runtime.orders.entries.findSome? (fun (orderId, order) =>
    let remaining := order.quantity - order.filledQuantity
    if remaining < 0 then some (.orderRemaining orderId remaining) else none)).or
  (w.positions.entries.findSome? (fun (symbol, pos) =>
    if pos.status = .opened ∧ pos.remainingQuantity < 0
    then some (.positionRemaining symbol pos.remainingQuantity) else none))

/-- `_check_available_margin_non_negative`. -/
def Wallet.checkAvailableMarginNonNegative (w : Wallet) : Option ViolationContext :=
  if w.availableBalance < 0 then some (.availableMargin w.availableBalance) else none

/-- Working reduce-only orders by symbol, as the `defaultdict` collects them. -/
def Wallet.activeReduceOnly (w : Wallet) : Dict Symbol (List (String × OrderData)) :=
  (w.runtime.orders.entries.filter (fun (_, order) =>
      (order.status = .new ∨ order.status = .pending) ∧ order.reduceOnly)).foldl
    (fun groups entry =>
      groups.set entry.2.symbol ((groups.get? entry.2.symbol).getD [] ++ [entry])) Dict.empty

/-- `_check_reduce_only_never_increases_exposure`. -/
def Wallet.checkReduceOnlyNeverIncreasesExposure (w : Wallet) : Option ViolationContext :=
  w.activeReduceOnly.entries.findSome? (fun (symbol, orders) =>
    match w.getOpenPosition symbol with
    | none =>
        some (.reduceOnlyWithoutPosition symbol "No open position for reduce_only order"
          (orders.map Prod.fst))
    | some pos =>
        match orders.find? (fun (_, order) => order.side ≠ pos.side.exitSide) with
        | some (orderId, order) =>
            some (.reduceOnlySide symbol orderId
              s!"reduce_only side {order.side.pyStr} does not reduce position {pos.side.pyStr}")
        | none =>
            let totalQty := (orders.map (fun (_, order) => order.quantity)).sum
            if totalQty > pos.remainingQuantity then
              some (.reduceOnlyTotal symbol
                "Sum of reduce_only orders exceeds position remaining quantity"
                totalQty pos.remainingQuantity (orders.map Prod.fst))
            else none)

/-- `_register_default_invariants`. -/
def invariantRules : List InvariantRule :=
  [ ⟨"equity_consistency", .fatal, Wallet.checkEquityConsistency⟩,
    ⟨"order_fill_limits", .critical, Wallet.checkOrderFillLimits⟩,
    ⟨"remaining_quantity_non_negative", .critical, Wallet.checkRemainingQuantityNonNegative⟩,
    ⟨"available_margin_non_negative", .critical, Wallet.checkAvailableMarginNonNegative⟩,
    ⟨"reduce_only_never_increases_exposure", .critical,
      Wallet.checkReduceOnlyNeverIncreasesExposure⟩ ]

/-- Whether a violation of this severity halts the wallet. -/
def WalletConfig.haltsOn (cfg : WalletConfig) : Severity → Bool
  | .fatal => cfg.haltOnFatal
  | .critical => cfg.haltOnCritical
  | .info | .warning => false

/-- One rule of the sweep. -/
def Wallet.checkRule (w : Wallet) (rule : InvariantRule) : Wallet :=
  match rule.fn w with
  | none => w
  | some context =>
      let w := w.emit (.invariantViolation
        { ruleName := rule.name, severity := rule.severity, context := context })
      { w with halted := w.halted || w.cfg.haltsOn rule.severity }

/-- `run_invariant_sweep`. -/
def Wallet.runInvariantSweep (w : Wallet) : Wallet := invariantRules.foldl Wallet.checkRule w

/-! ## Evaluating pending orders -/

/-- `_should_trigger_order`. -/
def OrderData.shouldTrigger (order : OrderData) (markPrice : Decimal) : Bool :=
  match order.orderType, order.limitPrice, order.triggerPrice, order.side with
  | .market, _, _, _ => true
  | .limit, some limit, _, .long => markPrice ≤ limit
  | .limit, some limit, _, .short => limit ≤ markPrice
  | .limit, none, _, _ => false
  | .stopMarket, _, some trigger, .long | .takeProfit, _, some trigger, .long =>
      trigger ≤ markPrice
  | .stopMarket, _, some trigger, .short | .takeProfit, _, some trigger, .short =>
      markPrice ≤ trigger
  | .stopMarket, _, none, _ | .takeProfit, _, none, _ => false

/-- What `evaluate_pending_orders` does with an order that has not expired. -/
def Wallet.tryTrigger (w : Wallet) (symbol : Symbol) (price : Decimal) (order : Order) :
    Wallet :=
  let data := w.currentOrder order
  let position := w.getOpenPosition symbol
  if !data.shouldTrigger price then w
  else if data.reduceOnly && position.isNone then
    w.emit (.orderRejected order.id none "REDUCE_ONLY_WITHOUT_POSITION")
  else if data.reduceOnly && position.any (fun pos => pos.side = data.side) then
    w.emit (.orderRejected order.id none "REDUCE_ONLY_EXPOSURE_INCREASE")
  else
    let fillPrice := w.executionPrice price data.side true defaultSpreadBps defaultSlippageBps
    let remaining := max 0 (data.quantity - data.filledQuantity)
    if 0 < remaining then
      (w.executeOrderInChunks order remaining fillPrice w.takerFeeRate 1).2
    else w

/-- The loop body of `evaluate_pending_orders`. -/
def Wallet.evaluateOrder (symbol : Symbol) (price : Decimal) (w : Wallet) (order : Order) :
    Wallet :=
  let data := w.currentOrder order
  if data.symbol ≠ symbol ∨ data.status ≠ .pending then w
  else
    match data.expiresAt.filter (· ≠ 0) with
    | none => w.tryTrigger symbol price order
    | some expiresAt =>
        if expiresAt ≤ w.nowMs then w.tick.emit (.orderExpired order.id)
        else w.tick.tryTrigger symbol price order

/-- `list(self.orders.values())`. -/
def Wallet.orderList (w : Wallet) : List Order :=
  w.runtime.orders.entries.map (fun (orderId, data) => ⟨orderId, data⟩)

/-- `evaluate_pending_orders`. -/
def Wallet.evaluatePendingOrders (w : Wallet) (symbol : Symbol) (markPrice : Decimal) : Wallet :=
  if w.halted then w
  else (w.orderList.foldl (Wallet.evaluateOrder symbol markPrice) w).runInvariantSweep

/-! ## Their durable steps -/

section OrderSteps

variable {u w : Wallet}

theorem Wallet.Steps.recordFill (h : Wallet.Steps u w) (order : Order)
    (quantity fillPrice fee : Decimal) (sequence : Nat) :
    Wallet.Steps u (w.recordFill order quantity fillPrice fee sequence) :=
  h.emit _

theorem Wallet.Steps.executeChunks (order : Order) (chunkQty fillPrice feeRate : Decimal)
    (left : Nat) : ∀ {w : Wallet} (idx : Nat) (remaining totalFee : Decimal),
    Wallet.Steps u w →
      Wallet.Steps u
        (Wallet.executeChunks order chunkQty fillPrice feeRate left idx remaining totalFee w).2 := by
  induction left with
  | zero => intro w idx remaining totalFee h; exact h
  | succ left ih =>
      intro w idx remaining totalFee h
      exact ih (idx + 1) _ _ (h.recordFill order _ fillPrice _ idx)

theorem Wallet.Steps.executeOrderInChunks (h : Wallet.Steps u w) (order : Order)
    (totalQuantity fillPrice feeRate : Decimal) (chunkCount : Int) :
    Wallet.Steps u (w.executeOrderInChunks order totalQuantity fillPrice feeRate chunkCount).2 :=
  Wallet.Steps.executeChunks order _ fillPrice feeRate _ 1 totalQuantity 0 h

theorem Wallet.Steps.createOrderWithType (h : Wallet.Steps u w) (r : OrderRequest) :
    Wallet.Steps u (w.createOrderWithType r).2 :=
  h.tick.emit _

theorem Wallet.placePendingOrder_steps (w : Wallet) (r : OrderRequest) :
    Wallet.Steps w (w.placePendingOrder r).2 := by
  unfold placePendingOrder
  split
  · exact .refl w
  · exact (Steps.refl w).createOrderWithType r

theorem Wallet.cancelOrder_steps (w : Wallet) (orderId reason : String) :
    Wallet.Steps w (w.cancelOrder orderId reason).2 := by
  unfold cancelOrder
  split
  · exact .refl w
  · split
    · exact .refl w
    · exact (Steps.refl w).emit _

theorem Wallet.Steps.runInvariantSweep (h : Wallet.Steps u w) :
    Wallet.Steps u w.runInvariantSweep := by
  unfold Wallet.runInvariantSweep
  generalize invariantRules = rules
  induction rules generalizing w with
  | nil => exact h
  | cons rule rest ih =>
      refine ih ?_
      unfold Wallet.checkRule
      split
      · exact h
      · exact (h.emit _).setHalted _

theorem Wallet.Steps.tryTrigger (h : Wallet.Steps u w) (symbol : Symbol) (price : Decimal)
    (order : Order) : Wallet.Steps u (w.tryTrigger symbol price order) := by
  unfold Wallet.tryTrigger
  simp only
  split
  · exact h
  · split
    · exact h.emit _
    · split
      · exact h.emit _
      · split
        · exact h.executeOrderInChunks order _ _ _ 1
        · exact h

theorem Wallet.Steps.evaluateOrder (h : Wallet.Steps u w) (symbol : Symbol) (price : Decimal)
    (order : Order) : Wallet.Steps u (w.evaluateOrder symbol price order) := by
  unfold Wallet.evaluateOrder
  simp only
  split
  · exact h
  · split
    · exact h.tryTrigger symbol price order
    · split
      · exact h.tick.emit _
      · exact h.tick.tryTrigger symbol price order

theorem Wallet.evaluatePendingOrders_steps (w : Wallet) (symbol : Symbol) (markPrice : Decimal) :
    Wallet.Steps w (w.evaluatePendingOrders symbol markPrice) := by
  have hloop : ∀ (orders : List Order) (v : Wallet), Wallet.Steps w v →
      Wallet.Steps w (orders.foldl (Wallet.evaluateOrder symbol markPrice) v) := by
    intro orders
    induction orders with
    | nil => intro v h; exact h
    | cons order rest ih => intro v h; exact ih _ (h.evaluateOrder symbol markPrice order)
  unfold evaluatePendingOrders
  split
  · exact .refl w
  · exact (hloop _ w (.refl w)).runInvariantSweep

end OrderSteps

end CryptoTrader
