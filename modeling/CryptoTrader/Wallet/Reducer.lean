import CryptoTrader.Lib.EventLog
import CryptoTrader.Wallet.Types

/-!
# The portfolio reducer

`OrderStateMachine` and `PortfolioReducer.apply` of `wallet/_wallet.py`: one
event in, the next portfolio state out.  The second half fixes the view under
which a runtime state, a replay and a restored snapshot are compared, and
proves that the reducer cannot see past it.
-/

namespace CryptoTrader

open CryptoTrader.Lib

/-! ## Order state machine -/

/-- `OrderStateMachine.VALID_TRANSITIONS`. -/
def validTransitions : OrderStatus → List OrderStatus
  | .new => [.pending, .cancelled, .rejected, .expired]
  | .pending => [.partiallyFilled, .filled, .cancelled, .rejected, .expired]
  | .partiallyFilled => [.partiallyFilled, .filled, .cancelled, .expired]
  | .filled => []
  | .cancelled => []
  | .rejected => []
  | .expired => []

/-- `OrderStateMachine.can_transition`. -/
def canTransition (current target : OrderStatus) : Bool :=
  current = target || target ∈ validTransitions current

/-- `OrderStateMachine.transition`; an invalid one leaves the order alone. -/
def OrderData.transition (order : OrderData) (target : OrderStatus) : OrderData :=
  if canTransition order.status target then { order with status := target } else order

/-! ## The reducer -/

/-- The entry `ORDER_CREATED` adds to `state.orders`. -/
def OrderPayload.toOrderData (p : OrderPayload) : OrderData :=
  { symbol := p.symbol
    side := p.side
    quantity := p.quantity
    filledQuantity := 0
    remainingQuantity := p.quantity
    avgFillPrice := 0
    status := p.status
    orderType := p.orderType
    reduceOnly := p.reduceOnly
    triggerPrice := p.triggerPrice
    limitPrice := p.limitPrice
    expiresAt := p.expiresAt }

/-- What a fill event does to its order. -/
def OrderData.fill (order : OrderData) (p : FillPayload) : OrderData :=
  let filledQuantity := order.filledQuantity + p.quantity
  { order with
    filledQuantity := filledQuantity
    remainingQuantity := max 0 (order.quantity - filledQuantity)
    avgFillPrice := p.fillPrice }.transition p.status

/-- The entry `POSITION_OPENED` (`adopted = false`) or `POSITION_ADOPTED`
adds to `state.open_positions`. -/
def OpenPayload.toPositionData (p : OpenPayload) (adopted : Bool) : PositionData :=
  { entryPrice := p.executionPrice
    quantity := p.quantity
    margin := p.margin
    side := p.side
    playbook := p.playbook
    slPrice := p.slPrice
    leverage := p.leverage
    openTime := p.openTime
    tpLevels := p.tpLevels
    trailingActive := false
    protectiveOrders := some .none
    mode := some (p.mode.getD (if adopted then .live else .paper))
    source := some (p.source.getD (if adopted then .manual else .bot))
    openedExternally := some (p.openedExternally.getD adopted)
    highestPrice := none
    peakPnlPct := none }

/-- What a partial close does to its position. -/
def PositionData.reduce (pos : PositionData) (p : PartialPayload) : PositionData :=
  { pos with
    quantity := max 0 (pos.quantity - p.closedQty)
    tpLevels :=
      match p.tpLabel with
      | none => pos.tpLevels
      | some label =>
          if label = "" then pos.tpLevels
          else pos.tpLevels.map (fun tp => if tp.label = label then { tp with hit := true } else tp) }

/-- `PROTECTIVE_ORDERS_PLACED` overwrites the ids it carries. -/
def PositionData.placeProtective (pos : PositionData) (placed : ProtectiveOrders) :
    PositionData :=
  let orders := pos.protectiveOrders.getD .none
  { pos with
    protectiveOrders := some
      { sl := (placed.sl.filter (· ≠ "")).or orders.sl
        tp := (placed.tp.filter (· ≠ "")).or orders.tp } }

/-- Credit `amount` to the balance and to the realized total. -/
def PortfolioState.credit (s : PortfolioState) (amount : Decimal) : PortfolioState :=
  { s with
    walletBalance := s.walletBalance + amount
    realizedPnlTotal := s.realizedPnlTotal + amount }

/-- `if oid and oid in state.orders`, followed by a change to that order. -/
def modifyOrder (orders : Dict String OrderData) (orderId : String)
    (f : OrderData → OrderData) : Dict String OrderData :=
  if orderId = "" then orders else orders.modify orderId f

/-- The body of `PortfolioReducer.apply`, one branch per event type. -/
def PortfolioState.applyPayload (s : PortfolioState) : Payload → PortfolioState
  | .walletInitialized initialBalance =>
      { s with walletBalance := initialBalance, realizedPnlTotal := 0 }
  | .orderCreated p =>
      if p.orderId = "" then s
      else { s with orders := s.orders.set p.orderId p.toOrderData }
  | .orderFilled p =>
      { s with
        orders := modifyOrder s.orders p.orderId (fun order => order.fill p)
        fills := s.fills ++ [p] }.credit (-p.fee)
  | .orderCancelled orderId _ =>
      { s with orders := modifyOrder s.orders orderId (·.transition .cancelled) }
  | .orderRejected orderId _ _ =>
      { s with orders := modifyOrder s.orders orderId (·.transition .rejected) }
  | .orderExpired orderId =>
      { s with orders := modifyOrder s.orders orderId (·.transition .expired) }
  | .positionOpened p =>
      { s with openPositions := s.openPositions.set p.symbol (p.toPositionData false) }
  | .positionAdopted p =>
      { s with openPositions := s.openPositions.set p.symbol (p.toPositionData true) }
  | .positionPartiallyClosed p =>
      { s with
        openPositions := s.openPositions.modify p.symbol (fun pos => pos.reduce p) }.credit
          (p.pnl - p.fee)
  | .slAdjusted symbol slPrice =>
      { s with
        openPositions := s.openPositions.modify symbol (fun pos => { pos with slPrice := slPrice }) }
  | .trailingStopActivated symbol =>
      { s with
        openPositions :=
          s.openPositions.modify symbol (fun pos => { pos with trailingActive := true }) }
  | .positionClosed p =>
      { s with openPositions := s.openPositions.erase p.symbol }.credit (p.remainingPnl - p.fee)
  | .liquidation p =>
      { s with openPositions := s.openPositions.erase p.symbol }.credit (p.remainingPnl - p.fee)
  | .fundingApplied _ _ _ amount =>
      { s with fundingTotal := s.fundingTotal + amount }.credit amount
  | .feeCharged amount _ _ => s.credit (-amount)
  | .tdsCharged amount _ _ => s.credit (-amount)
  | .protectiveOrdersPlaced symbol placed =>
      { s with openPositions := s.openPositions.modify symbol (·.placeProtective placed) }
  | .protectiveOrdersCancelled symbol =>
      { s with
        openPositions := s.openPositions.modify symbol
          (fun pos => { pos with protectiveOrders := some .none }) }
  | .invariantViolation v => { s with violations := s.violations ++ [v] }
  | .leverageAdjusted _ _ _ => s

/-- `PortfolioReducer.apply`. -/
def PortfolioState.apply (s : PortfolioState) (event : Event) : PortfolioState :=
  { s with lastTs := event.ts, eventsApplied := s.eventsApplied + 1 }.applyPayload event.payload

/-- `PortfolioState(wallet_balance=initial_balance)`. -/
def PortfolioState.initial (initialBalance : Decimal) : PortfolioState :=
  { walletBalance := initialBalance }

/-- The state the whole log folds to. -/
def PortfolioState.ofLog (initialBalance : Decimal) (log : List Event) : PortfolioState :=
  log.foldl PortfolioState.apply (.initial initialBalance)

/-- The time stamp and the count do not reach the positions. -/
theorem PortfolioState.openPositions_apply (s : PortfolioState) (event : Event) :
    (s.apply event).openPositions = (s.applyPayload event.payload).openPositions := by
  unfold apply
  cases event.payload with
  | orderCreated p => simp only [applyPayload]; split <;> rfl
  | _ => rfl

/-! ## Balances -/

/-- What an event adds to the wallet balance; a bootstrap event resets it. -/
def Payload.cash : Payload → Decimal
  | .orderFilled p => -p.fee
  | .positionPartiallyClosed p => p.pnl - p.fee
  | .positionClosed p => p.remainingPnl - p.fee
  | .liquidation p => p.remainingPnl - p.fee
  | .fundingApplied _ _ _ amount => amount
  | .feeCharged amount _ _ => -amount
  | .tdsCharged amount _ _ => -amount
  | _ => 0

/-- Only `WALLET_INITIALIZED` does anything to the balance but add to it. -/
theorem PortfolioState.walletBalance_apply (s : PortfolioState) (event : Event)
    (h : ∀ b, event.payload ≠ .walletInitialized b) :
    (s.apply event).walletBalance = s.walletBalance + event.payload.cash := by
  unfold apply
  cases hp : event.payload with
  | walletInitialized b => exact absurd hp (h b)
  | orderCreated p => simp only [applyPayload, Payload.cash]; split <;> simp
  | _ => simp [applyPayload, credit, Payload.cash]

@[simp] theorem PortfolioState.eventsApplied_apply (s : PortfolioState) (event : Event) :
    (s.apply event).eventsApplied = s.eventsApplied + 1 := by
  unfold apply
  cases event.payload with
  | orderCreated p => simp only [applyPayload]; split <;> rfl
  | _ => rfl

theorem PortfolioState.eventsApplied_foldl (log : List Event) (s : PortfolioState) :
    (log.foldl PortfolioState.apply s).eventsApplied = s.eventsApplied + log.length := by
  induction log generalizing s with
  | nil => rfl
  | cons e rest ih =>
      rw [List.foldl_cons, ih, eventsApplied_apply, List.length_cons]
      omega

/-! ## The compared view -/

/-- What is compared of an open position: entry price, quantity, stop and
trailing flag. -/
structure PositionView where
  entryPrice : Decimal
  quantity : Decimal
  slPrice : Decimal
  trailingActive : Bool
  deriving DecidableEq

def PositionData.view (pos : PositionData) : PositionView :=
  ⟨pos.entryPrice, pos.quantity, pos.slPrice, pos.trailingActive⟩

/-- What is compared of a portfolio: the balances, the open positions, the
orders and the fills. -/
structure PortfolioView where
  walletBalance : Decimal
  realizedPnlTotal : Decimal
  openPositions : Dict Symbol PositionView
  orders : Dict String OrderData
  fills : List FillPayload
  deriving DecidableEq

def PortfolioState.view (s : PortfolioState) : PortfolioView :=
  { walletBalance := s.walletBalance
    realizedPnlTotal := s.realizedPnlTotal
    openPositions := s.openPositions.mapVal (fun _ pos => pos.view)
    orders := s.orders
    fills := s.fills }

/-- The view after an event, computed from the view before it. -/
def PortfolioView.applyPayload (v : PortfolioView) : Payload → PortfolioView
  | .walletInitialized initialBalance =>
      { v with walletBalance := initialBalance, realizedPnlTotal := 0 }
  | .orderCreated p =>
      if p.orderId = "" then v
      else { v with orders := v.orders.set p.orderId p.toOrderData }
  | .orderFilled p =>
      { v with
        orders := modifyOrder v.orders p.orderId (fun order => order.fill p)
        fills := v.fills ++ [p]
        walletBalance := v.walletBalance + -p.fee
        realizedPnlTotal := v.realizedPnlTotal + -p.fee }
  | .orderCancelled orderId _ =>
      { v with orders := modifyOrder v.orders orderId (·.transition .cancelled) }
  | .orderRejected orderId _ _ =>
      { v with orders := modifyOrder v.orders orderId (·.transition .rejected) }
  | .orderExpired orderId =>
      { v with orders := modifyOrder v.orders orderId (·.transition .expired) }
  | .positionOpened p =>
      { v with openPositions := v.openPositions.set p.symbol (p.toPositionData false).view }
  | .positionAdopted p =>
      { v with openPositions := v.openPositions.set p.symbol (p.toPositionData true).view }
  | .positionPartiallyClosed p =>
      { v with
        openPositions := v.openPositions.modify p.symbol
          (fun pos => { pos with quantity := max 0 (pos.quantity - p.closedQty) })
        walletBalance := v.walletBalance + (p.pnl - p.fee)
        realizedPnlTotal := v.realizedPnlTotal + (p.pnl - p.fee) }
  | .slAdjusted symbol slPrice =>
      { v with
        openPositions := v.openPositions.modify symbol (fun pos => { pos with slPrice := slPrice }) }
  | .trailingStopActivated symbol =>
      { v with
        openPositions :=
          v.openPositions.modify symbol (fun pos => { pos with trailingActive := true }) }
  | .positionClosed p | .liquidation p =>
      { v with
        openPositions := v.openPositions.erase p.symbol
        walletBalance := v.walletBalance + (p.remainingPnl - p.fee)
        realizedPnlTotal := v.realizedPnlTotal + (p.remainingPnl - p.fee) }
  | .fundingApplied _ _ _ amount =>
      { v with
        walletBalance := v.walletBalance + amount
        realizedPnlTotal := v.realizedPnlTotal + amount }
  | .feeCharged amount _ _ | .tdsCharged amount _ _ =>
      { v with
        walletBalance := v.walletBalance + -amount
        realizedPnlTotal := v.realizedPnlTotal + -amount }
  | .protectiveOrdersPlaced _ _ | .protectiveOrdersCancelled _ | .invariantViolation _
  | .leverageAdjusted _ _ _ => v

/-- The view of the next state is a function of the view of this one. -/
theorem PortfolioState.view_apply (s : PortfolioState) (event : Event) :
    (s.apply event).view = s.view.applyPayload event.payload := by
  unfold apply
  cases event.payload with
  | orderCreated p =>
      simp only [applyPayload, PortfolioView.applyPayload]
      split <;> rfl
  | positionOpened p =>
      simp [applyPayload, PortfolioView.applyPayload, view, Dict.mapVal_set]
  | positionAdopted p =>
      simp [applyPayload, PortfolioView.applyPayload, view, Dict.mapVal_set]
  | positionPartiallyClosed p =>
      simp only [applyPayload, PortfolioView.applyPayload, view, credit]
      rw [Dict.mapVal_modify _ (fun _ pos => PositionData.view pos) _ (fun pos => PositionData.reduce pos p)
        (fun v : PositionView => { v with quantity := max 0 (v.quantity - p.closedQty) })
        (fun _ => rfl)]
  | slAdjusted symbol slPrice =>
      simp only [applyPayload, PortfolioView.applyPayload, view]
      rw [Dict.mapVal_modify _ (fun _ pos => PositionData.view pos) _
        (fun pos : PositionData => { pos with slPrice := slPrice })
        (fun v : PositionView => { v with slPrice := slPrice }) (fun _ => rfl)]
  | trailingStopActivated symbol =>
      simp only [applyPayload, PortfolioView.applyPayload, view]
      rw [Dict.mapVal_modify _ (fun _ pos => PositionData.view pos) _
        (fun pos : PositionData => { pos with trailingActive := true })
        (fun v : PositionView => { v with trailingActive := true }) (fun _ => rfl)]
  | positionClosed p =>
      simp [applyPayload, PortfolioView.applyPayload, view, credit, Dict.mapVal_erase]
  | liquidation p =>
      simp [applyPayload, PortfolioView.applyPayload, view, credit, Dict.mapVal_erase]
  | protectiveOrdersPlaced symbol placed =>
      simp only [applyPayload, PortfolioView.applyPayload, view]
      rw [Dict.mapVal_modify_eq _ (fun _ pos => PositionData.view pos) _ (fun pos => pos.placeProtective placed)
        (fun _ => rfl)]
  | protectiveOrdersCancelled symbol =>
      simp only [applyPayload, PortfolioView.applyPayload, view]
      rw [Dict.mapVal_modify_eq _ (fun _ pos => PositionData.view pos) _
        (fun pos : PositionData => { pos with protectiveOrders := some .none }) (fun _ => rfl)]
  | _ => rfl

/-- The view is a congruence for the reducer. -/
theorem PortfolioState.view_congruence :
    EventLog.Congruence PortfolioState.apply PortfolioState.view := by
  intro s t e h
  rw [view_apply, view_apply, h]

end CryptoTrader
