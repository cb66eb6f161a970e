import CryptoTrader.Storage.Rebuild
import CryptoTrader.Wallet.Boot
import CryptoTrader.Wallet.Ledger
import CryptoTrader.Wallet.Reducer

/-!
# The two reducers

`ProjectionState` of `storage/projection.py` and `PortfolioReducer` of
`wallet/_wallet.py` fold the events of a wallet into open positions and orders.
The first takes every status an event names, the second only one its transition
table allows; the first has no branch for `POSITION_ADOPTED`; and the first
counts in floats.
-/

namespace CryptoTrader.Storage

open CryptoTrader.Lib

/-! ## The events of a wallet -/

/-- `PositionSide.value`. -/
def sideText : PositionSide → String
  | .long => "LONG"
  | .short => "SHORT"

/-- `OrderStatus.value`. -/
def statusText : OrderStatus → String
  | .new => "NEW"
  | .pending => "PENDING"
  | .filled => "FILLED"
  | .partiallyFilled => "PARTIALLY_FILLED"
  | .cancelled => "CANCELLED"
  | .rejected => "REJECTED"
  | .expired => "EXPIRED"

/-- `OrderType.value`. -/
def orderTypeText : OrderType → String
  | .market => "MARKET"
  | .limit => "LIMIT"
  | .stopMarket => "STOP_MARKET"
  | .takeProfit => "TAKE_PROFIT"

/-- The `mode` of a position. -/
def modeText : Mode → String
  | .paper => "paper"
  | .live => "live"

theorem statusText_injective : Function.Injective statusText := by
  intro a b
  cases a <;> cases b <;> simp [statusText]

/-- The type of an event, for the projection. -/
def eventKind : Payload → EventKind
  | .walletInitialized _ => .other "WALLET_INITIALIZED"
  | .orderCreated _ => .orderCreated
  | .orderFilled p => if p.status = .filled then .orderFilled else .orderPartiallyFilled
  | .orderCancelled _ _ => .orderCancelled
  | .orderRejected _ _ _ => .orderRejected
  | .orderExpired _ => .orderExpired
  | .positionOpened _ => .positionOpened
  | .positionAdopted _ => .other "POSITION_ADOPTED"
  | .positionPartiallyClosed _ => .positionPartiallyClosed
  | .slAdjusted _ _ => .other "SL_ADJUSTED"
  | .trailingStopActivated _ => .other "TRAILING_STOP_ACTIVATED"
  | .positionClosed _ => .positionClosed
  | .liquidation _ => .liquidation
  | .fundingApplied _ _ _ _ => .other "FUNDING_APPLIED"
  | .feeCharged _ _ _ => .other "FEE_CHARGED"
  | .tdsCharged _ _ _ => .other "TDS_CHARGED"
  | .protectiveOrdersPlaced _ _ => .other "PROTECTIVE_ORDERS_PLACED"
  | .protectiveOrdersCancelled _ => .other "PROTECTIVE_ORDERS_CANCELLED"
  | .invariantViolation _ => .other "INVARIANT_VIOLATION"
  | .leverageAdjusted _ _ _ => .other "LEVERAGE_ADJUSTED"

/-- The keys of a payload that the projection reads. -/
def eventFields : Payload → Fields
  | .orderCreated p =>
      { orderId := some p.orderId
        symbol := some p.symbol.name
        side := some (sideText p.side)
        quantity := some (.decimal p.quantity)
        status := some (statusText p.status)
        orderType := some (orderTypeText p.orderType) }
  | .orderFilled p =>
      { orderId := some p.orderId
        symbol := some p.symbol.name
        side := some (sideText p.side)
        quantity := some (.decimal p.quantity)
        fillPrice := some (.decimal p.fillPrice)
        fee := some (.decimal p.fee)
        status := some (statusText p.status) }
  | .orderCancelled orderId _ => { orderId := some orderId }
  | .orderRejected orderId symbol _ =>
      { orderId := some orderId, symbol := symbol.map Symbol.name }
  | .orderExpired orderId => { orderId := some orderId }
  | .positionOpened p | .positionAdopted p =>
      { symbol := some p.symbol.name
        side := some (sideText p.side)
        entryPrice := some (.decimal p.entryPrice)
        quantity := some (.decimal p.quantity)
        executionPrice := some (.decimal p.executionPrice)
        fee := some (.decimal p.fee)
        mode := p.mode.map modeText }
  | .positionPartiallyClosed p =>
      { symbol := some p.symbol.name
        fee := some (.decimal p.fee)
        closedQty := some (.decimal p.closedQty) }
  | .positionClosed p | .liquidation p =>
      { symbol := some p.symbol.name
        side := some (sideText p.side)
        fee := some (.decimal p.fee) }
  | _ => {}

/-- An event of the wallet as the projection gets it. -/
def domainEvent (event : Event) : DomainEvent :=
  { kind := eventKind event.payload
    ts := event.ts
    payload := eventFields event.payload }

/-! ## What is compared -/

/-- What is compared of an order. -/
structure Standing where
  filled : PyFloat
  status : String
  deriving DecidableEq

/-- What is compared of an open position. -/
structure Stake where
  side : Option String
  quantity : PyFloat
  entryPrice : PyFloat
  deriving DecidableEq

def OrderRow.standing (o : OrderRow) : Standing := ⟨o.filledQty, o.status⟩

def PositionRow.stake (pos : PositionRow) : Stake := ⟨pos.side, pos.qty, pos.avgPrice⟩

/-- The order of the other reducer, in floats. -/
def Numbers.standing (num : Numbers) (order : OrderData) : Standing :=
  ⟨num.ofDecimal order.filledQuantity, statusText order.status⟩

/-- The position of the other reducer, in floats. -/
def Numbers.stake (num : Numbers) (pos : PositionData) : Stake :=
  ⟨some (sideText pos.side), num.ofDecimal pos.quantity, num.ofDecimal pos.entryPrice⟩

/-- The same orders, each filled as far and in the same status; and the same
open symbols, each with the same side, quantity and entry price. -/
structure Agree (num : Numbers) (s : PortfolioState) (st : ProjectionState) : Prop where
  orders : Dict.SeenAlike id OrderRow.standing num.standing st.orders s.orders
  positions : Dict.SeenAlike Symbol.name PositionRow.stake num.stake st.positions s.openPositions
  nameless : st.positions.get? "" = none

/-- Whether the projection follows an event as the portfolio does. -/
def Follows (num : Numbers) (s : PortfolioState) : Payload → Prop
  | .orderFilled p =>
      p.orderId ≠ "" → ∀ order ∈ s.orders.get? p.orderId,
        canTransition order.status p.status ∧
          num.add (num.ofDecimal order.filledQuantity) (num.ofDecimal p.quantity) =
            num.ofDecimal (order.filledQuantity + p.quantity)
  | .orderCancelled orderId _ =>
      orderId ≠ "" → ∀ order ∈ s.orders.get? orderId, canTransition order.status .cancelled
  | .orderRejected orderId _ _ =>
      orderId ≠ "" → ∀ order ∈ s.orders.get? orderId, canTransition order.status .rejected
  | .orderExpired orderId =>
      orderId ≠ "" → ∀ order ∈ s.orders.get? orderId, canTransition order.status .expired
  | .positionAdopted p =>
      (s.openPositions.get? p.symbol).map num.stake =
        some ⟨some (sideText p.side), num.ofDecimal p.quantity, num.ofDecimal p.executionPrice⟩
  | .positionPartiallyClosed p =>
      ∀ pos ∈ s.openPositions.get? p.symbol,
        PyFloat.pyMax (.fin 0) (num.sub (num.ofDecimal pos.quantity) (num.ofDecimal p.closedQty)) =
          num.ofDecimal (max 0 (pos.quantity - p.closedQty))
  | _ => True

/-! ## One event -/

section Step

variable {num : Numbers} {mode : String} {s : PortfolioState} {st : ProjectionState}

theorem nameInjective : Function.Injective Symbol.name := by
  intro a b h
  cases a
  cases b
  cases h
  rfl

/-- A status that the transition table allows is taken, and no other is. -/
theorem standing_transition (order : OrderData) (target : OrderStatus) :
    (⟨(num.standing order).filled, statusText target⟩ : Standing) =
        num.standing (order.transition target) ↔ canTransition order.status target := by
  by_cases h : canTransition order.status target
  · simp [Numbers.standing, OrderData.transition, h]
  · have hne : target ≠ order.status := by
      rintro rfl
      exact h (by simp [canTransition])
    simp [Numbers.standing, OrderData.transition, h, statusText_injective.eq_iff, hne]

theorem standing_fill (order : OrderData) (p : FillPayload) :
    (⟨num.add (num.standing order).filled (num.ofDecimal p.quantity), statusText p.status⟩ :
        Standing) = num.standing (order.fill p) ↔
      canTransition order.status p.status ∧
        num.add (num.ofDecimal order.filledQuantity) (num.ofDecimal p.quantity) =
          num.ofDecimal (order.filledQuantity + p.quantity) := by
  have hstatus := @standing_transition num
    { order with
      filledQuantity := order.filledQuantity + p.quantity
      remainingQuantity := max 0 (order.quantity - (order.filledQuantity + p.quantity))
      avgFillPrice := p.fillPrice } p.status
  have hfilled : (num.standing (order.fill p)).filled =
      num.ofDecimal (order.filledQuantity + p.quantity) := by
    simp only [Numbers.standing, OrderData.fill, OrderData.transition]
    split <;> rfl
  rw [← hstatus]
  change _ ↔ _ = num.standing (order.fill p) ∧ _
  constructor
  · intro h
    have hadd := congrArg Standing.filled h
    rw [hfilled] at hadd
    exact ⟨by rw [← h]; simp only [Numbers.standing] at hadd ⊢; rw [hadd], hadd⟩
  · rintro ⟨h, hadd⟩
    rw [← h]
    simp only [Numbers.standing]
    rw [hadd]

theorem Agree.changeOrder_iff (hkeyed : st.Keyed mode) (h : Agree num s st) (orderId : String)
    {f : OrderRow → OrderRow} (g : OrderData → OrderData) (change : Standing → Standing)
    (hf : ∀ o, (f o).standing = change o.standing) :
    Dict.SeenAlike id OrderRow.standing num.standing (modifyAt st.orders (some orderId) f)
        (modifyOrder s.orders orderId g) ↔
      (orderId ≠ "" →
        ∀ order ∈ s.orders.get? orderId, change (num.standing order) = num.standing (g order)) := by
  by_cases hid : orderId = ""
  · subst hid
    have hnone : st.orders.modify "" f = st.orders := by
      simp [Dict.modify, hkeyed.orders.get?_empty]
    simp [modifyOrder, modifyAt_some, hnone, h.orders]
  · have hmodify := h.orders.modify_iff Function.injective_id orderId g change hf
    simpa [modifyOrder, hid] using hmodify

theorem Agree.ended_iff (hkeyed : st.Keyed mode) (h : Agree num s st) (orderId : String)
    (target : OrderStatus) :
    Dict.SeenAlike id OrderRow.standing num.standing
        (modifyAt st.orders (some orderId) (fun o => { o with status := statusText target }))
        (modifyOrder s.orders orderId (·.transition target)) ↔
      (orderId ≠ "" → ∀ order ∈ s.orders.get? orderId, canTransition order.status target) := by
  rw [h.changeOrder_iff hkeyed orderId _ (fun x => ⟨x.filled, statusText target⟩) (fun _ => rfl)]
  simp only [standing_transition]

theorem agree_iff (hkeyed : st.Keyed mode) :
    Agree num s st ↔
      Dict.SeenAlike id OrderRow.standing num.standing st.orders s.orders ∧
        Dict.SeenAlike Symbol.name PositionRow.stake num.stake st.positions s.openPositions :=
  ⟨fun h => ⟨h.orders, h.positions⟩, fun h => ⟨h.1, h.2, hkeyed.positions.get?_empty⟩⟩

/-- **One event.**  The projection follows the portfolio exactly under
`Follows`. -/
theorem Agree.apply_iff (hkeyed : st.Keyed mode) (h : Agree num s st) (event : Event) :
    Agree num (s.apply event) (st.apply num (domainEvent event)) ↔ Follows num s event.payload := by
  rw [agree_iff (hkeyed.apply (domainEvent event))]
  obtain ⟨ts, symbol, namespace_, payload⟩ := event
  cases payload with
  | orderCreated p =>
      refine iff_of_true ?_ trivial
      by_cases hid : p.orderId = ""
      · have hoid : (eventFields (.orderCreated p)).oid = none := by
          simp [eventFields, Fields.oid, Option.filter, hid]
        simp only [domainEvent, eventKind, ProjectionState.apply, hoid, PortfolioState.apply,
          PortfolioState.applyPayload, hid, if_true]
        exact ⟨h.orders, h.positions⟩
      · have hoid : (eventFields (.orderCreated p)).oid = some p.orderId := by
          simp [eventFields, Fields.oid, Option.filter, hid]
        simp only [domainEvent, eventKind, ProjectionState.apply, hoid, PortfolioState.apply,
          PortfolioState.applyPayload, hid, if_false]
        refine ⟨(h.orders.set_iff Function.injective_id p.orderId _ _).mpr ?_, h.positions⟩
        simp [OrderRow.standing, createdOrder, Numbers.standing, OrderPayload.toOrderData,
          num.ofDecimal_zero, eventFields]
  | orderFilled p =>
      have hchange := h.changeOrder_iff hkeyed p.orderId (f := fun o => o.fill num (eventFields (.orderFilled p)))
        (fun order => order.fill p)
        (fun x => ⟨num.add x.filled (num.ofDecimal p.quantity), statusText p.status⟩) (fun _ => rfl)
      simp only [standing_fill] at hchange
      by_cases hfilled : p.status = .filled
      · simp only [domainEvent, eventKind, hfilled, if_true]
        exact (and_iff_left h.positions).trans hchange
      · simp only [domainEvent, eventKind, hfilled, if_false]
        exact (and_iff_left h.positions).trans hchange
  | orderCancelled orderId reason =>
      exact (and_iff_left h.positions).trans (h.ended_iff hkeyed orderId .cancelled)
  | orderRejected orderId symbol reason =>
      exact (and_iff_left h.positions).trans (h.ended_iff hkeyed orderId .rejected)
  | orderExpired orderId =>
      exact (and_iff_left h.positions).trans (h.ended_iff hkeyed orderId .expired)
  | positionOpened p =>
      have hsym : (eventFields (.positionOpened p)).sym = some p.symbol.name := by
        simp [eventFields, Fields.sym, Option.filter, p.symbol.nonempty]
      refine iff_of_true ?_ trivial
      simp only [domainEvent, eventKind, ProjectionState.apply, hsym]
      exact ⟨h.orders, (h.positions.set_iff nameInjective p.symbol _ _).mpr rfl⟩
  | positionAdopted p =>
      have hset := h.positions.set_right_iff nameInjective p.symbol (p.toPositionData true)
      exact (and_iff_right h.orders).trans hset
  | positionPartiallyClosed p =>
      have hmodify := h.positions.modify_iff nameInjective p.symbol
        (f := fun pos => pos.reduce num (domainEvent ⟨ts, symbol, namespace_, .positionPartiallyClosed p⟩))
        (fun pos => pos.reduce p)
        (fun x => ⟨x.side, PyFloat.pyMax (.fin 0) (num.sub x.quantity (num.ofDecimal p.closedQty)),
          x.entryPrice⟩) (fun _ => rfl)
      refine (and_iff_right h.orders).trans (hmodify.trans ?_)
      simp [Follows, Numbers.stake, PositionData.reduce]
  | positionClosed p =>
      exact iff_of_true ⟨h.orders, h.positions.erase nameInjective p.symbol⟩ trivial
  | liquidation p =>
      exact iff_of_true ⟨h.orders, h.positions.erase nameInjective p.symbol⟩ trivial
  | slAdjusted symbol slPrice =>
      exact iff_of_true ⟨h.orders, h.positions.modify_right symbol (fun _ => rfl)⟩ trivial
  | trailingStopActivated symbol =>
      exact iff_of_true ⟨h.orders, h.positions.modify_right symbol (fun _ => rfl)⟩ trivial
  | protectiveOrdersPlaced symbol placed =>
      exact iff_of_true ⟨h.orders, h.positions.modify_right symbol (fun _ => rfl)⟩ trivial
  | protectiveOrdersCancelled symbol =>
      exact iff_of_true ⟨h.orders, h.positions.modify_right symbol (fun _ => rfl)⟩ trivial
  | _ => exact iff_of_true ⟨h.orders, h.positions⟩ trivial

theorem Agree.start (initialBalance : Decimal) :
    Agree num (.initial initialBalance) { mode := mode } :=
  ⟨Dict.SeenAlike.empty, Dict.SeenAlike.empty, rfl⟩

/-- **The two reducers agree** throughout a stream of events, exactly if the
projection follows each when its turn comes. -/
theorem reducers_agree_iff (num : Numbers) (mode : String) (initialBalance : Decimal)
    (log : List Event) :
    (∀ before, before <+: log →
        Agree num (PortfolioState.ofLog initialBalance before)
          (ProjectionState.rebuild num { mode := mode } (before.map domainEvent))) ↔
      AllOk PortfolioState.apply (fun s event => Follows num s event.payload)
        (.initial initialBalance) log := by
  simp only [ProjectionState.rebuild, List.foldl_map]
  have hkeep : ∀ (_ : PortfolioState) (st : ProjectionState) (event : Event), st.Keyed mode →
      (st.apply num (domainEvent event)).Keyed mode := fun _ _ event h => h.apply _
  have hstep : ∀ (s : PortfolioState) (st : ProjectionState) (event : Event), st.Keyed mode →
      Agree num s st →
        (Agree num (s.apply event) (st.apply num (domainEvent event)) ↔
          Follows num s event.payload) := fun _ _ event hkeyed h => h.apply_iff hkeyed event
  exact AllOk.related_iff (fun s t a h _ => hkeep s t a h) hstep log ProjectionState.Keyed.start (Agree.start initialBalance)

end Step

/-! ## An adopted position -/

/-- The wallet holds the position it adopted, the projection does not. -/
theorem demoAdoption_not_agree :
    ¬ ∀ (init : WalletInit) (clock : Nat → Nat) (ops : List Operation),
        Agree demoNumbers
          (PortfolioState.ofLog init.cfg.initialBalance
            (ops.foldl Operation.run (Wallet.boot init clock {} false)).log)
          (ProjectionState.rebuild demoNumbers { mode := "live" }
            ((ops.foldl Operation.run (Wallet.boot init clock {} false)).log.map domainEvent)) := by
  intro h
  have hheld : ((PortfolioState.ofLog 1000 ((Operation.adoptVenuePosition demoAdoption).run
      (Wallet.boot demoInit (fun n => n) {} false)).log).openPositions.get? demoSymbol).isSome =
        true := by decide +kernel
  have hmissing : ((ProjectionState.rebuild demoNumbers { mode := "live" }
      (((Operation.adoptVenuePosition demoAdoption).run
        (Wallet.boot demoInit (fun n => n) {} false)).log.map domainEvent)).positions.get?
          demoSymbol.name).isNone = true := by decide +kernel
  rw [Option.isNone_iff_eq_none] at hmissing
  have hsame := (h demoInit (fun n => n) [.adoptVenuePosition demoAdoption]).positions demoSymbol
  simp only [List.foldl_cons, List.foldl_nil] at hsame
  rw [hmissing, Option.map_none, eq_comm, Option.map_eq_none_iff] at hsame
  have hinit : demoInit.cfg.initialBalance = 1000 := rfl
  rw [hinit] at hsame
  rw [hsame] at hheld
  exact Bool.false_ne_true hheld

end CryptoTrader.Storage
