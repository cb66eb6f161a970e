import CryptoTrader.Wallet.Trading

/-!
# Steps about orders

Creating, filling, cancelling and evaluating orders appends events about orders
and reports of the sweep, and does nothing else to the wallet but read the
clock and halt it.  Whatever such steps keep, these operations keep.
-/

namespace CryptoTrader

open CryptoTrader.Lib

/-- Events about orders. -/
def Payload.isOrder : Payload → Bool
  | .orderCreated _ | .orderFilled _ | .orderCancelled .. | .orderRejected .. | .orderExpired _ =>
      true
  | _ => false

/-- The sweep keeps what its reports and the halt keep. -/
theorem Wallet.runInvariantSweep_keeps {I : Wallet → Prop}
    (hreport : ∀ {w : Wallet} (v : Violation), I w → I (w.emit (.invariantViolation v)))
    (hhalt : ∀ {w : Wallet} (b : Bool), I w → I { w with halted := b }) {w : Wallet} (h : I w) :
    I w.runInvariantSweep := by
  unfold Wallet.runInvariantSweep
  generalize invariantRules = rules
  induction rules generalizing w with
  | nil => exact h
  | cons rule rest ih =>
      refine ih ?_
      unfold Wallet.checkRule
      split
      · exact h
      · exact hhalt _ (hreport _ h)

/-- A property that an event about an order, a report of the sweep, a reading of
the clock and a halt keep. -/
structure Wallet.OrdersKeep (I : Wallet → Prop) : Prop where
  order : ∀ {w : Wallet} {payload : Payload}, payload.isOrder → I w → I (w.emit payload)
  report : ∀ {w : Wallet} (v : Violation), I w → I (w.emit (.invariantViolation v))
  tick : ∀ {w : Wallet}, I w → I w.tick
  setHalted : ∀ {w : Wallet} (b : Bool), I w → I { w with halted := b }

namespace Wallet.OrdersKeep

variable {I : Wallet → Prop} (hI : Wallet.OrdersKeep I) {w : Wallet}
include hI

theorem createOrderWithType (h : I w) (r : OrderRequest) : I (w.createOrderWithType r).2 :=
  hI.order rfl (hI.tick h)

theorem recordFill (h : I w) (order : Order) (quantity fillPrice fee : Decimal) (sequence : Nat) :
    I (w.recordFill order quantity fillPrice fee sequence) :=
  hI.order rfl h

theorem executeChunks (order : Order) (chunkQty fillPrice feeRate : Decimal) (left : Nat) :
    ∀ {w : Wallet} (idx : Nat) (remaining totalFee : Decimal), I w →
      I (Wallet.executeChunks order chunkQty fillPrice feeRate left idx remaining totalFee w).2 := by
  induction left with
  | zero => intro w idx remaining totalFee h; exact h
  | succ left ih =>
      intro w idx remaining totalFee h
      exact ih (idx + 1) _ _ (hI.recordFill h order _ fillPrice _ idx)

theorem executeOrderInChunks (h : I w) (order : Order) (totalQuantity fillPrice feeRate : Decimal)
    (chunkCount : Int) :
    I (w.executeOrderInChunks order totalQuantity fillPrice feeRate chunkCount).2 :=
  hI.executeChunks order _ fillPrice feeRate _ 1 totalQuantity 0 h

theorem placePendingOrder (h : I w) (r : OrderRequest) : I (w.placePendingOrder r).2 := by
  unfold Wallet.placePendingOrder
  split
  · exact h
  · exact hI.createOrderWithType h r

theorem cancelOrder (h : I w) (orderId reason : String) : I (w.cancelOrder orderId reason).2 := by
  unfold Wallet.cancelOrder
  split
  · exact h
  · split
    · exact h
    · exact hI.order rfl h

theorem runInvariantSweep (h : I w) : I w.runInvariantSweep :=
  Wallet.runInvariantSweep_keeps hI.report hI.setHalted h

theorem tryTrigger (h : I w) (symbol : Symbol) (price : Decimal) (order : Order) :
    I (w.tryTrigger symbol price order) := by
  unfold Wallet.tryTrigger
  simp only
  split_ifs
  · exact h
  · exact hI.order rfl h
  · exact hI.order rfl h
  · exact hI.executeOrderInChunks h order _ _ _ 1
  · exact h

theorem evaluateOrder (h : I w) (symbol : Symbol) (price : Decimal) (order : Order) :
    I (w.evaluateOrder symbol price order) := by
  unfold Wallet.evaluateOrder
  simp only
  split
  · exact h
  · split
    · exact hI.tryTrigger h symbol price order
    · split
      · exact hI.order rfl (hI.tick h)
      · exact hI.tryTrigger (hI.tick h) symbol price order

theorem evaluateOrders (symbol : Symbol) (markPrice : Decimal) (orders : List Order) :
    ∀ {w : Wallet}, I w → I (orders.foldl (Wallet.evaluateOrder symbol markPrice) w) := by
  induction orders with
  | nil => exact id
  | cons order rest ih => exact fun h => ih (hI.evaluateOrder h symbol markPrice order)

theorem evaluatePendingOrders (h : I w) (symbol : Symbol) (markPrice : Decimal) :
    I (w.evaluatePendingOrders symbol markPrice) := by
  unfold Wallet.evaluatePendingOrders
  split
  · exact h
  · exact hI.runInvariantSweep (hI.evaluateOrders symbol markPrice w.orderList h)

theorem executeEntry (h : I w) (order : Order) (symbol : Symbol) (setup : Setup)
    (qty markPrice : Decimal) (externalFill : Option ExternalFill) :
    I (w.executeEntry order symbol setup qty markPrice externalFill).2 := by
  unfold Wallet.executeEntry
  split
  · exact hI.recordFill h order _ _ _ 1
  · split
    · exact hI.recordFill h order _ _ _ 1
    · simp only
      split
      · exact hI.order rfl h
      · exact hI.executeOrderInChunks h order _ _ _ _

end Wallet.OrdersKeep

/-! ## Steps about positions -/

/-- A property that every event but those about orders, a save and a change to
what is not durable keep. -/
structure Wallet.BookingsKeep (I : Wallet → Prop) : Prop where
  event : ∀ {w : Wallet} (payload : Payload), payload.isOrder = false → I w → I (w.emit payload)
  save : ∀ {w : Wallet}, I w → I w.save
  volatile : ∀ {w w' : Wallet}, I w → Wallet.Volatile w w' → I w'

namespace Wallet.BookingsKeep

variable {I : Wallet → Prop} (hI : Wallet.BookingsKeep I) {w : Wallet}
include hI

theorem tick (h : I w) : I w.tick :=
  hI.volatile h ⟨rfl, rfl, Nat.le_succ _, rfl, rfl, rfl, rfl, rfl⟩

theorem setPosition (h : I w) (symbol : Symbol) (pos : EnhancedPosition) :
    I (w.setPosition symbol pos) :=
  hI.volatile h ⟨rfl, rfl, le_rfl, rfl, rfl, rfl, rfl, rfl⟩

theorem editPosition (h : I w) (symbol : Symbol) (f : EnhancedPosition → EnhancedPosition) :
    I (w.editPosition symbol f) :=
  hI.volatile h ⟨rfl, rfl, le_rfl, rfl, rfl, rfl, rfl, rfl⟩

theorem appendHistory (h : I w) (record : EnhancedPosition) : I (w.appendHistory record) :=
  hI.volatile h ⟨rfl, rfl, le_rfl, rfl, rfl, rfl, rfl, rfl⟩

theorem syncUnrealizedTotal (h : I w) : I w.syncUnrealizedTotal :=
  hI.volatile h ⟨rfl, rfl, le_rfl, rfl, rfl, rfl, rfl, rfl⟩

theorem setHalted (h : I w) (b : Bool) : I { w with halted := b } :=
  hI.volatile h ⟨rfl, rfl, le_rfl, rfl, rfl, rfl, rfl, rfl⟩

theorem runInvariantSweep (h : I w) : I w.runInvariantSweep :=
  Wallet.runInvariantSweep_keeps (fun v h => hI.event (.invariantViolation v) rfl h)
    (fun b h => hI.setHalted h b) h

theorem chargeTds (h : I w) (amount : Decimal) (reason : String) (symbol : Symbol) :
    I (w.chargeTds amount reason symbol) := by
  unfold Wallet.chargeTds
  split
  · exact hI.event _ rfl h
  · exact h

theorem bookPosition (h : I w) (symbol : Symbol) (setup : Setup) (size : Sizing)
    (executionPrice feeOpen markPrice : Decimal) :
    I (w.bookPosition symbol setup size executionPrice feeOpen markPrice).2 := by
  have hfee := hI.event (.feeCharged feeOpen "OPEN_FEE" symbol) rfl (hI.tick h)
  refine hI.event _ rfl (hI.syncUnrealizedTotal (hI.setPosition ?_ symbol _))
  exact hI.chargeTds hfee _ "OPEN_TDS" symbol

theorem adoptVenuePosition (h : I w) (r : AdoptRequest) : I (w.adoptVenuePosition r).2 := by
  unfold Wallet.adoptVenuePosition Wallet.bookAdoption
  split_ifs
  · exact h
  · exact h
  · refine hI.save (hI.event _ rfl (hI.syncUnrealizedTotal ?_))
    exact hI.setPosition (hI.tick h) r.symbol _

theorem closePosition (h : I w) (symbol : Symbol) (markPrice : Decimal) (reason : String)
    (externalFill : Option ExternalFill) :
    I (w.closePosition symbol markPrice reason externalFill).2 := by
  unfold Wallet.closePosition Wallet.bookClose
  split
  · exact h
  · refine hI.save (hI.appendHistory (hI.tick ?_) _)
    exact hI.chargeTds (hI.event _ rfl h) _ _ _

theorem partialClose (h : I w) (symbol : Symbol) (markPrice pct : Decimal) (reason : String)
    (tpLabel : Option String) (externalFill : Option ExternalFill) :
    I (w.partialClose symbol markPrice pct reason tpLabel externalFill).2 := by
  have hbooked : I (w.bookPartial symbol markPrice pct reason tpLabel externalFill).2 := by
    unfold Wallet.bookPartial
    split
    · exact h
    · simp only
      split
      · exact h
      · exact hI.chargeTds (hI.editPosition (hI.event _ rfl h) symbol _) _ _ _
  unfold Wallet.partialClose
  generalize w.bookPartial symbol markPrice pct reason tpLabel externalFill = booked at hbooked ⊢
  obtain ⟨pnl?, v⟩ := booked
  cases pnl? with
  | none => exact hbooked
  | some pnl =>
      dsimp only
      split_ifs
      · exact hI.closePosition hbooked symbol markPrice _ none
      · exact hI.save hbooked

theorem liquidatePosition (h : I w) (symbol : Symbol) (markPrice : Decimal) :
    I (w.liquidatePosition symbol markPrice) := by
  unfold Wallet.liquidatePosition
  split
  · exact h
  · exact hI.save (hI.appendHistory (hI.tick (hI.event _ rfl h)) _)

theorem applyFunding (h : I w) (symbol : Symbol) (fundingRate : Decimal) :
    I (w.applyFunding symbol fundingRate).2 := by
  unfold Wallet.applyFunding
  split
  · exact h
  · next pos _ =>
      -- the event sets the balance again from the reducer's
      have hpaid := hI.setPosition h symbol
        { pos with
          fundingPaid := pos.fundingPaid + pos.fundingAmount fundingRate
          partialRealizedPnl := pos.partialRealizedPnl + pos.fundingAmount fundingRate }
      have hevent := hI.event (.fundingApplied symbol fundingRate
        (pos.remainingQuantity * pos.entryPrice) (pos.fundingAmount fundingRate)) rfl hpaid
      exact hI.save hevent

theorem adjustSlPrice (h : I w) (symbol : Symbol) (newSlPrice : Decimal) :
    I (w.adjustSlPrice symbol newSlPrice) :=
  hI.save (hI.event _ rfl h)

theorem activateTrailingStop (h : I w) (symbol : Symbol) : I (w.activateTrailingStop symbol) :=
  hI.save (hI.event _ rfl h)

end Wallet.BookingsKeep

end CryptoTrader
