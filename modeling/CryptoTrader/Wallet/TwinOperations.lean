import CryptoTrader.Wallet.Twins

/-!
# Operations on twins

One lemma for each operation of `Wallet/Orders.lean` and `Wallet/Trading.lean`:
it returns the same for twins and leaves twins.
-/

namespace CryptoTrader.Wallet.Twins

open CryptoTrader.Lib

variable {before : Stores} {w v : Wallet}

/-! ## Orders -/

theorem createOrderWithType (h : Twins before w v) (r : OrderRequest) :
    TwinResults before (w.createOrderWithType r) (v.createOrderWithType r) := by
  have hid : w.nextOrderId r.symbol = v.nextOrderId r.symbol := by
    unfold Wallet.nextOrderId
    rw [h.nowMs, h.read (fun u => u.runtime.orders.size) (fun _ => rfl)]
  unfold Wallet.createOrderWithType
  rw [hid]
  exact ⟨rfl, h.tick.emit _⟩

theorem currentOrder (h : Twins before w v) (order : Order) :
    w.currentOrder order = v.currentOrder order :=
  h.read (fun u => u.currentOrder order) (fun _ => rfl)

theorem recordFill (h : Twins before w v) (order : Order) (quantity fillPrice fee : Decimal)
    (sequence : Nat) :
    Twins before (w.recordFill order quantity fillPrice fee sequence)
      (v.recordFill order quantity fillPrice fee sequence) := by
  unfold Wallet.recordFill
  rw [h.currentOrder order]
  exact h.emit _

theorem executeChunks (order : Order) (chunkQty fillPrice feeRate : Decimal) (left : Nat) :
    ∀ {w v : Wallet} (idx : Nat) (remaining totalFee : Decimal), Twins before w v →
      TwinResults before
        (Wallet.executeChunks order chunkQty fillPrice feeRate left idx remaining totalFee w)
        (Wallet.executeChunks order chunkQty fillPrice feeRate left idx remaining totalFee v) := by
  induction left with
  | zero => exact fun _ _ _ h => ⟨rfl, h⟩
  | succ left ih =>
      intro w v idx remaining totalFee h
      exact ih (idx + 1) _ _ (h.recordFill order _ fillPrice _ idx)

theorem executeOrderInChunks (h : Twins before w v) (order : Order)
    (totalQuantity fillPrice feeRate : Decimal) (chunkCount : Int) :
    TwinResults before (w.executeOrderInChunks order totalQuantity fillPrice feeRate chunkCount)
      (v.executeOrderInChunks order totalQuantity fillPrice feeRate chunkCount) :=
  executeChunks order _ fillPrice feeRate _ 1 totalQuantity 0 h

theorem placePendingOrder (h : Twins before w v) (r : OrderRequest) :
    Twins before (w.placePendingOrder r).2 (v.placePendingOrder r).2 := by
  unfold Wallet.placePendingOrder
  rw [← h.read Wallet.halted (fun _ => rfl)]
  split
  · exact h
  · exact (h.createOrderWithType r).2

theorem cancelOrder (h : Twins before w v) (orderId reason : String) :
    Twins before (w.cancelOrder orderId reason).2 (v.cancelOrder orderId reason).2 := by
  unfold Wallet.cancelOrder
  rw [← h.read (fun u => u.runtime.orders.get? orderId) (fun _ => rfl)]
  split
  · exact h
  · split
    · exact h
    · exact h.emit _

/-- The rules of the sweep read the core. -/
theorem rule_core {rule : InvariantRule} (h : rule ∈ invariantRules) (u : Wallet) :
    rule.fn u = rule.fn u.core := by
  simp only [invariantRules, List.mem_cons, List.not_mem_nil, or_false] at h
  rcases h with rfl | rfl | rfl | rfl | rfl
  all_goals rfl

theorem checkRule (h : Twins before w v) {rule : InvariantRule} (hrule : rule ∈ invariantRules) :
    Twins before (w.checkRule rule) (v.checkRule rule) := by
  unfold Wallet.checkRule
  rw [← h.read rule.fn (rule_core hrule)]
  split
  · exact h
  · exact (h.emit _).update
      (fun u => { u with halted := u.halted || u.cfg.haltsOn rule.severity }) (fun _ => rfl)
      (fun _ => ⟨rfl, rfl, rfl, rfl, rfl⟩)

theorem runInvariantSweep (h : Twins before w v) :
    Twins before w.runInvariantSweep v.runInvariantSweep :=
  List.foldl_rel (r := Twins before) h (fun _ hrule _ _ hwv => hwv.checkRule hrule)

theorem tryTrigger (h : Twins before w v) (symbol : Symbol) (price : Decimal) (order : Order) :
    Twins before (w.tryTrigger symbol price order) (v.tryTrigger symbol price order) := by
  unfold Wallet.tryTrigger
  simp only [← h.currentOrder order, ← h.getOpenPosition symbol,
    ← h.read Wallet.takerFeeRate (fun _ => rfl),
    ← h.read (fun u => u.executionPrice price (w.currentOrder order).side true defaultSpreadBps
      defaultSlippageBps) (fun _ => rfl)]
  split
  · exact h
  · split
    · exact h.emit _
    · split
      · exact h.emit _
      · split
        · exact (h.executeOrderInChunks order _ _ _ 1).2
        · exact h

theorem evaluateOrder (h : Twins before w v) (symbol : Symbol) (price : Decimal) (order : Order) :
    Twins before (w.evaluateOrder symbol price order) (v.evaluateOrder symbol price order) := by
  unfold Wallet.evaluateOrder
  simp only [← h.currentOrder order, ← h.nowMs]
  split
  · exact h
  · split
    · exact h.tryTrigger symbol price order
    · split
      · exact h.tick.emit _
      · exact h.tick.tryTrigger symbol price order

theorem evaluatePendingOrders (h : Twins before w v) (symbol : Symbol) (markPrice : Decimal) :
    Twins before (w.evaluatePendingOrders symbol markPrice)
      (v.evaluatePendingOrders symbol markPrice) := by
  unfold Wallet.evaluatePendingOrders
  rw [← h.read Wallet.halted (fun _ => rfl), ← h.read Wallet.orderList (fun _ => rfl)]
  split
  · exact h
  · refine runInvariantSweep ?_
    exact List.foldl_rel (r := Twins before) h
      (fun order _ _ _ hwv => hwv.evaluateOrder symbol markPrice order)

/-! ## Opening -/

theorem getLeverage (h : Twins before w v) (symbol : Symbol) :
    w.getLeverage symbol = v.getLeverage symbol :=
  h.read (fun u => u.getLeverage symbol) (fun _ => rfl)

theorem chargeTds (h : Twins before w v) (amount : Decimal) (reason : String) (symbol : Symbol) :
    Twins before (w.chargeTds amount reason symbol) (v.chargeTds amount reason symbol) := by
  unfold Wallet.chargeTds
  split
  · exact h.emit _
  · exact h

theorem executeEntry (h : Twins before w v) (order : Order) (symbol : Symbol) (setup : Setup)
    (qty markPrice : Decimal) (externalFill : Option ExternalFill) :
    TwinResults before (w.executeEntry order symbol setup qty markPrice externalFill)
      (v.executeEntry order symbol setup qty markPrice externalFill) := by
  unfold Wallet.executeEntry
  simp only [← h.read (fun u => u.calculateFee (setup.entryPrice * qty) false) (fun _ => rfl),
    ← h.read (fun u => u.executionPrice markPrice setup.side true setup.spreadBps
      setup.slippageBps) (fun _ => rfl),
    ← h.read (fun u => u.cfg.paperCollarPct) (fun _ => rfl),
    ← h.read Wallet.takerFeeRate (fun _ => rfl)]
  split
  · exact ⟨rfl, h.recordFill order _ _ _ 1⟩
  · split
    · exact ⟨rfl, h.recordFill order _ _ _ 1⟩
    · split
      · exact ⟨rfl, h.emit _⟩
      · obtain ⟨hfee, htwins⟩ := h.executeOrderInChunks order qty (w.executionPrice markPrice
          setup.side true setup.spreadBps setup.slippageBps) w.takerFeeRate setup.fillChunks
        exact ⟨by rw [hfee], htwins⟩

theorem newPosition (h : Twins before w v) (symbol : Symbol) (setup : Setup) (size : Sizing)
    (executionPrice feeOpen markPrice : Decimal) :
    w.newPosition symbol setup size executionPrice feeOpen markPrice =
      v.newPosition symbol setup size executionPrice feeOpen markPrice := by
  unfold Wallet.newPosition
  rw [h.getLeverage symbol, h.nowMs, h.read Wallet.liveExecution (fun _ => rfl)]

theorem filed (h : Twins before w v) (symbol : Symbol) (pos : EnhancedPosition) :
    TwinResults before ((w.positions.get? symbol).getD pos, w)
      ((v.positions.get? symbol).getD pos, v) :=
  ⟨h.read (fun u => (u.positions.get? symbol).getD pos) (fun _ => rfl), h⟩

theorem bookPosition (h : Twins before w v) (symbol : Symbol) (setup : Setup) (size : Sizing)
    (executionPrice feeOpen markPrice : Decimal) :
    TwinResults before (w.bookPosition symbol setup size executionPrice feeOpen markPrice)
      (v.bookPosition symbol setup size executionPrice feeOpen markPrice) := by
  have hfee := h.tick.emit (.feeCharged feeOpen "OPEN_FEE" symbol)
  unfold Wallet.bookPosition
  simp only [← h.newPosition symbol setup size executionPrice feeOpen markPrice,
    ← hfee.read (fun u => u.calculateTds (setup.side = .short) (executionPrice * size.quantity))
      (fun _ => rfl)]
  exact (((hfee.chargeTds _ "OPEN_TDS" symbol).setPosition symbol _).syncUnrealizedTotal.emit
    _).filed symbol _

theorem bookOpen (h : Twins before w v) (symbol : Symbol) (setup : Setup) (markPrice : Decimal)
    (customMargin customQuantity : Option Decimal) (externalFill : Option ExternalFill)
    (liveQty : Option Decimal) :
    TwinResults before
      (w.bookOpen symbol setup markPrice customMargin customQuantity externalFill liveQty)
      (v.bookOpen symbol setup markPrice customMargin customQuantity externalFill liveQty) := by
  unfold Wallet.bookOpen
  rw [← h.read (fun u => u.sizeOpen symbol setup customMargin customQuantity liveQty)
    (fun _ => rfl)]
  split
  · exact ⟨rfl, h⟩
  · exact ⟨rfl, h⟩
  · next size _ =>
      obtain ⟨horder, hcreated⟩ : TwinResults before (w.createOrder symbol setup.side size.quantity)
          (v.createOrder symbol setup.side size.quantity) := h.createOrderWithType _
      obtain ⟨hfill, hentry⟩ := hcreated.executeEntry (w.createOrder symbol setup.side size.quantity).1
        symbol setup size.quantity markPrice externalFill
      simp only [← horder]
      revert hfill hentry
      generalize (w.createOrder symbol setup.side size.quantity).2.executeEntry _ symbol setup
        size.quantity markPrice externalFill = entry
      generalize (v.createOrder symbol setup.side size.quantity).2.executeEntry _ symbol setup
        size.quantity markPrice externalFill = entry'
      obtain ⟨filled, w₁⟩ := entry
      obtain ⟨filled', v₁⟩ := entry'
      intro hfill hentry
      obtain rfl : filled = filled' := hfill
      cases filled with
      | none => exact ⟨rfl, hentry⟩
      | some filled =>
          obtain ⟨hpos, hbooked⟩ := hentry.bookPosition symbol setup size filled.1 filled.2 markPrice
          exact ⟨congrArg (fun pos => Except.ok (some pos)) hpos, hbooked⟩

theorem openPosition (h : Twins before w v) (symbol : Symbol) (setup : Setup) (markPrice : Decimal)
    (customMargin customQuantity : Option Decimal) (externalFill : Option ExternalFill) :
    Twins before
      (w.openPosition symbol setup markPrice customMargin customQuantity externalFill).2
      (v.openPosition symbol setup markPrice customMargin customQuantity externalFill).2 := by
  obtain ⟨hresult, htwins⟩ := h.bookOpen symbol setup markPrice customMargin customQuantity
    externalFill none
  unfold Wallet.openPosition
  revert hresult htwins
  generalize w.bookOpen symbol setup markPrice customMargin customQuantity externalFill none = r
  generalize v.bookOpen symbol setup markPrice customMargin customQuantity externalFill none = r'
  obtain ⟨result, w₁⟩ := r
  obtain ⟨result', v₁⟩ := r'
  intro hresult htwins
  obtain rfl : result = result' := hresult
  match result with
  | .ok (some _) => exact htwins.save
  | .ok none => exact htwins
  | .error _ => exact htwins

theorem adoptedPosition (h : Twins before w v) (r : AdoptRequest) :
    w.adoptedPosition r = v.adoptedPosition r := by
  unfold Wallet.adoptedPosition
  rw [h.getLeverage r.symbol, h.nowMs]

theorem bookAdoption (h : Twins before w v) (r : AdoptRequest) :
    TwinResults before (w.bookAdoption r) (v.bookAdoption r) := by
  unfold Wallet.bookAdoption
  simp only [← h.getOpenPosition r.symbol, ← h.adoptedPosition r]
  split
  · exact ⟨rfl, h⟩
  · split
    · exact ⟨rfl, h⟩
    · obtain ⟨hpos, hbooked⟩ := ((h.tick.setPosition r.symbol (w.adoptedPosition
        r)).syncUnrealizedTotal.emit (.positionAdopted ((w.adoptedPosition r).adoptPayload r))).filed
          r.symbol (w.adoptedPosition r)
      exact ⟨congrArg some hpos, hbooked⟩

theorem adoptVenuePosition (h : Twins before w v) (r : AdoptRequest) :
    Twins before (w.adoptVenuePosition r).2 (v.adoptVenuePosition r).2 := by
  obtain ⟨hresult, htwins⟩ := h.bookAdoption r
  unfold Wallet.adoptVenuePosition
  revert hresult htwins
  generalize w.bookAdoption r = res
  generalize v.bookAdoption r = res'
  obtain ⟨result, w₁⟩ := res
  obtain ⟨result', v₁⟩ := res'
  intro hresult htwins
  obtain rfl : result = result' := hresult
  cases result with
  | none => exact htwins
  | some _ => exact htwins.save

/-! ## Closing -/

theorem exitPrice (h : Twins before w v) (side : PositionSide) (markPrice : Decimal)
    (externalFill : Option ExternalFill) :
    w.exitPrice side markPrice externalFill = v.exitPrice side markPrice externalFill :=
  h.read (fun u => u.exitPrice side markPrice externalFill) (fun _ => rfl)

theorem bookClose (h : Twins before w v) (symbol : Symbol) (markPrice : Decimal) (reason : String)
    (externalFill : Option ExternalFill) :
    Twins before (w.bookClose symbol markPrice reason externalFill).2
      (v.bookClose symbol markPrice reason externalFill).2 := by
  unfold Wallet.bookClose
  rw [← h.getOpenPosition symbol]
  cases w.getOpenPosition symbol with
  | none => exact h
  | some pos =>
      have hfee := h.read (fun u => u.calculateFee
        (w.exitPrice pos.side markPrice externalFill * pos.remainingQuantity) true) (fun _ => rfl)
      have htds := h.read (fun u => u.calculateTds (pos.side = .long)
        (w.exitPrice pos.side markPrice externalFill * pos.remainingQuantity)) (fun _ => rfl)
      simp only [← h.exitPrice pos.side markPrice externalFill, ← hfee, ← htds]
      have hcharged := (h.emit (.positionClosed (pos.closePayload symbol
        (w.exitPrice pos.side markPrice externalFill) (w.calculateFee
          (w.exitPrice pos.side markPrice externalFill * pos.remainingQuantity) true) reason))).chargeTds
        (w.calculateTds (pos.side = .long)
          (w.exitPrice pos.side markPrice externalFill * pos.remainingQuantity)) "CLOSE_TDS" symbol
      rw [← hcharged.nowMs]
      exact (hcharged.tick.appendHistory _).save

theorem bookPartial (h : Twins before w v) (symbol : Symbol) (markPrice pct : Decimal)
    (reason : String) (tpLabel : Option String) (externalFill : Option ExternalFill) :
    TwinResults before (w.bookPartial symbol markPrice pct reason tpLabel externalFill)
      (v.bookPartial symbol markPrice pct reason tpLabel externalFill) := by
  unfold Wallet.bookPartial
  rw [← h.getOpenPosition symbol]
  cases w.getOpenPosition symbol with
  | none => exact ⟨rfl, h⟩
  | some pos =>
      have hfee := h.read (fun u => u.calculateFee
        (w.exitPrice pos.side markPrice externalFill * (pos.remainingQuantity * pct)) true)
        (fun _ => rfl)
      have htds := h.read (fun u => u.calculateTds (pos.side = .long)
        (w.exitPrice pos.side markPrice externalFill * (pos.remainingQuantity * pct)))
        (fun _ => rfl)
      simp only [← h.exitPrice pos.side markPrice externalFill, ← hfee, ← htds]
      split
      · exact ⟨rfl, h⟩
      · exact ⟨rfl, ((h.emit _).editPosition symbol _).chargeTds _ "PARTIAL_TDS" symbol⟩

theorem partialClose (h : Twins before w v) (symbol : Symbol) (markPrice pct : Decimal)
    (reason : String) (tpLabel : Option String) (externalFill : Option ExternalFill) :
    Twins before (w.partialClose symbol markPrice pct reason tpLabel externalFill).2
      (v.partialClose symbol markPrice pct reason tpLabel externalFill).2 := by
  obtain ⟨hresult, htwins⟩ := h.bookPartial symbol markPrice pct reason tpLabel externalFill
  unfold Wallet.partialClose
  revert hresult htwins
  generalize w.bookPartial symbol markPrice pct reason tpLabel externalFill = r
  generalize v.bookPartial symbol markPrice pct reason tpLabel externalFill = r'
  obtain ⟨result, w₁⟩ := r
  obtain ⟨result', v₁⟩ := r'
  intro hresult htwins
  obtain rfl : result = result' := hresult
  cases result with
  | none => exact htwins
  | some pnl =>
      simp only [← htwins.read (fun u => u.isDust symbol) (fun _ => rfl)]
      split
      · exact htwins.bookClose symbol markPrice "FULL_VIA_PARTIALS" none
      · exact htwins.save

theorem liquidatePosition (h : Twins before w v) (symbol : Symbol) (markPrice : Decimal) :
    Twins before (w.liquidatePosition symbol markPrice) (v.liquidatePosition symbol markPrice) := by
  unfold Wallet.liquidatePosition
  rw [← h.getOpenPosition symbol]
  cases w.getOpenPosition symbol with
  | none => exact h
  | some pos =>
      have hclosed := h.emit (.liquidation (pos.closePayload symbol markPrice 0 "LIQUIDATION"))
      simp only [← hclosed.nowMs]
      exact (hclosed.tick.appendHistory _).save

/-! ## Stops and funding -/

theorem adjustSlPrice (h : Twins before w v) (symbol : Symbol) (newSlPrice : Decimal) :
    Twins before (w.adjustSlPrice symbol newSlPrice) (v.adjustSlPrice symbol newSlPrice) :=
  (h.emit _).save

theorem activateTrailingStop (h : Twins before w v) (symbol : Symbol) :
    Twins before (w.activateTrailingStop symbol) (v.activateTrailingStop symbol) :=
  (h.emit _).save

theorem applyFunding (h : Twins before w v) (symbol : Symbol) (fundingRate : Decimal) :
    Twins before (w.applyFunding symbol fundingRate).2 (v.applyFunding symbol fundingRate).2 := by
  unfold Wallet.applyFunding
  rw [← h.getOpenPosition symbol]
  cases w.getOpenPosition symbol with
  | none => exact h
  | some pos =>
      have hcredited := h.update
        (fun u => { u with walletBalance := u.walletBalance + pos.fundingAmount fundingRate })
        (fun _ => rfl) (fun _ => ⟨rfl, rfl, rfl, rfl, rfl⟩)
      exact ((hcredited.setPosition symbol _).emit _).save

/-- Every operation leaves twins. -/
theorem run (h : Twins before w v) (op : Operation) : Twins before (op.run w) (op.run v) := by
  cases op with
  | openPosition symbol setup markPrice customMargin customQuantity externalFill =>
      exact h.openPosition symbol setup markPrice customMargin customQuantity externalFill
  | adoptVenuePosition r => exact h.adoptVenuePosition r
  | partialClose symbol markPrice pct reason tpLabel externalFill =>
      exact h.partialClose symbol markPrice pct reason tpLabel externalFill
  | closePosition symbol markPrice reason externalFill =>
      exact h.bookClose symbol markPrice reason externalFill
  | liquidatePosition symbol markPrice => exact h.liquidatePosition symbol markPrice
  | applyFunding symbol fundingRate => exact h.applyFunding symbol fundingRate
  | adjustSlPrice symbol newSlPrice => exact h.adjustSlPrice symbol newSlPrice
  | activateTrailingStop symbol => exact h.activateTrailingStop symbol
  | placePendingOrder r => exact h.placePendingOrder r
  | evaluatePendingOrders symbol markPrice => exact h.evaluatePendingOrders symbol markPrice
  | cancelOrder orderId reason => exact h.cancelOrder orderId reason

end CryptoTrader.Wallet.Twins
