import CryptoTrader.Wallet.OrderBook
import CryptoTrader.Wallet.Reset

/-!
# Orders over runs of the wallet

The operations on orders append orderly events, those on positions none about
orders.  So does a restart, which replays the first events of the log.  One
thing comes of a restart in the middle of an execution in chunks: an order
partially filled at rest, which `evaluate_pending_orders` passes over.
-/

namespace CryptoTrader

open CryptoTrader.Lib

/-! ## Orderly wallets -/

/-- The book of the wallet is that of its log, and the log is orderly. -/
structure Wallet.Orderly (w : Wallet) : Prop where
  book : w.runtime.book = bookOf w.log
  log : OrderlyLog w.log

/-- No order is partially filled. -/
def OrderBook.Settled (b : OrderBook) : Prop :=
  ∀ id order, b.orders.get? id = some order → order.status ≠ .partiallyFilled

/-- An orderly wallet between operations. -/
structure Wallet.AtRest (w : Wallet) : Prop extends Wallet.Orderly w where
  settled : w.runtime.book.Settled

section Orderly

variable {w : Wallet}

theorem Wallet.book_emit (w : Wallet) (payload : Payload) :
    (w.emit payload).runtime.book = w.runtime.book.apply payload := by
  rw [Wallet.runtime_emit]
  exact w.runtime.book_apply (w.event payload)

namespace Wallet.Orderly

theorem sound (h : w.Orderly) : w.runtime.book.Sound := h.book ▸ h.log.sound

theorem emit (h : w.Orderly) {payload : Payload} (hp : payload.Orderly w.runtime.book) :
    (w.emit payload).Orderly := by
  refine ⟨?_, ?_⟩
  · rw [Wallet.book_emit, Wallet.log_emit, bookOf_append, h.book]
    rfl
  · rw [Wallet.log_emit, OrderlyLog.append_iff]
    exact ⟨h.log, h.book ▸ hp⟩

theorem save (h : w.Orderly) : w.save.Orderly := by
  refine ⟨?_, ?_⟩
  · rw [Wallet.log_save]
    exact h.book
  · rw [Wallet.log_save]
    exact h.log

theorem volatile (h : w.Orderly) {w' : Wallet} (hv : Wallet.Volatile w w') : w'.Orderly := by
  refine ⟨?_, ?_⟩
  · rw [hv.runtime, hv.log]
    exact h.book
  · rw [hv.log]
    exact h.log

theorem tick (h : w.Orderly) : w.tick.Orderly := ⟨h.book, h.log⟩

/-- The next order is orderly when it is for no less than nothing. -/
theorem createOrderWithType (h : w.Orderly) (r : OrderRequest) (hq : 0 ≤ r.quantity) :
    (w.createOrderWithType r).2.Orderly :=
  h.tick.emit ⟨⟨s!"{r.symbol.name}-{w.nowMs}", rfl⟩, hq, rfl⟩

/-- A fill by no more than the rest, at the price of the fills before. -/
theorem recordFill (h : w.Orderly) {order : Order} {data : OrderData}
    (hdata : w.runtime.orders.get? order.id = some data) {quantity fillPrice : Decimal}
    (hq : 0 ≤ quantity) (hfit : data.filledQuantity + quantity ≤ data.quantity)
    (hprice : data.filledQuantity = 0 ∨ fillPrice = data.avgFillPrice) (fee : Decimal)
    (sequence : Nat) : (w.recordFill order quantity fillPrice fee sequence).Orderly := by
  have hcurrent : w.currentOrder order = data := by simp [Wallet.currentOrder, hdata]
  rw [Wallet.recordFill_eq, hcurrent]
  refine h.emit ⟨data, hdata, hq, hfit, hprice, ?_⟩
  by_cases hfull : data.quantity ≤ data.filledQuantity + quantity <;>
    simp [OrderData.fillPayload, hfull]

/-- The fills of an execution in chunks, when the rounded chunks before the last
leave it something or nothing. -/
theorem executeChunks (order : Order) {chunkQty : Decimal} (hchunk : 0 ≤ chunkQty)
    (fillPrice feeRate : Decimal) (left : Nat) :
    ∀ {w : Wallet} {data : OrderData} (idx : Nat) {remaining : Decimal} (totalFee : Decimal),
      w.Orderly → w.runtime.orders.get? order.id = some data →
      (left - 1 : ℕ) * chunkQty ≤ remaining →
      data.filledQuantity + remaining ≤ data.quantity →
      (data.filledQuantity = 0 ∨ fillPrice = data.avgFillPrice) →
      (Wallet.executeChunks order chunkQty fillPrice feeRate left idx remaining totalFee w).2.Orderly := by
  induction left with
  | zero =>
      intro w data idx remaining totalFee h _ _ _ _
      exact h
  | succ left ih =>
      intro w data idx remaining totalFee h hdata hfit hrest hprice
      rw [Nat.add_sub_cancel] at hfit
      have hid : order.id ≠ "" := h.sound.id_ne_empty (by
        show (w.runtime.orders.get? order.id).isSome
        rw [hdata]
        rfl)
      rw [Wallet.executeChunks]
      generalize hqty : (if left = 0 then remaining else chunkQty) = qty
      have hbounds : 0 ≤ qty ∧ qty ≤ remaining ∧
          (left ≠ 0 → qty = chunkQty ∧ (left - 1 : ℕ) * chunkQty ≤ remaining - chunkQty) := by
        rcases Nat.eq_zero_or_pos left with rfl | hleft
        · rw [if_pos rfl] at hqty
          have hnonneg : 0 ≤ remaining := by simpa using hfit
          exact ⟨hqty ▸ hnonneg, hqty ▸ le_rfl, fun h => absurd rfl h⟩
        · rw [if_neg hleft.ne'] at hqty
          have hone : ((left - 1 : ℕ) : Decimal) = left - 1 := by
            push_cast [Nat.cast_sub hleft]
            rfl
          have hmore : 0 ≤ ((left - 1 : ℕ) : Decimal) * chunkQty := by positivity
          rw [hone] at hmore ⊢
          exact ⟨hqty ▸ hchunk, by linarith, fun _ => ⟨hqty.symm, by linarith⟩⟩
      obtain ⟨hpos, hle, hmore⟩ := hbounds
      have hfilled := h.recordFill hdata hpos (by linarith) hprice (|qty * fillPrice| * feeRate) idx
      obtain ⟨hnext, -, -⟩ := w.recordFill_spec order hid hdata qty fillPrice
        (|qty * fillPrice| * feeRate) idx
      rcases Nat.eq_zero_or_pos left with rfl | hleft
      · exact hfilled
      · obtain ⟨rfl, hfit'⟩ := hmore hleft.ne'
        refine ih (idx + 1) _ hfilled hnext hfit' ?_ (.inr ?_)
        · rw [OrderData.filledQuantity_fill, OrderData.quantity_fill]
          show data.filledQuantity + qty + (remaining - qty) ≤ data.quantity
          linarith
        · rw [OrderData.avgFillPrice_fill]
          rfl

end Wallet.Orderly

end Orderly

/-! ## Between operations -/

/-- An event about an order settles the book if what it makes of that order is
not partially filled. -/
theorem OrderBook.Settled.modify {b : OrderBook} (h : b.Settled) {id : String}
    {f : OrderData → OrderData} {fills : List FillPayload}
    (hf : ∀ order, b.orders.get? id = some order → (f order).status ≠ .partiallyFilled) :
    OrderBook.Settled ⟨b.orders.modify id f, fills⟩ := by
  intro id' order horder
  by_cases heq : id = id'
  · subst heq
    rw [Dict.get?_modify_self] at horder
    obtain ⟨old, hold, rfl⟩ := Option.map_eq_some_iff.mp horder
    exact hf old hold
  · rw [Dict.get?_modify_ne _ _ heq] at horder
    exact h id' order horder

namespace Wallet.AtRest

/-- Nothing but events about orders matters. -/
theorem bookingsKeep : Wallet.BookingsKeep Wallet.AtRest where
  event := by
    intro w payload hpayload h
    refine ⟨h.toOrderly.emit ?_, ?_⟩
    · cases payload <;> simp [Payload.isOrder] at hpayload <;> trivial
    · rw [Wallet.book_emit, OrderBook.apply_of_not_order _ hpayload]
      exact h.settled
  save := fun h => ⟨h.toOrderly.save, h.settled⟩
  volatile := by
    intro w w' h hv
    refine ⟨h.toOrderly.volatile hv, ?_⟩
    rw [hv.runtime]
    exact h.settled

variable {w : Wallet} (h : w.AtRest)
include h

theorem tick : w.tick.AtRest := ⟨h.toOrderly.tick, h.settled⟩

/-- An order is cancelled, rejected or has expired. -/
theorem emit_transition {payload : Payload} (id : String) {s : OrderStatus}
    (hs : s ≠ .partiallyFilled) (hp : payload.Orderly w.runtime.book)
    (happly : w.runtime.book.apply payload =
      { w.runtime.book with orders := modifyOrder w.runtime.book.orders id (·.transition s) }) :
    (w.emit payload).AtRest := by
  refine ⟨h.toOrderly.emit hp, ?_⟩
  rw [Wallet.book_emit, happly, h.toOrderly.sound.modifyOrder_eq]
  refine h.settled.modify (fun order horder => ?_)
  rcases order.status_transition_or s with hkeep | htake
  · rw [hkeep]
    exact h.settled id order horder
  · rw [htake]
    exact hs

theorem createOrderWithType (r : OrderRequest) (hq : 0 ≤ r.quantity) :
    (w.createOrderWithType r).2.AtRest := by
  have horderly : Payload.Orderly w.runtime.book
      (.orderCreated (r.payload (w.nextOrderId r.symbol))) :=
    ⟨⟨s!"{r.symbol.name}-{w.nowMs}", rfl⟩, hq, rfl⟩
  refine ⟨h.toOrderly.createOrderWithType r hq, ?_⟩
  have hbook : (w.createOrderWithType r).2.runtime.book =
      w.runtime.book.apply (.orderCreated (r.payload (w.nextOrderId r.symbol))) :=
    Wallet.book_emit w.tick _
  rw [hbook, (h.toOrderly.sound.create_fresh horderly).2]
  intro id order horder
  rw [Dict.get?_set] at horder
  split at horder
  · obtain rfl := Option.some.inj horder
    exact (by decide : OrderStatus.pending ≠ .partiallyFilled)
  · exact h.settled id order horder

theorem cancelOrder (orderId reason : String) : (w.cancelOrder orderId reason).2.AtRest := by
  unfold Wallet.cancelOrder
  split
  · exact h
  · split
    · exact h
    · exact h.emit_transition orderId (by decide) trivial rfl

/-- A pending order is filled as a whole. -/
theorem fillRest {order : Order} {data : OrderData}
    (hdata : w.runtime.orders.get? order.id = some data) (hpending : data.status = .pending)
    {quantity : Decimal} (hrest : data.filledQuantity + quantity = data.quantity)
    (fillPrice fee : Decimal) (sequence : Nat) :
    (w.recordFill order quantity fillPrice fee sequence).AtRest := by
  have hnone : data.filledQuantity = 0 := h.toOrderly.sound.pending _ data hdata hpending
  have hsound := h.toOrderly.sound.orders _ data hdata
  have hq : 0 ≤ quantity := by
    have hwithin := hsound.within
    linarith
  refine ⟨h.toOrderly.recordFill hdata hq hrest.le (.inl hnone) fee sequence, ?_⟩
  have hcurrent : w.currentOrder order = data := by simp [Wallet.currentOrder, hdata]
  rw [Wallet.recordFill_eq, hcurrent, Wallet.book_emit]
  show OrderBook.Settled ⟨modifyOrder w.runtime.book.orders order.id _, _⟩
  rw [h.toOrderly.sound.modifyOrder_eq]
  refine h.settled.modify (fun old hold => ?_)
  obtain rfl : data = old := Option.some.inj (hdata.symm.trans hold)
  rw [data.status_fill_of_working (.inl hpending), if_pos hrest.ge]
  decide

theorem tryTrigger (symbol : Symbol) (price : Decimal) {order : Order} {data : OrderData}
    (hdata : w.runtime.orders.get? order.id = some data) (hpending : data.status = .pending) :
    (w.tryTrigger symbol price order).AtRest := by
  have hcurrent : w.currentOrder order = data := by simp [Wallet.currentOrder, hdata]
  have hwithin := (h.toOrderly.sound.orders _ data hdata).within
  unfold Wallet.tryTrigger
  simp only [hcurrent]
  split_ifs
  · exact h
  · exact h.emit_transition order.id (by decide) trivial rfl
  · exact h.emit_transition order.id (by decide) trivial rfl
  · refine h.fillRest hdata hpending ?_ _ _ 1
    rw [max_eq_right (sub_nonneg.mpr hwithin)]
    simp
  · exact h

theorem evaluateOrder (symbol : Symbol) (price : Decimal) {order : Order}
    (hknown : (w.runtime.orders.get? order.id).isSome) :
    (w.evaluateOrder symbol price order).AtRest := by
  obtain ⟨data, hdata⟩ := Option.isSome_iff_exists.mp hknown
  have hcurrent : w.currentOrder order = data := by simp [Wallet.currentOrder, hdata]
  unfold Wallet.evaluateOrder
  simp only [hcurrent]
  split
  · exact h
  · next hother =>
      push Not at hother
      split
      · exact h.tryTrigger symbol price hdata hother.2
      · split
        · exact h.tick.emit_transition order.id (by decide) trivial rfl
        · exact h.tick.tryTrigger symbol price hdata hother.2

end Wallet.AtRest

/-- Orders stay in the book. -/
theorem OrderBook.isSome_apply (b : OrderBook) (payload : Payload) {id : String}
    (h : (b.orders.get? id).isSome) : ((b.apply payload).orders.get? id).isSome := by
  have hmodify : ∀ (k : String) (f : OrderData → OrderData),
      ((modifyOrder b.orders k f).get? id).isSome := by
    intro k f
    unfold modifyOrder
    split
    · exact h
    · rw [Dict.get?_modify]
      split
      · next heq => simpa [heq] using h
      · exact h
  cases payload with
  | orderCreated p =>
      simp only [apply]
      split
      · exact h
      · rw [Dict.get?_set]
        split
        · rfl
        · exact h
  | orderFilled p => exact hmodify p.orderId _
  | orderCancelled orderId reason => exact hmodify orderId _
  | orderRejected orderId symbol? reason => exact hmodify orderId _
  | orderExpired orderId => exact hmodify orderId _
  | _ => exact h

theorem Wallet.ordersKeep_known (id : String) :
    Wallet.OrdersKeep (fun w => (w.runtime.book.orders.get? id).isSome) where
  order := by
    intro w payload _ h
    rw [Wallet.book_emit]
    exact w.runtime.book.isSome_apply payload h
  report := by
    intro w v h
    rw [Wallet.book_emit]
    exact w.runtime.book.isSome_apply _ h
  tick := fun h => h
  setHalted := fun _ h => h

theorem Wallet.AtRest.evaluateOrders (symbol : Symbol) (markPrice : Decimal) (orders : List Order) :
    ∀ {w : Wallet}, w.AtRest → (∀ order ∈ orders, (w.runtime.book.orders.get? order.id).isSome) →
      (orders.foldl (Wallet.evaluateOrder symbol markPrice) w).AtRest := by
  induction orders with
  | nil => exact fun h _ => h
  | cons order rest ih =>
      intro w h hknown
      refine ih (h.evaluateOrder symbol markPrice (hknown order List.mem_cons_self)) ?_
      intro other hother
      exact (Wallet.ordersKeep_known other.id).evaluateOrder
        (hknown other (List.mem_cons_of_mem _ hother)) symbol markPrice order

theorem Wallet.AtRest.evaluatePendingOrders {w : Wallet} (h : w.AtRest) (symbol : Symbol)
    (markPrice : Decimal) : (w.evaluatePendingOrders symbol markPrice).AtRest := by
  unfold Wallet.evaluatePendingOrders
  split
  · exact h
  · refine bookingsKeep.runInvariantSweep (h.evaluateOrders symbol markPrice _ ?_)
    intro order horder
    obtain ⟨⟨id, data⟩, hmem, rfl⟩ := List.mem_map.mp horder
    show (w.runtime.orders.get? id).isSome
    rw [w.runtime.orders.get?_of_mem hmem]
    rfl

/-! ## Openings -/

/-- A new order is in the book. -/
theorem Wallet.get?_createOrderWithType (w : Wallet) (r : OrderRequest) :
    (w.createOrderWithType r).2.runtime.orders.get? (w.createOrderWithType r).1.id =
      some (w.createOrderWithType r).1.data := by
  have hid : (r.payload (w.nextOrderId r.symbol)).orderId ≠ "" :=
    numbered_ne_empty s!"{r.symbol.name}-{w.nowMs}" _
  have hbook : (w.createOrderWithType r).2.runtime.book =
      w.runtime.book.apply (.orderCreated (r.payload (w.nextOrderId r.symbol))) :=
    Wallet.book_emit w.tick _
  have horders := congrArg OrderBook.orders hbook
  rw [OrderBook.apply, if_neg hid] at horders
  change (w.createOrderWithType r).2.runtime.orders = _ at horders
  rw [horders]
  exact Dict.get?_set_self _ _ _

/-- The order an opening fills, in chunks or as a whole. -/
def Wallet.FitsOpening (w : Wallet) (symbol : Symbol) (setup : Setup)
    (customMargin customQuantity : Option Decimal) (externalFill : Option ExternalFill) : Prop :=
  ∀ size, w.sizeOpen symbol setup customMargin customQuantity none = .ok (some size) →
    0 ≤ size.quantity ∧
      (externalFill = none → setup.entryOrderStyle = .market →
        (max 1 setup.fillChunks - 1) * quantize8 (size.quantity / max 1 setup.fillChunks) ≤
          size.quantity)

/-- The other orders are not touched by an execution. -/
theorem Wallet.orders_executeChunks_ne (order : Order) (chunkQty fillPrice feeRate : Decimal)
    {id : String} (hne : order.id ≠ id) (left : Nat) :
    ∀ (w : Wallet) (idx : Nat) (remaining totalFee : Decimal),
      (Wallet.executeChunks order chunkQty fillPrice feeRate left idx remaining totalFee
        w).2.runtime.orders.get? id = w.runtime.orders.get? id := by
  induction left with
  | zero => exact fun _ _ _ _ => rfl
  | succ left ih =>
      intro w idx remaining totalFee
      rw [Wallet.executeChunks, ih]
      have hbook : (w.recordFill order (if left = 0 then remaining else chunkQty) fillPrice
          (|(if left = 0 then remaining else chunkQty) * fillPrice| * feeRate) idx).runtime.book =
          w.runtime.book.apply _ := Wallet.book_emit w _
      have horders := congrArg (fun b => OrderBook.orders b |>.get? id) hbook
      refine horders.trans ?_
      simp only [OrderBook.apply, modifyOrder]
      split
      · rfl
      · exact Dict.get?_modify_ne _ _ hne

namespace Wallet.AtRest

variable {w : Wallet} (h : w.AtRest)
include h

theorem executeOrderInChunks {order : Order} {data : OrderData}
    (hdata : w.runtime.orders.get? order.id = some data) (hpending : data.status = .pending)
    {count : Int} (hfit : (max 1 count - 1) * quantize8 (data.quantity / max 1 count) ≤ data.quantity)
    (fillPrice feeRate : Decimal) :
    (w.executeOrderInChunks order data.quantity fillPrice feeRate count).2.AtRest := by
  obtain ⟨n, hn⟩ : ∃ n : Nat, max 1 count = n + 1 := ⟨(max 1 count - 1).toNat, by omega⟩
  have hsound := h.toOrderly.sound.orders _ data hdata
  have hnone : data.filledQuantity = 0 := h.toOrderly.sound.pending _ data hdata hpending
  have hq : 0 ≤ data.quantity := hnone ▸ hsound.within
  have hid : order.id ≠ "" := h.toOrderly.sound.id_ne_empty (by
    show (w.runtime.orders.get? order.id).isSome
    rw [hdata]
    rfl)
  have hcast : ((max 1 count : Int) : Decimal) = n + 1 := by
    rw [hn]
    push_cast
    rfl
  have hcount : (max 1 count).toNat = n + 1 := by omega
  have hchunk : 0 ≤ quantize8 (data.quantity / (n + 1)) := quantize8_nonneg (by positivity)
  rw [hcast] at hfit
  unfold Wallet.executeOrderInChunks
  simp only [hcount]
  push_cast
  refine ⟨?_, ?_⟩
  · refine h.toOrderly.executeChunks order hchunk fillPrice feeRate (n + 1) 1 0 hdata ?_ ?_
      (.inl hnone)
    · rw [Nat.add_sub_cancel]
      simpa using hfit
    · rw [hnone, zero_add]
  · intro id after hafter
    by_cases heq : order.id = id
    · subst heq
      obtain ⟨-, -, hfills, -⟩ := Wallet.executeChunks_fills order hid
        (quantize8 (data.quantity / (n + 1))) fillPrice feeRate (n + 1) 1 data.quantity 0 w data hdata
      obtain rfl := Option.some.inj (hfills.symm.trans hafter)
      have hstatus := OrderData.status_foldl_chunkFills order.id fillPrice feeRate
        (instalments (quantize8 (data.quantity / (n + 1))) (n + 1) data.quantity)
        (by simp [instalments]) 1 data (.inl (.inl hpending))
      rcases hstatus with ⟨-, hlt⟩ | hfilled
      · rw [OrderData.filledQuantity_foldl_fill, OrderData.quantities_chunkFills,
          sum_instalments _ _ (by omega), hnone, zero_add, OrderData.quantity_foldl_fill] at hlt
        exact absurd hlt (lt_irrefl _)
      · rw [hfilled]
        decide
    · have hsame : (Wallet.executeChunks order (quantize8 (data.quantity / (n + 1))) fillPrice feeRate
          (n + 1) 1 data.quantity 0 w).2.runtime.orders.get? id = w.runtime.orders.get? id :=
        Wallet.orders_executeChunks_ne order _ fillPrice feeRate heq _ w _ _ _
      exact h.settled id after (hsame.symm.trans hafter)

/-- The entry of an opening fills its order or is turned down. -/
theorem executeEntry {order : Order} {data : OrderData}
    (hdata : w.runtime.orders.get? order.id = some data) (hpending : data.status = .pending)
    (symbol : Symbol) (setup : Setup) (markPrice : Decimal) (externalFill : Option ExternalFill)
    (hfit : externalFill = none → setup.entryOrderStyle = .market →
      (max 1 setup.fillChunks - 1) * quantize8 (data.quantity / max 1 setup.fillChunks) ≤
        data.quantity) :
    (w.executeEntry order symbol setup data.quantity markPrice externalFill).2.AtRest := by
  have hwhole : data.filledQuantity + data.quantity = data.quantity := by
    rw [h.toOrderly.sound.pending _ data hdata hpending, zero_add]
  unfold Wallet.executeEntry
  split
  · exact h.fillRest hdata hpending hwhole _ _ 1
  · split
    · exact h.fillRest hdata hpending hwhole _ _ 1
    · next hstyle =>
        simp only
        split
        · exact h.emit_transition order.id (by decide) trivial rfl
        · exact h.executeOrderInChunks hdata hpending (hfit rfl hstyle) _ _

theorem openPosition (symbol : Symbol) (setup : Setup) (markPrice : Decimal)
    (customMargin customQuantity : Option Decimal) (externalFill : Option ExternalFill)
    (hfit : w.FitsOpening symbol setup customMargin customQuantity externalFill) :
    (w.openPosition symbol setup markPrice customMargin customQuantity externalFill).2.AtRest := by
  have hbooked : (w.bookOpen symbol setup markPrice customMargin customQuantity externalFill
      none).2.AtRest := by
    unfold Wallet.bookOpen
    cases hsize : w.sizeOpen symbol setup customMargin customQuantity none with
    | error e => exact h
    | ok size? =>
        cases size? with
        | none => exact h
        | some size =>
            obtain ⟨hq, hchunks⟩ := hfit size hsize
            have hcreated : (w.createOrder symbol setup.side size.quantity).2.AtRest :=
              h.createOrderWithType _ hq
            have hdata := w.get?_createOrderWithType
              { symbol := symbol, side := setup.side, quantity := size.quantity, orderType := .market }
            have hpending : (w.createOrder symbol setup.side size.quantity).1.data.status = .pending :=
              rfl
            have hquantity : (w.createOrder symbol setup.side size.quantity).1.data.quantity =
                size.quantity := rfl
            change (w.createOrder _ _ _).2.runtime.orders.get? (w.createOrder _ _ _).1.id =
              some (w.createOrder _ _ _).1.data at hdata
            dsimp only
            generalize w.createOrder symbol setup.side size.quantity = created at *
            obtain ⟨order, v⟩ := created
            rw [← hquantity] at hchunks
            have hentry := hcreated.executeEntry hdata hpending symbol setup markPrice externalFill
              hchunks
            rw [hquantity] at hentry
            dsimp only at hentry ⊢
            generalize v.executeEntry order symbol setup size.quantity markPrice externalFill =
              entry at *
            obtain ⟨filled?, u⟩ := entry
            cases filled? with
            | none => exact hentry
            | some filled => exact bookingsKeep.bookPosition hentry symbol setup size _ _ markPrice
  unfold Wallet.openPosition
  generalize w.bookOpen symbol setup markPrice customMargin customQuantity externalFill none =
    booked at hbooked ⊢
  obtain ⟨result, v⟩ := booked
  rcases result with e | (_ | pos)
  · exact hbooked
  · exact hbooked
  · exact bookingsKeep.save hbooked

end Wallet.AtRest

/-! ## Runs with restarts -/

/-- A partially filled order can be cancelled, and the ticks that are for it
expire or fill it. -/
structure Wallet.GoesOn (w : Wallet) (id : String) (order : OrderData) : Prop where
  cancels : ∀ reason, ((w.cancelOrder id reason).2.runtime.orders.get? id).map OrderData.status =
    some .cancelled
  expires : ∀ markPrice t, order.expiresAt = some t → t ≠ 0 → t ≤ w.nowMs →
    ((w.evaluateOrder order.symbol markPrice ⟨id, order⟩).runtime.orders.get? id).map
      OrderData.status = some .expired
  fills : ∀ markPrice, w.Fillable order.symbol markPrice ⟨id, order⟩ →
    (∀ t, order.expiresAt = some t → t ≠ 0 → w.nowMs < t) →
      ((w.evaluateOrder order.symbol markPrice ⟨id, order⟩).runtime.orders.get? id).map
        OrderData.status = some .filled

/-- Every order agrees with its fills. -/
def PortfolioState.OrdersSound (s : PortfolioState) : Prop :=
  ∀ id order, s.orders.get? id = some order → order.Sound (fillsFor id s.fills)

/-- What is to hold of the orders of a wallet: they agree with their fills, now
and after every event of the log; what has ended stays so; and what is partially
filled goes on. -/
structure Wallet.OrdersRight (w : Wallet) : Prop where
  sound : w.runtime.OrdersSound
  replayed : ∀ before, before <+: w.log →
    (PortfolioState.ofLog w.cfg.initialBalance before).OrdersSound
  ended : ∀ before, before <+: w.log → ∀ id order,
    (PortfolioState.ofLog w.cfg.initialBalance before).orders.get? id = some order →
      order.status.Ended →
        (w.runtime.orders.get? id).map OrderData.status = some order.status
  goesOn : ∀ id order, w.runtime.orders.get? id = some order →
    order.status = .partiallyFilled → w.GoesOn id order

/-- The turn of a partially filled order does nothing. -/
theorem Wallet.evaluateOrder_of_partiallyFilled {w : Wallet} {id : String} {order : OrderData}
    (hget : w.runtime.orders.get? id = some order) (h : order.status = .partiallyFilled)
    (markPrice : Decimal) : w.evaluateOrder order.symbol markPrice ⟨id, order⟩ = w := by
  have hcurrent : w.currentOrder ⟨id, order⟩ = order := by simp [Wallet.currentOrder, hget]
  unfold Wallet.evaluateOrder
  simp [hcurrent, h]

/-- A partially filled order can be cancelled. -/
theorem Wallet.status_cancelOrder_of_partiallyFilled {w : Wallet} (hw : w.Orderly) {id : String}
    {order : OrderData} (hget : w.runtime.orders.get? id = some order)
    (h : order.status = .partiallyFilled) (reason : String) :
    ((w.cancelOrder id reason).2.runtime.orders.get? id).map OrderData.status =
      some .cancelled := by
  have hcancel : (w.cancelOrder id reason).2 = w.emit (.orderCancelled id reason) := by
    simp [Wallet.cancelOrder, hget, h]
  have hbook := congrArg OrderBook.orders (w.book_emit (.orderCancelled id reason))
  change (w.emit (.orderCancelled id reason)).runtime.orders =
    modifyOrder w.runtime.book.orders id (·.transition .cancelled) at hbook
  rw [hcancel, hbook, hw.sound.modifyOrder_eq, Dict.get?_modify_self]
  show ((w.runtime.orders.get? id).map _).map _ = _
  rw [hget]
  simp [OrderData.status_transition, h, canTransition, validTransitions]

/-- No tick does anything else to it: it goes on only if none is for it. -/
theorem Wallet.goesOn_iff {w : Wallet} (hw : w.Orderly) {id : String} {order : OrderData}
    (hget : w.runtime.orders.get? id = some order) (h : order.status = .partiallyFilled) :
    w.GoesOn id order ↔
      (∀ t, order.expiresAt = some t → t ≠ 0 → w.nowMs < t) ∧
        ∀ markPrice, ¬ w.Fillable order.symbol markPrice ⟨id, order⟩ := by
  have hturn := Wallet.evaluateOrder_of_partiallyFilled hget h
  constructor
  · intro hgoes
    have hlive : ∀ t, order.expiresAt = some t → t ≠ 0 → w.nowMs < t := by
      intro t ht hne
      by_contra hpast
      have hexpired := hgoes.expires 0 t ht hne (not_lt.mp hpast)
      rw [hturn, hget, Option.map_some, h] at hexpired
      cases hexpired
    refine ⟨hlive, fun markPrice hfillable => ?_⟩
    have hfilled := hgoes.fills markPrice hfillable hlive
    rw [hturn, hget, Option.map_some, h] at hfilled
    cases hfilled
  · rintro ⟨hlive, hnever⟩
    refine ⟨Wallet.status_cancelOrder_of_partiallyFilled hw hget h, ?_, ?_⟩
    · exact fun _ t ht hne hpast => absurd (hlive t ht hne) (not_lt.mpr hpast)
    · exact fun markPrice hfillable _ => absurd hfillable (hnever markPrice)

/-- The steps after which the orders are right: no order for less than nothing
is placed, an opening is for no less than nothing and its rounded chunks do not
use it up before the last, and a restart does not find an order partially
filled. -/
def CrashStep.Regular (init : WalletInit) (w : Wallet) : CrashStep → Prop
  | .operate (.placePendingOrder r) => w.halted = false → 0 ≤ r.quantity
  | .operate (.openPosition symbol setup _ customMargin customQuantity externalFill) =>
      w.FitsOpening symbol setup customMargin customQuantity externalFill
  | .operate _ => True
  | .crash k clock redisUp =>
      CrashStep.Safe init w (.crash k clock redisUp) ∧
        ∀ order ∈ (PortfolioState.ofLog init.cfg.initialBalance
          (w.crashed k).events).orders.values, order.status ≠ .partiallyFilled

theorem CrashStep.Regular.safe {init : WalletInit} {w : Wallet} {s : CrashStep}
    (h : s.Regular init w) : s.Safe init w := by
  cases s with
  | operate op => trivial
  | crash k clock redisUp => exact h.1

/-! ### The steps -/

/-- The book of a restarted wallet is that of the rows it finds. -/
theorem Wallet.orderly_of_durable {init : WalletInit} {w : Wallet} (h : w.DurableAs init)
    (hlog : OrderlyLog w.log) : w.Orderly := by
  refine ⟨?_, hlog⟩
  have hview := h.1.tracks.view
  have hbook : w.runtime.book = (PortfolioState.ofLog w.cfg.initialBalance w.log).book :=
    congrArg (fun v : PortfolioView => OrderBook.mk v.orders v.fills) hview
  rw [hbook, PortfolioState.book_ofLog]

/-- A restart appends nothing to the log, or the bootstrap event of an empty
one. -/
theorem Wallet.log_boot (init : WalletInit) (clock : Nat → Nat) (stores : Stores) (redisUp : Bool) :
    (Wallet.boot init clock stores redisUp).log = stores.events ∨
      ∃ e b, e.payload = .walletInitialized b ∧
        (Wallet.boot init clock stores redisUp).log = stores.events ++ [e] := by
  have hstores := Wallet.stores_loadState (Wallet.blank init clock stores) redisUp
  have hload : ((Wallet.blank init clock stores).loadState redisUp).log = stores.events := by
    rw [Wallet.log, hstores]
    rfl
  unfold Wallet.boot Wallet.bootstrap
  generalize (Wallet.blank init clock stores).loadState redisUp = w at *
  split
  · refine .inr ⟨w.event (.walletInitialized w.walletBalance), w.walletBalance, rfl, ?_⟩
    rw [Wallet.log_emit, hload]
  · exact .inl hload

theorem Wallet.AtRest.boot {init : WalletInit} {clock : Nat → Nat} {stores : Stores}
    {redisUp : Bool} (hdurable : (Wallet.boot init clock stores redisUp).DurableAs init)
    (hlog : OrderlyLog stores.events) (hsettled : (bookOf stores.events).Settled) :
    (Wallet.boot init clock stores redisUp).AtRest := by
  have hsame : OrderlyLog (Wallet.boot init clock stores redisUp).log ∧
      bookOf (Wallet.boot init clock stores redisUp).log = bookOf stores.events := by
    rcases Wallet.log_boot init clock stores redisUp with heq | ⟨e, b, he, heq⟩
    · rw [heq]
      exact ⟨hlog, rfl⟩
    · rw [heq, OrderlyLog.append_iff, bookOf_append, he]
      exact ⟨⟨hlog, trivial⟩, rfl⟩
  have horderly := Wallet.orderly_of_durable hdurable hsame.1
  refine ⟨horderly, ?_⟩
  rw [horderly.book, hsame.2]
  exact hsettled

theorem Wallet.AtRest.operate {init : WalletInit} {w : Wallet} (h : w.AtRest) {op : Operation}
    (hop : CrashStep.Regular init w (.operate op)) : (op.run w).AtRest := by
  cases op with
  | openPosition symbol setup markPrice customMargin customQuantity externalFill =>
      exact h.openPosition symbol setup markPrice customMargin customQuantity externalFill hop
  | adoptVenuePosition r => exact bookingsKeep.adoptVenuePosition h r
  | partialClose symbol markPrice pct reason tpLabel externalFill =>
      exact bookingsKeep.partialClose h symbol markPrice pct reason tpLabel externalFill
  | closePosition symbol markPrice reason externalFill =>
      exact bookingsKeep.closePosition h symbol markPrice reason externalFill
  | liquidatePosition symbol markPrice => exact bookingsKeep.liquidatePosition h symbol markPrice
  | applyFunding symbol fundingRate => exact bookingsKeep.applyFunding h symbol fundingRate
  | adjustSlPrice symbol newSlPrice => exact bookingsKeep.adjustSlPrice h symbol newSlPrice
  | activateTrailingStop symbol => exact bookingsKeep.activateTrailingStop h symbol
  | placePendingOrder r =>
      show (w.placePendingOrder r).2.AtRest
      unfold Wallet.placePendingOrder
      split
      · exact h
      · next hhalted => exact h.createOrderWithType r (hop (by simpa using hhalted))
  | evaluatePendingOrders symbol markPrice => exact h.evaluatePendingOrders symbol markPrice
  | cancelOrder orderId reason => exact h.cancelOrder orderId reason

theorem Wallet.AtRest.ordersRight {w : Wallet} (h : w.AtRest) : w.OrdersRight := by
  have hofLog : ∀ log, (PortfolioState.ofLog w.cfg.initialBalance log).orders =
      (bookOf log).orders := fun log =>
    congrArg OrderBook.orders (PortfolioState.book_ofLog w.cfg.initialBalance log)
  refine ⟨h.toOrderly.sound.orders, ?_, ?_, ?_⟩
  · intro before hbefore
    have hsound := (h.log.of_prefix hbefore).sound.orders
    rw [← PortfolioState.book_ofLog w.cfg.initialBalance before] at hsound
    exact hsound
  · intro before hbefore id order hget hended
    rw [hofLog] at hget
    have hstatus := h.log.status_of_ended hbefore hget hended
    rw [← h.book] at hstatus
    exact hstatus
  · exact fun id order hget hpartial => absurd hpartial (h.settled id order hget)

/-- **In every run of the wallet with restarts, whose steps are regular, the
orders are right in every state reached.** -/
theorem Wallet.ordersRight_of_reaches (init : WalletInit) (clock₀ : Nat → Nat)
    (hclock₀ : Monotone clock₀) (redisUp₀ : Bool) (w : Wallet)
    (hrun : Reaches (CrashStep.run init) (CrashStep.Regular init)
      (Wallet.boot init clock₀ {} redisUp₀) w) : w.OrdersRight := by
  have hstart : (Wallet.boot init clock₀ {} redisUp₀).DurableAs init := by
    refine ⟨Wallet.Durable.boot init (Stores.sound_empty _) (Stores.aligned_empty _ _)
      ⟨hclock₀, fun e he => absurd he List.not_mem_nil⟩, ?_⟩
    rw [Wallet.boot_empty]
    rfl
  let inv : Wallet → Prop := fun w => w.DurableAs init ∧ w.AtRest
  have hinv : inv w := by
    have hempty : (Wallet.boot init clock₀ {} redisUp₀).AtRest :=
      .boot hstart trivial (by simp [OrderBook.Settled, bookOf])
    refine hrun.invariant ⟨hstart, hempty⟩ ?_
    intro v s hv hs
    obtain ⟨hdurable, hrest⟩ := hv
    have hnext := hdurable.run s hs.safe
    refine ⟨hnext, ?_⟩
    cases s with
    | operate op => exact hrest.operate hs
    | crash k clock redisUp =>
        refine .boot hnext (hrest.log.of_prefix (v.crashed_events_prefix k)) ?_
        intro id order hget
        have hbook := PortfolioState.book_ofLog init.cfg.initialBalance (v.crashed k).events
        refine hs.2 order (List.mem_map.mpr ⟨(id, order), ?_, rfl⟩)
        rw [Dict.mem_entries_iff]
        exact (congrArg (fun b => OrderBook.orders b |>.get? id) hbook).trans hget
  exact hinv.2.ordersRight

/-- The order of an earlier run was not in the log yet when the wallet died. -/
theorem Wallet.ordersRight_of_reaches_crash :
    (demoCrashes.foldl (CrashStep.run demoInit)
      (Wallet.boot demoInit (fun n => n) {} false)).OrdersRight :=
  Wallet.ordersRight_of_reaches demoInit (fun n => n) monotone_id false _
    (Reaches.foldl demoCrashes .start
      ⟨trivial, fun _ => by decide +kernel, ⟨⟨Stores.aligned_of_snapshot (by decide +kernel), monotone_const,
        by decide +kernel⟩, by decide +kernel⟩, trivial, trivial⟩)

theorem demoHalf_nonempty : "ETHUSDT" ≠ "" := by decide

/-- Open ten units in two chunks, and die between them. -/
def demoHalfFilled : List CrashStep :=
  [.operate (.adoptVenuePosition demoAdoption),
    .operate (.openPosition ⟨"ETHUSDT", demoHalf_nonempty⟩
      { side := .long, playbook := .swing, entryPrice := 100, slPrice := 95, fillChunks := 2 } 100
      none (some 10) none),
    .crash 14 (fun _ => 1000) false]

/-- The order the restart finds: a half of it is filled. -/
def demoHalf : OrderData :=
  { symbol := ⟨"ETHUSDT", demoHalf_nonempty⟩
    side := .long
    quantity := 10
    filledQuantity := 5
    remainingQuantity := 5
    avgFillPrice := 2001 / 20
    status := .partiallyFilled
    orderType := .market
    reduceOnly := false
    triggerPrice := none
    limitPrice := none
    expiresAt := none }

/-- No tick fills the rest of it. -/
theorem Wallet.orders_not_right :
    ¬ ∀ (init : WalletInit) (clock₀ : Nat → Nat), Monotone clock₀ → ∀ (redisUp₀ : Bool) (w : Wallet),
      Reaches (CrashStep.run init) (CrashStep.Safe init) (Wallet.boot init clock₀ {} redisUp₀) w →
        w.OrdersRight := by
  intro h
  have hright := h demoInit (fun n => n) monotone_id false _
    (Reaches.foldl demoHalfFilled .start
      ⟨trivial, trivial, ⟨Stores.aligned_of_snapshot (by decide +kernel), monotone_const,
        by decide +kernel⟩, trivial⟩)
  have hgoes := hright.goesOn "ETHUSDT-4-1" demoHalf (by decide +kernel) rfl
  have hfilled := hgoes.fills 100
    ⟨by decide +kernel, fun hreduce => absurd hreduce (by decide +kernel), by decide +kernel⟩
    (fun t ht => nomatch ht)
  revert hfilled
  decide +kernel

end CryptoTrader
