import CryptoTrader.Lib.Numbered
import CryptoTrader.Lib.Run
import CryptoTrader.Wallet.Exposure

/-!
# The book of orders

The orders and fills of the reducer state, as a fold of the log.  An event is
orderly when it creates an order under the next number, or fills one by no more
than its rest and at the price of the fills before.  A log of orderly events
keeps every order consistent with its fills, and what has ended ends for good.
-/

namespace CryptoTrader

open CryptoTrader.Lib

/-! ## Ended orders -/

/-- The statuses no order leaves. -/
def OrderStatus.Ended (s : OrderStatus) : Prop :=
  s = .filled ∨ s = .cancelled ∨ s = .rejected ∨ s = .expired

instance : DecidablePred OrderStatus.Ended := fun s =>
  inferInstanceAs (Decidable (s = .filled ∨ s = .cancelled ∨ s = .rejected ∨ s = .expired))

theorem OrderStatus.ended_iff {s : OrderStatus} : s.Ended ↔ validTransitions s = [] := by
  cases s <;> simp [Ended, validTransitions]

theorem OrderData.status_transition_of_ended {order : OrderData} (h : order.status.Ended)
    (s : OrderStatus) : (order.transition s).status = order.status := by
  rw [status_transition]
  simp only [canTransition, OrderStatus.ended_iff.mp h]
  by_cases heq : order.status = s <;> simp [heq]

theorem OrderData.status_fill_of_ended {order : OrderData} (h : order.status.Ended)
    (p : FillPayload) : (order.fill p).status = order.status := by
  rw [status_fill, ← status_transition, status_transition_of_ended h]

/-- A status an order takes is its old one or the one announced. -/
theorem OrderData.status_transition_or (order : OrderData) (s : OrderStatus) :
    (order.transition s).status = order.status ∨ (order.transition s).status = s := by
  rw [status_transition]
  by_cases h : canTransition order.status s <;> simp [h]

/-! ## Orders and their fills -/

/-- The fills of one order. -/
def fillsFor (orderId : String) (fills : List FillPayload) : List FillPayload :=
  fills.filter (fun p => p.orderId = orderId)

/-- An order agrees with its fills. -/
structure OrderData.Sound (order : OrderData) (fills : List FillPayload) : Prop where
  nonneg : 0 ≤ order.filledQuantity
  within : order.filledQuantity ≤ order.quantity
  remaining : order.remainingQuantity = order.quantity - order.filledQuantity
  sum : (fills.map FillPayload.quantity).sum = order.filledQuantity
  average : order.avgFillPrice * order.filledQuantity =
    (fills.map (fun p => p.fillPrice * p.quantity)).sum

namespace OrderData.Sound

variable {order : OrderData} {fills : List FillPayload}

/-- The status has no part in it. -/
theorem transition (h : order.Sound fills) (s : OrderStatus) : (order.transition s).Sound fills :=
  ⟨by simpa using h.nonneg, by simpa using h.within, by simpa using h.remaining,
    by simpa using h.sum, by simpa using h.average⟩

/-- A fill by no more than the rest, at the price of the fills before. -/
theorem fill (h : order.Sound fills) {p : FillPayload} (hpos : 0 ≤ p.quantity)
    (hfit : order.filledQuantity + p.quantity ≤ order.quantity)
    (hprice : order.filledQuantity = 0 ∨ p.fillPrice = order.avgFillPrice) :
    (order.fill p).Sound (fills ++ [p]) := by
  refine ⟨?_, by simpa using hfit, ?_, ?_, ?_⟩
  · rw [filledQuantity_fill]
    exact add_nonneg h.nonneg hpos
  · rw [remainingQuantity_fill, quantity_fill, filledQuantity_fill]
    exact max_eq_right (sub_nonneg.mpr hfit)
  · simp [h.sum]
  · have hold : p.fillPrice * order.filledQuantity = order.avgFillPrice * order.filledQuantity := by
      rcases hprice with hzero | heq
      · simp [hzero]
      · rw [heq]
    rw [avgFillPrice_fill, filledQuantity_fill, List.map_append, List.sum_append, ← h.average,
      mul_add, hold]
    simp

theorem new {p : OrderPayload} (h : 0 ≤ p.quantity) : p.toOrderData.Sound [] :=
  ⟨le_rfl, h, by simp [OrderPayload.toOrderData], rfl, by simp [OrderPayload.toOrderData]⟩

end OrderData.Sound

/-! ## The book -/

/-- The orders and the fills of a reducer state. -/
structure OrderBook where
  orders : Dict String OrderData
  fills : List FillPayload

def PortfolioState.book (s : PortfolioState) : OrderBook := ⟨s.orders, s.fills⟩

/-- What an event does to the book. -/
def OrderBook.apply (b : OrderBook) : Payload → OrderBook
  | .orderCreated p =>
      if p.orderId = "" then b else { b with orders := b.orders.set p.orderId p.toOrderData }
  | .orderFilled p =>
      { orders := modifyOrder b.orders p.orderId (fun order => order.fill p)
        fills := b.fills ++ [p] }
  | .orderCancelled orderId _ =>
      { b with orders := modifyOrder b.orders orderId (·.transition .cancelled) }
  | .orderRejected orderId _ _ =>
      { b with orders := modifyOrder b.orders orderId (·.transition .rejected) }
  | .orderExpired orderId =>
      { b with orders := modifyOrder b.orders orderId (·.transition .expired) }
  | _ => b

theorem PortfolioState.book_apply (s : PortfolioState) (e : Event) :
    (s.apply e).book = s.book.apply e.payload := by
  unfold PortfolioState.apply
  cases e.payload with
  | orderCreated p =>
      simp only [applyPayload, OrderBook.apply]
      split <;> rfl
  | _ => rfl

/-- Other events leave the book alone. -/
theorem OrderBook.apply_of_not_order (b : OrderBook) {payload : Payload}
    (h : payload.isOrder = false) : b.apply payload = b := by
  cases payload <;> simp [Payload.isOrder] at h <;> rfl

/-- The book after the events of a log. -/
def bookOf (log : List Event) : OrderBook :=
  log.foldl (fun b e => b.apply e.payload) ⟨Dict.empty, []⟩

theorem bookOf_append (log : List Event) (e : Event) :
    bookOf (log ++ [e]) = (bookOf log).apply e.payload := by
  simp [bookOf, List.foldl_append]

theorem PortfolioState.book_ofLog (initialBalance : Decimal) (log : List Event) :
    (PortfolioState.ofLog initialBalance log).book = bookOf log := by
  induction log using List.reverseRecOn with
  | nil => rfl
  | append_singleton log e ih =>
      rw [bookOf_append, ← ih, ← book_apply, PortfolioState.ofLog_append]
      rfl

/-- Every order agrees with its fills, those not filled yet have none, and no
fill is of an unknown order. -/
structure OrderBook.Sound (b : OrderBook) : Prop where
  numbered : Numbered b.orders
  orders : ∀ id order, b.orders.get? id = some order → order.Sound (fillsFor id b.fills)
  pending : ∀ id order, b.orders.get? id = some order → order.status = .pending →
    order.filledQuantity = 0
  known : ∀ p ∈ b.fills, (b.orders.get? p.orderId).isSome

theorem OrderBook.sound_empty : OrderBook.Sound ⟨Dict.empty, []⟩ :=
  ⟨Numbered.empty, by simp, by simp, by simp⟩

/-- An event the book can take: an order under the next number, or a fill of an
order by no more than its rest and at the price of the fills before. -/
def Payload.Orderly (b : OrderBook) : Payload → Prop
  | .orderCreated p => (∃ stem, p.orderId = numbered stem (b.orders.size + 1)) ∧
      0 ≤ p.quantity ∧ p.status = .pending
  | .orderFilled p => ∃ order, b.orders.get? p.orderId = some order ∧ 0 ≤ p.quantity ∧
      order.filledQuantity + p.quantity ≤ order.quantity ∧
      (order.filledQuantity = 0 ∨ p.fillPrice = order.avgFillPrice) ∧
      (p.status = .partiallyFilled ∨ p.status = .filled)
  | _ => True

/-- One more fill is a fill of its order. -/
theorem fillsFor_append (orderId : String) (fills : List FillPayload) (p : FillPayload) :
    fillsFor orderId (fills ++ [p]) =
      if p.orderId = orderId then fillsFor orderId fills ++ [p] else fillsFor orderId fills := by
  by_cases h : p.orderId = orderId <;> simp [fillsFor, h]

namespace OrderBook.Sound

variable {b : OrderBook} (h : b.Sound)
include h

theorem id_ne_empty {id : String} (hid : (b.orders.get? id).isSome) : id ≠ "" := by
  obtain ⟨stem, n, rfl, -, -⟩ := h.numbered id hid
  exact numbered_ne_empty stem n

theorem modifyOrder_eq (id : String) (f : OrderData → OrderData) :
    modifyOrder b.orders id f = b.orders.modify id f := by
  unfold modifyOrder
  split
  · next hempty =>
      have hnone : b.orders.get? id = none := by
        by_contra hsome
        exact h.id_ne_empty (Option.isSome_iff_ne_none.mpr hsome) hempty
      unfold Dict.modify
      rw [hnone]
  · rfl

/-- A change of status. -/
theorem transition (id : String) {s : OrderStatus} (hs : s ≠ .pending) :
    OrderBook.Sound { b with orders := modifyOrder b.orders id (·.transition s) } := by
  rw [h.modifyOrder_eq]
  refine ⟨h.numbered.modify _ _, ?_, ?_, ?_⟩
  · intro id' order horder
    rw [Dict.get?_modify] at horder
    split at horder
    · next heq =>
        subst heq
        obtain ⟨old, hold, rfl⟩ := Option.map_eq_some_iff.mp horder
        exact (h.orders _ old hold).transition s
    · exact h.orders id' order horder
  · intro id' order horder hpending
    rw [Dict.get?_modify] at horder
    split at horder
    · obtain ⟨old, hold, rfl⟩ := Option.map_eq_some_iff.mp horder
      rw [OrderData.filledQuantity_transition]
      rcases old.status_transition_or s with hkeep | htake
      · exact h.pending _ old hold (hkeep.symm.trans hpending)
      · exact absurd (htake.symm.trans hpending) hs
    · exact h.pending id' order horder hpending
  · intro p hp
    have hknown := h.known p hp
    rw [Dict.get?_modify]
    split
    · next heq => simpa [heq] using hknown
    · exact hknown

/-- A new order gets an id of its own. -/
theorem create_fresh {p : OrderPayload} (hp : Payload.Orderly b (.orderCreated p)) :
    b.orders.get? p.orderId = none ∧ b.apply (.orderCreated p) =
      { b with orders := b.orders.set p.orderId p.toOrderData } := by
  obtain ⟨⟨stem, hid⟩, -, -⟩ := hp
  exact ⟨hid ▸ h.numbered.fresh stem, if_neg (hid ▸ numbered_ne_empty stem _)⟩

theorem create {p : OrderPayload} (hp : Payload.Orderly b (.orderCreated p)) :
    (b.apply (.orderCreated p)).Sound := by
  obtain ⟨hfresh, happly⟩ := h.create_fresh hp
  obtain ⟨⟨stem, hid⟩, hpos, hstatus⟩ := hp
  have hnone : ∀ f ∈ b.fills, f.orderId ≠ p.orderId := by
    intro f hf heq
    have hknown := h.known f hf
    rw [heq, hfresh] at hknown
    cases hknown
  rw [happly]
  refine ⟨?_, ?_, ?_, ?_⟩
  · show Numbered (b.orders.set p.orderId p.toOrderData)
    rw [hid]
    exact h.numbered.set stem _
  · intro id order horder
    rw [Dict.get?_set] at horder
    split at horder
    · next heq =>
        subst heq
        obtain rfl := Option.some.inj horder
        have hempty : fillsFor p.orderId b.fills = [] := by
          simpa [fillsFor, List.filter_eq_nil_iff] using hnone
        rw [hempty]
        exact .new hpos
    · exact h.orders id order horder
  · intro id order horder hpending
    rw [Dict.get?_set] at horder
    split at horder
    · obtain rfl := Option.some.inj horder
      rfl
    · exact h.pending id order horder hpending
  · intro f hf
    rw [Dict.get?_set_ne _ _ (hnone f hf).symm]
    exact h.known f hf

theorem fill {p : FillPayload} (hp : Payload.Orderly b (.orderFilled p)) :
    (b.apply (.orderFilled p)).Sound := by
  obtain ⟨old, hold, hpos, hfit, hprice, hstatus⟩ := hp
  have happly : b.apply (.orderFilled p) =
      ⟨b.orders.modify p.orderId (fun order => order.fill p), b.fills ++ [p]⟩ := by
    show OrderBook.mk (modifyOrder _ _ _) _ = _
    rw [h.modifyOrder_eq]
  rw [happly]
  refine ⟨h.numbered.modify _ _, ?_, ?_, ?_⟩
  · intro id order horder
    rw [fillsFor_append]
    by_cases heq : p.orderId = id
    · subst heq
      rw [Dict.get?_modify_self, hold] at horder
      obtain rfl := Option.some.inj horder
      rw [if_pos rfl]
      exact (h.orders _ old hold).fill hpos hfit hprice
    · rw [Dict.get?_modify_ne _ _ heq] at horder
      rw [if_neg heq]
      exact h.orders id order horder
  · intro id order horder hpending
    by_cases heq : p.orderId = id
    · subst heq
      rw [Dict.get?_modify_self, hold] at horder
      obtain rfl := Option.some.inj horder
      rw [OrderData.status_fill] at hpending
      -- a pending order takes the status of any fill
      cases hwas : old.status <;> rcases hstatus with hs | hs <;>
        simp [hwas, hs, canTransition, validTransitions] at hpending
    · rw [Dict.get?_modify_ne _ _ heq] at horder
      exact h.pending id order horder hpending
  · intro f hf
    have hknown : (b.orders.get? f.orderId).isSome := by
      rcases List.mem_append.mp hf with hf | hf
      · exact h.known f hf
      · rw [List.mem_singleton.mp hf, hold]
        rfl
    rw [Dict.get?_modify]
    split
    · next heq => simpa [heq] using hknown
    · exact hknown

theorem apply {payload : Payload} (hp : payload.Orderly b) : (b.apply payload).Sound := by
  cases payload with
  | orderCreated p => exact h.create hp
  | orderFilled p => exact h.fill hp
  | orderCancelled orderId reason => exact h.transition orderId (by decide)
  | orderRejected orderId symbol? reason => exact h.transition orderId (by decide)
  | orderExpired orderId => exact h.transition orderId (by decide)
  | _ => exact h

theorem status_of_ended {id : String} {order : OrderData} (hget : b.orders.get? id = some order)
    (hended : order.status.Ended) {payload : Payload} (hp : payload.Orderly b) :
    ((b.apply payload).orders.get? id).map OrderData.status = some order.status := by
  have hmodify : ∀ (k : String) {f : OrderData → OrderData},
      (f order).status = order.status →
      ((modifyOrder b.orders k f).get? id).map OrderData.status = some order.status := by
    intro k f hf
    rw [h.modifyOrder_eq]
    by_cases heq : k = id
    · subst heq
      simp [hget, hf]
    · rw [Dict.get?_modify_ne _ _ heq, hget]
      rfl
  have hkeep : ∀ (s : OrderStatus), (order.transition s).status = order.status :=
    OrderData.status_transition_of_ended hended
  cases payload with
  | orderCreated p =>
      obtain ⟨hfresh, happly⟩ := h.create_fresh hp
      have hne : p.orderId ≠ id := by
        intro heq
        rw [heq, hget] at hfresh
        cases hfresh
      rw [happly, Dict.get?_set_ne _ _ hne, hget]
      rfl
  | orderFilled p => exact hmodify p.orderId (OrderData.status_fill_of_ended hended p)
  | orderCancelled orderId reason => exact hmodify orderId (hkeep .cancelled)
  | orderRejected orderId symbol? reason => exact hmodify orderId (hkeep .rejected)
  | orderExpired orderId => exact hmodify orderId (hkeep .expired)
  | _ =>
      show (b.orders.get? id).map OrderData.status = _
      rw [hget]
      rfl

end OrderBook.Sound

/-! ## The log -/

/-- Every event of the log is one the book of the events before can take. -/
def OrderlyLog (log : List Event) : Prop :=
  AllOk (fun (b : OrderBook) e => b.apply e.payload) (fun b e => e.payload.Orderly b)
    ⟨Dict.empty, []⟩ log

namespace OrderlyLog

variable {log : List Event}

theorem append_iff {e : Event} :
    OrderlyLog (log ++ [e]) ↔ OrderlyLog log ∧ e.payload.Orderly (bookOf log) := by
  unfold OrderlyLog
  rw [AllOk.append_iff]
  simp [AllOk, bookOf]

theorem of_prefix {before : List Event} (h : OrderlyLog log) (hbefore : before <+: log) :
    OrderlyLog before := by
  obtain ⟨after, rfl⟩ := hbefore
  exact ((AllOk.append_iff before after).mp h).1

theorem sound (h : OrderlyLog log) : (bookOf log).Sound :=
  (Reaches.foldl log .start h).invariant OrderBook.sound_empty (fun _ _ hb ha => hb.apply ha)

/-- What has ended in the middle of the log has ended so at its end. -/
theorem status_of_ended {before : List Event} (h : OrderlyLog log) (hbefore : before <+: log)
    {id : String} {order : OrderData} (hget : (bookOf before).orders.get? id = some order)
    (hended : order.status.Ended) :
    ((bookOf log).orders.get? id).map OrderData.status = some order.status := by
  obtain ⟨after, rfl⟩ := hbefore
  have hsplit := (AllOk.append_iff before after).mp h
  have hstart : (bookOf before).Sound := sound hsplit.1
  let kept : OrderBook → Prop := fun b =>
    b.Sound ∧ (b.orders.get? id).map OrderData.status = some order.status
  have hend : kept (after.foldl (fun b e => b.apply e.payload) (bookOf before)) := by
    refine (Reaches.foldl after .start hsplit.2).invariant
      ⟨hstart, congrArg (Option.map OrderData.status) hget⟩ ?_
    intro b e hb ha
    obtain ⟨order', hget', hstatus⟩ := Option.map_eq_some_iff.mp hb.2
    refine ⟨hb.1.apply ha, ?_⟩
    rw [hb.1.status_of_ended hget' (hstatus ▸ hended) ha, hstatus]
  unfold bookOf
  rw [List.foldl_append]
  exact hend.2

end OrderlyLog

end CryptoTrader
