import CryptoTrader.Lib.Instalments
import CryptoTrader.Lib.Significant
import CryptoTrader.Wallet.Boot
import Mathlib.Algebra.Order.BigOperators.Group.List

/-!
# Fills of one order

What a fill does to the order it belongs to, and what the fills of
`_execute_order_in_chunks` add up to.  All chunks but the last are the
equal share rounded to eight places, so they can use the order up before the
last chunk is taken: then the order is filled early and the last chunk is
empty or negative.
-/

namespace CryptoTrader

open CryptoTrader.Lib

/-! ## One fill -/

/-- An order that still takes fills. -/
def OrderStatus.Working (s : OrderStatus) : Prop := s = .pending ∨ s = .partiallyFilled

instance : DecidablePred OrderStatus.Working :=
  fun s => inferInstanceAs (Decidable (s = .pending ∨ s = .partiallyFilled))

/-- The payload `_record_fill` writes for an order. -/
def OrderData.fillPayload (order : OrderData) (orderId : String)
    (quantity fillPrice fee : Decimal) (sequence : Nat) : FillPayload :=
  { orderId := orderId
    symbol := order.symbol
    side := order.side
    quantity := quantity
    fillPrice := fillPrice
    fee := fee
    status :=
      if order.quantity ≤ order.filledQuantity + quantity then .filled else .partiallyFilled
    sequence := sequence }

theorem Wallet.recordFill_eq (w : Wallet) (order : Order) (quantity fillPrice fee : Decimal)
    (sequence : Nat) :
    w.recordFill order quantity fillPrice fee sequence =
      w.emit (.orderFilled
        ((w.currentOrder order).fillPayload order.id quantity fillPrice fee sequence)) := rfl

namespace OrderData

variable (order : OrderData) (p : FillPayload)

@[simp] theorem quantity_transition (s : OrderStatus) :
    (order.transition s).quantity = order.quantity := by
  unfold transition
  split <;> rfl

@[simp] theorem filledQuantity_transition (s : OrderStatus) :
    (order.transition s).filledQuantity = order.filledQuantity := by
  unfold transition
  split <;> rfl

@[simp] theorem remainingQuantity_transition (s : OrderStatus) :
    (order.transition s).remainingQuantity = order.remainingQuantity := by
  unfold transition
  split <;> rfl

@[simp] theorem avgFillPrice_transition (s : OrderStatus) :
    (order.transition s).avgFillPrice = order.avgFillPrice := by
  unfold transition
  split <;> rfl

theorem status_transition (s : OrderStatus) :
    (order.transition s).status = if canTransition order.status s then s else order.status := by
  unfold transition
  split <;> rfl

@[simp] theorem quantity_fill : (order.fill p).quantity = order.quantity := by
  simp [fill]

@[simp] theorem filledQuantity_fill :
    (order.fill p).filledQuantity = order.filledQuantity + p.quantity := by
  simp [fill]

@[simp] theorem remainingQuantity_fill :
    (order.fill p).remainingQuantity =
      max 0 (order.quantity - (order.filledQuantity + p.quantity)) := by
  simp [fill]

@[simp] theorem avgFillPrice_fill : (order.fill p).avgFillPrice = p.fillPrice := by
  simp [fill]

theorem status_fill :
    (order.fill p).status = if canTransition order.status p.status then p.status
      else order.status := by
  unfold fill
  rw [status_transition]

theorem status_fill_of_working (h : order.status.Working) (id : String)
    (quantity price fee : Decimal) (sequence : Nat) :
    (order.fill (order.fillPayload id quantity price fee sequence)).status =
      if order.quantity ≤ order.filledQuantity + quantity then .filled else .partiallyFilled := by
  rw [status_fill]
  unfold fillPayload
  rcases h with h | h
  · by_cases hq : order.quantity ≤ order.filledQuantity + quantity <;> simp [h, hq, canTransition, validTransitions]
  · by_cases hq : order.quantity ≤ order.filledQuantity + quantity <;> simp [h, hq, canTransition, validTransitions]

/-- A filled order stays filled whatever it is sent. -/
theorem status_fill_of_filled (h : order.status = .filled) (p : FillPayload) :
    (order.fill p).status = .filled := by
  rw [status_fill, h]
  cases p.status <;> decide

end OrderData

/-! ## The fills of one execution -/

/-- The fills an order is given when it is executed in these quantities. -/
def OrderData.chunkFills (orderId : String) (fillPrice feeRate : Decimal) :
    List Decimal → Nat → OrderData → List FillPayload
  | [], _, _ => []
  | quantity :: rest, idx, order =>
      let p := order.fillPayload orderId quantity fillPrice (|quantity * fillPrice| * feeRate) idx
      p :: chunkFills orderId fillPrice feeRate rest (idx + 1) (order.fill p)

section ChunkFills

variable (orderId : String) (fillPrice feeRate : Decimal)

@[simp] theorem OrderData.length_chunkFills (quantities : List Decimal) (idx : Nat)
    (order : OrderData) :
    (chunkFills orderId fillPrice feeRate quantities idx order).length = quantities.length := by
  induction quantities generalizing idx order with
  | nil => rfl
  | cons quantity rest ih => simp [chunkFills, ih]

@[simp] theorem OrderData.quantities_chunkFills (quantities : List Decimal) (idx : Nat)
    (order : OrderData) :
    (chunkFills orderId fillPrice feeRate quantities idx order).map FillPayload.quantity =
      quantities := by
  induction quantities generalizing idx order with
  | nil => rfl
  | cons quantity rest ih => simp [chunkFills, ih, fillPayload]

/-- The fees are charged on the absolute value of each fill. -/
theorem OrderData.fees_chunkFills (quantities : List Decimal) (idx : Nat) (order : OrderData) :
    ((chunkFills orderId fillPrice feeRate quantities idx order).map FillPayload.fee).sum =
      (quantities.map (fun quantity => |quantity * fillPrice| * feeRate)).sum := by
  induction quantities generalizing idx order with
  | nil => rfl
  | cons quantity rest ih => simp [chunkFills, ih, fillPayload]

end ChunkFills

@[simp] theorem OrderData.quantity_foldl_fill (fills : List FillPayload) (order : OrderData) :
    (fills.foldl OrderData.fill order).quantity = order.quantity := by
  induction fills generalizing order with
  | nil => rfl
  | cons p rest ih => simp [ih]

theorem OrderData.filledQuantity_foldl_fill (fills : List FillPayload) (order : OrderData) :
    (fills.foldl OrderData.fill order).filledQuantity =
      order.filledQuantity + (fills.map FillPayload.quantity).sum := by
  induction fills generalizing order with
  | nil => simp
  | cons p rest ih =>
      rw [List.foldl_cons, ih, filledQuantity_fill, List.map_cons, List.sum_cons, add_assoc]

/-- What `_record_fill` does to the reducer state. -/
theorem Wallet.recordFill_spec (w : Wallet) (order : Order) (hid : order.id ≠ "")
    {data : OrderData} (hdata : w.runtime.orders.get? order.id = some data)
    (quantity fillPrice fee : Decimal) (sequence : Nat) :
    let p := data.fillPayload order.id quantity fillPrice fee sequence
    let w' := w.recordFill order quantity fillPrice fee sequence
    w'.runtime.orders.get? order.id = some (data.fill p) ∧
      w'.runtime.fills = w.runtime.fills ++ [p] ∧
      w'.runtime.walletBalance = w.runtime.walletBalance - fee := by
  have hcurrent : w.currentOrder order = data := by simp [currentOrder, hdata]
  simp only [recordFill_eq, hcurrent, runtime_emit]
  simp [PortfolioState.apply, PortfolioState.applyPayload, PortfolioState.credit, modifyOrder,
    Wallet.event, OrderData.fillPayload, hid, hdata, sub_eq_add_neg]

/-- What the loop of `_execute_order_in_chunks` leaves: the fills of its
instalments, appended to the log of fills and folded into the order. -/
theorem Wallet.executeChunks_fills (order : Order) (hid : order.id ≠ "")
    (chunkQty fillPrice feeRate : Decimal) (left : Nat) :
    ∀ (idx : Nat) (remaining totalFee : Decimal) (w : Wallet) (data : OrderData),
      w.runtime.orders.get? order.id = some data →
      let fills := data.chunkFills order.id fillPrice feeRate
        (instalments chunkQty left remaining) idx
      let r := Wallet.executeChunks order chunkQty fillPrice feeRate left idx remaining totalFee w
      r.1 = totalFee + (fills.map FillPayload.fee).sum ∧
        r.2.runtime.fills = w.runtime.fills ++ fills ∧
        r.2.runtime.orders.get? order.id = some (fills.foldl OrderData.fill data) ∧
        r.2.runtime.walletBalance =
          w.runtime.walletBalance - (fills.map FillPayload.fee).sum := by
  induction left with
  | zero =>
      intro idx remaining totalFee w data hdata
      simp [executeChunks, instalments, OrderData.chunkFills, hdata]
  | succ left ih =>
      intro idx remaining totalFee w data hdata
      simp only [executeChunks, instalments, OrderData.chunkFills, List.map_cons, List.sum_cons,
        List.foldl_cons]
      generalize (if left = 0 then remaining else chunkQty) = quantity
      generalize hfee : |quantity * fillPrice| * feeRate = fee
      obtain ⟨horder, hfills, hbalance⟩ :=
        w.recordFill_spec order hid hdata quantity fillPrice fee idx
      obtain ⟨htotal, hlog, hdata', hcash⟩ := ih (idx + 1) (remaining - chunkQty) (totalFee + fee)
        (w.recordFill order quantity fillPrice fee idx) _ horder
      have hp : (data.fillPayload order.id quantity fillPrice fee idx).fee = fee := rfl
      refine ⟨?_, ?_, hdata', ?_⟩
      · rw [htotal, hp, add_assoc]
      · rw [hlog, hfills, List.append_assoc, List.singleton_append]
      · rw [hcash, hbalance, hp, sub_sub]

/-! ## The status of an order while it is filled -/

theorem OrderData.take_chunkFills (orderId : String) (fillPrice feeRate : Decimal) (k : Nat)
    (quantities : List Decimal) (idx : Nat) (order : OrderData) :
    (order.chunkFills orderId fillPrice feeRate quantities idx).take k =
      order.chunkFills orderId fillPrice feeRate (quantities.take k) idx := by
  induction quantities generalizing k idx order with
  | nil => simp [chunkFills]
  | cons quantity rest ih =>
      cases k with
      | zero => rfl
      | succ k => simp [chunkFills, ih]

section Status

variable (orderId : String) (fillPrice feeRate : Decimal)

/-- Between two fills an order is partially filled with a rest, or filled. -/
theorem OrderData.status_foldl_chunkFills (quantities : List Decimal) (hne : quantities ≠ [])
    (idx : Nat) (order : OrderData) (h : order.status.Working ∨ order.status = .filled) :
    let after := (order.chunkFills orderId fillPrice feeRate quantities idx).foldl fill order
    after.status = .partiallyFilled ∧ after.filledQuantity < after.quantity ∨
      after.status = .filled := by
  induction quantities generalizing idx order with
  | nil => exact absurd rfl hne
  | cons quantity rest ih =>
      simp only [chunkFills, List.foldl_cons]
      generalize hp : order.fillPayload orderId quantity fillPrice
        (|quantity * fillPrice| * feeRate) idx = p
      have hnext : (order.fill p).status = .partiallyFilled ∧
          (order.fill p).filledQuantity < (order.fill p).quantity ∨
          (order.fill p).status = .filled := by
        rcases h with h | h
        · have hstatus := order.status_fill_of_working h orderId quantity fillPrice
            (|quantity * fillPrice| * feeRate) idx
          have hquantity : p.quantity = quantity := by rw [← hp]; rfl
          rw [hp] at hstatus
          by_cases hfull : order.quantity ≤ order.filledQuantity + quantity
          · exact .inr (by rw [hstatus, if_pos hfull])
          · refine .inl ⟨by rw [hstatus, if_neg hfull], ?_⟩
            rw [filledQuantity_fill, quantity_fill, hquantity]
            exact not_le.mp hfull
        · exact .inr (order.status_fill_of_filled h p)
      cases rest with
      | nil => exact hnext
      | cons next rest =>
          refine ih (by simp) (idx + 1) (order.fill p) ?_
          rcases hnext with hpartial | hfilled
          · exact .inl (.inr hpartial.1)
          · exact .inr hfilled

/-- Fills that leave a rest leave the order partially filled. -/
theorem OrderData.status_foldl_chunkFills_of_lt (quantities : List Decimal)
    (hne : quantities ≠ []) (hnonneg : ∀ q ∈ quantities, 0 ≤ q) (idx : Nat) (order : OrderData)
    (h : order.status.Working) (hrest : order.filledQuantity + quantities.sum < order.quantity) :
    ((order.chunkFills orderId fillPrice feeRate quantities idx).foldl fill order).status =
      .partiallyFilled := by
  induction quantities generalizing idx order with
  | nil => exact absurd rfl hne
  | cons quantity rest ih =>
      rw [List.sum_cons] at hrest
      have hrestNonneg : 0 ≤ rest.sum :=
        List.sum_nonneg (fun q hq => hnonneg q (List.mem_cons_of_mem _ hq))
      have hstatus := order.status_fill_of_working h orderId quantity fillPrice
        (|quantity * fillPrice| * feeRate) idx
      rw [if_neg (by linarith)] at hstatus
      simp only [chunkFills, List.foldl_cons]
      cases rest with
      | nil => exact hstatus
      | cons next rest =>
          refine ih (by simp) (fun q hq => hnonneg q (List.mem_cons_of_mem _ hq)) (idx + 1) _
            (.inr hstatus) ?_
          have hquantity : (order.fillPayload orderId quantity fillPrice
            (|quantity * fillPrice| * feeRate) idx).quantity = quantity := rfl
          rw [filledQuantity_fill, quantity_fill, hquantity]
          linarith

end Status

/-! ## Chunked execution -/

/-- The fees of non-negative fills are the rate on what was filled. -/
theorem fees_of_nonneg (fillPrice feeRate : Decimal) (quantities : List Decimal)
    (hnonneg : ∀ q ∈ quantities, 0 ≤ q) :
    (quantities.map (fun quantity => |quantity * fillPrice| * feeRate)).sum =
      feeRate * quantities.sum * |fillPrice| := by
  induction quantities with
  | nil => simp
  | cons quantity rest ih =>
      have hq := hnonneg quantity (List.mem_cons_self ..)
      rw [List.map_cons, List.sum_cons, List.sum_cons,
        ih (fun q hq => hnonneg q (List.mem_cons_of_mem _ hq)), abs_mul, abs_of_nonneg hq]
      ring

/-- `quantize` rounds the number of units of the eighth place. -/
theorem quantize8_eq (x : Decimal) :
    quantize8 x = (Lib.roundHalfEven (x * 100000000) : Decimal) / 100000000 := by
  unfold quantize8 Lib.roundHalfEven
  simp only [Int.fract, Int.even_iff]
  rfl

/-- A share of something positive is not negative. -/
theorem quantize8_nonneg {x : Decimal} (hx : 0 ≤ x) : 0 ≤ quantize8 x := by
  have hround : Lib.roundHalfEven ((0 : ℤ) : ℚ) ≤ Lib.roundHalfEven (x * 100000000) := by
    apply Lib.roundHalfEven_mono
    push_cast
    positivity
  rw [roundHalfEven_intCast] at hround
  rw [quantize8_eq]
  have hcast : (0 : Decimal) ≤ (Lib.roundHalfEven (x * 100000000) : Decimal) := by
    exact_mod_cast hround
  positivity

/-- What conserving an order means: the fills recorded for it, the fee charged
and the order and the balance they leave. -/
structure OrderData.Conserved (data : OrderData) (total fillPrice feeRate : Decimal)
    (fills : List FillPayload) (charged paid : Decimal) (after : Option OrderData) : Prop where
  nonneg : ∀ p ∈ fills, 0 ≤ p.quantity
  sum : (fills.map FillPayload.quantity).sum = total
  folded : after = some (fills.foldl OrderData.fill data)
  partially : ∀ k, 0 < k → k < fills.length →
    ((fills.take k).foldl OrderData.fill data).status = .partiallyFilled
  filled : (fills.foldl OrderData.fill data).status = .filled
  within : ∀ k, ((fills.take k).foldl OrderData.fill data).filledQuantity ≤ data.quantity
  fees : charged = feeRate * total * fillPrice
  cash : paid = charged

/-- The fills an operation appends to the log of fills. -/
def Wallet.fillsOf (w w' : Wallet) : List FillPayload :=
  w'.runtime.fills.drop w.runtime.fills.length

/-- An execution in `count` chunks conserves the order. -/
def Wallet.ChunksConserve (w : Wallet) (order : Order) (data : OrderData)
    (total fillPrice feeRate : Decimal) (count : Int) : Prop :=
  let r := w.executeOrderInChunks order total fillPrice feeRate count
  data.Conserved total fillPrice feeRate (w.fillsOf r.2) r.1
    (w.runtime.walletBalance - r.2.runtime.walletBalance) (r.2.runtime.orders.get? order.id)

section Chunks

variable (data : OrderData) (orderId : String) (fillPrice feeRate chunk total : Decimal) (n : Nat)

/-- The fills of `n + 1` chunks. -/
def OrderData.shares : List FillPayload :=
  data.chunkFills orderId fillPrice feeRate (instalments chunk (n + 1) total) 1

@[simp] theorem OrderData.length_shares :
    (data.shares orderId fillPrice feeRate chunk total n).length = n + 1 := by
  simp [shares]

@[simp] theorem OrderData.quantities_shares :
    (data.shares orderId fillPrice feeRate chunk total n).map FillPayload.quantity =
      instalments chunk (n + 1) total := by
  simp [shares]

theorem OrderData.nonneg_shares_iff :
    (∀ p ∈ data.shares orderId fillPrice feeRate chunk total n, 0 ≤ p.quantity) ↔
      ∀ q ∈ instalments chunk (n + 1) total, 0 ≤ q := by
  rw [← data.quantities_shares orderId fillPrice feeRate chunk total n, List.forall_mem_map]

theorem OrderData.filledQuantity_take_shares {k : Nat} (hk : k < n + 1) :
    (((data.shares orderId fillPrice feeRate chunk total n).take k).foldl fill
      data).filledQuantity = data.filledQuantity + k * chunk := by
  rw [filledQuantity_foldl_fill, List.map_take, quantities_shares,
    sum_take_instalments chunk total hk, nsmul_eq_mul]

theorem OrderData.filledQuantity_shares :
    ((data.shares orderId fillPrice feeRate chunk total n).foldl fill data).filledQuantity =
      data.filledQuantity + total := by
  rw [filledQuantity_foldl_fill, quantities_shares, sum_instalments chunk total (by omega)]

/-- Between the fills the order is partially filled with a rest, or filled. -/
theorem OrderData.status_take_shares (hopen : data.status.Working) {k : Nat} (hk : 0 < k) :
    let after := ((data.shares orderId fillPrice feeRate chunk total n).take k).foldl fill data
    after.status = .partiallyFilled ∧ after.filledQuantity < after.quantity ∨
      after.status = .filled := by
  simp only [shares, take_chunkFills]
  refine status_foldl_chunkFills orderId fillPrice feeRate _ ?_ 1 data (.inl hopen)
  rw [ne_eq, List.take_eq_nil_iff]
  simp [instalments, hk.ne']

theorem OrderData.fees_shares (hnonneg : ∀ q ∈ instalments chunk (n + 1) total, 0 ≤ q) :
    ((data.shares orderId fillPrice feeRate chunk total n).map FillPayload.fee).sum =
      feeRate * total * |fillPrice| := by
  rw [shares, fees_chunkFills, fees_of_nonneg fillPrice feeRate _ hnonneg,
    sum_instalments chunk total (by omega)]

variable {data orderId fillPrice feeRate chunk total n}

/-- In a conserved order the chunks but the last leave something to fill. -/
theorem OrderData.fits_of_conserved (hopen : data.status.Working)
    (hrest : data.quantity - data.filledQuantity = total) (htotal : 0 < total)
    {paid : Decimal} {after : Option OrderData}
    (h : data.Conserved total fillPrice feeRate
      (data.shares orderId fillPrice feeRate chunk total n)
      ((data.shares orderId fillPrice feeRate chunk total n).map FillPayload.fee).sum paid after) :
    n * chunk < total ∧ (0 ≤ fillPrice ∨ feeRate = 0) := by
  constructor
  · rcases Nat.eq_zero_or_pos n with rfl | hn
    · simpa using htotal
    · have hpartial := h.partially n hn (by simp)
      have hstatus := data.status_take_shares orderId fillPrice feeRate chunk total n hopen hn
      rcases hstatus with ⟨-, hlt⟩ | hfilled
      · rw [filledQuantity_take_shares _ _ _ _ _ _ _ (by omega), quantity_foldl_fill] at hlt
        linarith
      · rw [hfilled] at hpartial
        exact absurd hpartial (by decide)
  · have hfee := h.fees
    rw [fees_shares _ _ _ _ _ _ _ ((nonneg_shares_iff ..).mp h.nonneg)] at hfee
    by_cases hrate : feeRate = 0
    · exact .inr hrate
    · left
      have habs : |fillPrice| = fillPrice :=
        mul_left_cancel₀ (mul_ne_zero hrate htotal.ne') hfee
      exact abs_eq_self.mp habs

/-- Chunks that leave something for the last one conserve the order. -/
theorem OrderData.conserved_of_fits (hopen : data.status.Working)
    (hrest : data.quantity - data.filledQuantity = total) (hchunk : 0 ≤ chunk)
    (hfit : n * chunk < total) (hprice : 0 ≤ fillPrice ∨ feeRate = 0) :
    let fills := data.shares orderId fillPrice feeRate chunk total n
    let fee := (fills.map FillPayload.fee).sum
    data.Conserved total fillPrice feeRate fills fee fee (some (fills.foldl fill data)) := by
  have hnonneg : ∀ q ∈ instalments chunk (n + 1) total, 0 ≤ q := by
    intro q hq
    refine nonneg_of_mem_instalments hchunk ?_ hq
    rw [nsmul_eq_mul]
    exact hfit.le
  have hbelow : ∀ k, k < n + 1 → data.filledQuantity + k * chunk < data.quantity := by
    intro k hk
    have hkn : (k : Decimal) ≤ n := by exact_mod_cast Nat.lt_succ_iff.mp hk
    have hmul : (k : Decimal) * chunk ≤ n * chunk := mul_le_mul_of_nonneg_right hkn hchunk
    linarith
  have hfull : ((data.shares orderId fillPrice feeRate chunk total n).foldl fill
      data).filledQuantity = data.quantity := by
    rw [filledQuantity_shares]
    linarith
  have hwhole : (data.shares orderId fillPrice feeRate chunk total n).take (n + 1) =
      data.shares orderId fillPrice feeRate chunk total n := List.take_of_length_le (by simp)
  refine ⟨(nonneg_shares_iff ..).mpr hnonneg, ?_, rfl, ?_, ?_, ?_, ?_, rfl⟩
  · rw [quantities_shares, sum_instalments chunk total (by omega)]
  · intro k hk hkn
    rw [length_shares] at hkn
    rw [shares, take_chunkFills]
    refine status_foldl_chunkFills_of_lt orderId fillPrice feeRate _ ?_ ?_ 1 data hopen ?_
    · rw [ne_eq, List.take_eq_nil_iff]
      simp [instalments, hk.ne']
    · exact fun q hq => hnonneg q (List.mem_of_mem_take hq)
    · rw [sum_take_instalments chunk total hkn, nsmul_eq_mul]
      exact hbelow k hkn
  · have hstatus :=
      data.status_take_shares orderId fillPrice feeRate chunk total n hopen (Nat.succ_pos n)
    simp only [hwhole, hfull, quantity_foldl_fill] at hstatus
    rcases hstatus with ⟨-, hlt⟩ | hfilled
    · exact absurd hlt (lt_irrefl _)
    · exact hfilled
  · intro k
    by_cases hk : k < n + 1
    · rw [filledQuantity_take_shares _ _ _ _ _ _ _ hk]
      exact (hbelow k hk).le
    · rw [List.take_of_length_le (by simp; omega), hfull]
  · rw [fees_shares _ _ _ _ _ _ _ hnonneg]
    rcases hprice with hprice | hrate
    · rw [abs_of_nonneg hprice]
    · simp [hrate]

end Chunks

/-- `_execute_order_in_chunks` conserves an order it is given the rest of
exactly when the rounded chunks before the last do not use that rest up. -/
theorem Wallet.executeOrderInChunks_conserves_iff (w : Wallet) (order : Order) {data : OrderData}
    (hdata : w.runtime.orders.get? order.id = some data) (hid : order.id ≠ "")
    (hopen : data.status.Working) {total : Decimal}
    (hrest : data.quantity - data.filledQuantity = total) (htotal : 0 < total)
    (fillPrice feeRate : Decimal) {count : Int} (hcount : 1 ≤ count) :
    w.ChunksConserve order data total fillPrice feeRate count ↔
      (count - 1) * quantize8 (total / count) < total ∧ (0 ≤ fillPrice ∨ feeRate = 0) := by
  obtain ⟨n, rfl⟩ : ∃ n : Nat, count = n + 1 := ⟨(count - 1).toNat, by omega⟩
  have hmax : (max 1 ((n : Int) + 1)).toNat = n + 1 := by omega
  have hshare : (((n + 1 : Nat) : Decimal)) = (((n : Int) + 1 : Int) : Decimal) := by push_cast; rfl
  have hchunk : 0 ≤ quantize8 (total / (((n : Int) + 1 : Int) : Decimal)) := by
    apply quantize8_nonneg
    rw [← hshare]
    positivity
  obtain ⟨hcharged, hfills, hafter, hbalance⟩ := executeChunks_fills order hid
    (quantize8 (total / (((n : Int) + 1 : Int) : Decimal))) fillPrice feeRate (n + 1) 1 total 0 w
    data hdata
  unfold ChunksConserve fillsOf executeOrderInChunks
  simp only [hmax, hshare]
  rw [hcharged, hfills, hafter, hbalance, List.drop_left, sub_sub_cancel, zero_add]
  have hcast : ((((n : Int) + 1 : Int) : Decimal) - 1) = n := by push_cast; ring
  rw [hcast]
  constructor
  · exact OrderData.fits_of_conserved hopen hrest htotal
  · exact fun h => OrderData.conserved_of_fits hopen hrest hchunk h.1 h.2

/-- A fresh wallet with one market order. -/
def demoPlaced (quantity : Decimal) : Order × Wallet :=
  (Wallet.boot demoInit (fun n => n) {} false).createOrder demoSymbol .long quantity

/-- Ten units in three chunks: twice 3.33333333, then the rest. -/
theorem Wallet.executeOrderInChunks_conserves_thirds :
    (demoPlaced 10).2.ChunksConserve (demoPlaced 10).1 (demoPlaced 10).1.data 10 100 (5 / 10000) 3 :=
  (Wallet.executeOrderInChunks_conserves_iff (demoPlaced 10).2 (demoPlaced 10).1
    (by decide +kernel) (by decide +kernel) (by decide +kernel) (by decide +kernel) (by decide +kernel)
    100 (5 / 10000) (by decide)).mpr ⟨by decide +kernel, .inl (by decide +kernel)⟩

/-- Three units of the eighth place in five chunks of one each: the last fill
is negative. -/
theorem Wallet.executeOrderInChunks_not_conserves :
    let placed := demoPlaced (3 / 100000000)
    placed.2.runtime.orders.get? placed.1.id = some placed.1.data ∧
      placed.1.data.status.Working ∧
      ¬ placed.2.ChunksConserve placed.1 placed.1.data (3 / 100000000) 100 (5 / 10000) 5 :=
  ⟨by decide +kernel, by decide +kernel, fun h => absurd h.nonneg (by decide +kernel)⟩

end CryptoTrader
