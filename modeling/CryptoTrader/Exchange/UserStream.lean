import CryptoTrader.Lib.Dict
import CryptoTrader.Lib.Json
import CryptoTrader.Lib.Run
import Mathlib.Tactic.Linarith
import Mathlib.Tactic.Ring

/-!
# Fills of the user stream

`_as_orders`, `_on_order_update` and `_handle_order_fill` of
`exchanges/coindcx_user_stream.py`.  The venue pushes an order with what it has
filled so far; a fill is the increase of `filled_quantity` over what the stream
remembers of the order.  Price and fee of the fill are those of the order so
far, and the memory is bounded.

Beside the state of the stream, the model keeps the record with the most filled
that was received of each order.
-/

namespace CryptoTrader.UserStream

open CryptoTrader.Lib

/-- The fields of an order update. -/
abbrev OrderFields := List (String × PyValue)

/-- The interpreter, with `json.loads` of a text that holds lone surrogates. -/
structure Interpreter extends Python where
  loads : List ℕ → Option PyValue

/-! ## Payloads -/

/-- `_coerce_any`: a text that is no JSON becomes `None`. -/
def coerceAny (py : Interpreter) : PyValue → PyValue
  | .str s => (Json.loads py.recursionLimit s.toList).toOption.getD .none
  | .surrogates points => (py.loads points).getD .none
  | data => data

/-- The dicts of a list. -/
def dictsOf (xs : List PyValue) : List OrderFields :=
  xs.filterMap (fun x => match x with | .dict fields => some fields | _ => none)

/-- `_as_orders`. -/
def asOrders (py : Interpreter) (data : PyValue) : List OrderFields :=
  match coerceAny py data with
  | .list xs => dictsOf xs
  | .dict fields =>
      match PyValue.lookup fields "orders" with
      | some (.list xs) => dictsOf xs
      | _ => [fields]
  | _ => []

/-! ## The fields of an order -/

section Fields

variable (py : Interpreter) (o : OrderFields)

/-- `o.get(key, default)`. -/
def getD (key : String) (default : PyValue) : PyValue := (PyValue.lookup o key).getD default

/-- `float(v or 0)`. -/
def number (v : PyValue) : Option PyFloat := (v.orElse (.int 0)).toFloat py.float

def orderId : PyStr := ((getD o "id" .none).orElse ((getD o "order_id" .none).orElse (.str ""))).toStr
  py.toPython

def avgPrice : Option PyFloat := number py (getD o "avg_price" (getD o "price_per_unit" (.int 0)))

def feeAmount : Option PyFloat := number py (getD o "fee_amount" (getD o "fee" (.int 0)))

/-- `int(float(..))`, which raises on `nan` and the infinities. -/
def timestamp : Option ℤ :=
  match number py (getD o "updated_at" (getD o "created_at" (.int 0))) with
  | some (.fin q) => some (if 0 ≤ q then ⌊q⌋ else ⌈q⌉)
  | _ => none

/-- A pair without the market in front and without the first separator. -/
def joinPair {α : Type} [DecidableEq α] (market : List α) (separator : α) (pair : List α) : List α :=
  let pair := if market.isPrefixOf pair then pair.drop market.length else pair
  pair.takeWhile (· ≠ separator) ++ (pair.dropWhile (· ≠ separator)).tail

def upperPoint (point : ℕ) : ℕ := if 97 ≤ point ∧ point ≤ 122 then point - 32 else point

/-- `coindcx_to_internal`. -/
def coindcxToInternal : PyStr → PyStr
  | .text pair => .text (String.ofList (joinPair "B-".toList '_' pair.toUpper.toList))
  | .surrogates points => .surrogates (joinPair [66, 45] 95 (points.map upperPoint))

/-- The symbol of the pair; a pair that is no text has no `upper`. -/
def symbolOf : Option PyStr :=
  match (getD o "pair" .none).orElse ((getD o "symbol" .none).orElse (.str "")) with
  | .str "" => some (.text "")
  | .str s => some (coindcxToInternal (.text s))
  | .surrogates points => some (coindcxToInternal (.surrogates points))
  | _ => none

/-- The order that has filled something, with how much; nothing for an update
without an id or where `filled_quantity` is zero, negative or no number. -/
def filledUpdate : Option (PyStr × PyFloat) :=
  let oid := orderId py o
  if oid = .text "" then none
  else
    match number py (getD o "filled_quantity" (.int 0)) with
    | none => none
    | some filled => if filled.le (.fin 0) then none else some (oid, filled)

end Fields

/-! ## Fills -/

structure OrderFill where
  exchangeOrderId : PyStr
  symbol : PyStr
  fillPrice : PyFloat
  fillQuantity : PyFloat
  fee : PyFloat
  isMaker : Bool
  side : PyValue
  status : PyValue
  timestamp : ℤ

/-- The fill of a delta; nothing where a field raises. -/
def fillOf (py : Interpreter) (o : OrderFields) (oid : PyStr) (delta : PyFloat) : Option OrderFill := do
  let symbol ← symbolOf o
  let price ← avgPrice py o
  let fee ← feeAmount py o
  let ts ← timestamp py o
  pure {
    exchangeOrderId := oid
    symbol := symbol
    fillPrice := price
    fillQuantity := delta
    fee := fee
    isMaker := (getD o "is_maker" (.bool false)).truthy
    side := getD o "side" (.str "")
    status := getD o "status" (.str "")
    timestamp := ts
  }

/-- How many orders are remembered. -/
def memoryBound : ℕ := 5000

/-- `_filled_by_order[oid] = filled`, and the oldest key goes when there are too
many.  A key that is there keeps its place. -/
def remember (memory : Dict PyStr PyFloat) (oid : PyStr) (filled : PyFloat) : Dict PyStr PyFloat :=
  let memory := memory.set oid filled
  if memoryBound < memory.size then
    match memory.keys with
    | oldest :: _ => memory.erase oldest
    | [] => memory
  else memory

/-! ## The stream -/

/-- What an update says of its order; nothing for a field that raises. -/
structure OrderRecord where
  filled : PyFloat
  avgPrice : Option PyFloat
  fee : Option PyFloat
  deriving DecidableEq

def recordOf (py : Interpreter) (o : OrderFields) (filled : PyFloat) : OrderRecord where
  filled := filled
  avgPrice := avgPrice py o
  fee := feeAmount py o

structure StreamState where
  filledByOrder : Dict PyStr PyFloat
  /-- The fills published, the last one first. -/
  published : List OrderFill
  /-- The record with the most filled of each order. -/
  received : PyStr → Option OrderRecord
  /-- An order came again after it had been evicted. -/
  forgotten : Bool

def StreamState.start : StreamState := ⟨.empty, [], fun _ => none, false⟩

/-- The record kept of an order after one more. -/
def largest (before : Option OrderRecord) (record : OrderRecord) : OrderRecord :=
  match before with
  | none => record
  | some before => if record.filled.le before.filled then before else record

/-- What was received, with one more record. -/
def receive (py : Interpreter) (s : StreamState) (o : OrderFields) (oid : PyStr) (filled : PyFloat) :
    StreamState :=
  { s with
    received := fun x =>
      if x = oid then some (largest (s.received oid) (recordOf py o filled)) else s.received x
    forgotten := s.forgotten || ((s.received oid).isSome && (s.filledByOrder.get? oid).isNone) }

/-- `_filled_by_order.get(oid, 0.0)`. -/
def StreamState.prev (s : StreamState) (oid : PyStr) : PyFloat :=
  (s.filledByOrder.get? oid).getD (.fin 0)

/-- The fill is published, unless a field raises; the memory is written first. -/
def countFill (py : Interpreter) (s : StreamState) (o : OrderFields) (oid : PyStr) (filled : PyFloat) :
    StreamState :=
  if filled.le (s.prev oid) then s
  else
    { s with
      filledByOrder := remember s.filledByOrder oid filled
      published := (fillOf py o oid (filled.sub (s.prev oid))).toList ++ s.published }

/-- `_handle_order_fill`. -/
def handleOrderFill (py : Interpreter) (s : StreamState) (o : OrderFields) : StreamState :=
  match filledUpdate py o with
  | none => s
  | some (oid, filled) => countFill py (receive py s o oid filled) o oid filled

/-- `_on_order_update`: what one order raises is logged, and the next one follows. -/
def onOrderUpdate (py : Interpreter) (s : StreamState) (data : PyValue) : StreamState :=
  (asOrders py data).foldl (handleOrderFill py) s

/-- Payloads one after another are their orders one after another. -/
theorem foldl_onOrderUpdate (py : Interpreter) (payloads : List PyValue) :
    ∀ s, payloads.foldl (onOrderUpdate py) s =
      (payloads.flatMap (asOrders py)).foldl (handleOrderFill py) s := by
  induction payloads with
  | nil => exact fun _ => rfl
  | cons data rest ih =>
      intro s
      rw [List.flatMap_cons, List.foldl_append]
      exact ih _

/-! ## Conservation -/

/-- A quantity, its value and its fee. -/
structure Amounts where
  quantity : ℚ
  value : ℚ
  fee : ℚ
  deriving DecidableEq

def OrderFill.amounts (fill : OrderFill) : Option Amounts :=
  match fill.fillQuantity, fill.fillPrice, fill.fee with
  | .fin quantity, .fin price, .fin fee => some ⟨quantity, price * quantity, fee⟩
  | _, _, _ => none

/-- What is to be published of an order in all. -/
def OrderRecord.amounts (record : OrderRecord) : Option Amounts :=
  match record.filled, record.avgPrice, record.fee with
  | .fin filled, some (.fin price), some (.fin fee) => some ⟨filled, price * filled, fee⟩
  | _, _, _ => none

/-- The sums over some fills, where all are numbers. -/
def total : List OrderFill → Option Amounts
  | [] => some ⟨0, 0, 0⟩
  | fill :: rest => do
      let first ← fill.amounts
      let others ← total rest
      pure ⟨first.quantity + others.quantity, first.value + others.value, first.fee + others.fee⟩

def StreamState.fillsOf (s : StreamState) (oid : PyStr) : List OrderFill :=
  s.published.filter (fun fill => fill.exchangeOrderId = oid)

/-- The fills of every order received sum to the record with the most filled,
and no order came back that had been evicted. -/
structure Conserved (s : StreamState) : Prop where
  remembered : s.forgotten = false
  sums : ∀ oid record, s.received oid = some record →
    ∃ amounts, record.amounts = some amounts ∧ total (s.fillsOf oid) = some amounts

/-! ## The updates that keep it -/

/-- No field of the update raises, and quantity, price and fee are numbers. -/
structure Readable (py : Interpreter) (o : OrderFields) (filled : PyFloat) : Prop where
  symbol : (symbolOf o).isSome
  timestamp : (timestamp py o).isSome
  amounts : (recordOf py o filled).amounts.isSome

/-- The first update with a fill of an order is readable.  A later one finds the
order in the memory, and where it brings a fill it is readable, has the average
price of the last one, and no fee was reported before. -/
def Lossless (py : Interpreter) (s : StreamState) (o : OrderFields) : Prop :=
  match filledUpdate py o with
  | none => True
  | some (oid, filled) =>
      match s.received oid with
      | none => Readable py o filled
      | some record =>
          (s.filledByOrder.get? oid).isSome ∧
            (filled.le record.filled ∨
              (Readable py o filled ∧ avgPrice py o = record.avgPrice ∧ record.fee = some (.fin 0)))

/-- What the stream has of the orders in every run. -/
structure Consistent (s : StreamState) : Prop where
  /-- As long as none was forgotten, the memory of an order is the most filled. -/
  memory : s.forgotten = false → ∀ oid v, s.filledByOrder.get? oid = some v →
    ∃ record, s.received oid = some record ∧ record.filled = v
  positive : ∀ oid record, s.received oid = some record → record.filled.le (.fin 0) = false
  unreceived : ∀ oid, s.received oid = none → s.fillsOf oid = []

theorem consistent_start : Consistent .start :=
  ⟨fun _ _ _ h => by simp [StreamState.start] at h, fun _ _ h => by simp [StreamState.start] at h,
    fun _ _ => rfl⟩

theorem conserved_start : Conserved .start :=
  ⟨rfl, fun _ _ h => by simp [StreamState.start] at h⟩

/-! ## One update -/

/-- An order that is remembered was set last or was remembered before. -/
theorem get?_remember {memory : Dict PyStr PyFloat} {oid x : PyStr} {filled v : PyFloat}
    (h : (remember memory oid filled).get? x = some v) :
    (if oid = x then some filled else memory.get? x) = some v := by
  rw [← Dict.get?_set]
  unfold remember at h
  dsimp only at h
  split_ifs at h
  · split at h
    · rw [Dict.get?_erase] at h
      split_ifs at h
      exact h
    · exact h
  · exact h

section Step

variable {py : Interpreter} {s : StreamState} {o : OrderFields} {oid : PyStr} {filled : PyFloat}

theorem positive_of_filledUpdate (h : filledUpdate py o = some (oid, filled)) :
    filled.le (.fin 0) = false := by
  unfold filledUpdate at h
  dsimp only at h
  split_ifs at h
  split at h
  · exact absurd h nofun
  · split_ifs at h with hle
    obtain ⟨-, rfl⟩ := Prod.mk.inj (Option.some.inj h)
    simpa using hle

theorem exchangeOrderId_of_fillOf {delta : PyFloat} {fill : OrderFill}
    (h : fillOf py o oid delta = some fill) : fill.exchangeOrderId = oid := by
  simp only [fillOf, Option.bind_eq_bind, Option.bind_eq_some_iff] at h
  obtain ⟨_, -, _, -, _, -, _, -, h⟩ := h
  cases h
  rfl

theorem fillOf_eq_none_iff {price fee : PyFloat} (hprice : avgPrice py o = some price)
    (hfee : feeAmount py o = some fee) (delta : PyFloat) :
    fillOf py o oid delta = none ↔ ¬ ((symbolOf o).isSome ∧ (timestamp py o).isSome) := by
  cases hsymbol : symbolOf o <;> cases hts : timestamp py o <;>
    simp [fillOf, hsymbol, hts, hprice, hfee]

theorem amounts_of_fillOf {q price fee : ℚ} (hprice : avgPrice py o = some (.fin price))
    (hfee : feeAmount py o = some (.fin fee)) {fill : OrderFill}
    (h : fillOf py o oid (.fin q) = some fill) : fill.amounts = some ⟨q, price * q, fee⟩ := by
  simp only [fillOf, hprice, hfee, Option.bind_eq_bind, Option.bind_eq_some_iff] at h
  obtain ⟨_, -, _, hp, _, hf, _, -, h⟩ := h
  cases hp
  cases hf
  cases h
  rfl

theorem OrderRecord.amounts_eq_some {record : OrderRecord} {amounts : Amounts}
    (h : record.amounts = some amounts) : ∃ filled price fee, record = ⟨.fin filled, some (.fin price),
      some (.fin fee)⟩ ∧ amounts = ⟨filled, price * filled, fee⟩ := by
  obtain ⟨filled, price, fee⟩ := record
  unfold OrderRecord.amounts at h
  split at h
  · rename_i q p f hq hp hf
    dsimp only at hq hp hf
    subst hq hp hf
    exact ⟨q, p, f, rfl, (Option.some.inj h).symm⟩
  · exact absurd h nofun

/-- An update that fills more than `q₀`, after fills that sum to `q₀`: the sums
become those of the update exactly if it is readable, the value so far is that
of its price, and there was no fee so far. -/
theorem total_counted_iff {q₀ v₀ f₀ : ℚ} {fills : List OrderFill}
    (hfills : total fills = some ⟨q₀, v₀, f₀⟩) (hmore : filled.le (.fin q₀) = false) :
    (∃ amounts, (recordOf py o filled).amounts = some amounts ∧
        total ((fillOf py o oid (filled.sub (.fin q₀))).toList ++ fills) = some amounts) ↔
      Readable py o filled ∧ (∃ price, avgPrice py o = some (.fin price) ∧ v₀ = price * q₀) ∧
        f₀ = 0 := by
  cases hrecord : (recordOf py o filled).amounts with
  | none =>
      constructor
      · rintro ⟨_, h, -⟩
        cases h
      · rintro ⟨h, -⟩
        simpa [hrecord] using h.amounts
  | some amounts =>
      obtain ⟨q, price, fee, heq, rfl⟩ := OrderRecord.amounts_eq_some hrecord
      obtain ⟨rfl, hprice, hfee⟩ : filled = .fin q ∧ avgPrice py o = some (.fin price) ∧
          feeAmount py o = some (.fin fee) := by
        simpa [recordOf] using heq
      have hmore' : q₀ < q := by simpa [PyFloat.le] using hmore
      have hreadable : Readable py o (.fin q) ↔ (symbolOf o).isSome ∧ (timestamp py o).isSome :=
        ⟨fun h => ⟨h.symbol, h.timestamp⟩, fun h => ⟨h.1, h.2, by simp [hrecord]⟩⟩
      rw [hreadable, PyFloat.sub_fin]
      cases hfill : fillOf py o oid (.fin (q - q₀)) with
      | none =>
          have hnot := (fillOf_eq_none_iff hprice hfee _).mp hfill
          constructor
          · rintro ⟨_, hamounts, htotal⟩
            cases hamounts
            rw [Option.toList_none, List.nil_append, hfills] at htotal
            exact absurd (congrArg Amounts.quantity (Option.some.inj htotal)) hmore'.ne
          · exact fun h => absurd h.1 hnot
      | some fill =>
          have hsome : (symbolOf o).isSome ∧ (timestamp py o).isSome := by
            by_contra hnot
            rw [(fillOf_eq_none_iff hprice hfee _).mpr hnot] at hfill
            cases hfill
          have htotal : total ([fill] ++ fills) =
              some ⟨q - q₀ + q₀, price * (q - q₀) + v₀, fee + f₀⟩ := by
            simp [total, amounts_of_fillOf hprice hfee hfill, hfills]
          simp only [Option.toList_some, htotal, hsome, hprice, true_and, Option.some.injEq,
            exists_eq_left', PyFloat.fin.injEq, Amounts.mk.injEq, sub_add_cancel]
          constructor
          · rintro ⟨hvalue, hfee⟩
            exact ⟨by linarith, by linarith⟩
          · rintro ⟨hvalue, hfee⟩
            exact ⟨by rw [hvalue]; ring, by rw [hfee, add_zero]⟩

theorem countFill_of_le (hle : filled.le (s.prev oid) = true) : countFill py s o oid filled = s := by
  unfold countFill
  rw [if_pos hle]

theorem countFill_of_more (hmore : filled.le (s.prev oid) = false) :
    countFill py s o oid filled =
      { s with
        filledByOrder := remember s.filledByOrder oid filled
        published := (fillOf py o oid (filled.sub (s.prev oid))).toList ++ s.published } := by
  simp [countFill, hmore]

/-- An update of one order leaves the fills of the others. -/
theorem fillsOf_countFill_ne {x : PyStr} (hx : x ≠ oid) :
    (countFill py s o oid filled).fillsOf x = s.fillsOf x := by
  cases hle : filled.le (s.prev oid) with
  | true => rw [countFill_of_le hle]
  | false =>
      rw [countFill_of_more hle]
      cases hfill : fillOf py o oid (filled.sub (s.prev oid)) with
      | none => rfl
      | some fill => simp [StreamState.fillsOf, exchangeOrderId_of_fillOf hfill, Ne.symm hx]

theorem fillsOf_countFill (hmore : filled.le (s.prev oid) = false) :
    (countFill py s o oid filled).fillsOf oid =
      (fillOf py o oid (filled.sub (s.prev oid))).toList ++ s.fillsOf oid := by
  rw [countFill_of_more hmore]
  cases hfill : fillOf py o oid (filled.sub (s.prev oid)) with
  | none => rfl
  | some fill => simp [StreamState.fillsOf, exchangeOrderId_of_fillOf hfill]

@[simp] theorem received_countFill : (countFill py s o oid filled).received = s.received := by
  unfold countFill
  split_ifs <;> rfl

@[simp] theorem forgotten_countFill : (countFill py s o oid filled).forgotten = s.forgotten := by
  unfold countFill
  split_ifs <;> rfl

@[simp] theorem prev_receive (x : PyStr) : (receive py s o oid filled).prev x = s.prev x := rfl

@[simp] theorem fillsOf_receive (x : PyStr) : (receive py s o oid filled).fillsOf x = s.fillsOf x := rfl

theorem received_receive (x : PyStr) : (receive py s o oid filled).received x =
    if x = oid then some (largest (s.received oid) (recordOf py o filled)) else s.received x := rfl

theorem forgotten_receive : (receive py s o oid filled).forgotten =
    (s.forgotten || ((s.received oid).isSome && (s.filledByOrder.get? oid).isNone)) := rfl

/-- A repeat is of an order received with as much, which stays its record. -/
theorem Consistent.repeated (h : Consistent s) (hremembered : s.forgotten = false)
    (hpos : filled.le (.fin 0) = false) (hle : filled.le (s.prev oid) = true) :
    ∃ record, s.received oid = some record ∧ s.filledByOrder.get? oid = some record.filled ∧
      largest (s.received oid) (recordOf py o filled) = record := by
  unfold StreamState.prev at hle
  cases hmemory : s.filledByOrder.get? oid with
  | none => simp [hmemory, hpos] at hle
  | some v =>
      obtain ⟨record, hrecord, rfl⟩ := h.memory hremembered oid v hmemory
      refine ⟨record, hrecord, rfl, ?_⟩
      simp only [hmemory, Option.getD_some] at hle
      simp [largest, hrecord, recordOf, hle]

/-- What is counted of an order that is remembered is its new record. -/
theorem Consistent.counted (h : Consistent s) (hremembered : s.forgotten = false)
    (hknown : (s.received oid).isSome → (s.filledByOrder.get? oid).isSome)
    (hmore : filled.le (s.prev oid) = false) :
    largest (s.received oid) (recordOf py o filled) = recordOf py o filled := by
  unfold StreamState.prev at hmore
  cases hreceived : s.received oid with
  | none => rfl
  | some before =>
      obtain ⟨v, hmemory⟩ := Option.isSome_iff_exists.mp (hknown (by simp [hreceived]))
      obtain ⟨record, hrecord, rfl⟩ := h.memory hremembered oid v hmemory
      obtain rfl : record = before := by simpa [hreceived] using hrecord.symm
      simp only [hmemory, Option.getD_some] at hmore
      simp [largest, recordOf, hmore]

theorem Consistent.countFill (h : Consistent s) (hpos : filled.le (.fin 0) = false) :
    Consistent (countFill py (receive py s o oid filled) o oid filled) := by
  refine ⟨fun hforgotten x v hx => ?_, fun x record hrecord => ?_, fun x hx => ?_⟩
  · rw [forgotten_countFill, forgotten_receive, Bool.or_eq_false_iff] at hforgotten
    obtain ⟨hremembered, hback⟩ := hforgotten
    have hknown : (s.received oid).isSome → (s.filledByOrder.get? oid).isSome := by
      cases hmemory : s.filledByOrder.get? oid <;> simp_all
    rw [received_countFill, received_receive]
    by_cases hle : filled.le (s.prev oid) = true
    · obtain ⟨record, hreceived, hmemory, hlargest⟩ := h.repeated hremembered hpos hle
      rw [countFill_of_le (by rwa [prev_receive])] at hx
      rw [hlargest]
      split_ifs with hxo
      · subst hxo
        exact ⟨record, rfl, Option.some.inj (hmemory.symm.trans hx)⟩
      · exact h.memory hremembered x v hx
    · have hmore : filled.le (s.prev oid) = false := by simpa using hle
      rw [countFill_of_more (by rwa [prev_receive])] at hx
      rw [h.counted hremembered hknown hmore]
      have hx := get?_remember hx
      by_cases hxo : x = oid
      · subst hxo
        rw [if_pos rfl] at hx ⊢
        exact ⟨_, rfl, Option.some.inj hx⟩
      · rw [if_neg (Ne.symm hxo)] at hx
        rw [if_neg hxo]
        exact h.memory hremembered x v hx
  · rw [received_countFill, received_receive] at hrecord
    split_ifs at hrecord with hxo
    · obtain rfl := Option.some.inj hrecord
      unfold largest
      split
      · exact hpos
      · rename_i before hbefore
        split_ifs
        · exact h.positive oid before hbefore
        · exact hpos
    · exact h.positive x record hrecord
  · rw [received_countFill, received_receive] at hx
    split_ifs at hx with hxo
    rw [fillsOf_countFill_ne hxo, fillsOf_receive]
    exact h.unreceived x hx

/-- Only the sums of the order updated can change. -/
theorem conserved_countFill_iff (h : Conserved s) {record : OrderRecord}
    (hrecord : largest (s.received oid) (recordOf py o filled) = record)
    (hknown : (s.received oid).isSome → (s.filledByOrder.get? oid).isSome) :
    Conserved (countFill py (receive py s o oid filled) o oid filled) ↔
      ∃ amounts, record.amounts = some amounts ∧
        total ((countFill py (receive py s o oid filled) o oid filled).fillsOf oid) = some amounts := by
  constructor
  · intro hafter
    exact hafter.sums oid record (by simp [received_receive, hrecord])
  · intro hsums
    refine ⟨?_, fun x other hother => ?_⟩
    · rw [forgotten_countFill, forgotten_receive, h.remembered]
      cases hmemory : s.filledByOrder.get? oid <;> simp_all
    · rw [received_countFill, received_receive] at hother
      split_ifs at hother with hxo
      · subst hxo
        obtain rfl : record = other := hrecord.symm.trans (Option.some.inj hother)
        exact hsums
      · rw [fillsOf_countFill_ne hxo, fillsOf_receive]
        exact h.sums x other hother

/-- The first fill of an order. -/
theorem conserved_first_iff (h : Consistent s) (hconserved : Conserved s)
    (hpos : filled.le (.fin 0) = false) (hreceived : s.received oid = none) :
    Conserved (countFill py (receive py s o oid filled) o oid filled) ↔ Readable py o filled := by
  have hmemory : s.filledByOrder.get? oid = none := by
    by_contra hne
    obtain ⟨v, hv⟩ := Option.ne_none_iff_exists'.mp hne
    obtain ⟨record, hrecord, -⟩ := h.memory hconserved.remembered oid v hv
    simp [hreceived] at hrecord
  have hprev : s.prev oid = .fin 0 := by simp [StreamState.prev, hmemory]
  have hlargest : largest (s.received oid) (recordOf py o filled) = recordOf py o filled := by
    simp [largest, hreceived]
  rw [conserved_countFill_iff hconserved hlargest (by simp [hreceived]), fillsOf_countFill (by rw [prev_receive, hprev]; exact hpos), prev_receive,
    hprev, fillsOf_receive, h.unreceived oid hreceived, total_counted_iff rfl hpos]
  constructor
  · exact fun hafter => hafter.1
  · intro hreadable
    obtain ⟨amounts, hamounts⟩ := Option.isSome_iff_exists.mp hreadable.amounts
    obtain ⟨q, price, fee, heq, -⟩ := OrderRecord.amounts_eq_some hamounts
    exact ⟨hreadable, ⟨price, congrArg OrderRecord.avgPrice heq, (mul_zero price).symm⟩, rfl⟩

/-- A later update of an order. -/
theorem conserved_later_iff (h : Consistent s) (hconserved : Conserved s) {before : OrderRecord} (hreceived : s.received oid = some before) :
    Conserved (countFill py (receive py s o oid filled) o oid filled) ↔
      (s.filledByOrder.get? oid).isSome ∧ (filled.le before.filled ∨
        (Readable py o filled ∧ avgPrice py o = before.avgPrice ∧ before.fee = some (.fin 0))) := by
  cases hmemory : s.filledByOrder.get? oid with
  | none =>
      have hlost : (countFill py (receive py s o oid filled) o oid filled).forgotten = true := by
        simp [forgotten_receive, hreceived, hmemory]
      constructor
      · intro hafter
        rw [hafter.remembered] at hlost
        cases hlost
      · exact fun hknown => absurd hknown.1 (by simp)
  | some v =>
      obtain ⟨record, hrecord, rfl⟩ := h.memory hconserved.remembered oid v hmemory
      obtain rfl : record = before := Option.some.inj (hrecord.symm.trans hreceived)
      have hprev : s.prev oid = record.filled := by simp [StreamState.prev, hmemory]
      obtain ⟨amounts, hamounts, htotal⟩ := hconserved.sums oid record hrecord
      cases hle : filled.le record.filled with
      | true =>
          have hlargest : largest (s.received oid) (recordOf py o filled) = record := by
            simp [largest, hreceived, recordOf, hle]
          rw [conserved_countFill_iff hconserved hlargest (by simp [hmemory]), countFill_of_le (by rw [prev_receive, hprev]; exact hle), fillsOf_receive]
          simpa using ⟨amounts, hamounts, htotal⟩
      | false =>
          obtain ⟨q₀, price₀, fee₀, rfl, rfl⟩ := OrderRecord.amounts_eq_some hamounts
          have hq₀ : q₀ ≠ 0 := by
            have := h.positive oid _ hrecord
            simp only [PyFloat.le, decide_eq_false_iff_not, not_le] at this
            exact this.ne'
          have hlargest : largest (s.received oid) (recordOf py o filled) = recordOf py o filled := by
            simp [largest, hreceived, recordOf, hle]
          rw [conserved_countFill_iff hconserved hlargest (by simp [hmemory]),
            fillsOf_countFill (by rw [prev_receive, hprev]; exact hle), prev_receive, hprev,
            fillsOf_receive, total_counted_iff htotal hle]
          simp only [mul_left_inj' hq₀, exists_eq_right', Option.isSome_some, Bool.false_eq_true,
            false_or, true_and, Option.some.injEq, PyFloat.fin.injEq]

/-- One update keeps the sums exactly if it is lossless. -/
theorem handleOrderFill_keeps (h : Consistent s) (hconserved : Conserved s) :
    Consistent (handleOrderFill py s o) ∧ (Conserved (handleOrderFill py s o) ↔ Lossless py s o) := by
  unfold handleOrderFill Lossless
  cases hupdate : filledUpdate py o with
  | none => exact ⟨h, iff_of_true hconserved trivial⟩
  | some update =>
      obtain ⟨oid, filled⟩ := update
      have hpos := positive_of_filledUpdate hupdate
      refine ⟨h.countFill hpos, ?_⟩
      dsimp only
      cases hreceived : s.received oid with
      | none => exact conserved_first_iff h hconserved hpos hreceived
      | some before => exact conserved_later_iff h hconserved hreceived

end Step

/-- **The fills of a run sum to what was received, after every update, exactly if
every update is lossless when its turn comes.** -/
theorem fills_conserved_iff (py : Interpreter) (payloads : List PyValue) :
    (∀ before, before <+: payloads.flatMap (asOrders py) →
        Conserved (before.foldl (handleOrderFill py) .start)) ↔
      AllOk (handleOrderFill py) (Lossless py) .start (payloads.flatMap (asOrders py)) :=
  AllOk.kept_iff (fun _ _ h hconserved => handleOrderFill_keeps h hconserved) _ consistent_start
    conserved_start

/-! ## An order filled in two parts -/

def demoInterpreter : Interpreter where
  str := fun _ => ""
  float := fun _ => none
  recursionLimit := 1000
  loads := fun _ => none

/-- An update of one order. -/
def demoUpdate (filled price fee : ℤ) : PyValue :=
  .dict [("id", .str "order-1"), ("pair", .str "B-SOL_USDT"), ("side", .str "buy"),
    ("filled_quantity", .int filled), ("avg_price", .int price), ("fee_amount", .int fee)]

/-- One is filled at 100 and then one more at 120. -/
def demoUpdates : List PyValue := [demoUpdate 1 100 1, demoUpdate 2 110 2]

/-- The fills are worth 210 and cost 3; the order is worth 220 and costs 2. -/
theorem demoUpdates_not_conserved :
    ¬ ∀ (py : Interpreter) (payloads : List PyValue),
      Conserved (payloads.foldl (onOrderUpdate py) .start) := by
  intro h
  have hpublished : total ((demoUpdates.foldl (onOrderUpdate demoInterpreter) .start).fillsOf
      (.text "order-1")) = some ⟨2, 210, 3⟩ := by decide +kernel
  have hreceived : (demoUpdates.foldl (onOrderUpdate demoInterpreter) .start).received
      (.text "order-1") = some ⟨.fin 2, some (.fin 110), some (.fin 2)⟩ := by decide +kernel
  obtain ⟨amounts, hamounts, htotal⟩ := (h demoInterpreter demoUpdates).sums _ _ hreceived
  cases hamounts
  rw [hpublished] at htotal
  exact absurd htotal (by decide +kernel)

end CryptoTrader.UserStream
