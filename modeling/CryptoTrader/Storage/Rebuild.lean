import CryptoTrader.Storage.Projection

/-!
# The projection and its rebuild

When the tables that `PostgresProjection.apply` keeps event by event are those
`rebuild_from` writes from the whole stream.  Both sides are compared with the
reducer.
-/

namespace CryptoTrader.Storage

open CryptoTrader.Lib

/-! ## Values under their own keys -/

/-- Every value is kept under its own id, which is not empty. -/
def KeyedBy {ν : Type} (id : ν → String) (d : Dict String ν) : Prop :=
  ∀ key, ∀ v ∈ d.get? key, id v = key ∧ key ≠ ""

section KeyedBy

variable {ν : Type} {id : ν → String} {d : Dict String ν} {key : String} {v : ν}

theorem KeyedBy.empty : KeyedBy id Dict.empty := by
  intro key v hv
  cases hv

theorem KeyedBy.set (h : KeyedBy id d) (hid : id v = key) (hkey : key ≠ "") :
    KeyedBy id (d.set key v) := by
  intro k w hw
  rw [Option.mem_def, Dict.get?_set] at hw
  by_cases hk : key = k
  · subst hk
    rw [if_pos rfl, Option.some.injEq] at hw
    subst hw
    exact ⟨hid, hkey⟩
  · rw [if_neg hk] at hw
    exact h k w hw

theorem KeyedBy.modify (h : KeyedBy id d) (f : ν → ν) (hf : ∀ v, id (f v) = id v) (key : String) :
    KeyedBy id (d.modify key f) := by
  intro k w hw
  by_cases hk : key = k
  · subst hk
    rw [Option.mem_def, Dict.get?_modify_self, Option.map_eq_some_iff] at hw
    obtain ⟨v, hv, rfl⟩ := hw
    rw [hf]
    exact h key v hv
  · rw [Option.mem_def, Dict.get?_modify_ne d f hk] at hw
    exact h k w hw

theorem KeyedBy.modifyAt (h : KeyedBy id d) (f : ν → ν) (hf : ∀ v, id (f v) = id v) (key : Option String) :
    KeyedBy id (Storage.modifyAt d key f) := by
  cases key with
  | none => exact h
  | some key => exact h.modify f hf key

theorem KeyedBy.erase (h : KeyedBy id d) (key : String) : KeyedBy id (d.erase key) := by
  intro k w hw
  rw [Option.mem_def, Dict.get?_erase] at hw
  by_cases hk : key = k
  · rw [if_pos hk] at hw
    cases hw
  · rw [if_neg hk] at hw
    exact h k w hw

theorem KeyedBy.eraseAt (h : KeyedBy id d) (key : Option String) :
    KeyedBy id (Storage.eraseAt d key) := by
  cases key with
  | none => exact h
  | some key => exact h.erase key

/-- There is nothing under the empty key. -/
theorem KeyedBy.get?_empty (h : KeyedBy id d) : d.get? "" = none := by
  cases hv : d.get? "" with
  | none => rfl
  | some v => exact absurd rfl (h "" v hv).2

/-- An update of an id that may be missing or empty. -/
theorem KeyedBy.modifyAt_eq (h : KeyedBy id d) (key : Option String) (f : ν → ν) :
    Storage.modifyAt d key f = Storage.modifyAt d (key.filter (· ≠ "")) f := by
  cases key with
  | none => rfl
  | some key =>
      by_cases hkey : key = ""
      · subst hkey
        simp [Storage.modifyAt, Dict.modify, h.get?_empty, Option.filter]
      · simp [Storage.modifyAt, hkey, Option.filter]

@[simp] theorem modifyAt_none (d : Dict String ν) (f : ν → ν) : modifyAt d none f = d := rfl

@[simp] theorem modifyAt_some (d : Dict String ν) (key : String) (f : ν → ν) :
    modifyAt d (some key) f = d.modify key f := rfl

@[simp] theorem eraseAt_none (d : Dict String ν) : eraseAt d none = d := rfl

@[simp] theorem eraseAt_some (d : Dict String ν) (key : String) :
    eraseAt d (some key) = d.erase key := rfl

@[simp] theorem modifyAt_empty (key : Option String) (f : ν → ν) :
    modifyAt Dict.empty key f = Dict.empty := by
  cases key with
  | none => rfl
  | some key => rfl

@[simp] theorem eraseAt_empty (key : Option String) :
    eraseAt (Dict.empty : Dict String ν) key = Dict.empty := by
  cases key with
  | none => rfl
  | some key => rfl

theorem KeyedBy.eraseAt_eq (h : KeyedBy id d) (key : Option String) :
    Storage.eraseAt d key = Storage.eraseAt d (key.filter (· ≠ "")) := by
  cases key with
  | none => rfl
  | some key =>
      by_cases hkey : key = ""
      · subst hkey
        simp [Storage.eraseAt, Option.filter, d.erase_of_none h.get?_empty]
      · simp [Storage.eraseAt, hkey, Option.filter]

end KeyedBy

/-- What every state of the reducer has. -/
structure ProjectionState.Keyed (mode : String) (st : ProjectionState) : Prop where
  mode : st.mode = mode
  orders : KeyedBy OrderRow.exchangeOrderId st.orders
  positions : KeyedBy PositionRow.symbol st.positions

theorem Fields.ne_of_oid {p : Fields} {oid : String} (h : p.oid = some oid) : oid ≠ "" := by
  simpa using (Option.filter_eq_some_iff.mp h).2

theorem Fields.ne_of_sym {p : Fields} {sym : String} (h : p.sym = some sym) : sym ≠ "" := by
  simpa using (Option.filter_eq_some_iff.mp h).2

section Run

variable {num : Numbers} {mode : String} {st : ProjectionState}

theorem ProjectionState.Keyed.start : ({ mode := mode } : ProjectionState).Keyed mode :=
  ⟨rfl, KeyedBy.empty, KeyedBy.empty⟩

theorem ProjectionState.Keyed.apply (h : st.Keyed mode) (event : DomainEvent) :
    (st.apply num event).Keyed mode := by
  obtain ⟨hmode, horders, hpositions⟩ := h
  obtain ⟨kind, ts, p⟩ := event
  have hfilled (oid : Option String) (fills : List FillRow) : ({ st with
      orders := modifyAt st.orders oid (fun o => o.fill num p), fills := fills } :
        ProjectionState).Keyed mode :=
    ⟨hmode, horders.modifyAt (fun o => o.fill num p) (fun _ => rfl) oid, hpositions⟩
  have hended (oid : Option String) (status : String) : ({ st with
      orders := modifyAt st.orders oid (fun o => { o with status := status }) } :
        ProjectionState).Keyed mode :=
    ⟨hmode, horders.modifyAt (fun o => { o with status := status }) (fun _ => rfl) oid, hpositions⟩
  have hclosed (sym : Option String) :
      ({ st with positions := eraseAt st.positions sym } : ProjectionState).Keyed mode :=
    ⟨hmode, horders, hpositions.eraseAt sym⟩
  have hput {sym : String} (hsym : p.sym = some sym) {pos : PositionRow} (hpos : pos.symbol = sym) :
      ({ st with positions := st.positions.set sym pos } : ProjectionState).Keyed mode :=
    ⟨hmode, horders, hpositions.set hpos (Fields.ne_of_sym hsym)⟩
  cases kind with
  | orderCreated =>
      simp only [ProjectionState.apply]
      cases hoid : p.oid with
      | none => exact ⟨hmode, horders, hpositions⟩
      | some oid => exact ⟨hmode, horders.set rfl (Fields.ne_of_oid hoid), hpositions⟩
  | orderFilled => exact hfilled _ _
  | orderPartiallyFilled => exact hfilled _ _
  | orderCancelled => exact hended _ _
  | orderRejected => exact hended _ _
  | orderExpired => exact hended _ _
  | positionOpened =>
      simp only [ProjectionState.apply]
      cases hsym : p.sym with
      | none => exact ⟨hmode, horders, hpositions⟩
      | some sym => exact hput hsym rfl
  | positionPartiallyClosed =>
      have hreduced := hpositions.modifyAt
        (fun pos => pos.reduce num ⟨.positionPartiallyClosed, ts, p⟩) (fun _ => rfl) p.symbol
      exact ⟨hmode, horders, hreduced⟩
  | positionClosed => exact hclosed _
  | liquidation => exact hclosed _
  | reconAdjust =>
      simp only [ProjectionState.apply]
      cases hsym : p.sym with
      | none => exact ⟨hmode, horders, hpositions⟩
      | some sym =>
          by_cases hzero : PyFloat.le (num.f p.quantity) (.fin 0) = true
          · simp only [hzero, if_true]
            exact hclosed (some sym)
          · simp only [hzero]
            exact hput hsym rfl
  | other _ => exact ⟨hmode, horders, hpositions⟩

/-! ## The tables of a reducer -/

/-- The tables of a reducer: each order and position in the row of its id and
mode. -/
def ProjectionState.tables (num : Numbers) (st : ProjectionState) : Tables :=
  { activePositions := Table.ofDict PositionRow.mode num.positionRow st.positions
    orders := Table.ofDict OrderRow.mode num.orderRow st.orders
    fills := st.fills.map num.fillRow }

/-- They are what writing its rows one by one makes of empty tables. -/
theorem ProjectionState.Keyed.write_empty (h : st.Keyed mode) :
    Tables.empty.write num st = st.tables num := by
  have hpositions : st.positions.values.foldl (upsertPosition num) Table.empty =
      Table.ofDict PositionRow.mode num.positionRow st.positions :=
    Table.foldl_upsert_values PositionRow.mode num.positionRow PositionRow.merge PositionRow.symbol
      (fun sym pos hpos => (h.positions sym pos hpos).1)
  have horders : st.orders.values.foldl (upsertOrder num) Table.empty =
      Table.ofDict OrderRow.mode num.orderRow st.orders :=
    Table.foldl_upsert_values OrderRow.mode num.orderRow OrderRow.merge OrderRow.exchangeOrderId
      (fun oid o ho => (h.orders oid o ho).1)
  simp only [Tables.write, Tables.empty, ProjectionState.tables, hpositions, horders,
    List.nil_append]

/-! ## One event -/

/-- The terms of an order, which an upsert of its row keeps. -/
def OrderRow.SameTerms (num : Numbers) (old new : OrderRow) : Prop :=
  old.symbol = new.symbol ∧ old.side = new.side ∧ old.orderType = new.orderType ∧
    num.numeric old.qty = num.numeric new.qty ∧ old.createdAt = new.createdAt

/-- Whether an event does to the tables of a reducer what it does to the
reducer. -/
def DomainEvent.Projects (num : Numbers) (st : ProjectionState) (event : DomainEvent) : Prop :=
  let p := event.payload
  let mode := p.mode.getD st.mode
  match event.kind with
  | .orderCreated =>
      ∀ oid ∈ p.oid, ∀ o ∈ st.orders.get? oid,
        o.mode = mode ∧ o.SameTerms num (createdOrder num mode oid event)
  | .orderFilled | .orderPartiallyFilled =>
      ∀ oid ∈ p.oid, ∀ o ∈ st.orders.get? oid,
        if o.mode = mode then
          num.numeric (num.add o.filledQty (num.f p.quantity)) =
            num.sqlAdd (num.numeric o.filledQty) (num.f p.quantity)
        else
          num.numeric (num.add o.filledQty (num.f p.quantity)) = num.numeric o.filledQty ∧
            ((num.f p.fillPrice).truthy →
              num.numeric (num.f p.fillPrice) = num.numeric o.avgFillPrice) ∧
            p.status.getD "FILLED" = o.status
  | .orderCancelled | .orderRejected | .orderExpired =>
      ∀ oid ∈ p.oid, ∀ o ∈ st.orders.get? oid, o.mode ≠ mode → event.kind.ending = o.status
  | .positionOpened => ∀ sym ∈ p.sym, ∀ pos ∈ st.positions.get? sym, pos.mode = mode
  | .positionPartiallyClosed =>
      ∀ sym ∈ p.sym, ∀ pos ∈ st.positions.get? sym,
        if pos.mode = mode then
          num.numeric (PyFloat.pyMax (.fin 0) (num.sub pos.qty (num.f p.closedQty))) =
            num.sqlReduce (num.numeric pos.qty) (num.f p.closedQty)
        else
          num.numeric (PyFloat.pyMax (.fin 0) (num.sub pos.qty (num.f p.closedQty))) =
            num.numeric pos.qty ∧ event.ts = pos.lastEventTs
  | .positionClosed | .liquidation =>
      ∀ sym ∈ p.sym, ∀ pos ∈ st.positions.get? sym, pos.mode = mode
  | .reconAdjust =>
      ∀ sym ∈ p.sym,
        if PyFloat.le (num.f p.quantity) (.fin 0) then st.positions.get? sym = none
        else ∀ pos ∈ st.positions.get? sym, pos.mode = mode
  | .other _ => True

section Built

variable (event : DomainEvent) (id : String)

@[simp] theorem createdOrder_exchangeOrderId :
    (createdOrder num mode id event).exchangeOrderId = id := rfl

@[simp] theorem createdOrder_mode : (createdOrder num mode id event).mode = mode := rfl

@[simp] theorem openedPosition_symbol : (openedPosition num mode id event).symbol = id := rfl

@[simp] theorem openedPosition_mode : (openedPosition num mode id event).mode = mode := rfl

@[simp] theorem adjustedPosition_symbol : (adjustedPosition num mode id event).symbol = id := rfl

@[simp] theorem adjustedPosition_mode : (adjustedPosition num mode id event).mode = mode := rfl

end Built

section Write

variable (t : Tables)

theorem Tables.write_nothing : t.write num { mode := mode } = t := by
  simp [Tables.write, Dict.values, Dict.empty]

theorem Tables.write_order (oid : String) (o : OrderRow) :
    t.write num { mode := mode, orders := Dict.empty.set oid o } =
      { t with orders := upsertOrder num t.orders o } := by
  simp [Tables.write, Dict.values, Dict.empty, Dict.set, Dict.setIn]

theorem Tables.write_position (sym : String) (pos : PositionRow) :
    t.write num { mode := mode, positions := Dict.empty.set sym pos } =
      { t with activePositions := upsertPosition num t.activePositions pos } := by
  simp [Tables.write, Dict.values, Dict.empty, Dict.set, Dict.setIn]

theorem Tables.write_fill (fill : FillRow) :
    t.write num { mode := mode, fills := [fill] } =
      { t with fills := t.fills ++ [num.fillRow fill] } := by
  simp [Tables.write, Dict.values, Dict.empty]

end Write

/-- An upsert keeps exactly the terms of an order. -/
theorem OrderRow.merge_eq_iff {old new : OrderRow} (hid : old.exchangeOrderId = new.exchangeOrderId)
    (hmode : old.mode = new.mode) :
    (num.orderRow old).merge (num.orderRow new) = num.orderRow new ↔ old.SameTerms num new := by
  simp [OrderRow.merge, Numbers.orderRow, OrderRow.SameTerms, hid, hmode]

/-- An upsert replaces a position. -/
theorem PositionRow.merge_eq {old new : PositionRow} (hsymbol : old.symbol = new.symbol)
    (hmode : old.mode = new.mode) :
    (num.positionRow old).merge (num.positionRow new) = num.positionRow new := by
  simp [PositionRow.merge, Numbers.positionRow, hsymbol, hmode]

theorem OrderRow.fill_row_iff (o : OrderRow) (p : Fields) (m : String) :
    num.orderRow (o.fill num p) =
        (if o.mode = m then (num.orderRow o).sqlFill num p else num.orderRow o) ↔
      if o.mode = m then
        num.numeric (num.add o.filledQty (num.f p.quantity)) =
          num.sqlAdd (num.numeric o.filledQty) (num.f p.quantity)
      else
        num.numeric (num.add o.filledQty (num.f p.quantity)) = num.numeric o.filledQty ∧
          ((num.f p.fillPrice).truthy →
            num.numeric (num.f p.fillPrice) = num.numeric o.avgFillPrice) ∧
          p.status.getD "FILLED" = o.status := by
  by_cases hm : o.mode = m
  · simp only [hm, if_true]
    by_cases hprice : (num.f p.fillPrice).truthy <;>
      simp [Numbers.orderRow, OrderRow.fill, OrderRow.sqlFill, hprice]
  · simp only [hm, if_false]
    by_cases hprice : (num.f p.fillPrice).truthy <;>
      simp [Numbers.orderRow, OrderRow.fill, hprice]

theorem OrderRow.end_row_iff (o : OrderRow) (status m : String) :
    num.orderRow { o with status := status } =
        (if o.mode = m then { num.orderRow o with status := status } else num.orderRow o) ↔
      (o.mode ≠ m → status = o.status) := by
  by_cases hm : o.mode = m
  · simp [hm, Numbers.orderRow]
  · simp [hm, Numbers.orderRow]

theorem PositionRow.reduce_row_iff (pos : PositionRow) (event : DomainEvent) (m : String) :
    num.positionRow (pos.reduce num event) =
        (if pos.mode = m then (num.positionRow pos).sqlReduce num event else num.positionRow pos) ↔
      if pos.mode = m then
        num.numeric (PyFloat.pyMax (.fin 0) (num.sub pos.qty (num.f event.payload.closedQty))) =
          num.sqlReduce (num.numeric pos.qty) (num.f event.payload.closedQty)
      else
        num.numeric (PyFloat.pyMax (.fin 0) (num.sub pos.qty (num.f event.payload.closedQty))) =
          num.numeric pos.qty ∧ event.ts = pos.lastEventTs := by
  by_cases hm : pos.mode = m
  · simp [hm, Numbers.positionRow, PositionRow.reduce, PositionRow.sqlReduce]
  · simp [hm, Numbers.positionRow, PositionRow.reduce]

/-- An order written to its row. -/
theorem KeyedBy.upsertOrder_iff (num : Numbers) {d : Dict String OrderRow} (h : KeyedBy OrderRow.exchangeOrderId d)
    (new : OrderRow) :
    upsertOrder num (Table.ofDict OrderRow.mode num.orderRow d) new =
        Table.ofDict OrderRow.mode num.orderRow (d.set new.exchangeOrderId new) ↔
      ∀ old ∈ d.get? new.exchangeOrderId, old.mode = new.mode ∧ old.SameTerms num new := by
  rw [upsertOrder, Table.upsert_eq_set_iff]
  constructor
  · intro hall old hold
    obtain ⟨hmode, hmerge⟩ := hall old hold
    exact ⟨hmode, (OrderRow.merge_eq_iff (h _ old hold).1 hmode).mp hmerge⟩
  · intro hall old hold
    obtain ⟨hmode, hterms⟩ := hall old hold
    exact ⟨hmode, (OrderRow.merge_eq_iff (h _ old hold).1 hmode).mpr hterms⟩

/-- A position written to its row. -/
theorem KeyedBy.upsertPosition_iff (num : Numbers) {d : Dict String PositionRow} (h : KeyedBy PositionRow.symbol d)
    (new : PositionRow) :
    upsertPosition num (Table.ofDict PositionRow.mode num.positionRow d) new =
        Table.ofDict PositionRow.mode num.positionRow (d.set new.symbol new) ↔
      ∀ old ∈ d.get? new.symbol, old.mode = new.mode := by
  rw [upsertPosition, Table.upsert_eq_set_iff]
  constructor
  · exact fun hall old hold => (hall old hold).1
  · intro hall old hold
    exact ⟨hall old hold, PositionRow.merge_eq (h _ old hold).1 (hall old hold)⟩

section Statements

variable (h : st.Keyed mode) (ts : ℤ) (p : Fields)
include h

theorem orderCreated_iff :
    (st.tables num).apply num mode ⟨.orderCreated, ts, p⟩ =
        (st.apply num ⟨.orderCreated, ts, p⟩).tables num ↔
      DomainEvent.Projects num st ⟨.orderCreated, ts, p⟩ := by
  cases hoid : p.oid with
  | none =>
      simp [Tables.apply, ProjectionState.apply, DomainEvent.Projects, Tables.statement, hoid,
        Tables.write_nothing]
  | some oid =>
      have hput := h.orders.upsertOrder_iff num
        (createdOrder num (p.mode.getD mode) oid ⟨.orderCreated, ts, p⟩)
      simpa [Tables.apply, ProjectionState.apply, DomainEvent.Projects, Tables.statement, hoid,
        Tables.write_order, ProjectionState.tables, h.mode] using hput

theorem positionOpened_iff :
    (st.tables num).apply num mode ⟨.positionOpened, ts, p⟩ =
        (st.apply num ⟨.positionOpened, ts, p⟩).tables num ↔
      DomainEvent.Projects num st ⟨.positionOpened, ts, p⟩ := by
  cases hsym : p.sym with
  | none =>
      simp [Tables.apply, ProjectionState.apply, DomainEvent.Projects, Tables.statement, hsym,
        Tables.write_nothing]
  | some sym =>
      have hput := h.positions.upsertPosition_iff num
        (openedPosition num (p.mode.getD mode) sym ⟨.positionOpened, ts, p⟩)
      simpa [Tables.apply, ProjectionState.apply, DomainEvent.Projects, Tables.statement, hsym,
        Tables.write_position, ProjectionState.tables, h.mode] using hput

theorem reconAdjust_iff :
    (st.tables num).apply num mode ⟨.reconAdjust, ts, p⟩ =
        (st.apply num ⟨.reconAdjust, ts, p⟩).tables num ↔
      DomainEvent.Projects num st ⟨.reconAdjust, ts, p⟩ := by
  cases hsym : p.sym with
  | none =>
      simp [Tables.apply, ProjectionState.apply, DomainEvent.Projects, Tables.statement, hsym,
        Tables.write_nothing]
  | some sym =>
      by_cases hzero : PyFloat.le (num.f p.quantity) (.fin 0) = true
      · have hnothing := Table.eq_erase_iff PositionRow.mode num.positionRow
          (d := st.positions) sym
        have hempty : (Dict.empty : Dict String PositionRow).erase sym = Dict.empty := rfl
        simpa [Tables.apply, ProjectionState.apply, DomainEvent.Projects, Tables.statement, hsym,
          hzero, hempty, Tables.write_nothing, ProjectionState.tables, h.mode] using hnothing
      · have hput := h.positions.upsertPosition_iff num
          (adjustedPosition num (p.mode.getD mode) sym ⟨.reconAdjust, ts, p⟩)
        simpa [Tables.apply, ProjectionState.apply, DomainEvent.Projects, Tables.statement, hsym,
          hzero, Tables.write_position, ProjectionState.tables, h.mode] using hput

/-- The fills of the two sides are the same; what is left is the order. -/
theorem orderFilled_iff {kind : EventKind}
    (hkind : kind = .orderFilled ∨ kind = .orderPartiallyFilled) :
    (st.tables num).apply num mode ⟨kind, ts, p⟩ = (st.apply num ⟨kind, ts, p⟩).tables num ↔
      DomainEvent.Projects num st ⟨kind, ts, p⟩ := by
  have horders : modifyAt st.orders p.orderId (fun o => o.fill num p) =
      modifyAt st.orders p.oid (fun o => o.fill num p) := h.orders.modifyAt_eq p.orderId _
  have hrows (oid : String) := Table.modify_eq_modify_iff OrderRow.mode num.orderRow (d := st.orders) oid (p.mode.getD mode) (fun o => o.sqlFill num p)
    (g := fun o => o.fill num p) (fun _ => rfl)
  rcases hkind with rfl | rfl <;> cases hoid : p.oid <;>
    simp [Tables.apply, ProjectionState.apply, DomainEvent.Projects, Tables.statement,
      ProjectionState.tables, Tables.write_fill, horders, hoid, h.mode, hrows,
      OrderRow.fill_row_iff]

theorem orderEnded_iff {kind : EventKind}
    (hkind : kind = .orderCancelled ∨ kind = .orderRejected ∨ kind = .orderExpired) :
    (st.tables num).apply num mode ⟨kind, ts, p⟩ = (st.apply num ⟨kind, ts, p⟩).tables num ↔
      DomainEvent.Projects num st ⟨kind, ts, p⟩ := by
  have horders : modifyAt st.orders p.orderId (fun o => { o with status := kind.ending }) =
      modifyAt st.orders p.oid (fun o => { o with status := kind.ending }) :=
    h.orders.modifyAt_eq p.orderId _
  have hrows (oid : String) := Table.modify_eq_modify_iff OrderRow.mode num.orderRow (d := st.orders) oid (p.mode.getD mode)
    (fun o => { o with status := kind.ending })
    (g := fun o => { o with status := kind.ending }) (fun _ => rfl)
  rcases hkind with rfl | rfl | rfl <;> cases hoid : p.oid <;>
    simp [Tables.apply, ProjectionState.apply, DomainEvent.Projects, Tables.statement,
      ProjectionState.tables, Tables.write_nothing, horders, hoid, h.mode, hrows,
      OrderRow.end_row_iff]

theorem positionPartiallyClosed_iff :
    (st.tables num).apply num mode ⟨.positionPartiallyClosed, ts, p⟩ =
        (st.apply num ⟨.positionPartiallyClosed, ts, p⟩).tables num ↔
      DomainEvent.Projects num st ⟨.positionPartiallyClosed, ts, p⟩ := by
  have hpositions : modifyAt st.positions p.symbol
      (fun pos => pos.reduce num ⟨.positionPartiallyClosed, ts, p⟩) =
        modifyAt st.positions p.sym (fun pos => pos.reduce num ⟨.positionPartiallyClosed, ts, p⟩) :=
    h.positions.modifyAt_eq p.symbol _
  have hrows (sym : String) := Table.modify_eq_modify_iff PositionRow.mode num.positionRow (d := st.positions) sym (p.mode.getD mode)
    (fun pos => pos.sqlReduce num ⟨.positionPartiallyClosed, ts, p⟩)
    (g := fun pos => pos.reduce num ⟨.positionPartiallyClosed, ts, p⟩) (fun _ => rfl)
  cases hsym : p.sym <;>
    simp [Tables.apply, ProjectionState.apply, DomainEvent.Projects, Tables.statement,
      ProjectionState.tables, Tables.write_nothing, hpositions, hsym, h.mode, hrows,
      PositionRow.reduce_row_iff]

theorem positionClosed_iff {kind : EventKind}
    (hkind : kind = .positionClosed ∨ kind = .liquidation) :
    (st.tables num).apply num mode ⟨kind, ts, p⟩ = (st.apply num ⟨kind, ts, p⟩).tables num ↔
      DomainEvent.Projects num st ⟨kind, ts, p⟩ := by
  have hpositions : eraseAt st.positions p.symbol = eraseAt st.positions p.sym :=
    h.positions.eraseAt_eq p.symbol
  have hrows (sym : String) := Table.delete_eq_erase_iff PositionRow.mode num.positionRow (d := st.positions) sym (p.mode.getD mode)
  rcases hkind with rfl | rfl <;> cases hsym : p.sym <;>
    simp [Tables.apply, ProjectionState.apply, DomainEvent.Projects, Tables.statement,
      ProjectionState.tables, Tables.write_nothing, hpositions, hsym, h.mode, hrows]

/-- **One event.**  The tables of a reducer follow it exactly if the event
projects. -/
theorem ProjectionState.Keyed.apply_iff (event : DomainEvent) :
    (st.tables num).apply num mode event = (st.apply num event).tables num ↔
      event.Projects num st := by
  obtain ⟨kind, ts, p⟩ := event
  cases kind with
  | orderCreated => exact orderCreated_iff h ts p
  | orderFilled => exact orderFilled_iff h ts p (Or.inl rfl)
  | orderPartiallyFilled => exact orderFilled_iff h ts p (Or.inr rfl)
  | orderCancelled => exact orderEnded_iff h ts p (Or.inl rfl)
  | orderRejected => exact orderEnded_iff h ts p (Or.inr (Or.inl rfl))
  | orderExpired => exact orderEnded_iff h ts p (Or.inr (Or.inr rfl))
  | positionOpened => exact positionOpened_iff h ts p
  | positionPartiallyClosed => exact positionPartiallyClosed_iff h ts p
  | positionClosed => exact positionClosed_iff h ts p (Or.inl rfl)
  | liquidation => exact positionClosed_iff h ts p (Or.inr rfl)
  | reconAdjust => exact reconAdjust_iff h ts p
  | other name =>
      simp [Tables.apply, ProjectionState.apply, DomainEvent.Projects, Tables.statement,
        Tables.write_nothing]

end Statements

theorem ProjectionState.Keyed.rebuild (h : st.Keyed mode) (events : List DomainEvent) :
    (st.rebuild num events).Keyed mode := by
  induction events generalizing st with
  | nil => exact h
  | cons event rest ih => exact ih (h.apply event)

/-! ## Streams -/

/-- A rebuild writes the tables of the reducer of the whole stream. -/
theorem rebuildFrom_eq (t : Tables) (events : List DomainEvent) :
    t.rebuildFrom num mode events =
      (ProjectionState.rebuild num { mode := mode } events).tables num :=
  (ProjectionState.Keyed.start.rebuild events).write_empty

/-- The tables of a reducer that has seen nothing. -/
theorem tables_start : ({ mode := mode } : ProjectionState).tables num = Tables.empty :=
  rfl

/-- **The projection is its rebuild** throughout a stream, exactly if every
event projects when its turn comes. -/
theorem apply_eq_rebuild_iff (num : Numbers) (mode : String) (events : List DomainEvent) :
    (∀ before, before <+: events →
        before.foldl (Tables.apply num mode) Tables.empty =
          Tables.empty.rebuildFrom num mode before) ↔
      AllOk (ProjectionState.apply num) (fun st event => event.Projects num st) { mode := mode }
        events := by
  simp only [rebuildFrom_eq]
  have hkeep : ∀ (st : ProjectionState) (_ : Tables) (event : DomainEvent), st.Keyed mode →
      (st.apply num event).Keyed mode := fun _ _ event h => h.apply event
  have hstep : ∀ (st : ProjectionState) (t : Tables) (event : DomainEvent), st.Keyed mode →
      t = st.tables num →
        (t.apply num mode event = (st.apply num event).tables num ↔ event.Projects num st) := by
    intro st t event h ht
    rw [ht]
    exact h.apply_iff event
  exact AllOk.related_iff (fun s t a h _ => hkeep s t a h) hstep events ProjectionState.Keyed.start tables_start.symm

end Run

/-! ## A closing adjustment -/

/-- A position is opened, and the reconciler finds that it is gone. -/
def demoAdjustment : List DomainEvent :=
  [ { kind := .positionOpened
      ts := 1
      payload :=
        { symbol := some "ETHUSDT"
          side := some "LONG"
          quantity := some (.number (.fin 4))
          entryPrice := some (.number (.fin 3000)) } },
    { kind := .reconAdjust
      ts := 2
      payload := { symbol := some "ETHUSDT", quantity := some (.number (.fin 0)) } } ]

/-- The table keeps the position that the rebuild takes out. -/
theorem demoAdjustment_not_rebuilt :
    demoAdjustment.foldl (Tables.apply demoNumbers "live") Tables.empty ≠
      Tables.empty.rebuildFrom demoNumbers "live" demoAdjustment := by
  intro h
  have hrow : ((demoAdjustment.foldl (Tables.apply demoNumbers "live") Tables.empty).activePositions
      ("ETHUSDT", "live")).isSome = true := by decide +kernel
  have hnone : ((Tables.empty.rebuildFrom demoNumbers "live" demoAdjustment).activePositions
      ("ETHUSDT", "live")).isSome = false := by decide +kernel
  rw [h, hnone] at hrow
  exact Bool.false_ne_true hrow

end CryptoTrader.Storage
