import CryptoTrader.Arb.Manager
import CryptoTrader.Lib.Run

/-!
# The book against the venues

What a record says about the exposure, and the rules by which the operations of
a tick are followed: each knows the stored record, the one in memory and the
exposure before and after.
-/

namespace CryptoTrader.Arb

open CryptoTrader.Lib

/-! ## What a record says -/

/-- The exposure a record stands for.  `UNWINDING_PERP` is entered from a hedge and
from an entry whose spot leg failed. -/
def ArbPosition.Accounts (arb : ArbPosition) (perp spot : Decimal) : Prop :=
  0 < arb.perpQty ∧ arb.spotQty = arb.perpQty ∧
    match arb.state with
    | .perpOnly => perp = -arb.perpQty ∧ spot = 0
    | .hedged => perp = -arb.perpQty ∧ spot = arb.perpQty
    | .unwindingPerp => perp = -arb.perpQty ∧ (spot = 0 ∨ spot = arb.perpQty)
    | .unwindingSpot => perp = 0 ∧ spot = arb.perpQty
    | .placingPerp | .closed => False

/-- No record, no exposure. -/
def Accounts (record : Option ArbPosition) (perp spot : Decimal) : Prop :=
  match record with
  | none => perp = 0 ∧ spot = 0
  | some arb => arb.Accounts perp spot

/-- The record in memory agrees with the venues. -/
def ArbWorld.Agrees (w : ArbWorld) : Prop := Accounts w.book w.perp w.spot

/-- The rows that are not closed are this record. -/
structure Stored (rows : Dict String ArbPosition) (record : Option ArbPosition) : Prop where
  live : ∀ arb, record = some arb → arb.state ≠ .closed
  rows : ∀ id arb, arb.state ≠ .closed →
    (rows.get? id = some arb ↔ record = some arb ∧ id = arb.arbId)

/-- Memory and rows agree with each other and with the venues. -/
structure ArbWorld.Settled (w : ArbWorld) : Prop where
  stored : Stored w.rows w.book
  agrees : w.Agrees

/-- A restarted manager would agree with the venues. -/
def ArbWorld.Recoverable (w : ArbWorld) : Prop :=
  ∃ record, Stored w.rows record ∧ Accounts record w.perp w.spot

theorem ArbPosition.open?_of_ne {arb : ArbPosition} (h : arb.state ≠ .closed) :
    arb.open? = some arb :=
  if_neg h

section Stored

variable {rows : Dict String ArbPosition} {record : Option ArbPosition}

/-- A snapshot of the record's arb replaces the record. -/
theorem Stored.set (h : Stored rows record) {arb : ArbPosition}
    (hid : ∀ old, record = some old → old.arbId = arb.arbId) :
    Stored (rows.set arb.arbId arb) arb.open? where
  live a ha := by
    unfold ArbPosition.open? at ha
    split at ha
    · cases ha
    · obtain rfl := Option.some.inj ha
      assumption
  rows id a ha := by
    rw [Dict.get?_set]
    by_cases hkey : arb.arbId = id
    · subst hkey
      rw [if_pos rfl]
      constructor
      · intro heq
        obtain rfl := Option.some.inj heq
        exact ⟨ArbPosition.open?_of_ne ha, rfl⟩
      · rintro ⟨heq, -⟩
        unfold ArbPosition.open? at heq
        split at heq
        · cases heq
        · exact heq
    · rw [if_neg hkey, h.rows id a ha]
      constructor
      · rintro ⟨heq, hid'⟩
        exact absurd (hid'.trans (hid a heq)).symm hkey
      · rintro ⟨heq, hid'⟩
        unfold ArbPosition.open? at heq
        split at heq
        · cases heq
        · obtain rfl := Option.some.inj heq
          exact absurd hid'.symm hkey

/-- What is loaded is what was stored. -/
theorem Stored.loadOpen_eq (h : Stored rows record) : loadOpen rows = record := by
  have hmem : ∀ arb, arb ∈ rows.values.filter (fun arb => arb.state ≠ .closed) ↔
      record = some arb := by
    intro arb
    rw [List.mem_filter, decide_eq_true_eq]
    constructor
    · rintro ⟨hvalue, hlive⟩
      obtain ⟨⟨id, a⟩, hentry, rfl⟩ := List.mem_map.mp hvalue
      exact ((h.rows id a hlive).mp (rows.get?_of_mem hentry)).1
    · intro hrecord
      have hlive := h.live arb hrecord
      have hget := (h.rows arb.arbId arb hlive).mpr ⟨hrecord, rfl⟩
      exact ⟨List.mem_map.mpr ⟨(arb.arbId, arb), rows.mem_entries_iff.mpr hget, rfl⟩, hlive⟩
  unfold loadOpen
  cases hlast : (rows.values.filter (fun arb => arb.state ≠ .closed)).getLast? with
  | none =>
      rw [List.getLast?_eq_none_iff] at hlast
      cases record with
      | none => rfl
      | some arb =>
          have := (hmem arb).mpr rfl
          rw [hlast] at this
          cases this
  | some arb => exact ((hmem arb).mp (List.mem_of_getLast? hlast)).symm

end Stored

theorem ArbWorld.Recoverable.restart {w : ArbWorld} (h : w.Recoverable) : w.restart.Settled := by
  obtain ⟨record, hstored, haccounts⟩ := h
  have hload := hstored.loadOpen_eq
  refine ⟨?_, ?_⟩
  · show Stored w.rows (loadOpen w.rows)
    rw [hload]
    exact hstored
  · show Accounts (loadOpen w.rows) w.perp w.spot
    rw [hload]
    exact haccounts

/-! ## Following a tick -/

/-- The stored record, the one in memory, and the exposure. -/
structure ArbWorld.At (w : ArbWorld) (record book : Option ArbPosition) (perp spot : Decimal) :
    Prop where
  stored : Stored w.rows record
  book_eq : w.book = book
  perp_eq : w.perp = perp
  spot_eq : w.spot = spot

/-- An order of this quantity that fails leaves the venue as it is, and one that
succeeds is filled in full. -/
def Tick.FillsExactly (tick : Tick) (qty : Decimal) : Prop :=
  ∀ leg side, (tick.place leg side qty).executed =
    match (tick.place leg side qty).result with
    | .ok _ => qty
    | .error _ => 0

/-- So is any order. -/
def Tick.FullFills (tick : Tick) : Prop := ∀ qty, tick.FillsExactly qty

section Rules

variable {tick : Tick} {w : ArbWorld} {record book : Option ArbPosition} {perp spot : Decimal}
  {α : Type} {E : Stop → ArbWorld → Prop}

theorem ArbWorld.At.settled (h : w.At record record perp spot)
    (haccounts : Accounts record perp spot) : w.Settled := by
  refine ⟨?_, ?_⟩
  · rw [h.book_eq]
    exact h.stored
  · unfold ArbWorld.Agrees
    rw [h.book_eq, h.perp_eq, h.spot_eq]
    exact haccounts

theorem ArbWorld.At.recoverable (h : w.At record book perp spot)
    (haccounts : Accounts record perp spot) : w.Recoverable := by
  refine ⟨record, h.stored, ?_⟩
  rw [h.perp_eq, h.spot_eq]
  exact haccounts

theorem ArbWorld.Settled.at (h : w.Settled) : w.At w.book w.book w.perp w.spot :=
  ⟨h.stored, rfl, rfl, rfl⟩

theorem wp_reach {Q : Unit → ArbWorld → Prop} (place : Place) :
    wp (reach tick place) Q E w ↔
      (tick.crashAt = some place → E .crashed w) ∧ (tick.crashAt ≠ some place → Q () w) := by
  unfold reach
  rw [wp_ite]
  exact Iff.rfl

theorem wp_catching {Q : α → ArbWorld → Prop} (m : ArbM α) (handler : PyErr → ArbM α) :
    wp (catching m handler) Q E w ↔
      wp m Q (fun stop w' => match stop with
        | .raised e => wp (handler e) Q E w'
        | .crashed => E .crashed w') w := by
  unfold catching
  rw [wp_tryCatch]
  constructor
  · intro h
    refine wp_mono h (fun _ _ h => h) (fun stop w' h => ?_)
    cases stop with
    | raised e => exact h
    | crashed => exact h
  · intro h
    refine wp_mono h (fun _ _ h => h) (fun stop w' h => ?_)
    cases stop with
    | raised e => exact h
    | crashed => exact h

theorem wp_read {Q : Decimal → ArbWorld → Prop} (reading : Reading)
    (hok : ∀ value, reading = .ok value → Q value w)
    (herror : ∀ e, reading = .error e → E (.raised e) w) : wp (read reading) Q E w := by
  unfold read
  cases reading with
  | ok value => exact hok value rfl
  | error e => exact herror e rfl

/-- The event and the snapshot of a book operation that has set the record in
memory. -/
theorem wp_write {Q : Unit → ArbWorld → Prop} (place : Write → Place) (eventType : String)
    {arb : ArbPosition} (h : w.At record book perp spot)
    (hid : ∀ old, record = some old → old.arbId = arb.arbId)
    (hcrash : ∀ write w', tick.crashAt = some (place write) → w'.At record book perp spot →
      E .crashed w')
    (hdone : ∀ w', w'.At arb.open? book perp spot → Q () w') :
    wp (do emit tick place eventType; snapshot tick place arb) Q E w := by
  rw [wp_bind]
  unfold emit
  rw [wp_bind, wp_reach]
  refine ⟨fun hcrashed => hcrash _ _ hcrashed h, fun _ => ?_⟩
  rw [wp_modify]
  have h' : ({ w with events := w.events ++ [eventType] } : ArbWorld).At record book perp spot :=
    ⟨h.stored, h.book_eq, h.perp_eq, h.spot_eq⟩
  unfold snapshot
  rw [wp_bind, wp_reach]
  refine ⟨fun hcrashed => hcrash _ _ hcrashed h', fun _ => ?_⟩
  rw [wp_modify]
  exact hdone _ ⟨h.stored.set hid, h.book_eq, h.perp_eq, h.spot_eq⟩

theorem wp_update {Q : Unit → ArbWorld → Prop} (place : Write → Place) (eventType : String)
    {arb : ArbPosition} (h : w.At record book perp spot)
    (hid : ∀ old, record = some old → old.arbId = arb.arbId)
    (hcrash : ∀ write w', tick.crashAt = some (place write) → w'.At record arb.open? perp spot →
      E .crashed w')
    (hdone : ∀ w', w'.At arb.open? arb.open? perp spot → Q () w') :
    wp (update tick place arb eventType) Q E w := by
  unfold update
  rw [wp_bind, wp_modify]
  exact wp_write place eventType ⟨h.stored, rfl, h.perp_eq, h.spot_eq⟩ hid hcrash hdone

theorem wp_openRecord {Q : Unit → ArbWorld → Prop} (place : Write → Place) {arb : ArbPosition}
    (h : w.At record book perp spot) (hlive : arb.state ≠ .closed)
    (hid : ∀ old, record = some old → old.arbId = arb.arbId)
    (hcrash : ∀ write w', tick.crashAt = some (place write) → w'.At record (some arb) perp spot →
      E .crashed w')
    (hdone : ∀ w', w'.At (some arb) (some arb) perp spot → Q () w') :
    wp (openRecord tick place arb) Q E w := by
  unfold openRecord
  rw [wp_bind, wp_modify]
  rw [← ArbPosition.open?_of_ne hlive] at hdone
  refine wp_write place _ ⟨h.stored, rfl, h.perp_eq, h.spot_eq⟩ hid hcrash (fun w' hw' => ?_)
  rw [ArbPosition.open?_of_ne hlive] at hdone hw'
  exact hdone w' hw'

/-- A closed record is none. -/
theorem wp_close {Q : Unit → ArbWorld → Prop} (place : Write → Place) {arb : ArbPosition}
    (reason : String) (realizedPnl : Decimal) (h : w.At record book perp spot)
    (hid : ∀ old, record = some old → old.arbId = arb.arbId)
    (hcrash : ∀ write w', tick.crashAt = some (place write) → w'.At record none perp spot →
      E .crashed w')
    (hdone : ∀ w', w'.At none none perp spot → Q () w') :
    wp (close tick place arb reason realizedPnl) Q E w := by
  unfold close
  rw [wp_bind, wp_modify]
  exact wp_write place _ ⟨h.stored, rfl, h.perp_eq, h.spot_eq⟩ hid hcrash hdone

/-- An order that returns has traded its quantity, one that raises nothing. -/
theorem wp_placeOrder {Q : ArbOrder → ArbWorld → Prop} {qty : Decimal}
    (hfills : tick.FillsExactly qty) (place : Place) (leg : Leg) (side : PositionSide)
    (hcrash : tick.crashAt = some place → E .crashed w)
    (hok : ∀ order fills, (tick.place leg side qty).result = .ok order →
      Q order { w.trade leg (side.sign * qty) with fills := fills })
    (herror : ∀ e, (tick.place leg side qty).result = .error e → E (.raised e) w) :
    wp (placeOrder tick place leg side qty) Q E w := by
  unfold placeOrder
  rw [wp_bind, wp_reach]
  refine ⟨hcrash, fun _ => ?_⟩
  rw [wp_bind, wp_modify]
  have hexecuted := hfills leg side
  cases hresult : (tick.place leg side qty).result with
  | ok order =>
      rw [hresult] at hexecuted
      unfold ArbWorld.execute
      rw [hexecuted]
      exact hok order _ hresult
  | error e =>
      rw [hresult] at hexecuted
      have hnone : w.execute tick leg side qty = w := by
        unfold ArbWorld.execute Tick.fills
        rw [hexecuted]
        cases leg with
        | perp => simp [ArbWorld.trade]
        | spot => simp [ArbWorld.trade]
      rw [hnone]
      exact herror e hresult

theorem ArbWorld.At.trade_perp (h : w.At record book perp spot) (amount : Decimal)
    (fills : List ArbFill) :
    ({ w.trade .perp amount with fills := fills } : ArbWorld).At record book (perp + amount) spot :=
  ⟨h.stored, h.book_eq, congrArg (· + amount) h.perp_eq, h.spot_eq⟩

theorem ArbWorld.At.trade_spot (h : w.At record book perp spot) (amount : Decimal)
    (fills : List ArbFill) :
    ({ w.trade .spot amount with fills := fills } : ArbWorld).At record book perp (spot + amount) :=
  ⟨h.stored, h.book_eq, h.perp_eq, congrArg (· + amount) h.spot_eq⟩

end Rules

end CryptoTrader.Arb
