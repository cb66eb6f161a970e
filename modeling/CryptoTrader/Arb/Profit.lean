import CryptoTrader.Arb.Runs

/-!
# The profit of an arb against its cash

What a closed arb realized is booked from the mark read before the spot is sold, from the
prices the orders reported, and without a fee; a rollback books nothing.  It is the cash
exchanged in runs whose fills are free, are reported, and are at that mark.
-/

namespace CryptoTrader.Arb

open CryptoTrader.Lib

/-! ## Cash -/

/-- What a fill brings in. -/
def ArbFill.cash (fill : ArbFill) : Decimal :=
  -(fill.side.sign * fill.quantity * fill.terms.price) - fill.terms.fee

/-- The cash exchanged for an arb. -/
def cashOf (fills : List ArbFill) (arbId : String) : Decimal :=
  ((fills.filter (fun fill => fill.arbId = arbId)).map ArbFill.cash).sum

/-- The price at which the perp of an arb was bought back. -/
def buyBack? (fills : List ArbFill) (arbId : String) : Option Decimal :=
  ((fills.filter (fun fill => fill.arbId = arbId ∧ fill.leg = .perp ∧
    fill.side = .long)).getLast?).map (fun fill => fill.terms.price)

section Cash

variable {fills : List ArbFill} {fill : ArbFill} {arbId : String}

theorem cashOf_append (h : fill.arbId = arbId) :
    cashOf (fills ++ [fill]) arbId = cashOf fills arbId + fill.cash := by
  simp [cashOf, List.filter_append, h]

theorem cashOf_append_of_ne (h : fill.arbId ≠ arbId) :
    cashOf (fills ++ [fill]) arbId = cashOf fills arbId := by
  simp [cashOf, List.filter_append, h]

theorem cashOf_eq_zero (h : ∀ fill ∈ fills, fill.arbId ≠ arbId) : cashOf fills arbId = 0 := by
  have hnone : fills.filter (fun fill => fill.arbId = arbId) = [] :=
    List.filter_eq_nil_iff.mpr (fun fill hfill => by simpa using h fill hfill)
  simp [cashOf, hnone]

theorem buyBack?_append (h : fill.arbId = arbId) (hleg : fill.leg = .perp)
    (hside : fill.side = .long) : buyBack? (fills ++ [fill]) arbId = some fill.terms.price := by
  simp [buyBack?, List.filter_append, h, hleg, hside]

end Cash

/-- The closed rows are right: each realized its funding and the cash exchanged for it. -/
def ArbWorld.Booked (w : ArbWorld) : Prop :=
  ∀ id arb, w.rows.get? id = some arb → arb.state = .closed →
    arb.realizedPnl = arb.accruedFunding + cashOf w.fills id

/-- What a record says about the cash exchanged so far. -/
structure ArbPosition.Costed (arb : ArbPosition) (fills : List ArbFill) : Prop where
  sized : arb.Sized
  free : arb.entryFees = 0
  spent : match arb.state with
    | .perpOnly => arb.spotEntryPrice = 0 ∧ arb.accruedFunding = 0 ∧
        cashOf fills arb.arbId = arb.perpEntryPrice * arb.perpQty
    | .hedged | .unwindingPerp =>
        cashOf fills arb.arbId = (arb.perpEntryPrice - arb.spotEntryPrice) * arb.perpQty
    | .unwindingSpot => ∃ price, buyBack? fills arb.arbId = some price ∧
        cashOf fills arb.arbId = (arb.perpEntryPrice - arb.spotEntryPrice - price) * arb.perpQty
    | .placingPerp | .closed => False

/-- A record is costed, if there is one. -/
def RecordCosted (record : Option ArbPosition) (fills : List ArbFill) : Prop :=
  ∀ arb, record = some arb → arb.Costed fills

theorem ArbPosition.Costed.record {arb : ArbPosition} {fills : List ArbFill}
    (h : arb.Costed fills) : RecordCosted (some arb) fills := by
  intro o ho
  rw [← Option.some.inj ho]
  exact h

/-- The rows and the record in memory agree with each other and with the cash. -/
structure ArbWorld.Square (w : ArbWorld) : Prop where
  stored : Stored w.rows w.book
  booked : w.Booked
  costed : RecordCosted w.book w.fills

/-- A restarted manager would agree with the cash. -/
def ArbWorld.Squarable (w : ArbWorld) : Prop :=
  ∃ record, Stored w.rows record ∧ w.Booked ∧ RecordCosted record w.fills

theorem ArbWorld.Squarable.restart {w : ArbWorld} (h : w.Squarable) : w.restart.Square := by
  obtain ⟨record, hstored, hbooked, hcosted⟩ := h
  have hload := hstored.loadOpen_eq
  refine ⟨?_, hbooked, ?_⟩
  · show Stored w.rows (loadOpen w.rows)
    rw [hload]
    exact hstored
  · show RecordCosted (loadOpen w.rows) w.fills
    rw [hload]
    exact hcosted

/-! ## Following a tick -/

/-- The stored record, the one in memory, and the fills. -/
structure ArbWorld.Has (w : ArbWorld) (record book : Option ArbPosition) (fills : List ArbFill) :
    Prop where
  stored : Stored w.rows record
  book_eq : w.book = book
  fills_eq : w.fills = fills
  booked : w.Booked

/-- How a tick may end early: square, or killed, and squarable if the place was safe. -/
def Tick.LandsSquare (tick : Tick) : Stop → ArbWorld → Prop
  | .raised _, w => w.Square
  | .crashed, w => ∃ place, tick.crashAt = some place ∧ (place.Safe → w.Squarable)

section Rules

variable {tick : Tick} {w : ArbWorld} {record book : Option ArbPosition} {fills : List ArbFill}
  {arb : ArbPosition} {E : Stop → ArbWorld → Prop}

theorem Tick.landsSquare_crashed {place : Place} (hcrash : tick.crashAt = some place)
    (h : place.Safe → w.Squarable) : tick.LandsSquare .crashed w :=
  ⟨place, hcrash, h⟩

theorem ArbWorld.Square.has (h : w.Square) : w.Has w.book w.book w.fills :=
  ⟨h.stored, rfl, rfl, h.booked⟩

theorem ArbWorld.Has.square (h : w.Has record record fills) (hcosted : RecordCosted record fills) :
    w.Square := by
  refine ⟨?_, h.booked, ?_⟩
  · rw [h.book_eq]
    exact h.stored
  · rw [h.book_eq, h.fills_eq]
    exact hcosted

theorem ArbWorld.Has.squarable (h : w.Has record book fills) (hcosted : RecordCosted record fills) :
    w.Squarable := by
  refine ⟨record, h.stored, h.booked, ?_⟩
  rw [h.fills_eq]
  exact hcosted

/-- The row of the record is not closed. -/
theorem ArbWorld.Has.open_row (h : w.Has (some arb) book fills) {row : ArbPosition}
    (hrow : w.rows.get? arb.arbId = some row) : row.state ≠ .closed := by
  have hlive := h.stored.live arb rfl
  have hown := (h.stored.rows arb.arbId arb hlive).mpr ⟨rfl, rfl⟩
  obtain rfl := Option.some.inj (hrow.symm.trans hown)
  exact hlive

/-- Orders are for the arb in memory. -/
theorem ArbWorld.Has.arbId_eq (h : w.Has record (some arb) fills) : w.arbId tick = arb.arbId := by
  unfold ArbWorld.arbId
  rw [h.book_eq]

/-- A snapshot of what is not closed, or of what is closed with its cash. -/
theorem ArbWorld.Has.set_booked (h : w.Has record book fills)
    (hclosed : arb.state = .closed →
      arb.realizedPnl = arb.accruedFunding + cashOf fills arb.arbId) :
    ({ w with rows := w.rows.set arb.arbId arb } : ArbWorld).Booked := by
  intro id row hrow hstate
  rw [Dict.get?_set] at hrow
  by_cases hid : arb.arbId = id
  · rw [if_pos hid] at hrow
    obtain rfl := Option.some.inj hrow
    rw [← hid]
    show arb.realizedPnl = arb.accruedFunding + cashOf w.fills arb.arbId
    rw [h.fills_eq]
    exact hclosed hstate
  · rw [if_neg hid] at hrow
    exact h.booked id row hrow hstate

/-- The event and the snapshot of a book operation that has set the record in memory. -/
theorem wp_write_square {Q : Unit → ArbWorld → Prop} (place : Write → Place) (eventType : String)
    (h : w.Has record book fills) (hid : ∀ old, record = some old → old.arbId = arb.arbId)
    (hclosed : arb.state = .closed →
      arb.realizedPnl = arb.accruedFunding + cashOf fills arb.arbId)
    (hcrash : ∀ write w', tick.crashAt = some (place write) → w'.Has record book fills →
      E .crashed w')
    (hdone : ∀ w', w'.Has arb.open? book fills → Q () w') :
    wp (do emit tick place eventType; snapshot tick place arb) Q E w := by
  rw [wp_bind]
  unfold emit
  rw [wp_bind, wp_reach]
  refine ⟨fun hcrashed => hcrash _ _ hcrashed h, fun _ => ?_⟩
  rw [wp_modify]
  have h' : ({ w with events := w.events ++ [eventType] } : ArbWorld).Has record book fills :=
    ⟨h.stored, h.book_eq, h.fills_eq, h.booked⟩
  unfold snapshot
  rw [wp_bind, wp_reach]
  refine ⟨fun hcrashed => hcrash _ _ hcrashed h', fun _ => ?_⟩
  rw [wp_modify]
  exact hdone _ ⟨h.stored.set hid, h.book_eq, h.fills_eq, h'.set_booked hclosed⟩

theorem wp_update_square {Q : Unit → ArbWorld → Prop} (place : Write → Place) (eventType : String)
    (h : w.Has record book fills) (hid : ∀ old, record = some old → old.arbId = arb.arbId)
    (hclosed : arb.state = .closed →
      arb.realizedPnl = arb.accruedFunding + cashOf fills arb.arbId)
    (hcrash : ∀ write w', tick.crashAt = some (place write) → w'.Has record arb.open? fills →
      E .crashed w')
    (hdone : ∀ w', w'.Has arb.open? arb.open? fills → Q () w') :
    wp (update tick place arb eventType) Q E w := by
  unfold update
  rw [wp_bind, wp_modify]
  exact wp_write_square place eventType ⟨h.stored, rfl, h.fills_eq, h.booked⟩ hid hclosed hcrash
    hdone

theorem wp_openRecord_square {Q : Unit → ArbWorld → Prop} (place : Write → Place)
    (h : w.Has record book fills) (hlive : arb.state ≠ .closed)
    (hid : ∀ old, record = some old → old.arbId = arb.arbId)
    (hcrash : ∀ write w', tick.crashAt = some (place write) → w'.Has record (some arb) fills →
      E .crashed w')
    (hdone : ∀ w', w'.Has (some arb) (some arb) fills → Q () w') :
    wp (openRecord tick place arb) Q E w := by
  unfold openRecord
  rw [wp_bind, wp_modify]
  refine wp_write_square place _ ⟨h.stored, rfl, h.fills_eq, h.booked⟩ hid
    (fun hclosed => absurd hclosed hlive) hcrash (fun w' hw' => ?_)
  rw [ArbPosition.open?_of_ne hlive] at hw'
  exact hdone w' hw'

/-- A close books what is realized, which has to be the cash and the funding. -/
theorem wp_close_square {Q : Unit → ArbWorld → Prop} (place : Write → Place) (reason : String)
    (realizedPnl : Decimal) (h : w.Has record book fills)
    (hid : ∀ old, record = some old → old.arbId = arb.arbId)
    (hrealized : realizedPnl = arb.accruedFunding + cashOf fills arb.arbId)
    (hcrash : ∀ write w', tick.crashAt = some (place write) → w'.Has record none fills →
      E .crashed w')
    (hdone : ∀ w', w'.Has none none fills → Q () w') :
    wp (close tick place arb reason realizedPnl) Q E w := by
  unfold close
  rw [wp_bind, wp_modify]
  exact wp_write_square place _ ⟨h.stored, rfl, h.fills_eq, h.booked⟩ hid (fun _ => hrealized)
    hcrash hdone

/-- An order of a positive quantity that returns has been filled on its terms, for an arb
that is not closed; one that raises leaves all as it is. -/
theorem wp_placeOrder_square {Q : ArbOrder → ArbWorld → Prop} {qty : Decimal} (id : String)
    (hfills : tick.FillsExactly qty) (hpos : 0 < qty) (place : Place) (leg : Leg)
    (side : PositionSide) (h : w.Has record book fills) (hid : w.arbId tick = id)
    (hopen : ∀ row, w.rows.get? id = some row → row.state ≠ .closed)
    (hcrash : tick.crashAt = some place → E .crashed w)
    (hok : ∀ order w', (tick.place leg side qty).result = .ok order →
      w'.Has record book (fills ++ [⟨id, leg, side, qty, tick.terms leg side qty⟩]) → Q order w')
    (herror : ∀ e, (tick.place leg side qty).result = .error e → E (.raised e) w) :
    wp (placeOrder tick place leg side qty) Q E w := by
  unfold placeOrder
  rw [wp_bind, wp_reach]
  refine ⟨hcrash, fun _ => ?_⟩
  rw [wp_bind, wp_modify]
  have hexecuted := hfills leg side
  cases hresult : (tick.place leg side qty).result with
  | ok order =>
      rw [hresult] at hexecuted
      have hfill : tick.fills (w.arbId tick) leg side qty =
          [⟨id, leg, side, qty, tick.terms leg side qty⟩] := by
        unfold Tick.fills
        rw [hexecuted, if_neg hpos.ne', hid]
      refine hok order _ hresult ⟨?_, ?_, ?_, ?_⟩
      · cases leg <;> exact h.stored
      · cases leg <;> exact h.book_eq
      · show w.fills ++ _ = _
        rw [hfill, h.fills_eq]
      · intro id' row hrow hstate
        have hrow' : w.rows.get? id' = some row := by cases leg <;> exact hrow
        have hne : id ≠ id' := fun heq => hopen row (by rw [heq, hrow']) hstate
        show row.realizedPnl = row.accruedFunding + cashOf (w.fills ++ _) id'
        rw [hfill, cashOf_append_of_ne hne]
        exact h.booked id' row hrow' hstate
  | error e =>
      rw [hresult] at hexecuted
      have hnone : w.execute tick leg side qty = w := by
        unfold ArbWorld.execute Tick.fills
        rw [hexecuted]
        cases leg <;> simp [ArbWorld.trade]
      rw [hnone]
      exact herror e hresult

end Rules

/-! ## Terms under which the book is right -/

/-- Orders of a quantity are free of fees, and report the prices they are filled at; a sale
of the spot may report none, if it is filled at the exit mark. -/
structure Tick.Reports (tick : Tick) (qty : Decimal) : Prop where
  free : ∀ leg side, (tick.terms leg side qty).fee = 0
  perp : ∀ order, (tick.place .perp .short qty).result = .ok order →
    order.avgFillPrice = (tick.terms .perp .short qty).price
  spot : ∀ order, (tick.place .spot .long qty).result = .ok order →
    order.avgFillPrice = (tick.terms .spot .long qty).price
  sale : ∀ order mark, (tick.place .spot .short qty).result = .ok order →
    tick.exitMark = .ok mark →
    (if order.avgFillPrice = 0 then mark else order.avgFillPrice) =
      (tick.terms .spot .short qty).price

/-- A sale of the spot comes at a mark that is the price at which the perp was bought back. -/
def Tick.SellsAt (tick : Tick) (qty : Decimal) (boughtBack : Option Decimal) : Prop :=
  ∀ order mark, (tick.place .spot .short qty).result = .ok order → tick.exitMark = .ok mark →
    boughtBack = some mark

/-- A spot leg that fails is rolled back at the price of the perp's entry. -/
def Tick.RollsBackAt (tick : Tick) (qty entryPrice : Decimal) : Prop :=
  ∀ e order, (tick.place .spot .long qty).result = .error e →
    (tick.place .perp .long qty).result = .ok order →
    (tick.terms .perp .long qty).price = entryPrice

/-- The price of the buy-back, made before this tick or to be made in it. -/
def ArbWorld.boughtBack (w : ArbWorld) (tick : Tick) (arb : ArbPosition) : Option Decimal :=
  if arb.state = .unwindingSpot then buyBack? w.fills arb.arbId
  else some (tick.terms .perp .long arb.perpQty).price

/-- An id that no arb has had. -/
def ArbWorld.Unused (w : ArbWorld) (arbId : String) : Prop :=
  w.rows.get? arbId = none ∧ ∀ fill ∈ w.fills, fill.arbId ≠ arbId

/-- The terms of a tick, for the quantity it may trade. -/
def ArbWorld.PricedTick (cfg : ArbConfig) (w : ArbWorld) (tick : Tick) : Prop :=
  match w.book with
  | none => w.Unused tick.arbId ∧ ∀ mark, tick.sizeMark = .ok mark →
      tick.Reports (sizeLegs cfg mark) ∧
        tick.RollsBackAt (sizeLegs cfg mark) (tick.terms .perp .short (sizeLegs cfg mark)).price
  | some arb => tick.Reports arb.perpQty ∧ tick.SellsAt arb.perpQty (w.boughtBack tick arb) ∧
      (arb.state = .perpOnly → tick.RollsBackAt arb.perpQty arb.perpEntryPrice)

section Functions

variable {cfg : ArbConfig} {tick : Tick} {w : ArbWorld} {arb : ArbPosition}
  {book : Option ArbPosition} {fills : List ArbFill}

/-- A rollback at the entry price ends where it began. -/
theorem rollbackPerp_squares (hfills : tick.FillsExactly arb.perpQty)
    (hreports : tick.Reports arb.perpQty) (hcosted : arb.Costed fills)
    (hstate : arb.state = .perpOnly)
    (heven : ∀ order, (tick.place .perp .long arb.perpQty).result = .ok order →
      (tick.terms .perp .long arb.perpQty).price = arb.perpEntryPrice)
    (h : w.Has (some arb) book fills) :
    wp (rollbackPerp tick arb) (fun _ w' => w'.Square) tick.LandsSquare w := by
  have hids : ∀ o, some arb = some o → o.arbId = arb.arbId := by
    intro o ho
    rw [← Option.some.inj ho]
  have hspent := hcosted.spent
  rw [hstate] at hspent
  obtain ⟨hspot, hfunding, hcash⟩ := hspent
  unfold rollbackPerp
  rw [wp_bind]
  refine wp_update_square _ _ h hids (by simp) ?_ ?_
  · intro write w₁ hcrash h₁
    exact Tick.landsSquare_crashed hcrash (fun _ => h₁.squarable hcosted.record)
  · intro w₁ h₁
    have hunwinding : RecordCosted ({ arb with state := .unwindingPerp } : ArbPosition).open? fills := by
      intro o ho
      obtain rfl := Option.some.inj ho
      refine ⟨hcosted.sized, hcosted.free, ?_⟩
      show cashOf fills arb.arbId = (arb.perpEntryPrice - arb.spotEntryPrice) * arb.perpQty
      rw [hcash, hspot, sub_zero]
    rw [wp_bind, wp_catching, wp_bind]
    refine wp_placeOrder_square arb.arbId hfills hcosted.sized.1 _ _ _ h₁ h₁.arbId_eq
      (fun row hrow => h₁.open_row hrow) ?_ ?_ ?_
    · intro hcrash
      exact Tick.landsSquare_crashed hcrash (fun _ => h₁.squarable hunwinding)
    · intro order w₂ hbought h₂
      rw [wp_pure, if_pos rfl, wp_bind]
      refine wp_update_square _ _ h₂ (fun o ho => by rw [← Option.some.inj ho]) (by simp) ?_ ?_
      · intro write w₃ hcrash _
        exact Tick.landsSquare_crashed hcrash (fun hsafe => hsafe.elim)
      · intro w₃ h₃
        refine wp_close_square _ _ _ h₃ (fun o ho => by rw [← Option.some.inj ho]) ?_ ?_ ?_
        · rw [cashOf_append rfl, hcash]
          simp only [ArbFill.cash, PositionSide.sign, hfunding, hreports.free, heven order hbought]
          ring
        · intro write w₄ hcrash _
          exact Tick.landsSquare_crashed hcrash (fun hsafe => hsafe.elim)
        · intro w₄ h₄
          exact h₄.square (fun o ho => by cases ho)
    · intro e _
      have h₂ : ({ w₁ with halt := true } : ArbWorld).Has _ _ fills :=
        ⟨h₁.stored, h₁.book_eq, h₁.fills_eq, h₁.booked⟩
      exact h₂.square hunwinding

/-- A spot leg that is bought hedges the short, at what it cost. -/
theorem ArbPosition.Costed.hedge (h : arb.Costed fills) (hstate : arb.state = .perpOnly)
    (hreports : tick.Reports arb.perpQty) {order : ArbOrder}
    (hbought : (tick.place .spot .long arb.perpQty).result = .ok order) :
    RecordCosted (some { arb with
        spotEntryPrice := order.avgFillPrice
        spotOrderId := order.id
        state := .hedged })
      (fills ++ [⟨arb.arbId, .spot, .long, arb.perpQty, tick.terms .spot .long arb.perpQty⟩]) := by
  have hspent := h.spent
  rw [hstate] at hspent
  obtain ⟨-, -, hcash⟩ := hspent
  refine ArbPosition.Costed.record ⟨h.sized, h.free, ?_⟩
  show cashOf _ arb.arbId = (arb.perpEntryPrice - order.avgFillPrice) * arb.perpQty
  rw [cashOf_append rfl, hcash, hreports.spot order hbought]
  simp only [ArbFill.cash, PositionSide.sign, hreports.free]
  ring

/-- The spot leg of an entry, with the short on record. -/
theorem enterSpot_squares (hfills : tick.FillsExactly arb.perpQty)
    (hreports : tick.Reports arb.perpQty) (hcosted : arb.Costed fills)
    (hstate : arb.state = .perpOnly) (heven : tick.RollsBackAt arb.perpQty arb.perpEntryPrice)
    (h : w.Has (some arb) (some arb) fills) :
    wp (enterSpot tick arb) (fun _ w' => w'.Square) tick.LandsSquare w := by
  have hsame := hcosted.sized.2
  unfold enterSpot
  rw [wp_bind, wp_catching, wp_bind, hsame]
  refine wp_placeOrder_square arb.arbId hfills hcosted.sized.1 _ _ _ h h.arbId_eq
    (fun row hrow => h.open_row hrow) ?_ ?_ ?_
  · intro hcrash
    exact Tick.landsSquare_crashed hcrash (fun _ => h.squarable hcosted.record)
  · intro order w₁ hbought h₁
    rw [wp_pure]
    refine wp_update_square _ _ h₁ (fun o ho => by rw [← Option.some.inj ho]) (by simp) ?_ ?_
    · intro write w₂ hcrash _
      exact Tick.landsSquare_crashed hcrash (fun hsafe => hsafe.elim)
    · intro w₂ h₂
      have hhedged := hcosted.hedge hstate hreports hbought
      rw [hsame] at hhedged
      exact h₂.square hhedged
  · intro e hfailed
    exact rollbackPerp_squares hfills hreports hcosted hstate
      (fun order hbought => heven e order hfailed hbought) h

/-- The perp leg of an entry, from flat. -/
theorem enter_squares (hfills : tick.FillsExactly arb.perpQty)
    (hreports : tick.Reports arb.perpQty) (hsized : arb.Sized) (hid : arb.arbId = tick.arbId)
    (hfresh : arb.entryFees = 0 ∧ arb.spotEntryPrice = 0 ∧ arb.accruedFunding = 0 ∧
      arb.realizedPnl = 0)
    (heven : tick.RollsBackAt arb.perpQty (tick.terms .perp .short arb.perpQty).price)
    (hunused : w.Unused tick.arbId) (h : w.Has none none fills) :
    wp (enter tick arb) (fun _ w' => w'.Square) tick.LandsSquare w := by
  obtain ⟨hfree, hspot, hfunding, hrealized⟩ := hfresh
  have hids : ∀ (arb o : ArbPosition), (none : Option ArbPosition) = some o → o.arbId = arb.arbId := by
    intro arb o ho
    cases ho
  have hnone : RecordCosted none fills := fun o ho => by cases ho
  have hempty : cashOf fills arb.arbId = 0 := by
    rw [hid, ← h.fills_eq]
    exact cashOf_eq_zero hunused.2
  have hown : w.arbId tick = arb.arbId := by
    unfold ArbWorld.arbId
    rw [h.book_eq, hid]
  unfold enter
  rw [wp_bind, wp_catching, wp_bind]
  refine wp_placeOrder_square arb.arbId hfills hsized.1 _ _ _ h hown ?_ ?_ ?_ ?_
  · intro row hrow
    rw [hid, hunused.1] at hrow
    cases hrow
  · intro hcrash
    exact Tick.landsSquare_crashed hcrash (fun _ => h.squarable hnone)
  · intro order w₁ hshorted h₁
    rw [wp_pure]
    dsimp only
    rw [wp_bind]
    refine wp_openRecord_square _ h₁ (by simp) (hids _) ?_ ?_
    · intro write w₂ hcrash _
      exact Tick.landsSquare_crashed hcrash (fun hsafe => hsafe.elim)
    · intro w₂ h₂
      have hcosted : ArbPosition.Costed
          { arb with
            perpEntryPrice := order.avgFillPrice
            perpOrderId := order.id
            state := .perpOnly }
          (fills ++ [⟨arb.arbId, .perp, .short, arb.perpQty,
            tick.terms .perp .short arb.perpQty⟩]) := by
        refine ⟨hsized, hfree, hspot, hfunding, ?_⟩
        show cashOf _ arb.arbId = order.avgFillPrice * arb.perpQty
        rw [cashOf_append rfl, hempty, hreports.perp order hshorted]
        simp only [ArbFill.cash, PositionSide.sign, hreports.free]
        ring
      rw [wp_bind]
      refine wp_update_square _ _ h₂ (fun o ho => by rw [← Option.some.inj ho]) (by simp) ?_ ?_
      · intro write w₃ hcrash h₃
        exact Tick.landsSquare_crashed hcrash (fun _ => h₃.squarable hcosted.record)
      · intro w₃ h₃
        refine enterSpot_squares hfills hreports hcosted rfl ?_ h₃
        show tick.RollsBackAt arb.perpQty order.avgFillPrice
        rw [hreports.perp order hshorted]
        exact heven
  · intro e _
    rw [wp_pure]
    refine wp_update_square _ _ h (hids _) ?_ ?_ ?_
    · intro _
      show arb.realizedPnl = arb.accruedFunding + cashOf fills arb.arbId
      rw [hrealized, hfunding, hempty, add_zero]
    · intro write w₁ hcrash h₁
      exact Tick.landsSquare_crashed hcrash (fun _ => h₁.squarable hnone)
    · intro w₁ h₁
      exact h₁.square hnone

theorem maybeEnter_squares
    (hfills : ∀ mark, tick.sizeMark = .ok mark → tick.FillsExactly (sizeLegs cfg mark))
    (hterms : ∀ mark, tick.sizeMark = .ok mark → tick.Reports (sizeLegs cfg mark) ∧
      tick.RollsBackAt (sizeLegs cfg mark) (tick.terms .perp .short (sizeLegs cfg mark)).price)
    (hunused : w.Unused tick.arbId) (h : w.Has none none fills) :
    wp (maybeEnter cfg tick) (fun _ w' => w'.Square) tick.LandsSquare w := by
  have hsquare : w.Square := h.square (fun o ho => by cases ho)
  unfold maybeEnter
  rw [wp_bind]
  refine wp_read _ (fun fr _ => ?_) (fun _ _ => hsquare)
  rw [wp_bind]
  refine wp_basis (fun basis => ?_) (fun _ => hsquare)
  rw [wp_ite]
  refine ⟨fun _ => ?_, fun _ => hsquare⟩
  rw [wp_bind]
  refine wp_read _ (fun mark hmark => ?_) (fun _ _ => hsquare)
  rw [wp_ite]
  refine ⟨fun _ => hsquare, fun hqty => ?_⟩
  obtain ⟨hreports, heven⟩ := hterms mark hmark
  exact enter_squares (hfills mark hmark) hreports ⟨not_le.mp hqty, rfl⟩ rfl
    ⟨rfl, rfl, rfl, rfl⟩ heven hunused h

/-! ### Unwinding -/

/-- Selling the spot at the mark of the buy-back books the cash. -/
theorem unwindSpot_squares (hfills : tick.FillsExactly arb.perpQty)
    (hreports : tick.Reports arb.perpQty) (hcosted : arb.Costed fills)
    (hstate : arb.state = .unwindingSpot)
    (hsells : tick.SellsAt arb.perpQty (buyBack? fills arb.arbId))
    (h : w.Has (some arb) (some arb) fills) (reason : String) :
    wp (unwindSpot tick arb reason) (fun _ w' => w'.Square) tick.LandsSquare w := by
  have hsame := hcosted.sized.2
  have hspent := hcosted.spent
  rw [hstate] at hspent
  obtain ⟨price, hprice, hcash⟩ := hspent
  have hrecord := hcosted.record
  unfold unwindSpot
  rw [wp_bind]
  refine wp_read _ (fun perpExit hmark => ?_) (fun _ _ => h.square hrecord)
  rw [wp_bind, wp_catching, wp_bind, hsame]
  refine wp_placeOrder_square arb.arbId hfills hcosted.sized.1 _ _ _ h h.arbId_eq
    (fun row hrow => h.open_row hrow) ?_ ?_ ?_
  · intro hcrash
    exact Tick.landsSquare_crashed hcrash (fun _ => h.squarable hrecord)
  · intro order w₁ hsold h₁
    rw [wp_pure]
    dsimp only
    obtain rfl : price = perpExit := Option.some.inj (hprice.symm.trans (hsells order _ hsold hmark))
    refine wp_close_square _ _ _ h₁ (fun o ho => by rw [← Option.some.inj ho]) ?_ ?_ ?_
    · rw [cashOf_append rfl, hcash, hreports.sale order price hsold hmark, hcosted.free]
      simp only [ArbFill.cash, PositionSide.sign, hreports.free]
      ring
    · intro write w₂ hcrash _
      exact Tick.landsSquare_crashed hcrash (fun hsafe => hsafe.elim)
    · intro w₂ h₂
      exact h₂.square (fun o ho => by cases ho)
  · intro e _
    exact h.square hrecord

theorem unwind_squares (hfills : tick.FillsExactly arb.perpQty)
    (hreports : tick.Reports arb.perpQty) (hcosted : arb.Costed fills)
    (hstate : arb.state ≠ .perpOnly)
    (hsells : tick.SellsAt arb.perpQty
      (if arb.state = .unwindingSpot then buyBack? fills arb.arbId
        else some (tick.terms .perp .long arb.perpQty).price))
    (h : w.Has (some arb) (some arb) fills) (reason : String) :
    wp (unwind tick arb reason) (fun _ w' => w'.Square) tick.LandsSquare w := by
  unfold unwind
  rw [wp_ite]
  constructor
  · intro hperp
    have hcash : cashOf fills arb.arbId =
        (arb.perpEntryPrice - arb.spotEntryPrice) * arb.perpQty := by
      have hspent := hcosted.spent
      rcases hperp with hs | hs
      · rwa [hs] at hspent
      · rwa [hs] at hspent
    have hnot : arb.state ≠ .unwindingSpot := by
      rcases hperp with hs | hs <;> simp [hs]
    rw [if_neg hnot] at hsells
    have hrecord := hcosted.record
    have hunwinding : RecordCosted ({ arb with state := .unwindingPerp } : ArbPosition).open? fills := by
      intro o ho
      obtain rfl := Option.some.inj ho
      exact ⟨hcosted.sized, hcosted.free, hcash⟩
    rw [wp_bind]
    refine wp_update_square _ _ h (fun o ho => by rw [← Option.some.inj ho]) (by simp) ?_ ?_
    · intro write w₁ hcrash h₁
      exact Tick.landsSquare_crashed hcrash (fun _ => h₁.squarable hrecord)
    · intro w₁ h₁
      rw [wp_bind, wp_catching, wp_bind]
      refine wp_placeOrder_square arb.arbId hfills hcosted.sized.1 _ _ _ h₁ h₁.arbId_eq
        (fun row hrow => h₁.open_row hrow) ?_ ?_ ?_
      · intro hcrash
        exact Tick.landsSquare_crashed hcrash (fun _ => h₁.squarable hunwinding)
      · intro order w₂ _ h₂
        rw [wp_pure, if_pos rfl, wp_bind]
        refine wp_update_square _ _ h₂ (fun o ho => by rw [← Option.some.inj ho]) (by simp) ?_ ?_
        · intro write w₃ hcrash _
          exact Tick.landsSquare_crashed hcrash (fun hsafe => hsafe.elim)
        · intro w₃ h₃
          have hbought : buyBack? (fills ++ [⟨arb.arbId, .perp, .long, arb.perpQty,
              tick.terms .perp .long arb.perpQty⟩]) arb.arbId =
                some (tick.terms .perp .long arb.perpQty).price := buyBack?_append rfl rfl rfl
          have hdone : ArbPosition.Costed { arb with state := .unwindingSpot }
              (fills ++ [⟨arb.arbId, .perp, .long, arb.perpQty,
                tick.terms .perp .long arb.perpQty⟩]) := by
            refine ⟨hcosted.sized, hcosted.free, _, hbought, ?_⟩
            rw [cashOf_append rfl, hcash]
            simp only [ArbFill.cash, PositionSide.sign, hreports.free]
            ring
          rw [← hbought] at hsells
          exact @unwindSpot_squares tick w₃ { arb with state := .unwindingSpot } _ hfills hreports
            hdone rfl hsells h₃ reason
      · intro e _
        have h₂ : ({ w₁ with halt := true } : ArbWorld).Has _ _ fills :=
          ⟨h₁.stored, h₁.book_eq, h₁.fills_eq, h₁.booked⟩
        exact h₂.square hunwinding
  · intro hother
    push Not at hother
    have hspent := hcosted.spent
    have hspot : arb.state = .unwindingSpot := by
      cases hs : arb.state with
      | perpOnly => exact absurd hs hstate
      | hedged => exact absurd hs hother.1
      | unwindingPerp => exact absurd hs hother.2
      | unwindingSpot => rfl
      | placingPerp | closed =>
          rw [hs] at hspent
          exact hspent.elim
    rw [if_pos hspot] at hsells
    exact unwindSpot_squares hfills hreports hcosted hspot hsells h reason

/-- Funding is booked on a record that stays what it is. -/
theorem maybeApplyFunding_costed (hcosted : arb.Costed fills) (hstate : arb.state = .hedged)
    (h : w.Has (some arb) (some arb) fills) (fr : Decimal) :
    wp (maybeApplyFunding cfg tick arb fr)
      (fun a w' => a.state = .hedged ∧ a.perpQty = arb.perpQty ∧ a.arbId = arb.arbId ∧
        a.Costed fills ∧ w'.Has (some a) (some a) fills) tick.LandsSquare w := by
  have hrecord := hcosted.record
  unfold maybeApplyFunding
  rw [wp_ite]
  refine ⟨fun _ => ⟨hstate, rfl, rfl, hcosted, h⟩, fun _ => ?_⟩
  rw [wp_bind]
  refine wp_read _ (fun mark _ => ?_) (fun _ _ => h.square hrecord)
  unfold recordFunding
  dsimp only
  rw [wp_bind]
  refine wp_update_square _ _ h (fun o ho => by rw [← Option.some.inj ho]) (by simp [hstate]) ?_ ?_
  · intro write w₁ hcrash h₁
    exact Tick.landsSquare_crashed hcrash (fun _ => h₁.squarable hrecord)
  · intro w₁ h₁
    rw [ArbPosition.open?_of_ne (by simp [hstate])] at h₁
    have hspent := hcosted.spent
    rw [hstate] at hspent
    refine ⟨hstate, rfl, rfl, ⟨hcosted.sized, hcosted.free, ?_⟩, h₁⟩
    simp only [hstate]
    exact hspent

theorem manage_squares (hfills : tick.FillsExactly arb.perpQty)
    (hreports : tick.Reports arb.perpQty) (hcosted : arb.Costed fills)
    (hstate : arb.state = .hedged)
    (hsells : tick.SellsAt arb.perpQty (some (tick.terms .perp .long arb.perpQty).price))
    (h : w.Has (some arb) (some arb) fills) :
    wp (manage cfg tick arb) (fun _ w' => w'.Square) tick.LandsSquare w := by
  have hsquare : w.Square := h.square hcosted.record
  unfold manage
  rw [wp_bind]
  refine wp_read _ (fun fr _ => ?_) (fun _ _ => hsquare)
  rw [wp_bind]
  refine wp_mono (maybeApplyFunding_costed hcosted hstate h fr) ?_ (fun _ _ h => h)
  rintro a w₁ ⟨hhedged, hqty, hid, hcosted₁, h₁⟩
  have hsquare₁ : w₁.Square := h₁.square hcosted₁.record
  rw [← hqty] at hfills hreports hsells
  rw [wp_bind]
  refine wp_evaluateExit fr (fun reason => ?_) (fun _ => hsquare₁)
  cases reason with
  | none => exact hsquare₁
  | some reason =>
      refine unwind_squares hfills hreports hcosted₁ (by simp [hhedged]) ?_ h₁ reason
      rw [if_neg (by simp [hhedged])]
      exact hsells

/-- A record in the middle of its life is completed or unwound. -/
theorem resolve_squares (hfills : tick.FillsExactly arb.perpQty)
    (hreports : tick.Reports arb.perpQty) (hcosted : arb.Costed fills)
    (hsells : tick.SellsAt arb.perpQty
      (if arb.state = .unwindingSpot then buyBack? fills arb.arbId
        else some (tick.terms .perp .long arb.perpQty).price))
    (heven : arb.state = .perpOnly → tick.RollsBackAt arb.perpQty arb.perpEntryPrice)
    (h : w.Has (some arb) (some arb) fills) :
    wp (resolve tick arb) (fun _ w' => w'.Square) tick.LandsSquare w := by
  have hrecord := hcosted.record
  unfold resolve
  cases hstate : arb.state with
  | perpOnly =>
      dsimp only
      rw [wp_catching, wp_bind, hcosted.sized.2]
      refine wp_placeOrder_square arb.arbId hfills hcosted.sized.1 _ _ _ h h.arbId_eq
        (fun row hrow => h.open_row hrow) ?_ ?_ ?_
      · intro hcrash
        exact Tick.landsSquare_crashed hcrash (fun _ => h.squarable hrecord)
      · intro order w₁ hbought h₁
        refine wp_update_square _ _ h₁ (fun o ho => by rw [← Option.some.inj ho]) (by simp) ?_ ?_
        · intro write w₂ hcrash _
          exact Tick.landsSquare_crashed hcrash (fun hsafe => hsafe.elim)
        · intro w₂ h₂
          have hhedged := hcosted.hedge hstate hreports hbought
          rw [hcosted.sized.2] at hhedged
          exact h₂.square hhedged
      · intro e hfailed
        exact rollbackPerp_squares hfills hreports hcosted hstate
          (fun order hbought => heven hstate e order hfailed hbought) h
  | unwindingPerp | unwindingSpot =>
      exact unwind_squares hfills hreports hcosted (by simp [hstate]) hsells h _
  | hedged | closed => exact h.square hrecord
  | placingPerp =>
      have hspent := hcosted.spent
      rw [hstate] at hspent
      exact hspent.elim

/-! ## A whole tick -/

theorem onSignalTick_squares (hfills : w.FillsTick cfg tick) (hpriced : w.PricedTick cfg tick)
    (h : w.Square) :
    wp (onSignalTick cfg tick) (fun _ w' => w'.Square) tick.LandsSquare w := by
  have hhas := h.has
  have hrecord := h.costed
  unfold ArbWorld.FillsTick at hfills
  unfold ArbWorld.PricedTick at hpriced
  unfold onSignalTick
  rw [wp_ite]
  refine ⟨fun _ => h, fun henabled => ?_⟩
  rw [wp_catching, wp_bind, wp_get]
  refine wp_mono (Q := fun _ w' => w'.Square) (E := tick.LandsSquare) ?_ (fun _ _ h => h) ?_
  · cases hbook : w.book with
    | none =>
        rw [hbook] at hhas hfills hpriced
        dsimp only
        rw [wp_ite]
        exact ⟨fun _ => h, fun _ => maybeEnter_squares hfills hpriced.2 hpriced.1 hhas⟩
    | some arb =>
        rw [hbook] at hhas hfills hpriced hrecord
        dsimp only at hfills hpriced ⊢
        obtain ⟨hreports, hsells, heven⟩ := hpriced
        unfold ArbWorld.boughtBack at hsells
        have hcosted := hrecord arb rfl
        rw [wp_ite]
        constructor
        · intro _
          rw [wp_ite]
          refine ⟨fun hhedged => ?_, fun _ => h⟩
          exact unwind_squares hfills hreports hcosted (by simp [hhedged]) hsells hhas _
        · intro _
          rw [wp_ite]
          refine ⟨fun hhedged => ?_, fun _ => ?_⟩
          · rw [if_neg (by simp [hhedged])] at hsells
            exact manage_squares hfills hreports hcosted hhedged hsells hhas
          · exact resolve_squares hfills hreports hcosted hsells heven hhas
  · intro stop w' h'
    cases stop with
    | raised e => exact h'
    | crashed => exact h'

end Functions

/-! ## Runs -/

namespace ArbWorld

/-- Orders are filled in full on terms that are booked, and the process is killed, if at
all, between no executed order and its snapshot. -/
def Squares (cfg : ArbConfig) (w : ArbWorld) (a : ArbStep) : Prop :=
  w.FillsStep cfg a ∧ w.KilledSafely cfg a ∧
    match a with
    | .tick tick => w.PricedTick cfg tick
    | _ => True

section Steps

variable {cfg : ArbConfig} {w : ArbWorld}

theorem Square.step (h : w.Square) {a : ArbStep} (ha : w.Squares cfg a) : (w.step cfg a).Square := by
  obtain ⟨hfills, hkilled, hpriced⟩ := ha
  cases a with
  | tick tick =>
      have hends := onSignalTick_squares hfills hpriced h
      simp only [ArbWorld.step]
      cases hrun : onSignalTick cfg tick w with
      | ok _ w' => exact wp_ok hends hrun
      | error stop w' =>
          cases stop with
          | raised e => exact wp_error hends hrun
          | crashed =>
              obtain ⟨place, hplace, hsafe⟩ := wp_error hends hrun
              exact (hsafe (hkilled place hplace ⟨w', hrun⟩)).restart
  | setHalt halt => exact ⟨h.stored, h.booked, h.costed⟩
  | restart => exact Squarable.restart ⟨w.book, h.stored, h.booked, h.costed⟩

end Steps

theorem fresh_square : ({} : ArbWorld).Square where
  stored := fresh_settled.stored
  booked := fun _ _ h => by cases h
  costed := fun _ h => by cases h

/-- In such runs what a closed arb realized is the cash exchanged for it and its funding. -/
theorem profit_booked (cfg : ArbConfig) (w : ArbWorld) (h : Reaches (step cfg) (Squares cfg) {} w) :
    w.Booked := by
  have hsquare : w.Square := h.invariant fresh_square (fun _ _ hs ha => hs.step ha)
  exact hsquare.booked

/-! ### A round trip at one price, and one whose buy-back slips -/

/-- A tick whose perp buy-back is filled at a price, and all else at 100. -/
def pricedTick (fundingRate buyBack : Decimal) : Tick :=
  { demoTick fundingRate [] none with
    terms := fun leg side _ => ⟨if leg = .perp ∧ side = .long then buyBack else 100, 0⟩ }

/-- Enter at a high funding rate, unwind at a low one. -/
def pricedRoundTrip (buyBack : Decimal) : List ArbStep :=
  [.tick (pricedTick (5 / 10000) buyBack), .tick (pricedTick 0 buyBack)]

theorem pricedTick_fills (fundingRate buyBack : Decimal) :
    (pricedTick fundingRate buyBack).FullFills :=
  demoTick_fullFills fundingRate [] none

theorem pricedTick_reports (fundingRate qty : Decimal) :
    (pricedTick fundingRate 100).Reports qty := by
  constructor
  · intro _ _
    rfl
  · intro order horder
    obtain rfl := Except.ok.inj horder
    rfl
  · intro order horder
    obtain rfl := Except.ok.inj horder
    rfl
  · intro order mark horder _
    obtain rfl := Except.ok.inj horder
    simp [pricedTick]

/-- A record that is hedged is unwound at the mark. -/
theorem pricedTick_priced {cfg : ArbConfig} {w : ArbWorld} (fundingRate : Decimal)
    (hbook : w.book.map ArbPosition.state = some .hedged) :
    w.PricedTick cfg (pricedTick fundingRate 100) := by
  obtain ⟨arb, harb, hstate⟩ := Option.map_eq_some_iff.mp hbook
  unfold PricedTick
  rw [harb]
  refine ⟨pricedTick_reports _ _, fun order mark _ hmark => ?_, fun honly => ?_⟩
  · obtain rfl := Except.ok.inj hmark
    unfold boughtBack
    rw [if_neg (by simp [hstate])]
    simp [pricedTick]
  · rw [hstate] at honly
    cases honly

theorem pricedRoundTrip_booked :
    ((pricedRoundTrip 100).foldl (step demoArbConfig) {}).Booked := by
  refine profit_booked demoArbConfig _ (Reaches.start.foldl _ ⟨⟨?_, ?_, ?_, ?_⟩, ⟨?_, ?_, ?_⟩, trivial⟩)
  · exact fillsStep_of_fills (a := .tick _) (pricedTick_fills _ _)
  · exact killedSafely_of_uninterrupted rfl
  · exact ⟨rfl, fun fill hfill => by cases hfill⟩
  · intro mark _
    refine ⟨pricedTick_reports _ _, fun e order hfailed _ => ?_⟩
    cases hfailed
  · exact fillsStep_of_fills (a := .tick _) (pricedTick_fills _ _)
  · exact killedSafely_of_uninterrupted rfl
  · exact pricedTick_priced 0 (by decide +kernel)

/-- The perp is bought back at 101 and the mark read after it is 100. -/
theorem not_profit_booked_slipped :
    ¬ ∀ (cfg : ArbConfig) (steps : List ArbStep), (∀ a ∈ steps, a.Fills ∧ a.Uninterrupted) →
      (steps.foldl (step cfg) {}).Booked := by
  intro h
  have hsteps : ∀ a ∈ pricedRoundTrip 101, a.Fills ∧ a.Uninterrupted := by
    simp only [pricedRoundTrip, List.forall_mem_cons]
    exact ⟨⟨pricedTick_fills _ _, rfl⟩, ⟨pricedTick_fills _ _, rfl⟩, by simp⟩
  have hbooked := h demoArbConfig (pricedRoundTrip 101) hsteps
  have hrow : ((((pricedRoundTrip 101).foldl (step demoArbConfig) {}).rows.get? "arb-1").map
      (fun arb => (arb.state, arb.realizedPnl, arb.accruedFunding))) = some (.closed, 0, 0) := by
    decide +kernel
  have hcash : cashOf ((pricedRoundTrip 101).foldl (step demoArbConfig) {}).fills "arb-1" = -10 := by
    decide +kernel
  obtain ⟨arb, hget, harb⟩ := Option.map_eq_some_iff.mp hrow
  obtain ⟨hstate, hrest⟩ := Prod.mk.inj harb
  obtain ⟨hrealized, hfunding⟩ := Prod.mk.inj hrest
  have hclaim := hbooked "arb-1" arb hget hstate
  rw [hrealized, hfunding, hcash] at hclaim
  exact absurd hclaim (by norm_num)

end ArbWorld

end CryptoTrader.Arb
