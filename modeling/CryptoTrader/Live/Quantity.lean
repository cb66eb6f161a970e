import CryptoTrader.Live.Phases
import Mathlib.Tactic.Ring

/-!
# Booked and executed quantities

Whether a live trade books the quantity the venue executed.  The wallet books
from its own quantity.  The engine rounds that quantity down, the flip guard
clamps it, the venue may fill part of it, and the filled quantity the engine
reports is not read.
-/

namespace CryptoTrader

open CryptoTrader.Lib

/-- A live operation that obtains its fill through `_venue_fill`. -/
inductive LiveTrade where
  | entry (setup : Setup) (markPrice : Decimal) (customMargin customQuantity : Option Decimal)
  | partialExit (markPrice pct : Decimal) (reason : String) (tpLabel : Option String)
  | fullExit (markPrice : Decimal) (reason : String)

/-- What phase 1 settles: the side, the quantity the wallet means to trade, and
the quantity to order. -/
structure TradePlan where
  side : PositionSide
  quantity : Decimal
  order : Option Decimal

/-- Phase 1 of the operation. -/
def LiveTrade.plan (env : Env) (symbol : Symbol) : LiveTrade → Live (Option TradePlan)
  | .entry setup _ customMargin customQuantity => do
      let s ← get
      let qty ← ofReply (s.wallet.openPlan symbol setup customMargin customQuantity)
      pure (qty.map (fun q => ⟨setup.side, q, some q⟩))
  | .partialExit _ pct _ _ => do
      let plan ← partialPlan env symbol pct
      pure (plan.map (fun p => ⟨p.side, p.quantity, p.order⟩))
  | .fullExit _ _ => do
      let plan ← closePlan env symbol
      pure (plan.map (fun p => ⟨p.side, p.quantity, p.order⟩))

/-- The intent the order is tagged with. -/
def LiveTrade.intent : LiveTrade → String
  | .entry .. => "entry"
  | .partialExit .. => "exit-partial"
  | .fullExit .. => "exit"

/-- Phase 1 and the venue call: what was planned, the order and its fill, or
nothing when nothing is ordered. -/
def LiveTrade.acquire (env : Env) (symbol : Symbol) (trade : LiveTrade) :
    Live (Option (TradePlan × PlacedOrder × ExternalFill)) := do
  match ← trade.plan env symbol with
  | none => pure none
  | some plan =>
      match plan.order with
      | none => pure none
      | some qty => do
          let order ← venueOrder env symbol plan.side qty
          let fill ← fillOf symbol qty trade.intent order
          pure (some (plan, order, fill))

/-- The wallet after the booking of phase 2. -/
def LiveTrade.book (symbol : Symbol) (qty : Decimal) (fill : ExternalFill) (w : Wallet) :
    LiveTrade → Wallet
  | .entry setup markPrice customMargin customQuantity =>
      (w.bookOpen symbol setup markPrice customMargin customQuantity (some fill) (some qty)).2
  | .partialExit markPrice pct reason tpLabel =>
      (w.bookPartial symbol markPrice pct reason tpLabel (some fill)).2
  | .fullExit markPrice reason => (w.bookClose symbol markPrice reason (some fill)).2

/-- `+1` for an operation that adds to the position, `-1` for one that takes
from it. -/
def LiveTrade.direction : LiveTrade → Decimal
  | .entry .. => 1
  | .partialExit .. | .fullExit .. => -1

/-- The quantity held on a symbol. -/
def Wallet.quantityOn (w : Wallet) (symbol : Symbol) : Decimal :=
  ((w.getOpenPosition symbol).map EnhancedPosition.remainingQuantity).getD 0

/-- The event takes its PnL and its fee from `qty` at `price`. -/
def Payload.Books (w : Wallet) (symbol : Symbol) (price qty : Decimal) : Payload → Prop
  | .positionOpened p =>
      p.symbol = symbol ∧ p.quantity = qty ∧ p.fee = w.calculateFee (price * qty) true
  | .positionPartiallyClosed p =>
      p.symbol = symbol ∧ p.closedQty = qty ∧ p.fee = w.calculateFee (price * qty) true ∧
        ∃ pos, w.getOpenPosition symbol = some pos ∧
          p.pnl = pos.side.gain pos.entryPrice price * qty
  | .positionClosed p =>
      p.symbol = symbol ∧ p.fee = w.calculateFee (price * qty) true ∧
        ∃ pos, w.getOpenPosition symbol = some pos ∧
          p.remainingPnl = pos.side.gain pos.entryPrice price * qty
  | _ => False

/-- Going from `w` to `w'` the operation booked exactly `qty` at `price`. -/
structure LiveTrade.BooksExactly (trade : LiveTrade) (symbol : Symbol) (price qty : Decimal)
    (w w' : Wallet) : Prop where
  change : trade.direction * (w'.quantityOn symbol - w.quantityOn symbol) = qty
  event : ∃ p ∈ w.appended w', p.Books w symbol price qty

/-- The venue executes all of what the wallet means to trade, and the booking
lets it: an entry's margin still fits when it is booked, and a partial close is
of no more than the position. -/
structure LiveTrade.FillsPlan (trade : LiveTrade) (symbol : Symbol) (w : Wallet)
    (plan : TradePlan) (filled : Decimal) : Prop where
  whole : filled = plan.quantity
  fits : match trade with
    | .entry setup _ _ _ =>
        plan.quantity * setup.entryPrice / (w.getLeverage symbol : ℕ) ≤ w.availableBalance
    | .partialExit _ _ _ _ => plan.quantity ≤ w.quantityOn symbol
    | .fullExit _ _ => True

/-! ## What each booking books -/

section Bookings

variable {w : Wallet} (h : w.Aligned) (symbol : Symbol) {fill : ExternalFill} {filled : Decimal}
include h

/-- A full close books the whole position. -/
theorem LiveTrade.fullExit_booksExactly_iff (markPrice : Decimal) (reason : String)
    {pos : EnhancedPosition} (hpos : w.getOpenPosition symbol = some pos) (hprice : 0 < fill.price)
    (qty : Decimal) :
    (LiveTrade.fullExit markPrice reason).BooksExactly symbol fill.price filled w
        ((LiveTrade.fullExit markPrice reason).book symbol qty fill w) ↔
      filled = pos.remainingQuantity := by
  set trade := LiveTrade.fullExit markPrice reason
  obtain ⟨-, hflat, hmem⟩ := Wallet.bookClose_spec symbol markPrice reason (some fill) h hpos
  have hheld : w.quantityOn symbol = pos.remainingQuantity := by
    unfold Wallet.quantityOn
    rw [hpos]
    rfl
  have hchange : trade.direction * ((trade.book symbol qty fill w).quantityOn symbol -
      w.quantityOn symbol) = pos.remainingQuantity := by
    have hafter : (trade.book symbol qty fill w).quantityOn symbol = 0 := by
      show (((w.bookClose symbol markPrice reason (some fill)).2.getOpenPosition symbol).map
        _).getD 0 = 0
      rw [hflat]
      rfl
    rw [hafter, hheld]
    show (-1 : Decimal) * (0 - pos.remainingQuantity) = _
    ring
  constructor
  · intro hbooks
    rw [← hbooks.change, hchange]
  · rintro rfl
    refine ⟨hchange, _, hmem, rfl, rfl, pos, hpos, ?_⟩
    show (pos.updatePnl fill.price).unrealizedPnl = _
    exact pos.updatePnl_unrealizedPnl fill.price (Wallet.getOpenPosition_eq_some.mp hpos).2 hprice

/-- A partial close books its share of the position, which must not be more
than the position. -/
theorem LiveTrade.partialExit_booksExactly_iff (markPrice pct : Decimal) (reason : String)
    (tpLabel : Option String) {pos : EnhancedPosition}
    (hpos : w.getOpenPosition symbol = some pos) (hqty : 0 < pos.remainingQuantity * pct)
    (qty : Decimal) :
    (LiveTrade.partialExit markPrice pct reason tpLabel).BooksExactly symbol fill.price filled w
        ((LiveTrade.partialExit markPrice pct reason tpLabel).book symbol qty fill w) ↔
      filled = pos.remainingQuantity * pct ∧
        pos.remainingQuantity * pct ≤ pos.remainingQuantity := by
  set trade := LiveTrade.partialExit markPrice pct reason tpLabel
  obtain ⟨-, -, hmem, pos', hpos', hreduced⟩ := Wallet.bookPartial_spec symbol markPrice reason
    (some fill) h hpos pct tpLabel hqty
  have honly := Wallet.target_bookPartial w symbol markPrice pct reason tpLabel (some fill) hpos hqty
  have hchange : trade.direction * ((trade.book symbol qty fill w).quantityOn symbol -
      w.quantityOn symbol) =
        pos.remainingQuantity - max 0 (pos.remainingQuantity - pos.remainingQuantity * pct) := by
    have hbefore : w.quantityOn symbol = pos.remainingQuantity := by
      unfold Wallet.quantityOn
      rw [hpos]
      rfl
    have hafter : (trade.book symbol qty fill w).quantityOn symbol = pos'.remainingQuantity := by
      show (((w.bookPartial symbol markPrice pct reason tpLabel (some fill)).2.getOpenPosition
        symbol).map _).getD 0 = _
      rw [hpos']
      rfl
    rw [hafter, hbefore, hreduced.remainingQuantity]
    show (-1 : Decimal) * (_ - _) = _
    ring
  constructor
  · intro hbooks
    -- the one event about the position carries the share itself
    have hfilled : filled = pos.remainingQuantity * pct := by
      obtain ⟨p, hp, hpbooks⟩ := hbooks.event
      have htarget : p.target? ≠ none := by
        cases p <;> simp_all [Payload.Books, Payload.target?]
      rw [honly p hp htarget] at hpbooks
      exact hpbooks.2.1.symm
    have hle := hbooks.change
    rw [hchange] at hle
    refine ⟨hfilled, ?_⟩
    by_contra hgt
    have hmax : max 0 (pos.remainingQuantity - pos.remainingQuantity * pct) = 0 :=
      max_eq_left (by linarith [not_le.mp hgt])
    rw [hmax] at hle
    linarith [not_le.mp hgt]
  · rintro ⟨rfl, hle⟩
    refine ⟨?_, _, hmem, rfl, rfl, rfl, pos, hpos, rfl⟩
    rw [hchange, max_eq_right (by linarith)]
    ring

/-- An entry books the quantity it asked for, if its margin still fits. -/
theorem LiveTrade.entry_booksExactly_iff (setup : Setup) (markPrice : Decimal)
    (customMargin customQuantity : Option Decimal) (hcan : (w.canOpen symbol).1) (qty : Decimal)
    (hfee : fill.fee = w.calculateFee (fill.price * qty) true) (hfilled : 0 < filled) :
    (LiveTrade.entry setup markPrice customMargin customQuantity).BooksExactly symbol fill.price
        filled w ((LiveTrade.entry setup markPrice customMargin customQuantity).book symbol qty
          fill w) ↔
      filled = qty ∧ qty * setup.entryPrice / (w.getLeverage symbol : ℕ) ≤ w.availableBalance := by
  set trade := LiveTrade.entry setup markPrice customMargin customQuantity
  have hflat : w.quantityOn symbol = 0 := by
    unfold Wallet.quantityOn
    rw [w.flat_of_canOpen hcan]
    rfl
  by_cases hmargin : qty * setup.entryPrice / (w.getLeverage symbol : ℕ) ≤ w.availableBalance
  · have hsize : w.sizeOpen symbol setup customMargin customQuantity (some qty) =
        .ok (some ⟨qty, qty * setup.entryPrice,
          qty * setup.entryPrice / (w.getLeverage symbol : ℕ)⟩) := by
      unfold Wallet.sizeOpen
      simp only [hcan, Bool.not_true, Bool.false_eq_true, if_false]
      rw [if_neg (not_lt.mpr hmargin)]
    obtain ⟨pos, w', hbook, -, hpos, hbooks, p, hmem, hsymbol, hquantity, -, hpfee⟩ :=
      Wallet.bookOpen_of_size h symbol setup markPrice customMargin customQuantity (some qty) fill
        hsize
    have hafter : trade.book symbol qty fill w = w' := by
      show (w.bookOpen symbol setup markPrice customMargin customQuantity (some fill)
        (some qty)).2 = w'
      rw [hbook]
    have hchange : trade.direction * (w'.quantityOn symbol - w.quantityOn symbol) = qty := by
      rw [hflat]
      unfold Wallet.quantityOn
      rw [hpos]
      show (1 : Decimal) * (pos.remainingQuantity - 0) = qty
      rw [hbooks.remainingQuantity]
      ring
    rw [hafter]
    constructor
    · intro hexact
      exact ⟨hexact.change.symm.trans hchange, hmargin⟩
    · rintro ⟨rfl, -⟩
      exact ⟨hchange, _, hmem, hsymbol, hquantity, hpfee.trans hfee⟩
  · have hsize : w.sizeOpen symbol setup customMargin customQuantity (some qty) = .ok none := by
      unfold Wallet.sizeOpen
      simp only [hcan, Bool.not_true, Bool.false_eq_true, if_false]
      rw [if_pos (not_le.mp hmargin)]
    have hsame : trade.book symbol qty fill w = w := by
      show (w.bookOpen symbol setup markPrice customMargin customQuantity (some fill)
        (some qty)).2 = w
      unfold Wallet.bookOpen
      rw [hsize]
    rw [hsame]
    constructor
    · intro hexact
      have hzero := hexact.change
      rw [sub_self, mul_zero] at hzero
      exact absurd hzero hfilled.ne
    · rintro ⟨-, hle⟩
      exact absurd hle hmargin

end Bookings

/-! ## From the plan to the booking -/

section Chain

variable (env : Env) {symbol : Symbol} {trade : LiveTrade} {s s₁ s₂ s₃ : World}
  {plan : TradePlan} {side : PositionSide} {qty : Decimal} {order : PlacedOrder} {fill : ExternalFill}

/-- The venue call leaves the wallet alone but for the clock, and its fill has a
quantity and a price. -/
theorem venueFill_facts (horder : venueOrder env symbol side qty s₁ = .ok order s₂)
    (hfill : fillOf symbol qty trade.intent order s₂ = .ok fill s₃) :
    s₃.wallet = s₁.wallet.tick ∧ 0 < order.filledQuantity ∧ 0 < fill.price ∧
      fill.fee = s₃.wallet.calculateFee (fill.price * qty) true := by
  obtain ⟨ext, outcome, rfl, -, -, hqty, -⟩ := wp_ok (venueOrder_wp env symbol side qty s₁) horder
  obtain ⟨rfl, hprice, hpos, hfee⟩ := wp_ok (fillOf_wp symbol qty trade.intent order _) hfill
  exact ⟨rfl, hqty, hpos, by rw [hprice]; exact hfee⟩

/-- Phase 1 of an entry only reads, and finds the symbol open for it. -/
theorem LiveTrade.plan_entry (setup : Setup) (markPrice : Decimal)
    (customMargin customQuantity : Option Decimal) (s : World) :
    wp ((LiveTrade.entry setup markPrice customMargin customQuantity).plan env symbol)
      (fun plan s' => s' = s ∧ ∀ p, plan = some p → (s.wallet.canOpen symbol).1 ∧
        p.order = some p.quantity) (fun _ _ => True) s := by
  unfold LiveTrade.plan
  rw [wp_bind, wp_get, wp_bind]
  refine wp_mono (ofReply_wp _ s) ?_ (fun _ _ _ => trivial)
  rintro qty s' ⟨hopen, rfl⟩
  refine ⟨rfl, ?_⟩
  intro p hp
  rw [Option.map_eq_some_iff] at hp
  obtain ⟨q, rfl, rfl⟩ := hp
  refine ⟨?_, rfl⟩
  unfold Wallet.openPlan at hopen
  by_cases hcan : (s'.wallet.canOpen symbol).1
  · exact hcan
  · simp [hcan] at hopen

/-- Phase 1 of a partial close. -/
theorem LiveTrade.plan_partialExit (h : s.wallet.Aligned) (hlive : s.wallet.liveExecution)
    (markPrice pct : Decimal) (reason : String) (tpLabel : Option String) :
    wp ((LiveTrade.partialExit markPrice pct reason tpLabel).plan env symbol)
      (fun plan s' => ∀ p, plan = some p → ∃ pos, s.wallet.getOpenPosition symbol = some pos ∧
        s.Prepared symbol pos s' ∧ p.quantity = pos.remainingQuantity * pct ∧
        p.order = if 0 < p.quantity then some p.quantity else none) (fun _ _ => True) s := by
  unfold LiveTrade.plan
  rw [wp_bind]
  cases hpos : s.wallet.getOpenPosition symbol with
  | none =>
      unfold wp
      rw [partialPlan_flat env hpos]
      intro p hp
      cases hp
  | some pos =>
      refine wp_mono (partialPlan_wp env h hlive hpos pct) ?_ (fun _ _ h => h.elim)
      rintro plan s' ⟨hprepared, rfl⟩ p hp
      cases hp
      exact ⟨pos, rfl, hprepared, rfl, rfl⟩

/-- Phase 1 of a full close. -/
theorem LiveTrade.plan_fullExit (h : s.wallet.Aligned) (hlive : s.wallet.liveExecution)
    (markPrice : Decimal) (reason : String) :
    wp ((LiveTrade.fullExit markPrice reason).plan env symbol)
      (fun plan s' => ∀ p, plan = some p → ∃ pos, s.wallet.getOpenPosition symbol = some pos ∧
        s.Prepared symbol pos s' ∧ p.quantity = pos.remainingQuantity) (fun _ _ => True) s := by
  unfold LiveTrade.plan
  rw [wp_bind]
  cases hpos : s.wallet.getOpenPosition symbol with
  | none =>
      unfold wp
      rw [closePlan_flat env hpos]
      intro p hp
      cases hp
  | some pos =>
      refine wp_mono (closePlan_wp env h hlive hpos) ?_ (fun _ _ h => h.elim)
      rintro plan s' ⟨hprepared, venueQty, rfl⟩ p hp
      cases hp
      exact ⟨pos, rfl, hprepared, rfl⟩

/-- The steps of an acquisition that ended with a fill. -/
theorem LiveTrade.acquire_ok (h : trade.acquire env symbol s = .ok (some (plan, order, fill)) s₃) :
    ∃ s₁ qty s₂, trade.plan env symbol s = .ok (some plan) s₁ ∧ plan.order = some qty ∧
      venueOrder env symbol plan.side qty s₁ = .ok order s₂ ∧
      fillOf symbol qty trade.intent order s₂ = .ok fill s₃ := by
  obtain ⟨plan?, s₁, hplan, h⟩ := bind_eq_ok h
  cases plan? with
  | none => cases h
  | some plan' =>
      simp only at h
      cases hsent : plan'.order with
      | none =>
          rw [hsent] at h
          cases h
      | some qty =>
          rw [hsent] at h
          obtain ⟨order', s₂, horder, h⟩ := bind_eq_ok h
          obtain ⟨fill', s₃', hfill, h⟩ := bind_eq_ok h
          cases h
          exact ⟨s₁, qty, s₂, hplan, hsent, horder, hfill⟩

/-- A live trade books exactly what the venue reported filled if and only if
that is all the wallet meant to trade, and the booking lets it. -/
theorem LiveTrade.booksExactly_iff (hlive : s.wallet.liveExecution) (haligned : s.wallet.Aligned)
    (hacquire : trade.acquire env symbol s = .ok (some (plan, order, fill)) s₃) :
    trade.BooksExactly symbol fill.price order.filledQuantity s₃.wallet
        (trade.book symbol plan.quantity fill s₃.wallet) ↔
      trade.FillsPlan symbol s.wallet plan order.filledQuantity := by
  obtain ⟨s₁, qty, s₂, hplan, hsent, horder, hfill⟩ := trade.acquire_ok env hacquire
  obtain ⟨hwallet, hfilled, hprice, hfee⟩ := venueFill_facts env horder hfill
  cases trade with
  | entry setup markPrice customMargin customQuantity =>
      obtain ⟨rfl, hp⟩ := wp_ok (LiveTrade.plan_entry env setup markPrice customMargin
        customQuantity s) hplan
      obtain ⟨hcan, horderq⟩ := hp plan rfl
      rw [horderq] at hsent
      cases hsent
      have haligned₃ : s₃.wallet.Aligned := by
        rw [hwallet]
        exact haligned
      have hcan₃ : (s₃.wallet.canOpen symbol).1 := by
        rw [hwallet]
        exact hcan
      have hfits : plan.quantity * setup.entryPrice / (s₃.wallet.getLeverage symbol : ℕ) ≤
          s₃.wallet.availableBalance ↔ plan.quantity * setup.entryPrice /
            (s₁.wallet.getLeverage symbol : ℕ) ≤ s₁.wallet.availableBalance := by
        rw [hwallet]
        exact Iff.rfl
      rw [LiveTrade.entry_booksExactly_iff haligned₃ symbol setup markPrice customMargin
        customQuantity hcan₃ plan.quantity hfee hfilled, hfits]
      exact ⟨fun h => ⟨h.1, h.2⟩, fun h => ⟨h.whole, h.fits⟩⟩
  | partialExit markPrice pct reason tpLabel =>
      obtain ⟨pos, hpos, hprepared, hquantity, horderq⟩ :=
        wp_ok (LiveTrade.plan_partialExit env haligned hlive markPrice pct reason tpLabel) hplan
          plan rfl
      obtain ⟨pos', hpos', hbared⟩ := hprepared.position
      have hpositive : 0 < plan.quantity := by
        by_contra hnot
        rw [horderq, if_neg hnot] at hsent
        cases hsent
      have hpos₃ : s₃.wallet.getOpenPosition symbol = some pos' := by
        rw [hwallet]
        exact hpos'
      have haligned₃ : s₃.wallet.Aligned := by
        rw [hwallet]
        exact hprepared.wallet.aligned
      have hheld : s.wallet.quantityOn symbol = pos.remainingQuantity := by
        unfold Wallet.quantityOn
        rw [hpos]
        rfl
      rw [hquantity, ← hbared.remainingQuantity] at hpositive
      rw [LiveTrade.partialExit_booksExactly_iff haligned₃ symbol markPrice pct reason tpLabel hpos₃
        hpositive plan.quantity, hbared.remainingQuantity, ← hquantity, ← hheld]
      exact ⟨fun h => ⟨h.1, h.2⟩, fun h => ⟨h.whole, h.fits⟩⟩
  | fullExit markPrice reason =>
      obtain ⟨pos, hpos, hprepared, hquantity⟩ :=
        wp_ok (LiveTrade.plan_fullExit env haligned hlive markPrice reason) hplan plan rfl
      obtain ⟨pos', hpos', hbared⟩ := hprepared.position
      have hpos₃ : s₃.wallet.getOpenPosition symbol = some pos' := by
        rw [hwallet]
        exact hpos'
      have haligned₃ : s₃.wallet.Aligned := by
        rw [hwallet]
        exact hprepared.wallet.aligned
      rw [LiveTrade.fullExit_booksExactly_iff haligned₃ symbol markPrice reason hpos₃ hprice
        plan.quantity, hbared.remainingQuantity, ← hquantity]
      exact ⟨fun h => ⟨h, trivial⟩, fun h => h.whole⟩

end Chain

/-- When the venue fills no more than it was sent, it executes all of what the
wallet means to trade if and only if the flip guard does not clamp, the quantity
is on the instrument's step, and the order is filled whole. -/
theorem InstrumentSpec.filled_eq_iff (spec : InstrumentSpec) {planned qty filled : Decimal}
    (hqty : 0 < qty) (hclamp : qty ≤ planned) (hvenue : filled ≤ spec.roundQty qty) :
    filled = planned ↔
      qty = planned ∧ spec.roundQty qty = qty ∧ filled = spec.roundQty qty := by
  have hround : spec.roundQty qty ≤ qty := roundToIncrement_le _ _ hqty.le
  constructor
  · rintro rfl
    have hunclamped : qty = filled := le_antisymm hclamp (hvenue.trans hround)
    have honstep : spec.roundQty qty = qty := le_antisymm hround (hunclamped.le.trans hvenue)
    exact ⟨hunclamped, honstep, (honstep.trans hunclamped).symm⟩
  · rintro ⟨hunclamped, honstep, hwhole⟩
    exact hwhole.trans (honstep.trans hunclamped)

/-! ## The operations that trade so -/

section Operations

variable (env : Env) {symbol : Symbol} {s s₃ : World} {plan : TradePlan} {order : PlacedOrder}
  {fill : ExternalFill}

/-- The two halves of `_venue_fill`. -/
theorem venueFill_of_ok {side : PositionSide} {qty : Decimal} {intent : String} {s₁ s₂ : World}
    (horder : venueOrder env symbol side qty s₁ = .ok order s₂)
    (hfill : fillOf symbol qty intent order s₂ = .ok fill s₃) :
    venueFill env symbol side qty intent s₁ = .ok fill s₃ :=
  (bind_of_ok horder _).trans hfill

/-- `close_position` books with the fill of its acquisition. -/
theorem closePosition_of_acquire {markPrice : Decimal} {reason : String}
    (hlive : s.wallet.liveExecution)
    (h : (LiveTrade.fullExit markPrice reason).acquire env symbol s =
      .ok (some (plan, order, fill)) s₃) :
    closePosition env .none symbol markPrice reason none s =
      closeBook symbol markPrice reason (some fill) s₃ := by
  obtain ⟨s₁, qty, s₂, hplan, hsent, horder, hfill⟩ := LiveTrade.acquire_ok env h
  obtain ⟨close?, s₁', hclose, hplan⟩ := bind_eq_ok hplan
  cases close? with
  | none => cases hplan
  | some close =>
      cases hplan
      have hexit : exitFill env symbol close.side close.order "exit" s₁ = .ok (some fill) s₃ := by
        rw [show close.order = some qty from hsent]
        exact bind_of_ok (venueFill_of_ok env horder hfill) _
      unfold closePosition
      rw [bind_of_ok (show (get : Live World) s = .ok s s from rfl), if_pos ⟨rfl, hlive⟩,
        bind_of_ok hclose]
      exact bind_of_ok hexit _

/-- `partial_close` books with the fill of its acquisition. -/
theorem partialClose_of_acquire {markPrice pct : Decimal} {reason : String}
    {tpLabel : Option String} (hlive : s.wallet.liveExecution)
    (h : (LiveTrade.partialExit markPrice pct reason tpLabel).acquire env symbol s =
      .ok (some (plan, order, fill)) s₃) :
    ∃ hadProtective, partialClose env .none symbol markPrice pct reason tpLabel none s =
      partialBook env symbol markPrice pct reason tpLabel (some fill) hadProtective s₃ := by
  obtain ⟨s₁, qty, s₂, hplan, hsent, horder, hfill⟩ := LiveTrade.acquire_ok env h
  obtain ⟨slice?, s₁', hslice, hplan⟩ := bind_eq_ok hplan
  cases slice? with
  | none => cases hplan
  | some slice =>
      cases hplan
      have hexit : exitFill env symbol slice.side slice.order "exit-partial" s₁ =
          .ok (some fill) s₃ := by
        rw [show slice.order = some qty from hsent]
        exact bind_of_ok (venueFill_of_ok env horder hfill) _
      refine ⟨slice.hadProtective, ?_⟩
      unfold partialClose
      rw [bind_of_ok (show (get : Live World) s = .ok s s from rfl), if_pos ⟨rfl, hlive⟩,
        bind_of_ok hslice]
      exact bind_of_ok hexit _

/-- `open_position` books with the fill of its acquisition. -/
theorem openPosition_of_acquire {setup : Setup} {markPrice : Decimal}
    {customMargin customQuantity : Option Decimal} (hlive : s.wallet.liveExecution)
    (h : (LiveTrade.entry setup markPrice customMargin customQuantity).acquire env symbol s =
      .ok (some (plan, order, fill)) s₃) :
    openPosition env .none symbol setup markPrice customMargin customQuantity none s =
      openBook env symbol setup markPrice customMargin customQuantity (some fill)
        (some plan.quantity) s₃ := by
  obtain ⟨s₁, qty, s₂, hplan, hsent, horder, hfill⟩ := LiveTrade.acquire_ok env h
  obtain ⟨_, _, hget, hplan⟩ := bind_eq_ok hplan
  cases hget
  obtain ⟨qty?, s₁', hopen, hplan⟩ := bind_eq_ok hplan
  cases qty? with
  | none => cases hplan
  | some qty' =>
      cases hplan
      cases hsent
      unfold openPosition
      rw [bind_of_ok (show (get : Live World) s = .ok s s from rfl), if_pos ⟨rfl, hlive⟩,
        bind_of_ok hopen]
      exact bind_of_ok (venueFill_of_ok env horder hfill) _

end Operations

/-! ## Two entries -/

/-- An entry of `qty` units of the demo symbol. -/
def demoEntry (qty : Decimal) : LiveTrade := .entry demoSetup 100 none (some qty)

/-- On the step the entry is booked as it was filled. -/
theorem demoEntry_booksExactly :
    ∃ plan order fill s, (demoEntry 2).acquire demoEnv demoSymbol demoWorld =
        .ok (some (plan, order, fill)) s ∧
      (demoEntry 2).BooksExactly demoSymbol fill.price order.filledQuantity s.wallet
        ((demoEntry 2).book demoSymbol plan.quantity fill s.wallet) := by
  have hends : ends ((demoEntry 2).acquire demoEnv demoSymbol) demoWorld (fun r _ =>
      r.any (fun (plan, order, _) => plan.quantity = 2 ∧ order.filledQuantity = 2)) := by
    decide +kernel
  obtain ⟨r, s, hacquire, hr⟩ := exists_of_ends hends
  obtain ⟨⟨plan, order, fill⟩, rfl, hqty⟩ := (Option.any_eq_true _ _).mp hr
  obtain ⟨hplanned, hfilled⟩ := of_decide_eq_true hqty
  refine ⟨plan, order, fill, s, hacquire, ?_⟩
  refine (LiveTrade.booksExactly_iff demoEnv rfl (Wallet.Aligned.boot demoInit id false)
    hacquire).mpr ⟨hfilled.trans hplanned.symm, ?_⟩
  show plan.quantity * 100 / (demoWorld.wallet.getLeverage demoSymbol : ℕ) ≤ _
  rw [hplanned]
  decide +kernel

/-- Off the step the venue fills 2 where the wallet books 5/2. -/
theorem demoEntry_books_more :
    ¬ ∀ (env : Env) (symbol : Symbol) (trade : LiveTrade) (s s' : World) (plan : TradePlan)
        (order : PlacedOrder) (fill : ExternalFill),
      s.wallet.liveExecution → s.wallet.Aligned →
      trade.acquire env symbol s = .ok (some (plan, order, fill)) s' →
      trade.BooksExactly symbol fill.price order.filledQuantity s'.wallet
        (trade.book symbol plan.quantity fill s'.wallet) := by
  intro hall
  have hends : ends ((demoEntry (5 / 2)).acquire demoEnv demoSymbol) demoWorld (fun r s =>
      r.any (fun (plan, order, fill) => order.filledQuantity = 2 ∧
        (demoEntry (5 / 2)).direction * (((demoEntry (5 / 2)).book demoSymbol plan.quantity fill
          s.wallet).quantityOn demoSymbol - s.wallet.quantityOn demoSymbol) = 5 / 2)) := by
    decide +kernel
  obtain ⟨r, s, hacquire, hr⟩ := exists_of_ends hends
  obtain ⟨⟨plan, order, fill⟩, rfl, hqty⟩ := (Option.any_eq_true _ _).mp hr
  obtain ⟨hfilled, hbooked⟩ := of_decide_eq_true hqty
  have hchange := (hall demoEnv demoSymbol (demoEntry (5 / 2)) demoWorld s plan order fill rfl
    (Wallet.Aligned.boot demoInit id false) hacquire).change
  rw [hbooked, hfilled] at hchange
  norm_num at hchange

end CryptoTrader
