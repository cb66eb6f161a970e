import CryptoTrader.Wallet.Equity
import CryptoTrader.Wallet.OrderSteps
import CryptoTrader.Wallet.Discipline
import CryptoTrader.Wallet.TradePnl

/-!
# The slices of a trade

The log tells the story of the trade of a symbol: the quantity it was opened
with and the quantities closed since.
-/

namespace CryptoTrader

open CryptoTrader.Lib

/-! ## The trade as its events tell it -/

/-- The open trade of a symbol. -/
structure OpenTrade where
  side : PositionSide
  entryPrice : Decimal
  original : Decimal
  /-- The sum of the slices closed so far. -/
  sliced : Decimal

/-- What is not closed yet. -/
def OpenTrade.rest (t : OpenTrade) : Decimal := t.original - t.sliced

/-- The trade with one more slice taken off. -/
def OpenTrade.slice (t : OpenTrade) (quantity : Decimal) : OpenTrade :=
  { t with sliced := t.sliced + quantity }

@[simp] theorem OpenTrade.rest_slice (t : OpenTrade) (quantity : Decimal) :
    (t.slice quantity).rest = t.rest - quantity := by
  simp [rest, slice, sub_sub]

/-- What one operation may make of the trade: it opens one, takes off a slice
that leaves more than dust, ends it, or leaves it alone. -/
inductive Advances : Option OpenTrade → Option OpenTrade → Prop where
  | same (t? : Option OpenTrade) : Advances t? t?
  | opened {t : OpenTrade} (h : t.sliced = 0) : Advances none (some t)
  | sliced (t : OpenTrade) {quantity : Decimal} (hpos : 0 < quantity)
      (hleft : 1 / 10000 < (t.slice quantity).rest) : Advances (some t) (some (t.slice quantity))
  | ended (t? : Option OpenTrade) : Advances t? none

/-- A trade goes on with its quantity, and no more of it left. -/
theorem Advances.shrinks {t t' : OpenTrade} (h : Advances (some t) (some t')) :
    t'.original = t.original ∧ t'.rest ≤ t.rest := by
  cases h with
  | same => exact ⟨rfl, le_rfl⟩
  | sliced _ hpos _ => exact ⟨rfl, by rw [OpenTrade.rest_slice]; linarith⟩

def OpenPayload.trade (p : OpenPayload) : OpenTrade :=
  { side := p.side, entryPrice := p.executionPrice, original := p.quantity, sliced := 0 }

/-- What an event about a trade makes of it. -/
def Payload.tell (t? : Option OpenTrade) : Payload → Option OpenTrade
  | .positionOpened p | .positionAdopted p => some p.trade
  | .positionPartiallyClosed p => t?.map (·.slice p.closedQty)
  | .positionClosed _ | .liquidation _ => none
  | _ => t?

/-- The trade of a symbol after the events of a log. -/
def story (symbol : Symbol) (log : List Event) : Option OpenTrade :=
  log.foldl (fun t? e => if e.payload.revalues? = some symbol then e.payload.tell t? else t?) none

@[simp] theorem story_append (symbol : Symbol) (log : List Event) (e : Event) :
    story symbol (log ++ [e]) =
      if e.payload.revalues? = some symbol then e.payload.tell (story symbol log)
      else story symbol log := by
  simp [story, List.foldl_append]

/-- An event fits the trade before it: one is opened on a flat symbol, a slice
takes a part of the rest and is worth what that part gained, and a close at a
price is worth what the rest gained. -/
def Payload.Fits (t? : Option OpenTrade) : Payload → Prop
  | .positionOpened _ | .positionAdopted _ => t? = none
  | .positionPartiallyClosed p => ∃ t, t? = some t ∧ 0 < p.closedQty ∧ p.closedQty ≤ t.rest ∧
      p.pnl = t.side.gain t.entryPrice p.price * p.closedQty
  | .positionClosed p | .liquidation p => ∃ t, t? = some t ∧
      (0 < p.closePrice → p.remainingPnl = t.side.gain t.entryPrice p.closePrice * t.rest)
  | _ => True

/-- Every event about the symbol fits the trade its predecessors tell. -/
def FittingLog (symbol : Symbol) (log : List Event) : Prop :=
  ∀ before e after, log = before ++ e :: after → e.payload.revalues? = some symbol →
    e.payload.Fits (story symbol before)

theorem FittingLog.append {symbol : Symbol} {log : List Event} (h : FittingLog symbol log)
    {e : Event} (he : e.payload.revalues? = some symbol → e.payload.Fits (story symbol log)) :
    FittingLog symbol (log ++ [e]) := by
  intro before e' after hsplit hvalue
  rcases List.eq_nil_or_concat after with rfl | ⟨after', last, rfl⟩
  · obtain ⟨hlog, heq⟩ := List.append_inj' hsplit rfl
    obtain rfl := List.singleton_inj.mp heq
    exact hlog ▸ he hvalue
  · rw [List.concat_eq_append, ← List.cons_append, ← List.append_assoc] at hsplit
    exact h before e' after' (List.append_inj' hsplit rfl).1 hvalue

/-! ## The wallet and the story -/

/-- What a position and a trade have in common. -/
structure PositionSize where
  side : PositionSide
  entryPrice : Decimal
  quantity : Decimal
  deriving DecidableEq

def EnhancedPosition.size (pos : EnhancedPosition) : PositionSize :=
  { side := pos.side, entryPrice := pos.entryPrice, quantity := pos.remainingQuantity }

def OpenTrade.size (t : OpenTrade) : PositionSize :=
  { side := t.side, entryPrice := t.entryPrice, quantity := t.rest }

theorem SameWorth.size {a b : Option EnhancedPosition} (h : SameWorth a b) :
    b.map EnhancedPosition.size = a.map EnhancedPosition.size := by
  cases h with
  | none => rfl
  | some hsame =>
      simp [EnhancedPosition.size, hsame.side, hsame.entryPrice, hsame.remainingQuantity]

/-- The log tells `t?`, fits it, and the wallet holds what it leaves. -/
structure Wallet.Tells (symbol : Symbol) (t? : Option OpenTrade) (w : Wallet) : Prop where
  aligned : w.Aligned
  fits : FittingLog symbol w.log
  story : story symbol w.log = t?
  held : (w.getOpenPosition symbol).map EnhancedPosition.size = t?.map OpenTrade.size

namespace Wallet.Tells

variable {symbol : Symbol} {t? : Option OpenTrade} {w : Wallet}

theorem of_open (h : w.Tells symbol t?) {pos : EnhancedPosition}
    (hpos : w.getOpenPosition symbol = some pos) : ∃ t, t? = some t ∧ pos.size = t.size := by
  have hheld := h.held
  rw [hpos, Option.map_some] at hheld
  obtain ⟨t, ht, hsize⟩ := Option.map_eq_some_iff.mp hheld.symm
  exact ⟨t, ht, hsize.symm⟩

theorem position {t : OpenTrade} (h : w.Tells symbol (some t)) :
    ∃ pos, w.getOpenPosition symbol = some pos ∧ pos.side = t.side ∧
      pos.entryPrice = t.entryPrice ∧ pos.remainingQuantity = t.rest := by
  obtain ⟨pos, hpos, hsize⟩ := Option.map_eq_some_iff.mp h.held
  exact ⟨pos, hpos, congrArg PositionSize.side hsize, congrArg PositionSize.entryPrice hsize,
    congrArg PositionSize.quantity hsize⟩

theorem none_of_flat (h : w.Tells symbol t?) (hflat : w.getOpenPosition symbol = none) :
    t? = none := by
  have hheld := h.held
  rw [hflat] at hheld
  simpa using hheld.symm

theorem tick (h : w.Tells symbol t?) : w.tick.Tells symbol t? :=
  ⟨h.aligned, h.fits, h.story, h.held⟩

theorem syncUnrealizedTotal (h : w.Tells symbol t?) : w.syncUnrealizedTotal.Tells symbol t? :=
  ⟨h.aligned, h.fits, h.story, h.held⟩

theorem appendHistory (h : w.Tells symbol t?) (record : EnhancedPosition) :
    (w.appendHistory record).Tells symbol t? :=
  ⟨h.aligned, h.fits, h.story, h.held⟩

theorem setHalted (h : w.Tells symbol t?) (b : Bool) :
    ({ w with halted := b } : Wallet).Tells symbol t? :=
  ⟨h.aligned, h.fits, h.story, h.held⟩

theorem save (h : w.Tells symbol t?) : w.save.Tells symbol t? :=
  ⟨fun s => (h.aligned s).save, (Wallet.log_save w).symm ▸ h.fits,
    (congrArg (CryptoTrader.story symbol) (Wallet.log_save w)).trans h.story, h.held⟩

/-- An edit that leaves the size alone. -/
theorem editPosition (h : w.Tells symbol t?) (s : Symbol)
    {f : EnhancedPosition → EnhancedPosition} (hopen : ∀ s pos, pos.OpenOn s → (f pos).OpenOn s)
    (hf : ∀ pos data, pos.Follows data → (f pos).Follows data)
    (hstatus : ∀ pos, (f pos).status = pos.status) (hsize : ∀ pos, (f pos).size = pos.size) :
    (w.editPosition s f).Tells symbol t? := by
  refine ⟨fun s' => (h.aligned s').editPosition s (hopen s') hf, h.fits, h.story, ?_⟩
  rw [← h.held]
  by_cases heq : s = symbol
  · subst heq
    rw [Wallet.getOpenPosition_editPosition s hstatus, Option.map_map]
    exact Option.map_congr (fun pos _ => hsize pos)
  · unfold Wallet.getOpenPosition Wallet.editPosition
    rw [Dict.get?_modify_ne _ _ heq]

/-- Any event, with what it makes of the trade and of the position. -/
theorem emit (h : w.Tells symbol t?) {payload : Payload} {t'? : Option OpenTrade}
    (hvalue : payload.revalues? = some symbol) (hfits : payload.Fits t?)
    (htell : payload.tell t? = t'?)
    (hheld : ((w.emit payload).getOpenPosition symbol).map EnhancedPosition.size =
      t'?.map OpenTrade.size) : (w.emit payload).Tells symbol t'? := by
  refine ⟨fun s => (h.aligned s).emit payload, ?_, ?_, hheld⟩
  · rw [Wallet.log_emit]
    exact h.fits.append (fun _ => h.story.symm ▸ hfits)
  · rw [Wallet.log_emit, story_append, h.story]
    exact (if_pos hvalue).trans htell

/-- An event about something else. -/
theorem emit_quiet (h : w.Tells symbol t?) {payload : Payload}
    (hvalue : payload.revalues? ≠ some symbol) : (w.emit payload).Tells symbol t? := by
  refine ⟨fun s => (h.aligned s).emit payload, ?_, ?_, ?_⟩
  · rw [Wallet.log_emit]
    exact h.fits.append (fun heq => absurd heq hvalue)
  · rw [Wallet.log_emit, story_append]
    exact (if_neg hvalue).trans h.story
  · rw [← h.held]
    exact ((h.aligned symbol).sameWorth_emit (h.aligned symbol).openAt rfl (.refl _) hvalue).size

theorem chargeTds (h : w.Tells symbol t?) (amount : Decimal) (reason : String) (s : Symbol) :
    (w.chargeTds amount reason s).Tells symbol t? := by
  unfold Wallet.chargeTds
  split
  · exact h.emit_quiet (by simp [Payload.revalues?])
  · exact h

end Wallet.Tells

/-! ## The bookings -/

namespace Wallet.Tells

variable {symbol : Symbol} {t? : Option OpenTrade} {w : Wallet}

/-- Nothing done to orders is part of the trade. -/
theorem ordersKeep (symbol : Symbol) (t? : Option OpenTrade) :
    Wallet.OrdersKeep (Wallet.Tells symbol t?) where
  order := by
    intro w payload hpayload h
    refine h.emit_quiet ?_
    cases payload <;> simp [Payload.isOrder] at hpayload <;> simp [Payload.revalues?]
  report := fun _ h => h.emit_quiet (by simp [Payload.revalues?])
  tick := fun h => h.tick
  setHalted := fun b h => h.setHalted b

/-- The entry of the symbol after an event about it. -/
theorem entry_emit (h : w.Tells symbol t?) {pos : EnhancedPosition}
    (hpos : w.getOpenPosition symbol = some pos) {payload : Payload} {data' : PositionData}
    (hdata' : (w.emit payload).runtime.openPositions.get? symbol = some data') :
    ((w.emit payload).getOpenPosition symbol).map EnhancedPosition.size =
      some { pos.size with entryPrice := data'.entryPrice, quantity := data'.quantity } := by
  rw [(h.aligned symbol).openAt.getOpenPosition_emit payload hpos hdata']
  rfl

/-- A slice of a part of what is left. -/
theorem emit_slice {t : OpenTrade} (h : w.Tells symbol (some t)) {p : PartialPayload}
    (hp : p.symbol = symbol) (hpos : 0 < p.closedQty) (hle : p.closedQty ≤ t.rest)
    (hpnl : p.pnl = t.side.gain t.entryPrice p.price * p.closedQty) :
    (w.emit (.positionPartiallyClosed p)).Tells symbol (some (t.slice p.closedQty)) := by
  obtain ⟨pos, hget, hside, hentry, hquantity⟩ := h.position
  obtain ⟨data, hdata, hfollows⟩ := (h.aligned symbol).entry hget
  have hdata' : (w.emit (.positionPartiallyClosed p)).runtime.openPositions.get? symbol =
      some (data.reduce p) := by
    rw [Wallet.runtime_emit, PortfolioState.openPositions_apply]
    show (w.runtime.openPositions.modify p.symbol (fun pos => pos.reduce p)).get? symbol = _
    rw [hp, Dict.get?_modify_self, hdata]
    rfl
  refine h.emit (congrArg some hp) ⟨t, rfl, hpos, hle, hpnl⟩ rfl ?_
  rw [h.entry_emit hget hdata']
  have hrest : data.quantity = t.rest := hfollows.quantity.symm.trans hquantity
  have hprice : data.entryPrice = t.entryPrice := hfollows.entryPrice.symm.trans hentry
  have hfloor : max 0 (t.rest - p.closedQty) = t.rest - p.closedQty :=
    max_eq_right (sub_nonneg.mpr hle)
  simp only [PositionData.reduce, EnhancedPosition.size, OpenTrade.size, hrest, hprice, hfloor,
    hside, OpenTrade.rest_slice, Option.map_some]
  rfl

/-- The end of a trade. -/
theorem emit_close {t : OpenTrade} (h : w.Tells symbol (some t)) {payload : Payload}
    {p : ClosePayload} (hpayload : payload = .positionClosed p ∨ payload = .liquidation p)
    (hp : p.symbol = symbol)
    (hpnl : 0 < p.closePrice → p.remainingPnl = t.side.gain t.entryPrice p.closePrice * t.rest) :
    (w.emit payload).Tells symbol none := by
  have hgone : (w.emit payload).runtime.openPositions.get? symbol = none := by
    rw [Wallet.runtime_emit, PortfolioState.openPositions_apply]
    rcases hpayload with rfl | rfl
    · exact hp ▸ Dict.get?_erase_self _ _
    · exact hp ▸ Dict.get?_erase_self _ _
  have hflat := Wallet.getOpenPosition_emit_none payload hgone
  rcases hpayload with rfl | rfl
  · exact h.emit (congrArg some hp) ⟨t, rfl, hpnl⟩ rfl (by rw [hflat]; rfl)
  · exact h.emit (congrArg some hp) ⟨t, rfl, hpnl⟩ rfl (by rw [hflat]; rfl)

/-- What a close at a price books for an open trade. -/
theorem closePayload_pnl {t : OpenTrade} {pos : EnhancedPosition} (hopen : pos.status = .opened)
    (hsize : pos.size = t.size) (closePrice fee : Decimal) (reason : String) :
    0 < (pos.closePayload symbol closePrice fee reason).closePrice →
      (pos.closePayload symbol closePrice fee reason).remainingPnl =
        t.side.gain t.entryPrice (pos.closePayload symbol closePrice fee reason).closePrice *
          t.rest := by
  intro hprice
  have hside : pos.side = t.side := congrArg PositionSize.side hsize
  have hentry : pos.entryPrice = t.entryPrice := congrArg PositionSize.entryPrice hsize
  have hquantity : pos.remainingQuantity = t.rest := congrArg PositionSize.quantity hsize
  show (pos.updatePnl closePrice).unrealizedPnl = t.side.gain t.entryPrice closePrice * t.rest
  rw [EnhancedPosition.updatePnl_unrealizedPnl pos closePrice hopen hprice, hside, hentry,
    hquantity]

/-- A full close. -/
theorem bookClose (h : w.Tells symbol t?) (markPrice : Decimal) (reason : String)
    (fill : Option ExternalFill) :
    (w.bookClose symbol markPrice reason fill).2.Tells symbol none := by
  unfold Wallet.bookClose
  cases hpos : w.getOpenPosition symbol with
  | none =>
      obtain rfl := h.none_of_flat hpos
      exact h
  | some pos =>
      obtain ⟨t, rfl, hsize⟩ := h.of_open hpos
      have hopen := (Wallet.getOpenPosition_eq_some.mp hpos).2
      refine (Wallet.Tells.tick ?_).appendHistory _ |>.save
      refine chargeTds ?_ _ _ _
      exact h.emit_close (.inl rfl) rfl (closePayload_pnl hopen hsize _ _ _)

theorem liquidatePosition (h : w.Tells symbol t?) (markPrice : Decimal) :
    (w.liquidatePosition symbol markPrice).Tells symbol none := by
  unfold Wallet.liquidatePosition
  cases hpos : w.getOpenPosition symbol with
  | none =>
      obtain rfl := h.none_of_flat hpos
      exact h
  | some pos =>
      obtain ⟨t, rfl, hsize⟩ := h.of_open hpos
      have hopen := (Wallet.getOpenPosition_eq_some.mp hpos).2
      refine (Wallet.Tells.tick ?_).appendHistory _ |>.save
      exact h.emit_close (.inr rfl) rfl (closePayload_pnl hopen hsize _ _ _)

/-- A partial close of a fraction books that fraction of the rest. -/
theorem bookPartial {t : OpenTrade} (h : w.Tells symbol (some t)) (hrest : 0 < t.rest)
    (markPrice : Decimal) {pct : Decimal} (hpct : 0 < pct ∧ pct ≤ 1) (reason : String)
    (tpLabel : Option String) (fill : Option ExternalFill) :
    let r := w.bookPartial symbol markPrice pct reason tpLabel fill
    r.1.isSome ∧ r.2.Tells symbol (some (t.slice (t.rest * pct))) := by
  obtain ⟨pos, hpos, hside, hentry, hquantity⟩ := h.position
  have htaken : 0 < t.rest * pct := mul_pos hrest hpct.1
  unfold Wallet.bookPartial
  rw [hpos]
  dsimp only
  rw [hquantity, if_neg (not_le.mpr htaken)]
  refine ⟨rfl, chargeTds ?_ _ _ _⟩
  refine editPosition ?_ symbol ?_ ?_ ?_ ?_
  · have hslice := h.emit_slice (p := pos.partialPayload symbol (w.exitPrice pos.side markPrice fill)
      (w.calculateFee (w.exitPrice pos.side markPrice fill * (t.rest * pct)) true) pct reason
      tpLabel) rfl
    simp only [EnhancedPosition.partialPayload, hquantity, hside, hentry] at hslice ⊢
    exact hslice htaken (mul_le_of_le_one_right hrest.le hpct.2) trivial
  · exact fun _ _ ho => ho
  · exact fun _ _ hf => ⟨hf.quantity, hf.entryPrice, hf.slPrice, hf.protectiveOrders⟩
  · exact fun _ => rfl
  · exact fun _ => rfl

/-- Whether the rest is dust. -/
theorem isDust_iff {t : OpenTrade} (h : w.Tells symbol (some t)) :
    w.isDust symbol ↔ t.rest ≤ 1 / 10000 := by
  obtain ⟨pos, hpos, -, -, hquantity⟩ := h.position
  unfold Wallet.isDust
  rw [hpos, Option.any_some, decide_eq_true_iff, hquantity]

/-- The trade after a partial close of a fraction: the slice is taken off, and
with it the rest when that is dust. -/
def afterSlice (t : OpenTrade) (pct : Decimal) : Option OpenTrade :=
  let left := t.slice (t.rest * pct)
  if left.rest ≤ 1 / 10000 then none else some left

theorem partialClose {t : OpenTrade} (h : w.Tells symbol (some t)) (hrest : 0 < t.rest)
    (markPrice : Decimal) {pct : Decimal} (hpct : 0 < pct ∧ pct ≤ 1) (reason : String)
    (tpLabel : Option String) (fill : Option ExternalFill) :
    (w.partialClose symbol markPrice pct reason tpLabel fill).2.Tells symbol (afterSlice t pct) := by
  obtain ⟨hbooked, htells⟩ := h.bookPartial hrest markPrice hpct reason tpLabel fill
  unfold Wallet.partialClose afterSlice
  revert hbooked htells
  generalize w.bookPartial symbol markPrice pct reason tpLabel fill = booked
  obtain ⟨pnl?, v⟩ := booked
  intro hbooked htells
  obtain ⟨pnl, rfl⟩ := Option.isSome_iff_exists.mp hbooked
  dsimp only
  by_cases hdust : (t.slice (t.rest * pct)).rest ≤ 1 / 10000
  · rw [if_pos (htells.isDust_iff.mpr hdust), if_pos hdust]
    exact htells.bookClose markPrice "FULL_VIA_PARTIALS" none
  · rw [if_neg (fun hd => hdust (htells.isDust_iff.mp hd)), if_neg hdust]
    exact htells.save

theorem partialClose_idle (hidle : ∀ pos, w.getOpenPosition symbol = some pos →
      pos.remainingQuantity * pct ≤ 0)
    (markPrice : Decimal) (reason : String)
    (tpLabel : Option String) (fill : Option ExternalFill) :
    (w.partialClose symbol markPrice pct reason tpLabel fill).2 = w := by
  unfold Wallet.partialClose Wallet.bookPartial
  cases hpos : w.getOpenPosition symbol with
  | none => rfl
  | some pos =>
      dsimp only
      rw [if_pos (hidle pos hpos)]

theorem adjustSlPrice (h : w.Tells symbol t?) (s : Symbol) (newSlPrice : Decimal) :
    (w.adjustSlPrice s newSlPrice).Tells symbol t? :=
  (h.emit_quiet (by simp [Payload.revalues?])).save

theorem activateTrailingStop (h : w.Tells symbol t?) (s : Symbol) :
    (w.activateTrailingStop s).Tells symbol t? :=
  (h.emit_quiet (by simp [Payload.revalues?])).save

theorem markPosition (h : w.Tells symbol t?) (s : Symbol) (markPrice : Decimal) :
    (w.markPosition s markPrice).Tells symbol t? := by
  refine h.editPosition s (fun _ _ ho => ho.updatePnl markPrice)
    (fun _ _ hf => hf.updatePnl markPrice) (fun pos => ?_) (fun pos => ?_)
  · exact (pos.updatePnl_frame markPrice).2.2.2.2.1
  · obtain ⟨-, hside, hentry, hquantity, -⟩ := pos.updatePnl_frame markPrice
    simp [EnhancedPosition.size, hside, hentry, hquantity]

/-- Funding is noted in fields of the position's own. -/
theorem applyFunding (h : w.Tells symbol t?) (s : Symbol) (fundingRate : Decimal) :
    (w.applyFunding s fundingRate).2.Tells symbol t? := by
  unfold Wallet.applyFunding
  cases hpos : w.getOpenPosition s with
  | none => exact h
  | some pos =>
      dsimp only
      have hput : ({ w with walletBalance := w.walletBalance + pos.fundingAmount fundingRate } :
          Wallet).setPosition s
            { pos with
              fundingPaid := pos.fundingPaid + pos.fundingAmount fundingRate
              partialRealizedPnl := pos.partialRealizedPnl + pos.fundingAmount fundingRate } =
          ({ w with walletBalance := w.walletBalance + pos.fundingAmount fundingRate } :
            Wallet).editPosition s (fun pos =>
            { pos with
              fundingPaid := pos.fundingPaid + pos.fundingAmount fundingRate
              partialRealizedPnl := pos.partialRealizedPnl + pos.fundingAmount fundingRate }) := by
        unfold Wallet.setPosition Wallet.editPosition Dict.modify
        rw [(Wallet.getOpenPosition_eq_some.mp hpos).1]
      rw [hput]
      have hcredit : ({ w with walletBalance := w.walletBalance + pos.fundingAmount fundingRate } :
          Wallet).Tells symbol t? := ⟨h.aligned, h.fits, h.story, h.held⟩
      refine (emit_quiet (hcredit.editPosition s ?_ ?_ ?_ ?_) ?_).save
      · exact fun _ _ ho => ho
      · exact fun _ _ hf => ⟨hf.quantity, hf.entryPrice, hf.slPrice, hf.protectiveOrders⟩
      · exact fun _ => rfl
      · exact fun _ => rfl
      · simp [Payload.revalues?]

end Wallet.Tells

/-! ## Bookings on another symbol -/

namespace Wallet.Tells

variable {symbol s : Symbol} {t? : Option OpenTrade} {w : Wallet} (h : w.Tells symbol t?)
  (hs : s ≠ symbol)
include h hs

theorem bookClose_other (markPrice : Decimal) (reason : String) (fill : Option ExternalFill) :
    (w.bookClose s markPrice reason fill).2.Tells symbol t? := by
  unfold Wallet.bookClose
  cases w.getOpenPosition s with
  | none => exact h
  | some pos =>
      refine (Wallet.Tells.tick (chargeTds (h.emit_quiet ?_) _ _ _)).appendHistory _ |>.save
      simpa [Payload.revalues?, EnhancedPosition.closePayload] using hs

theorem liquidatePosition_other (markPrice : Decimal) :
    (w.liquidatePosition s markPrice).Tells symbol t? := by
  unfold Wallet.liquidatePosition
  cases w.getOpenPosition s with
  | none => exact h
  | some pos =>
      refine (Wallet.Tells.tick (h.emit_quiet ?_)).appendHistory _ |>.save
      simpa [Payload.revalues?, EnhancedPosition.closePayload] using hs

theorem bookPartial_other (markPrice pct : Decimal) (reason : String) (tpLabel : Option String)
    (fill : Option ExternalFill) :
    (w.bookPartial s markPrice pct reason tpLabel fill).2.Tells symbol t? := by
  unfold Wallet.bookPartial
  cases w.getOpenPosition s with
  | none => exact h
  | some pos =>
      dsimp only
      by_cases hnothing : pos.remainingQuantity * pct ≤ 0
      · rw [if_pos hnothing]
        exact h
      · rw [if_neg hnothing]
        refine chargeTds (editPosition (h.emit_quiet ?_) s ?_ ?_ ?_ ?_) _ _ _
        · simpa [Payload.revalues?, EnhancedPosition.partialPayload] using hs
        · exact fun _ _ ho => ho
        · exact fun _ _ hf => ⟨hf.quantity, hf.entryPrice, hf.slPrice, hf.protectiveOrders⟩
        · exact fun _ => rfl
        · exact fun _ => rfl

theorem partialClose_other (markPrice pct : Decimal) (reason : String) (tpLabel : Option String)
    (fill : Option ExternalFill) :
    (w.partialClose s markPrice pct reason tpLabel fill).2.Tells symbol t? := by
  have hbooked := h.bookPartial_other hs markPrice pct reason tpLabel fill
  unfold Wallet.partialClose
  revert hbooked
  generalize w.bookPartial s markPrice pct reason tpLabel fill = booked
  obtain ⟨pnl?, v⟩ := booked
  intro hbooked
  cases pnl? with
  | none => exact hbooked
  | some pnl =>
      dsimp only
      split
      · exact hbooked.bookClose_other hs markPrice "FULL_VIA_PARTIALS" none
      · exact hbooked.save

end Wallet.Tells

/-! ## Openings -/

theorem Wallet.side_adoptedPosition (w : Wallet) (r : AdoptRequest) :
    (w.adoptedPosition r).side = r.side := by
  unfold adoptedPosition
  cases r.markPrice with
  | none => rfl
  | some mark =>
      dsimp only
      split
      · exact (EnhancedPosition.updatePnl_frame _ mark).2.1
      · rfl

namespace Wallet.Tells

variable {symbol : Symbol} {t? : Option OpenTrade} {w : Wallet}

/-- A position is put in on a flat symbol and announced. -/
theorem announce (h : w.Tells symbol t?) {s : Symbol} (hflat : s = symbol → t? = none)
    {pos : EnhancedPosition} (hpos : pos.OpenOn s) {payload : Payload} {p : OpenPayload}
    {adopted : Bool}
    (hpayload : payload = .positionOpened p ∧ adopted = false ∨
      payload = .positionAdopted p ∧ adopted = true)
    (hsymbol : p.symbol = s) (hside : p.side = pos.side)
    (hquantity : p.quantity = pos.remainingQuantity) (hentry : p.executionPrice = pos.entryPrice) :
    ∃ t'?, Advances t? t'? ∧
      ((w.setPosition s pos).syncUnrealizedTotal.emit payload).Tells symbol t'? := by
  obtain ⟨haligned, -, helse, ⟨pos', hpos', hsame⟩, -⟩ :=
    Wallet.announce_worth h.aligned hpos hpayload hsymbol hquantity hentry
  have hvalue : payload.revalues? = some s := by
    rcases hpayload with ⟨rfl, -⟩ | ⟨rfl, -⟩
    · exact congrArg some hsymbol
    · exact congrArg some hsymbol
  have hlog : ((w.setPosition s pos).syncUnrealizedTotal.emit payload).log =
      w.log ++ [(w.setPosition s pos).syncUnrealizedTotal.event payload] := Wallet.log_emit _ _
  by_cases heq : s = symbol
  · subst heq
    obtain rfl := hflat rfl
    have htell : payload.Fits none ∧ payload.tell none = some p.trade := by
      rcases hpayload with ⟨rfl, -⟩ | ⟨rfl, -⟩
      · exact ⟨rfl, rfl⟩
      · exact ⟨rfl, rfl⟩
    refine ⟨some p.trade, .opened rfl, haligned, ?_, ?_, ?_⟩
    · rw [hlog]
      exact h.fits.append (fun _ => h.story.symm ▸ htell.1)
    · rw [hlog, story_append, h.story]
      exact (if_pos hvalue).trans htell.2
    · rw [hpos']
      simp [EnhancedPosition.size, OpenTrade.size, OpenPayload.trade, OpenTrade.rest, hsame.side,
        hsame.entryPrice, hsame.remainingQuantity, hside, hquantity, hentry]
  · have hother : payload.revalues? ≠ some symbol := fun hv => heq (Option.some.inj (hvalue.symm.trans hv))
    refine ⟨t?, .same t?, haligned, ?_, ?_, ?_⟩
    · rw [hlog]
      exact h.fits.append (fun hv => absurd hv hother)
    · rw [hlog, story_append, h.story]
      exact if_neg hother
    · rw [← h.held]
      exact (helse symbol (Ne.symm heq)).size

theorem bookPosition (h : w.Tells symbol t?) {s : Symbol} (hflat : s = symbol → t? = none)
    (setup : Setup) (size : Sizing) (price fee markPrice : Decimal) :
    ∃ t'?, Advances t? t'? ∧ (w.bookPosition s setup size price fee markPrice).2.Tells symbol t'? := by
  obtain ⟨hstatus, hsymbol, hside, -⟩ := w.newPosition_frame s setup size price fee markPrice
  obtain ⟨-, hquantity⟩ := w.newPosition_carries s setup size price fee markPrice
  have hcharged (tds : Decimal) : ((w.tick.emit (.feeCharged fee "OPEN_FEE" s)).chargeTds tds
      "OPEN_TDS" s).Tells symbol t? :=
    (h.tick.emit_quiet (by simp [Payload.revalues?])).chargeTds tds "OPEN_TDS" s
  unfold Wallet.bookPosition
  dsimp only
  refine (hcharged _).announce hflat ?_ (.inl ⟨rfl, rfl⟩) ?_ rfl ?_ rfl
  · split
    · exact ⟨hsymbol, hstatus⟩
    · exact ⟨hsymbol, hstatus⟩
  · show (ite _ _ _ : EnhancedPosition).symbol = s
    split
    · exact hsymbol
    · exact hsymbol
  · show size.quantity = (ite _ _ _ : EnhancedPosition).remainingQuantity
    split
    · exact hquantity.symm
    · exact hquantity.symm

theorem openPosition (h : w.Tells symbol t?) (s : Symbol) (setup : Setup) (markPrice : Decimal)
    (customMargin customQuantity : Option Decimal) (fill : Option ExternalFill) :
    ∃ t'?, Advances t? t'? ∧
      (w.openPosition s setup markPrice customMargin customQuantity fill).2.Tells symbol t'? := by
  have hbooked : ∃ t'?, Advances t? t'? ∧
      (w.bookOpen s setup markPrice customMargin customQuantity fill none).2.Tells symbol t'? := by
    unfold Wallet.bookOpen
    cases hsize : w.sizeOpen s setup customMargin customQuantity none with
    | error e => exact ⟨t?, .same t?, h⟩
    | ok size? =>
        cases size? with
        | none => exact ⟨t?, .same t?, h⟩
        | some size =>
            have hflat : s = symbol → t? = none := by
              rintro rfl
              refine h.none_of_flat (w.flat_of_canOpen ?_)
              by_contra hcan
              rw [Wallet.sizeOpen, if_pos (by simpa using hcan)] at hsize
              cases hsize
            have horder := (ordersKeep symbol t?).createOrderWithType h
              { symbol := s, side := setup.side, quantity := size.quantity, orderType := .market }
            have hentry := (ordersKeep symbol t?).executeEntry horder
              (w.createOrder s setup.side size.quantity).1 s setup size.quantity markPrice fill
            dsimp only
            change ((w.createOrder s setup.side size.quantity).2.executeEntry _ s setup
              size.quantity markPrice fill).2.Tells symbol t? at hentry
            revert hentry
            generalize (w.createOrder s setup.side size.quantity).2.executeEntry
              (w.createOrder s setup.side size.quantity).1 s setup size.quantity markPrice fill = entry
            obtain ⟨filled?, v⟩ := entry
            intro hentry
            cases filled? with
            | none => exact ⟨t?, .same t?, hentry⟩
            | some filled => exact hentry.bookPosition hflat setup size filled.1 filled.2 markPrice
  unfold Wallet.openPosition
  revert hbooked
  generalize w.bookOpen s setup markPrice customMargin customQuantity fill none = booked
  obtain ⟨result, v⟩ := booked
  rintro ⟨t'?, hrenewed, htells⟩
  refine ⟨t'?, hrenewed, ?_⟩
  split
  · next heq =>
      obtain ⟨-, rfl⟩ := Prod.mk.inj heq
      exact htells.save
  · next heq =>
      obtain ⟨-, rfl⟩ := Prod.mk.inj heq
      exact htells

theorem adoptVenuePosition (h : w.Tells symbol t?) (r : AdoptRequest) :
    ∃ t'?, Advances t? t'? ∧ (w.adoptVenuePosition r).2.Tells symbol t'? := by
  have hbooked : ∃ t'?, Advances t? t'? ∧ (w.bookAdoption r).2.Tells symbol t'? := by
    unfold Wallet.bookAdoption
    by_cases hopen : (w.getOpenPosition r.symbol).isSome
    · rw [if_pos hopen]
      exact ⟨t?, .same t?, h⟩
    · rw [if_neg hopen]
      by_cases hbad : r.quantity ≤ 0 ∨ r.entryPrice ≤ 0
      · rw [if_pos hbad]
        exact ⟨t?, .same t?, h⟩
      · rw [if_neg hbad]
        obtain ⟨hput, hentry, hquantity, -⟩ := w.adoptedPosition_carries r
        refine h.tick.announce (fun heq => ?_) hput (.inr ⟨rfl, rfl⟩) rfl ?_ hquantity.symm
          hentry.symm
        · exact h.none_of_flat (heq ▸ Option.not_isSome_iff_eq_none.mp hopen)
        · exact (w.side_adoptedPosition r).symm
  unfold Wallet.adoptVenuePosition
  revert hbooked
  generalize w.bookAdoption r = booked
  obtain ⟨pos?, v⟩ := booked
  rintro ⟨t'?, hrenewed, htells⟩
  refine ⟨t'?, hrenewed, ?_⟩
  cases pos? with
  | none => exact htells
  | some pos => exact htells.save

end Wallet.Tells

/-! ## Runs -/

/-- The partial closes of an operation, those of its marks included, are of
fractions. -/
def PaperOp.Fractional (w : Wallet) : PaperOp → Prop
  | .call (.partialClose _ _ pct ..) => 0 < pct ∧ pct ≤ 1
  | .updatePositions _ symbol _ => ∀ pos, w.getOpenPosition symbol = some pos →
      ∀ tp ∈ pos.tpLevels, 0 < tp.pct ∧ tp.pct ≤ 1
  | .call _ => True

namespace Wallet.Tells

variable {symbol : Symbol} {t? : Option OpenTrade} {w : Wallet}

theorem afterSlice_advances {t : OpenTrade} {pct : Decimal} (hrest : 0 < t.rest) (hpct : 0 < pct) :
    Advances (some t) (afterSlice t pct) := by
  unfold afterSlice
  dsimp only
  split_ifs with hdust
  · exact .ended _
  · exact .sliced t (mul_pos hrest hpct) (not_le.mp hdust)

theorem partialClose_advances (h : w.Tells symbol t?) (s : Symbol) (markPrice : Decimal)
    {pct : Decimal} (hpct : 0 < pct ∧ pct ≤ 1) (reason : String) (tpLabel : Option String)
    (fill : Option ExternalFill) :
    ∃ t'?, Advances t? t'? ∧
      (w.partialClose s markPrice pct reason tpLabel fill).2.Tells symbol t'? := by
  by_cases hs : s = symbol
  · subst hs
    by_cases hrest : ∃ t, t? = some t ∧ 0 < t.rest
    · obtain ⟨t, rfl, hrest⟩ := hrest
      exact ⟨_, afterSlice_advances hrest hpct.1, h.partialClose hrest markPrice hpct reason tpLabel
        fill⟩
    · refine ⟨t?, .same t?, ?_⟩
      rw [partialClose_idle (fun pos hpos => ?_) markPrice reason tpLabel fill]
      · exact h
      · obtain ⟨t, rfl, hsize⟩ := h.of_open hpos
        have hquantity : pos.remainingQuantity = t.rest := congrArg PositionSize.quantity hsize
        have hnone : t.rest ≤ 0 := not_lt.mp (fun hlt => hrest ⟨t, rfl, hlt⟩)
        rw [hquantity]
        exact mul_nonpos_of_nonpos_of_nonneg hnone hpct.1.le
  · exact ⟨t?, .same t?, h.partialClose_other hs markPrice pct reason tpLabel fill⟩

theorem closePosition_advances (h : w.Tells symbol t?) (s : Symbol) (markPrice : Decimal)
    (reason : String) (fill : Option ExternalFill) :
    ∃ t'?, Advances t? t'? ∧ (w.closePosition s markPrice reason fill).2.Tells symbol t'? := by
  by_cases hs : s = symbol
  · subst hs
    exact ⟨none, .ended t?, h.bookClose markPrice reason fill⟩
  · exact ⟨t?, .same t?, h.bookClose_other hs markPrice reason fill⟩

theorem liquidatePosition_advances (h : w.Tells symbol t?) (s : Symbol) (markPrice : Decimal) :
    ∃ t'?, Advances t? t'? ∧ (w.liquidatePosition s markPrice).Tells symbol t'? := by
  by_cases hs : s = symbol
  · subst hs
    exact ⟨none, .ended t?, h.liquidatePosition markPrice⟩
  · exact ⟨t?, .same t?, h.liquidatePosition_other hs markPrice⟩

theorem takeProfit_advances (h : w.Tells symbol t?) (s : Symbol) (markPrice entryPrice : Decimal)
    {tp : TpLevel} (hpct : 0 < tp.pct ∧ tp.pct ≤ 1) :
    ∃ t'?, Advances t? t'? ∧
      (w.takePlaybookExit s markPrice entryPrice (.takeProfit tp)).Tells symbol t'? := by
  obtain ⟨t'?, hadvances, htells⟩ :=
    h.partialClose_advances s markPrice hpct s!"{tp.label} HIT" (some tp.label) none
  refine ⟨t'?, hadvances, ?_⟩
  unfold Wallet.takePlaybookExit
  dsimp only
  split_ifs
  · exact htells.adjustSlPrice s entryPrice
  · exact htells.activateTrailingStop s
  · exact htells

theorem updatePositions_advances (h : w.Tells symbol t?) (rules : ExitRules) (s : Symbol)
    (u : MarkUpdate) (hfine : (PaperOp.updatePositions rules s u).Fractional w) :
    ∃ t'?, Advances t? t'? ∧ (w.updatePositions rules s u).Tells symbol t'? := by
  unfold Wallet.updatePositions
  cases hpos : w.getOpenPosition s with
  | none => exact ⟨t?, .same t?, h.syncUnrealizedTotal⟩
  | some pos =>
      have hmarked := h.markPosition s u.markPrice
      dsimp only
      cases (w.markPosition s u.markPrice).forcedExit rules (pos.updatePnl u.markPrice) u with
      | some exit =>
          cases exit with
          | liquidation => exact hmarked.liquidatePosition_advances s u.markPrice
          | close reason => exact hmarked.closePosition_advances s u.markPrice reason none
      | none =>
          cases hplaybook : (w.markPosition s u.markPrice).playbookExit rules
              (pos.updatePnl u.markPrice) u with
          | none => exact ⟨t?, .same t?, hmarked.syncUnrealizedTotal⟩
          | some exit =>
              cases exit with
              | close reason =>
                  obtain ⟨t'?, hadvances, htells⟩ :=
                    hmarked.closePosition_advances s u.markPrice reason none
                  exact ⟨t'?, hadvances, htells.syncUnrealizedTotal⟩
              | takeProfit tp =>
                  have hlevel := (Wallet.target_of_playbookExit hplaybook).1
                  rw [EnhancedPosition.tpLevels_updatePnl] at hlevel
                  obtain ⟨t'?, hadvances, htells⟩ := hmarked.takeProfit_advances s u.markPrice
                    (pos.updatePnl u.markPrice).entryPrice (hfine pos hpos tp hlevel)
                  exact ⟨t'?, hadvances, htells.syncUnrealizedTotal⟩

/-- What one operation makes of the trade. -/
theorem run (h : w.Tells symbol t?) (op : PaperOp) (hfine : op.Fractional w) :
    ∃ t'?, Advances t? t'? ∧ (op.run w).Tells symbol t'? := by
  have horders := ordersKeep symbol t?
  cases op with
  | updatePositions rules s u => exact h.updatePositions_advances rules s u hfine
  | call op =>
      cases op with
      | openPosition s setup markPrice customMargin customQuantity fill =>
          exact h.openPosition s setup markPrice customMargin customQuantity fill
      | adoptVenuePosition r => exact h.adoptVenuePosition r
      | partialClose s markPrice pct reason tpLabel fill =>
          exact h.partialClose_advances s markPrice hfine reason tpLabel fill
      | closePosition s markPrice reason fill =>
          exact h.closePosition_advances s markPrice reason fill
      | liquidatePosition s markPrice => exact h.liquidatePosition_advances s markPrice
      | applyFunding s rate => exact ⟨t?, .same t?, h.applyFunding s rate⟩
      | adjustSlPrice s price => exact ⟨t?, .same t?, h.adjustSlPrice s price⟩
      | activateTrailingStop s => exact ⟨t?, .same t?, h.activateTrailingStop s⟩
      | placePendingOrder r => exact ⟨t?, .same t?, horders.placePendingOrder h r⟩
      | evaluatePendingOrders s price => exact ⟨t?, .same t?, horders.evaluatePendingOrders h s price⟩
      | cancelOrder id reason => exact ⟨t?, .same t?, horders.cancelOrder h id reason⟩

/-- A new wallet has no trade. -/
theorem boot (init : WalletInit) (clock : Nat → Nat) (redisUp : Bool) (symbol : Symbol) :
    (Wallet.boot init clock {} redisUp).Tells symbol none := by
  have hlog : (Wallet.boot init clock {} redisUp).log =
      [] ++ [(Wallet.blank init clock {}).event (.walletInitialized init.cfg.initialBalance)] := by
    rw [Wallet.boot_empty, Wallet.log_emit]
    rfl
  have hnil : FittingLog symbol [] := by
    intro before e after hsplit
    simp at hsplit
  refine ⟨Wallet.Aligned.boot init clock redisUp, ?_, ?_, ?_⟩
  · rw [hlog]
    exact hnil.append (fun hv => by simp [Payload.revalues?, Wallet.event] at hv)
  · rw [hlog, story_append]
    rfl
  · rw [Wallet.boot_empty]
    rfl

end Wallet.Tells

/-- The log tells a trade that a slice never left with dust. -/
def Wallet.Sliced (symbol : Symbol) (w : Wallet) : Prop :=
  ∃ t?, w.Tells symbol t? ∧ ∀ t, t? = some t → 0 < t.sliced → 1 / 10000 < t.rest

theorem Wallet.Sliced.run {symbol : Symbol} {w : Wallet} (h : w.Sliced symbol) (op : PaperOp)
    (hfine : op.Fractional w) : (op.run w).Sliced symbol := by
  obtain ⟨t?, htells, hdust⟩ := h
  obtain ⟨t'?, hadvances, htells'⟩ := htells.run op hfine
  refine ⟨t'?, htells', ?_⟩
  cases hadvances with
  | same => exact hdust
  | opened hnone =>
      rintro t ⟨⟩ hsliced
      exact absurd hnone hsliced.ne'
  | sliced t hpos hleft =>
      rintro _ ⟨⟩ -
      exact hleft
  | ended =>
      intro t ht
      cases ht

/-- The quantity of the trades of a symbol is conserved: every event fits the
trade before it, the wallet holds what the slices left, which is no dust, an
operation leaves the trade its quantity and no more of it, and a partial close
takes its fraction off, or everything when it would leave dust. -/
structure Wallet.SlicesConserve (symbol : Symbol) (w : Wallet) : Prop where
  fits : FittingLog symbol w.log
  held : (w.getOpenPosition symbol).map EnhancedPosition.size =
    (story symbol w.log).map OpenTrade.size
  dust : ∀ t, story symbol w.log = some t → 0 < t.sliced → 1 / 10000 < t.rest
  shrinks : ∀ (op : PaperOp), op.Fractional w → ∀ t t', story symbol w.log = some t →
    story symbol (op.run w).log = some t' → t'.original = t.original ∧ t'.rest ≤ t.rest
  slice : ∀ t, story symbol w.log = some t → 0 < t.rest →
    ∀ (markPrice pct : Decimal) (reason : String) (tpLabel : Option String)
      (fill : Option ExternalFill), 0 < pct → pct ≤ 1 →
      let w' := (w.partialClose symbol markPrice pct reason tpLabel fill).2
      story symbol w'.log = Wallet.Tells.afterSlice t pct ∧
        (w'.getOpenPosition symbol).map EnhancedPosition.size =
          (Wallet.Tells.afterSlice t pct).map OpenTrade.size

/-- **In every run of a paper wallet whose partial closes are of fractions,
slices conserve quantity.** -/
theorem Wallet.slicesConserve_of_reaches (init : WalletInit) (clock : Nat → Nat) (redisUp : Bool)
    (symbol : Symbol) (w : Wallet)
    (hrun : Reaches PaperOp.run PaperOp.Fractional (Wallet.boot init clock {} redisUp) w) :
    w.SlicesConserve symbol := by
  have hinv : w.Sliced symbol := hrun.invariant
    ⟨none, .boot init clock redisUp symbol, fun t ht => by cases ht⟩ (fun _ op h hop => h.run op hop)
  obtain ⟨t?, htells, hdust⟩ := hinv
  obtain rfl := htells.story
  refine ⟨htells.fits, htells.held, hdust, ?_, ?_⟩
  · intro op hfine t t' ht ht'
    obtain ⟨t'?, hadvances, htells'⟩ := htells.run op hfine
    rw [ht, ← htells'.story, ht'] at hadvances
    exact hadvances.shrinks
  · intro t ht hrest markPrice pct reason tpLabel fill hpos hle
    rw [ht] at htells
    have hafter := htells.partialClose hrest markPrice ⟨hpos, hle⟩ reason tpLabel fill
    exact ⟨hafter.story, hafter.held⟩

/-! ## A trade of dust -/

/-- A long of this quantity at 100. -/
def demoBought (quantity : Decimal) : List PaperOp :=
  [.call (.openPosition demoSymbol
    { side := .long, playbook := .swing, entryPrice := 100, slPrice := 95 } 100 none (some quantity)
    none)]

def demoTrim (markPrice pct : Decimal) : PaperOp :=
  .call (.partialClose demoSymbol markPrice pct "TRIM" none none)

/-- Ten units, of which a half and then three quarters are closed. -/
theorem Wallet.slicesConserve_of_reaches_trims :
    Wallet.SlicesConserve demoSymbol
      ((demoBought 10 ++ [demoTrim 110 (1 / 2), demoTrim 120 (3 / 4)]).foldl PaperOp.run
        (Wallet.boot demoInit (fun n => n) {} false)) :=
  Wallet.slicesConserve_of_reaches demoInit (fun n => n) false demoSymbol _
    (Reaches.foldl _ .start ⟨trivial, ⟨by norm_num, by norm_num⟩, ⟨by norm_num, by norm_num⟩, trivial⟩)

/-- A quarter of 0.00005 units is asked for, and all of it is closed. -/
theorem Wallet.dust_flattened :
    ¬ ∀ (init : WalletInit) (clock : Nat → Nat) (redisUp : Bool) (symbol : Symbol) (w : Wallet),
      Reaches PaperOp.run PaperOp.Fractional (Wallet.boot init clock {} redisUp) w →
      ∀ pos, w.getOpenPosition symbol = some pos → 0 < pos.remainingQuantity →
        pos.originalQuantity ≤ 1 / 10000 → ∀ (markPrice pct : Decimal), 0 < pct → pct < 1 →
          ((w.partialClose symbol markPrice pct "TRIM" none none).2.getOpenPosition symbol).isSome := by
  intro h
  have hrun : Reaches PaperOp.run PaperOp.Fractional (Wallet.boot demoInit (fun n => n) {} false)
      ((demoBought (1 / 20000)).foldl PaperOp.run (Wallet.boot demoInit (fun n => n) {} false)) :=
    Reaches.foldl _ .start ⟨trivial, trivial⟩
  have hheld : (((demoBought (1 / 20000)).foldl PaperOp.run
      (Wallet.boot demoInit (fun n => n) {} false)).getOpenPosition demoSymbol).any (fun pos =>
        0 < pos.remainingQuantity ∧ pos.originalQuantity ≤ 1 / 10000) = true := by decide +kernel
  obtain ⟨pos, hpos, hsmall⟩ := (Option.any_eq_true _ _).mp hheld
  rw [decide_eq_true_iff] at hsmall
  have hopen := h demoInit (fun n => n) false demoSymbol _ hrun pos hpos hsmall.1 hsmall.2 110 (1 / 4)
    (by norm_num) (by norm_num)
  revert hopen
  decide +kernel

end CryptoTrader
