import CryptoTrader.Wallet.Conservation
import CryptoTrader.Wallet.Exits
import CryptoTrader.Wallet.OwnFields

/-!
# The realized PnL a trade reports

`partial_realized_pnl` of a closed position goes into the history and is
published as `TradeClosedEvent.realized_pnl`.  Each booking adds to it by a rule
of its own.  What the trade did to the balance is kept beside the wallet, read off the
events its operations appended.
-/

namespace CryptoTrader

open CryptoTrader.Lib

/-! ## Runs -/

/-- `TradeClosedEvent`, without the duration. -/
structure TradeClosedEvent where
  symbol : Symbol
  side : PositionSide
  realizedPnl : Decimal
  pnlPercent : Decimal
  exitPrice : Option Decimal
  reason : Option String
  fees : Decimal
  tds : Decimal
  walletBalance : Decimal

/-- The event published for a record of the history. -/
def EnhancedPosition.tradeClosed (record : EnhancedPosition) (walletBalance : Decimal) :
    TradeClosedEvent where
  symbol := record.symbol
  side := record.side
  realizedPnl := record.partialRealizedPnl
  pnlPercent :=
    if 0 < record.marginUsed then record.partialRealizedPnl / record.marginUsed * 100 else 0
  exitPrice := record.closePrice
  reason := record.closeReason
  fees := record.feesPaid
  tds := record.tdsPaid
  walletBalance := walletBalance

/-- The operations of a paper wallet, with the marks that drive its exits. -/
inductive PaperOp where
  | call (op : Operation)
  | updatePositions (rules : ExitRules) (symbol : Symbol) (u : MarkUpdate)

def PaperOp.run (w : Wallet) : PaperOp → Wallet
  | .call op => op.run w
  | .updatePositions rules symbol u => w.updatePositions rules symbol u

/-- The symbol whose trade an operation is part of. -/
def PaperOp.trade? : PaperOp → Option Symbol
  | .call (.openPosition symbol ..) | .call (.partialClose symbol ..)
  | .call (.closePosition symbol ..) | .call (.liquidatePosition symbol ..)
  | .call (.applyFunding symbol ..) | .updatePositions _ symbol _ => some symbol
  | .call (.adoptVenuePosition r) => some r.symbol
  | .call (.adjustSlPrice ..) | .call (.activateTrailingStop ..) | .call (.placePendingOrder ..)
  | .call (.evaluatePendingOrders ..) | .call (.cancelOrder ..) => none

/-- The opening fee, from the wallet and the arguments before it. -/
def PaperOp.openFee (w : Wallet) : PaperOp → Decimal
  | .call (.openPosition symbol setup markPrice customMargin customQuantity externalFill) =>
      match w.sizeOpen symbol setup customMargin customQuantity none with
      | .ok (some size) => w.openFee setup size.quantity markPrice externalFill
      | _ => 0
  | _ => 0

/-- What the events of the log have added to the balance. -/
def Wallet.cashFlow (w : Wallet) : Decimal := tally Payload.cash w.log

/-- The wallet and its trades. -/
structure TradeBook where
  wallet : Wallet
  /-- What the events of the open trade of a symbol have added to the balance. -/
  cash : Symbol → Decimal
  openFee : Symbol → Decimal
  /-- The record of every trade that ended, with what its events added. -/
  ended : List (EnhancedPosition × Decimal)

def TradeBook.step (b : TradeBook) (op : PaperOp) : TradeBook :=
  let w := op.run b.wallet
  match op.trade? with
  | none => { b with wallet := w }
  | some symbol =>
      let held := (b.wallet.getOpenPosition symbol).isSome
      let cash := (if held then b.cash symbol else 0) + (w.cashFlow - b.wallet.cashFlow)
      { wallet := w
        cash := Function.update b.cash symbol cash
        openFee :=
          if held then b.openFee else Function.update b.openFee symbol (op.openFee b.wallet)
        ended := b.ended ++ (w.positionHistory.drop b.wallet.positionHistory.length).map
          (fun record => (record, cash)) }

/-- A wallet over empty stores. -/
def TradeBook.start (init : WalletInit) (clock : Nat → Nat) (redisUp : Bool) : TradeBook where
  wallet := Wallet.boot init clock {} redisUp
  cash := fun _ => 0
  openFee := fun _ => 0
  ended := []

/-- Every trade that ended reported what its events added to the balance, in the
history and to its subscribers. -/
def TradeBook.Reported (b : TradeBook) : Prop :=
  ∀ trade ∈ b.ended, trade.1.partialRealizedPnl = trade.2 ∧
    ∀ balance, (trade.1.tradeClosed balance).realizedPnl = trade.2

/-! ## The end of a trade -/

/-- The booking that ends a trade. -/
inductive Ending where
  | close (markPrice : Decimal) (externalFill : Option ExternalFill)
  | liquidation (markPrice : Decimal)

/-- What an ending takes from the balance beyond what it reports: a close its
fee and its TDS, a liquidation the PnL it leaves out. -/
def Ending.charges (w : Wallet) (pos : EnhancedPosition) : Ending → Decimal
  | .close markPrice externalFill =>
      let gross := w.exitPrice pos.side markPrice externalFill * pos.remainingQuantity
      w.calculateFee gross true + max 0 (w.calculateTds (pos.side = .long) gross)
  | .liquidation markPrice => -(pos.updatePnl markPrice).unrealizedPnl

/-- The ending a partial close chains into, with the wallet before it. -/
def Wallet.partialEnding (w : Wallet) (symbol : Symbol) (markPrice pct : Decimal)
    (reason : String) (tpLabel : Option String) (externalFill : Option ExternalFill) :
    Option (Wallet × Ending) :=
  match w.bookPartial symbol markPrice pct reason tpLabel externalFill with
  | (none, _) => none
  | (some _, w) => if w.isDust symbol then some (w, .close markPrice none) else none

/-- The ending a mark leads to. -/
def Wallet.updateEnding (w : Wallet) (rules : ExitRules) (symbol : Symbol) (u : MarkUpdate) :
    Option (Wallet × Ending) :=
  match w.getOpenPosition symbol with
  | none => none
  | some pos =>
      let pos := pos.updatePnl u.markPrice
      let w := w.markPosition symbol u.markPrice
      match w.forcedExit rules pos u with
      | some .liquidation => some (w, .liquidation u.markPrice)
      | some (.close _) => some (w, .close u.markPrice none)
      | none =>
          match w.playbookExit rules pos u with
          | some (.close _) => some (w, .close u.markPrice none)
          | some (.takeProfit tp) =>
              w.partialEnding symbol u.markPrice tp.pct s!"{tp.label} HIT" (some tp.label) none
          | none => none

def PaperOp.ending (w : Wallet) : PaperOp → Option (Wallet × Ending)
  | .call (.partialClose symbol markPrice pct reason tpLabel externalFill) =>
      w.partialEnding symbol markPrice pct reason tpLabel externalFill
  | .call (.closePosition _ markPrice _ externalFill) => some (w, .close markPrice externalFill)
  | .call (.liquidatePosition _ markPrice) => some (w, .liquidation markPrice)
  | .updatePositions rules symbol u => w.updateEnding rules symbol u
  | .call (.openPosition ..) | .call (.adoptVenuePosition ..) | .call (.applyFunding ..)
  | .call (.adjustSlPrice ..) | .call (.activateTrailingStop ..) | .call (.placePendingOrder ..)
  | .call (.evaluatePendingOrders ..) | .call (.cancelOrder ..) => none

/-- If the operation ends the trade of a position, what the trade was charged
and does not report adds up to nothing: its opening fee, which is booked twice,
the TDS of its opening and its slices, and the charges of its end. -/
def TradeBook.NothingLeftOut (b : TradeBook) (op : PaperOp) : Prop :=
  ∀ symbol ∈ op.trade?, ∀ last ∈ op.ending b.wallet, ∀ pos ∈ last.1.getOpenPosition symbol,
    2 * b.openFee symbol + pos.tdsPaid + last.2.charges last.1 pos = 0

/-! ## Cash and what a position knows of it -/

section Cash

variable (w : Wallet)

@[simp] theorem Wallet.cashFlow_emit (payload : Payload) :
    (w.emit payload).cashFlow = w.cashFlow + payload.cash := by
  unfold cashFlow
  rw [Wallet.log_emit, tally_append, tally_singleton]
  rfl

@[simp] theorem Wallet.cashFlow_save : w.save.cashFlow = w.cashFlow := by
  unfold cashFlow
  rw [Wallet.log_save]

@[simp] theorem Wallet.cashFlow_chargeTds (amount : Decimal) (reason : String) (symbol : Symbol) :
    (w.chargeTds amount reason symbol).cashFlow = w.cashFlow - max 0 amount := by
  unfold chargeTds
  split_ifs with h
  · rw [cashFlow_emit, max_eq_right h.le, Payload.cash, sub_eq_add_neg]
  · rw [max_eq_left (not_lt.mp h), sub_zero]

theorem Wallet.cashFlow_recordFill (order : Order) (qty fillPrice fee : Decimal) (sequence : Nat) :
    (w.recordFill order qty fillPrice fee sequence).cashFlow = w.cashFlow - fee := by
  unfold recordFill
  rw [cashFlow_emit, Payload.cash, sub_eq_add_neg]

theorem Wallet.cashFlow_executeChunks (order : Order) (chunkQty fillPrice feeRate : Decimal)
    (left : Nat) : ∀ (idx : Nat) (remaining totalFee : Decimal) (w : Wallet),
      (executeChunks order chunkQty fillPrice feeRate left idx remaining totalFee w).2.cashFlow =
        w.cashFlow - chunkFees chunkQty fillPrice feeRate left remaining := by
  induction left with
  | zero => intro idx remaining totalFee w; simp [executeChunks, chunkFees]
  | succ left ih =>
      intro idx remaining totalFee w
      simp only [executeChunks, chunkFees]
      rw [ih, cashFlow_recordFill]
      ring

/-- An executed entry is charged its opening fee once by its fills. -/
theorem Wallet.cashFlow_executeEntry (order : Order) (symbol : Symbol) (setup : Setup)
    (qty markPrice : Decimal) (externalFill : Option ExternalFill) {price fee : Decimal}
    {w' : Wallet}
    (h : w.executeEntry order symbol setup qty markPrice externalFill = (some (price, fee), w')) :
    w'.cashFlow = w.cashFlow - w.openFee setup qty markPrice externalFill := by
  unfold executeEntry at h
  unfold openFee
  cases externalFill with
  | some fill =>
      obtain ⟨-, rfl⟩ := Prod.mk.inj h
      exact cashFlow_recordFill w order qty fill.price fill.fee 1
  | none =>
      cases hstyle : setup.entryOrderStyle with
      | makerLimit =>
          simp only [hstyle] at h
          obtain ⟨-, rfl⟩ := Prod.mk.inj h
          exact cashFlow_recordFill w order qty _ _ 1
      | market =>
          simp only [hstyle] at h
          split_ifs at h
          · cases (Prod.mk.inj h).1
          · obtain ⟨-, rfl⟩ := Prod.mk.inj h
            exact cashFlow_executeChunks order _ _ _ _ 1 qty 0 w

end Cash

/-- What a position's record knows of its effect on the balance. -/
def EnhancedPosition.booked (pos : EnhancedPosition) : Decimal :=
  pos.partialRealizedPnl - pos.tdsPaid

theorem EnhancedPosition.ownField_booked : OwnField EnhancedPosition.booked := fun _ _ => rfl

@[simp] theorem EnhancedPosition.partialRealizedPnl_updatePnl (pos : EnhancedPosition)
    (markPrice : Decimal) :
    (pos.updatePnl markPrice).partialRealizedPnl = pos.partialRealizedPnl := by
  unfold updatePnl
  split <;> rfl

@[simp] theorem EnhancedPosition.tdsPaid_updatePnl (pos : EnhancedPosition) (markPrice : Decimal) :
    (pos.updatePnl markPrice).tdsPaid = pos.tdsPaid := by
  unfold updatePnl
  split <;> rfl

/-- The trade of a symbol goes on, or there is none: what the position knows of
its cash keeps up with the balance. -/
structure Wallet.Continues (symbol : Symbol) (w w' : Wallet) : Prop where
  frame : Wallet.KeepsField EnhancedPosition.booked (some symbol) w w'
  here : (w'.getOpenPosition symbol).map (fun pos => w'.cashFlow - pos.booked) =
    (w.getOpenPosition symbol).map (fun pos => w.cashFlow - pos.booked)
  flat : w.getOpenPosition symbol = none → w'.cashFlow = w.cashFlow

namespace Wallet.Continues

variable {symbol : Symbol} {u v w : Wallet}

theorem refl (h : w.Aligned) : Continues symbol w w := ⟨.refl h, rfl, fun _ => rfl⟩

theorem flat_of_flat (h : Continues symbol u v) (hflat : u.getOpenPosition symbol = none) :
    v.getOpenPosition symbol = none := by
  simpa [hflat] using h.here

theorem trans (h : Continues symbol u v) (h' : Continues symbol v w) : Continues symbol u w :=
  ⟨h.frame.trans h'.frame, h'.here.trans h.here,
    fun hflat => (h'.flat (h.flat_of_flat hflat)).trans (h.flat hflat)⟩

/-- Where no cash moves and no position changes what it knows. -/
theorem of_frame (hframe : KeepsField EnhancedPosition.booked none u v) (hcash : v.cashFlow = u.cashFlow) :
    Continues symbol u v := by
  refine ⟨hframe.weaken _, ?_, fun _ => hcash⟩
  have hkept := hframe.elsewhere symbol (by simp)
  have hmap := congrArg (Option.map (fun x => u.cashFlow - x)) hkept
  rw [Option.map_map, Option.map_map] at hmap
  rw [hcash]
  exact hmap

/-- A position takes note of the cash its events moved. -/
theorem of_noted (hframe : KeepsField EnhancedPosition.booked (some symbol) u v)
    {pos : EnhancedPosition} (hpos : u.getOpenPosition symbol = some pos) {amount : Decimal}
    (hcash : v.cashFlow = u.cashFlow + amount)
    (hnoted : (v.getOpenPosition symbol).map EnhancedPosition.booked = some (pos.booked + amount)) :
    Continues symbol u v := by
  obtain ⟨pos', hpos', hbooked⟩ := Option.map_eq_some_iff.mp hnoted
  refine ⟨hframe, ?_, fun hflat => ?_⟩
  · rw [hpos, hpos', Option.map_some, Option.map_some, hcash, hbooked]
    congr 1
    ring
  · rw [hpos] at hflat
    cases hflat

end Wallet.Continues

/-- The trade of a symbol ends: a record is written, with the PnL so far and
what the ending added to the balance, but for its charges. -/
structure Wallet.Ends (symbol : Symbol) (w w' : Wallet) (pos : EnhancedPosition) (last : Ending) :
    Prop where
  aligned : w'.Aligned
  elsewhere : ∀ s, s ≠ symbol → (w'.getOpenPosition s).map EnhancedPosition.booked =
    (w.getOpenPosition s).map EnhancedPosition.booked
  flat : w'.getOpenPosition symbol = none
  record : ∃ record, w'.positionHistory = w.positionHistory ++ [record] ∧
    record.partialRealizedPnl =
      pos.partialRealizedPnl + (w'.cashFlow - w.cashFlow) + last.charges w pos

/-- Writing the record ends the trade. -/
theorem Wallet.KeepsField.ends {symbol : Symbol} {w w₁ : Wallet} {pos record : EnhancedPosition}
    {last : Ending} (h : Wallet.KeepsField EnhancedPosition.booked (some symbol) w w₁)
    (hflat : w₁.getOpenPosition symbol = none)
    (hrecord : record.partialRealizedPnl =
      pos.partialRealizedPnl + (w₁.cashFlow - w.cashFlow) + last.charges w pos) :
    Wallet.Ends symbol w (w₁.tick.appendHistory record).save pos last := by
  refine ⟨fun s => ?_, fun s hs => ?_, hflat, record, ?_, ?_⟩
  · exact Wallet.AlignedAt.save (w := w₁.tick.appendHistory record) (h.aligned s)
  · exact h.elsewhere s (fun heq => hs (Option.some.inj heq).symm)
  · show w₁.positionHistory ++ _ = _
    rw [h.history]
  · rw [Wallet.cashFlow_save]
    exact hrecord

/-- A trade may begin on a flat symbol: its position knows all of its cash but
the opening fee, which its fills and its booking charge. -/
structure Wallet.Opens (symbol : Symbol) (w w' : Wallet) (openFee : Decimal) : Prop where
  frame : Wallet.KeepsField EnhancedPosition.booked (some symbol) w w'
  here : ∀ pos, w'.getOpenPosition symbol = some pos →
    w'.cashFlow = w.cashFlow - 2 * openFee + pos.booked

/-! ## What the bookings do -/

theorem Wallet.map_editPosition {w : Wallet} {f : EnhancedPosition → EnhancedPosition}
    (hstatus : ∀ pos, (f pos).status = pos.status) (symbol : Symbol) :
    ((w.editPosition symbol f).getOpenPosition symbol).map EnhancedPosition.booked =
      (w.getOpenPosition symbol).map (fun pos => (f pos).booked) := by
  rw [Wallet.getOpenPosition_editPosition symbol hstatus, Option.map_map]
  rfl

/-- Nothing is opened over an open position. -/
theorem Wallet.openPosition_held (w : Wallet) (symbol : Symbol) (setup : Setup) (markPrice : Decimal)
    (customMargin customQuantity : Option Decimal) (externalFill : Option ExternalFill)
    (hheld : (w.getOpenPosition symbol).isSome) :
    (w.openPosition symbol setup markPrice customMargin customQuantity externalFill).2 = w := by
  have hsize : w.sizeOpen symbol setup customMargin customQuantity none = .ok none := by
    have hcan : (w.canOpen symbol).1 = false := by
      by_contra hcan
      rw [w.flat_of_canOpen (by simpa using hcan)] at hheld
      cases hheld
    simp [sizeOpen, hcan]
  simp [openPosition, bookOpen, hsize]

section Bookings

variable {w : Wallet} (h : w.Aligned) (symbol : Symbol)
include h

/-- A slice is noted net of its fee and its TDS. -/
theorem Wallet.Aligned.bookPartial_continues (markPrice pct : Decimal) (reason : String)
    (tpLabel : Option String) (externalFill : Option ExternalFill) :
    Wallet.Continues symbol w
      (w.bookPartial symbol markPrice pct reason tpLabel externalFill).2 := by
  unfold Wallet.bookPartial
  cases hpos : w.getOpenPosition symbol with
  | none => exact .refl h
  | some pos =>
      dsimp only
      by_cases hqty : pos.remainingQuantity * pct ≤ 0
      · rw [if_pos hqty]
        exact .refl h
      · rw [if_neg hqty]
        dsimp only
        set price := w.exitPrice pos.side markPrice externalFill
        set fee := w.calculateFee (price * (pos.remainingQuantity * pct)) true
        set tds := w.calculateTds (pos.side = .long) (price * (pos.remainingQuantity * pct))
        set p := pos.partialPayload symbol price fee pct reason tpLabel
        set f : EnhancedPosition → EnhancedPosition := fun pos =>
          { pos with
            feesPaid := pos.feesPaid + fee
            partialRealizedPnl := pos.partialRealizedPnl + (p.pnl - fee)
            tdsPaid := if 0 < tds then pos.tdsPaid + tds else pos.tdsPaid } with hf
        set w₁ := (w.emit (.positionPartiallyClosed p)).editPosition symbol f
        have hemit : Wallet.KeepsField EnhancedPosition.booked (some symbol) w
            (w.emit (.positionPartiallyClosed p)) :=
          (Wallet.KeepsField.refl h).emit EnhancedPosition.ownField_booked (Or.inl rfl)
        have hedit : Wallet.KeepsField EnhancedPosition.booked (some symbol) w w₁ :=
          hemit.editPosition symbol (fun _ _ hopen => hopen)
            (fun _ _ hfol => ⟨hfol.quantity, hfol.entryPrice, hfol.slPrice, hfol.protectiveOrders⟩)
            (Or.inl rfl)
        have hcash : (w₁.chargeTds tds "PARTIAL_TDS" symbol).cashFlow =
            w.cashFlow + (p.pnl - fee - max 0 tds) := by
          rw [cashFlow_chargeTds]
          show (w.emit (.positionPartiallyClosed p)).cashFlow - _ = _
          rw [cashFlow_emit]
          show w.cashFlow + (p.pnl - fee) - _ = _
          ring
        have hcharged := ((Wallet.KeepsField.refl hedit.aligned).chargeTds
          EnhancedPosition.ownField_booked tds "PARTIAL_TDS" symbol).elsewhere symbol
            (show (none : Option Symbol) ≠ some symbol by simp)
        refine .of_noted (hedit.chargeTds EnhancedPosition.ownField_booked tds _ symbol) hpos hcash ?_
        have hstatus : ∀ pos, (f pos).status = pos.status := fun _ => rfl
        have hown : OwnField (fun pos => (f pos).booked) := fun _ _ => rfl
        rw [hcharged, Wallet.map_editPosition hstatus,
          (h symbol).field_emit hown (by simp [Payload.holds?]), hpos, Option.map_some]
        simp only [hf, EnhancedPosition.booked]
        congr 1
        split_ifs with htds
        · rw [max_eq_right htds.le]
          ring
        · rw [max_eq_left (not_lt.mp htds)]
          ring

/-- Funding is noted as it is credited. -/
theorem Wallet.Aligned.applyFunding_continues (fundingRate : Decimal) :
    Wallet.Continues symbol w (w.applyFunding symbol fundingRate).2 := by
  unfold Wallet.applyFunding
  cases hpos : w.getOpenPosition symbol with
  | none => exact .refl h
  | some pos =>
      dsimp only
      set amount := pos.fundingAmount fundingRate
      set f : EnhancedPosition → EnhancedPosition := fun pos =>
        { pos with
          fundingPaid := pos.fundingPaid + amount
          partialRealizedPnl := pos.partialRealizedPnl + amount } with hf
      set credited : Wallet := { w with walletBalance := w.walletBalance + amount } with hcredited
      set p : Payload := .fundingApplied symbol fundingRate
        (pos.remainingQuantity * pos.entryPrice) amount
      have hput : credited.setPosition symbol (f pos) = credited.editPosition symbol f := by
        unfold Wallet.setPosition Wallet.editPosition Dict.modify
        rw [show credited.positions.get? symbol = some pos from
          (Wallet.getOpenPosition_eq_some.mp hpos).1]
      have hcreditedFrame : Wallet.KeepsField EnhancedPosition.booked (some symbol) w credited :=
        ⟨h, rfl, fun _ _ => rfl⟩
      have hedit : Wallet.KeepsField EnhancedPosition.booked (some symbol) w
          (credited.editPosition symbol f) :=
        hcreditedFrame.editPosition symbol (fun _ _ hopen => hopen)
          (fun _ _ hfol => ⟨hfol.quantity, hfol.entryPrice, hfol.slPrice, hfol.protectiveOrders⟩)
          (Or.inl rfl)
      have hcash : ((credited.editPosition symbol f).emit p).save.cashFlow =
          w.cashFlow + amount := by
        rw [cashFlow_save, cashFlow_emit]
        rfl
      show Wallet.Continues symbol w ((credited.setPosition symbol (f pos)).emit p).save
      rw [hput]
      refine .of_noted (hedit.emit EnhancedPosition.ownField_booked (Or.inl rfl)).save hpos hcash ?_
      show (((credited.editPosition symbol f).emit p).getOpenPosition symbol).map _ = _
      have hstatus : ∀ pos, (f pos).status = pos.status := fun _ => rfl
      rw [(hedit.aligned symbol).field_emit EnhancedPosition.ownField_booked
        (by simp [p, Payload.holds?]), Wallet.map_editPosition hstatus]
      show (w.getOpenPosition symbol).map _ = _
      rw [hpos, Option.map_some]
      simp only [hf, EnhancedPosition.booked]
      congr 1
      ring

theorem Wallet.Aligned.markPosition_continues (markPrice : Decimal) :
    Wallet.Continues symbol w (w.markPosition symbol markPrice) :=
  .of_frame
    ((Wallet.KeepsField.refl h).editPosition symbol (fun _ _ hopen => hopen.updatePnl markPrice)
      (fun _ _ hf => hf.updatePnl markPrice)
      (Or.inr (fun pos => by simp [EnhancedPosition.booked]))) rfl

/-- A close is recorded at its gross PnL. -/
theorem Wallet.Aligned.bookClose_ends (markPrice : Decimal) (reason : String)
    (externalFill : Option ExternalFill) {pos : EnhancedPosition}
    (hpos : w.getOpenPosition symbol = some pos) :
    Wallet.Ends symbol w (w.bookClose symbol markPrice reason externalFill).2 pos
      (.close markPrice externalFill) := by
  have hflat := (Wallet.bookClose_spec symbol markPrice reason externalFill h hpos).2.1
  unfold Wallet.bookClose at hflat ⊢
  rw [hpos] at hflat ⊢
  dsimp only at hflat ⊢
  set price := w.exitPrice pos.side markPrice externalFill
  set fee := w.calculateFee (price * pos.remainingQuantity) true
  set tds := w.calculateTds (pos.side = .long) (price * pos.remainingQuantity)
  set p := pos.closePayload symbol price fee reason
  have hemit : Wallet.KeepsField EnhancedPosition.booked (some symbol) w (w.emit (.positionClosed p)) :=
    (Wallet.KeepsField.refl h).emit EnhancedPosition.ownField_booked (Or.inr rfl)
  refine (hemit.chargeTds EnhancedPosition.ownField_booked tds _ symbol).ends hflat ?_
  rw [cashFlow_chargeTds, cashFlow_emit]
  show (pos.updatePnl price).partialRealizedPnl + (pos.updatePnl price).unrealizedPnl =
    pos.partialRealizedPnl +
      (w.cashFlow + ((pos.updatePnl price).unrealizedPnl - fee) - max 0 tds - w.cashFlow) +
        (fee + max 0 tds)
  rw [EnhancedPosition.partialRealizedPnl_updatePnl]
  ring

/-- A liquidation is recorded without its PnL. -/
theorem Wallet.Aligned.liquidatePosition_ends (markPrice : Decimal) {pos : EnhancedPosition}
    (hpos : w.getOpenPosition symbol = some pos) :
    Wallet.Ends symbol w (w.liquidatePosition symbol markPrice) pos (.liquidation markPrice) := by
  unfold Wallet.liquidatePosition
  rw [hpos]
  dsimp only
  set p := pos.closePayload symbol markPrice 0 "LIQUIDATION"
  have hemit : Wallet.KeepsField EnhancedPosition.booked (some symbol) w (w.emit (.liquidation p)) :=
    (Wallet.KeepsField.refl h).emit EnhancedPosition.ownField_booked (Or.inr rfl)
  have hflat : (w.emit (.liquidation p)).getOpenPosition symbol = none := by
    refine Wallet.getOpenPosition_emit_none _ ?_
    rw [Wallet.runtime_emit, PortfolioState.openPositions_apply]
    exact Dict.get?_erase_self _ _
  refine hemit.ends hflat ?_
  rw [cashFlow_emit]
  show (pos.updatePnl markPrice).partialRealizedPnl =
    pos.partialRealizedPnl +
      (w.cashFlow + ((pos.updatePnl markPrice).unrealizedPnl - 0) - w.cashFlow) +
        -(pos.updatePnl markPrice).unrealizedPnl
  rw [EnhancedPosition.partialRealizedPnl_updatePnl]
  ring

/-- The position put in by an opening knows its TDS and neither of its fees. -/
theorem Wallet.Aligned.bookPosition_booked (setup : Setup) (size : Sizing)
    (price fee markPrice : Decimal) :
    let w' := (w.bookPosition symbol setup size price fee markPrice).2
    Wallet.KeepsField EnhancedPosition.booked (some symbol) w w' ∧
      ∃ pos, w'.getOpenPosition symbol = some pos ∧ w'.cashFlow = w.cashFlow - fee + pos.booked := by
  intro w'
  obtain ⟨hstatus, hsymbol, -⟩ := w.newPosition_frame symbol setup size price fee markPrice
  have hnew : (w.newPosition symbol setup size price fee markPrice).partialRealizedPnl = 0 ∧
      (w.newPosition symbol setup size price fee markPrice).tdsPaid = 0 := by
    simp [newPosition]
  set w₁ := w.tick.emit (.feeCharged fee "OPEN_FEE" symbol)
  set tds := w₁.calculateTds (setup.side = .short) (price * size.quantity)
  set w₂ := w₁.chargeTds tds "OPEN_TDS" symbol
  obtain ⟨pos₀, hpos₀⟩ : ∃ pos₀, pos₀ = w.newPosition symbol setup size price fee markPrice :=
    ⟨_, rfl⟩
  rw [← hpos₀] at hstatus hsymbol hnew
  set pos := if 0 < tds then { pos₀ with tdsPaid := pos₀.tdsPaid + tds } else pos₀ with hpos
  have hopen : pos.OpenOn symbol := by
    rw [hpos]
    split_ifs
    · exact ⟨hsymbol, hstatus⟩
    · exact ⟨hsymbol, hstatus⟩
  have hbooked : pos.booked = -max 0 tds := by
    rw [hpos]
    split_ifs with htds
    · simp [EnhancedPosition.booked, hnew, max_eq_right htds.le]
    · simp [EnhancedPosition.booked, hnew, max_eq_left (not_lt.mp htds)]
  have hfee : Wallet.KeepsField EnhancedPosition.booked (some symbol) w w₁ :=
    (Wallet.KeepsField.refl h).tick.emit EnhancedPosition.ownField_booked (Or.inl rfl)
  have hcharged : Wallet.KeepsField EnhancedPosition.booked (some symbol) w w₂ :=
    hfee.chargeTds EnhancedPosition.ownField_booked tds _ symbol
  have hw' : w' = (w₂.setPosition symbol pos).syncUnrealizedTotal.emit
      (.positionOpened (pos.openPayload setup size fee)) := by
    rw [hpos, hpos₀]
    rfl
  have htarget : (Payload.positionOpened (pos.openPayload setup size fee)).target? = some symbol := by
    rw [← hopen.1]
    rfl
  refine ⟨?_, pos.sync ((pos.openPayload setup size fee).toPositionData false), ?_, ?_⟩
  · rw [hw']
    exact hcharged.announce EnhancedPosition.ownField_booked hopen htarget (Or.inr htarget)
  · rw [hw']
    refine Wallet.getOpenPosition_announce hopen ?_
    show (Dict.set _ pos.symbol _).get? symbol = _
    rw [hopen.1, Dict.get?_set_self]
  · rw [hw', cashFlow_emit]
    show w₂.cashFlow + 0 = w.cashFlow - fee + pos.booked
    rw [hbooked, cashFlow_chargeTds, cashFlow_emit]
    show w.cashFlow + -fee - max 0 tds + 0 = _
    ring

theorem Wallet.Aligned.openPosition_opens (setup : Setup) (markPrice : Decimal)
    (customMargin customQuantity : Option Decimal) (externalFill : Option ExternalFill)
    (hflat : w.getOpenPosition symbol = none) :
    Wallet.Opens symbol w
      (w.openPosition symbol setup markPrice customMargin customQuantity externalFill).2
      (PaperOp.openFee w (.call (.openPosition symbol setup markPrice customMargin customQuantity
        externalFill))) := by
  have hown := EnhancedPosition.ownField_booked
  have hsame : ∀ openFee, Wallet.Opens symbol w w openFee := by
    intro openFee
    refine ⟨.refl h, fun pos hpos => ?_⟩
    rw [hflat] at hpos
    cases hpos
  unfold PaperOp.openFee Wallet.openPosition Wallet.bookOpen
  dsimp only
  cases hsize : w.sizeOpen symbol setup customMargin customQuantity none with
  | error e => exact hsame 0
  | ok size? =>
      cases size? with
      | none => exact hsame 0
      | some size =>
          dsimp only
          have horder : Wallet.KeepsField EnhancedPosition.booked none w
              (w.createOrder symbol setup.side size.quantity).2 :=
            (Wallet.KeepsField.refl h).createOrderWithType hown _
          have hordered : (w.createOrder symbol setup.side size.quantity).2.cashFlow = w.cashFlow := by
            unfold createOrder createOrderWithType
            rw [cashFlow_emit]
            exact add_zero _
          cases hentry : (w.createOrder symbol setup.side size.quantity).2.executeEntry
              (w.createOrder symbol setup.side size.quantity).1 symbol setup size.quantity markPrice
              externalFill with
          | mk filled? w₁ =>
              have hkeeps : Wallet.KeepsField EnhancedPosition.booked none w w₁ := by
                have := horder.executeEntry hown (w.createOrder symbol setup.side size.quantity).1
                  symbol setup size.quantity markPrice externalFill
                rwa [hentry] at this
              cases filled? with
              | none =>
                  refine ⟨hkeeps.weaken _, fun pos hpos => ?_⟩
                  have hnone := hkeeps.elsewhere symbol (by simp)
                  rw [hflat, hpos] at hnone
                  cases hnone
              | some filled =>
                  obtain ⟨price, fee⟩ := filled
                  have hfee := (executeEntry_spec symbol setup.side price _ _ setup size.quantity
                    markPrice externalFill price fee w₁ hentry).1
                  have hcash := cashFlow_executeEntry _ _ symbol setup size.quantity markPrice
                    externalFill hentry
                  obtain ⟨hframe, pos, hpos, hbooked⟩ := hkeeps.aligned.bookPosition_booked symbol
                    setup size price fee markPrice
                  refine ⟨((hkeeps.weaken _).trans hframe).save, fun pos' hpos' => ?_⟩
                  obtain rfl : pos = pos' := Option.some.inj (hpos.symm.trans hpos')
                  have hopenFee : (w.createOrder symbol setup.side size.quantity).2.openFee setup
                      size.quantity markPrice externalFill =
                        w.openFee setup size.quantity markPrice externalFill := rfl
                  rw [hopenFee] at hfee hcash
                  rw [cashFlow_save, hbooked, hcash, hordered, hfee]
                  ring

/-- An adoption moves no cash. -/
theorem Wallet.Aligned.adoptVenuePosition_opens (r : AdoptRequest)
    (hflat : w.getOpenPosition r.symbol = none) :
    Wallet.Opens r.symbol w (w.adoptVenuePosition r).2 0 := by
  have hsame : Wallet.Opens r.symbol w w 0 := by
    refine ⟨.refl h, fun pos hpos => ?_⟩
    rw [hflat] at hpos
    cases hpos
  unfold Wallet.adoptVenuePosition Wallet.bookAdoption
  rw [hflat]
  by_cases hbad : r.quantity ≤ 0 ∨ r.entryPrice ≤ 0
  · simpa [hbad] using hsame
  · simp only [Option.isSome_none, Bool.false_eq_true, if_false, hbad]
    obtain ⟨hsymbol, hstatus, -⟩ := w.adoptedPosition_frame r
    have hbooked : (w.adoptedPosition r).booked = 0 := by
      unfold adoptedPosition EnhancedPosition.booked
      cases r.markPrice with
      | none => simp
      | some mark => by_cases hmark : 0 < mark <;> simp [hmark]
    set pos := w.adoptedPosition r
    set p : Payload := .positionAdopted (pos.adoptPayload r)
    refine ⟨((Wallet.KeepsField.refl h).tick.announce EnhancedPosition.ownField_booked
      ⟨hsymbol, hstatus⟩ (show p.target? = some r.symbol from rfl) (Or.inr rfl)).save,
      fun pos' hpos' => ?_⟩
    have hpos : (((w.tick.setPosition r.symbol pos).syncUnrealizedTotal.emit p).save).getOpenPosition
        r.symbol = some (pos.sync ((pos.adoptPayload r).toPositionData true)) :=
      Wallet.getOpenPosition_announce (w := w.tick) ⟨hsymbol, hstatus⟩ (Dict.get?_set_self _ _ _)
    obtain rfl := Option.some.inj (hpos.symm.trans hpos')
    rw [cashFlow_save, cashFlow_emit, EnhancedPosition.ownField_booked, hbooked]
    show w.cashFlow + 0 = _
    ring

end Bookings

/-! ## What the operations do -/

/-- An operation on a symbol keeps its trade going, or leads it to its ending and
ends it. -/
inductive Wallet.Outcome (symbol : Symbol) (w w' : Wallet) : Option (Wallet × Ending) → Prop
  | continues {ending : Option (Wallet × Ending)} (h : Wallet.Continues symbol w w')
      (hnone : ∀ last ∈ ending, last.1.getOpenPosition symbol = none) : Outcome symbol w w' ending
  | ends {w₁ : Wallet} {last : Ending} {pos : EnhancedPosition} (h : Wallet.Continues symbol w w₁)
      (hpos : w₁.getOpenPosition symbol = some pos) (hends : Wallet.Ends symbol w₁ w' pos last) :
      Outcome symbol w w' (some (w₁, last))

namespace Wallet.Outcome

variable {symbol : Symbol} {u v w : Wallet} {ending : Option (Wallet × Ending)}

theorem aligned (h : Outcome symbol u v ending) : v.Aligned := by
  cases h with
  | continues h _ => exact h.frame.aligned
  | ends _ _ hends => exact hends.aligned

theorem before (h : Continues symbol u v) (h' : Outcome symbol v w ending) :
    Outcome symbol u w ending := by
  cases h' with
  | continues h' hnone => exact .continues (h.trans h') hnone
  | ends h' hpos hends => exact .ends (h.trans h') hpos hends

theorem andThen (h : Outcome symbol u v ending) (h' : Continues symbol v w) :
    Outcome symbol u w ending := by
  cases h with
  | continues h hnone => exact .continues (h.trans h') hnone
  | ends h hpos hends =>
      obtain ⟨record, hhistory, hrecord⟩ := hends.record
      refine .ends h hpos ⟨h'.frame.aligned, fun s hs => ?_, h'.flat_of_flat hends.flat, record, ?_, ?_⟩
      · rw [h'.frame.elsewhere s (fun heq => hs (Option.some.inj heq).symm), hends.elsewhere s hs]
      · rw [h'.frame.history, hhistory]
      · rw [h'.flat hends.flat, hrecord]

end Wallet.Outcome

section Operations

variable {w : Wallet} (h : w.Aligned) (symbol : Symbol)
include h

theorem Wallet.Aligned.closePosition_outcome (markPrice : Decimal) (reason : String)
    (externalFill : Option ExternalFill) :
    Wallet.Outcome symbol w (w.closePosition symbol markPrice reason externalFill).2
      (some (w, .close markPrice externalFill)) := by
  unfold Wallet.closePosition
  cases hpos : w.getOpenPosition symbol with
  | none =>
      rw [Wallet.bookClose_flat symbol markPrice reason externalFill hpos]
      refine .continues (.refl h) (fun last hlast => ?_)
      obtain rfl := Option.mem_some.mp hlast
      exact hpos
  | some pos => exact .ends (.refl h) hpos (h.bookClose_ends symbol markPrice reason externalFill hpos)

theorem Wallet.Aligned.liquidatePosition_outcome (markPrice : Decimal) :
    Wallet.Outcome symbol w (w.liquidatePosition symbol markPrice)
      (some (w, .liquidation markPrice)) := by
  cases hpos : w.getOpenPosition symbol with
  | none =>
      have hsame : w.liquidatePosition symbol markPrice = w := by
        unfold liquidatePosition
        rw [hpos]
      rw [hsame]
      refine .continues (.refl h) (fun last hlast => ?_)
      obtain rfl := Option.mem_some.mp hlast
      exact hpos
  | some pos => exact .ends (.refl h) hpos (h.liquidatePosition_ends symbol markPrice hpos)

theorem Wallet.Aligned.partialClose_outcome (markPrice pct : Decimal) (reason : String)
    (tpLabel : Option String) (externalFill : Option ExternalFill) :
    Wallet.Outcome symbol w (w.partialClose symbol markPrice pct reason tpLabel externalFill).2
      (w.partialEnding symbol markPrice pct reason tpLabel externalFill) := by
  have hslice := h.bookPartial_continues symbol markPrice pct reason tpLabel externalFill
  unfold Wallet.partialClose Wallet.partialEnding
  cases hbooked : w.bookPartial symbol markPrice pct reason tpLabel externalFill with
  | mk pnl? w₁ =>
      rw [hbooked] at hslice
      cases pnl? with
      | none => exact .continues hslice (by simp)
      | some pnl =>
          dsimp only
          by_cases hdust : w₁.isDust symbol
          · rw [if_pos hdust, if_pos hdust]
            exact .before hslice (hslice.frame.aligned.closePosition_outcome symbol markPrice _ none)
          · rw [if_neg hdust, if_neg hdust]
            exact .continues (hslice.trans (.of_frame (Wallet.KeepsField.refl hslice.frame.aligned).save
              (Wallet.cashFlow_save w₁))) (by simp)

/-- Moving the stop or starting the trail. -/
theorem Wallet.Aligned.adjusted_continues {payload : Payload} (hcash : payload.cash = 0)
    (hholds : payload.holds? = none) : Wallet.Continues symbol w (w.emit payload).save := by
  refine .of_frame ((Wallet.KeepsField.refl h).emit EnhancedPosition.ownField_booked
    (Or.inl hholds)).save ?_
  rw [cashFlow_save, cashFlow_emit, hcash, add_zero]

theorem Wallet.Aligned.syncUnrealizedTotal_continues :
    Wallet.Continues symbol w w.syncUnrealizedTotal :=
  .of_frame (Wallet.KeepsField.refl h).syncUnrealizedTotal rfl

theorem Wallet.Aligned.takeProfit_outcome (markPrice entryPrice : Decimal) (tp : TpLevel) :
    Wallet.Outcome symbol w (w.takePlaybookExit symbol markPrice entryPrice (.takeProfit tp))
      (w.partialEnding symbol markPrice tp.pct s!"{tp.label} HIT" (some tp.label) none) := by
  have hpartial := h.partialClose_outcome symbol markPrice tp.pct s!"{tp.label} HIT" (some tp.label)
    none
  have haligned := hpartial.aligned
  unfold Wallet.takePlaybookExit
  dsimp only
  by_cases h1 : tp.label = "TP1"
  · rw [if_pos h1]
    exact hpartial.andThen (haligned.adjusted_continues symbol rfl rfl)
  · rw [if_neg h1]
    by_cases h2 : tp.label = "TP2"
    · rw [if_pos h2]
      exact hpartial.andThen (haligned.adjusted_continues symbol rfl rfl)
    · rw [if_neg h2]
      exact hpartial

theorem Wallet.Aligned.updatePositions_outcome (rules : ExitRules) (u : MarkUpdate) :
    Wallet.Outcome symbol w (w.updatePositions rules symbol u) (w.updateEnding rules symbol u) := by
  unfold Wallet.updatePositions Wallet.updateEnding
  cases hpos : w.getOpenPosition symbol with
  | none => exact .continues (h.syncUnrealizedTotal_continues symbol) (by simp)
  | some pos =>
      dsimp only
      have hmark := h.markPosition_continues symbol u.markPrice
      have hmarked := hmark.frame.aligned
      set w₁ := w.markPosition symbol u.markPrice
      cases hforced : w₁.forcedExit rules (pos.updatePnl u.markPrice) u with
      | some exit =>
          cases exit with
          | liquidation => exact .before hmark (hmarked.liquidatePosition_outcome symbol u.markPrice)
          | close reason => exact .before hmark (hmarked.closePosition_outcome symbol u.markPrice reason none)
      | none =>
          cases hplaybook : w₁.playbookExit rules (pos.updatePnl u.markPrice) u with
          | none =>
              exact .continues (hmark.trans (hmarked.syncUnrealizedTotal_continues symbol)) (by simp)
          | some exit =>
              cases exit with
              | close reason =>
                  have hclose := hmarked.closePosition_outcome symbol u.markPrice reason none
                  exact (hclose.before hmark).andThen
                    (hclose.aligned.syncUnrealizedTotal_continues symbol)
              | takeProfit tp =>
                  have htake := hmarked.takeProfit_outcome symbol u.markPrice
                    (pos.updatePnl u.markPrice).entryPrice tp
                  exact (htake.before hmark).andThen
                    (htake.aligned.syncUnrealizedTotal_continues symbol)

end Operations

/-- The operations outside the trades. -/
theorem Wallet.Aligned.other_keeps {w : Wallet} (h : w.Aligned) {op : PaperOp}
    (hop : op.trade? = none) : Wallet.KeepsField EnhancedPosition.booked none w (op.run w) := by
  have hown := EnhancedPosition.ownField_booked
  have hrefl : Wallet.KeepsField EnhancedPosition.booked none w w := .refl h
  cases op with
  | updatePositions _ _ _ => cases hop
  | call op =>
      cases op with
      | adjustSlPrice symbol price => exact hrefl.adjustSlPrice hown symbol price
      | activateTrailingStop symbol => exact hrefl.activateTrailingStop hown symbol
      | placePendingOrder r => exact hrefl.placePendingOrder hown r
      | evaluatePendingOrders symbol price => exact hrefl.evaluatePendingOrders hown symbol price
      | cancelOrder orderId reason => exact hrefl.cancelOrder hown orderId reason
      | _ => cases hop

/-! ## What a run reports -/

/-- Of every open trade, the position knows the cash but the opening fee. -/
structure TradeBook.Consistent (b : TradeBook) : Prop where
  aligned : b.wallet.Aligned
  books : ∀ s pos, b.wallet.getOpenPosition s = some pos →
    b.cash s = pos.booked - 2 * b.openFee s

/-- What a step may do: it keeps the books of every open trade, and if all trades
have reported their cash, they still do exactly if nothing is left out. -/
def TradeBook.Accounts (b : TradeBook) (op : PaperOp) : Prop :=
  (b.step op).Consistent ∧ (b.Reported → ((b.step op).Reported ↔ b.NothingLeftOut op))

section Step

variable {b : TradeBook} {op : PaperOp} {symbol : Symbol}

/-- The open position of a symbol the step does not touch. -/
theorem TradeBook.Consistent.elsewhere (h : b.Consistent) {w' : Wallet} {s : Symbol}
    (hsame : (w'.getOpenPosition s).map EnhancedPosition.booked =
      (b.wallet.getOpenPosition s).map EnhancedPosition.booked) {pos' : EnhancedPosition}
    (hpos' : w'.getOpenPosition s = some pos') : b.cash s = pos'.booked - 2 * b.openFee s := by
  rw [hpos', Option.map_some, eq_comm, Option.map_eq_some_iff] at hsame
  obtain ⟨pos, hpos, hbooked⟩ := hsame
  rw [← hbooked]
  exact h.books s pos hpos

theorem TradeBook.Consistent.step_other (h : b.Consistent) (hop : op.trade? = none) :
    b.Accounts op := by
  have hkeeps := h.aligned.other_keeps hop
  have hstep : b.step op = { b with wallet := op.run b.wallet } := by
    simp [TradeBook.step, hop]
  refine ⟨⟨?_, fun s pos hpos => ?_⟩, fun hreported => ?_⟩
  · rw [hstep]
    exact hkeeps.aligned
  · rw [hstep] at hpos ⊢
    exact h.elsewhere (hkeeps.elsewhere s (by simp)) hpos
  · rw [hstep]
    exact iff_of_true hreported (by simp [NothingLeftOut, hop])

theorem TradeBook.step_trade (hop : op.trade? = some symbol) :
    b.step op =
      let held := (b.wallet.getOpenPosition symbol).isSome
      let cash := (if held then b.cash symbol else 0) +
        ((op.run b.wallet).cashFlow - b.wallet.cashFlow)
      { wallet := op.run b.wallet
        cash := Function.update b.cash symbol cash
        openFee :=
          if held then b.openFee else Function.update b.openFee symbol (op.openFee b.wallet)
        ended := b.ended ++
          ((op.run b.wallet).positionHistory.drop b.wallet.positionHistory.length).map
            (fun record => (record, cash)) } := by
  unfold TradeBook.step
  rw [hop]

/-- The books of the other symbols, whatever becomes of this one. -/
theorem TradeBook.Consistent.step_elsewhere (h : b.Consistent) (hop : op.trade? = some symbol)
    {s : Symbol} (hs : s ≠ symbol)
    (hsame : ((op.run b.wallet).getOpenPosition s).map EnhancedPosition.booked =
      (b.wallet.getOpenPosition s).map EnhancedPosition.booked) {pos : EnhancedPosition}
    (hpos : (b.step op).wallet.getOpenPosition s = some pos) :
    (b.step op).cash s = pos.booked - 2 * (b.step op).openFee s := by
  rw [TradeBook.step_trade hop] at hpos ⊢
  have hfee : (if (b.wallet.getOpenPosition symbol).isSome then b.openFee else
      Function.update b.openFee symbol (op.openFee b.wallet)) s = b.openFee s := by
    split_ifs
    · rfl
    · exact Function.update_of_ne hs _ _
  dsimp only at hpos ⊢
  rw [Function.update_of_ne hs, hfee]
  exact h.elsewhere hsame hpos

/-- A step that writes no record reports what was reported. -/
theorem TradeBook.reported_of_history (hop : op.trade? = some symbol)
    (hhistory : (op.run b.wallet).positionHistory = b.wallet.positionHistory) :
    (b.step op).Reported ↔ b.Reported := by
  rw [TradeBook.step_trade hop]
  simp [Reported, hhistory]

theorem TradeBook.Consistent.step_outcome (h : b.Consistent) (hop : op.trade? = some symbol)
    (ho : Wallet.Outcome symbol b.wallet (op.run b.wallet) (op.ending b.wallet)) :
    b.Accounts op := by
  generalize hending : op.ending b.wallet = ending at ho
  cases ho with
  | continues hcont hnone =>
      refine ⟨⟨?_, fun s pos hpos => ?_⟩, fun hreported => ?_⟩
      · rw [TradeBook.step_trade hop]
        exact hcont.frame.aligned
      · by_cases hs : s = symbol
        · subst hs
          rw [TradeBook.step_trade hop] at hpos ⊢
          have hhere := hcont.here
          dsimp only at hpos ⊢
          rw [hpos, Option.map_some, eq_comm, Option.map_eq_some_iff] at hhere
          obtain ⟨before, hbefore, hcash⟩ := hhere
          rw [hbefore, Function.update_self]
          simp only [Option.isSome_some, if_true, h.books s before hbefore]
          linarith
        · exact h.step_elsewhere hop hs
            (hcont.frame.elsewhere s (fun heq => hs (Option.some.inj heq).symm)) hpos
      · rw [TradeBook.reported_of_history hop hcont.frame.history]
        refine iff_of_true hreported (fun s hs last hlast pos hpos => ?_)
        rw [hop] at hs
        obtain rfl := Option.mem_some.mp hs
        rw [hending] at hlast
        rw [hnone last hlast] at hpos
        cases hpos
  | @ends w₁ last pos hcont hpos hends =>
      obtain ⟨record, hhistory, hrecord⟩ := hends.record
      obtain ⟨first, hfirst, hcash⟩ : ∃ first, b.wallet.getOpenPosition symbol = some first ∧
          b.wallet.cashFlow - first.booked = w₁.cashFlow - pos.booked := by
        have hhere := hcont.here
        rw [hpos, Option.map_some, eq_comm, Option.map_eq_some_iff] at hhere
        exact hhere
      refine ⟨⟨?_, fun s pos' hpos' => ?_⟩, fun hreported => ?_⟩
      · rw [TradeBook.step_trade hop]
        exact hends.aligned
      · by_cases hs : s = symbol
        · subst hs
          rw [TradeBook.step_trade hop] at hpos'
          exact absurd (hends.flat.symm.trans hpos') nofun
        · refine h.step_elsewhere hop hs ?_ hpos'
          rw [hends.elsewhere s hs]
          exact hcont.frame.elsewhere s (fun heq => hs (Option.some.inj heq).symm)
      · have hdrop : (op.run b.wallet).positionHistory.drop b.wallet.positionHistory.length =
            [record] := by
          rw [hhistory, hcont.frame.history, List.drop_left]
        have hleft : b.NothingLeftOut op ↔
            2 * b.openFee symbol + pos.tdsPaid + last.charges w₁ pos = 0 := by
          simp [NothingLeftOut, hop, hending, hpos]
        have hbooks := h.books symbol first hfirst
        rw [TradeBook.step_trade hop, hleft]
        simp only [Reported, hfirst, Option.isSome_some, if_true, hdrop, List.map_singleton,
          List.forall_mem_append, List.forall_mem_singleton, EnhancedPosition.tradeClosed,
          forall_const, and_self]
        rw [hrecord, hbooks]
        have hb : pos.booked = pos.partialRealizedPnl - pos.tdsPaid := rfl
        constructor
        · rintro ⟨-, heq⟩
          linarith
        · intro heq
          refine ⟨fun trade htrade => (hreported trade htrade).1, ?_⟩
          linarith

/-- An opening over an open position does nothing; on a flat symbol it begins
the books. -/
theorem TradeBook.Consistent.step_opens (h : b.Consistent) (hop : op.trade? = some symbol)
    (hending : op.ending b.wallet = none)
    (hheld : (b.wallet.getOpenPosition symbol).isSome → op.run b.wallet = b.wallet)
    (hflat : b.wallet.getOpenPosition symbol = none →
      Wallet.Opens symbol b.wallet (op.run b.wallet) (op.openFee b.wallet)) : b.Accounts op := by
  by_cases hopen : (b.wallet.getOpenPosition symbol).isSome
  · refine h.step_outcome hop (.continues ?_ ?_)
    · rw [hheld hopen]
      exact .refl h.aligned
    · rw [hending]
      simp
  · have hnone := Option.not_isSome_iff_eq_none.mp hopen
    have hopens := hflat hnone
    refine ⟨⟨?_, fun s pos hpos => ?_⟩, fun hreported => ?_⟩
    · rw [TradeBook.step_trade hop]
      exact hopens.frame.aligned
    · by_cases hs : s = symbol
      · subst hs
        rw [TradeBook.step_trade hop] at hpos ⊢
        have hcash := hopens.here pos hpos
        dsimp only
        rw [if_neg hopen, if_neg hopen, Function.update_self, Function.update_self, hcash]
        ring
      · exact h.step_elsewhere hop hs
          (hopens.frame.elsewhere s (fun heq => hs (Option.some.inj heq).symm)) hpos
    · rw [TradeBook.reported_of_history hop hopens.frame.history]
      exact iff_of_true hreported (by simp [NothingLeftOut, hending])

/-- Every operation keeps the books, and reports exactly if nothing is left out. -/
theorem TradeBook.Consistent.step (h : b.Consistent) (op : PaperOp) : b.Accounts op := by
  cases op with
  | updatePositions rules symbol u =>
      exact h.step_outcome rfl (h.aligned.updatePositions_outcome symbol rules u)
  | call op =>
      cases op with
      | openPosition symbol setup markPrice customMargin customQuantity externalFill =>
          exact h.step_opens rfl rfl
            (b.wallet.openPosition_held symbol setup markPrice customMargin customQuantity
              externalFill)
            (h.aligned.openPosition_opens symbol setup markPrice customMargin customQuantity
              externalFill)
      | adoptVenuePosition r =>
          refine h.step_opens rfl rfl (fun hheld => ?_) (h.aligned.adoptVenuePosition_opens r)
          simp [PaperOp.run, Operation.run, Wallet.adoptVenuePosition, Wallet.bookAdoption, hheld]
      | partialClose symbol markPrice pct reason tpLabel externalFill =>
          exact h.step_outcome rfl
            (h.aligned.partialClose_outcome symbol markPrice pct reason tpLabel externalFill)
      | closePosition symbol markPrice reason externalFill =>
          exact h.step_outcome rfl
            (h.aligned.closePosition_outcome symbol markPrice reason externalFill)
      | liquidatePosition symbol markPrice =>
          exact h.step_outcome rfl (h.aligned.liquidatePosition_outcome symbol markPrice)
      | applyFunding symbol rate =>
          exact h.step_outcome rfl
            (.continues (h.aligned.applyFunding_continues symbol rate) (by simp [PaperOp.ending]))
      | adjustSlPrice _ _ | activateTrailingStop _ | placePendingOrder _
      | evaluatePendingOrders _ _ | cancelOrder _ _ => exact h.step_other rfl

end Step

theorem TradeBook.consistent_start (init : WalletInit) (clock : Nat → Nat) (redisUp : Bool) :
    (TradeBook.start init clock redisUp).Consistent := by
  have haligned := Wallet.Aligned.boot init clock redisUp
  refine ⟨haligned, fun s pos hpos => ?_⟩
  obtain ⟨data, hdata, -⟩ := (haligned s).entry hpos
  have hnone : (Wallet.boot init clock {} redisUp).runtime.openPositions.get? s = none := by
    rw [Wallet.boot_empty]
    rfl
  rw [hnone] at hdata
  cases hdata

/-- **The trades of a run report their cash exactly if every step that ends one
leaves nothing out.** -/
theorem trades_reported_iff (init : WalletInit) (clock : Nat → Nat) (redisUp : Bool)
    (ops : List PaperOp) :
    (∀ before, before <+: ops →
        (before.foldl TradeBook.step (.start init clock redisUp)).Reported) ↔
      AllOk TradeBook.step TradeBook.NothingLeftOut (.start init clock redisUp) ops :=
  AllOk.kept_iff (fun _ op h hreported => ⟨(h.step op).1, (h.step op).2 hreported⟩) ops
    (TradeBook.consistent_start init clock redisUp) (by simp [TradeBook.Reported, TradeBook.start])

/-! ## A trade that pays taker fees -/

/-- Ten units bought at 100 and sold at 110. -/
def demoRoundTrip : List PaperOp :=
  [.call (.openPosition demoSymbol
      { side := .long, playbook := .intraday, entryPrice := 100, slPrice := 95 } 100 none (some 10)
      none),
    .call (.closePosition demoSymbol 110 "TP_HIT" none)]

/-- It reports its gross PnL; the balance has paid three fees from it. -/
theorem demoRoundTrip_not_reported :
    ¬ ∀ (init : WalletInit) (clock : Nat → Nat) (redisUp : Bool) (ops : List PaperOp),
      (ops.foldl TradeBook.step (.start init clock redisUp)).Reported := by
  intro h
  have hfail : ((demoRoundTrip.foldl TradeBook.step (.start demoInit (fun n => n) false)).ended.any
      (fun trade => trade.1.partialRealizedPnl ≠ trade.2)) = true := by decide +kernel
  obtain ⟨trade, htrade, hne⟩ := List.any_eq_true.mp hfail
  exact of_decide_eq_true hne (h demoInit (fun n => n) false demoRoundTrip trade htrade).1

end CryptoTrader
