import CryptoTrader.Wallet.Ledger
import Mathlib.Tactic.Linarith
import Mathlib.Tactic.Ring

/-!
# Cash conservation of a trade

What a paper trade does to the balance, from before its opening to after its
close, against what the trade itself records: its exit slices, its funding,
the fees and the TDS of the position.
-/

namespace CryptoTrader

open CryptoTrader.Lib

/-! ## Tallies over the log -/

/-- Signed PnL of a partial exit on `symbol`: price difference times quantity. -/
def Payload.slicePnl (symbol : Symbol) (side : PositionSide) (entryPrice : Decimal) :
    Payload → Decimal
  | .positionPartiallyClosed p =>
      if p.symbol = symbol then side.sign * (p.price - entryPrice) * p.closedQty else 0
  | _ => 0

/-- Funding received (paid, when negative) on `symbol`. -/
def Payload.funding (symbol : Symbol) : Payload → Decimal
  | .fundingApplied s _ _ amount => if s = symbol then amount else 0
  | _ => 0

/-- Sum of a quantity over a list of events. -/
def tally (f : Payload → Decimal) (log : List Event) : Decimal :=
  (log.map (fun e => f e.payload)).sum

theorem tally_append (f : Payload → Decimal) (l₁ l₂ : List Event) :
    tally f (l₁ ++ l₂) = tally f l₁ + tally f l₂ := by
  simp [tally]

@[simp] theorem tally_singleton (f : Payload → Decimal) (e : Event) :
    tally f [e] = f e.payload := by
  simp [tally]

/-- The balance that is neither a slice's PnL nor funding: fees, TDS, and the
PnL of full closes. -/
def Wallet.residue (w : Wallet) (symbol : Symbol) (side : PositionSide) (entryPrice : Decimal) :
    Decimal :=
  w.runtime.walletBalance - tally (Payload.slicePnl symbol side entryPrice) w.log -
    tally (Payload.funding symbol) w.log

/-- What an event adds to the residue. -/
def Payload.charge (symbol : Symbol) (side : PositionSide) (entryPrice : Decimal) (p : Payload) :
    Decimal :=
  p.cash - p.slicePnl symbol side entryPrice - p.funding symbol

section Residue

variable (w : Wallet) (symbol : Symbol) (side : PositionSide) (entryPrice : Decimal)

theorem Wallet.residue_emit (p : Payload) (hp : ∀ b, p ≠ .walletInitialized b) :
    (w.emit p).residue symbol side entryPrice =
      w.residue symbol side entryPrice + p.charge symbol side entryPrice := by
  have hcash := w.cash_emit p hp
  rw [Wallet.walletBalance_emit] at hcash
  unfold residue Payload.charge
  rw [hcash, Wallet.log_emit, tally_append, tally_append, tally_singleton, tally_singleton]
  simp only [Wallet.event]
  ring

@[simp] theorem Wallet.residue_save :
    w.save.residue symbol side entryPrice = w.residue symbol side entryPrice := by
  unfold residue
  rw [Wallet.log_save]
  rfl

theorem Wallet.residue_chargeTds (amount : Decimal) (reason : String) :
    (w.chargeTds amount reason symbol).residue symbol side entryPrice =
      w.residue symbol side entryPrice - (if 0 < amount then amount else 0) := by
  unfold chargeTds
  split
  · rw [residue_emit _ _ _ _ _ (by simp)]
    simp [Payload.charge, Payload.cash, Payload.slicePnl, Payload.funding, sub_eq_add_neg]
  · simp

end Residue

/-! ## The opening fee -/

/-- The fees of the chunks a quantity is filled in. -/
def chunkFees (chunkQty fillPrice feeRate : Decimal) : (left : Nat) → (remaining : Decimal) → Decimal
  | 0, _ => 0
  | left + 1, remaining =>
      |(if left = 0 then remaining else chunkQty) * fillPrice| * feeRate +
        chunkFees chunkQty fillPrice feeRate left (remaining - chunkQty)

/-- The fee of an opening: the venue's, the maker fee, or the taker fees of the
chunks. -/
def Wallet.openFee (w : Wallet) (setup : Setup) (qty markPrice : Decimal)
    (externalFill : Option ExternalFill) : Decimal :=
  match externalFill with
  | some fill => fill.fee
  | none =>
      match setup.entryOrderStyle with
      | .makerLimit => w.calculateFee (setup.entryPrice * qty) false
      | .market =>
          let price := w.executionPrice markPrice setup.side true setup.spreadBps setup.slippageBps
          let count := (max 1 setup.fillChunks).toNat
          chunkFees (quantize8 (qty / count)) price w.takerFeeRate count qty

section Fills

variable (symbol : Symbol) (side : PositionSide) (entryPrice : Decimal)

theorem Wallet.residue_recordFill (w : Wallet) (order : Order) (qty fillPrice fee : Decimal)
    (sequence : Nat) :
    (w.recordFill order qty fillPrice fee sequence).residue symbol side entryPrice =
      w.residue symbol side entryPrice - fee := by
  unfold recordFill
  simp only
  rw [residue_emit _ _ _ _ _ (by simp)]
  simp [Payload.charge, Payload.cash, Payload.slicePnl, Payload.funding, sub_eq_add_neg]

theorem Wallet.executeChunks_spec (order : Order) (chunkQty fillPrice feeRate : Decimal)
    (left : Nat) : ∀ (idx : Nat) (remaining totalFee : Decimal) (w : Wallet),
    let r := Wallet.executeChunks order chunkQty fillPrice feeRate left idx remaining totalFee w
    r.1 = totalFee + chunkFees chunkQty fillPrice feeRate left remaining ∧
      r.2.residue symbol side entryPrice =
        w.residue symbol side entryPrice - chunkFees chunkQty fillPrice feeRate left remaining := by
  induction left with
  | zero => intro idx remaining totalFee w; simp [executeChunks, chunkFees]
  | succ left ih =>
      intro idx remaining totalFee w
      obtain ⟨hfee, hres⟩ := ih (idx + 1) (remaining - chunkQty)
        (totalFee + |(if left = 0 then remaining else chunkQty) * fillPrice| * feeRate)
        (w.recordFill order (if left = 0 then remaining else chunkQty) fillPrice
          (|(if left = 0 then remaining else chunkQty) * fillPrice| * feeRate) idx)
      simp only [executeChunks, chunkFees]
      refine ⟨?_, ?_⟩
      · rw [hfee]
        ring
      · rw [hres, residue_recordFill]
        ring

/-- An executed entry is charged its opening fee once by its fills. -/
theorem Wallet.executeEntry_spec (w : Wallet) (order : Order) (setup : Setup)
    (qty markPrice : Decimal) (externalFill : Option ExternalFill) (price fee : Decimal)
    (w' : Wallet)
    (h : w.executeEntry order symbol setup qty markPrice externalFill = (some (price, fee), w')) :
    fee = w.openFee setup qty markPrice externalFill ∧
      w'.residue symbol side entryPrice = w.residue symbol side entryPrice - fee := by
  unfold executeEntry at h
  unfold openFee
  cases externalFill with
  | some fill =>
      simp only [Prod.mk.injEq, Option.some.injEq] at h
      obtain ⟨⟨-, rfl⟩, rfl⟩ := h
      exact ⟨rfl, residue_recordFill symbol side entryPrice w order qty fill.price fill.fee 1⟩
  | none =>
      cases hstyle : setup.entryOrderStyle with
      | makerLimit =>
          simp only [hstyle, Prod.mk.injEq, Option.some.injEq] at h
          obtain ⟨⟨-, rfl⟩, rfl⟩ := h
          exact ⟨rfl, residue_recordFill symbol side entryPrice w order qty _ _ 1⟩
      | market =>
          simp only [hstyle] at h
          split at h
          · simp at h
          · simp only [Prod.mk.injEq, Option.some.injEq] at h
            obtain ⟨⟨-, rfl⟩, rfl⟩ := h
            obtain ⟨hfee, hres⟩ := executeChunks_spec symbol side entryPrice order
              (quantize8 (qty / (max 1 setup.fillChunks).toNat))
              (w.executionPrice markPrice setup.side true setup.spreadBps setup.slippageBps)
              w.takerFeeRate (max 1 setup.fillChunks).toNat 1 qty 0 w
            rw [zero_add] at hfee
            exact ⟨hfee, hres.trans (by rw [executeOrderInChunks, hfee])⟩

end Fills

/-! ## A booked position -/

/-- The wallet's position on `symbol` and the reducer's entry for it agree. -/
structure Wallet.Booked (symbol : Symbol) (w : Wallet) (pos : EnhancedPosition)
    (data : PositionData) : Prop where
  position : w.positions.get? symbol = some pos
  opened : pos.status = .opened
  reducer : w.runtime.openPositions.get? symbol = some data
  quantity : data.quantity = pos.remainingQuantity
  entryPrice : data.entryPrice = pos.entryPrice

section Booked

variable {symbol : Symbol} {w : Wallet} {pos : EnhancedPosition} {data : PositionData}

theorem Wallet.Booked.getOpenPosition (h : w.Booked symbol pos data) :
    w.getOpenPosition symbol = some pos :=
  Wallet.getOpenPosition_eq_some.mpr ⟨h.position, h.opened⟩

/-- After an event that keeps an entry for the symbol, the position object is
aligned with it. -/
theorem Wallet.Booked.emit (hpos : w.positions.get? symbol = some pos)
    (hopened : pos.status = .opened) {p : Payload} {data' : PositionData}
    (hdata : (w.runtime.applyPayload p).openPositions.get? symbol = some data') :
    (w.emit p).Booked symbol (pos.sync data') data' := by
  have hreducer : (w.emit p).runtime.openPositions.get? symbol = some data' := by
    rw [← hdata, Wallet.runtime_emit]
    exact congrArg (fun d => Dict.get? d symbol)
      (PortfolioState.openPositions_apply w.runtime (w.event p))
  refine ⟨?_, hopened, hreducer, rfl, rfl⟩
  rw [Wallet.positions_emit, hreducer, hpos, Option.map_some]
  simp only [syncPosition, hopened]

theorem Wallet.Booked.save (h : w.Booked symbol pos data) :
    ∃ data', w.save.Booked symbol pos data' := by
  refine ⟨data.withPeaks (w.positions.get? symbol), h.position, h.opened, ?_, ?_, ?_⟩
  · show (w.runtime.openPositions.mapVal _).get? symbol = _
    rw [Dict.get?_mapVal, h.reducer]
    rfl
  · rw [h.position]
    exact h.quantity
  · rw [h.position]
    exact h.entryPrice

/-- Editing the fields the reducer does not know keeps the agreement. -/
theorem Wallet.Booked.edit (h : w.Booked symbol pos data)
    (f : EnhancedPosition → EnhancedPosition) (hstatus : (f pos).status = pos.status)
    (hquantity : (f pos).remainingQuantity = pos.remainingQuantity)
    (hentry : (f pos).entryPrice = pos.entryPrice) :
    (w.editPosition symbol f).Booked symbol (f pos) data := by
  refine ⟨?_, hstatus.trans h.opened, h.reducer, h.quantity.trans hquantity.symm,
    h.entryPrice.trans hentry.symm⟩
  show (w.positions.modify symbol f).get? symbol = _
  rw [Dict.get?_modify_self, h.position]
  rfl

/-- TDS is charged without touching the positions. -/
theorem Wallet.Booked.chargeTds (h : w.Booked symbol pos data) (amount : Decimal)
    (reason : String) :
    ∃ pos' data', (w.chargeTds amount reason symbol).Booked symbol pos' data' ∧
      pos'.side = pos.side ∧ pos'.entryPrice = pos.entryPrice ∧
      pos'.feesPaid = pos.feesPaid ∧ pos'.tdsPaid = pos.tdsPaid := by
  unfold Wallet.chargeTds
  split
  · exact ⟨pos.sync data, data, Wallet.Booked.emit h.position h.opened h.reducer, rfl,
      h.entryPrice, rfl, rfl⟩
  · exact ⟨pos, data, h, rfl, rfl, rfl, rfl⟩

end Booked

/-! ## What the operations do to the books -/

/-- Residue and recorded charges together: what a step that books its charges
exactly once leaves alone. -/
def Wallet.settled (w : Wallet) (symbol : Symbol) (pos : EnhancedPosition) : Decimal :=
  w.residue symbol pos.side pos.entryPrice + pos.feesPaid + pos.tdsPaid

/-- An open position on the symbol, with its side, entry and settled books. -/
def Wallet.Live (w : Wallet) (symbol : Symbol) (side : PositionSide) (entryPrice c : Decimal) :
    Prop :=
  ∃ pos data, w.Booked symbol pos data ∧ pos.side = side ∧ pos.entryPrice = entryPrice ∧
    w.settled symbol pos = c

/-- PnL of the last exit slice of a closed position. -/
def EnhancedPosition.finalSlice (record : EnhancedPosition) : Decimal :=
  record.side.sign * (record.closePrice.getD 0 - record.entryPrice) * record.remainingQuantity

/-- The trade is over: nothing is open, and the last history record carries
its books, off by `gap`. -/
def Wallet.Done (w : Wallet) (symbol : Symbol) (side : PositionSide) (entryPrice c gap : Decimal) :
    Prop :=
  w.getOpenPosition symbol = none ∧
    ∃ record, w.positionHistory.getLast? = some record ∧ record.side = side ∧
      record.entryPrice = entryPrice ∧
      w.residue symbol side entryPrice + record.feesPaid + record.tdsPaid =
        c + record.finalSlice + gap

/-- By how much a close at the execution price misses the PnL of that price:
a price that is not positive leaves the unrealized PnL of the last mark. -/
def Wallet.staleGap (w : Wallet) (symbol : Symbol) (markPrice : Decimal)
    (externalFill : Option ExternalFill) : Decimal :=
  match w.getOpenPosition symbol with
  | none => 0
  | some pos =>
      let price := w.exitPrice pos.side markPrice externalFill
      if 0 < price then 0
      else pos.unrealizedPnl - pos.side.gain pos.entryPrice price * pos.remainingQuantity

section Operations

variable {w : Wallet} {symbol : Symbol} {side : PositionSide} {entryPrice c : Decimal}

theorem Wallet.Live.save (h : w.Live symbol side entryPrice c) :
    w.save.Live symbol side entryPrice c := by
  obtain ⟨pos, data, hbooked, hside, hentry, hc⟩ := h
  obtain ⟨data', hsaved⟩ := hbooked.save
  refine ⟨pos, data', hsaved, hside, hentry, ?_⟩
  rw [settled, residue_save]
  exact hc

/-- `FEE_CHARGED` and TDS of an opening are recorded as they are charged. -/
theorem Wallet.bookPosition_live (symbol : Symbol) (setup : Setup) (size : Sizing)
    (price fee markPrice : Decimal) :
    (w.bookPosition symbol setup size price fee markPrice).2.Live symbol setup.side price
      (w.residue symbol setup.side price) := by
  obtain ⟨hstatus, hsymbol, hside, hentry, hfees, htds, -⟩ :=
    w.newPosition_frame symbol setup size price fee markPrice
  unfold bookPosition
  simp only
  generalize w.newPosition symbol setup size price fee markPrice = pos at *
  set w₁ := w.tick.emit (.feeCharged fee "OPEN_FEE" symbol) with hw₁
  set tds := w₁.calculateTds (setup.side = .short) (price * size.quantity)
  set pos' := if 0 < tds then { pos with tdsPaid := pos.tdsPaid + tds } else pos with hpos'
  have hframe : pos'.status = .opened ∧ pos'.symbol = symbol ∧ pos'.side = setup.side ∧
      pos'.entryPrice = price ∧ pos'.feesPaid = fee ∧
      pos'.tdsPaid = if 0 < tds then tds else 0 := by
    rw [hpos']
    split
    · exact ⟨hstatus, hsymbol, hside, hentry, hfees, by simp [htds]⟩
    · exact ⟨hstatus, hsymbol, hside, hentry, hfees, htds⟩
  obtain ⟨hstatus', hsymbol', hside', hentry', hfees', htds'⟩ := hframe
  set w₂ := ((w₁.chargeTds tds "OPEN_TDS" symbol).setPosition symbol pos').syncUnrealizedTotal
  have hres₂ : w₂.residue symbol setup.side price =
      w.residue symbol setup.side price - fee - (if 0 < tds then tds else 0) := by
    have h₁ : w₁.residue symbol setup.side price = w.residue symbol setup.side price - fee := by
      rw [hw₁, residue_emit _ _ _ _ _ (by simp)]
      simp only [Payload.charge, Payload.cash, Payload.slicePnl, Payload.funding]
      show w.residue symbol setup.side price + _ = _
      ring
    rw [← h₁]
    exact w₁.residue_chargeTds symbol setup.side price tds "OPEN_TDS"
  have hdata : (w₂.runtime.applyPayload (.positionOpened
      (pos'.openPayload setup size fee))).openPositions.get? symbol =
        some ((pos'.openPayload setup size fee).toPositionData false) := by
    rw [← hsymbol']
    exact Dict.get?_set_self _ _ _
  have hbooked := Wallet.Booked.emit (w := w₂) (Dict.get?_set_self _ symbol pos') hstatus' hdata
  refine ⟨_, _, hbooked, hside', hentry', ?_⟩
  unfold settled
  rw [residue_emit _ _ _ _ _ (by simp)]
  simp only [EnhancedPosition.sync, OpenPayload.toPositionData, EnhancedPosition.openPayload,
    Payload.charge, Payload.cash, Payload.slicePnl, Payload.funding, hside', hentry', hfees',
    htds', hres₂]
  ring

/-- An opened position starts with its opening fee charged once too often. -/
theorem Wallet.openPosition_live (setup : Setup) (markPrice : Decimal)
    (customMargin customQuantity : Option Decimal) (externalFill : Option ExternalFill)
    (pos : EnhancedPosition)
    (hopen : (w.openPosition symbol setup markPrice customMargin customQuantity externalFill).1 =
      .ok (some pos)) :
    ∃ size, w.sizeOpen symbol setup customMargin customQuantity none = .ok (some size) ∧
      ∃ price, (w.openPosition symbol setup markPrice customMargin customQuantity
        externalFill).2.Live symbol setup.side price (w.residue symbol setup.side price -
          w.openFee setup size.quantity markPrice externalFill) := by
  unfold openPosition bookOpen at hopen ⊢
  cases hsize : w.sizeOpen symbol setup customMargin customQuantity none with
  | error e => simp [hsize] at hopen
  | ok size? =>
      cases size? with
      | none => simp [hsize] at hopen
      | some size =>
          refine ⟨size, rfl, ?_⟩
          simp only [hsize] at hopen ⊢
          cases hentry : (w.createOrder symbol setup.side size.quantity).2.executeEntry
              (w.createOrder symbol setup.side size.quantity).1 symbol setup size.quantity
              markPrice externalFill with
          | mk filled? v =>
              cases filled? with
              | none => simp [hentry] at hopen
              | some filled =>
                  obtain ⟨price, fee⟩ := filled
                  refine ⟨price, ?_⟩
                  obtain ⟨hfee, hres⟩ := executeEntry_spec symbol setup.side price _ _ setup
                    size.quantity markPrice externalFill price fee v hentry
                  have horder : (w.createOrder symbol setup.side size.quantity).2.residue symbol
                      setup.side price = w.residue symbol setup.side price := by
                    unfold createOrder createOrderWithType
                    rw [residue_emit _ _ _ _ _ (by simp)]
                    simp only [Payload.charge, Payload.cash, Payload.slicePnl, Payload.funding,
                      sub_zero, add_zero]
                    rfl
                  have hlive := v.bookPosition_live symbol setup size price fee markPrice
                  have hopenFee : w.openFee setup size.quantity markPrice externalFill = fee :=
                    hfee.symm
                  rw [hres, horder] at hlive
                  rw [hopenFee]
                  exact hlive.save

/-- A partial close either books nothing, or books its slice, its fee and its
TDS once each. -/
theorem Wallet.Live.bookPartial (h : w.Live symbol side entryPrice c) (markPrice : Decimal)
    (pct : Decimal) (reason : String) (tpLabel : Option String)
    (externalFill : Option ExternalFill) :
    w.bookPartial symbol markPrice pct reason tpLabel externalFill = (none, w) ∨
      ∃ pnl w', w.bookPartial symbol markPrice pct reason tpLabel externalFill = (some pnl, w') ∧
        w'.Live symbol side entryPrice c := by
  obtain ⟨pos, data, hbooked, hside, hentry, hc⟩ := h
  unfold Wallet.bookPartial
  rw [hbooked.getOpenPosition]
  simp only
  split
  · exact Or.inl rfl
  · refine Or.inr ⟨_, _, rfl, ?_⟩
    set price := w.exitPrice pos.side markPrice externalFill
    set qty := pos.remainingQuantity * pct with hqty
    set fee := w.calculateFee (price * qty) true
    set tds := w.calculateTds (pos.side = .long) (price * qty)
    set p := pos.partialPayload symbol price fee pct reason tpLabel with hp
    set w₁ := w.emit (.positionPartiallyClosed p) with hw₁
    set f : EnhancedPosition → EnhancedPosition := fun pos =>
      { pos with
        feesPaid := pos.feesPaid + fee
        partialRealizedPnl := pos.partialRealizedPnl + (p.pnl - fee)
        tdsPaid := if 0 < tds then pos.tdsPaid + tds else pos.tdsPaid } with hf
    have hdata : (w.runtime.applyPayload (.positionPartiallyClosed p)).openPositions.get? symbol =
        some (data.reduce p) := by
      show (w.runtime.openPositions.modify p.symbol _).get? symbol = _
      rw [show p.symbol = symbol from rfl, Dict.get?_modify_self, hbooked.reducer]
      rfl
    have hbooked₁ : w₁.Booked symbol (pos.sync (data.reduce p)) (data.reduce p) :=
      Wallet.Booked.emit hbooked.position hbooked.opened hdata
    have hbooked₂ := hbooked₁.edit f rfl rfl rfl
    obtain ⟨pos', data', hbooked', hside', hentry', hfees', htds'⟩ :=
      hbooked₂.chargeTds tds "PARTIAL_TDS"
    have hres₁ : w₁.residue symbol side entryPrice = w.residue symbol side entryPrice - fee := by
      rw [hw₁, residue_emit _ _ _ _ _ (by simp)]
      simp only [Payload.charge, Payload.cash, Payload.slicePnl, Payload.funding, hp,
        EnhancedPosition.partialPayload, if_true, PositionSide.gain_eq, hside, hentry]
      ring
    have hentry₂ : (f (pos.sync (data.reduce p))).entryPrice = entryPrice :=
      hbooked.entryPrice.trans hentry
    refine ⟨pos', data', hbooked', hside'.trans hside, hentry'.trans hentry₂, ?_⟩
    have hsettled : w.residue symbol side entryPrice + pos.feesPaid + pos.tdsPaid = c := by
      rw [← hside, ← hentry]
      exact hc
    have hfees₂ : (f (pos.sync (data.reduce p))).feesPaid = pos.feesPaid + fee := rfl
    have htds₂ : (f (pos.sync (data.reduce p))).tdsPaid =
        pos.tdsPaid + if 0 < tds then tds else 0 := by
      show (if 0 < tds then pos.tdsPaid + tds else pos.tdsPaid) = _
      split <;> simp
    have hres₂ : (w₁.editPosition symbol f).residue symbol side entryPrice =
        w₁.residue symbol side entryPrice := rfl
    unfold settled
    rw [hside'.trans hside, hentry'.trans hentry₂, residue_chargeTds, hres₂, hres₁, hfees', htds',
      hfees₂, htds₂, ← hsettled]
    ring

/-- Funding is credited as it is tallied. -/
theorem Wallet.Live.applyFunding (h : w.Live symbol side entryPrice c) (fundingRate : Decimal) :
    (w.applyFunding symbol fundingRate).2.Live symbol side entryPrice c := by
  obtain ⟨pos, data, hbooked, hside, hentry, hc⟩ := h
  unfold Wallet.applyFunding
  rw [hbooked.getOpenPosition]
  simp only
  set amount := pos.fundingAmount fundingRate
  set pos₁ : EnhancedPosition :=
    { pos with
      fundingPaid := pos.fundingPaid + amount
      partialRealizedPnl := pos.partialRealizedPnl + amount }
  set w₁ := { w with walletBalance := w.walletBalance + amount }.setPosition symbol pos₁
  set p : Payload := .fundingApplied symbol fundingRate
    (pos.remainingQuantity * pos.entryPrice) amount with hp
  have hbooked₁ : (w₁.emit p).Booked symbol (pos₁.sync data) data :=
    Wallet.Booked.emit (w := w₁) (p := p) (Dict.get?_set_self _ symbol pos₁) hbooked.opened
      hbooked.reducer
  refine Wallet.Live.save ⟨pos₁.sync data, data, hbooked₁, hside,
    hbooked.entryPrice.trans hentry, ?_⟩
  have hres : (w₁.emit p).residue symbol side entryPrice = w.residue symbol side entryPrice := by
    rw [hp, residue_emit _ _ _ _ _ (by simp)]
    simp only [Payload.charge, Payload.cash, Payload.slicePnl, Payload.funding, if_true, sub_zero,
      sub_self, add_zero]
    rfl
  have hside₁ : (pos₁.sync data).side = side := hside
  have hentry₁ : (pos₁.sync data).entryPrice = entryPrice := hbooked.entryPrice.trans hentry
  have hfees₁ : (pos₁.sync data).feesPaid = pos.feesPaid := rfl
  have htds₁ : (pos₁.sync data).tdsPaid = pos.tdsPaid := rfl
  rw [settled, hside₁, hentry₁, hfees₁, htds₁, hres, ← hc, settled, hside, hentry]

/-- The full close books everything but what its price misses. -/
theorem Wallet.Live.bookClose (h : w.Live symbol side entryPrice c) (markPrice : Decimal)
    (reason : String) (externalFill : Option ExternalFill) :
    (w.bookClose symbol markPrice reason externalFill).2.Done symbol side entryPrice c
      (w.staleGap symbol markPrice externalFill) := by
  obtain ⟨pos, data, hbooked, hside, hentry, hc⟩ := h
  unfold Wallet.bookClose Wallet.staleGap
  rw [hbooked.getOpenPosition]
  simp only
  set price := w.exitPrice pos.side markPrice externalFill
  set fee := w.calculateFee (price * pos.remainingQuantity) true
  set tds := w.calculateTds (pos.side = .long) (price * pos.remainingQuantity)
  set p := pos.closePayload symbol price fee reason with hp
  set w₁ := w.emit (.positionClosed p) with hw₁
  have hgone : (w₁.chargeTds tds "CLOSE_TDS" symbol).positions.get? symbol = none := by
    have hreducer : w₁.runtime.openPositions.get? symbol = none :=
      Dict.get?_erase_self _ symbol
    have hpositions : w₁.positions.get? symbol = none := by
      rw [hw₁, positions_emit, ← hw₁, hreducer]
      rfl
    unfold chargeTds
    split
    · rw [positions_emit]
      exact congrArg (Option.map _) hreducer
    · exact hpositions
  obtain ⟨-, hside', hentry', hremaining', -, hfees', htds', -⟩ :=
    EnhancedPosition.updatePnl_frame pos price
  refine ⟨?_, _, List.getLast?_concat, hside'.trans hside, hentry'.trans hentry, ?_⟩
  · show Option.filter _ ((w₁.chargeTds tds "CLOSE_TDS" symbol).positions.get? symbol) = none
    rw [hgone]
    rfl
  · have hres : (((w₁.chargeTds tds "CLOSE_TDS" symbol).tick.appendHistory
        (pos.closed price fee tds reason
          (w₁.chargeTds tds "CLOSE_TDS" symbol).nowMs)).save).residue symbol side entryPrice =
          w.residue symbol side entryPrice + (pos.updatePnl price).unrealizedPnl - fee -
            (if 0 < tds then tds else 0) := by
      rw [residue_save]
      have h₁ : w₁.residue symbol side entryPrice =
          w.residue symbol side entryPrice + (pos.updatePnl price).unrealizedPnl - fee := by
        rw [hw₁, residue_emit _ _ _ _ _ (by simp)]
        simp only [Payload.charge, Payload.cash, Payload.slicePnl, Payload.funding, hp,
          EnhancedPosition.closePayload]
        ring
      rw [← h₁]
      exact w₁.residue_chargeTds symbol side entryPrice tds "CLOSE_TDS"
    have hmark : (pos.updatePnl price).unrealizedPnl =
        side.sign * (price - entryPrice) * pos.remainingQuantity +
          (if 0 < price then 0
            else pos.unrealizedPnl - pos.side.gain pos.entryPrice price *
              pos.remainingQuantity) := by
      rw [← hside, ← hentry]
      split
      · next hpos =>
          rw [EnhancedPosition.updatePnl_unrealizedPnl pos price hbooked.opened hpos,
            PositionSide.gain_eq, add_zero]
      · next hpos =>
          rw [EnhancedPosition.updatePnl_of_nonpos pos price (not_lt.mp hpos),
            PositionSide.gain_eq]
          ring
    have hclosed : ∀ t, (pos.closed price fee tds reason t).finalSlice =
        side.sign * (price - entryPrice) * pos.remainingQuantity := by
      intro t
      simp only [EnhancedPosition.finalSlice, EnhancedPosition.closed, Option.getD_some, hside',
        hentry', hremaining', hside, hentry]
    have hfees : ∀ t, (pos.closed price fee tds reason t).feesPaid = pos.feesPaid + fee := by
      intro t
      simp only [EnhancedPosition.closed, hfees']
    have htds : ∀ t, (pos.closed price fee tds reason t).tdsPaid =
        pos.tdsPaid + if 0 < tds then tds else 0 := by
      intro t
      simp only [EnhancedPosition.closed, htds']
      split <;> simp
    have hsettled : w.residue symbol side entryPrice + pos.feesPaid + pos.tdsPaid = c := by
      rw [← hside, ← hentry]
      exact hc
    rw [hres, hclosed, hfees, htds, hmark, ← hsettled]
    ring

end Operations

/-! ## Trades -/

/-- What may happen to a position between its opening and its close. -/
inductive TradeStep where
  | partialClose (markPrice pct : Decimal) (reason : String) (tpLabel : Option String)
      (externalFill : Option ExternalFill)
  | applyFunding (fundingRate : Decimal)

def TradeStep.run (symbol : Symbol) (w : Wallet) : TradeStep → Wallet
  | .partialClose markPrice pct reason tpLabel externalFill =>
      (w.partialClose symbol markPrice pct reason tpLabel externalFill).2
  | .applyFunding fundingRate => (w.applyFunding symbol fundingRate).2

/-- What a step's full close, if it chains into one, misses. -/
def TradeStep.gap (symbol : Symbol) (w : Wallet) : TradeStep → Decimal
  | .partialClose markPrice pct reason tpLabel externalFill =>
      match w.bookPartial symbol markPrice pct reason tpLabel externalFill with
      | (none, _) => 0
      | (some _, w') => if w'.isDust symbol then w'.staleGap symbol markPrice none else 0
  | .applyFunding _ => 0

/-- A trade: the arguments of its opening, the steps, and those of the final
close. -/
structure Trade where
  symbol : Symbol
  setup : Setup
  markPrice : Decimal
  customMargin : Option Decimal := none
  customQuantity : Option Decimal := none
  externalFill : Option ExternalFill := none
  steps : List TradeStep
  closeMark : Decimal
  closeReason : String
  closeFill : Option ExternalFill := none

/-- The opening of the trade. -/
def Trade.opening (t : Trade) (w : Wallet) : Except PyErr (Option EnhancedPosition) × Wallet :=
  w.openPosition t.symbol t.setup t.markPrice t.customMargin t.customQuantity t.externalFill

/-- Whether the opening returns a position. -/
def Trade.opens (t : Trade) (w : Wallet) : Bool :=
  match (t.opening w).1 with
  | .ok (some _) => true
  | _ => false

/-- Steps and final close, from the opened wallet. -/
def closeAfter (symbol : Symbol) (closeMark : Decimal) (closeReason : String)
    (closeFill : Option ExternalFill) (steps : List TradeStep) (w : Wallet) : Wallet :=
  ((steps.foldl (TradeStep.run symbol) w).closePosition symbol closeMark closeReason closeFill).2

/-- The wallet after the trade. -/
def Trade.run (t : Trade) (w : Wallet) : Wallet :=
  closeAfter t.symbol t.closeMark t.closeReason t.closeFill t.steps (t.opening w).2

/-- What the closes of a run miss together. -/
def gapAfter (symbol : Symbol) (closeMark : Decimal) (closeFill : Option ExternalFill) :
    List TradeStep → Wallet → Decimal
  | [], w => w.staleGap symbol closeMark closeFill
  | s :: rest, w =>
      s.gap symbol w + gapAfter symbol closeMark closeFill rest (s.run symbol w)

/-- The opening fee of the trade, from the wallet and the arguments before it. -/
def Trade.openFee (t : Trade) (w : Wallet) : Decimal :=
  match w.sizeOpen t.symbol t.setup t.customMargin t.customQuantity none with
  | .ok (some size) => w.openFee t.setup size.quantity t.markPrice t.externalFill
  | _ => 0

/-- What the closes of the trade miss. -/
def Trade.closeGap (t : Trade) (w : Wallet) : Decimal :=
  gapAfter t.symbol t.closeMark t.closeFill t.steps (t.opening w).2

/-- The change of the balance is the exit slices and the funding of the trade
less the fees and the TDS its record carries. -/
def Wallet.Conserved (symbol : Symbol) (w w' : Wallet) (record : EnhancedPosition) : Prop :=
  let since := w'.log.drop w.log.length
  w'.walletBalance - w.walletBalance =
    tally (Payload.slicePnl symbol record.side record.entryPrice) since + record.finalSlice +
      tally (Payload.funding symbol) since - record.feesPaid - record.tdsPaid

instance (symbol : Symbol) (w w' : Wallet) (record : EnhancedPosition) :
    Decidable (Wallet.Conserved symbol w w' record) := by
  unfold Wallet.Conserved
  infer_instance

section Runs

variable {w : Wallet} {symbol : Symbol} {side : PositionSide} {entryPrice c gap : Decimal}

/-- A step either keeps the position live, or closes it with its gap. -/
theorem Wallet.Live.step (h : w.Live symbol side entryPrice c) (s : TradeStep) :
    ((s.run symbol w).Live symbol side entryPrice c ∧ s.gap symbol w = 0) ∨
      (s.run symbol w).Done symbol side entryPrice c (s.gap symbol w) := by
  cases s with
  | applyFunding fundingRate => exact Or.inl ⟨h.applyFunding fundingRate, rfl⟩
  | partialClose markPrice pct reason tpLabel externalFill =>
      simp only [TradeStep.run, TradeStep.gap, Wallet.partialClose]
      rcases h.bookPartial markPrice pct reason tpLabel externalFill with hnone | ⟨pnl, w', hsome, hlive⟩
      · rw [hnone]
        exact Or.inl ⟨h, rfl⟩
      · rw [hsome]
        simp only
        split
        · exact Or.inr (hlive.bookClose markPrice "FULL_VIA_PARTIALS" none)
        · exact Or.inl ⟨hlive.save, rfl⟩

/-- After the close nothing more happens. -/
theorem Wallet.Done.step (h : w.Done symbol side entryPrice c gap) (s : TradeStep) :
    s.run symbol w = w ∧ s.gap symbol w = 0 := by
  cases s with
  | applyFunding fundingRate =>
      simp only [TradeStep.run, TradeStep.gap, Wallet.applyFunding, h.1, and_self]
  | partialClose markPrice pct reason tpLabel externalFill =>
      simp only [TradeStep.run, TradeStep.gap, Wallet.partialClose, Wallet.bookPartial, h.1,
        and_self]

theorem Wallet.Done.closeAfter (h : w.Done symbol side entryPrice c gap) (closeMark : Decimal)
    (closeReason : String) (closeFill : Option ExternalFill) (steps : List TradeStep) :
    CryptoTrader.closeAfter symbol closeMark closeReason closeFill steps w = w ∧
      gapAfter symbol closeMark closeFill steps w = 0 := by
  induction steps with
  | nil =>
      simp only [CryptoTrader.closeAfter, gapAfter, List.foldl_nil, Wallet.closePosition,
        Wallet.bookClose, Wallet.staleGap, h.1, and_self]
  | cons s rest ih =>
      obtain ⟨hrun, hgap⟩ := h.step s
      simp only [CryptoTrader.closeAfter, gapAfter, List.foldl_cons, hrun, hgap, zero_add]
      exact ih

/-- Any steps and the final close end the trade, off by the gaps met. -/
theorem Wallet.Live.closeAfter (closeMark : Decimal) (closeReason : String)
    (closeFill : Option ExternalFill) (steps : List TradeStep) :
    ∀ {w : Wallet}, w.Live symbol side entryPrice c →
      (CryptoTrader.closeAfter symbol closeMark closeReason closeFill steps w).Done symbol side
        entryPrice c (gapAfter symbol closeMark closeFill steps w) := by
  induction steps with
  | nil => intro w h; exact h.bookClose closeMark closeReason closeFill
  | cons s rest ih =>
      intro w h
      rcases h.step s with ⟨hlive, hgap⟩ | hdone
      · simp only [gapAfter, hgap, zero_add]
        exact ih hlive
      · obtain ⟨hrun, hgap⟩ := hdone.closeAfter closeMark closeReason closeFill rest
        simp only [gapAfter, hgap, add_zero]
        show (CryptoTrader.closeAfter symbol closeMark closeReason closeFill rest
          (s.run symbol w)).Done _ _ _ _ _
        rw [hrun]
        exact hdone

end Runs

theorem TradeStep.run_steps (symbol : Symbol) (w : Wallet) (s : TradeStep) :
    Wallet.Steps w (s.run symbol w) := by
  cases s with
  | partialClose markPrice pct reason tpLabel externalFill =>
      exact Wallet.partialClose_steps symbol markPrice w pct reason tpLabel externalFill
  | applyFunding fundingRate => exact Wallet.applyFunding_steps symbol w fundingRate

theorem Trade.run_steps (t : Trade) (w : Wallet) : Wallet.Steps w (t.run w) := by
  have hfold : ∀ (steps : List TradeStep) (v : Wallet), Wallet.Steps w v →
      Wallet.Steps w (steps.foldl (TradeStep.run t.symbol) v) := by
    intro steps
    induction steps with
    | nil => intro v h; exact h
    | cons s rest ih => intro v h; exact ih _ (h.trans (s.run_steps t.symbol v))
  exact (hfold t.steps _ (Wallet.openPosition_steps t.symbol t.markPrice w t.setup t.customMargin
    t.customQuantity t.externalFill)).bookClose t.symbol t.closeMark t.closeReason t.closeFill

/-- Ten units bought at 100 and sold at 110, half of them early. -/
def demoTrade (fill : Option ExternalFill) : Trade :=
  { symbol := demoSymbol
    setup := { side := .long, playbook := .intraday, entryPrice := 100, slPrice := 95 }
    markPrice := 100
    customQuantity := some 10
    externalFill := fill
    steps := [.partialClose 105 (1 / 2) "TP1" none none, .applyFunding (1 / 1000)]
    closeMark := 110
    closeReason := "TP2" }

end CryptoTrader
