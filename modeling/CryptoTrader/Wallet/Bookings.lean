import CryptoTrader.Wallet.Ledger
import CryptoTrader.Wallet.Positions

/-!
# What a booking does to the positions

One lemma for each booking of `Wallet/Trading.lean`: the position it leaves on
its own symbol, the event that announced it, and the frame: positions on other
symbols stay the same, and so do the configuration, the rates and the
leverages.
-/

namespace CryptoTrader

open CryptoTrader.Lib

theorem Wallet.log_prefix_emit (w : Wallet) (payload : Payload) : w.log <+: (w.emit payload).log := by
  rw [Wallet.log_emit]
  exact List.prefix_append _ _

/-- `w'` is aligned, differs from `w` at one symbol only, and has logged no less. -/
structure Wallet.OnlyAt (symbol : Symbol) (w w' : Wallet) : Prop where
  aligned : w'.Aligned
  cfg : w'.cfg = w.cfg
  liveExecution : w'.liveExecution = w.liveExecution
  leverage : w'.leverage = w.leverage
  symbolLeverages : w'.symbolLeverages = w.symbolLeverages
  takerFeeRate : w'.takerFeeRate = w.takerFeeRate
  log : w.log <+: w'.log
  elsewhere : ∀ s, s ≠ symbol → SamePosition (w.getOpenPosition s) (w'.getOpenPosition s)

namespace Wallet.OnlyAt

variable {symbol : Symbol} {u v w : Wallet}

theorem refl (h : w.Aligned) : OnlyAt symbol w w :=
  ⟨h, rfl, rfl, rfl, rfl, rfl, List.prefix_rfl, fun _ _ => .refl _⟩

theorem trans (h : OnlyAt symbol u v) (h' : OnlyAt symbol v w) : OnlyAt symbol u w :=
  ⟨h'.aligned, h'.cfg.trans h.cfg, h'.liveExecution.trans h.liveExecution,
    h'.leverage.trans h.leverage, h'.symbolLeverages.trans h.symbolLeverages,
    h'.takerFeeRate.trans h.takerFeeRate, h.log.trans h'.log,
    fun s hs => (h.elsewhere s hs).trans (h'.elsewhere s hs)⟩

theorem tick (h : OnlyAt symbol u v) : OnlyAt symbol u v.tick :=
  h.trans ⟨h.aligned, rfl, rfl, rfl, rfl, rfl, List.prefix_rfl, fun _ _ => .refl _⟩

theorem save (h : OnlyAt symbol u v) : OnlyAt symbol u v.save := by
  have hlog : v.log <+: v.save.log := by simp [Wallet.log_save]
  exact h.trans ⟨fun s => (h.aligned s).save, rfl, rfl, rfl, rfl, rfl, hlog, fun _ _ => .refl _⟩

theorem appendHistory (h : OnlyAt symbol u v) (record : EnhancedPosition) :
    OnlyAt symbol u (v.appendHistory record) :=
  h.trans ⟨h.aligned, rfl, rfl, rfl, rfl, rfl, List.prefix_rfl, fun _ _ => .refl _⟩

theorem emit (h : OnlyAt symbol u v) {payload : Payload}
    (htarget : payload.target? = none ∨ payload.target? = some symbol) :
    OnlyAt symbol u (v.emit payload) := by
  refine h.trans ⟨fun s => (h.aligned s).emit payload, rfl, rfl, rfl, rfl, rfl,
    v.log_prefix_emit payload, ?_⟩
  intro s hs
  refine (h.aligned s).same_emit ?_
  rcases htarget with heq | heq
  · rw [heq]
    simp
  · rw [heq]
    exact fun hsome => hs (Option.some.inj hsome).symm

theorem chargeTds (h : OnlyAt symbol u v) (amount : Decimal) (reason : String) :
    OnlyAt symbol u (v.chargeTds amount reason symbol) := by
  unfold Wallet.chargeTds
  split
  · exact h.emit (Or.inl rfl)
  · exact h

/-- Editing the position of the symbol itself, in fields of its own. -/
theorem editPosition (h : OnlyAt symbol u v) {f : EnhancedPosition → EnhancedPosition}
    (hopen : ∀ s pos, pos.OpenOn s → (f pos).OpenOn s)
    (hf : ∀ pos data, pos.Follows data → (f pos).Follows data) :
    OnlyAt symbol u (v.editPosition symbol f) := by
  refine h.trans ⟨fun s => (h.aligned s).editPosition symbol (hopen s) hf, rfl, rfl, rfl, rfl, rfl,
    List.prefix_rfl, ?_⟩
  intro s hs
  have hget : (v.editPosition symbol f).getOpenPosition s = v.getOpenPosition s := by
    unfold Wallet.getOpenPosition
    rw [Wallet.editPosition, Dict.get?_modify_ne _ _ (Ne.symm hs)]
  rw [hget]
  exact .refl _

/-- Changing the position object of the symbol, as long as it is open, ahead of
an event about the symbol. -/
theorem emitAfter (h : OnlyAt symbol u v) {positions : Dict Symbol EnhancedPosition}
    (hopen : ∀ pos, positions.get? symbol = some pos → pos.OpenOn symbol)
    (hother : ∀ s, s ≠ symbol → positions.get? s = v.positions.get? s) (total : Decimal)
    {payload : Payload} (htarget : payload.target? = some symbol) :
    OnlyAt symbol u
      ({ v with positions := positions, unrealizedPnlTotal := total }.emit payload) := by
  set v' : Wallet := { v with positions := positions, unrealizedPnlTotal := total } with hv'
  have haligned : ∀ s, s ≠ symbol → v'.AlignedAt s := by
    intro s hs
    show Paired s (positions.get? s) (v.runtime.openPositions.get? s)
    rw [hother s hs]
    exact h.aligned s
  refine h.trans ⟨?_, rfl, rfl, rfl, rfl, rfl, v'.log_prefix_emit payload, ?_⟩
  · intro s
    by_cases hs : s = symbol
    · subst hs
      exact Wallet.OpenAt.aligned_emit (w := v') hopen payload
    · exact (haligned s hs).emit payload
  · intro s hs
    have hget : v'.getOpenPosition s = v.getOpenPosition s := by
      unfold Wallet.getOpenPosition
      rw [← hother s hs]
    rw [← hget]
    refine (haligned s hs).same_emit ?_
    rw [htarget]
    exact fun hsome => hs (Option.some.inj hsome).symm

/-- Putting in an open position and announcing it. -/
theorem announce (h : OnlyAt symbol u v) {pos : EnhancedPosition} (hpos : pos.OpenOn symbol)
    {payload : Payload} (htarget : payload.target? = some symbol) :
    OnlyAt symbol u ((v.setPosition symbol pos).syncUnrealizedTotal.emit payload) :=
  h.emitAfter (Wallet.OpenAt.setPosition (w := v) hpos)
    (fun _ hs => Dict.get?_set_ne _ _ (Ne.symm hs)) _ htarget

/-- Editing the position and announcing it. -/
theorem editEmit (h : OnlyAt symbol u v) {f : EnhancedPosition → EnhancedPosition}
    (hopen : ∀ pos, pos.OpenOn symbol → (f pos).OpenOn symbol)
    {payload : Payload} (htarget : payload.target? = some symbol) :
    OnlyAt symbol u ((v.editPosition symbol f).emit payload) :=
  h.emitAfter ((h.aligned symbol).openAt.editPosition symbol hopen)
    (fun _ hs => Dict.get?_modify_ne _ _ (Ne.symm hs)) v.unrealizedPnlTotal htarget

end Wallet.OnlyAt

/-! ## The rows a booking appends -/

/-- The events `w'` has logged past `w`. -/
def Wallet.appended (w w' : Wallet) : List Payload :=
  (w'.log.drop w.log.length).map Event.payload

theorem Wallet.Steps.mem_appended {u v : Wallet} (h : Wallet.Steps u v) (payload : Payload)
    {w : Wallet} (h' : Wallet.Steps (v.emit payload) w) : payload ∈ u.appended w := by
  obtain ⟨new, hnew⟩ := h.log_extends
  obtain ⟨new', hnew'⟩ := h'.log_extends
  have hlog : w.log = u.log ++ (new ++ v.event payload :: new') := by
    rw [hnew', Wallet.log_emit, hnew]
    simp
  unfold Wallet.appended
  rw [hlog, List.drop_left, List.map_append, List.map_cons]
  exact List.mem_append_right _ List.mem_cons_self

/-- What is appended later is appended. -/
theorem Wallet.Steps.appended_subset {u v w : Wallet} (h : Wallet.Steps u v)
    (h' : Wallet.Steps v w) : v.appended w ⊆ u.appended w := by
  obtain ⟨new, hnew⟩ := h.log_extends
  obtain ⟨new', hnew'⟩ := h'.log_extends
  unfold Wallet.appended
  rw [hnew', List.drop_left, hnew, List.append_assoc, List.drop_left, List.map_append]
  exact List.subset_append_right _ _

theorem Wallet.appended_mono {u v w : Wallet} (h : u.log <+: v.log) (h' : v.log <+: w.log) :
    u.appended v ⊆ u.appended w := by
  obtain ⟨new, hnew⟩ := h
  obtain ⟨new', hnew'⟩ := h'
  unfold Wallet.appended
  rw [← hnew', ← hnew, List.drop_left, List.append_assoc, List.drop_left, List.map_append]
  exact List.subset_append_left _ _

theorem Wallet.mem_appended_of_log {w w' : Wallet} {new : List Event}
    (hlog : w'.log = w.log ++ new) {p : Payload} (hp : p ∈ w.appended w') :
    ∃ e ∈ new, e.payload = p := by
  unfold Wallet.appended at hp
  rw [hlog, List.drop_left] at hp
  exact List.mem_map.mp hp

theorem Wallet.log_chargeTds (w : Wallet) (amount : Decimal) (reason : String) (symbol : Symbol) :
    ∃ tds, (w.chargeTds amount reason symbol).log = w.log ++ tds ∧
      ∀ e ∈ tds, e.payload.target? = none := by
  unfold chargeTds
  split
  · refine ⟨_, w.log_emit _, ?_⟩
    intro e he
    rw [List.mem_singleton.mp he]
    rfl
  · exact ⟨[], by simp, by simp⟩

@[simp] theorem Wallet.appended_self (w : Wallet) : w.appended w = [] := by
  simp [appended]

/-! ## Opening -/

/-- The position that booking `size` at `price` leaves on a symbol. -/
structure EnhancedPosition.BooksOpen (pos : EnhancedPosition) (w : Wallet) (s : Symbol)
    (setup : Setup) (size : Sizing) (price : Decimal) : Prop where
  symbol : pos.symbol = s
  side : pos.side = setup.side
  entryPrice : pos.entryPrice = price
  remainingQuantity : pos.remainingQuantity = size.quantity
  slPrice : pos.slPrice = setup.slPrice
  leverage : pos.leverage = w.getLeverage s
  marginUsed : pos.marginUsed = size.quantity * price / (w.getLeverage s : ℕ)
  protectiveOrders : pos.protectiveOrders = .none

section Open

variable {w : Wallet} (h : w.Aligned) (symbol : Symbol) (setup : Setup) (markPrice : Decimal)

include h

/-- The booking proper. -/
theorem Wallet.bookPosition_spec (size : Sizing) (price fee : Decimal) :
    let r := w.bookPosition symbol setup size price fee markPrice
    Wallet.OnlyAt symbol w r.2 ∧ r.2.getOpenPosition symbol = some r.1 ∧
      r.1.BooksOpen w symbol setup size price ∧
      ∃ p, Payload.positionOpened p ∈ w.appended r.2 ∧ p.symbol = symbol ∧
        p.quantity = size.quantity ∧ p.executionPrice = price ∧ p.fee = fee := by
  intro r
  obtain ⟨hstatus, hsymbol, hside, hentry, -, -, hsl, hlev⟩ :=
    w.newPosition_frame symbol setup size price fee markPrice
  -- the position that is put in, with the TDS of a short
  have hput : ∃ pos v, Wallet.OnlyAt symbol w v ∧ Wallet.Steps w v ∧
      pos.symbol = symbol ∧ pos.side = setup.side ∧ pos.entryPrice = price ∧
      pos.status = .opened ∧ pos.slPrice = setup.slPrice ∧ pos.leverage = w.getLeverage symbol ∧
      r = let v' := (v.setPosition symbol pos).syncUnrealizedTotal.emit
            (.positionOpened (pos.openPayload setup size fee))
          ((v'.positions.get? symbol).getD pos, v') := by
    have hfee : Wallet.OnlyAt symbol w (w.tick.emit (.feeCharged fee "OPEN_FEE" symbol)) :=
      (Wallet.OnlyAt.refl h).tick.emit (Or.inl rfl)
    have hsteps := (Wallet.Steps.refl w).tick.emit (.feeCharged fee "OPEN_FEE" symbol)
    refine ⟨_, _, hfee.chargeTds _ "OPEN_TDS", hsteps.chargeTds symbol _ "OPEN_TDS", ?_, ?_, ?_, ?_,
      ?_, ?_, rfl⟩
    all_goals split <;> assumption
  obtain ⟨pos, v, honly, hsteps, hsymbol, hside, hentry, hstatus, hsl, hlev, hr⟩ := hput
  rw [hr]
  simp only
  have hopen : (v.setPosition symbol pos).syncUnrealizedTotal.OpenAt symbol :=
    Wallet.OpenAt.setPosition ⟨hsymbol, hstatus⟩
  have hput : (v.setPosition symbol pos).syncUnrealizedTotal.getOpenPosition symbol = some pos := by
    rw [hopen.getOpenPosition_eq]
    exact Dict.get?_set_self _ _ _
  have hdata : ((v.setPosition symbol pos).syncUnrealizedTotal.emit
      (.positionOpened (pos.openPayload setup size fee))).runtime.openPositions.get? symbol =
        some ((pos.openPayload setup size fee).toPositionData false) := by
    rw [Wallet.runtime_emit, PortfolioState.openPositions_apply]
    show (Dict.set _ pos.symbol _).get? symbol = _
    rw [hsymbol, Dict.get?_set_self]
  have hpos := hopen.getOpenPosition_emit _ hput hdata
  have hget := (Wallet.getOpenPosition_eq_some.mp hpos).1
  rw [hget]
  refine ⟨honly.announce ⟨hsymbol, hstatus⟩ (by rw [← hsymbol]; rfl), hpos, ?_, pos.openPayload setup size fee,
    ?_, hsymbol, rfl, hentry, rfl⟩
  · refine ⟨hsymbol, hside, hentry, rfl, hsl, hlev, ?_, rfl⟩
    show size.quantity * pos.entryPrice / (pos.leverage : ℕ) = _
    rw [hentry, hlev]
  · exact ((hsteps.setPosition symbol pos).syncUnrealizedTotal).mem_appended _ (.refl _)

/-- A fill that is sized is booked as an open position. -/
theorem Wallet.bookOpen_of_size (customMargin customQuantity liveQty : Option Decimal)
    (fill : ExternalFill) {size : Sizing}
    (hsize : w.sizeOpen symbol setup customMargin customQuantity liveQty = .ok (some size)) :
    ∃ pos w', w.bookOpen symbol setup markPrice customMargin customQuantity (some fill) liveQty =
        (.ok (some pos), w') ∧
      Wallet.OnlyAt symbol w w' ∧ w'.getOpenPosition symbol = some pos ∧
      pos.BooksOpen w symbol setup size fill.price ∧
      ∃ p, Payload.positionOpened p ∈ w.appended w' ∧ p.symbol = symbol ∧
        p.quantity = size.quantity ∧ p.executionPrice = fill.price ∧ p.fee = fill.fee := by
  obtain ⟨order, w₁, horder⟩ : ∃ order w₁,
      w.createOrder symbol setup.side size.quantity = (order, w₁) := ⟨_, _, rfl⟩
  have h₁ : Wallet.OnlyAt symbol w w₁ := by
    rw [← show (w.createOrder symbol setup.side size.quantity).2 = w₁ by rw [horder]]
    exact (Wallet.OnlyAt.refl h).tick.emit (Or.inl rfl)
  have hsteps₁ : Wallet.Steps w w₁ := by
    rw [← show (w.createOrder symbol setup.side size.quantity).2 = w₁ by rw [horder]]
    exact (Wallet.Steps.refl w).createOrderWithType _
  have h₂ : Wallet.OnlyAt symbol w (w₁.recordFill order size.quantity fill.price fill.fee 1) :=
    h₁.emit (Or.inl rfl)
  have hsteps₂ := hsteps₁.recordFill order size.quantity fill.price fill.fee 1
  obtain ⟨honly, hpos, hbooks, p, hmem, hp⟩ :=
    Wallet.bookPosition_spec h₂.aligned symbol setup markPrice size fill.price fill.fee
  refine ⟨_, _, ?_, h₂.trans honly, hpos, ?_, p, ?_, hp⟩
  · unfold bookOpen
    rw [hsize]
    simp only [horder]
    rfl
  · have hlev : (w₁.recordFill order size.quantity fill.price fill.fee 1).getLeverage symbol =
        w.getLeverage symbol := by
      unfold getLeverage
      rw [h₂.leverage, h₂.symbolLeverages]
    exact ⟨hbooks.symbol, hbooks.side, hbooks.entryPrice, hbooks.remainingQuantity, hbooks.slPrice,
      by rw [hbooks.leverage, hlev], by rw [hbooks.marginUsed, hlev], hbooks.protectiveOrders⟩
  · exact hsteps₂.appended_subset ((Wallet.Steps.refl _).bookPosition symbol markPrice setup size _ _)
      hmem

end Open

/-! ## Adopting -/

/-- The position that an adoption leaves on its symbol. -/
structure EnhancedPosition.BooksAdoption (pos : EnhancedPosition) (w : Wallet)
    (r : AdoptRequest) : Prop where
  symbol : pos.symbol = r.symbol
  remainingQuantity : pos.remainingQuantity = r.quantity
  leverage : pos.leverage = r.leverage.getD (w.getLeverage r.symbol)
  marginUsed : pos.marginUsed = r.quantity * r.entryPrice / (pos.leverage : ℕ)
  protectiveOrders : pos.protectiveOrders = .none

theorem Wallet.adoptedPosition_frame (w : Wallet) (r : AdoptRequest) :
    (w.adoptedPosition r).symbol = r.symbol ∧ (w.adoptedPosition r).status = .opened ∧
      (w.adoptedPosition r).leverage = r.leverage.getD (w.getLeverage r.symbol) := by
  unfold adoptedPosition
  cases r.markPrice with
  | none => exact ⟨rfl, rfl, rfl⟩
  | some mark =>
      have hmarked (pos : EnhancedPosition) :
          (pos.updatePnl mark).symbol = pos.symbol ∧ (pos.updatePnl mark).status = pos.status ∧
            (pos.updatePnl mark).leverage = pos.leverage := by
        obtain ⟨hsymbol, -, -, -, hstatus, -, -, -, hlev, -⟩ := pos.updatePnl_frame mark
        exact ⟨hsymbol, hstatus, hlev⟩
      simp only
      split
      · exact hmarked _
      · exact ⟨rfl, rfl, rfl⟩

/-- An adoption either does nothing or leaves its position. -/
theorem Wallet.bookAdoption_spec {w : Wallet} (h : w.Aligned) (r : AdoptRequest) :
    w.bookAdoption r = (none, w) ∨
      ∃ pos w', w.bookAdoption r = (some pos, w') ∧ Wallet.OnlyAt r.symbol w w' ∧
        w.getOpenPosition r.symbol = none ∧ w'.getOpenPosition r.symbol = some pos ∧
        pos.BooksAdoption w r := by
  unfold bookAdoption
  by_cases hheld : (w.getOpenPosition r.symbol).isSome
  · rw [if_pos hheld]
    exact Or.inl rfl
  · rw [if_neg hheld]
    by_cases hbad : r.quantity ≤ 0 ∨ r.entryPrice ≤ 0
    · rw [if_pos hbad]
      exact Or.inl rfl
    · rw [if_neg hbad]
      right
      obtain ⟨hsymbol, hstatus, hlev⟩ := w.adoptedPosition_frame r
      generalize w.adoptedPosition r = pos at hsymbol hstatus hlev
      have hopen : (w.tick.setPosition r.symbol pos).syncUnrealizedTotal.OpenAt r.symbol :=
        Wallet.OpenAt.setPosition ⟨hsymbol, hstatus⟩
      have hput : (w.tick.setPosition r.symbol pos).syncUnrealizedTotal.getOpenPosition r.symbol =
          some pos := by
        rw [hopen.getOpenPosition_eq]
        exact Dict.get?_set_self _ _ _
      have hdata : ((w.tick.setPosition r.symbol pos).syncUnrealizedTotal.emit
          (.positionAdopted (pos.adoptPayload r))).runtime.openPositions.get? r.symbol =
            some ((pos.adoptPayload r).toPositionData true) := by
        rw [Wallet.runtime_emit, PortfolioState.openPositions_apply]
        exact Dict.get?_set_self _ _ _
      have hpos := hopen.getOpenPosition_emit _ hput hdata
      refine ⟨_, _, rfl, ?_, Option.not_isSome_iff_eq_none.mp hheld, ?_, ?_⟩
      · exact (Wallet.OnlyAt.refl h).tick.announce ⟨hsymbol, hstatus⟩ rfl
      · rw [(Wallet.getOpenPosition_eq_some.mp hpos).1]
        exact hpos
      · rw [(Wallet.getOpenPosition_eq_some.mp hpos).1]
        exact ⟨hsymbol, rfl, hlev, rfl, rfl⟩

/-! ## Closing -/

section Close

variable {w : Wallet} (symbol : Symbol) (markPrice : Decimal)
  (reason : String) (fill : Option ExternalFill)

theorem Wallet.bookClose_flat (hflat : w.getOpenPosition symbol = none) :
    w.bookClose symbol markPrice reason fill = (none, w) := by
  unfold bookClose
  rw [hflat]

variable (h : w.Aligned) {pos : EnhancedPosition} (hpos : w.getOpenPosition symbol = some pos)
include h hpos

/-- A close leaves the symbol flat and announces the whole position. -/
theorem Wallet.bookClose_spec :
    let r := w.bookClose symbol markPrice reason fill
    let price := w.exitPrice pos.side markPrice fill
    Wallet.OnlyAt symbol w r.2 ∧ r.2.getOpenPosition symbol = none ∧
      Payload.positionClosed (pos.closePayload symbol price
        (w.calculateFee (price * pos.remainingQuantity) true) reason) ∈ w.appended r.2 := by
  unfold bookClose
  rw [hpos]
  simp only
  set payload := Payload.positionClosed (pos.closePayload symbol
    (w.exitPrice pos.side markPrice fill)
    (w.calculateFee (w.exitPrice pos.side markPrice fill * pos.remainingQuantity) true) reason)
  have hemit : Wallet.OnlyAt symbol w (w.emit payload) := (Wallet.OnlyAt.refl h).emit (Or.inr rfl)
  have hflat : (w.emit payload).getOpenPosition symbol = none := by
    refine Wallet.getOpenPosition_emit_none payload ?_
    rw [Wallet.runtime_emit, PortfolioState.openPositions_apply]
    exact Dict.get?_erase_self _ _
  refine ⟨((hemit.chargeTds _ "CLOSE_TDS").tick.appendHistory _).save, ?_, ?_⟩
  · show ((w.emit payload).chargeTds _ "CLOSE_TDS" symbol).getOpenPosition symbol = none
    exact ((hemit.aligned symbol).same_chargeTds _ _ symbol).flat hflat
  · refine (Wallet.Steps.refl w).mem_appended payload ?_
    refine (((Wallet.Steps.refl _).chargeTds symbol _ "CLOSE_TDS").tick.appendHistory _).save ?_
    exact Wallet.eventsApplied_chargeTds_pos symbol _ _ (Wallet.eventsApplied_emit_pos _ _)

/-- The fields a partial close leaves alone, and the rest of the quantity. -/
structure EnhancedPosition.Reduced (pos pos' : EnhancedPosition) (qty : Decimal) : Prop where
  symbol : pos'.symbol = pos.symbol
  side : pos'.side = pos.side
  leverage : pos'.leverage = pos.leverage
  slPrice : pos'.slPrice = pos.slPrice
  protectiveOrders : pos'.protectiveOrders = pos.protectiveOrders
  remainingQuantity : pos'.remainingQuantity = max 0 (pos.remainingQuantity - qty)

/-- A partial close of a positive quantity leaves the rest open and announces
the slice. -/
theorem Wallet.bookPartial_spec (pct : Decimal) (tpLabel : Option String)
    (hqty : 0 < pos.remainingQuantity * pct) :
    let r := w.bookPartial symbol markPrice pct reason tpLabel fill
    let price := w.exitPrice pos.side markPrice fill
    let p := pos.partialPayload symbol price
      (w.calculateFee (price * (pos.remainingQuantity * pct)) true) pct reason tpLabel
    r.1 = some p.pnl ∧ Wallet.OnlyAt symbol w r.2 ∧ Payload.positionPartiallyClosed p ∈ w.appended r.2 ∧
      ∃ pos', r.2.getOpenPosition symbol = some pos' ∧
        pos.Reduced pos' (pos.remainingQuantity * pct) := by
  unfold bookPartial
  rw [hpos]
  simp only
  rw [if_neg (not_le.mpr hqty)]
  set p := pos.partialPayload symbol (w.exitPrice pos.side markPrice fill)
    (w.calculateFee (w.exitPrice pos.side markPrice fill * (pos.remainingQuantity * pct)) true) pct
    reason tpLabel with hp
  have halign := h symbol
  have hemit : Wallet.OnlyAt symbol w (w.emit (.positionPartiallyClosed p)) :=
    (Wallet.OnlyAt.refl h).emit (Or.inr rfl)
  -- the position after the event
  obtain ⟨data, hdata, hfollows⟩ := halign.entry hpos
  have hdata' : (w.emit (.positionPartiallyClosed p)).runtime.openPositions.get? symbol =
      some (data.reduce p) := by
    rw [Wallet.runtime_emit, PortfolioState.openPositions_apply]
    show (w.runtime.openPositions.modify symbol (fun pos => pos.reduce p)).get? symbol = _
    rw [Dict.get?_modify_self, hdata]
    rfl
  have hpos₁ := halign.openAt.getOpenPosition_emit _ hpos hdata'
  have hreduced : pos.Reduced (pos.sync (data.reduce p)) (pos.remainingQuantity * pct) := by
    refine ⟨rfl, rfl, rfl, hfollows.slPrice.symm, ?_, ?_⟩
    · show data.protectiveOrders.getD pos.protectiveOrders = _
      cases hprot : data.protectiveOrders with
      | none => rfl
      | some q => exact (hfollows.protectiveOrders q hprot).symm
    · show max 0 (data.quantity - pos.remainingQuantity * pct) = _
      rw [← hfollows.quantity]
  refine ⟨rfl, ?_, ?_, ?_⟩
  · refine Wallet.OnlyAt.chargeTds (hemit.editPosition ?_ ?_) _ "PARTIAL_TDS"
    · intro _ _ hq
      exact hq
    · intro q d hq
      exact ⟨hq.quantity, hq.entryPrice, hq.slPrice, hq.protectiveOrders⟩
  · refine (Wallet.Steps.refl w).mem_appended _ ?_
    exact ((Wallet.Steps.refl _).editPosition symbol _).chargeTds symbol _ "PARTIAL_TDS"
  · -- the fees and the TDS are noted in fields of the position's own
    have hnoted : ∀ (f : EnhancedPosition → EnhancedPosition) (tds : Decimal),
        (∀ q, (f q).status = q.status) → (∀ q, q.OpenOn symbol → (f q).OpenOn symbol) →
        (∀ q d, q.Follows d → (f q).Follows d) →
        pos.Reduced (f (pos.sync (data.reduce p))) (pos.remainingQuantity * pct) →
        ∃ pos', (((w.emit (.positionPartiallyClosed p)).editPosition symbol f).chargeTds tds
            "PARTIAL_TDS" symbol).getOpenPosition symbol = some pos' ∧
          pos.Reduced pos' (pos.remainingQuantity * pct) := by
      intro f tds hstatus hopen hf hred
      have hedit := Wallet.getOpenPosition_editPosition (w := w.emit (.positionPartiallyClosed p))
        symbol hstatus
      rw [hpos₁] at hedit
      have haligned := (hemit.aligned symbol).editPosition symbol hopen hf
      obtain ⟨pos', hpos', hsame⟩ := (haligned.same_chargeTds tds "PARTIAL_TDS" symbol).exists hedit
      exact ⟨pos', hpos',
        hsame.symbol.trans hred.symbol, hsame.side.trans hred.side,
        hsame.leverage.trans hred.leverage, hsame.slPrice.trans hred.slPrice,
        hsame.protectiveOrders.trans hred.protectiveOrders,
        hsame.remainingQuantity.trans hred.remainingQuantity⟩
    refine hnoted _ _ (fun _ => rfl) (fun _ hq => hq) ?_ ⟨rfl, rfl, rfl, hreduced.slPrice,
      hreduced.protectiveOrders, hreduced.remainingQuantity⟩
    intro q d hq
    exact ⟨hq.quantity, hq.entryPrice, hq.slPrice, hq.protectiveOrders⟩

end Close

/-- Besides the slice, a partial close appends no event about a position. -/
theorem Wallet.target_bookPartial (w : Wallet) (symbol : Symbol) (markPrice pct : Decimal)
    (reason : String) (tpLabel : Option String) (fill : Option ExternalFill)
    {pos : EnhancedPosition} (hpos : w.getOpenPosition symbol = some pos)
    (hqty : 0 < pos.remainingQuantity * pct) :
    let price := w.exitPrice pos.side markPrice fill
    ∀ p ∈ w.appended (w.bookPartial symbol markPrice pct reason tpLabel fill).2,
      p.target? ≠ none → p = .positionPartiallyClosed (pos.partialPayload symbol price
        (w.calculateFee (price * (pos.remainingQuantity * pct)) true) pct reason tpLabel) := by
  intro price p hp htarget
  unfold bookPartial at hp
  rw [hpos] at hp
  simp only at hp
  rw [if_neg (not_le.mpr hqty)] at hp
  set payload := Payload.positionPartiallyClosed (pos.partialPayload symbol price
    (w.calculateFee (price * (pos.remainingQuantity * pct)) true) pct reason tpLabel)
  obtain ⟨tds, htds, hnone⟩ := Wallet.log_chargeTds ((w.emit payload).editPosition symbol _)
    (w.calculateTds (pos.side = .long) (price * (pos.remainingQuantity * pct))) "PARTIAL_TDS" symbol
  have hlog := htds.trans (congrArg (· ++ tds) (w.log_emit payload))
  simp only [List.append_assoc] at hlog
  obtain ⟨e, he, rfl⟩ := Wallet.mem_appended_of_log hlog hp
  rcases List.mem_append.mp he with he | he
  · rw [List.mem_singleton.mp he]
    rfl
  · exact absurd (hnone e he) htarget

end CryptoTrader
