import CryptoTrader.Wallet.Bookings
import CryptoTrader.Wallet.Exits
import Mathlib.Tactic.Linarith

/-!
# The cached unrealized PnL

`unrealized_pnl_total` is a sum over the open positions that only some
operations refresh.  It is right when every open position carries its PnL at
its last mark and the cache is the sum of what the positions carry.
-/

namespace CryptoTrader

open CryptoTrader.Lib

/-! ## Worth at the last mark -/

/-- The last mark of each symbol since its position was opened. -/
abbrev Marks := Symbol → Option Decimal

/-- The PnL of what is left of a position at its last mark; a position that
has not been marked has none. -/
def EnhancedPosition.pnlAt (pos : EnhancedPosition) (mark : Option Decimal) : Decimal :=
  (mark.map (fun m => pos.side.gain pos.entryPrice m * pos.remainingQuantity)).getD 0

/-- The sum over the open positions of (last mark - entry) * remaining quantity
with the side's sign. -/
def Wallet.markedPnl (w : Wallet) (marks : Marks) : Decimal :=
  ((w.positions.entries.filter (fun (_, pos) => pos.status = .opened)).map
    (fun (symbol, pos) => pos.pnlAt (marks symbol))).sum

/-- `unrealized_pnl_total` is that sum. -/
def Wallet.EquityExact (marks : Marks) (w : Wallet) : Prop :=
  w.unrealizedPnlTotal = w.markedPnl marks

instance (marks : Marks) (w : Wallet) : Decidable (w.EquityExact marks) :=
  inferInstanceAs (Decidable (_ = _))

/-- The sum `_sync_unrealized_total` stores. -/
def Wallet.carriedPnl (w : Wallet) : Decimal :=
  ((w.positions.values.filter (fun pos => pos.status = .opened)).map
    EnhancedPosition.unrealizedPnl).sum

/-- The PnL the open position of a symbol carries. -/
def Wallet.unrealizedOn (w : Wallet) (symbol : Symbol) : Decimal :=
  ((w.getOpenPosition symbol).map EnhancedPosition.unrealizedPnl).getD 0

/-- The open position of a symbol carries its PnL at the last mark. -/
def Wallet.CurrentAt (marks : Marks) (w : Wallet) (symbol : Symbol) : Prop :=
  ∀ pos, w.getOpenPosition symbol = some pos → pos.unrealizedPnl = pos.pnlAt (marks symbol)

/-- All positions carry their PnL, and the cache is its sum. -/
structure Wallet.Valued (marks : Marks) (w : Wallet) : Prop where
  aligned : w.Aligned
  current : ∀ s, w.CurrentAt marks s
  total : w.unrealizedPnlTotal = w.carriedPnl

section Sums

variable {marks : Marks} {w w' : Wallet}

theorem Wallet.carriedPnl_eq_total (w : Wallet) :
    w.carriedPnl =
      w.positions.total (fun pos => if pos.status = .opened then pos.unrealizedPnl else 0) := by
  unfold carriedPnl Dict.total
  induction w.positions.values with
  | nil => rfl
  | cons pos rest ih =>
      by_cases hopen : pos.status = .opened
      · simp [hopen, ih]
      · simp [hopen, ih]

theorem Wallet.summand_unrealized (w : Wallet) (symbol : Symbol) :
    w.positions.summand (fun pos => if pos.status = .opened then pos.unrealizedPnl else 0) symbol =
      w.unrealizedOn symbol := by
  unfold unrealizedOn getOpenPosition Dict.summand
  cases w.positions.get? symbol with
  | none => rfl
  | some pos =>
      by_cases hopen : pos.status = .opened
      · simp [hopen, Option.filter]
      · simp [hopen, Option.filter]

/-- Wallets that carry the same but on one symbol differ in sum by what they
carry there. -/
theorem Wallet.carriedPnl_sub (symbol : Symbol)
    (h : ∀ s, s ≠ symbol → w.unrealizedOn s = w'.unrealizedOn s) :
    w.carriedPnl - w.unrealizedOn symbol = w'.carriedPnl - w'.unrealizedOn symbol := by
  rw [carriedPnl_eq_total, carriedPnl_eq_total, ← summand_unrealized, ← summand_unrealized]
  refine Dict.total_sub_summand _ symbol (fun s hs => ?_)
  rw [summand_unrealized, summand_unrealized, h s hs]

/-- With every position current, the carried sum is the marked one. -/
theorem Wallet.Valued.equityExact (h : w.Valued marks) : w.EquityExact marks := by
  unfold EquityExact markedPnl
  rw [h.total]
  unfold carriedPnl Dict.values
  rw [List.filter_map, List.map_map]
  congr 1
  refine List.map_congr_left (fun p hp => ?_)
  obtain ⟨hmem, hopen⟩ := List.mem_filter.mp hp
  have hget := w.positions.get?_of_mem (k := p.1) (v := p.2) hmem
  exact h.current p.1 p.2 (Wallet.getOpenPosition_eq_some.mpr ⟨hget, of_decide_eq_true hopen⟩)

end Sums

/-! ## What leaves the values alone -/

/-- Two states of a position worth the same at every mark, carrying the same
PnL. -/
structure EnhancedPosition.SameValue (pos pos' : EnhancedPosition) : Prop where
  side : pos'.side = pos.side
  entryPrice : pos'.entryPrice = pos.entryPrice
  remainingQuantity : pos'.remainingQuantity = pos.remainingQuantity
  unrealizedPnl : pos'.unrealizedPnl = pos.unrealizedPnl

theorem EnhancedPosition.SameValue.refl (pos : EnhancedPosition) : pos.SameValue pos :=
  ⟨rfl, rfl, rfl, rfl⟩

theorem EnhancedPosition.SameValue.trans {a b c : EnhancedPosition} (h : a.SameValue b)
    (h' : b.SameValue c) : a.SameValue c :=
  ⟨h'.side.trans h.side, h'.entryPrice.trans h.entryPrice,
    h'.remainingQuantity.trans h.remainingQuantity, h'.unrealizedPnl.trans h.unrealizedPnl⟩

theorem EnhancedPosition.SameValue.pnlAt {pos pos' : EnhancedPosition} (h : pos.SameValue pos')
    (mark : Option Decimal) : pos'.pnlAt mark = pos.pnlAt mark := by
  unfold EnhancedPosition.pnlAt
  rw [h.side, h.entryPrice, h.remainingQuantity]

/-- What is open on a symbol before and after, by value. -/
abbrev SameWorth : Option EnhancedPosition → Option EnhancedPosition → Prop :=
  Option.Rel EnhancedPosition.SameValue

theorem SameWorth.refl (a : Option EnhancedPosition) : SameWorth a a := by
  cases a with
  | none => exact .none
  | some pos => exact .some (.refl pos)

theorem SameWorth.trans {a b c : Option EnhancedPosition} (h : SameWorth a b)
    (h' : SameWorth b c) : SameWorth a c := by
  cases h with
  | none => exact h'
  | some hab =>
      cases h' with
      | some hbc => exact .some (hab.trans hbc)

/-- The symbol whose entry an event gives another quantity or entry price. -/
def Payload.revalues? : Payload → Option Symbol
  | .positionOpened p | .positionAdopted p => some p.symbol
  | .positionPartiallyClosed p => some p.symbol
  | .positionClosed p | .liquidation p => some p.symbol
  | _ => none

/-- Two entries with the same quantity and entry price. -/
def PositionData.SameSize (data data' : PositionData) : Prop :=
  data'.quantity = data.quantity ∧ data'.entryPrice = data.entryPrice

theorem PositionData.sameSize_rel_refl (a : Option PositionData) :
    Option.Rel PositionData.SameSize a a := by
  cases a with
  | none => exact .none
  | some data => exact .some ⟨rfl, rfl⟩

/-- Changing an entry in other fields. -/
theorem sameSize_modify (positions : Dict Symbol PositionData) (symbol s : Symbol)
    {f : PositionData → PositionData} (hf : ∀ data : PositionData, data.SameSize (f data)) :
    Option.Rel PositionData.SameSize (positions.get? s) ((positions.modify symbol f).get? s) := by
  rw [Dict.get?_modify]
  by_cases heq : symbol = s
  · subst heq
    rw [if_pos rfl]
    cases positions.get? symbol with
    | none => exact .none
    | some data => exact .some (hf data)
  · rw [if_neg heq]
    exact PositionData.sameSize_rel_refl _

theorem PortfolioState.sameSize_apply (s : PortfolioState) (event : Event) {symbol : Symbol}
    (h : event.payload.revalues? ≠ some symbol) :
    Option.Rel PositionData.SameSize (s.openPositions.get? symbol)
      ((s.apply event).openPositions.get? symbol) := by
  by_cases htarget : event.payload.target? = some symbol
  · rw [PortfolioState.openPositions_apply]
    cases hp : event.payload with
    | slAdjusted _ _ | trailingStopActivated _ | protectiveOrdersPlaced _ _
    | protectiveOrdersCancelled _ =>
        exact sameSize_modify _ _ _ (fun _ => ⟨rfl, rfl⟩)
    | positionOpened p | positionAdopted p | positionPartiallyClosed p | positionClosed p
    | liquidation p =>
        rw [hp] at h htarget
        exact absurd htarget h
    | _ =>
        rw [hp] at htarget
        cases htarget
  · rw [PortfolioState.get?_apply _ _ htarget]
    exact PositionData.sameSize_rel_refl _

/-- The position objects of `w` differ from those of `w₀` on `s` in nothing of
value; then an event that does not revalue the symbol keeps it that way. -/
theorem Wallet.AlignedAt.sameWorth_emit {w₀ w : Wallet} {s : Symbol} (h : w₀.AlignedAt s)
    (hopen : w.OpenAt s) (hruntime : w.runtime = w₀.runtime)
    (hpos : SameWorth (w₀.getOpenPosition s) (w.getOpenPosition s)) {payload : Payload}
    (hp : payload.revalues? ≠ some s) :
    SameWorth (w₀.getOpenPosition s) ((w.emit payload).getOpenPosition s) := by
  have hentry : Option.Rel PositionData.SameSize (w₀.runtime.openPositions.get? s)
      ((w.emit payload).runtime.openPositions.get? s) := by
    rw [Wallet.runtime_emit, hruntime]
    exact PortfolioState.sameSize_apply _ (w.event payload) hp
  have halign := h
  unfold Wallet.AlignedAt at halign
  rw [h.openAt.getOpenPosition_eq] at hpos ⊢
  cases hpos₀ : w₀.positions.get? s with
  | none =>
      rw [hpos₀] at halign
      cases hdata : w₀.runtime.openPositions.get? s with
      | some data => rw [hdata] at halign; exact halign.elim
      | none =>
          rw [hdata] at hentry
          cases hdata' : (w.emit payload).runtime.openPositions.get? s with
          | some data' => rw [hdata'] at hentry; cases hentry
          | none =>
              rw [Wallet.getOpenPosition_emit_none payload hdata']
              exact .none
  | some pos₀ =>
      rw [hpos₀] at halign hpos
      cases hdata : w₀.runtime.openPositions.get? s with
      | none => rw [hdata] at halign; exact halign.elim
      | some data =>
          rw [hdata] at halign hentry
          cases hdata' : (w.emit payload).runtime.openPositions.get? s with
          | none => rw [hdata'] at hentry; cases hentry
          | some data' =>
              rw [hdata'] at hentry
              cases hw : w.getOpenPosition s with
              | none => rw [hw] at hpos; cases hpos
              | some pos =>
                  rw [hw] at hpos
                  cases hpos with
                  | some hsame =>
                      cases hentry with
                      | some hsize =>
                          rw [hopen.getOpenPosition_emit payload hw hdata']
                          refine .some ⟨hsame.side, ?_, ?_, hsame.unrealizedPnl⟩
                          · exact hsize.2.trans halign.2.entryPrice.symm
                          · exact hsize.1.trans halign.2.quantity.symm

/-- The settings that no operation on orders and positions changes. -/
structure Wallet.SameSettings (w w' : Wallet) : Prop where
  liveExecution : w'.liveExecution = w.liveExecution
  leverage : w'.leverage = w.leverage
  symbolLeverages : w'.symbolLeverages = w.symbolLeverages
  maintenanceMarginRatio : w'.maintenanceMarginRatio = w.maintenanceMarginRatio

namespace Wallet.SameSettings

variable {u v w : Wallet}

theorem refl (w : Wallet) : SameSettings w w := ⟨rfl, rfl, rfl, rfl⟩

theorem trans (h : SameSettings u v) (h' : SameSettings v w) : SameSettings u w :=
  ⟨h'.liveExecution.trans h.liveExecution, h'.leverage.trans h.leverage,
    h'.symbolLeverages.trans h.symbolLeverages,
    h'.maintenanceMarginRatio.trans h.maintenanceMarginRatio⟩

theorem getLeverage (h : SameSettings u v) (symbol : Symbol) :
    v.getLeverage symbol = u.getLeverage symbol := by
  unfold Wallet.getLeverage
  rw [h.leverage, h.symbolLeverages]

end Wallet.SameSettings

/-- `w'` is aligned, has the cache and the settings of `w`, and its positions
carry and are worth the same, those of `touched` apart. -/
structure Wallet.KeepsWorth (touched : Option Symbol) (w w' : Wallet) : Prop where
  aligned : w'.Aligned
  total : w'.unrealizedPnlTotal = w.unrealizedPnlTotal
  settings : w.SameSettings w'
  positions : ∀ s, touched ≠ some s → SameWorth (w.getOpenPosition s) (w'.getOpenPosition s)

/-- An edit that leaves a position open and its value alone. -/
theorem Wallet.sameWorth_editPosition {w : Wallet} (h : w.Aligned) (symbol : Symbol)
    {f : EnhancedPosition → EnhancedPosition} (hopen : ∀ s pos, pos.OpenOn s → (f pos).OpenOn s)
    (hvalue : ∀ pos : EnhancedPosition, pos.SameValue (f pos)) (s : Symbol) :
    SameWorth (w.getOpenPosition s) ((w.editPosition symbol f).getOpenPosition s) := by
  rw [(h s).openAt.getOpenPosition_eq,
    ((h s).openAt.editPosition symbol (hopen s)).getOpenPosition_eq, editPosition, Dict.get?_modify]
  by_cases heq : symbol = s
  · subst heq
    rw [if_pos rfl]
    cases w.positions.get? symbol with
    | none => exact .none
    | some pos => exact .some (hvalue pos)
  · rw [if_neg heq]
    exact .refl _

namespace Wallet.KeepsWorth

variable {touched : Option Symbol} {u v w : Wallet}

theorem refl (h : w.Aligned) : KeepsWorth touched w w := ⟨h, rfl, .refl w, fun _ _ => .refl _⟩

theorem trans (h : KeepsWorth touched u v) (h' : KeepsWorth touched v w) :
    KeepsWorth touched u w :=
  ⟨h'.aligned, h'.total.trans h.total, h.settings.trans h'.settings,
    fun s hs => (h.positions s hs).trans (h'.positions s hs)⟩

/-- What touches nothing touches nothing else. -/
theorem weaken (h : KeepsWorth none u v) (touched : Option Symbol) : KeepsWorth touched u v :=
  ⟨h.aligned, h.total, h.settings, fun s _ => h.positions s (by simp)⟩

theorem tick (h : KeepsWorth touched u v) : KeepsWorth touched u v.tick :=
  h.trans ⟨h.aligned, rfl, ⟨rfl, rfl, rfl, rfl⟩, fun _ _ => .refl _⟩

theorem save (h : KeepsWorth touched u v) : KeepsWorth touched u v.save :=
  h.trans ⟨fun s => (h.aligned s).save, rfl, ⟨rfl, rfl, rfl, rfl⟩, fun _ _ => .refl _⟩

theorem appendHistory (h : KeepsWorth touched u v) (record : EnhancedPosition) :
    KeepsWorth touched u (v.appendHistory record) :=
  h.trans ⟨h.aligned, rfl, ⟨rfl, rfl, rfl, rfl⟩, fun _ _ => .refl _⟩

theorem setHalted (h : KeepsWorth touched u v) (b : Bool) :
    KeepsWorth touched u { v with halted := b } :=
  h.trans ⟨h.aligned, rfl, ⟨rfl, rfl, rfl, rfl⟩, fun _ _ => .refl _⟩

theorem emit (h : KeepsWorth touched u v) {payload : Payload}
    (hp : payload.revalues? = none ∨ payload.revalues? = touched) :
    KeepsWorth touched u (v.emit payload) := by
  refine h.trans ⟨fun s => (h.aligned s).emit payload, rfl, ⟨rfl, rfl, rfl, rfl⟩, fun s hs => ?_⟩
  refine (h.aligned s).sameWorth_emit (h.aligned s).openAt rfl (.refl _) ?_
  rcases hp with heq | heq
  · simp [heq]
  · rwa [heq]

theorem chargeTds (h : KeepsWorth touched u v) (amount : Decimal) (reason : String)
    (symbol : Symbol) : KeepsWorth touched u (v.chargeTds amount reason symbol) := by
  unfold Wallet.chargeTds
  split
  · exact h.emit (Or.inl rfl)
  · exact h

/-- An edit of a position in fields of no value that its entry does not share. -/
theorem editPosition (h : KeepsWorth touched u v) (symbol : Symbol)
    {f : EnhancedPosition → EnhancedPosition} (hopen : ∀ s pos, pos.OpenOn s → (f pos).OpenOn s)
    (hf : ∀ pos data, pos.Follows data → (f pos).Follows data)
    (hvalue : ∀ pos : EnhancedPosition, pos.SameValue (f pos)) :
    KeepsWorth touched u (v.editPosition symbol f) := by
  refine h.trans ⟨fun s => (h.aligned s).editPosition symbol (hopen s) hf, rfl,
    ⟨rfl, rfl, rfl, rfl⟩, fun s _ => ?_⟩
  exact sameWorth_editPosition h.aligned symbol hopen hvalue s

/-- Recording or dropping protective orders. -/
theorem dress (h : KeepsWorth touched u v) {symbol : Symbol}
    (f : EnhancedPosition → ProtectiveOrders) {payload : Payload}
    (htarget : payload.target? = some symbol) (hp : payload.revalues? = none) :
    KeepsWorth touched u
      ((v.editPosition symbol (fun pos => { pos with protectiveOrders := f pos })).emit payload) := by
  have hopen : ∀ s (pos : EnhancedPosition), pos.OpenOn s →
      ({ pos with protectiveOrders := f pos } : EnhancedPosition).OpenOn s := fun _ _ h => h
  have honly := (Wallet.OnlyAt.refl h.aligned).editEmit (hopen symbol) htarget
  refine h.trans ⟨honly.aligned, rfl, ⟨rfl, rfl, rfl, rfl⟩, fun s _ => ?_⟩
  refine (h.aligned s).sameWorth_emit ((h.aligned s).openAt.editPosition symbol (hopen s)) rfl
    (Wallet.sameWorth_editPosition h.aligned symbol hopen (fun _ => ⟨rfl, rfl, rfl, rfl⟩) s) ?_
  rw [hp]
  simp

/-! ### Orders -/

theorem createOrderWithType (h : KeepsWorth touched u v) (r : OrderRequest) :
    KeepsWorth touched u (v.createOrderWithType r).2 :=
  h.tick.emit (Or.inl rfl)

theorem recordFill (h : KeepsWorth touched u v) (order : Order) (quantity fillPrice fee : Decimal)
    (sequence : Nat) : KeepsWorth touched u (v.recordFill order quantity fillPrice fee sequence) :=
  h.emit (Or.inl rfl)

theorem executeChunks (order : Order) (chunkQty fillPrice feeRate : Decimal) (left : Nat) :
    ∀ {v : Wallet} (idx : Nat) (remaining totalFee : Decimal), KeepsWorth touched u v →
      KeepsWorth touched u
        (Wallet.executeChunks order chunkQty fillPrice feeRate left idx remaining totalFee v).2 := by
  induction left with
  | zero => intro v idx remaining totalFee h; exact h
  | succ left ih =>
      intro v idx remaining totalFee h
      exact ih (idx + 1) _ _ (h.recordFill order _ fillPrice _ idx)

theorem executeOrderInChunks (h : KeepsWorth touched u v) (order : Order)
    (totalQuantity fillPrice feeRate : Decimal) (chunkCount : Int) :
    KeepsWorth touched u
      (v.executeOrderInChunks order totalQuantity fillPrice feeRate chunkCount).2 :=
  executeChunks order _ fillPrice feeRate _ 1 totalQuantity 0 h

theorem placePendingOrder (h : KeepsWorth touched u v) (r : OrderRequest) :
    KeepsWorth touched u (v.placePendingOrder r).2 := by
  unfold Wallet.placePendingOrder
  split
  · exact h
  · exact h.createOrderWithType r

theorem cancelOrder (h : KeepsWorth touched u v) (orderId reason : String) :
    KeepsWorth touched u (v.cancelOrder orderId reason).2 := by
  unfold Wallet.cancelOrder
  split
  · exact h
  · split
    · exact h
    · exact h.emit (Or.inl rfl)

theorem runInvariantSweep (h : KeepsWorth touched u v) :
    KeepsWorth touched u v.runInvariantSweep := by
  unfold Wallet.runInvariantSweep
  generalize invariantRules = rules
  induction rules generalizing v with
  | nil => exact h
  | cons rule rest ih =>
      refine ih ?_
      unfold Wallet.checkRule
      split
      · exact h
      · exact (h.emit (Or.inl rfl)).setHalted _

theorem tryTrigger (h : KeepsWorth touched u v) (symbol : Symbol) (price : Decimal)
    (order : Order) : KeepsWorth touched u (v.tryTrigger symbol price order) := by
  unfold Wallet.tryTrigger
  simp only
  split
  · exact h
  · split
    · exact h.emit (Or.inl rfl)
    · split
      · exact h.emit (Or.inl rfl)
      · split
        · exact h.executeOrderInChunks order _ _ _ 1
        · exact h

theorem evaluateOrder (h : KeepsWorth touched u v) (symbol : Symbol) (price : Decimal)
    (order : Order) : KeepsWorth touched u (v.evaluateOrder symbol price order) := by
  unfold Wallet.evaluateOrder
  simp only
  split
  · exact h
  · split
    · exact h.tryTrigger symbol price order
    · split
      · exact h.tick.emit (Or.inl rfl)
      · exact h.tick.tryTrigger symbol price order

theorem evaluatePendingOrders (h : KeepsWorth touched u v) (symbol : Symbol) (markPrice : Decimal) :
    KeepsWorth touched u (v.evaluatePendingOrders symbol markPrice) := by
  unfold Wallet.evaluatePendingOrders
  split
  · exact h
  · next hhalted =>
    clear hhalted
    refine runInvariantSweep ?_
    generalize v.orderList = orders
    induction orders generalizing v with
    | nil => exact h
    | cons order rest ih => exact ih (h.evaluateOrder symbol markPrice order)

theorem executeEntry (h : KeepsWorth touched u v) (order : Order) (symbol : Symbol) (setup : Setup)
    (qty markPrice : Decimal) (externalFill : Option ExternalFill) :
    KeepsWorth touched u (v.executeEntry order symbol setup qty markPrice externalFill).2 := by
  unfold Wallet.executeEntry
  split
  · exact h.recordFill order _ _ _ 1
  · split
    · exact h.recordFill order _ _ _ 1
    · simp only
      split
      · exact h.emit (Or.inl rfl)
      · exact h.executeOrderInChunks order _ _ _ _

/-! ### Bookings -/

theorem applyFunding (h : KeepsWorth touched u v) (symbol : Symbol) (fundingRate : Decimal) :
    KeepsWorth touched u (v.applyFunding symbol fundingRate).2 := by
  unfold Wallet.applyFunding
  cases hpos : v.getOpenPosition symbol with
  | none => exact h
  | some pos =>
      simp only
      have hput : v.setPosition symbol
          { pos with
            fundingPaid := pos.fundingPaid + pos.fundingAmount fundingRate
            partialRealizedPnl := pos.partialRealizedPnl + pos.fundingAmount fundingRate } =
          v.editPosition symbol (fun pos =>
            { pos with
              fundingPaid := pos.fundingPaid + pos.fundingAmount fundingRate
              partialRealizedPnl := pos.partialRealizedPnl + pos.fundingAmount fundingRate }) := by
        unfold Wallet.setPosition Wallet.editPosition Dict.modify
        rw [(Wallet.getOpenPosition_eq_some.mp hpos).1]
      have hedit := h.editPosition symbol (f := fun pos =>
        { pos with
          fundingPaid := pos.fundingPaid + pos.fundingAmount fundingRate
          partialRealizedPnl := pos.partialRealizedPnl + pos.fundingAmount fundingRate })
        (fun _ _ ho => ho) (fun _ _ hf => ⟨hf.quantity, hf.entryPrice, hf.slPrice, hf.protectiveOrders⟩)
        (fun _ => ⟨rfl, rfl, rfl, rfl⟩)
      rw [← hput] at hedit
      exact (hedit.emit (Or.inl (show (Payload.fundingApplied symbol fundingRate
        (pos.remainingQuantity * pos.entryPrice) (pos.fundingAmount fundingRate)).revalues? = none
          from rfl))).save

theorem adjustSlPrice (h : KeepsWorth touched u v) (symbol : Symbol) (newSlPrice : Decimal) :
    KeepsWorth touched u (v.adjustSlPrice symbol newSlPrice) :=
  (h.emit (Or.inl rfl)).save

theorem activateTrailingStop (h : KeepsWorth touched u v) (symbol : Symbol) :
    KeepsWorth touched u (v.activateTrailingStop symbol) :=
  (h.emit (Or.inl rfl)).save

theorem bookClose {symbol : Symbol} (h : KeepsWorth (some symbol) u v) (markPrice : Decimal)
    (reason : String) (fill : Option ExternalFill) :
    KeepsWorth (some symbol) u (v.bookClose symbol markPrice reason fill).2 := by
  unfold Wallet.bookClose
  split
  · exact h
  · exact (((h.emit (Or.inr rfl)).chargeTds _ "CLOSE_TDS" symbol).tick.appendHistory _).save

theorem liquidatePosition {symbol : Symbol} (h : KeepsWorth (some symbol) u v)
    (markPrice : Decimal) : KeepsWorth (some symbol) u (v.liquidatePosition symbol markPrice) := by
  unfold Wallet.liquidatePosition
  split
  · exact h
  · exact ((h.emit (Or.inr rfl)).tick.appendHistory _).save

theorem bookPartial {symbol : Symbol} (h : KeepsWorth (some symbol) u v) (markPrice pct : Decimal)
    (reason : String) (tpLabel : Option String) (fill : Option ExternalFill) :
    KeepsWorth (some symbol) u (v.bookPartial symbol markPrice pct reason tpLabel fill).2 := by
  unfold Wallet.bookPartial
  cases v.getOpenPosition symbol with
  | none => exact h
  | some pos =>
      simp only
      split
      · exact h
      · have hemit (fee : Decimal) :=
          Wallet.KeepsWorth.emit h (Or.inr (show (Payload.positionPartiallyClosed
            (pos.partialPayload symbol (v.exitPrice pos.side markPrice fill) fee pct reason
              tpLabel)).revalues? = some symbol from rfl))
        refine ((hemit _).editPosition symbol ?_ ?_ ?_).chargeTds _ _ _
        · exact fun _ _ ho => ho
        · exact fun _ _ hf => ⟨hf.quantity, hf.entryPrice, hf.slPrice, hf.protectiveOrders⟩
        · exact fun _ => ⟨rfl, rfl, rfl, rfl⟩

end Wallet.KeepsWorth

/-! ## What the bookings leave on their symbol -/

theorem SameWorth.exists {a b : Option EnhancedPosition} (h : SameWorth a b)
    {pos : EnhancedPosition} (ha : a = some pos) : ∃ pos', b = some pos' ∧ pos.SameValue pos' := by
  cases h with
  | none => cases ha
  | some hsame =>
      cases ha
      exact ⟨_, rfl, hsame⟩

theorem SameWorth.of_some {a b : Option EnhancedPosition} (h : SameWorth a b)
    {pos' : EnhancedPosition} (hb : b = some pos') : ∃ pos, a = some pos ∧ pos.SameValue pos' := by
  cases h with
  | none => cases hb
  | some hsame =>
      cases hb
      exact ⟨_, rfl, hsame⟩

theorem SameWorth.unrealizedOn {w w' : Wallet} {symbol : Symbol}
    (h : SameWorth (w.getOpenPosition symbol) (w'.getOpenPosition symbol)) :
    w.unrealizedOn symbol = w'.unrealizedOn symbol := by
  unfold Wallet.unrealizedOn
  revert h
  generalize w.getOpenPosition symbol = a
  generalize w'.getOpenPosition symbol = b
  intro h
  cases h with
  | none => rfl
  | some hsame => exact congrArg (fun x => (some x).getD 0) hsame.unrealizedPnl.symm

theorem Wallet.unrealizedOn_of_flat {w : Wallet} {symbol : Symbol}
    (h : w.getOpenPosition symbol = none) : w.unrealizedOn symbol = 0 := by
  unfold unrealizedOn
  rw [h]
  rfl

theorem Wallet.unrealizedOn_of_open {w : Wallet} {symbol : Symbol} {pos : EnhancedPosition}
    (h : w.getOpenPosition symbol = some pos) : w.unrealizedOn symbol = pos.unrealizedPnl := by
  unfold unrealizedOn
  rw [h]
  rfl

section OnSymbol

variable {w : Wallet} (h : w.Aligned) {symbol : Symbol}
include h

theorem Wallet.bookClose_flattens (markPrice : Decimal) (reason : String)
    (fill : Option ExternalFill) :
    (w.bookClose symbol markPrice reason fill).2.getOpenPosition symbol = none := by
  cases hpos : w.getOpenPosition symbol with
  | none =>
      rw [Wallet.bookClose_flat symbol markPrice reason fill hpos]
      exact hpos
  | some pos => exact (Wallet.bookClose_spec symbol markPrice reason fill h hpos).2.1

omit h in
theorem Wallet.liquidatePosition_flattens (markPrice : Decimal) :
    (w.liquidatePosition symbol markPrice).getOpenPosition symbol = none := by
  unfold liquidatePosition
  cases hpos : w.getOpenPosition symbol with
  | none => exact hpos
  | some pos =>
      refine Wallet.getOpenPosition_emit_none (w := w) _ ?_
      rw [Wallet.runtime_emit, PortfolioState.openPositions_apply]
      exact Dict.get?_erase_self _ _

/-- A partial close leaves the carried PnL as it was and takes its share off the
quantity. -/
theorem Wallet.bookPartial_worth {pos : EnhancedPosition}
    (hpos : w.getOpenPosition symbol = some pos) (markPrice pct : Decimal) (reason : String)
    (tpLabel : Option String) (fill : Option ExternalFill)
    (hqty : 0 < pos.remainingQuantity * pct) :
    ∃ pos', (w.bookPartial symbol markPrice pct reason tpLabel fill).2.getOpenPosition symbol =
        some pos' ∧
      ({ pos with
        remainingQuantity := max 0 (pos.remainingQuantity - pos.remainingQuantity * pct) } :
          EnhancedPosition).SameValue pos' := by
  unfold bookPartial
  rw [hpos]
  simp only
  rw [if_neg (not_le.mpr hqty)]
  set p := pos.partialPayload symbol (w.exitPrice pos.side markPrice fill)
    (w.calculateFee (w.exitPrice pos.side markPrice fill * (pos.remainingQuantity * pct)) true) pct
    reason tpLabel with hp
  obtain ⟨data, hdata, hfollows⟩ := (h symbol).entry hpos
  have hdata' : (w.emit (.positionPartiallyClosed p)).runtime.openPositions.get? symbol =
      some (data.reduce p) := by
    rw [Wallet.runtime_emit, PortfolioState.openPositions_apply]
    show (w.runtime.openPositions.modify symbol (fun pos => pos.reduce p)).get? symbol = _
    rw [Dict.get?_modify_self, hdata]
    rfl
  have hpos₁ := (h symbol).openAt.getOpenPosition_emit _ hpos hdata'
  have hnoted : Wallet.KeepsWorth none (w.emit (.positionPartiallyClosed p)) _ :=
    ((Wallet.KeepsWorth.refl (fun s => (h s).emit (.positionPartiallyClosed p))).editPosition symbol
      (f := fun q =>
        { q with
          feesPaid := q.feesPaid + w.calculateFee
            (w.exitPrice pos.side markPrice fill * (pos.remainingQuantity * pct)) true
          partialRealizedPnl := q.partialRealizedPnl + (p.pnl - w.calculateFee
            (w.exitPrice pos.side markPrice fill * (pos.remainingQuantity * pct)) true)
          tdsPaid := if 0 < w.calculateTds (pos.side = .long)
              (w.exitPrice pos.side markPrice fill * (pos.remainingQuantity * pct))
            then q.tdsPaid + w.calculateTds (pos.side = .long)
              (w.exitPrice pos.side markPrice fill * (pos.remainingQuantity * pct))
            else q.tdsPaid })
      (fun _ _ ho => ho)
      (fun _ _ hf => ⟨hf.quantity, hf.entryPrice, hf.slPrice, hf.protectiveOrders⟩)
      (fun _ => ⟨rfl, rfl, rfl, rfl⟩)).chargeTds (w.calculateTds (pos.side = .long)
        (w.exitPrice pos.side markPrice fill * (pos.remainingQuantity * pct))) "PARTIAL_TDS" symbol
  obtain ⟨pos', hpos', hsame⟩ := (hnoted.positions symbol (by simp)).exists hpos₁
  refine ⟨pos', hpos', hsame.side, hsame.entryPrice.trans hfollows.entryPrice.symm, ?_,
    hsame.unrealizedPnl⟩
  rw [hsame.remainingQuantity]
  show max 0 (data.quantity - pos.remainingQuantity * pct) = _
  rw [← hfollows.quantity]

/-- Putting in an open position, refreshing the cache and announcing the
position: the cache is the sum of what the positions then carry. -/
theorem Wallet.announce_worth {pos : EnhancedPosition} (hpos : pos.OpenOn symbol)
    {payload : Payload} {p : OpenPayload} {adopted : Bool}
    (hpayload : payload = .positionOpened p ∧ adopted = false ∨
      payload = .positionAdopted p ∧ adopted = true)
    (hsymbol : p.symbol = symbol) (hquantity : p.quantity = pos.remainingQuantity)
    (hentry : p.executionPrice = pos.entryPrice) :
    let w' := (w.setPosition symbol pos).syncUnrealizedTotal.emit payload
    w'.Aligned ∧ w.SameSettings w' ∧ (∀ s, s ≠ symbol → SameWorth (w.getOpenPosition s) (w'.getOpenPosition s)) ∧
      (∃ pos', w'.getOpenPosition symbol = some pos' ∧ pos.SameValue pos') ∧
      w'.unrealizedPnlTotal = w'.carriedPnl := by
  intro w'
  have htarget : payload.target? = some symbol ∧ payload.revalues? = some symbol := by
    rcases hpayload with ⟨rfl, -⟩ | ⟨rfl, -⟩
    · exact ⟨congrArg some hsymbol, congrArg some hsymbol⟩
    · exact ⟨congrArg some hsymbol, congrArg some hsymbol⟩
  have hdata : w'.runtime.openPositions.get? symbol = some (p.toPositionData adopted) := by
    rw [Wallet.runtime_emit, PortfolioState.openPositions_apply]
    rcases hpayload with ⟨rfl, rfl⟩ | ⟨rfl, rfl⟩
    · show (Dict.set _ p.symbol _).get? symbol = _
      rw [hsymbol, Dict.get?_set_self]
    · show (Dict.set _ p.symbol _).get? symbol = _
      rw [hsymbol, Dict.get?_set_self]
  set v := (w.setPosition symbol pos).syncUnrealizedTotal with hv
  have hopen : v.OpenAt symbol := Wallet.OpenAt.setPosition hpos
  have hput : v.getOpenPosition symbol = some pos := by
    rw [hopen.getOpenPosition_eq]
    exact Dict.get?_set_self _ _ _
  have helse (s : Symbol) (hs : s ≠ symbol) : v.getOpenPosition s = w.getOpenPosition s := by
    unfold getOpenPosition
    rw [show v.positions.get? s = w.positions.get? s from Dict.get?_set_ne _ _ (Ne.symm hs)]
  have hworth (s : Symbol) (hs : s ≠ symbol) :
      SameWorth (w.getOpenPosition s) (w'.getOpenPosition s) := by
    refine (h s).sameWorth_emit (w := v) ?_ rfl ?_ ?_
    · exact ((h s).setPosition (Ne.symm hs) pos).openAt
    · rw [helse s hs]
      exact .refl _
    · rw [htarget.2]
      exact fun heq => hs (Option.some.inj heq).symm
  have hpos' := hopen.getOpenPosition_emit payload hput hdata
  have hsame : pos.SameValue (pos.sync (p.toPositionData adopted)) :=
    ⟨rfl, hentry, hquantity, rfl⟩
  refine ⟨((Wallet.OnlyAt.refl h).announce hpos htarget.1).aligned, ⟨rfl, rfl, rfl, rfl⟩, hworth,
    ⟨_, hpos', hsame⟩, ?_⟩
  -- the cache was summed just before the event, which changes no summand
  show (w.setPosition symbol pos).carriedPnl = w'.carriedPnl
  have hcarried : v.unrealizedOn symbol = w'.unrealizedOn symbol := by
    rw [Wallet.unrealizedOn_of_open hput, Wallet.unrealizedOn_of_open hpos']
    rfl
  have hsub : v.carriedPnl - v.unrealizedOn symbol = w'.carriedPnl - w'.unrealizedOn symbol :=
    Wallet.carriedPnl_sub symbol (fun s hs => by
      rw [Wallet.unrealizedOn, helse s hs]
      exact (hworth s hs).unrealizedOn)
  rw [hcarried] at hsub
  have hv' : v.carriedPnl = (w.setPosition symbol pos).carriedPnl := rfl
  linarith

end OnSymbol

/-! ## Opening and adopting -/

/-- The mark a position is left with when it is marked at `markPrice`. -/
def markAfter (markPrice : Decimal) (mark : Option Decimal) : Option Decimal :=
  if 0 < markPrice then some markPrice else mark

/-- `update_pnl` brings a position that was current up to its new mark. -/
theorem EnhancedPosition.updatePnl_pnlAt {pos : EnhancedPosition} (hopen : pos.status = .opened)
    {mark : Option Decimal} (h : pos.unrealizedPnl = pos.pnlAt mark) (markPrice : Decimal) :
    (pos.updatePnl markPrice).unrealizedPnl =
      (pos.updatePnl markPrice).pnlAt (markAfter markPrice mark) := by
  by_cases hmark : 0 < markPrice
  · obtain ⟨-, hside, hentry, hquantity, -⟩ := pos.updatePnl_frame markPrice
    rw [pos.updatePnl_unrealizedPnl markPrice hopen hmark, markAfter, if_pos hmark, pnlAt, hside,
      hentry, hquantity]
    rfl
  · rw [pos.updatePnl_of_nonpos markPrice (not_lt.mp hmark), markAfter, if_neg hmark]
    exact h

/-- `w'` is `w` with a new position on `symbol`, which carries its PnL at `mark`,
and a fresh cache. -/
structure Wallet.Announced (symbol : Symbol) (mark : Option Decimal) (w w' : Wallet) : Prop where
  aligned : w'.Aligned
  settings : w.SameSettings w'
  elsewhere : ∀ s, s ≠ symbol → SameWorth (w.getOpenPosition s) (w'.getOpenPosition s)
  position : ∃ pos, w'.getOpenPosition symbol = some pos ∧ pos.unrealizedPnl = pos.pnlAt mark
  total : w'.unrealizedPnlTotal = w'.carriedPnl

/-- The position `open_position` puts in, with or without TDS. -/
theorem Wallet.newPosition_carries (w : Wallet) (symbol : Symbol) (setup : Setup) (size : Sizing)
    (price fee markPrice : Decimal) :
    let pos := w.newPosition symbol setup size price fee markPrice
    pos.unrealizedPnl = pos.pnlAt (markAfter markPrice none) ∧
      pos.remainingQuantity = size.quantity := by
  unfold newPosition
  exact ⟨EnhancedPosition.updatePnl_pnlAt rfl rfl markPrice,
    (EnhancedPosition.updatePnl_frame _ markPrice).2.2.2.1⟩

section Opening

variable {w : Wallet} (h : w.Aligned)
include h

theorem Wallet.bookPosition_announced (symbol : Symbol) (setup : Setup) (size : Sizing)
    (price fee markPrice : Decimal) :
    let r := w.bookPosition symbol setup size price fee markPrice
    Wallet.Announced symbol (markAfter markPrice none) w r.2 := by
  intro r
  obtain ⟨hstatus, hsymbol, -, hentry, -⟩ :=
    w.newPosition_frame symbol setup size price fee markPrice
  obtain ⟨hcarries, hquantity⟩ := w.newPosition_carries symbol setup size price fee markPrice
  have hcharged (tds : Decimal) : Wallet.KeepsWorth none w
      ((w.tick.emit (.feeCharged fee "OPEN_FEE" symbol)).chargeTds tds "OPEN_TDS" symbol) :=
    ((Wallet.KeepsWorth.refl h).tick.emit (Or.inl rfl)).chargeTds tds "OPEN_TDS" symbol
  -- the position that is put in, with the TDS of a short
  obtain ⟨pos, v, hv, hopen, hval, hqty, hprice, hsym, hr⟩ : ∃ pos v, Wallet.KeepsWorth none w v ∧
      pos.OpenOn symbol ∧ pos.unrealizedPnl = pos.pnlAt (markAfter markPrice none) ∧
      pos.remainingQuantity = size.quantity ∧ pos.entryPrice = price ∧ pos.symbol = symbol ∧
      r.2 = (v.setPosition symbol pos).syncUnrealizedTotal.emit
        (.positionOpened (pos.openPayload setup size fee)) := by
    refine ⟨_, _, hcharged _, ?_, ?_, ?_, ?_, ?_, rfl⟩
    · split
      · exact ⟨hsymbol, hstatus⟩
      · exact ⟨hsymbol, hstatus⟩
    · split
      · exact hcarries
      · exact hcarries
    all_goals split <;> assumption
  obtain ⟨haligned, hsettings, helse, ⟨pos', hpos', hsame⟩, htotal⟩ :=
    Wallet.announce_worth hv.aligned hopen (p := pos.openPayload setup size fee)
      (Or.inl ⟨rfl, rfl⟩) hsym hqty.symm rfl
  rw [hr]
  refine ⟨haligned, hv.settings.trans hsettings,
    fun s hs => (hv.positions s (by simp)).trans (helse s hs), ⟨pos', hpos', ?_⟩, htotal⟩
  rw [hsame.unrealizedPnl, hsame.pnlAt]
  exact hval

/-- `open_position` up to the protective orders books a new position, or none. -/
theorem Wallet.bookOpen_announced (symbol : Symbol) (setup : Setup) (markPrice : Decimal)
    (customMargin customQuantity : Option Decimal) (fill : Option ExternalFill)
    (liveQty : Option Decimal) :
    let r := w.bookOpen symbol setup markPrice customMargin customQuantity fill liveQty
    (∀ pos, r.1 = .ok (some pos) → Wallet.Announced symbol (markAfter markPrice none) w r.2 ∧
      r.2.getOpenPosition symbol = some pos ∧
      ∃ size price, w.sizeOpen symbol setup customMargin customQuantity liveQty = .ok (some size) ∧
        pos.BooksOpen w symbol setup size price) ∧
      ((∀ pos, r.1 ≠ .ok (some pos)) → Wallet.KeepsWorth none w r.2) := by
  unfold Wallet.bookOpen
  cases w.sizeOpen symbol setup customMargin customQuantity liveQty with
  | error e =>
      intro r
      exact ⟨fun pos hr => (by cases hr), fun _ => Wallet.KeepsWorth.refl h⟩
  | ok size? =>
      cases size? with
      | none =>
          intro r
          exact ⟨fun pos hr => (by cases hr), fun _ => Wallet.KeepsWorth.refl h⟩
      | some size =>
          have hself : Wallet.KeepsWorth none w w := Wallet.KeepsWorth.refl h
          have horder := hself.createOrderWithType
            { symbol := symbol, side := setup.side, quantity := size.quantity, orderType := .market }
          have hentry := horder.executeEntry
            (w.createOrder symbol setup.side size.quantity).1 symbol setup size.quantity markPrice fill
          change Wallet.KeepsWorth none w ((w.createOrder symbol setup.side
            size.quantity).2.executeEntry _ symbol setup size.quantity markPrice fill).2 at hentry
          simp only
          revert hentry
          generalize (w.createOrder symbol setup.side size.quantity).2.executeEntry
            (w.createOrder symbol setup.side size.quantity).1 symbol setup size.quantity markPrice
            fill = entry
          obtain ⟨filled?, v⟩ := entry
          intro hentry
          cases filled? with
          | none => exact ⟨fun pos hr => (by cases hr), fun _ => hentry⟩
          | some filled =>
              refine ⟨fun pos hr => ?_, fun hr => absurd rfl (hr _)⟩
              obtain ⟨price, fee⟩ := filled
              have hnew := Wallet.bookPosition_announced hentry.aligned symbol setup size price fee
                markPrice
              obtain ⟨-, hpos, hbooks, -⟩ := Wallet.bookPosition_spec hentry.aligned symbol setup
                markPrice size price fee
              cases hr
              refine ⟨⟨hnew.aligned, hentry.settings.trans hnew.settings, fun s hs => ?_,
                hnew.position, hnew.total⟩, hpos, size, price, rfl, ?_⟩
              · exact (hentry.positions s (by simp)).trans (hnew.elsewhere s hs)
              · have hlev := hentry.settings.getLeverage symbol
                exact ⟨hbooks.symbol, hbooks.side, hbooks.entryPrice, hbooks.remainingQuantity,
                  hbooks.slPrice, hbooks.leverage.trans hlev, by rw [← hlev]; exact hbooks.marginUsed,
                  hbooks.protectiveOrders⟩

omit h in
/-- The position `adopt_venue_position` puts in. -/
theorem Wallet.adoptedPosition_carries (w : Wallet) (r : AdoptRequest) :
    let pos := w.adoptedPosition r
    pos.OpenOn r.symbol ∧ pos.entryPrice = r.entryPrice ∧ pos.remainingQuantity = r.quantity ∧
      pos.unrealizedPnl = pos.pnlAt (r.markPrice.bind (fun mark => markAfter mark none)) := by
  unfold adoptedPosition
  cases r.markPrice with
  | none => exact ⟨⟨rfl, rfl⟩, rfl, rfl, rfl⟩
  | some mark =>
      have hguard (pos : EnhancedPosition) :
          (if 0 < mark then pos.updatePnl mark else pos) = pos.updatePnl mark := by
        by_cases hmark : 0 < mark
        · rw [if_pos hmark]
        · rw [if_neg hmark, pos.updatePnl_of_nonpos mark (not_lt.mp hmark)]
      simp only [hguard, Option.bind_some]
      have hframe (pos : EnhancedPosition) := pos.updatePnl_frame mark
      refine ⟨⟨(hframe _).1, (hframe _).2.2.2.2.1⟩, (hframe _).2.2.1, (hframe _).2.2.2.1,
        EnhancedPosition.updatePnl_pnlAt rfl rfl mark⟩

/-- `adopt_venue_position` up to the protective orders puts in a new position,
or nothing. -/
theorem Wallet.bookAdoption_announced (r : AdoptRequest) :
    let res := w.bookAdoption r
    (∀ pos, res.1 = some pos →
      Wallet.Announced r.symbol (r.markPrice.bind (fun m => markAfter m none)) w res.2) ∧
      (res.1 = none → res.2 = w) := by
  unfold Wallet.bookAdoption
  by_cases hopen : (w.getOpenPosition r.symbol).isSome
  · rw [if_pos hopen]
    exact ⟨fun pos hr => (by cases hr), fun _ => rfl⟩
  · rw [if_neg hopen]
    by_cases hbad : r.quantity ≤ 0 ∨ r.entryPrice ≤ 0
    · rw [if_pos hbad]
      exact ⟨fun pos hr => (by cases hr), fun _ => rfl⟩
    · rw [if_neg hbad]
      simp only
      obtain ⟨hput, hentry, hquantity, hcarries⟩ := w.adoptedPosition_carries r
      have hself : Wallet.KeepsWorth none w w := Wallet.KeepsWorth.refl h
      obtain ⟨haligned, hsettings, helse, ⟨pos', hpos', hsame⟩, htotal⟩ :=
        Wallet.announce_worth hself.tick.aligned hput
          (p := (w.adoptedPosition r).adoptPayload r) (Or.inr ⟨rfl, rfl⟩) rfl hquantity.symm
          hentry.symm
      refine ⟨fun pos hr => ?_, fun hr => (by cases hr)⟩
      refine ⟨haligned, ⟨rfl, rfl, rfl, rfl⟩, helse, ⟨pos', hpos', ?_⟩, htotal⟩
      rw [hsame.unrealizedPnl, hsame.pnlAt]
      exact hcarries

end Opening

/-! ## Keeping the values -/

/-- The position on `symbol` aside, all positions carry their PnL; the cache
counts it with `cached`. -/
structure Wallet.ValuedBut (marks : Marks) (symbol : Symbol) (cached : Decimal) (w : Wallet) :
    Prop where
  aligned : w.Aligned
  current : ∀ s, s ≠ symbol → w.CurrentAt marks s
  total : w.unrealizedPnlTotal = w.carriedPnl - w.unrealizedOn symbol + cached

section Valued

variable {marks : Marks} {symbol : Symbol} {cached : Decimal} {w w' : Wallet}

theorem SameWorth.currentAt {s : Symbol}
    (h : SameWorth (w.getOpenPosition s) (w'.getOpenPosition s)) (hw : w.CurrentAt marks s) :
    w'.CurrentAt marks s := by
  intro pos' hpos'
  obtain ⟨pos, hpos, hsame⟩ := h.of_some hpos'
  rw [hsame.unrealizedPnl, hsame.pnlAt]
  exact hw pos hpos

theorem Wallet.Valued.but (h : w.Valued marks) (symbol : Symbol) :
    w.ValuedBut marks symbol (w.unrealizedOn symbol) :=
  ⟨h.aligned, fun s _ => h.current s, by rw [h.total, sub_add_cancel]⟩

theorem Wallet.ValuedBut.valued (h : w.ValuedBut marks symbol cached)
    (hcurrent : w.CurrentAt marks symbol) (hcached : cached = w.unrealizedOn symbol) :
    w.Valued marks := by
  refine ⟨h.aligned, fun s => ?_, ?_⟩
  · by_cases hs : s = symbol
    · rw [hs]
      exact hcurrent
    · exact h.current s hs
  · rw [h.total, hcached, sub_add_cancel]

/-- Nothing is left on the symbol. -/
theorem Wallet.ValuedBut.valued_of_flat (h : w.ValuedBut marks symbol 0)
    (hflat : w.getOpenPosition symbol = none) : w.Valued marks := by
  refine h.valued ?_ (Wallet.unrealizedOn_of_flat hflat).symm
  intro pos hpos
  rw [hflat] at hpos
  cases hpos

/-- What touches no other symbol, and not the cache. -/
theorem Wallet.ValuedBut.keepsWorth (h : w.ValuedBut marks symbol cached)
    (hkeeps : Wallet.KeepsWorth (some symbol) w w') : w'.ValuedBut marks symbol cached := by
  have helse (s : Symbol) (hs : s ≠ symbol) :=
    hkeeps.positions s (fun heq => hs (Option.some.inj heq).symm)
  have hsub : w.carriedPnl - w.unrealizedOn symbol = w'.carriedPnl - w'.unrealizedOn symbol :=
    Wallet.carriedPnl_sub symbol (fun s hs => (helse s hs).unrealizedOn)
  refine ⟨hkeeps.aligned, fun s hs => (helse s hs).currentAt (h.current s hs), ?_⟩
  rw [hkeeps.total, h.total, hsub]

/-- The mark of the symbol itself does not matter. -/
theorem Wallet.ValuedBut.remark (h : w.ValuedBut marks symbol cached) (mark : Option Decimal) :
    w.ValuedBut (Function.update marks symbol mark) symbol cached := by
  refine ⟨h.aligned, fun s hs pos hpos => ?_, h.total⟩
  rw [Function.update_of_ne hs]
  exact h.current s hs pos hpos

/-- Summing the cache up again. -/
theorem Wallet.ValuedBut.sync (h : w.ValuedBut marks symbol cached)
    (hcurrent : w.CurrentAt marks symbol) : w.syncUnrealizedTotal.Valued marks := by
  refine ⟨h.aligned, fun s => ?_, rfl⟩
  by_cases hs : s = symbol
  · rw [hs]
    exact hcurrent
  · exact h.current s hs

theorem Wallet.Valued.keepsWorth (symbol : Symbol) (h : w.Valued marks) (hkeeps : Wallet.KeepsWorth none w w') :
    w'.Valued marks := by
  have hsame (s : Symbol) := hkeeps.positions s (by simp)
  have hbut := (h.but symbol).keepsWorth (hkeeps.weaken _)
  exact hbut.valued ((hsame symbol).currentAt (h.current symbol)) (hsame symbol).unrealizedOn

/-- A position that is put in with the PnL at its mark. -/
theorem Wallet.Valued.announced (h : w.Valued marks) {mark : Option Decimal}
    (hnew : Wallet.Announced symbol mark w w') :
    w'.Valued (Function.update marks symbol mark) := by
  refine ⟨hnew.aligned, fun s => ?_, hnew.total⟩
  intro pos hpos
  by_cases hs : s = symbol
  · subst hs
    obtain ⟨pos', hpos', hcarries⟩ := hnew.position
    rw [hpos] at hpos'
    cases hpos'
    rw [Function.update_self]
    exact hcarries
  · rw [Function.update_of_ne hs]
    exact (hnew.elsewhere s hs).currentAt (h.current s) pos hpos

/-- Marks of a flat symbol do not matter. -/
theorem Wallet.Valued.remark (h : w.Valued marks) (hflat : w.getOpenPosition symbol = none)
    (mark : Option Decimal) : w.Valued (Function.update marks symbol mark) := by
  have hbut := (h.but symbol).remark mark
  rw [Wallet.unrealizedOn_of_flat hflat] at hbut
  exact hbut.valued_of_flat hflat

/-- A wallet with nothing open and nothing cached. -/
theorem Wallet.Valued.fresh (haligned : w.Aligned)
    (hflat : ∀ s, w.getOpenPosition s = none) (htotal : w.unrealizedPnlTotal = 0)
    (hnone : w.positions.entries = []) (marks : Marks) : w.Valued marks := by
  refine ⟨haligned, fun s pos hpos => ?_, ?_⟩
  · rw [hflat s] at hpos
    cases hpos
  · rw [htotal]
    unfold Wallet.carriedPnl Dict.values
    rw [hnone]
    rfl

/-- A slice of a position that is worth nothing is worth nothing. -/
theorem EnhancedPosition.pnlAt_slice (pos : EnhancedPosition) {mark : Option Decimal}
    (h : pos.pnlAt mark = 0) (pct : Decimal) :
    ({ pos with
      remainingQuantity := max 0 (pos.remainingQuantity - pos.remainingQuantity * pct) } :
        EnhancedPosition).pnlAt mark = 0 := by
  cases mark with
  | none => rfl
  | some m =>
      show pos.side.gain pos.entryPrice m * max 0 (pos.remainingQuantity - pos.remainingQuantity * pct)
        = 0
      rcases mul_eq_zero.mp (show pos.side.gain pos.entryPrice m * pos.remainingQuantity = 0 from h)
        with hgain | hrest
      · rw [hgain, zero_mul]
      · rw [hrest, zero_mul, sub_zero, max_self, mul_zero]

/-- A slice of a position that carries nothing leaves one that carries
nothing. -/
theorem Wallet.bookPartial_idle (h : w.Aligned) (hcurrent : w.CurrentAt marks symbol)
    (hzero : w.unrealizedOn symbol = 0) (markPrice pct : Decimal) (reason : String)
    (tpLabel : Option String) (fill : Option ExternalFill) :
    (w.bookPartial symbol markPrice pct reason tpLabel fill).2.CurrentAt marks symbol ∧
      (w.bookPartial symbol markPrice pct reason tpLabel fill).2.unrealizedOn symbol = 0 := by
  cases hpos : w.getOpenPosition symbol with
  | none =>
      have hsame : (w.bookPartial symbol markPrice pct reason tpLabel fill).2 = w := by
        unfold bookPartial
        rw [hpos]
      rw [hsame]
      exact ⟨hcurrent, hzero⟩
  | some pos =>
      by_cases hqty : 0 < pos.remainingQuantity * pct
      · obtain ⟨pos', hpos', hsame⟩ :=
          Wallet.bookPartial_worth h hpos markPrice pct reason tpLabel fill hqty
        rw [Wallet.unrealizedOn_of_open hpos] at hzero
        have hmarked := hcurrent pos hpos
        rw [hzero] at hmarked
        refine ⟨?_, by rw [Wallet.unrealizedOn_of_open hpos', hsame.unrealizedPnl]; exact hzero⟩
        rintro _ hpos''
        rw [hpos'] at hpos''
        cases hpos''
        rw [hsame.unrealizedPnl, hsame.pnlAt]
        exact hzero.trans (pos.pnlAt_slice hmarked.symm pct).symm
      · have hsame : (w.bookPartial symbol markPrice pct reason tpLabel fill).2 = w := by
          unfold bookPartial
          rw [hpos]
          simp only
          rw [if_pos (not_lt.mp hqty)]
        rw [hsame]
        exact ⟨hcurrent, hzero⟩

end Valued

end CryptoTrader
