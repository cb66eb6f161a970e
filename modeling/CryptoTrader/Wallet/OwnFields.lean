import CryptoTrader.Wallet.Bookings

/-!
# What a position keeps of its own

An event makes an open position follow its reducer entry and leaves the other
fields of the object alone: its PnL, its watermarks, its charges.  Such a field
of an open position changes only where an operation sets it.
-/

namespace CryptoTrader

open CryptoTrader.Lib

universe u

/-- A value of a position that following its entry does not change. -/
def OwnField {β : Type u} (field : EnhancedPosition → β) : Prop :=
  ∀ pos data, field (pos.sync data) = field pos

/-- The symbol whose entry an event puts in or takes out. -/
def Payload.holds? : Payload → Option Symbol
  | .positionOpened p | .positionAdopted p => some p.symbol
  | .positionClosed p | .liquidation p => some p.symbol
  | _ => none

theorem PortfolioState.isSome_apply (s : PortfolioState) (event : Event) {symbol : Symbol}
    (h : event.payload.holds? ≠ some symbol) :
    ((s.apply event).openPositions.get? symbol).isSome = (s.openPositions.get? symbol).isSome := by
  by_cases htarget : event.payload.target? = some symbol
  · rw [PortfolioState.openPositions_apply]
    cases hp : event.payload with
    | positionPartiallyClosed _ | slAdjusted _ _ | trailingStopActivated _
    | protectiveOrdersPlaced _ _ | protectiveOrdersCancelled _ =>
        simp only [applyPayload, credit, Dict.get?_modify]
        split_ifs with heq
        · rw [heq, Option.isSome_map]
        · rfl
    | positionOpened p | positionAdopted p | positionClosed p | liquidation p =>
        rw [hp] at h htarget
        exact absurd htarget h
    | _ =>
        rw [hp] at htarget
        cases htarget
  · rw [PortfolioState.get?_apply _ _ htarget]

/-- Where the entry of a symbol stays, so does the field. -/
theorem Wallet.AlignedAt.field_emit {β : Type u} {field : EnhancedPosition → β}
    (hfield : OwnField field) {w : Wallet} {s : Symbol} (h : w.AlignedAt s) {payload : Payload}
    (hp : payload.holds? ≠ some s) :
    ((w.emit payload).getOpenPosition s).map field = (w.getOpenPosition s).map field := by
  have hentry : ((w.emit payload).runtime.openPositions.get? s).isSome =
      (w.runtime.openPositions.get? s).isSome :=
    PortfolioState.isSome_apply w.runtime (w.event payload) hp
  cases hpos : w.getOpenPosition s with
  | none =>
      have hnone : w.runtime.openPositions.get? s = none := by
        unfold AlignedAt at h
        rw [← Wallet.OpenAt.getOpenPosition_eq (w := w), hpos] at h
        · cases hdata : w.runtime.openPositions.get? s with
          | none => rfl
          | some data => rw [hdata] at h; exact h.elim
        · exact AlignedAt.openAt h
      rw [hnone, Option.isSome_none, Option.isSome_eq_false_iff, Option.isNone_iff_eq_none] at hentry
      rw [Wallet.getOpenPosition_emit_none payload hentry]
  | some pos =>
      obtain ⟨data, hdata, -⟩ := h.entry hpos
      rw [hdata, Option.isSome_some] at hentry
      obtain ⟨data', hdata'⟩ := Option.isSome_iff_exists.mp hentry
      rw [h.openAt.getOpenPosition_emit payload hpos hdata', Option.map_some, Option.map_some,
        hfield]

/-- The position an opening or an adoption leaves: the one put in, synced with
its entry. -/
theorem Wallet.getOpenPosition_announce {w : Wallet} {symbol : Symbol} {pos : EnhancedPosition}
    (hopen : pos.OpenOn symbol) {payload : Payload} {data : PositionData}
    (hdata : (w.runtime.applyPayload payload).openPositions.get? symbol = some data) :
    ((w.setPosition symbol pos).syncUnrealizedTotal.emit payload).getOpenPosition symbol =
      some (pos.sync data) := by
  set v := (w.setPosition symbol pos).syncUnrealizedTotal
  have hopened : v.OpenAt symbol := Wallet.OpenAt.setPosition (w := w) hopen
  have hput : v.getOpenPosition symbol = some pos := by
    rw [hopened.getOpenPosition_eq]
    exact Dict.get?_set_self _ _ _
  refine hopened.getOpenPosition_emit payload hput ?_
  rw [Wallet.runtime_emit, PortfolioState.openPositions_apply]
  exact hdata

/-- `w'` is aligned, has the history of `w`, and its open positions have the
field they had, those of `touched` apart. -/
structure Wallet.KeepsField {β : Type u} (field : EnhancedPosition → β) (touched : Option Symbol)
    (w w' : Wallet) : Prop where
  aligned : w'.Aligned
  history : w'.positionHistory = w.positionHistory
  elsewhere : ∀ s, touched ≠ some s →
    (w'.getOpenPosition s).map field = (w.getOpenPosition s).map field

namespace Wallet.KeepsField

variable {β : Type u} {field : EnhancedPosition → β} {touched : Option Symbol} {u v w : Wallet}

theorem refl (h : w.Aligned) : KeepsField field touched w w := ⟨h, rfl, fun _ _ => rfl⟩

theorem trans (h : KeepsField field touched u v) (h' : KeepsField field touched v w) :
    KeepsField field touched u w :=
  ⟨h'.aligned, h'.history.trans h.history,
    fun s hs => (h'.elsewhere s hs).trans (h.elsewhere s hs)⟩

theorem weaken (h : KeepsField field none u v) (touched : Option Symbol) :
    KeepsField field touched u v :=
  ⟨h.aligned, h.history, fun s _ => h.elsewhere s (by simp)⟩

theorem tick (h : KeepsField field touched u v) : KeepsField field touched u v.tick :=
  h.trans ⟨h.aligned, rfl, fun _ _ => rfl⟩

theorem save (h : KeepsField field touched u v) : KeepsField field touched u v.save :=
  h.trans ⟨fun s => (h.aligned s).save, rfl, fun _ _ => rfl⟩

theorem setHalted (h : KeepsField field touched u v) (b : Bool) :
    KeepsField field touched u { v with halted := b } :=
  h.trans ⟨h.aligned, rfl, fun _ _ => rfl⟩

theorem syncUnrealizedTotal (h : KeepsField field touched u v) :
    KeepsField field touched u v.syncUnrealizedTotal :=
  h.trans ⟨h.aligned, rfl, fun _ _ => rfl⟩

/-- An edit the reducer does not notice, of the touched position or of other
fields. -/
theorem editPosition (h : KeepsField field touched u v) (symbol : Symbol)
    {f : EnhancedPosition → EnhancedPosition} (hopen : ∀ s pos, pos.OpenOn s → (f pos).OpenOn s)
    (hf : ∀ pos data, pos.Follows data → (f pos).Follows data)
    (hfield : touched = some symbol ∨ ∀ pos : EnhancedPosition, field (f pos) = field pos) :
    KeepsField field touched u (v.editPosition symbol f) := by
  refine h.trans ⟨fun s => (h.aligned s).editPosition symbol (hopen s) hf, rfl, fun s hs => ?_⟩
  rw [(h.aligned s).openAt.getOpenPosition_eq,
    ((h.aligned s).openAt.editPosition symbol (hopen s)).getOpenPosition_eq, Wallet.editPosition,
    Dict.get?_modify]
  by_cases heq : symbol = s
  · subst heq
    rw [if_pos rfl, Option.map_map]
    rcases hfield with htouched | hfield
    · exact absurd htouched hs
    · exact congrArg (fun g => (v.positions.get? symbol).map g) (funext hfield)
  · rw [if_neg heq]

section Emit

variable (hfield : OwnField field)
include hfield

theorem emit (h : KeepsField field touched u v) {payload : Payload}
    (hp : payload.holds? = none ∨ payload.holds? = touched) :
    KeepsField field touched u (v.emit payload) := by
  refine h.trans ⟨fun s => (h.aligned s).emit payload, rfl, fun s hs => ?_⟩
  refine (h.aligned s).field_emit hfield ?_
  rcases hp with heq | heq
  · simp [heq]
  · rwa [heq]

theorem chargeTds (h : KeepsField field touched u v) (amount : Decimal) (reason : String)
    (symbol : Symbol) : KeepsField field touched u (v.chargeTds amount reason symbol) := by
  unfold Wallet.chargeTds
  split
  · exact h.emit hfield (Or.inl rfl)
  · exact h

/-- Putting in a position and announcing it. -/
theorem announce {symbol : Symbol} (h : KeepsField field (some symbol) u v) {pos : EnhancedPosition}
    (hpos : pos.OpenOn symbol) {payload : Payload} (htarget : payload.target? = some symbol)
    (hp : payload.holds? = none ∨ payload.holds? = some symbol) :
    KeepsField field (some symbol) u ((v.setPosition symbol pos).syncUnrealizedTotal.emit payload) := by
  have honly := (Wallet.OnlyAt.refl h.aligned).announce hpos htarget
  refine h.trans ⟨honly.aligned, rfl, fun s hs => ?_⟩
  have hne : symbol ≠ s := fun heq => hs (congrArg some heq)
  have haligned : (v.setPosition symbol pos).syncUnrealizedTotal.AlignedAt s :=
    (h.aligned s).setPosition hne pos
  rw [haligned.field_emit hfield (by rcases hp with heq | heq <;> simp [heq, hne])]
  have hget : (v.setPosition symbol pos).syncUnrealizedTotal.getOpenPosition s =
      v.getOpenPosition s := by
    unfold Wallet.getOpenPosition
    show ((v.positions.set symbol pos).get? s).filter _ = _
    rw [Dict.get?_set_ne _ _ hne]
  rw [hget]

/-! ### Orders -/

theorem createOrderWithType (h : KeepsField field touched u v) (r : OrderRequest) :
    KeepsField field touched u (v.createOrderWithType r).2 :=
  h.tick.emit hfield (Or.inl rfl)

theorem recordFill (h : KeepsField field touched u v) (order : Order)
    (quantity fillPrice fee : Decimal) (sequence : Nat) :
    KeepsField field touched u (v.recordFill order quantity fillPrice fee sequence) :=
  h.emit hfield (Or.inl rfl)

theorem executeChunks (order : Order) (chunkQty fillPrice feeRate : Decimal) (left : Nat) :
    ∀ {v : Wallet} (idx : Nat) (remaining totalFee : Decimal), KeepsField field touched u v →
      KeepsField field touched u
        (Wallet.executeChunks order chunkQty fillPrice feeRate left idx remaining totalFee v).2 := by
  induction left with
  | zero => intro v idx remaining totalFee h; exact h
  | succ left ih =>
      intro v idx remaining totalFee h
      exact ih (idx + 1) _ _ (h.recordFill hfield order _ fillPrice _ idx)

theorem executeOrderInChunks (h : KeepsField field touched u v) (order : Order)
    (totalQuantity fillPrice feeRate : Decimal) (chunkCount : Int) :
    KeepsField field touched u
      (v.executeOrderInChunks order totalQuantity fillPrice feeRate chunkCount).2 :=
  executeChunks hfield order _ fillPrice feeRate _ 1 totalQuantity 0 h

theorem placePendingOrder (h : KeepsField field touched u v) (r : OrderRequest) :
    KeepsField field touched u (v.placePendingOrder r).2 := by
  unfold Wallet.placePendingOrder
  split
  · exact h
  · exact h.createOrderWithType hfield r

theorem cancelOrder (h : KeepsField field touched u v) (orderId reason : String) :
    KeepsField field touched u (v.cancelOrder orderId reason).2 := by
  unfold Wallet.cancelOrder
  split
  · exact h
  · split
    · exact h
    · exact h.emit hfield (Or.inl rfl)

theorem runInvariantSweep (h : KeepsField field touched u v) :
    KeepsField field touched u v.runInvariantSweep := by
  unfold Wallet.runInvariantSweep
  generalize invariantRules = rules
  induction rules generalizing v with
  | nil => exact h
  | cons rule rest ih =>
      refine ih ?_
      unfold Wallet.checkRule
      split
      · exact h
      · exact (h.emit hfield (Or.inl rfl)).setHalted _

theorem tryTrigger (h : KeepsField field touched u v) (symbol : Symbol) (price : Decimal)
    (order : Order) : KeepsField field touched u (v.tryTrigger symbol price order) := by
  unfold Wallet.tryTrigger
  dsimp only
  split_ifs
  · exact h
  · exact h.emit hfield (Or.inl rfl)
  · exact h.emit hfield (Or.inl rfl)
  · exact h.executeOrderInChunks hfield order _ _ _ 1
  · exact h

theorem evaluateOrder (h : KeepsField field touched u v) (symbol : Symbol) (price : Decimal)
    (order : Order) : KeepsField field touched u (v.evaluateOrder symbol price order) := by
  unfold Wallet.evaluateOrder
  dsimp only
  split
  · exact h
  · split
    · exact h.tryTrigger hfield symbol price order
    · split
      · exact h.tick.emit hfield (Or.inl rfl)
      · exact h.tick.tryTrigger hfield symbol price order

theorem evaluatePendingOrders (h : KeepsField field touched u v) (symbol : Symbol)
    (markPrice : Decimal) :
    KeepsField field touched u (v.evaluatePendingOrders symbol markPrice) := by
  unfold Wallet.evaluatePendingOrders
  split
  · exact h
  · next hhalted =>
    clear hhalted
    refine runInvariantSweep hfield ?_
    generalize v.orderList = orders
    induction orders generalizing v with
    | nil => exact h
    | cons order rest ih => exact ih (h.evaluateOrder hfield symbol markPrice order)

theorem executeEntry (h : KeepsField field touched u v) (order : Order) (symbol : Symbol)
    (setup : Setup) (qty markPrice : Decimal) (externalFill : Option ExternalFill) :
    KeepsField field touched u
      (v.executeEntry order symbol setup qty markPrice externalFill).2 := by
  unfold Wallet.executeEntry
  split
  · exact h.recordFill hfield order _ _ _ 1
  · split
    · exact h.recordFill hfield order _ _ _ 1
    · dsimp only
      split
      · exact h.emit hfield (Or.inl rfl)
      · exact h.executeOrderInChunks hfield order _ _ _ _

theorem adjustSlPrice (h : KeepsField field touched u v) (symbol : Symbol) (newSlPrice : Decimal) :
    KeepsField field touched u (v.adjustSlPrice symbol newSlPrice) :=
  (h.emit hfield (Or.inl rfl)).save

theorem activateTrailingStop (h : KeepsField field touched u v) (symbol : Symbol) :
    KeepsField field touched u (v.activateTrailingStop symbol) :=
  (h.emit hfield (Or.inl rfl)).save

end Emit

end Wallet.KeepsField

end CryptoTrader
