import CryptoTrader.Wallet.Ledger

/-!
# A save is reported by an event

Every caller of `_save_state` has emitted an event before.  What an operation
leaves in the stores is therefore nothing at all, or it comes with an event.
-/

namespace CryptoTrader

/-- A sequence of durable steps that wrote nothing or recorded an event. -/
structure Wallet.Reported (u v : Wallet) : Prop where
  steps : Wallet.Steps u v
  silent_or_recorded :
    v.journal = u.journal ∨ u.runtime.eventsApplied < v.runtime.eventsApplied

namespace Wallet.Reported

theorem refl (w : Wallet) : Reported w w := ⟨.refl w, .inl rfl⟩

theorem around {u v w : Wallet} (before : Steps u v) (payload : Payload)
    (after : Steps (v.emit payload) w) : Reported u w := by
  refine ⟨(before.emit payload).trans after, .inr ?_⟩
  calc u.runtime.eventsApplied ≤ v.runtime.eventsApplied := before.eventsApplied_le
    _ < (v.emit payload).runtime.eventsApplied := by simp
    _ ≤ w.runtime.eventsApplied := after.eventsApplied_le

theorem emit {u v : Wallet} (h : Steps u v) (payload : Payload) : Reported u (v.emit payload) :=
  around h payload (.refl _)

/-- An event and the save behind it. -/
theorem emitSave {u v : Wallet} (h : Steps u v) (payload : Payload) :
    Reported u (v.emit payload).save :=
  around h payload ((Steps.refl _).save (eventsApplied_emit_pos _ _))

theorem volatile {u v : Wallet} (h : Volatile u v) : Reported u v :=
  ⟨(Steps.refl u).volatile h, .inl h.journal⟩

theorem trans {u v w : Wallet} (h₁ : Reported u v) (h₂ : Reported v w) : Reported u w := by
  refine ⟨h₁.steps.trans h₂.steps, ?_⟩
  have hle₁ := h₁.steps.eventsApplied_le
  have hle₂ := h₂.steps.eventsApplied_le
  rcases h₁.silent_or_recorded with hsilent₁ | hlt
  · rcases h₂.silent_or_recorded with hsilent₂ | hlt
    · exact .inl (hsilent₂.trans hsilent₁)
    · exact .inr (by omega)
  · exact .inr (by omega)

/-- A loop whose body is reported. -/
theorem foldl {α : Type} {body : Wallet → α → Wallet} (hbody : ∀ w a, Reported w (body w a))
    (l : List α) : ∀ w, Reported w (l.foldl body w) := by
  induction l with
  | nil => exact refl
  | cons a rest ih => exact fun w => (hbody w a).trans (ih (body w a))

theorem followed {u v w : Wallet} (h : Reported u v)
    (hrecorded : u.runtime.eventsApplied < v.runtime.eventsApplied) (hsteps : Steps v w) :
    Reported u w :=
  ⟨h.steps.trans hsteps, .inr (hrecorded.trans_le hsteps.eventsApplied_le)⟩

theorem tick (w : Wallet) : Reported w w.tick :=
  volatile ⟨rfl, rfl, Nat.le_succ _, rfl, rfl, rfl, rfl, rfl⟩

end Wallet.Reported

/-! ## The operations -/

section ReportedOperations

variable (w : Wallet) (symbol : Symbol) (markPrice : Decimal)

/-- A fill comes in at least one chunk, and each of them is an event. -/
theorem Wallet.executeOrderInChunks_reported (order : Order)
    (totalQuantity fillPrice feeRate : Decimal) (chunkCount : Int) :
    Reported w (w.executeOrderInChunks order totalQuantity fillPrice feeRate chunkCount).2 := by
  obtain ⟨left, hcount⟩ : ∃ left, (max 1 chunkCount).toNat = left + 1 :=
    ⟨(max 1 chunkCount).toNat - 1, by omega⟩
  unfold executeOrderInChunks
  simp only [hcount]
  exact Reported.around (.refl w) _
    (Steps.executeChunks order _ fillPrice feeRate left 2 _ _ (.refl _))

theorem Wallet.createOrderWithType_reported (r : OrderRequest) :
    Reported w (w.createOrderWithType r).2 :=
  .emit (Steps.refl w).tick _

/-- An opening creates its order before it fills it. -/
theorem Wallet.openPosition_reported (setup : Setup)
    (customMargin customQuantity : Option Decimal) (externalFill : Option ExternalFill) :
    Reported w
      (w.openPosition symbol setup markPrice customMargin customQuantity externalFill).2 := by
  unfold openPosition bookOpen
  cases hsize : w.sizeOpen symbol setup customMargin customQuantity none with
  | error e => exact .refl w
  | ok size? =>
      cases size? with
      | none => exact .refl w
      | some size =>
          have horder : Reported w (w.createOrder symbol setup.side size.quantity).2 :=
            w.createOrderWithType_reported _
          have hrecorded : w.runtime.eventsApplied <
              (w.createOrder symbol setup.side size.quantity).2.runtime.eventsApplied := by
            simp [createOrder, createOrderWithType, tick]
          have hentry := (Steps.refl (w.createOrder symbol setup.side size.quantity).2).executeEntry
            symbol markPrice (w.createOrder symbol setup.side size.quantity).1 setup size.quantity
            externalFill
          simp only
          revert hentry
          generalize (w.createOrder symbol setup.side size.quantity).2.executeEntry
            (w.createOrder symbol setup.side size.quantity).1 symbol setup size.quantity markPrice
            externalFill = entry
          obtain ⟨filled?, v⟩ := entry
          intro hentry
          cases filled? with
          | none => exact horder.followed hrecorded hentry
          | some filled =>
              refine horder.followed hrecorded (Steps.save ?_ (eventsApplied_emit_pos _ _))
              exact hentry.bookPosition symbol markPrice setup size filled.1 filled.2

/-- An adoption is reported by its event. -/
theorem Wallet.adoptVenuePosition_reported (r : AdoptRequest) :
    Reported w (w.adoptVenuePosition r).2 := by
  unfold adoptVenuePosition bookAdoption
  split_ifs
  · exact .refl w
  · exact .refl w
  · exact .emitSave ((Steps.refl w).tick.setPosition r.symbol _).syncUnrealizedTotal _

theorem Wallet.bookClose_reported (reason : String) (externalFill : Option ExternalFill) :
    Reported w (w.bookClose symbol markPrice reason externalFill).2 := by
  unfold bookClose
  split
  · exact .refl w
  · next pos _ =>
      simp only
      generalize Payload.positionClosed _ = payload
      refine .around (.refl w) payload (Steps.save ?_ ?_)
      · exact ((Steps.refl _).chargeTds symbol _ "CLOSE_TDS").tick.appendHistory _
      · exact eventsApplied_chargeTds_pos symbol _ _ (eventsApplied_emit_pos _ _)

/-- `bookPartial` books a slice with an event, or does nothing. -/
theorem Wallet.bookPartial_recorded (pct : Decimal) (reason : String) (tpLabel : Option String)
    (externalFill : Option ExternalFill) :
    let r := w.bookPartial symbol markPrice pct reason tpLabel externalFill
    (r.1 = none → r.2 = w) ∧
      (∀ pnl, r.1 = some pnl → w.runtime.eventsApplied < r.2.runtime.eventsApplied) := by
  unfold bookPartial
  split
  · exact ⟨fun _ => rfl, fun pnl hr => by simp at hr⟩
  · next pos _ =>
      simp only
      split
      · exact ⟨fun _ => rfl, fun pnl hr => by simp at hr⟩
      · refine ⟨fun hr => by simp at hr, fun pnl _ => ?_⟩
        generalize Payload.positionPartiallyClosed _ = payload
        have hemit : w.runtime.eventsApplied < (w.emit payload).runtime.eventsApplied := by simp
        refine hemit.trans_le (Steps.eventsApplied_le ?_)
        exact ((Steps.refl _).editPosition symbol _).chargeTds symbol _ "PARTIAL_TDS"

theorem Wallet.partialClose_reported (pct : Decimal) (reason : String)
    (tpLabel : Option String) (externalFill : Option ExternalFill) :
    Reported w (w.partialClose symbol markPrice pct reason tpLabel externalFill).2 := by
  have hsteps := ((Steps.refl w).bookPartial symbol markPrice pct reason tpLabel externalFill).1
  obtain ⟨hnone, hsome⟩ :=
    w.bookPartial_recorded symbol markPrice pct reason tpLabel externalFill
  unfold partialClose
  split
  · next v heq =>
      rw [heq] at hnone
      rw [hnone rfl]
      exact .refl w
  · next pnl v heq =>
      rw [heq] at hsteps hsome
      have hlt : w.runtime.eventsApplied < v.runtime.eventsApplied := hsome pnl rfl
      have hslice : Reported w v := ⟨hsteps, .inr hlt⟩
      split
      · exact hslice.trans (v.bookClose_reported symbol markPrice "FULL_VIA_PARTIALS" none)
      · exact hslice.followed hlt ((Steps.refl v).save (Nat.zero_lt_of_lt hlt))

theorem Wallet.liquidatePosition_reported : Reported w (w.liquidatePosition symbol markPrice) := by
  unfold liquidatePosition
  split
  · exact .refl w
  · next pos _ =>
      simp only
      generalize Payload.liquidation _ = payload
      refine .around (.refl w) payload (Steps.save ?_ (eventsApplied_emit_pos _ _))
      exact (Steps.refl _).tick.appendHistory _

theorem Wallet.applyFunding_reported (fundingRate : Decimal) :
    Reported w (w.applyFunding symbol fundingRate).2 := by
  unfold applyFunding
  split
  · exact .refl w
  · next pos _ =>
      exact .emitSave ((Steps.refl w).setPosition symbol _)
        (.fundingApplied symbol fundingRate (pos.remainingQuantity * pos.entryPrice)
          (pos.fundingAmount fundingRate))

theorem Wallet.placePendingOrder_reported (r : OrderRequest) :
    Reported w (w.placePendingOrder r).2 := by
  unfold placePendingOrder
  split
  · exact .refl w
  · exact w.createOrderWithType_reported r

theorem Wallet.cancelOrder_reported (orderId reason : String) :
    Reported w (w.cancelOrder orderId reason).2 := by
  unfold cancelOrder
  split
  · exact .refl w
  · split
    · exact .refl w
    · exact .emit (.refl w) _

theorem Wallet.checkRule_reported (rule : InvariantRule) : Reported w (w.checkRule rule) := by
  unfold checkRule
  split
  · exact .refl w
  · exact .around (.refl w) _ ((Steps.refl _).setHalted _)

theorem Wallet.tryTrigger_reported (order : Order) :
    Reported w (w.tryTrigger symbol markPrice order) := by
  unfold tryTrigger
  simp only
  split
  · exact .refl w
  · split
    · exact .emit (.refl w) _
    · split
      · exact .emit (.refl w) _
      · split
        · exact w.executeOrderInChunks_reported order _ _ _ 1
        · exact .refl w

theorem Wallet.evaluateOrder_reported (order : Order) :
    Reported w (w.evaluateOrder symbol markPrice order) := by
  unfold evaluateOrder
  simp only
  split
  · exact .refl w
  · split
    · exact w.tryTrigger_reported symbol markPrice order
    · split
      · exact .emit (Steps.refl w).tick _
      · exact (Reported.tick w).trans (w.tick.tryTrigger_reported symbol markPrice order)

theorem Wallet.evaluatePendingOrders_reported :
    Reported w (w.evaluatePendingOrders symbol markPrice) := by
  unfold evaluatePendingOrders runInvariantSweep
  split
  · exact .refl w
  · have hloop := Reported.foldl (fun v order => v.evaluateOrder_reported symbol markPrice order)
      w.orderList w
    exact hloop.trans (Reported.foldl checkRule_reported invariantRules _)

end ReportedOperations

/-- Every operation wrote nothing, or it recorded an event. -/
theorem Operation.run_reported (w : Wallet) (op : Operation) :
    Wallet.Reported w (op.run w) := by
  cases op with
  | openPosition symbol setup markPrice customMargin customQuantity externalFill =>
      exact w.openPosition_reported symbol markPrice setup customMargin customQuantity externalFill
  | adoptVenuePosition r => exact w.adoptVenuePosition_reported r
  | partialClose symbol markPrice pct reason tpLabel externalFill =>
      exact w.partialClose_reported symbol markPrice pct reason tpLabel externalFill
  | closePosition symbol markPrice reason externalFill =>
      exact w.bookClose_reported symbol markPrice reason externalFill
  | liquidatePosition symbol markPrice => exact w.liquidatePosition_reported symbol markPrice
  | applyFunding symbol fundingRate => exact w.applyFunding_reported symbol fundingRate
  | adjustSlPrice symbol newSlPrice => exact .emitSave (.refl w) _
  | activateTrailingStop symbol => exact .emitSave (.refl w) _
  | placePendingOrder r => exact w.placePendingOrder_reported r
  | evaluatePendingOrders symbol markPrice =>
      exact w.evaluatePendingOrders_reported symbol markPrice
  | cancelOrder orderId reason => exact w.cancelOrder_reported orderId reason

end CryptoTrader
