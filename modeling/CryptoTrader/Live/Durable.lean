import CryptoTrader.Live.Equity
import CryptoTrader.Wallet.Parity

/-!
# Operations with an engine are durable steps

However a call of the wallet ends, with or without an engine, it leaves a
wallet that durable steps lead to and whose positions are the reducer's.  So
what `Wallet/Parity.lean` says of a log holds of these calls as well.
-/

namespace CryptoTrader

open CryptoTrader.Lib

/-! ## The invariant -/

/-- The wallet came out of `u` by durable steps, has applied an event, and its
positions are the reducer's. -/
structure Wallet.DurableFrom (u w : Wallet) : Prop where
  steps : Wallet.Steps u w
  started : 0 < w.runtime.eventsApplied
  aligned : w.Aligned

namespace Wallet.DurableFrom

variable {u v w : Wallet}

/-- More durable steps that end in aligned positions. -/
theorem extend (h : Wallet.DurableFrom u v) (hsteps : Wallet.Steps v w) (haligned : w.Aligned) :
    Wallet.DurableFrom u w :=
  ⟨h.steps.trans hsteps, Nat.lt_of_lt_of_le h.started hsteps.eventsApplied_le, haligned⟩

/-- What leaves every value alone keeps the positions aligned. -/
theorem keepsWorth (h : Wallet.DurableFrom u v) (touched : Option Symbol)
    (hsteps : Wallet.Steps v w)
    (hkeeps : Wallet.KeepsWorth touched v v → Wallet.KeepsWorth touched v w) :
    Wallet.DurableFrom u w :=
  h.extend hsteps (hkeeps (Wallet.KeepsWorth.refl h.aligned)).aligned

/-- A change that neither the log nor the positions notice. -/
theorem volatile (h : Wallet.DurableFrom u v) (hv : Wallet.Volatile v w)
    (hpositions : w.positions = v.positions) : Wallet.DurableFrom u w := by
  refine h.extend ((Wallet.Steps.refl v).volatile hv) (fun s => ?_)
  have haligned := h.aligned s
  unfold AlignedAt at haligned ⊢
  rw [hpositions, hv.runtime]
  exact haligned

theorem stable (u : Wallet) (symbol : Symbol) :
    Wallet.Stable symbol (Wallet.DurableFrom u) := by
  refine ⟨fun _ h => h.aligned, fun w h => ?_, fun w h => ?_, fun w f payload h hpayload => ?_⟩
  · exact h.keepsWorth none (Wallet.Steps.refl w).tick (fun hw => hw.tick)
  · exact h.keepsWorth none ((Wallet.Steps.refl w).save h.started) (fun hw => hw.save)
  · have hsteps := ((Wallet.Steps.refl w).editPosition symbol
      (fun pos => { pos with protectiveOrders := f pos })).emit payload
    rcases hpayload with rfl | ⟨placed, rfl⟩
    · exact h.keepsWorth none hsteps (fun hw => hw.dress f rfl rfl)
    · exact h.keepsWorth none hsteps (fun hw => hw.dress f rfl rfl)

theorem closedUnder (u : Wallet) (symbol : Symbol) :
    Wallet.ClosedUnder symbol (Wallet.DurableFrom u) :=
  fun w markPrice reason fill h =>
    h.keepsWorth (some symbol) ((Wallet.Steps.refl w).bookClose symbol markPrice reason fill)
      (fun hw => hw.bookClose markPrice reason fill)

theorem bookPartial (h : Wallet.DurableFrom u w) (symbol : Symbol) (markPrice pct : Decimal)
    (reason : String) (tpLabel : Option String) (fill : Option ExternalFill) :
    Wallet.DurableFrom u (w.bookPartial symbol markPrice pct reason tpLabel fill).2 :=
  h.keepsWorth (some symbol) ((Wallet.Steps.refl w).bookPartial symbol markPrice pct reason tpLabel fill).1
    (fun hw => hw.bookPartial markPrice pct reason tpLabel fill)

theorem bookOpen (h : Wallet.DurableFrom u w) (symbol : Symbol) (setup : Setup)
    (markPrice : Decimal) (customMargin customQuantity : Option Decimal)
    (fill : Option ExternalFill) (liveQty : Option Decimal) :
    Wallet.DurableFrom u
      (w.bookOpen symbol setup markPrice customMargin customQuantity fill liveQty).2 := by
  obtain ⟨hopened, helse⟩ := Wallet.bookOpen_announced h.aligned symbol setup markPrice customMargin
    customQuantity fill liveQty
  refine h.extend ((Wallet.Steps.refl w).bookOpen symbol markPrice setup customMargin
    customQuantity fill liveQty).1 ?_
  by_cases hpos : ∃ pos, (w.bookOpen symbol setup markPrice customMargin customQuantity fill
      liveQty).1 = .ok (some pos)
  · obtain ⟨pos, hpos⟩ := hpos
    exact (hopened pos hpos).1.aligned
  · exact (helse (fun pos hr => hpos ⟨pos, hr⟩)).aligned

theorem bookAdoption (h : Wallet.DurableFrom u w) (r : AdoptRequest) :
    Wallet.DurableFrom u (w.bookAdoption r).2 := by
  obtain ⟨hadopted, helse⟩ := Wallet.bookAdoption_announced h.aligned r
  refine h.extend ((Wallet.Steps.refl w).bookAdoption r).1 ?_
  cases hres : (w.bookAdoption r).1 with
  | none =>
      rw [helse hres]
      exact h.aligned
  | some pos => exact (hadopted pos hres).aligned

end Wallet.DurableFrom

/-! ## The calls -/

variable (env : Env) {u : Wallet}

theorem ofReply_keeps {α : Type} (I : Wallet → Prop) (reply : Except PyErr α) :
    Moves (World.Keeps I) (ofReply reply) :=
  (ofReply_reads reply).mono (fun _ _ h => h.keeps I)

/-- The end of an entry. -/
theorem protectEntry_durable (pos? : Option EnhancedPosition) :
    Moves (World.Keeps (Wallet.DurableFrom u)) (protectEntry env pos?) := by
  unfold protectEntry
  cases pos? with
  | none => exact Moves.pure none
  | some pos =>
      have hstable := Wallet.DurableFrom.stable u pos.symbol
      have hplace : Moves (World.Keeps (Wallet.DurableFrom u)) (placeProtectiveOrders env pos) :=
        placeProtectiveOrders_keeps env hstable (Wallet.DurableFrom.closedUnder u pos.symbol) rfl
      refine hplace.bind (fun _ => (modifyWallet_keeps hstable.save).bind (fun _ => ?_))
      exact (current_keeps _ pos).bind (fun _ => Moves.pure _)

theorem openPosition_durable (symbol : Symbol) (setup : Setup) (markPrice : Decimal)
    (customMargin customQuantity : Option Decimal) (externalFill : Option ExternalFill) :
    Moves (World.Keeps (Wallet.DurableFrom u))
      (openPosition env .none symbol setup markPrice customMargin customQuantity externalFill) := by
  have hbook (fill : Option ExternalFill) (liveQty : Option Decimal) :
      Moves (World.Keeps (Wallet.DurableFrom u))
        (onWallet (fun w =>
          w.bookOpen symbol setup markPrice customMargin customQuantity fill liveQty)) :=
    onWallet_keeps (fun _ hw =>
      hw.bookOpen symbol setup markPrice customMargin customQuantity fill liveQty)
  rw [openPosition_eq]
  refine Moves.bind ?_ (protectEntry_durable env)
  unfold bookEntry
  refine Moves.get.bind (fun s => ?_)
  split
  · refine (ofReply_keeps _ _).bind (fun qty? => ?_)
    cases qty? with
    | none => exact Moves.pure none
    | some qty =>
        have hfill := venueFill_keeps env (Wallet.DurableFrom.stable u symbol) setup.side qty "entry"
        exact hfill.bind (fun fill => (hbook _ _).bind (fun booked => ofReply_keeps _ booked))
  · exact (hbook _ _).bind (fun booked => ofReply_keeps _ booked)

theorem adoptVenuePosition_durable (r : AdoptRequest) :
    Moves (World.Keeps (Wallet.DurableFrom u)) (adoptVenuePosition env r) := by
  rw [adoptVenuePosition_eq]
  exact (onWallet_keeps (fun _ hw => hw.bookAdoption r)).bind (protectEntry_durable env)

theorem closePosition_durable (symbol : Symbol) (markPrice : Decimal) (reason : String)
    (fill : Option ExternalFill) :
    Moves (World.Keeps (Wallet.DurableFrom u))
      (closePosition env .none symbol markPrice reason fill) :=
  closePosition_keeps env (Wallet.DurableFrom.stable u symbol) (Wallet.DurableFrom.closedUnder u symbol)
    markPrice reason fill

theorem partialClose_durable (symbol : Symbol) (markPrice pct : Decimal) (reason : String)
    (tpLabel : Option String) (fill : Option ExternalFill) :
    Moves (World.Keeps (Wallet.DurableFrom u))
      (partialClose env .none symbol markPrice pct reason tpLabel fill) :=
  partialClose_keeps env (Wallet.DurableFrom.stable u symbol) (Wallet.DurableFrom.closedUnder u symbol)
    markPrice pct reason tpLabel fill (fun _ fill hw => hw.bookPartial symbol markPrice pct reason tpLabel fill)

/-- A booking that leaves every value alone. -/
theorem modifyWallet_durable {f : Wallet → Wallet} (hsteps : ∀ w, Wallet.Steps w (f w))
    (hkeeps : ∀ w, Wallet.KeepsWorth none w w → Wallet.KeepsWorth none w (f w)) :
    Moves (World.Keeps (Wallet.DurableFrom u)) (modifyWallet f) :=
  modifyWallet_keeps (fun w hw => hw.keepsWorth none (hsteps w) (hkeeps w))

theorem adjustSlPrice_durable (symbol : Symbol) (newSlPrice : Decimal) :
    Moves (World.Keeps (Wallet.DurableFrom u)) (adjustSlPrice symbol newSlPrice) :=
  modifyWallet_durable (fun w => Wallet.adjustSlPrice_steps symbol w newSlPrice)
    (fun _ h => h.adjustSlPrice symbol newSlPrice)

theorem activateTrailingStop_durable (symbol : Symbol) :
    Moves (World.Keeps (Wallet.DurableFrom u))
      (modifyWallet (fun w => w.activateTrailingStop symbol)) :=
  modifyWallet_durable (Wallet.activateTrailingStop_steps symbol)
    (fun _ h => h.activateTrailingStop symbol)

theorem syncUnrealizedTotal_durable :
    Moves (World.Keeps (Wallet.DurableFrom u)) (modifyWallet Wallet.syncUnrealizedTotal) :=
  modifyWallet_keeps (fun _ hw =>
    hw.volatile ⟨rfl, rfl, Nat.le_refl _, rfl, rfl, rfl, rfl, rfl⟩ rfl)

theorem liquidatePosition_durable (symbol : Symbol) (markPrice : Decimal) :
    Moves (World.Keeps (Wallet.DurableFrom u)) (liquidatePosition env symbol markPrice) := by
  refine World.keeps_of_wp (fun s hs => ?_)
  refine wp_mono (liquidatePosition_books env (Wallet.DurableFrom.stable u symbol) markPrice hs) ?_
    (fun _ _ h => h.elim)
  rintro - s' ⟨w, hw, hs'⟩
  rw [hs']
  exact hw.keepsWorth (some symbol) (Wallet.liquidatePosition_steps symbol markPrice w)
    (fun h => h.liquidatePosition markPrice)

theorem updatePositions_durable (rules : ExitRules) (symbol : Symbol) (m : MarkUpdate) :
    Moves (World.Keeps (Wallet.DurableFrom u)) (updatePositions env rules symbol m) := by
  have hmark : Moves (World.Keeps (Wallet.DurableFrom u))
      (modifyWallet (fun w => w.editPosition symbol (fun pos => pos.updatePnl m.markPrice))) := by
    refine modifyWallet_keeps (fun w hw => hw.extend ((Wallet.Steps.refl w).editPosition symbol _) ?_)
    exact fun s => (hw.aligned s).editPosition symbol (fun _ hopen => hopen.updatePnl m.markPrice)
      (fun _ _ h => h.updatePnl m.markPrice)
  unfold updatePositions
  refine Moves.get.bind (fun s => ?_)
  cases s.wallet.getOpenPosition symbol with
  | none => exact syncUnrealizedTotal_durable
  | some pos =>
      refine hmark.bind (fun _ => ?_)
      cases s.wallet.forcedExit rules (pos.updatePnl m.markPrice) m with
      | some exit =>
          cases exit with
          | liquidation => exact liquidatePosition_durable env symbol m.markPrice
          | close reason =>
              exact (closePosition_durable env symbol m.markPrice reason none).bind
                (fun _ => Moves.pure _)
      | none =>
          cases s.wallet.playbookExit rules (pos.updatePnl m.markPrice) m with
          | none => exact syncUnrealizedTotal_durable
          | some exit =>
              refine Moves.bind ?_ (fun _ => syncUnrealizedTotal_durable)
              cases exit with
              | close reason =>
                  exact (closePosition_durable env symbol m.markPrice reason none).bind
                    (fun _ => Moves.pure _)
              | takeProfit tp =>
                  refine (partialClose_durable env symbol m.markPrice tp.pct _ _ none).bind
                    (fun _ => ?_)
                  split
                  · exact adjustSlPrice_durable symbol _
                  · split
                    · exact activateTrailingStop_durable symbol
                    · exact Moves.pure ()

/-- A call of the wallet, however it ends, is a sequence of durable steps and
leaves the positions aligned. -/
theorem WalletCall.run_durable (rules : ExitRules) (c : WalletCall) :
    Moves (World.Keeps (Wallet.DurableFrom u)) (c.run env rules) := by
  cases c with
  | openPosition symbol setup markPrice customMargin customQuantity externalFill =>
      exact (openPosition_durable env symbol setup markPrice customMargin customQuantity
        externalFill).bind (fun _ => Moves.pure _)
  | adoptVenuePosition r => exact (adoptVenuePosition_durable env r).bind (fun _ => Moves.pure _)
  | partialClose symbol markPrice pct reason tpLabel externalFill =>
      exact (partialClose_durable env symbol markPrice pct reason tpLabel externalFill).bind
        (fun _ => Moves.pure _)
  | closePosition symbol markPrice reason externalFill =>
      exact (closePosition_durable env symbol markPrice reason externalFill).bind
        (fun _ => Moves.pure _)
  | updatePositions symbol m => exact updatePositions_durable env rules symbol m
  | applyFunding symbol fundingRate =>
      exact modifyWallet_durable (f := fun w => (w.applyFunding symbol fundingRate).2)
        (fun w => Wallet.applyFunding_steps symbol w fundingRate)
        (fun _ h => h.applyFunding symbol fundingRate)
  | adjustSlPrice symbol newSlPrice => exact adjustSlPrice_durable symbol newSlPrice
  | activateTrailingStop symbol => exact activateTrailingStop_durable symbol
  | placePendingOrder r =>
      exact modifyWallet_durable (f := fun w => (w.placePendingOrder r).2)
        (fun w => Wallet.placePendingOrder_steps w r) (fun _ h => h.placePendingOrder r)
  | evaluatePendingOrders symbol markPrice =>
      exact modifyWallet_durable (f := fun w => w.evaluatePendingOrders symbol markPrice)
        (fun w => Wallet.evaluatePendingOrders_steps w symbol markPrice)
        (fun _ h => h.evaluatePendingOrders symbol markPrice)
  | cancelOrder orderId reason =>
      exact modifyWallet_durable (f := fun w => (w.cancelOrder orderId reason).2)
        (fun w => Wallet.cancelOrder_steps w orderId reason)
        (fun _ h => h.cancelOrder orderId reason)

end CryptoTrader
