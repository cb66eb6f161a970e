import CryptoTrader.Live.Protection
import CryptoTrader.Wallet.Exits

/-!
# What survives the operations on one symbol

A property of the wallet that survives the few things an exit does to it on
one symbol survives every exit on that symbol, whatever the venue answers and
whether or not it raises.  `update_positions` is defined here as well.
-/

namespace CryptoTrader

open CryptoTrader.Lib

variable (env : Env)

/-! ## Marking -/

/-- `_liquidate_position`. -/
def liquidatePosition (symbol : Symbol) (markPrice : Decimal) : Live Unit := do
  let s ← get
  match s.wallet.getOpenPosition symbol with
  | none => pure ()
  | some pos => do
      cancelProtectiveOrders env pos
      modifyWallet (fun w => w.liquidatePosition symbol markPrice)

/-- What `update_positions` does once an exit test has fired. -/
def takePlaybookExit (symbol : Symbol) (markPrice entryPrice : Decimal) :
    PlaybookExit → Live Unit
  | .close reason => do
      let _ ← closePosition env .none symbol markPrice reason none
      pure ()
  | .takeProfit tp => do
      let _ ← partialClose env .none symbol markPrice tp.pct s!"{tp.label} HIT" (some tp.label) none
      if tp.label = "TP1" then adjustSlPrice symbol entryPrice
      else if tp.label = "TP2" then modifyWallet (fun w => w.activateTrailingStop symbol)
      else pure ()

def takeForcedExit (symbol : Symbol) (markPrice : Decimal) : ForcedExit → Live Unit
  | .liquidation => liquidatePosition env symbol markPrice
  | .close reason => do
      let _ ← closePosition env .none symbol markPrice reason none
      pure ()

/-- `update_positions`.  The lock is held throughout, so the exits inside are
not interrupted. -/
def updatePositions (rules : ExitRules) (symbol : Symbol) (u : MarkUpdate) : Live Unit := do
  let s ← get
  match s.wallet.getOpenPosition symbol with
  | none => modifyWallet Wallet.syncUnrealizedTotal
  | some pos => do
      let pos := pos.updatePnl u.markPrice
      modifyWallet (fun w => w.editPosition symbol (fun pos => pos.updatePnl u.markPrice))
      match s.wallet.forcedExit rules pos u with
      | some exit => takeForcedExit env symbol u.markPrice exit
      | none => do
          match s.wallet.playbookExit rules pos u with
          | some exit => takePlaybookExit env symbol u.markPrice pos.entryPrice exit
          | none => pure ()
          modifyWallet Wallet.syncUnrealizedTotal

/-! ## Stable properties -/

/-- The property survives what an exit on `symbol` does to the wallet before it
books anything. -/
structure Wallet.Stable (symbol : Symbol) (I : Wallet → Prop) : Prop where
  aligned : ∀ w, I w → w.Aligned
  tick : ∀ w, I w → I w.tick
  save : ∀ w, I w → I w.save
  dress : ∀ w (f : EnhancedPosition → ProtectiveOrders) payload, I w →
    (payload = .protectiveOrdersCancelled symbol ∨
      ∃ placed, payload = .protectiveOrdersPlaced symbol placed) →
    I ((w.editPosition symbol (fun pos => { pos with protectiveOrders := f pos })).emit payload)

/-- And the booking of a close. -/
def Wallet.ClosedUnder (symbol : Symbol) (I : Wallet → Prop) : Prop :=
  ∀ w markPrice reason fill, I w → I (w.bookClose symbol markPrice reason fill).2

/-- A computation takes a wallet with the property to one with the property. -/
def World.Keeps (I : Wallet → Prop) (s s' : World) : Prop := I s.wallet → I s'.wallet

instance (I : Wallet → Prop) : Std.Refl (World.Keeps I) := ⟨fun _ h => h⟩

instance (I : Wallet → Prop) : IsTrans World (World.Keeps I) := ⟨fun _ _ _ h h' hI => h' (h hI)⟩

theorem World.Reads.keeps {s s' : World} (h : s.Reads s') (I : Wallet → Prop) : World.Keeps I s s' := by
  obtain ⟨ext, rfl, -⟩ := h
  exact fun hI => hI

/-- It is enough to follow the computation from a wallet with the property. -/
theorem World.keeps_of_wp {α : Type} {I : Wallet → Prop} {m : Live α}
    (h : ∀ s, I s.wallet → wp m (fun _ s' => I s'.wallet) (fun _ s' => I s'.wallet) s) :
    Moves (World.Keeps I) m := by
  intro s
  refine (wp_final m).mpr ?_
  intro hI
  exact (wp_final (P := fun s' => I s'.wallet) m).mp (h s hI)

theorem World.wp_of_keeps {α : Type} {I : Wallet → Prop} {m : Live α} (h : Moves (World.Keeps I) m)
    {s : World} (hs : I s.wallet) : wp m (fun _ s' => I s'.wallet) (fun _ s' => I s'.wallet) s :=
  wp_mono (h s) (fun _ _ h' => h' hs) (fun _ _ h' => h' hs)

theorem modifyWallet_keeps {I : Wallet → Prop} {f : Wallet → Wallet} (h : ∀ w, I w → I (f w)) :
    Moves (World.Keeps I) (modifyWallet f) :=
  fun s hI => h s.wallet hI

theorem onWallet_keeps {α : Type} {I : Wallet → Prop} {f : Wallet → α × Wallet}
    (h : ∀ w, I w → I (f w).2) : Moves (World.Keeps I) (onWallet f) :=
  fun s hI => h s.wallet hI

theorem tripHalt_keeps (I : Wallet → Prop) : Moves (World.Keeps I) tripHalt :=
  fun _ hI => hI

theorem current_keeps (I : Wallet → Prop) (pos : EnhancedPosition) :
    Moves (World.Keeps I) (current pos) :=
  fun _ hI => hI

section Stable

variable {symbol : Symbol} {I : Wallet → Prop} (hI : Wallet.Stable symbol I)
include hI

/-- The position object a wallet with the property has on the symbol carries
it. -/
theorem Wallet.Stable.symbol_eq {w : Wallet} (h : I w) {pos : EnhancedPosition}
    (hpos : w.getOpenPosition symbol = some pos) : pos.symbol = symbol :=
  ((hI.aligned w h symbol).openAt pos (Wallet.getOpenPosition_eq_some.mp hpos).1).1

theorem venueFill_keeps (side : PositionSide) (quantity : Decimal) (intent : String) :
    Moves (World.Keeps I) (venueFill env symbol side quantity intent) := by
  intro s
  refine wp_mono (venueFill_wallet env symbol side quantity intent s) ?_ ?_
  · intro _ s' hs' h
    rw [hs']
    exact hI.tick _ h
  · intro _ s' hs' h
    rw [hs']
    exact hI.tick _ h

theorem exitFill_keeps (side : PositionSide) (order : Option Decimal) (intent : String) :
    Moves (World.Keeps I) (exitFill env symbol side order intent) := by
  unfold exitFill
  cases order with
  | none => exact Moves.pure none
  | some qty => exact (venueFill_keeps env hI side qty intent).bind (fun _ => Moves.pure _)

theorem cancelProtectiveOrders_keeps {pos : EnhancedPosition} (hsymbol : pos.symbol = symbol) :
    Moves (World.Keeps I) (cancelProtectiveOrders env pos) := by
  unfold cancelProtectiveOrders
  refine Moves.get.bind (fun s => ?_)
  split
  · refine Moves.bind ?_ (fun _ => ?_)
    · intro s
      refine wp_mono (cancelEach_wp env _ s) ?_ (fun _ _ h => h.elim)
      rintro - s' ⟨ext, rfl, -⟩ h
      exact h
    · rw [hsymbol]
      exact modifyWallet_keeps (fun w hw => hI.dress w (fun _ => .none) _ hw (Or.inl rfl))
  · exact Moves.pure ()

omit hI in
/-- Cancelling never raises. -/
theorem cancelProtectiveOrders_returns (pos : EnhancedPosition) (s : World) :
    wp (cancelProtectiveOrders env pos) (fun _ _ => True) (fun _ _ => False) s := by
  unfold cancelProtectiveOrders
  rw [wp_bind, wp_get, wp_ite, wp_bind]
  refine ⟨fun _ => ?_, fun _ => trivial⟩
  exact wp_mono (cancelEach_wp env _ s) (fun _ _ _ => trivial) (fun _ _ h => h)

/-- Phase 1 of an exit. -/
theorem closePlan_keeps : Moves (World.Keeps I) (closePlan env symbol) := by
  refine World.keeps_of_wp (fun s hs => ?_)
  unfold closePlan
  rw [wp_bind, wp_get]
  cases hpos : s.wallet.getOpenPosition symbol with
  | none => exact hs
  | some pos =>
      refine World.wp_of_keeps ?_ hs
      refine (cancelProtectiveOrders_keeps env hI (hI.symbol_eq hs hpos)).bind (fun _ => ?_)
      refine (current_keeps I pos).bind (fun pos => ?_)
      refine Moves.bind ?_ (fun _ => Moves.pure _)
      intro s'
      exact wp_mono (venuePositionQty_wp env symbol s') (fun _ _ h => h.keeps I)
        (fun _ _ h => h.elim)

theorem partialPlan_keeps (pct : Decimal) : Moves (World.Keeps I) (partialPlan env symbol pct) := by
  refine World.keeps_of_wp (fun s hs => ?_)
  unfold partialPlan
  rw [wp_bind, wp_get]
  cases hpos : s.wallet.getOpenPosition symbol with
  | none => exact hs
  | some pos =>
      refine World.wp_of_keeps ?_ hs
      refine (cancelProtectiveOrders_keeps env hI (hI.symbol_eq hs hpos)).bind (fun _ => ?_)
      exact (current_keeps I pos).bind (fun pos => Moves.pure _)

theorem closePosition_books (markPrice : Decimal) (reason : String)
    (fill : Option ExternalFill) {s : World} (hs : I s.wallet) :
    wp (closePosition env .none symbol markPrice reason fill)
      (fun _ s' => ∃ w fill', I w ∧ s'.wallet = (w.bookClose symbol markPrice reason fill').2)
      (fun _ s' => I s'.wallet) s := by
  unfold closePosition
  rw [wp_bind, wp_get, wp_ite]
  refine ⟨fun hlive => ?_, fun _ => ⟨s.wallet, fill, hs, rfl⟩⟩
  rw [wp_bind]
  cases hpos : s.wallet.getOpenPosition symbol with
  | none =>
      unfold wp
      rw [closePlan_flat env hpos]
      exact ⟨s.wallet, none, hs, by rw [Wallet.bookClose_flat symbol markPrice reason none hpos]⟩
  | some pos =>
      refine wp_mono (wp_and (closePlan_wp env (hI.aligned _ hs) hlive.2 hpos)
        (World.wp_of_keeps (closePlan_keeps env hI) hs)) ?_ (fun _ _ h => h.1.elim)
      rintro plan s₁ ⟨⟨-, venueQty, rfl⟩, hs₁⟩
      dsimp only
      rw [wp_bind, wp_modify, wp_bind]
      refine wp_mono (World.wp_of_keeps (exitFill_keeps env hI _ _ "exit") hs₁) ?_ (fun _ _ h => h)
      intro fill' s₂ hs₂
      rw [wp_bind, wp_modify]
      exact ⟨s₂.wallet, fill', hs₂, rfl⟩

variable (hclose : Wallet.ClosedUnder symbol I)

include hclose in
theorem closePosition_keeps (markPrice : Decimal) (reason : String) (fill : Option ExternalFill) :
    Moves (World.Keeps I) (closePosition env .none symbol markPrice reason fill) := by
  refine World.keeps_of_wp (fun s hs => ?_)
  refine wp_mono (closePosition_books env hI markPrice reason fill hs) ?_ (fun _ _ h => h)
  rintro - s' ⟨w, fill', hw, hs'⟩
  rw [hs']
  exact hclose w markPrice reason fill' hw

/-! ### Protective orders -/

/-- A position object of the symbol, looked up again, is still one. -/
theorem Wallet.Stable.current_symbol {w : Wallet} (h : I w) {pos : EnhancedPosition}
    (hsymbol : pos.symbol = symbol) : ((w.positions.get? pos.symbol).getD pos).symbol = symbol := by
  rw [hsymbol]
  cases hpos : w.positions.get? symbol with
  | none => exact hsymbol
  | some pos' => exact ((hI.aligned w h symbol).openAt pos' hpos).1

include hclose in
theorem requiredStopFailed_keeps {α : Type} {pos : EnhancedPosition} (hsymbol : pos.symbol = symbol)
    (msg : String) : Moves (World.Keeps I) (requiredStopFailed env pos msg : Live α) := by
  refine World.keeps_of_wp (fun s hs => ?_)
  unfold requiredStopFailed tripHalt
  rw [wp_bind, wp_modify, wp_bind, wp_current, hI.current_symbol hs hsymbol]
  refine World.wp_of_keeps (s := { s with halt := true }) ?_ hs
  refine Moves.bind ?_ (fun _ => Moves.throw _)
  exact (closePosition_keeps env hI hclose _ _ _).tryCatch (fun _ => Moves.pure _)

theorem recordProtective_keeps {pos : EnhancedPosition} (hsymbol : pos.symbol = symbol)
    (placed : ProtectiveOrders) : Moves (World.Keeps I) (recordProtective pos placed) := by
  unfold recordProtective
  split
  · rw [hsymbol]
    exact modifyWallet_keeps (fun w hw => hI.dress w _ _ hw (Or.inr ⟨placed, rfl⟩))
  · exact Moves.pure ()

omit hI in
theorem attemptProtective_keeps (I : Wallet → Prop) (pos : EnhancedPosition) :
    Moves (World.Keeps I) (attemptProtective env pos) := by
  intro s
  refine wp_mono (attemptProtective_wp env pos s) ?_ (fun _ _ h => h.elim)
  rintro - s' ⟨ext, rfl, -⟩ h
  exact h

include hclose in
theorem placeProtectiveOrders_keeps {pos : EnhancedPosition} (hsymbol : pos.symbol = symbol) :
    Moves (World.Keeps I) (placeProtectiveOrders env pos) := by
  rw [placeProtectiveOrders_eq]
  refine (attemptProtective_keeps env I pos).bind (fun result => ?_)
  cases result with
  | placed orders => exact recordProtective_keeps hI hsymbol orders
  | failed msg => exact requiredStopFailed_keeps env hI hclose hsymbol msg

include hclose in
theorem restoreProtective_keeps : Moves (World.Keeps I) (restoreProtective env symbol) := by
  refine World.keeps_of_wp (fun s hs => ?_)
  unfold restoreProtective
  rw [wp_bind, wp_get]
  cases hpos : s.wallet.getOpenPosition symbol with
  | none => exact hs
  | some pos =>
      refine World.wp_of_keeps ?_ hs
      refine (placeProtectiveOrders_keeps env hI hclose (hI.symbol_eq hs hpos)).bind (fun _ => ?_)
      refine (current_keeps I pos).bind (fun pos => Moves.get.bind (fun s' => ?_))
      split
      · exact tripHalt_keeps I
      · exact Moves.pure ()

/-! ### Partial closes and marks -/

include hclose in
/-- What follows the booking of a slice. -/
theorem partialBook_keeps (markPrice pct : Decimal) (reason : String) (tpLabel : Option String)
    (fill : Option ExternalFill) (hadProtective : Bool)
    (hslice : ∀ w, I w → I (w.bookPartial symbol markPrice pct reason tpLabel fill).2) :
    Moves (World.Keeps I)
      (partialBook env symbol markPrice pct reason tpLabel fill hadProtective) := by
  unfold partialBook
  refine (onWallet_keeps hslice).bind (fun pnl? => ?_)
  cases pnl? with
  | none => exact Moves.pure _
  | some pnl =>
      refine Moves.get.bind (fun s => ?_)
      split
      · exact (closePosition_keeps env hI hclose _ _ _).bind (fun _ => Moves.pure _)
      · have hsave : Moves (World.Keeps I) (do
            modifyWallet Wallet.save
            pure (PartialResult.slice pnl)) :=
          (modifyWallet_keeps hI.save).bind (fun _ => Moves.pure _)
        split
        · exact (restoreProtective_keeps env hI hclose).bind (fun _ => hsave)
        · exact hsave

include hclose in
theorem partialClose_keeps (markPrice pct : Decimal) (reason : String) (tpLabel : Option String)
    (fill : Option ExternalFill)
    (hslice : ∀ w fill, I w → I (w.bookPartial symbol markPrice pct reason tpLabel fill).2) :
    Moves (World.Keeps I)
      (partialClose env .none symbol markPrice pct reason tpLabel fill) := by
  have hbook (fill : Option ExternalFill) (hadProtective : Bool) :=
    partialBook_keeps env hI hclose markPrice pct reason tpLabel fill hadProtective
      (fun w => hslice w fill)
  have hfree : Moves (World.Keeps I) (modify id : Live PUnit) := fun _ h => h
  unfold partialClose
  refine Moves.get.bind (fun s => ?_)
  split
  · refine (partialPlan_keeps env hI pct).bind (fun plan? => ?_)
    cases plan? with
    | none => exact Moves.pure _
    | some plan =>
        refine hfree.bind (fun _ => (exitFill_keeps env hI _ _ _).bind (fun fill' => ?_))
        exact hfree.bind (fun _ => hbook fill' _)
  · exact hbook fill false

theorem liquidatePosition_books (markPrice : Decimal) {s : World} (hs : I s.wallet) :
    wp (liquidatePosition env symbol markPrice)
      (fun _ s' => ∃ w, I w ∧ s'.wallet = w.liquidatePosition symbol markPrice)
      (fun _ _ => False) s := by
  unfold liquidatePosition
  rw [wp_bind, wp_get]
  cases hpos : s.wallet.getOpenPosition symbol with
  | none =>
      refine ⟨s.wallet, hs, ?_⟩
      unfold Wallet.liquidatePosition
      rw [hpos]
  | some pos =>
      have hsymbol := hI.symbol_eq hs hpos
      have hcancel := World.wp_of_keeps (cancelProtectiveOrders_keeps env hI hsymbol) hs
      dsimp only
      rw [wp_bind]
      refine wp_mono (wp_and hcancel (cancelProtectiveOrders_returns env pos s)) ?_
        (fun _ _ h => h.2)
      rintro - s' ⟨hs', -⟩
      exact ⟨s'.wallet, hs', rfl⟩

end Stable

end CryptoTrader
