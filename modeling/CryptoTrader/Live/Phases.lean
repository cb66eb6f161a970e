import CryptoTrader.Live.Operations
import CryptoTrader.Wallet.Bookings

/-!
# What the phases of a live operation do

Specifications of the pieces `Live/Operations.lean` is made of.  Between them
they say which exchanges a piece can add to the record, and what it does to
the position of its symbol.
-/

namespace CryptoTrader

open CryptoTrader.Lib

variable (env : Env)

/-! ## Wallet steps -/

section WalletSteps

variable {α : Type} {Q : α → World → Prop} {E : PyErr → World → Prop} {s : World}

@[simp] theorem wp_onWallet (f : Wallet → α × Wallet) :
    wp (onWallet f) Q E s ↔ Q (f s.wallet).1 { s with wallet := (f s.wallet).2 } := Iff.rfl

theorem onWallet_of_eq {f : Wallet → α × Wallet} {a : α} {w' : Wallet} (h : f s.wallet = (a, w')) :
    onWallet f s = .ok a { s with wallet := w' } := by
  show EStateM.Result.ok (f s.wallet).1 { s with wallet := (f s.wallet).2 } = _
  rw [h]

@[simp] theorem wp_modifyWallet {Q : Unit → World → Prop} (f : Wallet → Wallet) :
    wp (modifyWallet f) Q E s ↔ Q () { s with wallet := f s.wallet } := Iff.rfl

@[simp] theorem wp_current {Q : EnhancedPosition → World → Prop} (pos : EnhancedPosition) :
    wp (current pos) Q E s ↔ Q ((s.wallet.positions.get? pos.symbol).getD pos) s := Iff.rfl

end WalletSteps

/-! ## The market order of `_venue_fill` -/

/-- The order `_venue_fill` sends. -/
def Wallet.marketOrder (w : Wallet) (symbol : Symbol) (side : PositionSide)
    (quantity : Decimal) : PlaceOrder :=
  { symbol := symbol
    side := side
    quantity := quantity
    orderType := .market
    leverage := some (w.getLeverage symbol) }

/-- The state in which `_venue_fill` sends it. -/
def World.ticked (s : World) : World := { s with wallet := s.wallet.tick }

theorem venueOrder_wp (symbol : Symbol) (side : PositionSide) (quantity : Decimal) (s : World) :
    let r := s.wallet.marketOrder symbol side quantity
    wp (venueOrder env symbol side quantity)
      (fun order s' => ∃ ext outcome, s' = s.ticked.extend ext ∧ r.Adds env s.ticked ext ∧
        created ext = [r.record env s.ticked outcome] ∧
        0 < order.filledQuantity ∧ 0 < order.avgFillPrice)
      (fun _ s' => ∃ ext, s' = s.ticked.extend ext ∧ r.Adds env s.ticked ext) s := by
  intro r
  unfold venueOrder
  rw [wp_bind, wp_modifyWallet, wp_bind, wp_get]
  refine wp_mono (placeOrder_wp env r s.ticked) ?_ (fun _ _ h => h)
  rintro order s' ⟨ext, outcome, hs', hadds, hcreated, hmarket, -⟩
  obtain ⟨hqty, hprice⟩ := hmarket rfl
  exact ⟨ext, outcome, hs', hadds, hcreated, hqty, hprice⟩

/-- A positive price makes a fill. -/
theorem fillOf_wp (symbol : Symbol) (quantity : Decimal) (intent : String) (order : PlacedOrder)
    (s : World) :
    wp (fillOf symbol quantity intent order)
      (fun fill s' => s' = s ∧ fill.price = order.avgFillPrice ∧ 0 < fill.price ∧
        fill.fee = s.wallet.calculateFee (order.avgFillPrice * quantity) true)
      (fun _ s' => s' = s ∧ order.avgFillPrice ≤ 0) s := by
  unfold fillOf
  rw [wp_bind, wp_get, wp_ite]
  refine ⟨fun h => ⟨rfl, h⟩, fun h => ⟨rfl, rfl, not_le.mp h, rfl⟩⟩

theorem venueFill_wallet (symbol : Symbol) (side : PositionSide) (quantity : Decimal)
    (intent : String) (s : World) :
    wp (venueFill env symbol side quantity intent) (fun _ s' => s'.wallet = s.wallet.tick)
      (fun _ s' => s'.wallet = s.wallet.tick) s := by
  unfold venueFill
  rw [wp_bind]
  refine wp_mono (venueOrder_wp env symbol side quantity s) ?_ ?_
  · rintro order s₁ ⟨ext, outcome, rfl, -⟩
    refine wp_mono (fillOf_wp symbol quantity intent order _) ?_ ?_
    · rintro fill s₂ ⟨rfl, -⟩
      rfl
    · rintro e s₂ ⟨rfl, -⟩
      rfl
  · rintro e s₁ ⟨ext, rfl, -⟩
    rfl

/-- The venue's quantity is read without raising. -/
theorem venuePositionQty_wp (symbol : Symbol) (s : World) :
    wp (venuePositionQty env symbol) (fun _ s' => s.Reads s') (fun _ _ => False) s := by
  unfold venuePositionQty
  rw [wp_tryCatch, wp_bind]
  exact wp_mono (getPositions_reads env s) (fun _ _ h => h) (fun _ _ h => h)

/-! ## Cancelling -/

/-- A cancel call for one of some ids. -/
def Interaction.cancels (ids : List String) : Interaction → Prop
  | .cancelOrder orderId _ => orderId ∈ ids
  | _ => False

theorem cancelOrder_wp (orderId : String) (s : World) :
    wp (cancelOrder env orderId)
      (fun _ s' => ∃ ext, s' = s.extend ext ∧ ∀ i ∈ ext, i.cancels [orderId])
      (fun _ s' => ∃ ext, s' = s.extend ext ∧ ∀ i ∈ ext, i.cancels [orderId]) s := by
  unfold cancelOrder
  rw [wp_bind]
  refine wp_mono (assertLiveAllowed_wp env "CANCEL" orderId s) ?_ ?_
  · rintro - s₀ ⟨rfl, -⟩
    unfold succeeds
    rw [wp_tryCatch, wp_bind, wp_bind]
    refine wp_mono (exchange_wp _ _ s₀) ?_ (fun _ _ h => h.elim)
    rintro outcome s₁ ⟨rfl, rfl⟩
    have hext : ∀ i ∈ [Interaction.cancelOrder orderId (env.venue.cancelOrder s₀.trace orderId)],
        i.cancels [orderId] := by
      intro i hi
      rw [List.mem_singleton.mp hi]
      exact List.mem_singleton_self orderId
    refine wp_mono (ofReply_wp _ _) ?_ ?_
    · rintro - s₂ ⟨-, rfl⟩
      exact ⟨_, rfl, hext⟩
    · rintro e s₂ ⟨-, rfl⟩
      cases e with
      | coinDcxError _ _ => exact ⟨_, rfl, hext⟩
      | _ => exact ⟨_, rfl, hext⟩
  · rintro e s₀ ⟨rfl, -⟩
    exact ⟨[], by simp, by simp⟩

/-- Cancelling never raises. -/
theorem cancelEach_wp (ids : List String) (s : World) :
    wp (cancelEach env ids)
      (fun _ s' => ∃ ext, s' = s.extend ext ∧ ∀ i ∈ ext, i.cancels ids) (fun _ _ => False) s := by
  induction ids generalizing s with
  | nil => exact ⟨[], by simp, by simp⟩
  | cons id rest ih =>
      have hmono : ∀ {i : Interaction} {ids' : List String}, ids' ⊆ id :: rest → i.cancels ids' →
          i.cancels (id :: rest) := by
        intro i ids' hsub hi
        cases i with
        | cancelOrder orderId outcome => exact hsub hi
        | _ => exact hi
      have hrest : ∀ s₁ : World, (∃ ext, s₁ = s.extend ext ∧ ∀ i ∈ ext, i.cancels [id]) →
          wp (cancelEach env rest) (fun _ s' => ∃ ext, s' = s.extend ext ∧
            ∀ i ∈ ext, i.cancels (id :: rest)) (fun _ _ => False) s₁ := by
        rintro s₁ ⟨ext, rfl, hext⟩
        refine wp_mono (ih (s.extend ext)) ?_ (fun _ _ h => h)
        rintro - s₂ ⟨ext', rfl, hext'⟩
        refine ⟨ext ++ ext', by simp, ?_⟩
        intro i hi
        rcases List.mem_append.mp hi with hi | hi
        · exact hmono (by simp) (hext i hi)
        · exact hmono (List.subset_cons_self id rest) (hext' i hi)
      unfold cancelEach
      rw [wp_bind, wp_tryCatch]
      refine wp_mono (cancelOrder_wp env id s) ?_ ?_
      · intro _ s₁ h₁
        exact hrest s₁ h₁
      · intro _ s₁ h₁
        exact hrest s₁ h₁

/-- The position once its protective orders have been set to `orders`. -/
structure EnhancedPosition.Dressed (pos pos' : EnhancedPosition) (orders : ProtectiveOrders) :
    Prop where
  symbol : pos'.symbol = pos.symbol
  side : pos'.side = pos.side
  leverage : pos'.leverage = pos.leverage
  entryPrice : pos'.entryPrice = pos.entryPrice
  remainingQuantity : pos'.remainingQuantity = pos.remainingQuantity
  slPrice : pos'.slPrice = pos.slPrice
  protectiveOrders : pos'.protectiveOrders = orders

theorem ProtectiveOrders.eq_none_of_any {p : ProtectiveOrders} (h : ¬ p.any) : p = .none := by
  obtain ⟨sl, tp⟩ := p
  cases sl with
  | some _ => simp [any] at h
  | none =>
      cases tp with
      | some _ => simp [any] at h
      | none => rfl

/-- Editing the protective orders of an open position and announcing it with an
event that gives its entry those of `place`. -/
theorem Wallet.dress_spec {w : Wallet} (h : w.Aligned) {symbol : Symbol} {pos : EnhancedPosition}
    (hpos : w.getOpenPosition symbol = some pos) (f : EnhancedPosition → ProtectiveOrders)
    (payload : Payload) (htarget : payload.target? = some symbol)
    (place : PositionData → ProtectiveOrders)
    (happly : ∀ s : PortfolioState, (s.applyPayload payload).openPositions =
      s.openPositions.modify symbol
        (fun data => { data with protectiveOrders := some (place data) })) :
    let w' := (w.editPosition symbol (fun pos => { pos with protectiveOrders := f pos })).emit payload
    Wallet.OnlyAt symbol w w' ∧ ∃ data pos', pos.Follows data ∧
      w'.getOpenPosition symbol = some pos' ∧ pos.Dressed pos' (place data) := by
  intro w'
  have hopen : ∀ p : EnhancedPosition, p.OpenOn symbol →
      ({ p with protectiveOrders := f p } : EnhancedPosition).OpenOn symbol := fun _ hp => hp
  refine ⟨(Wallet.OnlyAt.refl h).editEmit hopen htarget, ?_⟩
  have halign := h symbol
  obtain ⟨data, hdata, hfollows⟩ := halign.entry hpos
  have hedit := Wallet.getOpenPosition_editPosition (w := w) symbol
    (f := fun pos => { pos with protectiveOrders := f pos }) (fun _ => rfl)
  rw [hpos] at hedit
  have hdata' : w'.runtime.openPositions.get? symbol =
      some { data with protectiveOrders := some (place data) } := by
    rw [Wallet.runtime_emit, PortfolioState.openPositions_apply]
    show (w.runtime.applyPayload payload).openPositions.get? symbol = _
    rw [happly, Dict.get?_modify_self, hdata]
    rfl
  exact ⟨data, _, hfollows,
    (halign.openAt.editPosition symbol hopen).getOpenPosition_emit _ hedit hdata',
    rfl, rfl, rfl, hfollows.entryPrice.symm, hfollows.quantity.symm, hfollows.slPrice.symm, rfl⟩

/-- `_cancel_protective_orders` in live mode. -/
theorem cancelProtectiveOrders_wp {s : World} (h : s.wallet.Aligned)
    (hlive : s.wallet.liveExecution) {symbol : Symbol} {pos : EnhancedPosition}
    (hpos : s.wallet.getOpenPosition symbol = some pos) :
    wp (cancelProtectiveOrders env pos)
      (fun _ s' => ∃ ext w', s' = { s.extend ext with wallet := w' } ∧
        (∀ i ∈ ext, i.cancels pos.protectiveOrders.ids) ∧ Wallet.OnlyAt symbol s.wallet w' ∧
        ∃ pos', w'.getOpenPosition symbol = some pos' ∧ pos.Dressed pos' .none)
      (fun _ _ => False) s := by
  have hsymbol : pos.symbol = symbol :=
    ((h symbol).openAt pos (Wallet.getOpenPosition_eq_some.mp hpos).1).1
  unfold cancelProtectiveOrders
  rw [wp_bind, wp_get, wp_ite]
  constructor
  · rintro -
    rw [wp_bind]
    refine wp_mono (cancelEach_wp env _ s) ?_ (fun _ _ h => h)
    rintro - s₁ ⟨ext, rfl, hext⟩
    rw [wp_modifyWallet, hsymbol]
    obtain ⟨honly, _, pos', -, hpos', hbared⟩ := Wallet.dress_spec h hpos (fun _ => .none)
      (.protectiveOrdersCancelled symbol) rfl (fun _ => .none) (fun _ => rfl)
    exact ⟨ext, _, rfl, hext, honly, pos', hpos', hbared⟩
  · intro hguard
    have hany : ¬ pos.protectiveOrders.any := fun hany => hguard ⟨hlive, hany⟩
    refine ⟨[], s.wallet, by simp [World.extend], by simp, .refl h, pos, hpos, ?_⟩
    exact ⟨rfl, rfl, rfl, rfl, rfl, rfl, ProtectiveOrders.eq_none_of_any hany⟩

/-! ## Phase 1 of an exit -/

/-- What phase 1 of an exit does to the world: the position of the symbol
loses its protective orders and keeps everything else. -/
structure World.Prepared (symbol : Symbol) (pos : EnhancedPosition) (s s' : World) : Prop where
  wallet : Wallet.OnlyAt symbol s.wallet s'.wallet
  position : ∃ pos', s'.wallet.getOpenPosition symbol = some pos' ∧ pos.Dressed pos' .none
  engineLeverage : s'.engineLeverage = s.engineLeverage
  halt : s'.halt = s.halt
  trace : ∃ ext, s'.trace = s.trace ++ ext ∧
    ∀ i ∈ ext, i.isRead ∨ i.cancels pos.protectiveOrders.ids

theorem World.Prepared.reads {symbol : Symbol} {pos : EnhancedPosition} {s s' s'' : World}
    (h : s.Prepared symbol pos s') (hreads : s'.Reads s'') : s.Prepared symbol pos s'' := by
  obtain ⟨ext', rfl, hext'⟩ := hreads
  obtain ⟨ext, htrace, hext⟩ := h.trace
  refine ⟨h.wallet, h.position, h.engineLeverage, h.halt, ext ++ ext', ?_, ?_⟩
  · rw [World.trace_extend, htrace, List.append_assoc]
  · intro i hi
    rcases List.mem_append.mp hi with hi | hi
    · exact hext i hi
    · exact Or.inl (hext' i hi)

section Plans

variable {s : World} (h : s.wallet.Aligned) (hlive : s.wallet.liveExecution) {symbol : Symbol}

theorem closePlan_flat (hflat : s.wallet.getOpenPosition symbol = none) :
    closePlan env symbol s = .ok none s := by
  unfold closePlan
  rw [bind_of_ok (show (get : Live World) s = .ok s s from rfl), hflat]
  rfl

theorem partialPlan_flat (hflat : s.wallet.getOpenPosition symbol = none) (pct : Decimal) :
    partialPlan env symbol pct s = .ok none s := by
  unfold partialPlan
  rw [bind_of_ok (show (get : Live World) s = .ok s s from rfl), hflat]
  rfl

variable {pos : EnhancedPosition} (hpos : s.wallet.getOpenPosition symbol = some pos)
include h hlive hpos

/-- The protective orders are gone and the position object is the wallet's. -/
theorem prepare_wp :
    wp (do cancelProtectiveOrders env pos; current pos)
      (fun pos' s' => s.Prepared symbol pos s' ∧ pos.Dressed pos' .none ∧
        s'.wallet.getOpenPosition symbol = some pos') (fun _ _ => False) s := by
  have hsymbol : pos.symbol = symbol :=
    ((h symbol).openAt pos (Wallet.getOpenPosition_eq_some.mp hpos).1).1
  rw [wp_bind]
  refine wp_mono (cancelProtectiveOrders_wp env h hlive hpos) ?_ (fun _ _ h => h)
  rintro - s' ⟨ext, w', rfl, hext, honly, pos', hpos', hbared⟩
  rw [wp_current, hsymbol]
  have hget : w'.positions.get? symbol = some pos' := (Wallet.getOpenPosition_eq_some.mp hpos').1
  rw [show ({ s.extend ext with wallet := w' } : World).wallet.positions.get? symbol = some pos'
    from hget]
  exact ⟨⟨honly, ⟨pos', hpos', hbared⟩, rfl, rfl, ext, rfl, fun i hi => Or.inr (hext i hi)⟩, hbared,
    hpos'⟩

/-- Phase 1 of `close_position`. -/
theorem closePlan_wp :
    wp (closePlan env symbol)
      (fun plan s' => s.Prepared symbol pos s' ∧ ∃ venueQty, plan =
        some ⟨pos.side.exitSide, pos.remainingQuantity, venueQty⟩)
      (fun _ _ => False) s := by
  have hprepare := prepare_wp env h hlive hpos
  rw [wp_bind] at hprepare
  unfold closePlan
  rw [wp_bind, wp_get, hpos, wp_bind]
  refine wp_mono hprepare ?_ (fun _ _ h => h)
  intro _ s₁ h₁
  rw [wp_current] at h₁
  rw [wp_bind, wp_current, wp_bind]
  obtain ⟨hprepared, hbared, hpos₁⟩ := h₁
  refine wp_mono (venuePositionQty_wp env symbol s₁) ?_ (fun _ _ h => h)
  rintro venueQty s₂ hreads
  refine ⟨hprepared.reads hreads, venueQty, ?_⟩
  rw [hbared.side, hbared.remainingQuantity]

/-- Phase 1 of `partial_close`. -/
theorem partialPlan_wp (pct : Decimal) :
    wp (partialPlan env symbol pct)
      (fun plan s' => s.Prepared symbol pos s' ∧ plan =
        some ⟨pos.side.exitSide, pos.remainingQuantity * pct, pos.protectiveOrders.any⟩)
      (fun _ _ => False) s := by
  have hprepare := prepare_wp env h hlive hpos
  rw [wp_bind] at hprepare
  unfold partialPlan
  rw [wp_bind, wp_get, hpos, wp_bind]
  refine wp_mono hprepare ?_ (fun _ _ h => h)
  intro _ s₁ h₁
  rw [wp_current] at h₁
  rw [wp_bind, wp_current]
  obtain ⟨hprepared, hbared, -⟩ := h₁
  refine ⟨hprepared, ?_⟩
  rw [hbared.side, hbared.remainingQuantity]

end Plans

end CryptoTrader
