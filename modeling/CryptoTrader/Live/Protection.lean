import CryptoTrader.Live.Phases

/-!
# Placing protective orders

`_place_protective_orders` is an attempt to place the orders, which never
raises, followed by the record of what was placed or, when a required stop
could not be placed, by HALT and the emergency exit.  The emergency exit runs
after HALT, so its own order is blocked.
-/

namespace CryptoTrader

open CryptoTrader.Lib

variable (env : Env)

/-! ## The attempt -/

/-- What came of placing protective orders: the ids to record, or the message
with which a required stop failed. -/
inductive StopAttempt where
  | placed (orders : ProtectiveOrders)
  | failed (msg : String)

def StopAttempt.isPlaced : StopAttempt → Bool
  | .placed _ => true
  | .failed _ => false

/-- The exchanges of `_place_position_tpsl`. -/
def attemptTpsl (pos : EnhancedPosition) : Live StopAttempt := do
  let s ← get
  let cfg := s.wallet.cfg
  match ← venuePositionId env pos.symbol with
  | none =>
      pure (if cfg.requireVenueSl then
        .failed "venue position id not found (cannot attach SL via create_tpsl)"
        else .placed .none)
  | some positionId => do
      let spec ← tryCatch (some <$> getSpec env pos.symbol) (fun _ => pure none)
      let request := tpslRequest pos positionId cfg.venueTpEnabled spec
      let reply ← attempt (do
        let resp ← createPositionTpsl env request
        ofReply (placedLegs request resp))
      pure (match reply with
        | .ok placed => .placed placed
        | .error e =>
            if cfg.requireVenueSl ∧ ¬ isReadonly e then .failed e.pyStr else .placed .none)

/-- The target of the legacy fallback, next to the stop. -/
def attemptTarget (pos : EnhancedPosition) (venueTpEnabled : Bool) (sl : Option String) :
    Live StopAttempt :=
  match pos.targetPrice venueTpEnabled with
  | none => pure (.placed ⟨sl, none⟩)
  | some price => do
      let tp ← tryCatch (placeSeparate env pos .takeProfit price) (fun _ => pure none)
      pure (.placed ⟨sl, tp⟩)

/-- The exchanges of the legacy fallback. -/
def attemptSeparate (pos : EnhancedPosition) : Live StopAttempt := do
  let s ← get
  let cfg := s.wallet.cfg
  match ← attempt (placeSeparate env pos .stopMarket pos.slPrice) with
  | .ok sl => attemptTarget env pos cfg.venueTpEnabled sl
  | .error e =>
      if cfg.requireVenueSl then pure (.failed e.pyStr)
      else attemptTarget env pos cfg.venueTpEnabled none

/-- The exchanges of `_place_protective_orders`. -/
def attemptProtective (pos : EnhancedPosition) : Live StopAttempt := do
  let s ← get
  if s.wallet.liveExecution ∧ s.wallet.cfg.venueSlEnabled then
    if env.tpslEndpoint then attemptTpsl env pos else attemptSeparate env pos
  else pure (.placed .none)

/-- What follows the attempt. -/
def concludeProtective (pos : EnhancedPosition) : StopAttempt → Live Unit
  | .placed orders => recordProtective pos orders
  | .failed msg => requiredStopFailed env pos msg

/-- The exception of a failed stop skips what is left. -/
theorem requiredStopFailed_bind {α β : Type} (pos : EnhancedPosition) (msg : String)
    (f : α → Live β) :
    requiredStopFailed env pos msg >>= f = requiredStopFailed env pos msg := by
  unfold requiredStopFailed
  simp only [bind_assoc]
  rfl

theorem requiredStopFailed_raises {α : Type} (pos : EnhancedPosition) (msg : String) (s : World) :
    wp (requiredStopFailed env pos msg : Live α) (fun _ _ => False)
      (fun e _ => ∃ text, e = .runtimeError text) s := by
  unfold requiredStopFailed tripHalt
  rw [wp_bind, wp_modify, wp_bind, wp_current, wp_bind, tryCatch_eq_attempt, wp_bind, wp_attempt]
  unfold wp
  split
  · exact ⟨_, rfl⟩
  · exact ⟨_, rfl⟩

/-- `_place_protective_orders` is the attempt and what follows it. -/
theorem placeProtectiveOrders_eq (pos : EnhancedPosition) :
    placeProtectiveOrders env pos = attemptProtective env pos >>= concludeProtective env pos := by
  unfold placeProtectiveOrders attemptProtective
  rw [bind_assoc]
  refine bind_congr (fun s => ?_)
  by_cases hon : s.wallet.liveExecution ∧ s.wallet.cfg.venueSlEnabled
  · rw [if_pos hon, if_pos hon]
    cases env.tpslEndpoint with
    | true =>
        show placePositionTpsl env pos = attemptTpsl env pos >>= _
        unfold placePositionTpsl attemptTpsl
        rw [bind_assoc]
        refine bind_congr (fun s => ?_)
        dsimp only
        rw [bind_assoc]
        refine bind_congr (fun positionId? => ?_)
        cases positionId? with
        | none =>
            dsimp only
            by_cases hreq : s.wallet.cfg.requireVenueSl
            · simp only [hreq, if_true]
              rfl
            · simp only [hreq]
              rfl
        | some positionId =>
            dsimp only
            rw [bind_assoc]
            refine bind_congr (fun spec => ?_)
            rw [tryCatch_eq_attempt, bind_assoc, bind_assoc]
            refine bind_congr (fun reply => ?_)
            cases reply with
            | ok placed => rfl
            | error e =>
                dsimp only
                by_cases hreq : s.wallet.cfg.requireVenueSl ∧ ¬ isReadonly e
                · rw [if_pos hreq, requiredStopFailed_bind]
                  simp only [if_pos hreq]
                  rfl
                · rw [if_neg hreq]
                  simp only [if_neg hreq]
                  rfl
    | false =>
        show placeSeparateOrders env pos = attemptSeparate env pos >>= _
        unfold placeSeparateOrders attemptSeparate
        rw [bind_assoc]
        refine bind_congr (fun s => ?_)
        dsimp only
        rw [tryCatch_eq_attempt, bind_assoc, bind_assoc]
        refine bind_congr (fun reply => ?_)
        cases reply with
        | ok sl =>
            dsimp only
            rw [pure_bind]
            unfold attemptTarget
            cases pos.targetPrice s.wallet.cfg.venueTpEnabled with
            | none => rfl
            | some price =>
                simp only [bind_assoc]
                rfl
        | error e =>
            dsimp only
            by_cases hreq : s.wallet.cfg.requireVenueSl
            · simp only [hreq, if_true]
              rw [requiredStopFailed_bind]
              rfl
            · simp only [hreq]
              simp only [Bool.false_eq_true, if_false, pure_bind]
              unfold attemptTarget
              cases pos.targetPrice s.wallet.cfg.venueTpEnabled with
              | none => rfl
              | some price =>
                simp only [bind_assoc]
                rfl
  · rw [if_neg hon, if_neg hon]
    rfl

/-! ## What the attempt adds to the record -/

/-- An exchange of placing protective orders for `pos`: a read, a leg of
`create_tpsl`, or a trigger order with the leverage of `pos`. -/
def Interaction.Protects (pos : EnhancedPosition) (held : Option Leverage) : Interaction → Prop
  | .createOrder body held' _ =>
      held' = held ∧ body.symbol = pos.symbol ∧ body.leverage = pos.leverage ∧
        body.orderType ≠ .market
  | .createTpsl request _ => request.symbol = pos.symbol
  | i => i.isRead

theorem Interaction.Protects.of_isRead {pos : EnhancedPosition} {held : Option Leverage}
    {i : Interaction} (h : i.isRead) : i.Protects pos held := by
  cases i with
  | createOrder _ _ _ => cases h
  | createTpsl _ _ => cases h
  | _ => exact h

/-- Only exchanges for protective orders of `pos` were added. -/
def World.Protecting (pos : EnhancedPosition) (s s' : World) : Prop :=
  ∃ ext, s' = s.extend ext ∧ ∀ i ∈ ext,
    i.Protects pos ((s.wallet.getOpenPosition pos.symbol).map EnhancedPosition.leverage)

theorem World.Protecting.refl (pos : EnhancedPosition) (s : World) : s.Protecting pos s :=
  ⟨[], by simp, by simp⟩

theorem World.Protecting.trans {pos : EnhancedPosition} {s₁ s₂ s₃ : World}
    (h : s₁.Protecting pos s₂) (h' : s₂.Protecting pos s₃) : s₁.Protecting pos s₃ := by
  obtain ⟨ext, rfl, hext⟩ := h
  obtain ⟨ext', rfl, hext'⟩ := h'
  refine ⟨ext ++ ext', by simp, ?_⟩
  intro i hi
  rcases List.mem_append.mp hi with hi | hi
  · exact hext i hi
  · exact hext' i hi

instance (pos : EnhancedPosition) : Std.Refl (World.Protecting pos) := ⟨World.Protecting.refl pos⟩

instance (pos : EnhancedPosition) : IsTrans World (World.Protecting pos) :=
  ⟨fun _ _ _ => World.Protecting.trans⟩

theorem World.Reads.protecting (pos : EnhancedPosition) {s s' : World} (h : s.Reads s') :
    s.Protecting pos s' := by
  obtain ⟨ext, rfl, hext⟩ := h
  exact ⟨ext, rfl, fun i hi => .of_isRead (hext i hi)⟩

/-- The position id is read without raising. -/
theorem venuePositionId_wp (symbol : Symbol) (s : World) :
    wp (venuePositionId env symbol) (fun _ s' => s.Reads s') (fun _ _ => False) s := by
  unfold venuePositionId
  rw [wp_tryCatch, wp_bind]
  exact wp_mono (getPositions_reads env s) (fun _ _ h => h) (fun _ _ h => h)

theorem createPositionTpsl_protecting (pos : EnhancedPosition) (request : TpslRequest)
    (hsymbol : request.symbol = pos.symbol) :
    Moves (World.Protecting pos) (createPositionTpsl env request) := by
  intro s
  unfold createPositionTpsl
  rw [wp_bind]
  refine wp_mono (assertLiveAllowed_wp env "TPSL" request.symbol.name s) ?_ ?_
  · rintro - s₁ ⟨rfl, -⟩
    rw [wp_bind]
    refine wp_mono (exchange_wp _ _ s₁) ?_ (fun _ _ h => h.elim)
    rintro outcome s₂ ⟨rfl, rfl⟩
    have hadds : s₁.Protecting pos (s₁.extend
        [.createTpsl request (env.venue.createTpsl s₁.trace request)]) := by
      refine ⟨_, rfl, ?_⟩
      intro i hi
      rw [List.mem_singleton.mp hi]
      exact hsymbol
    refine wp_mono (ofReply_wp _ _) ?_ ?_
    · rintro json s₃ ⟨-, rfl⟩
      exact hadds
    · rintro e s₃ ⟨-, rfl⟩
      exact hadds
  · rintro e s₁ ⟨rfl, -⟩
    exact .refl pos s₁

theorem placeSeparate_protecting (pos : EnhancedPosition) {orderType : OrderType}
    (htype : orderType ≠ .market) (trigger : Decimal) :
    Moves (World.Protecting pos) (placeSeparate env pos orderType trigger) := by
  intro s
  unfold placeSeparate
  set r : PlaceOrder :=
    { symbol := pos.symbol
      side := pos.side.exitSide
      quantity := pos.remainingQuantity
      orderType := orderType
      triggerPrice := some trigger
      leverage := some pos.leverage } with hr
  have hadds : ∀ ext, r.Adds env s ext → s.Protecting pos (s.extend ext) := by
    intro ext hadds
    refine ⟨ext, rfl, ?_⟩
    intro i hi
    cases i with
    | createOrder body held outcome =>
        have hmem : (⟨body, held, outcome⟩ : Created) ∈ created ext :=
          List.mem_filterMap.mpr ⟨_, hi, rfl⟩
        rcases hadds.creates with hnil | ⟨outcome', hone⟩
        · rw [hnil] at hmem
          cases hmem
        · rw [hone, List.mem_singleton] at hmem
          cases hmem
          exact ⟨rfl, rfl, rfl, htype⟩
    | createTpsl _ _ =>
        rcases hadds.kinds _ hi with hread | hread
        · cases hread
        · cases hread
    | _ =>
        rcases hadds.kinds _ hi with hread | hread
        · exact hread
        · cases hread
  rw [wp_bind]
  refine wp_mono (placeOrder_wp env r s) ?_ ?_
  · rintro order s' ⟨ext, outcome, rfl, hext, -⟩
    exact hadds ext hext
  · rintro e s' ⟨ext, rfl, hext⟩
    exact hadds ext hext

/-- The spec is read without raising, and is the instrument's. -/
theorem specOrNone_wp (symbol : Symbol) (s : World) :
    wp (tryCatch (some <$> getSpec env symbol) (fun _ => pure none))
      (fun spec s' => s.Reads s' ∧ ∀ i, spec = some i → i = env.venue.instrument symbol)
      (fun _ _ => False) s := by
  rw [wp_tryCatch, wp_map]
  refine wp_mono (getSpec_wp env symbol s) ?_ ?_
  · rintro spec s' ⟨rfl, hreads⟩
    exact ⟨hreads, fun i hi => (Option.some.inj hi).symm⟩
  · intro e s' hreads
    exact ⟨hreads, fun i hi => by cases hi⟩

theorem attemptProtective_wp (pos : EnhancedPosition) (s : World) :
    wp (attemptProtective env pos) (fun _ s' => s.Protecting pos s') (fun _ _ => False) s := by
  unfold attemptProtective
  rw [wp_bind, wp_get, wp_ite]
  refine ⟨fun _ => ?_, fun _ => .refl pos s⟩
  rw [wp_ite]
  constructor
  · intro _
    unfold attemptTpsl
    rw [wp_bind, wp_get, wp_bind]
    refine wp_mono (venuePositionId_wp env pos.symbol s) ?_ (fun _ _ h => h)
    intro positionId? s₁ h₁
    cases positionId? with
    | none => exact h₁.protecting pos
    | some positionId =>
        dsimp only
        rw [wp_bind]
        refine wp_mono (specOrNone_wp env pos.symbol s₁) ?_ (fun _ _ h => h)
        rintro spec s₂ ⟨h₂, -⟩
        rw [wp_bind, wp_attempt]
        set request := tpslRequest pos positionId s.wallet.cfg.venueTpEnabled spec
        have hmoves := (createPositionTpsl_protecting env pos request rfl).bind
          (fun resp => (ofReply_reads (placedLegs request resp)).mono
            (fun _ _ h => h.protecting pos))
        have h₁₂ := (h₁.trans h₂).protecting pos
        refine wp_mono (hmoves s₂) (fun _ _ h => h₁₂.trans h) (fun _ _ h => h₁₂.trans h)
  · intro _
    have htarget : ∀ sl s₁, s.Protecting pos s₁ →
        wp (attemptTarget env pos s.wallet.cfg.venueTpEnabled sl)
          (fun _ s' => s.Protecting pos s') (fun _ _ => False) s₁ := by
      intro sl s₁ h₁
      unfold attemptTarget
      cases pos.targetPrice s.wallet.cfg.venueTpEnabled with
      | none => exact h₁
      | some price =>
          dsimp only
          rw [wp_bind, wp_tryCatch]
          exact wp_mono (placeSeparate_protecting env pos (by decide) price s₁)
            (fun _ _ h => h₁.trans h) (fun _ _ h => h₁.trans h)
    unfold attemptSeparate
    rw [wp_bind, wp_get, wp_bind, wp_attempt]
    refine wp_mono (placeSeparate_protecting env pos (by decide) pos.slPrice s) ?_ ?_
    · intro sl s₁ h₁
      exact htarget sl s₁ h₁
    · intro e s₁ h₁
      dsimp only
      rw [wp_ite]
      exact ⟨fun _ => h₁, fun _ => htarget none s₁ h₁⟩

/-! ## What follows it -/

/-- The venue, asked for its positions, reports the symbol flat. -/
def FlatReported (symbol : Symbol) (s : World) : Prop :=
  ∃ qty s', venuePositionQty env symbol s = .ok (some qty) s' ∧ qty ≤ 0

/-- A position without protective orders needs no cancelling. -/
theorem closePlan_bare {symbol : Symbol} {s : World} {pos : EnhancedPosition}
    (hpos : s.wallet.getOpenPosition symbol = some pos) (hsymbol : pos.symbol = symbol)
    (hbare : pos.protectiveOrders = .none) :
    closePlan env symbol s = (do
      let venueQty ← venuePositionQty env symbol
      pure (some (⟨pos.side.exitSide, pos.remainingQuantity, venueQty⟩ : ClosePlan))) s := by
  have hget : s.wallet.positions.get? pos.symbol = some pos := by
    rw [hsymbol]
    exact (Wallet.getOpenPosition_eq_some.mp hpos).1
  have hcancel : cancelProtectiveOrders env pos s = .ok () s := by
    have hguard : ¬ (s.wallet.liveExecution ∧ pos.protectiveOrders.any) := by
      rw [hbare]
      exact fun h => absurd h.2 (by decide)
    unfold cancelProtectiveOrders
    rw [bind_of_ok (show (get : Live World) s = .ok s s from rfl), if_neg hguard]
    rfl
  have hcurrent : current pos s = .ok pos s := by
    show EStateM.Result.ok _ s = _
    rw [hget]
    rfl
  unfold closePlan
  rw [bind_of_ok (show (get : Live World) s = .ok s s from rfl), hpos]
  dsimp only
  rw [bind_of_ok hcancel, bind_of_ok hcurrent]

/-- After HALT the gate is closed. -/
theorem Env.blockReasons_ne_nil_of_halt : env.blockReasons true ≠ [] := by
  unfold Env.blockReasons
  simp

/-- After HALT no order goes out. -/
theorem venueOrder_halted (symbol : Symbol) (side : PositionSide) (quantity : Decimal) {s : World}
    (hhalt : s.halt = true) :
    wp (venueOrder env symbol side quantity) (fun _ _ => False) (fun _ s' => s' = s.ticked) s := by
  unfold venueOrder
  rw [wp_bind, wp_modifyWallet, wp_bind, wp_get]
  unfold placeOrder
  rw [wp_bind]
  refine wp_mono (assertLiveAllowed_wp env "PLACE" symbol.name s.ticked) ?_ (fun _ _ h => h.1)
  rintro - s' ⟨rfl, hopen⟩
  rw [show s.ticked.halt = true from hhalt] at hopen
  exact absurd hopen (Env.blockReasons_ne_nil_of_halt env)

/-- How a failed required stop ends: HALT is set, and the position is closed in
the wallet if the venue reports the symbol flat, and kept otherwise. -/
structure World.StopLost (symbol : Symbol) (s s' : World) : Prop where
  halt : s'.halt = true
  wallet : Wallet.OnlyAt symbol s.wallet s'.wallet
  engineLeverage : s'.engineLeverage = s.engineLeverage
  trace : ∃ ext, s'.trace = s.trace ++ ext ∧ ∀ i ∈ ext, i.isRead
  closed : FlatReported env symbol { s with halt := true } →
    s'.wallet.getOpenPosition symbol = none
  kept : ¬ FlatReported env symbol { s with halt := true } →
    s'.wallet.getOpenPosition symbol = s.wallet.getOpenPosition symbol

/-- The ids that an event records. -/
def ProtectiveOrders.named (p : ProtectiveOrders) : ProtectiveOrders :=
  ⟨p.sl.filter (· ≠ ""), p.tp.filter (· ≠ "")⟩

theorem recordProtective_wp {s : World} (haligned : s.wallet.Aligned) {symbol : Symbol}
    {pos : EnhancedPosition} (hpos : s.wallet.getOpenPosition symbol = some pos)
    (hbare : pos.protectiveOrders = .none) {pos₀ : EnhancedPosition} (hsymbol : pos₀.symbol = symbol)
    (placed : ProtectiveOrders) :
    wp (recordProtective pos₀ placed)
      (fun _ s' => ∃ w', s' = { s with wallet := w' } ∧ Wallet.OnlyAt symbol s.wallet w' ∧
        ∃ pos', w'.getOpenPosition symbol = some pos' ∧ pos.Dressed pos' placed.named)
      (fun _ _ => False) s := by
  unfold recordProtective
  rw [wp_ite]
  constructor
  · intro _
    rw [wp_modifyWallet, hsymbol]
    obtain ⟨honly, data, pos', hfollows, hpos', hdressed⟩ := Wallet.dress_spec haligned hpos
      (fun pos => { sl := placed.sl.or pos.protectiveOrders.sl
                    tp := placed.tp.or pos.protectiveOrders.tp })
      (.protectiveOrdersPlaced symbol placed) rfl
      (fun data => ((data.placeProtective placed).protectiveOrders).getD .none) (fun _ => rfl)
    have hnone : data.protectiveOrders.getD .none = .none := by
      cases hdata : data.protectiveOrders with
      | none => rfl
      | some p => exact (hfollows.protectiveOrders p hdata).symm.trans hbare
    refine ⟨_, rfl, honly, pos', hpos', ?_⟩
    have hnamed : ((data.placeProtective placed).protectiveOrders).getD .none = placed.named := by
      unfold PositionData.placeProtective ProtectiveOrders.named
      rw [Option.getD_some, hnone]
      simp [ProtectiveOrders.none]
    rwa [hnamed] at hdressed
  · intro hany
    refine ⟨s.wallet, rfl, .refl haligned, pos, hpos, ?_⟩
    rw [ProtectiveOrders.eq_none_of_any hany]
    exact ⟨rfl, rfl, rfl, rfl, rfl, rfl, hbare⟩

section Failed

variable {s : World} (haligned : s.wallet.Aligned) (hlive : s.wallet.liveExecution)
  {symbol : Symbol} {pos : EnhancedPosition}
  (hpos : s.wallet.getOpenPosition symbol = some pos) (hbare : pos.protectiveOrders = .none)
include haligned hlive hpos hbare

/-- The emergency exit after HALT. -/
theorem closePosition_halted (hhalt : s.halt = true) (markPrice : Decimal) (reason : String) :
    let ended (s' : World) : Prop :=
      s'.halt = true ∧ Wallet.OnlyAt symbol s.wallet s'.wallet ∧
      s'.engineLeverage = s.engineLeverage ∧
      (∃ ext, s'.trace = s.trace ++ ext ∧ ∀ i ∈ ext, i.isRead) ∧
      (FlatReported env symbol s → s'.wallet.getOpenPosition symbol = none) ∧
      (¬ FlatReported env symbol s →
        s'.wallet.getOpenPosition symbol = s.wallet.getOpenPosition symbol)
    wp (closePosition env .none symbol markPrice reason none) (fun _ s' => ended s')
      (fun _ s' => ended s') s := by
  intro ended
  have hsymbol : pos.symbol = symbol :=
    ((haligned symbol).openAt pos (Wallet.getOpenPosition_eq_some.mp hpos).1).1
  unfold closePosition
  rw [wp_bind, wp_get, wp_ite]
  refine ⟨fun _ => ?_, fun h => absurd ⟨rfl, hlive⟩ h⟩
  obtain ⟨venueQty, s₁, hread, ext, rfl, hext⟩ : ∃ venueQty s₁,
      venuePositionQty env symbol s = .ok venueQty s₁ ∧ s.Reads s₁ := by
    have hwp := venuePositionQty_wp env symbol s
    unfold wp at hwp
    cases hrun : venuePositionQty env symbol s with
    | ok venueQty s₁ =>
        rw [hrun] at hwp
        exact ⟨venueQty, s₁, rfl, hwp⟩
    | error e s₁ =>
        rw [hrun] at hwp
        exact hwp.elim
  have hplan : closePlan env symbol s =
      .ok (some ⟨pos.side.exitSide, pos.remainingQuantity, venueQty⟩) (s.extend ext) := by
    rw [closePlan_bare env hpos hsymbol hbare, bind_of_ok hread]
    rfl
  have hflat : FlatReported env symbol s ↔ ∃ qty, venueQty = some qty ∧ qty ≤ 0 := by
    constructor
    · rintro ⟨qty, s', hread', hle⟩
      rw [hread] at hread'
      cases hread'
      exact ⟨qty, rfl, hle⟩
    · rintro ⟨qty, rfl, hle⟩
      exact ⟨qty, _, hread, hle⟩
  rw [wp_bind]
  unfold wp
  rw [hplan]
  show wp _ _ _ (s.extend ext)
  dsimp only
  rw [wp_bind, wp_modify]
  show wp _ _ _ (s.extend ext)
  rw [wp_bind]
  cases horder : ClosePlan.order ⟨pos.side.exitSide, pos.remainingQuantity, venueQty⟩ with
  | none =>
      -- the venue is flat: the wallet closes on its own
      have hzero : ∃ qty, venueQty = some qty ∧ qty ≤ 0 := by
        unfold ClosePlan.order at horder
        cases venueQty with
        | none => cases horder
        | some qty =>
            by_cases hle : qty ≤ 0
            · exact ⟨qty, rfl, hle⟩
            · simp only [if_neg hle] at horder
              cases horder
      obtain ⟨honly, hclosed, -⟩ :=
        Wallet.bookClose_spec symbol markPrice reason none haligned hpos
      exact ⟨hhalt, honly, rfl, ⟨ext, rfl, hext⟩, fun _ => hclosed,
        fun h => absurd (hflat.mpr hzero) h⟩
  | some qty =>
      have hheld : ¬ ∃ qty, venueQty = some qty ∧ qty ≤ 0 := by
        rintro ⟨qty', rfl, hle⟩
        unfold ClosePlan.order at horder
        simp only [if_pos hle] at horder
        cases horder
      unfold exitFill
      dsimp only
      unfold venueFill
      rw [wp_bind, wp_bind]
      refine wp_mono (venueOrder_halted env symbol _ qty (s := s.extend ext) hhalt)
        (fun _ _ h => h.elim) ?_
      rintro e s' rfl
      exact ⟨hhalt, (Wallet.OnlyAt.refl haligned).tick, rfl, ⟨ext, rfl, hext⟩,
        fun h => absurd (hflat.mp h) hheld, fun _ => rfl⟩

theorem requiredStopFailed_wp {α : Type} (hsymbol : pos.symbol = symbol)
    (pos₀ : EnhancedPosition) (hsymbol₀ : pos₀.symbol = symbol) (msg : String) :
    wp (requiredStopFailed env pos₀ msg : Live α) (fun _ _ => False)
      (fun _ s' => s.StopLost env symbol s') s := by
  unfold requiredStopFailed tripHalt
  rw [wp_bind, wp_modify, wp_bind, wp_current, wp_bind, wp_tryCatch]
  have hcurrent : ({ s with halt := true } : World).wallet.positions.get? pos₀.symbol = some pos := by
    rw [hsymbol₀]
    exact (Wallet.getOpenPosition_eq_some.mp hpos).1
  rw [hcurrent]
  have hclose := closePosition_halted env (s := { s with halt := true }) haligned hlive hpos hbare rfl
    pos.emergencyPrice "REQUIRED_SL_FAILED"
  dsimp only at hclose
  rw [Option.getD_some, hsymbol]
  refine wp_mono hclose ?_ ?_
  · rintro - s' ⟨hhalt, honly, hlev, htrace, hclosed, hkept⟩
    exact ⟨hhalt, honly, hlev, htrace, hclosed, hkept⟩
  · rintro - s' ⟨hhalt, honly, hlev, htrace, hclosed, hkept⟩
    exact ⟨hhalt, honly, hlev, htrace, hclosed, hkept⟩

end Failed

/-- A stop can only fail in live mode. -/
theorem attemptProtective_failed {pos : EnhancedPosition} {s s₁ : World} {msg : String}
    (h : attemptProtective env pos s = .ok (.failed msg) s₁) : s.wallet.liveExecution := by
  unfold attemptProtective at h
  rw [bind_of_ok (show (get : Live World) s = .ok s s from rfl)] at h
  by_cases hon : s.wallet.liveExecution ∧ s.wallet.cfg.venueSlEnabled
  · exact hon.1
  · rw [if_neg hon] at h
    cases h

/-- How `_place_protective_orders` ends for an open position without protective
orders: it records what the attempt placed, or raises after HALT. -/
inductive World.Guarded (symbol : Symbol) (pos : EnhancedPosition) (s s' : World) : Prop
  | placed (orders : ProtectiveOrders) (s₁ : World)
      (attempt : attemptProtective env pos s = .ok (.placed orders) s₁)
      (protecting : s.Protecting pos s₁) (halt : s'.halt = s.halt)
      (engineLeverage : s'.engineLeverage = s.engineLeverage) (trace : s'.trace = s₁.trace)
      (wallet : Wallet.OnlyAt symbol s.wallet s'.wallet)
      (position : ∃ pos', s'.wallet.getOpenPosition symbol = some pos' ∧
        pos.Dressed pos' orders.named)
  | failed (msg : String) (s₁ : World)
      (attempt : attemptProtective env pos s = .ok (.failed msg) s₁)
      (protecting : s.Protecting pos s₁) (lost : s₁.StopLost env symbol s')

section Place

variable {s : World} (haligned : s.wallet.Aligned) {symbol : Symbol} {pos : EnhancedPosition}
  (hpos : s.wallet.getOpenPosition symbol = some pos) (hbare : pos.protectiveOrders = .none)
include haligned hpos hbare

theorem placeProtectiveOrders_wp :
    wp (placeProtectiveOrders env pos) (fun _ s' => s.Guarded env symbol pos s')
      (fun _ s' => s.Guarded env symbol pos s') s := by
  have hsymbol : pos.symbol = symbol :=
    ((haligned symbol).openAt pos (Wallet.getOpenPosition_eq_some.mp hpos).1).1
  rw [placeProtectiveOrders_eq, wp_bind]
  have hattempt := attemptProtective_wp env pos s
  unfold wp at hattempt ⊢
  cases hrun : attemptProtective env pos s with
  | error e s₁ =>
      rw [hrun] at hattempt
      exact hattempt.elim
  | ok result s₁ =>
      rw [hrun] at hattempt
      obtain ⟨ext, rfl, hext⟩ := hattempt
      cases result with
      | placed placed =>
          show wp (recordProtective pos placed) _ _ (s.extend ext)
          refine wp_mono (recordProtective_wp (s := s.extend ext) haligned hpos hbare hsymbol placed)
            ?_ (fun _ _ h => h.elim)
          rintro - s' ⟨w', rfl, honly, hdressed⟩
          exact .placed placed _ hrun ⟨ext, rfl, hext⟩ rfl rfl rfl honly hdressed
      | failed msg =>
          have hlive : s.wallet.liveExecution := attemptProtective_failed env hrun
          show wp (requiredStopFailed env pos msg) _ _ (s.extend ext)
          refine wp_mono (requiredStopFailed_wp env (s := s.extend ext) haligned hlive hpos hbare
            hsymbol pos hsymbol msg) (fun _ _ h => h.elim) ?_
          intro e s' hlost
          exact .failed msg _ hrun ⟨ext, rfl, hext⟩ hlost

/-- The end of an opening and of an adoption. -/
theorem placeAndSave_wp :
    wp (do
        placeProtectiveOrders env pos
        modifyWallet Wallet.save
        let pos ← current pos
        pure (some pos))
      (fun _ s' => s.Guarded env symbol pos s') (fun _ s' => s.Guarded env symbol pos s') s := by
  rw [wp_bind]
  refine wp_mono (placeProtectiveOrders_wp env haligned hpos hbare) ?_ (fun _ _ h => h)
  intro _ s' hguarded
  rw [wp_bind, wp_modifyWallet, wp_bind, wp_current]
  cases hguarded with
  | placed orders s₁ hattempt hprotecting hhalt hlev htrace hwallet hposition =>
      exact .placed orders s₁ hattempt hprotecting hhalt hlev htrace hwallet.save hposition
  | failed msg s₁ hattempt hprotecting hlost =>
      exact .failed msg s₁ hattempt hprotecting
        ⟨hlost.halt, hlost.wallet.save, hlost.engineLeverage, hlost.trace, hlost.closed, hlost.kept⟩

end Place

end CryptoTrader
