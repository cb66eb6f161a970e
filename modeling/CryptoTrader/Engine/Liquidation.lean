import CryptoTrader.Engine.Entry
import CryptoTrader.Live.Equity
import Mathlib.Tactic.FieldSimp

/-!
# The stop comes before the liquidation

The liquidation gate of an entry and the liquidation check of the wallet agree
on the closed form: margin and maintenance are both taken at the mark, so a
long is liquidated below `entry / (1 + 1/lev - mmr)` and a short above
`entry / (1 - 1/lev + mmr)`.  They need not agree on the leverage.
-/

namespace CryptoTrader

open CryptoTrader.Lib

/-! ## The closed form -/

/-- What the entry price is divided with. -/
def PositionSide.liquidationFactor (side : PositionSide) (leverage : Leverage)
    (maintenanceMarginRatio : Decimal) : Decimal :=
  match side with
  | .long => 1 + 1 / (leverage : ℕ) - maintenanceMarginRatio
  | .short => 1 - 1 / (leverage : ℕ) + maintenanceMarginRatio

/-- The mark is past a liquidation price. -/
def PositionSide.past (side : PositionSide) (liquidationPrice markPrice : Decimal) : Prop :=
  match side with
  | .long => markPrice < liquidationPrice
  | .short => liquidationPrice < markPrice

section ClosedForm

variable {mmr : Decimal} (hmmr : 0 < mmr ∧ mmr < 1)

theorem Leverage.inv_pos (leverage : Leverage) : (0 : Decimal) < 1 / (leverage : ℕ) := by
  have hpos : (0 : Decimal) < (leverage : ℕ) := by exact_mod_cast leverage.pos
  exact one_div_pos.mpr hpos

theorem Leverage.inv_le_one (leverage : Leverage) : 1 / ((leverage : ℕ) : Decimal) ≤ 1 := by
  have hone : (1 : Decimal) ≤ (leverage : ℕ) := by exact_mod_cast Nat.succ_le_of_lt leverage.pos
  exact (div_le_one (by linarith)).mpr hone

include hmmr in
theorem PositionSide.liquidationFactor_pos (side : PositionSide) (leverage : Leverage) :
    0 < side.liquidationFactor leverage mmr := by
  have hpos := leverage.inv_pos
  have hle := leverage.inv_le_one
  cases side with
  | long =>
      show 0 < 1 + 1 / ((leverage : ℕ) : Decimal) - mmr
      linarith [hmmr.2]
  | short =>
      show 0 < 1 - 1 / ((leverage : ℕ) : Decimal) + mmr
      linarith [hmmr.1]

theorem gateLiquidationPrice_eq (side : PositionSide) (entryPrice : Decimal)
    (leverage : Leverage) (mmr : Decimal) :
    gateLiquidationPrice side entryPrice leverage mmr =
      entryPrice / side.liquidationFactor leverage mmr := by
  cases side with
  | long => rfl
  | short => rfl

/-- The price of the wallet is the one the gate computes at the leverage of the
position. -/
theorem Wallet.liquidationPrice_eq {w : Wallet} {pos : EnhancedPosition}
    (hmmr : 0 < w.maintenanceMarginRatio ∧ w.maintenanceMarginRatio < 1)
    (hentry : 0 < pos.entryPrice) :
    w.liquidationPrice pos =
      gateLiquidationPrice pos.side pos.entryPrice pos.leverage w.maintenanceMarginRatio := by
  have hfactor := pos.side.liquidationFactor_pos hmmr pos.leverage
  rw [gateLiquidationPrice_eq]
  unfold Wallet.liquidationPrice
  rw [if_neg (not_le.mpr hentry)]
  revert hfactor
  cases pos.side with
  | long =>
      intro hfactor
      exact if_neg (not_le.mpr hfactor)
  | short =>
      intro hfactor
      exact if_neg (not_le.mpr hfactor)

/-- At a given entry another leverage has another liquidation price. -/
theorem gateLiquidationPrice_inj {side : PositionSide} {entryPrice : Decimal}
    {leverage leverage' : Leverage} (hmmr : 0 < mmr ∧ mmr < 1) (hentry : 0 < entryPrice) :
    gateLiquidationPrice side entryPrice leverage mmr =
      gateLiquidationPrice side entryPrice leverage' mmr ↔ leverage = leverage' := by
  refine ⟨fun heq => ?_, fun heq => by rw [heq]⟩
  have hfactor := side.liquidationFactor_pos hmmr leverage
  have hfactor' := side.liquidationFactor_pos hmmr leverage'
  rw [gateLiquidationPrice_eq, gateLiquidationPrice_eq,
    div_eq_div_iff hfactor.ne' hfactor'.ne', mul_right_inj' hentry.ne'] at heq
  have hinv : 1 / ((leverage : ℕ) : Decimal) = 1 / ((leverage' : ℕ) : Decimal) := by
    cases side with
    | long =>
        simp only [PositionSide.liquidationFactor] at heq
        linarith
    | short =>
        simp only [PositionSide.liquidationFactor] at heq
        linarith
  rw [one_div, one_div, inv_inj] at hinv
  exact PNat.coe_injective (by exact_mod_cast hinv)

/-- The liquidation check compares the mark with the closed form. -/
theorem Wallet.isLiquidationRequired_iff {w : Wallet} {pos : EnhancedPosition}
    {markPrice : Decimal}
    (hmmr : 0 < w.maintenanceMarginRatio ∧ w.maintenanceMarginRatio < 1)
    (hopen : pos.status = .opened) (hqty : 0 < pos.remainingQuantity) (hmark : 0 < markPrice) :
    w.isLiquidationRequired pos markPrice ↔
      pos.side.past (gateLiquidationPrice pos.side pos.entryPrice pos.leverage
        w.maintenanceMarginRatio) markPrice := by
  have hfactor := pos.side.liquidationFactor_pos hmmr pos.leverage
  have hguard : ¬ (pos.status ≠ .opened ∨ markPrice ≤ 0) := by
    rintro (h | h)
    · exact h hopen
    · exact absurd hmark (not_lt.mpr h)
  rw [gateLiquidationPrice_eq]
  unfold Wallet.isLiquidationRequired EnhancedPosition.updatePnl
  rw [if_neg hguard, decide_eq_true_eq]
  dsimp only
  -- equity and maintenance are both the quantity times something
  have hscale : pos.remainingQuantity * markPrice / ((pos.leverage : ℕ) : Decimal) +
        pos.side.gain pos.entryPrice markPrice * pos.remainingQuantity <
          pos.remainingQuantity * markPrice * w.maintenanceMarginRatio ↔
      markPrice * (1 / ((pos.leverage : ℕ) : Decimal)) + pos.side.gain pos.entryPrice markPrice <
        markPrice * w.maintenanceMarginRatio := by
    have hequity : pos.remainingQuantity * markPrice / ((pos.leverage : ℕ) : Decimal) +
        pos.side.gain pos.entryPrice markPrice * pos.remainingQuantity =
          pos.remainingQuantity * (markPrice * (1 / ((pos.leverage : ℕ) : Decimal)) +
            pos.side.gain pos.entryPrice markPrice) := by ring
    rw [hequity, mul_assoc, mul_lt_mul_iff_right₀ hqty]
  rw [hscale]
  revert hfactor
  cases pos.side with
  | long =>
      intro hfactor
      simp only [PositionSide.past, PositionSide.gain]
      rw [lt_div_iff₀ hfactor]
      simp only [PositionSide.liquidationFactor]
      constructor
      · intro h
        linarith
      · intro h
        linarith
  | short =>
      intro hfactor
      simp only [PositionSide.past, PositionSide.gain]
      rw [div_lt_iff₀ hfactor]
      simp only [PositionSide.liquidationFactor]
      constructor
      · intro h
        linarith
      · intro h
        linarith

end ClosedForm

/-! ## What an entry leaves in the wallet -/

/-- The wallet is aligned and has the settings of `w`. -/
structure Wallet.SettledAs (w w' : Wallet) : Prop where
  aligned : w'.Aligned
  settings : w.SameSettings w'

theorem Wallet.SettledAs.stable (w : Wallet) (symbol : Symbol) :
    Wallet.Stable symbol w.SettledAs :=
  .of_keepsWorth (fun _ h => h.aligned)
    (fun _ _ h hkeeps => ⟨hkeeps.aligned, h.settings.trans hkeeps.settings⟩)

/-- An open position for a setup, at the leverage the wallet has for the symbol. -/
structure EnhancedPosition.EnteredAs (pos : EnhancedPosition) (w : Wallet) (symbol : Symbol)
    (setup : Setup) : Prop where
  side : pos.side = setup.side
  slPrice : pos.slPrice = setup.slPrice
  leverage : pos.leverage = w.getLeverage symbol
  remainingQuantity : 0 < pos.remainingQuantity

theorem EnhancedPosition.EnteredAs.dressed {pos pos' : EnhancedPosition} {w : Wallet}
    {symbol : Symbol} {setup : Setup} {orders : ProtectiveOrders}
    (h : pos.EnteredAs w symbol setup) (hdressed : pos.Dressed pos' orders) :
    pos'.EnteredAs w symbol setup :=
  ⟨hdressed.side.trans h.side, hdressed.slPrice.trans h.slPrice,
    hdressed.leverage.trans h.leverage, by rw [hdressed.remainingQuantity]; exact h.remainingQuantity⟩

/-- A quantity that is asked for is the one that is booked. -/
theorem Wallet.sizeOpen_asked {w : Wallet} {symbol : Symbol} {setup : Setup}
    {customMargin liveQty : Option Decimal} {qty : Decimal} {size : Sizing} (hqty : 0 < qty)
    (hlive : liveQty = none ∨ liveQty = some qty)
    (h : w.sizeOpen symbol setup customMargin (some qty) liveQty = .ok (some size)) :
    size.quantity = qty := by
  have hasked : (some qty).filter (fun q => decide (0 < q)) = some qty := by
    simp [Option.filter, hqty]
  unfold Wallet.sizeOpen at h
  rw [hasked] at h
  rcases hlive with rfl | rfl
  all_goals
    dsimp only at h
    split_ifs at h
    all_goals cases h
    rfl

variable (env : Env)

section Entered

variable {w : Wallet} {symbol : Symbol} {setup : Setup} {s : World}

/-- A position that is in the wallet as an entry left it. -/
structure World.Entered (s : World) (w : Wallet) (symbol : Symbol) (setup : Setup)
    (pos : EnhancedPosition) : Prop where
  settled : w.SettledAs s.wallet
  position : s.wallet.getOpenPosition symbol = some pos
  entered : pos.EnteredAs w symbol setup

theorem onWallet_bookOpen_entered (h : w.SettledAs s.wallet) {qty : Decimal} (hqty : 0 < qty)
    (markPrice : Decimal) (customMargin : Option Decimal) (fill : Option ExternalFill)
    {liveQty : Option Decimal} (hlive : liveQty = none ∨ liveQty = some qty) :
    wp (onWallet (fun w =>
        w.bookOpen symbol setup markPrice customMargin (some qty) fill liveQty) >>= ofReply)
      (fun pos? s' => ∀ pos, pos? = some pos →
        s'.Entered w symbol setup pos ∧ pos.protectiveOrders = .none)
      (fun _ _ => True) s := by
  have hannounced := Wallet.bookOpen_announced h.aligned symbol setup markPrice customMargin
    (some qty) fill liveQty
  rw [wp_bind, wp_onWallet]
  revert hannounced
  generalize s.wallet.bookOpen symbol setup markPrice customMargin (some qty) fill liveQty = booked
  obtain ⟨result, w'⟩ := booked
  rintro ⟨hbooked, -⟩
  refine wp_mono (ofReply_wp _ _) ?_ (fun _ _ _ => trivial)
  rintro pos? s' ⟨hresult, rfl⟩ pos rfl
  obtain ⟨hnew, hpos, size, price, hsize, hbooks⟩ := hbooked pos hresult
  have hasked := Wallet.sizeOpen_asked hqty hlive hsize
  exact ⟨⟨⟨hnew.aligned, h.settings.trans hnew.settings⟩, hpos, hbooks.side, hbooks.slPrice,
    hbooks.leverage.trans (h.settings.getLeverage symbol),
    by rw [hbooks.remainingQuantity, hasked]; exact hqty⟩, hbooks.protectiveOrders⟩

theorem bookEntry_entered (h : w.SettledAs s.wallet) {qty : Decimal} (hqty : 0 < qty)
    (markPrice : Decimal) (customMargin : Option Decimal) (fill : Option ExternalFill) :
    wp (bookEntry env symbol setup markPrice customMargin (some qty) fill)
      (fun pos? s' => ∀ pos, pos? = some pos →
        s'.Entered w symbol setup pos ∧ pos.protectiveOrders = .none)
      (fun _ _ => True) s := by
  have hasked : (some qty).filter (fun q => decide (0 < q)) = some qty := by
    simp [Option.filter, hqty]
  unfold bookEntry
  rw [wp_bind, wp_get, wp_ite]
  constructor
  · intro _
    rw [wp_bind]
    refine wp_mono (ofReply_wp _ _) ?_ (fun _ _ _ => trivial)
    rintro qty? s₁ ⟨hplan, rfl⟩
    unfold Wallet.openPlan at hplan
    rw [hasked] at hplan
    cases qty? with
    | none =>
        intro pos hpos
        cases hpos
    | some qty' =>
        dsimp only at hplan ⊢
        obtain rfl : qty = qty' := by
          split_ifs at hplan
          all_goals cases hplan
          rfl
        rw [wp_bind]
        refine wp_mono (venueFill_wallet env symbol setup.side qty "entry" s₁) ?_
          (fun _ _ _ => trivial)
        intro fill s₂ hs₂
        refine onWallet_bookOpen_entered ?_ hqty markPrice customMargin (some fill) (Or.inr rfl)
        rw [hs₂]
        exact (Wallet.SettledAs.stable w symbol).tick _ h
  · intro _
    exact onWallet_bookOpen_entered h hqty markPrice customMargin fill (Or.inl rfl)

theorem protectEntry_entered {pos : EnhancedPosition} (h : s.Entered w symbol setup pos)
    (hbare : pos.protectiveOrders = .none) :
    wp (protectEntry env (some pos))
      (fun pos? s' => ∃ pos', pos? = some pos' ∧ s'.Entered w symbol setup pos' ∧
        pos'.entryPrice = pos.entryPrice)
      (fun _ _ => True) s := by
  have hstable := Wallet.SettledAs.stable w symbol
  have hsymbol := hstable.symbol_eq h.settled h.position
  unfold protectEntry
  rw [wp_bind, placeProtectiveOrders_eq, wp_bind]
  refine wp_mono (attemptProtective_wp env pos s) ?_ (fun _ _ _ => trivial)
  rintro result s₁ ⟨ext, rfl, -⟩
  cases result with
  | failed msg =>
      exact wp_mono (requiredStopFailed_raises env pos msg _) (fun _ _ h => h.elim)
        (fun _ _ _ => trivial)
  | placed orders =>
      have hrecorded := recordProtective_wp (s := s.extend ext) h.settled.aligned h.position hbare
        hsymbol orders
      have hkeeps := World.wp_of_keeps (s := s.extend ext)
        (recordProtective_keeps hstable hsymbol orders) h.settled
      refine wp_mono (wp_and hrecorded hkeeps) ?_ (fun _ _ _ => trivial)
      rintro - s₂ ⟨⟨w', rfl, -, pos', hpos', hdressed⟩, hsettled⟩
      rw [wp_bind, wp_modifyWallet, wp_bind, wp_current]
      have hsaved : (w'.save).getOpenPosition symbol = some pos' := hpos'
      have hget : (w'.save).positions.get? pos.symbol = some pos' := by
        rw [hsymbol]
        exact (Wallet.getOpenPosition_eq_some.mp hsaved).1
      refine ⟨pos', ?_, ⟨hstable.save _ hsettled, hsaved, h.entered.dressed hdressed⟩,
        hdressed.entryPrice⟩
      show some ((w'.save.positions.get? pos.symbol).getD pos) = some pos'
      rw [hget]
      rfl

/-- What `open_position` returns for a quantity that was asked for. -/
theorem openPosition_entered (h : w.SettledAs s.wallet) {qty : Decimal} (hqty : 0 < qty)
    (markPrice : Decimal) (customMargin : Option Decimal) (fill : Option ExternalFill) :
    wp (openPosition env .none symbol setup markPrice customMargin (some qty) fill)
      (fun pos? s' => ∀ pos, pos? = some pos → s'.Entered w symbol setup pos) (fun _ _ => True)
      s := by
  rw [openPosition_eq, wp_bind]
  refine wp_mono (bookEntry_entered env h hqty markPrice customMargin fill) ?_ (fun _ _ h => h)
  intro pos? s₁ hbooked
  cases pos? with
  | none =>
      intro pos hpos
      cases hpos
  | some pos =>
      obtain ⟨hentered, hbare⟩ := hbooked pos rfl
      refine wp_mono (protectEntry_entered env hentered hbare) ?_ (fun _ _ h => h)
      rintro _ s₂ ⟨pos', rfl, hentered', -⟩ _ ⟨⟩
      exact hentered'

end Entered

/-! ## The entry path -/

/-- The leverage cap of the instrument, as `_apply_dynamic_leverage` reads it. -/
def Desk.venueMaxLeverage (desk : Desk) (s : World) : Option Leverage :=
  if desk.venue.any EngineApi.mapper then
    match getSpec env desk.symbol s with
    | .ok spec _ => some spec.maxLeverage
    | .error _ _ => none
  else none

/-- The leverage that the entry is booked at: what the dynamic leverage computes,
or what the wallet has for the symbol. -/
def Desk.entryLeverage (desk : Desk) (quote : Quote) (ctx : EntryContext) (s : World) : Leverage :=
  match desk.dynamicLeverage with
  | none => s.wallet.getLeverage desk.symbol
  | some manager =>
      let entryPrice := desk.entryPrice quote ctx.setup.side
      (manager.compute (desk.leverageInputs quote entryPrice ctx.regimeCtx
        (desk.venueMaxLeverage env s) s.wallet)).toNat.toPNat'

/-- A re-anchored stop is a price. -/
theorem Setup.anchored_slPrice_pos (setup : Setup) {entryPrice : Decimal} (h : 0 < entryPrice) :
    0 < (setup.anchored entryPrice).slPrice := by
  show 0 < setup.reanchor entryPrice setup.slPrice defaultSlPct true
  unfold Setup.reanchor
  by_cases husable : 0 < setup.entryPrice ∧ 0 < setup.slPrice
  · rw [if_pos husable]
    exact mul_pos h (div_pos husable.2 husable.1)
  · rw [if_neg husable]
    unfold PositionSide.levelAt defaultSlPct
    cases setup.side with
    | long =>
        dsimp only
        linarith
    | short =>
        dsimp only
        linarith

theorem Desk.anchor_eq_ok {desk : Desk} {quote : Quote} {setup anchored : Setup}
    (h : desk.anchor quote setup = .ok anchored) :
    anchored = setup.anchored (desk.entryPrice quote setup.side) := by
  unfold Desk.anchor at h
  dsimp only at h
  split_ifs at h
  cases hbasis : desk.basisGuard quote with
  | some veto =>
      rw [hbasis] at h
      cases h
  | none =>
      rw [hbasis] at h
      cases h
      rfl

theorem setLeverage_wallet (symbol : Symbol) (leverage : Leverage) (s : World) :
    wp (setLeverage env symbol leverage) (fun _ s' => s'.wallet = s.wallet)
      (fun _ s' => s'.wallet = s.wallet) s := by
  unfold setLeverage
  rw [wp_bind]
  refine wp_mono (getSpec_wp env symbol s) ?_ ?_
  · rintro spec _ ⟨-, ext, rfl, -⟩
    unfold succeeds
    rw [wp_tryCatch, wp_bind, wp_bind]
    refine wp_mono (exchange_wp _ _ _) ?_ (fun _ _ h => h.elim)
    rintro outcome s₁ ⟨-, rfl⟩
    rw [wp_bind]
    refine wp_mono (ofReply_wp _ _) ?_ ?_
    · rintro - s₂ ⟨-, rfl⟩
      exact rfl
    · rintro e s₂ ⟨-, rfl⟩
      cases e with
      | coinDcxError _ _ => exact rfl
      | _ => exact rfl
  · rintro e _ ⟨ext, rfl, -⟩
    exact rfl

/-- The cap is read without touching the wallet. -/
theorem Desk.readVenueMax_wp (desk : Desk) (s : World) :
    wp (desk.readVenueMax env)
      (fun venueMax s' => venueMax = desk.venueMaxLeverage env s ∧ s'.wallet = s.wallet)
      (fun _ _ => True) s := by
  unfold Desk.readVenueMax Desk.venueMaxLeverage
  by_cases hmapper : desk.venue.any EngineApi.mapper
  · rw [if_pos hmapper, if_pos hmapper, wp_tryCatch, wp_bind]
    have hspec := getSpec_reads env desk.symbol s
    unfold wp at hspec ⊢
    cases hrun : getSpec env desk.symbol s with
    | ok spec s' =>
        rw [hrun] at hspec
        obtain ⟨ext, rfl, -⟩ := hspec
        exact ⟨rfl, rfl⟩
    | error e s' =>
        rw [hrun] at hspec
        obtain ⟨ext, rfl, -⟩ := hspec
        exact ⟨rfl, rfl⟩
  · rw [if_neg hmapper, if_neg hmapper]
    exact ⟨rfl, rfl⟩

theorem Desk.pushLeverage_wp (desk : Desk) (leverage : Leverage) (s : World) :
    wp (desk.pushLeverage env leverage) (fun _ s' => s'.wallet = s.wallet) (fun _ _ => True) s := by
  unfold Desk.pushLeverage
  rw [wp_ite]
  constructor
  · intro _
    rw [wp_tryCatch]
    exact setLeverage_wallet env desk.symbol leverage s
  · intro _
    rfl

/-- The wallet of `s'` is that of `s`, the symbol's leverage apart. -/
structure World.AtLeverage (symbol : Symbol) (leverage : Leverage) (s s' : World) : Prop where
  aligned : s.wallet.Aligned → s'.wallet.Aligned
  liveExecution : s'.wallet.liveExecution = s.wallet.liveExecution
  maintenanceMarginRatio : s'.wallet.maintenanceMarginRatio = s.wallet.maintenanceMarginRatio
  leverage : s'.wallet.getLeverage symbol = leverage

/-- Dynamic leverage sets the symbol's leverage and nothing else. -/
theorem Desk.applyDynamicLeverage_wp (desk : Desk) (quote : Quote) (ctx : EntryContext) (s : World) :
    wp (desk.applyDynamicLeverage env quote (desk.entryPrice quote ctx.setup.side) ctx.regimeCtx)
      (fun entered s' => entered = true →
        s.AtLeverage desk.symbol (desk.entryLeverage env quote ctx s) s')
      (fun _ _ => True) s := by
  unfold Desk.applyDynamicLeverage Desk.entryLeverage
  cases desk.dynamicLeverage with
  | none => exact fun _ => ⟨fun h => h, rfl, rfl, rfl⟩
  | some manager =>
      dsimp only
      rw [wp_bind]
      refine wp_mono (desk.readVenueMax_wp env s) ?_ (fun _ _ h => h)
      rintro _ s₁ ⟨rfl, hwallet⟩
      rw [wp_bind, wp_get, hwallet]
      generalize manager.compute (desk.leverageInputs quote (desk.entryPrice quote ctx.setup.side)
        ctx.regimeCtx (desk.venueMaxLeverage env s) s.wallet) = lev
      rw [wp_ite]
      refine ⟨fun _ h => (by cases h), fun _ => ?_⟩
      have hset (s₂ : World) (hs₂ : s₂.wallet = s.wallet) :
          s.AtLeverage desk.symbol lev.toNat.toPNat'
            { s₂ with wallet := s₂.wallet.setSymbolLeverage desk.symbol lev.toNat.toPNat' } := by
        rw [hs₂]
        refine ⟨fun h => h, rfl, rfl, ?_⟩
        show (Dict.get? (Dict.set _ _ _) _).getD _ = _
        rw [Dict.get?_set_self]
        rfl
      rw [wp_bind]
      refine wp_mono (desk.pushLeverage_wp env _ s₁) ?_ (fun _ _ h => h)
      intro _ s₂ hs₂ _
      exact hset s₂ (hs₂.trans hwallet)

/-- Sizing leaves the wallet alone and comes to a positive quantity. -/
theorem Desk.size_wp (desk : Desk) (ctx : EntryContext) (setup : Setup) (s : World) :
    wp (desk.size env ctx setup)
      (fun sized s' => s'.wallet = s.wallet ∧ ∀ qty, sized = .quantity qty → 0 < qty)
      (fun _ _ => True) s := by
  have hbump (price qty : Decimal) :
      wp (desk.bump env price qty) (fun _ s' => s'.wallet = s.wallet) (fun _ _ => True) s := by
    unfold Desk.bump
    rw [wp_ite]
    constructor
    · intro _
      rw [wp_bind, wp_attempt]
      refine wp_mono (getSpec_reads env desk.symbol s) ?_ ?_
      · rintro spec _ ⟨ext, rfl, -⟩
        rfl
      · rintro e _ ⟨ext, rfl, -⟩
        rfl
    · intro _
      rfl
  unfold Desk.size
  rw [wp_bind, wp_get, wp_ite]
  refine ⟨fun _ => trivial, fun _ => ?_⟩
  rw [wp_ite]
  refine ⟨fun _ => ⟨rfl, fun qty h => by cases h⟩, fun _ => ?_⟩
  rw [wp_bind]
  refine wp_mono (hbump _ _) ?_ (fun _ _ h => h)
  intro sized s' hs'
  cases sized with
  | vetoed veto => exact ⟨hs', fun qty h => by cases h⟩
  | stuck => exact ⟨hs', fun qty h => by cases h⟩
  | quantity qty =>
      refine ⟨hs', fun qty' hqty' => ?_⟩
      by_cases hpos : qty ≤ 0
      · rw [if_pos hpos] at hqty'
        cases hqty'
      · rw [if_neg hpos] at hqty'
        cases hqty'
        exact not_le.mp hpos

/-- What a plan that passed every gate satisfies. -/
structure EntryPlan.Admitted (plan : EntryPlan) (desk : Desk) (quote : Quote) (ctx : EntryContext)
    (s s' : World) : Prop where
  setup : plan.setup = ctx.setup.anchored (desk.entryPrice quote ctx.setup.side)
  quantity : 0 < plan.quantity
  gates : desk.gates s'.wallet plan.setup plan.quantity = none
  wallet : s.AtLeverage desk.symbol (desk.entryLeverage env quote ctx s) s'

theorem Desk.prepare_wp (desk : Desk) (quote : Quote) (ctx : EntryContext) (s : World) :
    wp (desk.prepare env quote ctx)
      (fun prepared s' => ∀ plan, prepared = .ready plan → plan.Admitted env desk quote ctx s s')
      (fun _ _ => True) s := by
  unfold Desk.prepare
  cases hanchor : desk.anchor quote ctx.setup with
  | error veto => exact fun plan h => by cases h
  | ok setup =>
      have hsetup := Desk.anchor_eq_ok hanchor
      have hentry : setup.entryPrice = desk.entryPrice quote ctx.setup.side := by
        rw [hsetup]
        rfl
      dsimp only
      rw [wp_bind, hentry]
      refine wp_mono (desk.applyDynamicLeverage_wp env quote ctx s) ?_ (fun _ _ h => h)
      intro entered s₁ hleverage
      rw [wp_ite]
      refine ⟨fun hentered => ?_, fun _ plan h => by cases h⟩
      rw [wp_bind]
      refine wp_mono (desk.size_wp env ctx setup s₁) ?_ (fun _ _ h => h)
      rintro sized s₂ ⟨hwallet, hqty⟩
      cases sized with
      | vetoed veto => exact fun plan h => by cases h
      | stuck => exact fun plan h => by cases h
      | quantity qty =>
          dsimp only
          rw [wp_bind, wp_get]
          cases hgates : desk.gates s₂.wallet setup qty with
          | some veto => exact fun plan h => by cases h
          | none =>
              rintro _ ⟨⟩
              refine ⟨hsetup, hqty qty rfl, hgates, ?_⟩
              obtain ⟨haligned, hlive, hmmr, hlev⟩ := hleverage hentered
              exact ⟨fun h => by rw [hwallet]; exact haligned h, by rw [hwallet]; exact hlive,
                by rw [hwallet]; exact hmmr, by rw [hwallet]; exact hlev⟩

/-- Handing a plan on opens a position for its setup, whatever the order style. -/
theorem Desk.submit_wp (desk : Desk) (quote : Quote) {plan : EntryPlan} (hqty : 0 < plan.quantity)
    {s : World} (haligned : s.wallet.Aligned) :
    wp (desk.submit env quote plan)
      (fun outcome s' => ∀ pos, outcome = .opened (some pos) →
        s'.Entered s.wallet desk.symbol plan.setup pos)
      (fun _ _ => True) s := by
  have hself : s.wallet.SettledAs s.wallet := ⟨haligned, .refl _⟩
  have hopens {s₁ : World} (h : s.wallet.SettledAs s₁.wallet) (style : EntryOrderStyle)
      {qty : Decimal} (hqty : 0 < qty) (markPrice : Decimal) (fill : Option ExternalFill) :
      wp (openPosition env .none desk.symbol { plan.setup with entryOrderStyle := style } markPrice
          none (some qty) fill)
        (fun pos? s' => ∀ pos, EntryOutcome.opened pos? = .opened (some pos) →
          s'.Entered s.wallet desk.symbol plan.setup pos)
        (fun _ _ => True) s₁ := by
    refine wp_mono (openPosition_entered env h hqty markPrice none fill) ?_ (fun _ _ h => h)
    rintro _ s' hentered pos ⟨⟩
    obtain ⟨hsettled, hpos, hbooks⟩ := hentered pos rfl
    exact ⟨hsettled, hpos, hbooks.side, hbooks.slPrice, hbooks.leverage, hbooks.remainingQuantity⟩
  unfold Desk.submit
  dsimp only
  rw [wp_ite]
  refine ⟨fun _ pos h => (by cases h), fun _ => ?_⟩
  cases desk.cfg.filter (fun cfg => desk.useMaker quote plan.setup && cfg.usesExchange) with
  | none =>
      dsimp only
      rw [wp_bind]
      exact hopens hself _ hqty _ none
  | some cfg =>
      dsimp only
      rw [wp_bind]
      have hkeeps := World.wp_of_keeps (s := s) (acquireLiveEntryFill_keeps env
        (Wallet.SettledAs.stable s.wallet desk.symbol) plan.setup.side plan.quantity
        plan.setup.entryPrice ⟨cfg.makerLimitOffsetBps, cfg.makerLimitFallback, quote.polls⟩) hself
      refine wp_mono hkeeps ?_ (fun _ _ _ => trivial)
      intro entry? s₁ h₁
      cases entry? with
      | none => exact fun pos h => by cases h
      | some entry =>
          dsimp only
          rw [wp_bind]
          refine hopens h₁ _ ?_ _ _
          -- the quantity of a partial fill is only taken when it is positive
          cases entry.filledQuantity with
          | none => exact hqty
          | some filled =>
              by_cases hpos : 0 < filled
              · simp [Option.filter, hpos]
              · simp [Option.filter, hpos, hqty]

/-- The gate computed the liquidation price of the position, and no mark from
the entry to the stop liquidates it. -/
structure Desk.StopsFirst (desk : Desk) (plan : EntryPlan) (w w' : Wallet)
    (pos : EnhancedPosition) : Prop where
  agrees : gateLiquidationPrice plan.setup.side plan.setup.entryPrice (desk.gateLeverage w)
    w.maintenanceMarginRatio = w'.liquidationPrice pos
  stops : ∀ markPrice, min pos.entryPrice pos.slPrice ≤ markPrice →
    markPrice ≤ max pos.entryPrice pos.slPrice → w'.isLiquidationRequired pos markPrice = false

section StopsFirst

variable {desk : Desk} {quote : Quote} {ctx : EntryContext} {plan : EntryPlan} {s s₁ s' : World}
  {pos : EnhancedPosition}

/-- A stop and an entry that the gate admits are on the safe side of the
liquidation price, and so is all that lies between them. -/
theorem MarginEngine.not_past_of_admitted {m : MarginEngine}
    (hmin : 0 ≤ m.minLiquidationDistancePct) {side : PositionSide}
    {entryPrice stopLossPrice liquidationPrice markPrice : Decimal}
    (h : m.checkLiquidationDistance entryPrice stopLossPrice liquidationPrice side = none)
    (hlow : min entryPrice stopLossPrice ≤ markPrice)
    (hhigh : markPrice ≤ max entryPrice stopLossPrice) :
    ¬ side.past liquidationPrice markPrice := by
  obtain ⟨hentry, hdist, hstop⟩ := m.checkLiquidationDistance_eq_none h
  have hdist := hmin.trans hdist
  cases side with
  | long =>
      have hle : 0 ≤ entryPrice - liquidationPrice := by
        by_contra hneg
        exact absurd hdist (not_le.mpr (div_neg_of_neg_of_pos (not_le.mp hneg) hentry))
      refine not_lt.mpr (le_trans (le_min ?_ hstop.le) hlow)
      linarith
  | short =>
      have hle : 0 ≤ liquidationPrice - entryPrice := by
        by_contra hneg
        exact absurd hdist (not_le.mpr (div_neg_of_neg_of_pos (not_le.mp hneg) hentry))
      refine not_lt.mpr (le_trans hhigh (max_le ?_ hstop.le))
      linarith

/-- The stop comes before the liquidation exactly when the leverage of the gate
is the one the entry is booked at: in live execution, and otherwise when the
configured leverage is the one of the symbol. -/
theorem Desk.stopsFirst_iff (haligned : s.wallet.Aligned)
    (hmmr : 0 < s.wallet.maintenanceMarginRatio ∧ s.wallet.maintenanceMarginRatio < 1)
    (hprepared : desk.prepare env quote ctx s = .ok (.ready plan) s₁)
    (hentered : desk.executeEntry env quote ctx s = .ok (.opened (some pos)) s')
    (hprice : pos.entryPrice = plan.setup.entryPrice) :
    desk.StopsFirst plan s₁.wallet s'.wallet pos ↔
      s.wallet.liveExecution ∨ desk.configuredLeverage = desk.entryLeverage env quote ctx s := by
  have hadmitted := wp_ok (desk.prepare_wp env quote ctx s) hprepared plan rfl
  have hsubmit : desk.submit env quote plan s₁ = .ok (.opened (some pos)) s' := by
    unfold Desk.executeEntry at hentered
    rwa [bind_of_ok hprepared] at hentered
  have hbooked := wp_ok (desk.submit_wp env quote hadmitted.quantity
    (hadmitted.wallet.aligned haligned)) hsubmit pos rfl
  obtain ⟨hsettled, hpos, hside, hsl, hlev, hqty⟩ := hbooked
  have hmmr₁ : s'.wallet.maintenanceMarginRatio = s₁.wallet.maintenanceMarginRatio :=
    hsettled.settings.maintenanceMarginRatio
  have hmmr' : 0 < s'.wallet.maintenanceMarginRatio ∧ s'.wallet.maintenanceMarginRatio < 1 := by
    rw [hmmr₁, hadmitted.wallet.maintenanceMarginRatio]
    exact hmmr
  -- the gate on the liquidation price
  have hgate : desk.marginEngine.checkLiquidationDistance pos.entryPrice pos.slPrice
      (gateLiquidationPrice pos.side pos.entryPrice (desk.gateLeverage s₁.wallet)
        s'.wallet.maintenanceMarginRatio) pos.side = none := by
    rw [hprice, hsl, hside, hmmr₁]
    have hgates := hadmitted.gates
    unfold Desk.gates at hgates
    cases hutilization : desk.marginEngine.checkMarginUtilization s₁.wallet.usedMargin
        s₁.wallet.marginBalance with
    | some msg =>
        rw [hutilization] at hgates
        cases hgates
    | none =>
        rw [hutilization] at hgates
        dsimp only at hgates
        split at hgates
        · cases hgates
        · assumption
  have hentry : 0 < pos.entryPrice := (desk.marginEngine.checkLiquidationDistance_eq_none hgate).1
  have hstop : 0 < pos.slPrice := by
    rw [hsl, hadmitted.setup]
    refine Setup.anchored_slPrice_pos _ ?_
    rw [hprice, hadmitted.setup] at hentry
    exact hentry
  have hwallet := Wallet.liquidationPrice_eq hmmr' hentry
  have hsame : gateLiquidationPrice plan.setup.side plan.setup.entryPrice
        (desk.gateLeverage s₁.wallet) s₁.wallet.maintenanceMarginRatio = s'.wallet.liquidationPrice pos ↔
      desk.gateLeverage s₁.wallet = pos.leverage := by
    rw [hwallet, ← hprice, ← hside, ← hmmr₁]
    exact gateLiquidationPrice_inj hmmr' hentry
  have hleverage : desk.gateLeverage s₁.wallet = pos.leverage ↔
      s.wallet.liveExecution ∨ desk.configuredLeverage = desk.entryLeverage env quote ctx s := by
    rw [hlev, hadmitted.wallet.leverage]
    unfold Desk.gateLeverage
    rw [hadmitted.wallet.leverage, hadmitted.wallet.liveExecution]
    by_cases hlive : s.wallet.liveExecution
    · simp [hlive]
    · simp [hlive]
  rw [← hleverage, ← hsame]
  refine ⟨fun h => h.agrees, fun hagrees => ⟨hagrees, fun markPrice hlow hhigh => ?_⟩⟩
  have hmark : 0 < markPrice := lt_of_lt_of_le (lt_min hentry hstop) hlow
  have hopen := (Wallet.getOpenPosition_eq_some.mp hpos).2
  rw [← Bool.not_eq_true, Wallet.isLiquidationRequired_iff hmmr' hopen hqty hmark,
    ← hsame.mp hagrees]
  have hmin : 0 ≤ desk.marginEngine.minLiquidationDistancePct := by
    show (0 : Decimal) ≤ 3 / 100
    norm_num
  exact MarginEngine.not_past_of_admitted hmin hgate hlow hhigh

end StopsFirst

/-! ### A paper entry at the configured leverage and one at another -/

/-- A paper desk with fixed or dynamic leverage. -/
def paperDesk (dynamicLeverage : Option DynamicLeverageManager) : Desk :=
  { symbol := demoSymbol
    cfg := some { usesExchange := false, maxLeverage := 10, riskPerTradePct := 2 / 100 }
    dynamicLeverage := dynamicLeverage }

def demoQuote : Quote :=
  { dataAgeMs := some 100, ltp := 100, mid := 100, spread := 1 / 100 }

/-- A setup that the paper fill meets exactly. -/
def demoContext : EntryContext :=
  { setup := { demoSetup with spreadBps := 0, slippageBps := 0 }
    finalScore := 1
    dynamicThreshold := 75 / 100 }

/-- The world of `paperDesk`. -/
def paperStart : World := { demoWorld with wallet := Wallet.boot demoInit id {} false }

/-- The entry of a desk in that world is admitted, and booked at its sized price. -/
def paperEntry (desk : Desk) (check : EntryPlan → World → EnhancedPosition → World → Bool) : Bool :=
  ends (desk.prepare demoEnv demoQuote demoContext) paperStart (fun prepared s₁ =>
    match prepared with
    | .ready plan =>
        ends (desk.executeEntry demoEnv demoQuote demoContext) paperStart (fun outcome s' =>
          match outcome with
          | .opened (some pos) =>
              pos.entryPrice = plan.setup.entryPrice && check plan s₁ pos s'
          | _ => false)
    | _ => false)

theorem exists_of_paperEntry {desk : Desk}
    {check : EntryPlan → World → EnhancedPosition → World → Bool} (h : paperEntry desk check) :
    ∃ plan s₁ pos s', desk.prepare demoEnv demoQuote demoContext paperStart =
        .ok (.ready plan) s₁ ∧
      desk.executeEntry demoEnv demoQuote demoContext paperStart = .ok (.opened (some pos)) s' ∧
      pos.entryPrice = plan.setup.entryPrice ∧ check plan s₁ pos s' := by
  obtain ⟨prepared, s₁, hprepared, h⟩ := exists_of_ends h
  cases prepared with
  | vetoed _ => cases h
  | stuck => cases h
  | ready plan =>
      obtain ⟨outcome, s', hentered, h⟩ := exists_of_ends h
      cases outcome with
      | opened pos? =>
          cases pos? with
          | none => cases h
          | some pos =>
              rw [Bool.and_eq_true, decide_eq_true_eq] at h
              exact ⟨plan, s₁, pos, s', hprepared, hentered, h⟩
      | _ => cases h

/-- At the configured leverage the stop comes first. -/
theorem Desk.stopsFirst_fixed :
    ∃ (plan : EntryPlan) (s₁ s' : World) (pos : EnhancedPosition),
      (paperDesk none).executeEntry demoEnv demoQuote demoContext paperStart =
        .ok (.opened (some pos)) s' ∧
      (paperDesk none).StopsFirst plan s₁.wallet s'.wallet pos := by
  have hrun : paperEntry (paperDesk none) (fun _ _ _ _ => true) := by decide +kernel
  obtain ⟨plan, s₁, pos, s', hprepared, hentered, hprice, -⟩ := exists_of_paperEntry hrun
  exact ⟨plan, s₁, s', pos, hentered, (Desk.stopsFirst_iff demoEnv
    (Wallet.Aligned.boot demoInit id false) ⟨by decide +kernel, by decide +kernel⟩ hprepared hentered
    hprice).mpr (Or.inr (by decide +kernel))⟩

/-- Dynamic leverage books at 8x what the gate admitted at 10x. -/
theorem Desk.not_stopsFirst_dynamic :
    ¬ ∀ (env : Env) (desk : Desk) (quote : Quote) (ctx : EntryContext) (s s₁ s' : World)
        (plan : EntryPlan) (pos : EnhancedPosition), s.wallet.Aligned →
        0 < s.wallet.maintenanceMarginRatio ∧ s.wallet.maintenanceMarginRatio < 1 →
        desk.prepare env quote ctx s = .ok (.ready plan) s₁ →
        desk.executeEntry env quote ctx s = .ok (.opened (some pos)) s' →
        pos.entryPrice = plan.setup.entryPrice →
        desk.StopsFirst plan s₁.wallet s'.wallet pos := by
  intro h
  have hrun : paperEntry (paperDesk (some {})) (fun plan s₁ pos s' =>
      gateLiquidationPrice plan.setup.side plan.setup.entryPrice
        ((paperDesk (some {})).gateLeverage s₁.wallet) s₁.wallet.maintenanceMarginRatio ≠
          s'.wallet.liquidationPrice pos) := by decide +kernel
  obtain ⟨plan, s₁, pos, s', hprepared, hentered, hprice, hdiffer⟩ := exists_of_paperEntry hrun
  have hstops := h demoEnv (paperDesk (some {})) demoQuote demoContext paperStart s₁ s' plan pos
    (Wallet.Aligned.boot demoInit id false) ⟨by decide +kernel, by decide +kernel⟩ hprepared hentered
    hprice
  exact absurd hstops.agrees (of_decide_eq_true hdiffer)

end CryptoTrader
