import CryptoTrader.Engine.Liquidation

/-!
# An entry of size zero

What becomes of an entry whose risk budget is scaled to zero, by the regime or
by the engine's share of the wallet.
-/

namespace CryptoTrader

open CryptoTrader.Lib

/-! ## The dispatch by strategy mode -/

/-- `self.cfg.strategy_mode`, the legacy path without a configuration. -/
def Desk.mode (desk : Desk) : StrategyMode := desk.cfg.elim .legacy TradingConfig.strategyMode

/-- What the path of a mode asks of the regime; most ask nothing. -/
def Desk.regimeAdmits (desk : Desk) (regimeCtx : RegimeContext) : Bool :=
  match desk.mode with
  | .legacy =>
      let allowed := desk.cfg.elim [] TradingConfig.allowedRegimes
      regimeCtx.allowsNewEntries && (allowed.isEmpty || regimeCtx.extended ∈ allowed)
  | .regimeSwitch => regimeCtx.extended ∈ desk.cfg.elim [] TradingConfig.rsAllowedRegimes
  | _ => true

/-- The guard against extreme funding, the same in all paths. -/
def Desk.fundingExtreme (desk : Desk) (side : PositionSide) (fundingRate : Decimal) : Bool :=
  let threshold := desk.cfg.elim (5 / 10000) TradingConfig.fundingExtremeThreshold
  match side with
  | .long => threshold < fundingRate
  | .short => fundingRate < -threshold

variable (env : Env)

/-- `_evaluate_and_enter` from the dispatch on, for the setup and the scores the
strategy of the mode came up with; nothing when the entry is blocked. -/
def Desk.evaluateAndEnter (desk : Desk) (quote : Quote) (fundingRate : Decimal)
    (regimeCtx : RegimeContext) (ctx : EntryContext) : Live (Option EntryOutcome) :=
  if desk.regimeAdmits regimeCtx && !desk.fundingExtreme ctx.setup.side fundingRate then do
    let outcome ← desk.executeEntry env quote { ctx with regimeCtx := some regimeCtx }
    pure (some outcome)
  else pure none

/-! ## What the entry path does before it hands an order on -/

/-- No order is created and nothing is logged. -/
structure World.Quiet (s s' : World) : Prop where
  trace : ∃ ext, s'.trace = s.trace ++ ext ∧ created ext = []
  log : s'.wallet.log = s.wallet.log

instance : Std.Refl World.Quiet := ⟨fun _ => ⟨⟨[], by simp, rfl⟩, rfl⟩⟩

instance : IsTrans World World.Quiet := by
  refine ⟨?_⟩
  rintro s s₁ s₂ ⟨⟨ext, htrace, hext⟩, hlog⟩ ⟨⟨ext', htrace', hext'⟩, hlog'⟩
  exact ⟨⟨ext ++ ext', by rw [htrace', htrace, List.append_assoc],
    by rw [created_append, hext, hext', List.append_nil]⟩, hlog'.trans hlog⟩

theorem World.Quiet.created_eq {s s' : World} (h : s.Quiet s') :
    created s'.trace = created s.trace := by
  obtain ⟨ext, htrace, hext⟩ := h.trace
  rw [htrace, created_append, hext, List.append_nil]

/-- Setting the wallet to one with the same log. -/
theorem World.Quiet.of_trace_eq {s s' : World} (htrace : s'.trace = s.trace)
    (hlog : s'.wallet.log = s.wallet.log) : s.Quiet s' :=
  ⟨⟨[], by rw [htrace, List.append_nil], rfl⟩, hlog⟩

theorem World.Reads.quiet {s s' : World} (h : s.Reads s') : s.Quiet s' := by
  obtain ⟨ext, rfl, hext⟩ := h
  exact ⟨⟨ext, rfl, created_reads hext⟩, rfl⟩

theorem getSpec_quiet (symbol : Symbol) : Moves World.Quiet (getSpec env symbol) :=
  (getSpec_reads env symbol).mono (fun _ _ h => h.quiet)

theorem setLeverage_quiet (symbol : Symbol) (leverage : Leverage) :
    Moves World.Quiet (setLeverage env symbol leverage) := by
  refine (getSpec_quiet env symbol).bind (fun spec => ?_)
  refine Moves.tryCatch (Moves.bind (Moves.bind ?_ (fun outcome => ?_)) (fun _ => Moves.pure _))
    (fun e => ?_)
  · intro s
    refine wp_mono (exchange_wp _ _ s) ?_ (fun _ _ h => h.elim)
    rintro _ s' ⟨-, rfl⟩
    exact ⟨⟨_, rfl, rfl⟩, rfl⟩
  · refine Moves.bind ((ofReply_reads _).mono (fun _ _ h => h.quiet)) (fun _ => ?_)
    exact Moves.modify (fun _ => World.Quiet.of_trace_eq rfl rfl)
  · cases e with
    | coinDcxError _ _ => exact Moves.pure _
    | _ => exact Moves.throw _

theorem Desk.prepare_quiet (desk : Desk) (quote : Quote) (ctx : EntryContext) :
    Moves World.Quiet (desk.prepare env quote ctx) := by
  have hread : Moves World.Quiet (desk.readVenueMax env) := by
    unfold Desk.readVenueMax
    split
    · exact ((getSpec_quiet env _).bind (fun _ => Moves.pure _)).tryCatch (fun _ => Moves.pure _)
    · exact Moves.pure _
  have hpush (leverage : Leverage) : Moves World.Quiet (desk.pushLeverage env leverage) := by
    unfold Desk.pushLeverage
    split
    · exact (setLeverage_quiet env _ _).tryCatch (fun _ => Moves.pure _)
    · exact Moves.pure _
  have hleverage (price : Decimal) :
      Moves World.Quiet (desk.applyDynamicLeverage env quote price ctx.regimeCtx) := by
    unfold Desk.applyDynamicLeverage
    cases desk.dynamicLeverage with
    | none => exact Moves.pure _
    | some manager =>
        refine hread.bind (fun _ => Moves.get.bind (fun s => ?_))
        dsimp only
        split
        · exact Moves.pure _
        · refine (hpush _).bind (fun _ => Moves.bind ?_ (fun _ => Moves.pure _))
          exact fun _ => World.Quiet.of_trace_eq rfl rfl
  have hbump (price qty : Decimal) : Moves World.Quiet (desk.bump env price qty) := by
    unfold Desk.bump
    split
    · refine (getSpec_quiet env _).attempt.bind (fun result => ?_)
      cases result with
      | error e => exact Moves.pure _
      | ok spec => exact Moves.get.bind (fun _ => Moves.pure _)
    · exact Moves.pure _
  have hsize (setup : Setup) : Moves World.Quiet (desk.size env ctx setup) := by
    refine Moves.get.bind (fun s => ?_)
    split
    · exact Moves.throw _
    · split
      · exact Moves.pure _
      · refine (hbump _ _).bind (fun sized => ?_)
        cases sized with
        | quantity qty => exact Moves.pure _
        | _ => exact Moves.pure _
  unfold Desk.prepare
  cases desk.anchor quote ctx.setup with
  | error veto => exact Moves.pure _
  | ok setup =>
      refine (hleverage _).bind (fun entered => ?_)
      split
      · refine (hsize setup).bind (fun sized => ?_)
        cases sized with
        | quantity qty =>
            refine Moves.get.bind (fun s => ?_)
            cases desk.gates s.wallet setup qty with
            | some veto => exact Moves.pure _
            | none => exact Moves.pure _
        | _ => exact Moves.pure _
      · exact Moves.pure _

/-! ## The size of nothing -/

/-- The quantity `qty` is the venue's minimum, taken in place of zero. -/
structure Desk.TakesMinimum (desk : Desk) (ctx : EntryContext) (setup : Setup) (s : World)
    (qty : Decimal) (s' : World) : Prop where
  threshold : ctx.dynamicThreshold ≠ 0
  stop : 0 < setup.stopDistance
  mapper : desk.venue.any EngineApi.mapper
  spec : ∃ spec, getSpec env desk.symbol s = .ok spec s' ∧ spec.belowMinimum setup.entryPrice 0 ∧
    spec.minimumOrder setup.entryPrice = some qty
  positive : 0 < qty
  affordable : qty * setup.entryPrice / (desk.gateLeverage s.wallet : ℕ) ≤
    s.wallet.marginBalance - s.wallet.usedMargin

/-- Bumping a quantity of zero comes to a positive one only at the minimum. -/
theorem Desk.bump_zero_iff (desk : Desk) {price qty : Decimal} {s s' : World} (hqty : 0 < qty) :
    desk.bump env price 0 s = .ok (.quantity qty) s' ↔
      desk.venue.any EngineApi.mapper ∧
        (∃ spec, getSpec env desk.symbol s = .ok spec s' ∧ spec.belowMinimum price 0 ∧
          spec.minimumOrder price = some qty) ∧
        qty * price / (desk.gateLeverage s.wallet : ℕ) ≤
          s.wallet.marginBalance - s.wallet.usedMargin := by
  have hzero : (Sized.quantity 0) ≠ .quantity qty := by
    intro h
    cases h
    exact lt_irrefl _ hqty
  unfold Desk.bump
  by_cases hmapper : desk.venue.any EngineApi.mapper
  · rw [if_pos hmapper]
    have hread := getSpec_reads env desk.symbol s
    cases hspec : getSpec env desk.symbol s with
    | error e s₁ =>
        have hattempt : attempt (getSpec env desk.symbol) s = .ok (.error e) s₁ := by
          unfold attempt
          rw [hspec]
        rw [bind_of_ok hattempt]
        constructor
        · intro h
          by_cases hexchange : desk.usesExchange
          · simp only [if_pos hexchange] at h
            cases h
          · simp only [if_neg hexchange] at h
            cases h
            exact absurd rfl hzero
        · rintro ⟨-, ⟨spec, hok, -⟩, -⟩
          cases hok
    | ok spec s₁ =>
        have hattempt : attempt (getSpec env desk.symbol) s = .ok (.ok spec) s₁ := by
          unfold attempt
          rw [hspec]
        obtain ⟨ext, rfl, -⟩ := wp_ok hread hspec
        rw [bind_of_ok hattempt]
        show EStateM.Result.ok (if spec.belowMinimum price 0 then desk.bumped spec price s.wallet
          else .quantity 0) (s.extend ext) = .ok (.quantity qty) s' ↔ _
        unfold Desk.bumped
        by_cases hbelow : spec.belowMinimum price 0
        · rw [if_pos hbelow]
          cases hminimum : spec.minimumOrder price with
          | none =>
              constructor
              · intro h
                cases h
              · rintro ⟨-, ⟨_, hok, -, hsome⟩, -⟩
                cases hok
                rw [hminimum] at hsome
                cases hsome
          | some q =>
              dsimp only
              by_cases hmargin : s.wallet.marginBalance - s.wallet.usedMargin <
                  q * price / (desk.gateLeverage s.wallet : ℕ)
              · rw [if_pos hmargin]
                constructor
                · intro h
                  cases h
                · rintro ⟨-, ⟨_, hok, -, hsome⟩, hfits⟩
                  cases hok
                  rw [hminimum] at hsome
                  cases hsome
                  exact absurd hmargin (not_lt.mpr hfits)
              · rw [if_neg hmargin]
                constructor
                · intro h
                  cases h
                  exact ⟨hmapper, ⟨spec, rfl, hbelow, hminimum⟩, not_lt.mp hmargin⟩
                · rintro ⟨-, ⟨_, hok, -, hsome⟩, -⟩
                  cases hok
                  rw [hminimum] at hsome
                  cases hsome
                  rfl
        · rw [if_neg hbelow]
          constructor
          · intro h
            cases h
            exact absurd rfl hzero
          · rintro ⟨-, ⟨_, hok, hbelow', -⟩, -⟩
            cases hok
            exact absurd hbelow' hbelow
  · rw [if_neg hmapper]
    constructor
    · intro h
      cases h
      exact absurd rfl hzero
    · rintro ⟨hmapper', -⟩
      exact absurd hmapper' hmapper

/-- A risk budget of zero sizes an order only as the minimum. -/
theorem Desk.size_zero_iff (desk : Desk) {ctx : EntryContext} {setup : Setup} {s s' : World}
    {qty : Decimal} (hbudget : desk.riskBudget ctx s.wallet = 0) :
    desk.size env ctx setup s = .ok (.quantity qty) s' ↔
      desk.TakesMinimum env ctx setup s qty s' := by
  have hsized (h : desk.size env ctx setup s = .ok (.quantity qty) s') : 0 < qty :=
    (wp_ok (desk.size_wp env ctx setup s) h).2 qty rfl
  obtain ⟨rest, hvetoed, hstuck, hquantity, hsize⟩ : ∃ rest : Sized → Live Sized,
      (∀ veto, rest (.vetoed veto) = pure (.vetoed veto)) ∧ rest .stuck = pure .stuck ∧
      (∀ q, rest (.quantity q) =
        pure (if q ≤ 0 then .vetoed (.qtyZero setup.stopDistance) else .quantity q)) ∧
      desk.size env ctx setup s =
        if ctx.dynamicThreshold = 0 then .error .divisionByZero s
        else if setup.stopDistance ≤ 0 then .ok (.vetoed .noStop) s
        else (desk.bump env setup.entryPrice 0 >>= rest) s := by
    refine ⟨?rest, ?vetoed, ?stuck, ?quantity, ?size⟩
    case size =>
      unfold Desk.size
      rw [bind_of_ok (show (get : Live World) s = .ok s s from rfl), hbudget, zero_div]
      by_cases hthreshold : ctx.dynamicThreshold = 0
      · rw [if_pos hthreshold]
        exact (if_pos hthreshold).symm
      · rw [if_neg hthreshold, if_neg hthreshold]
        by_cases hstop : setup.stopDistance ≤ 0
        · rw [if_pos hstop]
          exact (if_pos hstop).symm
        · rw [if_neg hstop]
          exact (if_neg hstop).symm
    · exact fun _ => rfl
    · rfl
    · exact fun _ => rfl
  constructor
  · intro h
    have hqty := hsized h
    rw [hsize] at h
    by_cases hthreshold : ctx.dynamicThreshold = 0
    · rw [if_pos hthreshold] at h
      cases h
    rw [if_neg hthreshold] at h
    by_cases hstop : setup.stopDistance ≤ 0
    · rw [if_pos hstop] at h
      cases h
    rw [if_neg hstop] at h
    obtain ⟨sized, s₁, hbump, hrest⟩ := bind_eq_ok h
    have hsame : sized = .quantity qty ∧ s₁ = s' := by
      cases sized with
      | vetoed veto =>
          rw [hvetoed] at hrest
          cases hrest
      | stuck =>
          rw [hstuck] at hrest
          cases hrest
      | quantity q =>
          rw [hquantity] at hrest
          by_cases hq : q ≤ 0
          · rw [if_pos hq] at hrest
            cases hrest
          · rw [if_neg hq] at hrest
            cases hrest
            exact ⟨rfl, rfl⟩
    obtain ⟨rfl, rfl⟩ := hsame
    obtain ⟨hmapper, hspec, hfits⟩ := (desk.bump_zero_iff env hqty).mp hbump
    exact ⟨hthreshold, not_le.mp hstop, hmapper, hspec, hqty, hfits⟩
  · intro h
    rw [hsize, if_neg h.threshold, if_neg (not_le.mpr h.stop),
      bind_of_ok ((desk.bump_zero_iff env h.positive).mpr ⟨h.mapper, h.spec, h.affordable⟩),
      hquantity, if_neg (not_le.mpr h.positive)]
    rfl

/-! ## The entry as a whole -/

/-- The stages that a plan has gone through. -/
theorem Desk.prepare_ready_iff (desk : Desk) {quote : Quote} {ctx : EntryContext} {s s' : World}
    {plan : EntryPlan} :
    desk.prepare env quote ctx s = .ok (.ready plan) s' ↔
      ∃ s₁, desk.anchor quote ctx.setup = .ok plan.setup ∧
        desk.applyDynamicLeverage env quote plan.setup.entryPrice ctx.regimeCtx s = .ok true s₁ ∧
        desk.size env ctx plan.setup s₁ = .ok (.quantity plan.quantity) s' ∧
        desk.gates s'.wallet plan.setup plan.quantity = none := by
  unfold Desk.prepare
  constructor
  · intro h
    cases hanchor : desk.anchor quote ctx.setup with
    | error veto =>
        rw [hanchor] at h
        cases h
    | ok setup =>
        rw [hanchor] at h
        obtain ⟨entered, s₁, hleverage, h⟩ := bind_eq_ok h
        cases entered with
        | false => cases h
        | true =>
            rw [if_pos rfl] at h
            obtain ⟨sized, s₂, hsize, h⟩ := bind_eq_ok h
            cases sized with
            | vetoed veto => cases h
            | stuck => cases h
            | quantity qty =>
                obtain ⟨_, _, hget, h⟩ := bind_eq_ok h
                cases hget
                cases hgates : desk.gates s₂.wallet setup qty with
                | some veto =>
                    rw [hgates] at h
                    cases h
                | none =>
                    rw [hgates] at h
                    cases h
                    exact ⟨s₁, rfl, hleverage, hsize, hgates⟩
  · rintro ⟨s₁, hanchor, hleverage, hsize, hgates⟩
    rw [hanchor]
    dsimp only
    rw [bind_of_ok hleverage, if_pos rfl, bind_of_ok hsize]
    dsimp only
    rw [bind_of_ok (show (get : Live World) s' = .ok s' s' from rfl), hgates]
    rfl

/-- The attempt hands nothing to the signal bus or to the wallet; it creates no
order, logs none and publishes no signal. -/
structure Desk.NoTrade (desk : Desk) (quote : Quote) (fundingRate : Decimal)
    (regimeCtx : RegimeContext) (ctx : EntryContext) (s : World) : Prop where
  handsOn : ∀ plan s₁, desk.regimeAdmits regimeCtx → ¬ desk.fundingExtreme ctx.setup.side fundingRate →
    desk.prepare env quote { ctx with regimeCtx := some regimeCtx } s ≠ .ok (.ready plan) s₁
  quiet : s.Quiet (final (desk.evaluateAndEnter env quote fundingRate regimeCtx ctx) s)
  unpublished : ∀ signal s', desk.evaluateAndEnter env quote fundingRate regimeCtx ctx s ≠
    .ok (some (.published signal)) s'

/-- What lets an entry of size zero through: neither the mode nor the funding
guard nor dynamic leverage stops it, zero is below the venue's minimum, the
minimum is affordable, and it passes the gates. -/
structure Desk.AdmitsMinimum (desk : Desk) (quote : Quote) (fundingRate : Decimal)
    (regimeCtx : RegimeContext) (ctx : EntryContext) (plan : EntryPlan) (s s₁ s₂ : World) :
    Prop where
  mode : desk.regimeAdmits regimeCtx
  funding : ¬ desk.fundingExtreme ctx.setup.side fundingRate
  anchored : desk.anchor quote ctx.setup = .ok plan.setup
  leverage : desk.applyDynamicLeverage env quote plan.setup.entryPrice (some regimeCtx) s = .ok true s₁
  minimum : desk.TakesMinimum env ctx plan.setup s₁ plan.quantity s₂
  gates : desk.gates s₂.wallet plan.setup plan.quantity = none

section NoTrade

variable {desk : Desk} {quote : Quote} {fundingRate : Decimal} {regimeCtx : RegimeContext}
  {ctx : EntryContext} {s : World}

theorem Desk.riskBudget_eq_zero
    (hzero : regimeCtx.sizeMultiplier = 0 ∨ desk.riskBudgetFraction = 0) (w : Wallet) :
    desk.riskBudget { ctx with regimeCtx := some regimeCtx } w = 0 := by
  unfold Desk.riskBudget EntryContext.sizeMultiplier
  rcases hzero with hzero | hzero
  · simp [hzero]
  · simp [hzero]

/-- An attempt that hands nothing on leaves nothing behind. -/
theorem Desk.noTrade_of_handsOn
    (h : ∀ plan s₁, desk.regimeAdmits regimeCtx → ¬ desk.fundingExtreme ctx.setup.side fundingRate →
      desk.prepare env quote { ctx with regimeCtx := some regimeCtx } s ≠ .ok (.ready plan) s₁) :
    desk.NoTrade env quote fundingRate regimeCtx ctx s := by
  set ctx' : EntryContext := { ctx with regimeCtx := some regimeCtx }
  have hwp : wp (desk.evaluateAndEnter env quote fundingRate regimeCtx ctx)
      (fun outcome s' => s.Quiet s' ∧ ∀ signal, outcome ≠ some (.published signal))
      (fun _ s' => s.Quiet s') s := by
    unfold Desk.evaluateAndEnter
    by_cases hadmits : desk.regimeAdmits regimeCtx && !desk.fundingExtreme ctx.setup.side fundingRate
    · rw [if_pos hadmits]
      rw [Bool.and_eq_true, Bool.not_eq_true', ← Bool.not_eq_true] at hadmits
      unfold Desk.executeEntry
      rw [wp_bind, wp_bind]
      have hquiet := desk.prepare_quiet env quote ctx' s
      unfold wp at hquiet ⊢
      cases hrun : desk.prepare env quote ctx' s with
      | error e s₁ =>
          rw [hrun] at hquiet
          exact hquiet
      | ok prepared s₁ =>
          rw [hrun] at hquiet
          cases prepared with
          | vetoed veto => exact ⟨hquiet, fun _ h => (by cases h)⟩
          | stuck => exact ⟨hquiet, fun _ h => (by cases h)⟩
          | ready plan => exact absurd hrun (h plan s₁ hadmits.1 hadmits.2)
    · rw [if_neg hadmits]
      exact ⟨refl_of World.Quiet s, fun _ h => (by cases h)⟩
  refine ⟨h, (wp_final _).mp (wp_mono hwp (fun _ _ h => h.1) (fun _ _ h => h)), ?_⟩
  intro signal s' hrun
  exact (wp_ok hwp hrun).2 signal rfl

/-- An entry of size zero trades exactly when the venue's minimum is admitted in
its place. -/
theorem Desk.noTrade_iff (hzero : regimeCtx.sizeMultiplier = 0 ∨ desk.riskBudgetFraction = 0) :
    desk.NoTrade env quote fundingRate regimeCtx ctx s ↔
      ¬ ∃ plan s₁ s₂, desk.AdmitsMinimum env quote fundingRate regimeCtx ctx plan s s₁ s₂ := by
  have hready (plan : EntryPlan) (s₂ : World) :
      desk.prepare env quote { ctx with regimeCtx := some regimeCtx } s = .ok (.ready plan) s₂ ↔
        ∃ s₁, desk.anchor quote ctx.setup = .ok plan.setup ∧
          desk.applyDynamicLeverage env quote plan.setup.entryPrice (some regimeCtx) s =
            .ok true s₁ ∧
          desk.TakesMinimum env ctx plan.setup s₁ plan.quantity s₂ ∧
          desk.gates s₂.wallet plan.setup plan.quantity = none := by
    rw [Desk.prepare_ready_iff]
    refine exists_congr (fun s₁ => and_congr_right (fun _ => and_congr_right (fun _ =>
      and_congr_left (fun _ => ?_))))
    rw [Desk.size_zero_iff env desk (Desk.riskBudget_eq_zero hzero s₁.wallet)]
    exact ⟨fun h => ⟨h.threshold, h.stop, h.mapper, h.spec, h.positive, h.affordable⟩,
      fun h => ⟨h.threshold, h.stop, h.mapper, h.spec, h.positive, h.affordable⟩⟩
  constructor
  · rintro h ⟨plan, s₁, s₂, hmode, hfunding, hanchored, hleverage, hminimum, hgates⟩
    exact h.handsOn plan s₂ hmode hfunding
      ((hready plan s₂).mpr ⟨s₁, hanchored, hleverage, hminimum, hgates⟩)
  · intro h
    refine Desk.noTrade_of_handsOn env (fun plan s₂ hmode hfunding hrun => h ?_)
    obtain ⟨s₁, hanchored, hleverage, hminimum, hgates⟩ := (hready plan s₂).mp hrun
    exact ⟨plan, s₁, s₂, hmode, hfunding, hanchored, hleverage, hminimum, hgates⟩

/-- The legacy path trades in no regime that the classifier scales to zero. -/
theorem Desk.noTrade_of_legacy (hmode : desk.mode = .legacy) (c : RegimeClassifier)
    (hhigh : 0 < c.sizeHigh) (hlow : 0 < c.sizeLow) (m : RegimeMetrics)
    (hzero : (c.classify m).sizeMultiplier = 0) :
    desk.NoTrade env quote fundingRate (c.classify m) ctx s := by
  refine Desk.noTrade_of_handsOn env (fun plan s₁ hadmits => ?_)
  have hblocked := (c.sizeMultiplier_eq_zero_iff hhigh hlow m).mp hzero
  unfold Desk.regimeAdmits at hadmits
  rw [hmode] at hadmits
  simp only [Bool.and_eq_true] at hadmits
  exact absurd hadmits.1 hblocked

end NoTrade

/-! ### A dead market with and without a minimum -/

/-- A live desk of the supertrend2 mode, where the venue asks for 5 USDT. -/
def liveDesk (mapper : Bool) : Desk :=
  { symbol := demoSymbol
    cfg := some
      { strategyMode := .supertrend2
        usesExchange := true
        maxLeverage := 10
        riskPerTradePct := 2 / 100 }
    venue := some { mapper := mapper } }

def minimumEnv : Env :=
  { venue := { fairVenue (1 / 100) with instrument := fun _ => ⟨1 / 100, 1 / 100, 1 / 100, 5, 10⟩ } }

/-- Hardly any volume. -/
def deadMarket : RegimeMetrics :=
  { baseRegime := .ranging
    adx := 10
    rvol := 1 / 10
    oiDelta := 0
    liquidationIntensity := 0
    isKillZone := false }

theorem Desk.noTrade_deadMarket :
    Desk.NoTrade minimumEnv { symbol := demoSymbol, cfg := none, venue := some { mapper := true } }
      demoQuote 0 (({} : RegimeClassifier).classify deadMarket) demoContext demoWorld :=
  Desk.noTrade_of_legacy minimumEnv rfl {} (by decide +kernel) (by decide +kernel) deadMarket
    (by decide +kernel)

/-- Without a mapper there is no minimum to take. -/
theorem Desk.noTrade_unmapped :
    (liveDesk false).NoTrade minimumEnv demoQuote 0 (({} : RegimeClassifier).classify deadMarket)
      demoContext demoWorld := by
  refine (Desk.noTrade_iff minimumEnv (Or.inl (by decide +kernel))).mpr ?_
  rintro ⟨plan, s₁, s₂, h⟩
  exact absurd h.minimum.mapper (by decide)

/-- With one, the dead market is traded at the minimum. -/
theorem Desk.not_noTrade_deadMarket :
    ¬ ∀ (env : Env) (desk : Desk) (quote : Quote) (fundingRate : Decimal) (c : RegimeClassifier)
        (m : RegimeMetrics) (ctx : EntryContext) (s : World),
        (c.classify m).sizeMultiplier = 0 ∨ desk.riskBudgetFraction = 0 →
        desk.NoTrade env quote fundingRate (c.classify m) ctx s := by
  intro h
  have hquiet := (h minimumEnv (liveDesk true) demoQuote 0 {} deadMarket demoContext demoWorld
    (Or.inl (by decide +kernel))).quiet.created_eq
  have hcreated := congrArg List.length hquiet
  revert hcreated
  decide +kernel

end CryptoTrader
