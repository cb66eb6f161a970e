import CryptoTrader.Engine.Margin
import CryptoTrader.Live.MakerLimit

/-!
# The entry path of the engine

`_execute_entry` of `engine_ws.py` and what it calls: the checks on the price
feed, the re-anchoring of the setup, dynamic leverage, sizing with the bump to
the venue minimum, the gates, and handing the order to the signal bus or to
the wallet.  The strategies themselves are outside: an entry path starts from
the setup one of them returned.
-/

namespace CryptoTrader

open CryptoTrader.Lib

/-! ## Configuration and inputs -/

/-- The values of `strategy_mode`. -/
inductive StrategyMode where
  | legacy
  | supertrend2
  | meanReversion
  | smc
  | smc5c
  | liquiditySweep
  | mtfAlignment
  | regimeSwitch
  deriving DecidableEq, Repr

/-- What the entry path reads of `TradingConfig`, and the regimes that
`PlaybookRegimeSwitch` allows. -/
structure TradingConfig where
  strategyMode : StrategyMode := .legacy
  usesExchange : Bool
  maxLeverage : Leverage
  riskPerTradePct : Decimal
  maxMarginUtilization : Decimal := 40 / 100
  feedStaleMs : Int := 15000
  basisGuardEnabled : Bool := true
  maxCrossVenueBasis : Decimal := 5 / 1000
  entryBasisBuffer : Decimal := 5 / 10000
  fundingExtremeThreshold : Decimal := 5 / 10000
  feeAwarenessEnabled : Bool := true
  feeSafetyBufferBps : Decimal := 5
  minProfitVsFeesRatio : Decimal := 15 / 10
  entryOrderStyle : EntryOrderStyle := .market
  adaptiveEntrySpreadThresholdBps : Decimal := 2
  makerLimitOffsetBps : Decimal := 1
  makerLimitFallback : String := "market"
  allowedRegimes : List ExtendedRegime := []
  rsAllowedRegimes : List ExtendedRegime := [.trendExpansion, .breakoutEnvironment]
  deriving DecidableEq

/-- What `hasattr` finds on the wallet's execution engine. -/
structure EngineApi where
  mapper : Bool := true
  setLeverage : Bool := true
  deriving DecidableEq

/-- A `WebSocketTradingEngine`, as far as its entry path reads it; `venue` is
the execution engine attached to its wallet. -/
structure Desk where
  symbol : Symbol
  cfg : Option TradingConfig
  riskBudgetFraction : Decimal := 1
  dynamicLeverage : Option DynamicLeverageManager := none
  leverageEngine : LeverageEngine := {}
  venue : Option EngineApi := none
  publishes : Bool := false

/-- What is read at the moment of the entry: the age of the price feed and its
prices, the mark of CoinDCX and the ATR when they are available, the session
peak of the balance, and how often a maker order is polled. -/
structure Quote where
  dataAgeMs : Option Int
  ltp : Decimal
  mid : Decimal
  spread : Decimal
  venueMark : Option Decimal := none
  atr : Option Decimal := none
  peakBalance : Decimal := 0
  polls : Nat := 16
  deriving DecidableEq

/-- What is read of `EntryContext`. -/
structure EntryContext where
  setup : Setup
  finalScore : Decimal
  dynamicThreshold : Decimal
  regimeCtx : Option RegimeContext := none
  deriving DecidableEq

/-- Why an entry is not taken. -/
inductive EntryVeto where
  | feedStale (age : Option Int) (staleMs : Int)
  | ltpUnavailable (ltp mid : Decimal)
  | basis (value maxBasis : Decimal)
  | dynamicLeverageHalt
  | noStop
  | minNotionalUnaffordable (need available : Decimal)
  | specUnavailableLive (msg : String)
  | qtyZero (stopDistance : Decimal)
  | marginUtilization (msg : String)
  | liquidationDistance (msg : String)
  | leverageTier (msg : String)
  | feeGate
  deriving DecidableEq

/-- The reason published with the rejection, if one is; numbers are printed as
fractions. -/
def EntryVeto.reason : EntryVeto → Option String
  | .feedStale age staleMs =>
      let age := match age with
        | none => "None"
        | some age => toString age
      some s!"feed_stale age={age}ms > {staleMs}ms"
  | .ltpUnavailable ltp mid => some s!"ltp_unavailable ltp={ltp} mid={mid}"
  | .basis value maxBasis => some s!"cross-venue basis {value} > {maxBasis}"
  | .dynamicLeverageHalt => some "dynamic_leverage_halt (extreme vol / no-trade regime)"
  | .noStop => none
  | .minNotionalUnaffordable need available =>
      some s!"min_notional_unaffordable need=${pyFixed 2 need} have=${pyFixed 2 available}"
  | .specUnavailableLive msg => some s!"spec_unavailable_live: {msg}"
  | .qtyZero stopDistance => some s!"qty_zero stop_distance={stopDistance}"
  | .marginUtilization msg => some s!"margin_utilization: {msg}"
  | .liquidationDistance msg => some s!"liquidation_distance: {msg}"
  | .leverageTier msg => some s!"leverage_tier: {msg}"
  | .feeGate => some "fee_gate expected_profit < fees×ratio"

/-- `self.cfg.uses_exchange`, `False` without a configuration. -/
def Desk.usesExchange (desk : Desk) : Bool := desk.cfg.any TradingConfig.usesExchange

/-- The margin engine that the constructor sets up. -/
def Desk.marginEngine (desk : Desk) : MarginEngine :=
  { maxMarginUtilization := desk.cfg.elim (40 / 100) TradingConfig.maxMarginUtilization }

/-- `self.cfg.leverage`, which is `max_leverage`; 2 without a configuration. -/
def Desk.configuredLeverage (desk : Desk) : Leverage := desk.cfg.elim 2 TradingConfig.maxLeverage

/-! ## Feed checks and anchoring -/

def defaultSlPct : Decimal := 7 / 1000
def defaultTp1Pct : Decimal := 10 / 1000
def defaultTp2Pct : Decimal := 20 / 1000

/-- A price `pct` away from `price`, against the side for a stop and with it for
a target. -/
def PositionSide.levelAt (side : PositionSide) (price pct : Decimal) (isStop : Bool) : Decimal :=
  match side, isStop with
  | .long, true | .short, false => price * (1 - pct)
  | .long, false | .short, true => price * (1 + pct)

/-- `_reanchor`: a level keeps its ratio to the playbook's entry. -/
def Setup.reanchor (setup : Setup) (entryPrice level fallbackPct : Decimal) (isStop : Bool) :
    Decimal :=
  if 0 < setup.entryPrice ∧ 0 < level then entryPrice * (level / setup.entryPrice)
  else setup.side.levelAt entryPrice fallbackPct isStop

/-- The setup at the actual entry price. -/
def Setup.anchored (setup : Setup) (entryPrice : Decimal) : Setup :=
  { setup with
    entryPrice := entryPrice
    slPrice := setup.reanchor entryPrice setup.slPrice defaultSlPct true
    tpPrice := setup.tpPrice.map (fun price => setup.reanchor entryPrice price defaultTp1Pct false)
    tpLevels :=
      if setup.tpPrice.isSome then setup.tpLevels
      else setup.tpLevels.map (fun level =>
        { level with
          price := setup.reanchor entryPrice level.price
            (if level.label = "TP1" then defaultTp1Pct else defaultTp2Pct) false }) }

/-- `_basis_guard`. -/
def Desk.basisGuard (desk : Desk) (quote : Quote) : Option EntryVeto :=
  match desk.cfg, quote.venueMark with
  | some cfg, some mark =>
      let basis := (mark - quote.mid) / quote.mid
      if cfg.basisGuardEnabled ∧ 0 < quote.mid ∧ 0 < mark ∧ cfg.maxCrossVenueBasis < |basis| then
        some (.basis basis cfg.maxCrossVenueBasis)
      else none
  | _, _ => none

/-- The price the entry is sized at. -/
def Desk.entryPrice (desk : Desk) (quote : Quote) (side : PositionSide) : Decimal :=
  let buf := (desk.cfg.filter TradingConfig.basisGuardEnabled).elim 0 TradingConfig.entryBasisBuffer
  match side with
  | .long => quote.mid * (1 + buf)
  | .short => quote.mid * (1 - buf)

/-- `_execute_entry` up to the re-anchored setup. -/
def Desk.anchor (desk : Desk) (quote : Quote) (setup : Setup) : Except EntryVeto Setup :=
  let staleMs := desk.cfg.elim 15000 TradingConfig.feedStaleMs
  if ¬ quote.dataAgeMs.any (fun age => age ≤ staleMs) then .error (.feedStale quote.dataAgeMs staleMs)
  else if quote.ltp ≤ 0 ∨ quote.mid ≤ 0 then .error (.ltpUnavailable quote.ltp quote.mid)
  else
    match desk.basisGuard quote with
    | some veto => .error veto
    | none => .ok (setup.anchored (desk.entryPrice quote setup.side))

/-! ## Dynamic leverage -/

/-- `set_symbol_leverage`. -/
def Wallet.setSymbolLeverage (w : Wallet) (symbol : Symbol) (leverage : Leverage) : Wallet :=
  { w with symbolLeverages := w.symbolLeverages.set symbol leverage }

/-- What `_apply_dynamic_leverage` computes from. -/
def Desk.leverageInputs (desk : Desk) (quote : Quote) (entryPrice : Decimal)
    (regimeCtx : Option RegimeContext) (venueMax : Option Leverage) (w : Wallet) : LeverageInputs :=
  { baseLeverage := desk.cfg.elim 5 (fun cfg => (cfg.maxLeverage : ℕ))
    venueMaxLeverage := venueMax.map (fun cap => ((cap : ℕ) : Int))
    atrPct := if 0 < entryPrice then quote.atr.elim 0 (· / entryPrice) else 0
    drawdown :=
      if 0 < quote.peakBalance ∧ w.marginBalance < quote.peakBalance then
        (quote.peakBalance - w.marginBalance) / quote.peakBalance
      else 0
    marginRatio := if 0 < w.marginBalance then w.usedMargin / w.marginBalance else 0
    regime := regimeCtx.map RegimeContext.extended }

variable (env : Env)

/-- The leverage cap of the instrument; `None` when it cannot be read. -/
def Desk.readVenueMax (desk : Desk) : Live (Option Leverage) :=
  if desk.venue.any EngineApi.mapper then
    tryCatch (do
        let spec ← getSpec env desk.symbol
        pure (some spec.maxLeverage))
      (fun _ => pure none)
  else pure none

/-- The venue is told first, when there is one; a failure is logged. -/
def Desk.pushLeverage (desk : Desk) (leverage : Leverage) : Live Bool :=
  if desk.usesExchange ∧ desk.venue.any EngineApi.setLeverage then
    tryCatch (setLeverage env desk.symbol leverage) (fun _ => pure false)
  else pure false

/-- `_apply_dynamic_leverage`, and nothing when the feature is off; `False` skips
the entry. -/
def Desk.applyDynamicLeverage (desk : Desk) (quote : Quote) (entryPrice : Decimal)
    (regimeCtx : Option RegimeContext) : Live Bool :=
  match desk.dynamicLeverage with
  | none => pure true
  | some manager => do
      let venueMax ← desk.readVenueMax env
      let s ← get
      let lev := manager.compute (desk.leverageInputs quote entryPrice regimeCtx venueMax s.wallet)
      if lev ≤ 0 then pure false
      else do
        let _ ← desk.pushLeverage env lev.toNat.toPNat'
        modifyWallet (fun w => w.setSymbolLeverage desk.symbol lev.toNat.toPNat')
        pure true

/-! ## Sizing -/

/-- The leverage of the affordability check, the liquidation gate and the tier
check. -/
def Desk.gateLeverage (desk : Desk) (w : Wallet) : Leverage :=
  if w.liveExecution then w.getLeverage desk.symbol
  else desk.configuredLeverage

/-- What the risk budget is multiplied with. -/
def EntryContext.sizeMultiplier (ctx : EntryContext) : Decimal :=
  min (ctx.finalScore / ctx.dynamicThreshold) 1 *
    ctx.regimeCtx.elim 1 RegimeContext.sizeMultiplier

/-- The scaled risk budget. -/
def Desk.riskBudget (desk : Desk) (ctx : EntryContext) (w : Wallet) : Decimal :=
  w.marginBalance * desk.cfg.elim (2 / 100) TradingConfig.riskPerTradePct *
    desk.riskBudgetFraction * ctx.sizeMultiplier

/-- `Decimal.to_integral_value(rounding=ROUND_UP)`. -/
def toIntegralUp (value : Decimal) : Int := if 0 ≤ value then ⌈value⌉ else ⌊value⌋

/-- Below one of the venue's minimums. -/
def InstrumentSpec.belowMinimum (spec : InstrumentSpec) (price qty : Decimal) : Bool :=
  qty < spec.minQuantity || qty * price < spec.minNotional

/-- The `while` loop after the rounding, with the steps that can be of use left;
`none` when it never ends. -/
def InstrumentSpec.raise (spec : InstrumentSpec) (price : Decimal) : Nat → Decimal → Option Decimal
  | fuel, qty =>
      if spec.belowMinimum price qty then
        match fuel with
        | 0 => none
        | fuel + 1 =>
            spec.raise price fuel
              (qty + if 0 < spec.quantityIncrement then spec.quantityIncrement
                else spec.minQuantity - qty)
      else some qty

/-- The smallest quantity the venue takes at a price: the larger minimum, rounded
up to the increment. -/
def InstrumentSpec.minimumOrder (spec : InstrumentSpec) (price : Decimal) : Option Decimal :=
  let inc := spec.quantityIncrement
  let target := max (if 0 < price then spec.minNotional / price else spec.minQuantity)
    spec.minQuantity
  let rounded := if 0 < inc then (toIntegralUp (target / inc) : Decimal) * inc else target
  spec.raise price ⌈(target - rounded) / inc⌉.toNat rounded

/-- What sizing comes to. -/
inductive Sized where
  | vetoed (veto : EntryVeto)
  | stuck
  | quantity (qty : Decimal)
  deriving DecidableEq

/-- The smallest order, if its margin is free. -/
def Desk.bumped (desk : Desk) (spec : InstrumentSpec) (price : Decimal) (w : Wallet) : Sized :=
  match spec.minimumOrder price with
  | none => .stuck
  | some qty =>
      let required := qty * price / (desk.gateLeverage w : ℕ)
      let available := w.marginBalance - w.usedMargin
      if available < required then .vetoed (.minNotionalUnaffordable required available)
      else .quantity qty

/-- Bump-to-minimum sizing. -/
def Desk.bump (desk : Desk) (price qty : Decimal) : Live Sized :=
  if desk.venue.any EngineApi.mapper then do
    match ← attempt (getSpec env desk.symbol) with
    | .error e =>
        pure (if desk.usesExchange then .vetoed (.specUnavailableLive e.pyStr) else .quantity qty)
    | .ok spec => do
        let s ← get
        pure (if spec.belowMinimum price qty then desk.bumped spec price s.wallet
          else .quantity qty)
  else pure (.quantity qty)

/-- The distance from the entry to the stop. -/
def Setup.stopDistance (setup : Setup) : Decimal := |setup.entryPrice - setup.slPrice|

/-- Risk-based sizing from the stop distance. -/
def Desk.size (desk : Desk) (ctx : EntryContext) (setup : Setup) : Live Sized := do
  let s ← get
  if ctx.dynamicThreshold = 0 then throw .divisionByZero
  else if setup.stopDistance ≤ 0 then pure (.vetoed .noStop)
  else do
    match ← desk.bump env setup.entryPrice (desk.riskBudget ctx s.wallet / setup.stopDistance) with
    | .quantity qty => pure (if qty ≤ 0 then .vetoed (.qtyZero setup.stopDistance) else .quantity qty)
    | sized => pure sized

/-! ## Gates -/

/-- The liquidation price the gate computes. -/
def gateLiquidationPrice (side : PositionSide) (entryPrice : Decimal) (leverage : Leverage)
    (maintenanceMarginRatio : Decimal) : Decimal :=
  match side with
  | .long => entryPrice / (1 + 1 / (leverage : ℕ) - maintenanceMarginRatio)
  | .short => entryPrice / (1 - 1 / (leverage : ℕ) + maintenanceMarginRatio)

/-- The fee gate: the profit at the first target pays for the fees. -/
def Desk.feeGate (desk : Desk) (w : Wallet) (setup : Setup) (qty : Decimal) : Bool :=
  match desk.cfg.filter TradingConfig.feeAwarenessEnabled with
  | none => true
  | some cfg =>
      let notional := qty * setup.entryPrice
      let cost := notional * w.takerFeeRate * 2 + notional * (cfg.feeSafetyBufferBps / 10000)
      let tp := ((setup.tpPrice.filter (· ≠ 0)).or
        (setup.tpLevels.head?.map TpLevel.price)).filter (· ≠ 0)
      let profit := tp.elim (notional * (1 / 100)) (fun price => |price - setup.entryPrice| * qty)
      cost * cfg.minProfitVsFeesRatio ≤ profit

/-- The gates on a sized entry. -/
def Desk.gates (desk : Desk) (w : Wallet) (setup : Setup) (qty : Decimal) : Option EntryVeto :=
  match desk.marginEngine.checkMarginUtilization w.usedMargin w.marginBalance with
  | some msg => some (.marginUtilization msg)
  | none =>
      let leverage := desk.gateLeverage w
      match desk.marginEngine.checkLiquidationDistance setup.entryPrice setup.slPrice
          (gateLiquidationPrice setup.side setup.entryPrice leverage w.maintenanceMarginRatio)
          setup.side with
      | some msg => some (.liquidationDistance msg)
      | none =>
          match desk.leverageEngine.validateLeverageTier leverage (qty * setup.entryPrice) 50000 with
          | some msg => some (.leverageTier msg)
          | none => if desk.feeGate w setup qty then none else some .feeGate

/-! ## The whole path -/

/-- A sized entry that passed every gate. -/
structure EntryPlan where
  setup : Setup
  quantity : Decimal
  deriving DecidableEq

/-- What the entry path comes to before it hands the order on. -/
inductive Prepared where
  | vetoed (veto : EntryVeto)
  | stuck
  | ready (plan : EntryPlan)
  deriving DecidableEq

/-- `_execute_entry` up to the order style. -/
def Desk.prepare (desk : Desk) (quote : Quote) (ctx : EntryContext) : Live Prepared :=
  match desk.anchor quote ctx.setup with
  | .error veto => pure (.vetoed veto)
  | .ok setup => do
      if ← desk.applyDynamicLeverage env quote setup.entryPrice ctx.regimeCtx then
        match ← desk.size env ctx setup with
        | .vetoed veto => pure (.vetoed veto)
        | .stuck => pure .stuck
        | .quantity qty => do
            let s ← get
            match desk.gates s.wallet setup qty with
            | some veto => pure (.vetoed veto)
            | none => pure (.ready ⟨setup, qty⟩)
      else pure (.vetoed .dynamicLeverageHalt)

/-- `use_maker`: the adaptive style goes by the spread. -/
def Desk.useMaker (desk : Desk) (quote : Quote) (setup : Setup) : Bool :=
  match desk.cfg.map TradingConfig.entryOrderStyle with
  | some .makerLimit => setup.entryOrderStyle = .makerLimit
  | _ =>
      let thresholdBps := desk.cfg.elim 2 TradingConfig.adaptiveEntrySpreadThresholdBps
      thresholdBps ≤ quote.spread / quote.mid * 100 * 100

/-- What is published of an entry; the rest of its metadata is not read here. -/
structure Signal where
  symbol : Symbol
  side : PositionSide
  quantity : Decimal
  orderType : OrderType
  price : Decimal
  slPrice : Decimal
  deriving DecidableEq

/-- How `_execute_entry` ends when it does not raise. -/
inductive EntryOutcome where
  | vetoed (veto : EntryVeto)
  | stuck
  | published (signal : Signal)
  | unfilled
  | opened (pos : Option EnhancedPosition)
  deriving DecidableEq

/-- The end of `_execute_entry`: the signal bus, or the wallet. -/
def Desk.submit (desk : Desk) (quote : Quote) (plan : EntryPlan) : Live EntryOutcome :=
  let useMaker := desk.useMaker quote plan.setup
  let setup : Setup :=
    { plan.setup with entryOrderStyle := if useMaker then .makerLimit else .market }
  if desk.publishes then
    pure (.published
      { symbol := desk.symbol
        side := setup.side
        quantity := plan.quantity
        orderType := if useMaker then .limit else .market
        price := setup.entryPrice
        slPrice := setup.slPrice })
  else
    match desk.cfg.filter (fun cfg => useMaker && cfg.usesExchange) with
    | none => do
        let pos ← openPosition env .none desk.symbol setup setup.entryPrice none (some plan.quantity)
          none
        pure (.opened pos)
    | some cfg => do
        match ← acquireLiveEntryFill env desk.symbol setup.side plan.quantity setup.entryPrice
            ⟨cfg.makerLimitOffsetBps, cfg.makerLimitFallback, quote.polls⟩ with
        | none => pure .unfilled
        | some entry => do
            let bookQty := (entry.filledQuantity.filter (0 < ·)).getD plan.quantity
            let pos ← openPosition env .none desk.symbol setup setup.entryPrice none (some bookQty)
              (some entry.fill)
            pure (.opened pos)

/-- `_execute_entry`. -/
def Desk.executeEntry (desk : Desk) (quote : Quote) (ctx : EntryContext) : Live EntryOutcome := do
  match ← desk.prepare env quote ctx with
  | .vetoed veto => pure (.vetoed veto)
  | .stuck => pure .stuck
  | .ready plan => desk.submit env quote plan

end CryptoTrader
