import CryptoTrader.Engine.Regime

/-!
# Margin and leverage rules

`MarginEngine`, `LeverageEngine` and `DynamicLeverageManager` of
`margin_engine.py`.  A check returns nothing when it passes, and otherwise the
text it rejects with.
-/

namespace CryptoTrader

/-- `SYSTEM_MAX_LEVERAGE`. -/
def systemMaxLeverage : Int := 10

/-! ## Margin -/

/-- `MarginEngine`. -/
structure MarginEngine where
  maxMarginUtilization : Decimal := 25 / 100
  minLiquidationDistancePct : Decimal := 3 / 100
  deriving DecidableEq

/-- `f"{x:.2%}"`. -/
def pyPercent (x : Decimal) : String := pyFixed 2 (x * 100) ++ "%"

/-- `check_margin_utilization`. -/
def MarginEngine.checkMarginUtilization (m : MarginEngine)
    (totalMaintenanceMargin walletBalance : Decimal) : Option String :=
  if walletBalance ≤ 0 then some "Wallet balance is zero or negative."
  else
    let utilization := totalMaintenanceMargin / walletBalance
    if m.maxMarginUtilization < utilization then
      some s!"Margin utilization too high: {pyPercent utilization} > {pyPercent m.maxMarginUtilization}"
    else none

/-- How far the liquidation price is from the entry, in the direction of the
loss. -/
def PositionSide.liquidationDistance (side : PositionSide) (entryPrice liquidationPrice : Decimal) :
    Decimal :=
  match side with
  | .long => (entryPrice - liquidationPrice) / entryPrice
  | .short => (liquidationPrice - entryPrice) / entryPrice

/-- The stop lies at the liquidation price or past it. -/
def PositionSide.stopPastLiquidation (side : PositionSide) (stopLossPrice liquidationPrice : Decimal) :
    Option String :=
  match side with
  | .long =>
      if stopLossPrice ≤ liquidationPrice then
        some s!"Stop loss {pyFixed 4 stopLossPrice} is BELOW liquidation {pyFixed 4 liquidationPrice}"
      else none
  | .short =>
      if liquidationPrice ≤ stopLossPrice then
        some s!"Stop loss {pyFixed 4 stopLossPrice} is ABOVE liquidation {pyFixed 4 liquidationPrice}"
      else none

/-- `check_liquidation_distance`. -/
def MarginEngine.checkLiquidationDistance (m : MarginEngine)
    (entryPrice stopLossPrice liquidationPrice : Decimal) (side : PositionSide) : Option String :=
  if entryPrice ≤ 0 then some "Invalid entry price"
  else
    match side.stopPastLiquidation stopLossPrice liquidationPrice with
    | some msg => some msg
    | none =>
        let dist := side.liquidationDistance entryPrice liquidationPrice
        if dist < m.minLiquidationDistancePct then
          some (s!"Liquidation distance too small: {pyPercent dist} < " ++
            pyPercent m.minLiquidationDistancePct)
        else none

/-- What a stop that passes satisfies. -/
theorem MarginEngine.checkLiquidationDistance_eq_none (m : MarginEngine)
    {entryPrice stopLossPrice liquidationPrice : Decimal} {side : PositionSide}
    (h : m.checkLiquidationDistance entryPrice stopLossPrice liquidationPrice side = none) :
    0 < entryPrice ∧
      m.minLiquidationDistancePct ≤ side.liquidationDistance entryPrice liquidationPrice ∧
      (match side with
        | .long => liquidationPrice < stopLossPrice
        | .short => stopLossPrice < liquidationPrice) := by
  unfold checkLiquidationDistance at h
  by_cases hentry : entryPrice ≤ 0
  · simp [hentry] at h
  · rw [if_neg hentry] at h
    cases hstop : side.stopPastLiquidation stopLossPrice liquidationPrice with
    | some msg => simp [hstop] at h
    | none =>
        rw [hstop] at h
        dsimp only at h
        by_cases hdist : side.liquidationDistance entryPrice liquidationPrice <
            m.minLiquidationDistancePct
        · simp [hdist] at h
        · refine ⟨not_le.mp hentry, not_lt.mp hdist, ?_⟩
          cases side with
          | long =>
              by_contra hle
              simp [PositionSide.stopPastLiquidation, not_lt.mp hle] at hstop
          | short =>
              by_contra hle
              simp [PositionSide.stopPastLiquidation, not_lt.mp hle] at hstop

/-! ## Leverage -/

/-- `LeverageEngine`. -/
structure LeverageEngine where
  hardMaxLeverage : Int := systemMaxLeverage
  deriving DecidableEq

/-- `validate_leverage_tier`. -/
def LeverageEngine.validateLeverageTier (e : LeverageEngine) (requestedLeverage : Leverage)
    (positionNotional maxNotionalForTier : Decimal) : Option String :=
  if e.hardMaxLeverage < (requestedLeverage : ℕ) then
    some s!"Requested leverage {requestedLeverage.val}x exceeds hard max {e.hardMaxLeverage}x"
  else if maxNotionalForTier < positionNotional then
    some (s!"Position notional {pyFixed 2 positionNotional} exceeds tier max " ++
      s!"{pyFixed 2 maxNotionalForTier} for {requestedLeverage.val}x")
  else none

/-- `DynamicLeverageManager`; the constructor clamps `max_leverage` to the system
cap. -/
structure DynamicLeverageManager where
  minLeverage : Int := 5
  maxLeverage : Int := systemMaxLeverage
  highVolThreshold : Decimal := 5 / 100
  extremeVolThreshold : Decimal := 10 / 100
  ddSevere : Decimal := 10 / 100
  ddModerate : Decimal := 5 / 100
  marginHigh : Decimal := 50 / 100
  marginModerate : Decimal := 25 / 100
  capped : maxLeverage ≤ systemMaxLeverage := by decide

/-- `_REGIME_FACTOR`; an unknown regime is neutral. -/
def regimeFactor : Option ExtendedRegime → Decimal
  | some .trendExpansion => 1
  | some .breakoutEnvironment => 85 / 100
  | some .accumulation => 50 / 100
  | some .meanReversion => 25 / 100
  | some .lowVolChop => 20 / 100
  | some .deadMarket | some .liquidationEvent | some .highRiskChaos => 0
  | none => 1 / 2

/-- `1` up to `moderate`, `0` from `severe` on, linear between. -/
def healthFactor (x moderate severe : Decimal) : Decimal :=
  if x ≤ moderate then 1
  else if severe ≤ x then 0
  else 1 - (x - moderate) / max (1 / 1000000000) (severe - moderate)

/-- The factor of the volatility. -/
def DynamicLeverageManager.volFactor (d : DynamicLeverageManager) (atrPct : Decimal) : Decimal :=
  if atrPct ≤ d.highVolThreshold then 1
  else
    max 0 (1 - (atrPct - d.highVolThreshold) /
      max (1 / 1000000000) (d.extremeVolThreshold - d.highVolThreshold))

/-- Without a conviction there is no influence; a given one counts between 0 and
1. -/
def convictionFactor : Option Decimal → Decimal
  | none => 1
  | some conviction => max 0 (min 1 conviction)

/-- The arguments of `compute`.  A text that names no regime is `none`. -/
structure LeverageInputs where
  baseLeverage : Int
  venueMaxLeverage : Option Int := none
  atrPct : Decimal := 0
  drawdown : Decimal := 0
  marginRatio : Decimal := 0
  regime : Option ExtendedRegime := none
  conviction : Option Decimal := none

/-- The ceiling of the band: the configured one, the base and the venue's.  A base
or a cap of 0 counts as none. -/
def DynamicLeverageManager.ceiling (d : DynamicLeverageManager) (i : LeverageInputs) : Int :=
  let base := min d.maxLeverage (if i.baseLeverage = 0 then d.maxLeverage else i.baseLeverage)
  match i.venueMaxLeverage with
  | none => base
  | some cap => if cap = 0 then base else min base cap

/-- The floor of the band. -/
def DynamicLeverageManager.floor (d : DynamicLeverageManager) (i : LeverageInputs) : Int :=
  min d.minLeverage (d.ceiling i)

/-- How favourable the inputs are. -/
def DynamicLeverageManager.score (d : DynamicLeverageManager) (i : LeverageInputs) : Decimal :=
  d.volFactor i.atrPct * regimeFactor i.regime *
    healthFactor i.drawdown d.ddModerate d.ddSevere *
    healthFactor i.marginRatio d.marginModerate d.marginHigh * convictionFactor i.conviction

/-- `compute`; `0` halts. -/
def DynamicLeverageManager.compute (d : DynamicLeverageManager) (i : LeverageInputs) : Int :=
  let ceiling := d.ceiling i
  let floor := d.floor i
  let span := max 0 (ceiling - floor)
  if span = 0 then ceiling
  else if d.extremeVolThreshold ≤ i.atrPct then 0
  else if i.regime.any (fun regime => !regime.allowsNewEntries) then 0
  else max floor (min (roundHalfEven (floor + d.score i * span)) ceiling)

end CryptoTrader
