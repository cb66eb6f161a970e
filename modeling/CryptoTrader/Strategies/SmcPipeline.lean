import CryptoTrader.Lib.PyValue
import CryptoTrader.Lib.Significant
import CryptoTrader.Strategies.LiquiditySweep

/-!
# The SMC pipeline

`PlaybookSMC` of `strategies/smc_pipeline.py`: gates on the trend, a sweep, a break and
the liquidations, a weighted score of nine factors, and the levels of the setup.  Prices
are exact; the participation that is handed in may be any float.  A division by zero
raises.  The texts of a setup and `last_eval` are left out.
-/

namespace CryptoTrader

open CryptoTrader.Lib

/-- `PlaybookSMC`, within the bounds its constructor enforces; the weights have none. -/
structure PlaybookSMC where
  swingWindow : ℕ := 3
  sweepLookback : ℕ := 12
  structureLookback : ℕ := 12
  oiExpansionPct : ℚ := 3
  volumeMultTarget : ℚ := 3
  rvolTarget : ℚ := 6 / 5
  liqCascadeThreshold : ℚ := 1 / 2
  minScore : ℚ := 70
  atrPeriod : ℕ := 14
  slBufferAtr : ℚ := 1 / 2
  slAtrMult : ℚ := 3 / 2
  tpRr : ℚ := 2
  maxHoldHours : ℕ := 24
  wHtf : ℚ := 15 / 100
  wSweep : ℚ := 15 / 100
  wStructure : ℚ := 15 / 100
  wOb : ℚ := 12 / 100
  wFvg : ℚ := 10 / 100
  wOi : ℚ := 12 / 100
  wVol : ℚ := 10 / 100
  wRvol : ℚ := 8 / 100
  wLiq : ℚ := 3 / 100
  swingWindow_ge : 2 ≤ swingWindow := by decide
  sweepLookback_pos : 1 ≤ sweepLookback := by decide
  structureLookback_pos : 1 ≤ structureLookback := by decide
  oiExpansionPct_ge : 1 / 10 ≤ oiExpansionPct := by norm_num
  volumeMultTarget_ge : 1 ≤ volumeMultTarget := by norm_num
  rvolTarget_ge : 1 / 10 ≤ rvolTarget := by norm_num
  liqCascadeThreshold_nonneg : 0 ≤ liqCascadeThreshold := by norm_num
  minScore_nonneg : 0 ≤ minScore := by norm_num
  atrPeriod_ge : 2 ≤ atrPeriod := by decide
  slBufferAtr_nonneg : 0 ≤ slBufferAtr := by norm_num
  slAtrMult_ge : 1 / 2 ≤ slAtrMult := by norm_num
  tpRr_ge : 1 / 2 ≤ tpRr := by norm_num
  maxHoldHours_pos : 1 ≤ maxHoldHours := by decide

/-- What is handed in besides the candles. -/
structure Participation where
  oiDelta : Option PyFloat := none
  oiAvailable : Bool := false
  rvol : PyFloat := .fin 1
  liquidationIntensity : PyFloat := .fin 0

/-- The scores of the factors; that of the open interest is left out where there is
none. -/
structure SmcFactors where
  htf : PyFloat
  sweep : PyFloat
  breaks : PyFloat
  ob : PyFloat
  fvg : PyFloat
  oi : Option PyFloat
  vol : PyFloat
  rvol : PyFloat
  liq : PyFloat

/-- What is kept of the dict `evaluate` returns. -/
structure SmcSetup where
  side : PositionSide
  entryPrice : ℚ
  slPrice : ℚ
  tpPrice : ℚ
  score : PyFloat
  confidenceScore : PyFloat
  sizeMultiplier : ℚ
  factors : SmcFactors
  timeStopHours : ℕ
  fvgZone : Option (ℚ × ℚ)
  obZone : Option (ℚ × ℚ)
  limitEntry : Option ℚ
  sweepPrice : ℚ
  atr : ℚ

/-! ## Numbers -/

/-- `np.clip`. -/
def npClip (lo hi : ℚ) : PyFloat → PyFloat
  | .nan => .nan
  | .negInf => .fin lo
  | .fin x => .fin (max lo (min hi x))
  | .posInf => .fin hi

/-- `x / d`. -/
def pyDiv (x : PyFloat) (d : ℚ) : Except PyErr PyFloat :=
  if d = 0 then .error .divisionByZero else .ok (PyFloat.scale (1 / d) x)

/-- `round(x, places)`. -/
def pyRound (places : ℕ) : PyFloat → PyFloat
  | .fin x => .fin (roundPlaces places x)
  | x => x

def SmcFactors.map (g : PyFloat → PyFloat) (f : SmcFactors) : SmcFactors :=
  { htf := g f.htf
    sweep := g f.sweep
    breaks := g f.breaks
    ob := g f.ob
    fvg := g f.fvg
    oi := f.oi.map g
    vol := g f.vol
    rvol := g f.rvol
    liq := g f.liq }

/-- `BULLISH` for a long. -/
def PositionSide.bias : PositionSide → Structure.Bias
  | .long => .bullish
  | .short => .bearish

namespace PlaybookSMC

open CryptoTrader.Structure

variable (pb : PlaybookSMC)

/-! ## The gates -/

/-- `_min_bars`. -/
def minBars : ℕ := max (max (pb.swingWindow * 2 + 1) (pb.atrPeriod + 2)) 30

/-- `_htf_bias`, as that of the liquidity sweep. -/
def htfBias (df : List Backtest.Candle) : Option PositionSide := LiquiditySweep.htfBias (some df)

/-- The ATR at the last bar, or a share of the price. -/
def atr (df : List Structure.Candle) (entry : ℚ) : ℚ :=
  match (Backtest.computeAtr (df.map (·.toCandle)) pb.atrPeriod).getLastD none with
  | some atr => if atr ≤ 0 then entry * (5 / 1000) else atr
  | none => entry * (5 / 1000)

/-- The latest sweep, if it is in the direction and fresh. -/
def freshSweep (struct : Analysis) (want : Structure.Bias) : Option (Recent Sweep) :=
  struct.recentSweep.filter (fun sweep =>
    sweep.event.type = want ∧ sweep.candlesAgo ≤ pb.sweepLookback)

/-- The latest break of structure, if it is in the direction and fresh. -/
def freshBreak (struct : Analysis) (want : Structure.Bias) : Option (Recent Break) :=
  struct.recentBos.filter (fun brk =>
    brk.event.type = want ∧ brk.candlesAgo ≤ pb.structureLookback)

/-! ## The factors -/

/-- How far the averages are apart. -/
def htfScore (df : List Backtest.Candle) (entry : ℚ) : Except PyErr PyFloat :=
  if 0 < entry then do
    let emaF := (Backtest.computeEma (Backtest.closes df) 9).getLastD 0
    let emaS := (Backtest.computeEma (Backtest.closes df) 21).getLastD 0
    let sep ← pyDiv (.fin |emaF - emaS|) entry
    let full ← pyDiv sep (1 / 100)
    pure (npClip (4 / 10) 1 full)
  else pure (.fin (1 / 2))

/-- How old the sweep is. -/
def sweepScore (sweep : Recent Sweep) : Except PyErr PyFloat := do
  let age ← pyDiv (.fin sweep.candlesAgo) (pb.sweepLookback + 1 : ℕ)
  pure (npClip (3 / 10) 1 (PyFloat.sub (.fin 1) age))

/-- Which kind the break is, and how old. -/
def breakScore (brk : Recent Break) : Except PyErr PyFloat := do
  let base : ℚ := if brk.event.event = .bos then 1 else 6 / 10
  let age ← pyDiv (.fin brk.candlesAgo) (pb.structureLookback + 1 : ℕ)
  let fresh := PyFloat.sub (.fin 1) age
  pure (npClip (3 / 10) 1
    (PyFloat.scale base (PyFloat.add (.fin (1 / 2)) (PyFloat.scale (1 / 2) fresh))))

/-- The order blocks in the direction. -/
def blocks (struct : Analysis) (want : Structure.Bias) : List OrderBlock :=
  struct.unmitigatedOrderBlocks.filter (fun ob => ob.type = want)

/-- The gaps in the direction. -/
def gaps (struct : Analysis) (want : Structure.Bias) : List Fvg :=
  struct.unmitigatedFvgs.filter (fun gap => gap.type = want)

/-- `_ob_score`. -/
def obScore (struct : Analysis) (want : Structure.Bias) (price atr : ℚ) : Except PyErr PyFloat :=
  match (blocks struct want).getLast? with
  | none => pure (.fin 0)
  | some ob =>
      if ob.low ≤ price ∧ price ≤ ob.high then pure (.fin 1)
      else do
        let dist := if price < ob.low then ob.low - price else price - ob.high
        let far ← pyDiv (.fin dist) (2 * atr)
        pure (npClip (4 / 10) (9 / 10) (PyFloat.sub (.fin 1) far))

/-- `_fvg_score`. -/
def fvgScore (struct : Analysis) (want : Structure.Bias) : PyFloat :=
  match (gaps struct want).getLast? with
  | none => .fin 0
  | some gap =>
      if (blocks struct want).any (fun ob => gap.bottom ≤ ob.high ∧ ob.low ≤ gap.top) then .fin 1
      else .fin (7 / 10)

/-- The expansion of the open interest, where it is known. -/
def oiScore (inp : Participation) : Except PyErr (Option PyFloat) :=
  match inp.oiDelta with
  | some oiDelta =>
      if inp.oiAvailable then do
        let part ← pyDiv (PyFloat.pyMax oiDelta (.fin 0)) pb.oiExpansionPct
        pure (some (npClip 0 1 part))
      else pure none
  | none => pure none

/-- `_volume_score`: the last volume against the 20 before it. -/
def volumeScore (df : List Backtest.Candle) : Except PyErr PyFloat :=
  if df.length < 21 then pure (.fin 0)
  else
    let volumes := Backtest.volumes df
    let avg := ((volumes.drop (df.length - 21)).take 20).sum / 20
    if avg ≤ 0 then pure (.fin 0)
    else do
      let ratio ← pyDiv (.fin (volumes.getLastD 0)) avg
      let part ← pyDiv ratio pb.volumeMultTarget
      pure (npClip 0 1 part)

/-- The relative volume against its target. -/
def rvolScore (inp : Participation) : Except PyErr PyFloat := do
  let part ← pyDiv inp.rvol pb.rvolTarget
  pure (npClip 0 1 part)

/-- How far the liquidations are below the threshold. -/
def liqScore (inp : Participation) : Except PyErr PyFloat := do
  let part ← pyDiv inp.liquidationIntensity (max pb.liqCascadeThreshold (1 / 10 ^ 9))
  pure (npClip 0 1 (PyFloat.sub (.fin 1) part))

/-- `f`. -/
def factors (df : List Structure.Candle) (struct : Analysis) (side : PositionSide)
    (entry atr : ℚ) (sweep : Recent Sweep) (brk : Recent Break) (inp : Participation) :
    Except PyErr SmcFactors := do
  let rows := df.map (·.toCandle)
  let htf ← htfScore rows entry
  let sweep ← pb.sweepScore sweep
  let breaks ← pb.breakScore brk
  let ob ← obScore struct side.bias entry atr
  let oi ← pb.oiScore inp
  let vol ← pb.volumeScore rows
  let rvol ← pb.rvolScore inp
  let liq ← pb.liqScore inp
  pure { htf, sweep, breaks, ob, fvg := fvgScore struct side.bias, oi, vol, rvol, liq }

/-! ## The score -/

/-- The weight and the score of each factor that counts. -/
def weighted (f : SmcFactors) : List (ℚ × PyFloat) :=
  [(pb.wHtf, f.htf), (pb.wSweep, f.sweep), (pb.wStructure, f.breaks), (pb.wOb, f.ob),
    (pb.wFvg, f.fvg), (pb.wVol, f.vol), (pb.wRvol, f.rvol), (pb.wLiq, f.liq)] ++
    (f.oi.map (fun oi => (pb.wOi, oi))).toList

/-- `total_w`. -/
def totalWeight (f : SmcFactors) : ℚ := ((pb.weighted f).map Prod.fst).sum

/-- The weighted sum of the scores. -/
def weightedSum (f : SmcFactors) : PyFloat :=
  (pb.weighted f).foldr (fun term sum => PyFloat.add (PyFloat.scale term.1 term.2) sum) (.fin 0)

/-- `confidence`. -/
def confidence (f : SmcFactors) : Except PyErr PyFloat :=
  if 0 < pb.totalWeight f then do
    let mean ← pyDiv (pb.weightedSum f) (pb.totalWeight f)
    pure (PyFloat.scale 100 mean)
  else pure (.fin 0)

/-- `_size_multiplier`. -/
def sizeMultiplier (confidence : PyFloat) : ℚ :=
  if PyFloat.le (.fin 85) confidence then 3 / 2
  else if PyFloat.le (.fin 70) confidence then 1
  else if PyFloat.le (.fin 55) confidence then 1 / 2
  else 0

/-! ## The levels -/

/-- `sl_dist`: the tighter of the swept wick and the ATR band, with a floor. -/
def slDist (side : PositionSide) (entry atr swept : ℚ) : ℚ :=
  let sweepDist :=
    match side with
    | .long => entry - (swept - pb.slBufferAtr * atr)
    | .short => swept + pb.slBufferAtr * atr - entry
  max (min sweepDist (pb.slAtrMult * atr)) (max pb.slBufferAtr (1 / 2) * atr)

/-- `_take_profit`. -/
def takeProfit (struct : Analysis) (side : PositionSide) (entry sl : ℚ) : ℚ :=
  let risk := |entry - sl|
  match side with
  | .long =>
      if risk ≤ 0 then entry * (101 / 100)
      else
        let loTp := entry + risk
        let hiTp := entry + pb.tpRr * risk
        let highs := (struct.activeSwingHighs.map Swing.price).filter (fun price => entry < price)
        let target := (highs.min?.filter (fun pool => pool ≠ 0 ∧ entry < pool)).getD hiTp
        min (max target loTp) hiTp
  | .short =>
      if risk ≤ 0 then entry * (99 / 100)
      else
        let loTp := entry - risk
        let hiTp := entry - pb.tpRr * risk
        let lows := (struct.activeSwingLows.map Swing.price).filter (fun price => price < entry)
        let target := (lows.max?.filter (fun pool => pool ≠ 0 ∧ pool < entry)).getD hiTp
        max (min target loTp) hiTp

/-- The setup of a side, once its score passes. -/
def setup (struct : Analysis) (side : PositionSide) (entry atr : ℚ) (sweep : Recent Sweep)
    (f : SmcFactors) (confidence score : PyFloat) : SmcSetup :=
  let swept := sweep.event.sweptPrice
  let dist := pb.slDist side entry atr swept
  let sl :=
    match side with
    | .long => entry - dist
    | .short => entry + dist
  let fvgZone := (gaps struct side.bias).getLast?.map (fun gap => (gap.bottom, gap.top))
  let obZone := (blocks struct side.bias).getLast?.map (fun ob => (ob.low, ob.high))
  { side
    entryPrice := entry
    slPrice := sl
    tpPrice := pb.takeProfit struct side entry sl
    score := pyRound 4 score
    confidenceScore := pyRound 1 confidence
    sizeMultiplier := sizeMultiplier confidence
    factors := f.map (pyRound 3)
    timeStopHours := pb.maxHoldHours
    fvgZone
    obZone
    limitEntry := (fvgZone.or obZone).map (fun zone => 1 / 2 * (zone.1 + zone.2))
    sweepPrice := swept
    atr }

/-- `evaluate`. -/
def evaluate (df : List Structure.Candle) (dfHtf : Option (List Backtest.Candle))
    (inp : Participation) : Except PyErr (Option SmcSetup) :=
  if df.length < pb.minBars then pure none
  else
    match htfBias (dfHtf.getD (df.map (·.toCandle))) with
    | none => pure none
    | some side =>
        let struct := analyze df pb.swingWindow
        let entry := (bar df (df.length - 1)).close
        let atr := pb.atr df entry
        match pb.freshSweep struct side.bias, pb.freshBreak struct side.bias with
        | some sweep, some brk =>
            if PyFloat.le (.fin pb.liqCascadeThreshold) inp.liquidationIntensity then pure none
            else do
              let f ← pb.factors df struct side entry atr sweep brk inp
              let confidence ← pb.confidence f
              if PyFloat.lt confidence (.fin pb.minScore) then pure none
              else do
                let score ← pyDiv confidence 100
                pure (some (pb.setup struct side entry atr sweep f confidence score))
        | _, _ => pure none

end PlaybookSMC

end CryptoTrader
