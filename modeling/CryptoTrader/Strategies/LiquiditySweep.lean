import CryptoTrader.Backtest.Replay
import CryptoTrader.Structure.Scan

/-!
# The liquidity-sweep playbook

`PlaybookLiquiditySweep` of `strategies/liquidity_sweep.py`: the latest sweep of the
structure scan, if it is fresh, is the side of the setup.  The texts of a setup and
`last_eval` are left out.
-/

namespace CryptoTrader

open CryptoTrader.Lib

/-- A bullish sweep is bought, a bearish one sold. -/
def Structure.Bias.side : Structure.Bias → PositionSide
  | .bullish => .long
  | .bearish => .short

/-- `PlaybookLiquiditySweep`, within the bounds its constructor enforces. -/
structure LiquiditySweep where
  swingWindow : ℕ := 3
  sweepLookback : ℕ := 3
  tpR : ℚ := 5 / 2
  atrPeriod : ℕ := 14
  slBufferAtr : ℚ := 1 / 4
  minStopFrac : ℚ := 2 / 1000
  useHtfFilter : Bool := false
  maxHoldHours : ℕ := 24
  swingWindow_ge : 2 ≤ swingWindow := by decide
  sweepLookback_pos : 0 < sweepLookback := by decide
  tpR_ge : 1 / 2 ≤ tpR := by norm_num
  atrPeriod_ge : 2 ≤ atrPeriod := by decide
  slBufferAtr_nonneg : 0 ≤ slBufferAtr := by norm_num
  minStopFrac_nonneg : 0 ≤ minStopFrac := by norm_num
  maxHoldHours_pos : 0 < maxHoldHours := by decide

/-- A setup of the playbook. -/
structure SweepSetup extends Backtest.Signal where
  score : ℚ
  timeStopHours : ℕ
  tpR : ℚ
  sweptPrice : ℚ
  deriving DecidableEq

namespace LiquiditySweep

open CryptoTrader.Structure

variable (pb : LiquiditySweep)

/-- `_min_bars`. -/
def minBars : ℕ := max (max (pb.swingWindow * 2 + 1) (pb.atrPeriod + 2)) 30

/-- `_htf_bias`; no bias is `0`. -/
def htfBias (dfHtf : Option (List Backtest.Candle)) : Option PositionSide :=
  match dfHtf with
  | none => none
  | some df =>
      if df.length < 30 then none
      else
        let close := Backtest.closes df
        let ef := (Backtest.computeEma close 9).getLastD 0
        let es := (Backtest.computeEma close 21).getLastD 0
        let price := close.getLastD 0
        if es < ef ∧ es < price then some .long
        else if ef < es ∧ price < es then some .short
        else none

/-- The latest sweep, if it is fresh enough to act on. -/
def freshSweep (struct : Analysis) : Option (Recent Sweep) :=
  struct.recentSweep.filter (fun sweep => sweep.candlesAgo ≤ pb.sweepLookback)

/-- The side a structure calls for. -/
def pick (struct : Analysis) : Option PositionSide :=
  (pb.freshSweep struct).map (fun sweep => sweep.event.type.side)

/-- The ATR at the last bar, or a share of the price. -/
def atr (df : List Structure.Candle) (entry : ℚ) : ℚ :=
  match (Backtest.computeAtr (df.map (·.toCandle)) pb.atrPeriod).getLastD none with
  | some atr => if atr ≤ 0 then entry * (5 / 1000) else atr
  | none => entry * (5 / 1000)

/-- The distance of the stop beyond the swept wick, with its floor. -/
def risk (side : PositionSide) (entry atr swept : ℚ) : ℚ :=
  let distance :=
    match side with
    | .long => entry - (min swept entry - pb.slBufferAtr * atr)
    | .short => max swept entry + pb.slBufferAtr * atr - entry
  if distance < entry * pb.minStopFrac then entry * pb.minStopFrac else distance

/-- `evaluate`. -/
def evaluate (df : List Structure.Candle) (dfHtf : Option (List Backtest.Candle)) :
    Option SweepSetup :=
  if df.length < pb.minBars then none
  else
    match pb.freshSweep (analyze df pb.swingWindow) with
    | none => none
    | some sweep =>
        let side := sweep.event.type.side
        let bias := if pb.useHtfFilter then htfBias dfHtf else none
        if bias = some side.exitSide then none
        else
          let entry := (bar df (df.length - 1)).close
          let swept := sweep.event.sweptPrice
          let risk := pb.risk side entry (pb.atr df entry) swept
          if risk ≤ 0 then none
          else
            some
              { side
                entry
                sl := match side with
                  | .long => entry - risk
                  | .short => entry + risk
                tp := match side with
                  | .long => entry + pb.tpR * risk
                  | .short => entry - pb.tpR * risk
                score := 3 / 4
                timeStopHours := pb.maxHoldHours
                tpR := pb.tpR
                sweptPrice := swept }

end LiquiditySweep

end CryptoTrader
