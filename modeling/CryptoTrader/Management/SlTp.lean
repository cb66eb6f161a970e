import CryptoTrader.Structure.Scan
import CryptoTrader.Wallet.Types
import Mathlib.Data.List.Infix

/-!
# Stop and target calculators

`StopLossCalculator` and `TakeProfitCalculator` of
`position_management/sl_tp_calculator.py`.  The structure analysis is read by key,
as the dictionary the analyzer returns.
-/

namespace CryptoTrader.SlTp

open CryptoTrader.Lib
open CryptoTrader.Structure (Candle Bias Swing Break Sweep OrderBlock Fvg PriceAction Recent
  Analysis analyze bar)

/-! ## The analysis as a dictionary -/

/-- The value of a key of the result. -/
inductive Field where
  | count (n : ℕ)
  | swings (l : List Swing)
  | event (e : Option (Recent Break))
  | events (l : List Break)
  | bias (dir : Option Bias)
  | sweep (e : Option (Recent Sweep))
  | blocks (l : List OrderBlock)
  | gaps (l : List Fvg)
  | signals (l : List PriceAction)

/-- The dictionary that `analyze` returns. -/
def toDict (a : Analysis) : List (String × Field) :=
  [("swing_highs_count", .count a.swingHighsCount),
    ("swing_lows_count", .count a.swingLowsCount),
    ("active_swing_highs", .swings a.activeSwingHighs),
    ("active_swing_lows", .swings a.activeSwingLows),
    ("recent_bos", .event a.recentBos),
    ("recent_choch", .event a.recentChoch),
    ("trend_bias", .bias a.trendBias),
    ("recent_sweep", .sweep a.recentSweep),
    ("unmitigated_order_blocks", .blocks a.unmitigatedOrderBlocks),
    ("unmitigated_fvgs", .gaps a.unmitigatedFvgs),
    ("price_action_signals", .signals a.priceActionSignals)]

/-- `result.get(key, [])`, a list of events. -/
def getEvents (result : List (String × Field)) (key : String) : List Break :=
  match result.lookup key with
  | some (.events l) => l
  | _ => []

/-- `result.get(key, [])`, a list of order blocks. -/
def getBlocks (result : List (String × Field)) (key : String) : List OrderBlock :=
  match result.lookup key with
  | some (.blocks l) => l
  | _ => []

/-- The `type` of a record. -/
def typeText : Bias → String
  | .bullish => "BULLISH"
  | .bearish => "BEARISH"

/-- `needle in hay`. -/
def isIn (needle hay : String) : Bool := needle.toList <:+: hay.toList

/-! ## Stops -/

/-- `invalidation_note`, by the text it is formatted into:
`Entry ± {}×ATR({})`, `Below swing low {}` or `Above swing high {}`, `Below BOS level {}`
or `Above BOS level {}`, `VWAP({}) ± buffer`, `Below bullish OB {}` or
`Above bearish OB {}`, and `Entry ± {}%`. -/
inductive Note where
  | atr (multiplier atr : ℚ)
  | swing (side : PositionSide) (level : ℚ)
  | bos (side : PositionSide) (level : ℚ)
  | vwap (vwap : ℚ)
  | orderBlock (side : PositionSide) (level : ℚ)
  | pct (pct : ℚ)
  deriving DecidableEq

structure SLResult where
  price : ℚ
  style : String
  invalidationNote : Note
  atrUsed : ℚ := 0
  deriving DecidableEq

/-- The price on the losing side of another, at a distance. -/
def stopAt (side : PositionSide) (price distance : ℚ) : ℚ :=
  match side with
  | .long => price - distance
  | .short => price + distance

/-- The true ranges from the second candle on. -/
def trueRanges (df : List Candle) : List ℚ :=
  List.zipWith
    (fun prev c => max (c.high - c.low) (max |c.high - prev.close| |c.low - prev.close|)) df df.tail

/-- `np.mean(l[-14:])`. -/
def meanLast14 (l : List ℚ) : ℚ :=
  let recent := l.drop (l.length - 14)
  recent.sum / recent.length

/-- The candle is a low no higher than the `w` lows on each side. -/
def isSwingLow (df : List Candle) (w i : ℕ) : Bool :=
  (List.range' 1 w).all (fun j => (bar df i).low ≤ (bar df (i - j)).low) &&
    (List.range' 1 w).all (fun j => (bar df i).low ≤ (bar df (i + j)).low)

/-- The candle is a high no lower than the `w` highs on each side. -/
def isSwingHigh (df : List Candle) (w i : ℕ) : Bool :=
  (List.range' 1 w).all (fun j => (bar df (i - j)).high ≤ (bar df i).high) &&
    (List.range' 1 w).all (fun j => (bar df (i + j)).high ≤ (bar df i).high)

/-- `range(w, len - w)`. -/
def inner (df : List Candle) (w : ℕ) : List ℕ := List.range' w (df.length - w - w)

def swingLows (df : List Candle) (w : ℕ) : List ℚ :=
  ((inner df w).filter (isSwingLow df w)).map (fun i => (bar df i).low)

def swingHighs (df : List Candle) (w : ℕ) : List ℚ :=
  ((inner df w).filter (isSwingHigh df w)).map (fun i => (bar df i).high)

/-- The highest swing low below the entry. -/
def lowBelow (df : List Candle) (w : ℕ) (entry : ℚ) : Option ℚ :=
  ((swingLows df w).filter (fun s => s < entry)).max?

/-- The lowest swing high above the entry. -/
def highAbove (df : List Candle) (w : ℕ) (entry : ℚ) : Option ℚ :=
  ((swingHighs df w).filter (fun s => entry < s)).min?

/-- `StopLossCalculator`, less the symbol. -/
structure StopLossCalculator where
  df : List Candle
  side : PositionSide
  entry : ℚ
  atrMult : ℚ := 3 / 2
  swingWindow : ℕ := 3
  pctDefault : ℚ := 7 / 1000

namespace StopLossCalculator

variable (slCalc : StopLossCalculator)

/-- `_get_atr`. -/
def getAtr : ℚ :=
  if slCalc.df.length < 2 then slCalc.entry * slCalc.pctDefault else meanLast14 (trueRanges slCalc.df)

/-- `_atr_sl`. -/
def atrSl : SLResult :=
  { price := stopAt slCalc.side slCalc.entry (slCalc.getAtr * slCalc.atrMult)
    style := "atr"
    invalidationNote := .atr slCalc.atrMult slCalc.getAtr
    atrUsed := slCalc.getAtr }

/-- The swing that `_swing_sl` puts the stop beyond. -/
def swingLevel : Option ℚ :=
  match slCalc.side with
  | .long => lowBelow slCalc.df slCalc.swingWindow slCalc.entry
  | .short => highAbove slCalc.df slCalc.swingWindow slCalc.entry

/-- `_swing_sl`. -/
def swingSl : SLResult :=
  match slCalc.swingLevel with
  | none => slCalc.atrSl
  | some level =>
      { price := stopAt slCalc.side level (slCalc.getAtr * (3 / 10))
        style := match slCalc.side with
          | .long => "swing_low"
          | .short => "swing_high"
        invalidationNote := .swing slCalc.side level
        atrUsed := slCalc.getAtr }

/-- The stop derived from a break of the position's direction. -/
def bosSl (level : ℚ) : SLResult :=
  { price := stopAt slCalc.side level (slCalc.getAtr * (1 / 5))
    style := "structure"
    invalidationNote := .bos slCalc.side level
    atrUsed := slCalc.getAtr }

/-- A level that a break of the position's direction may give its stop. -/
def isInvalidation (level : ℚ) : Bool :=
  match slCalc.side with
  | .long => 0 < level ∧ level < slCalc.entry
  | .short => 0 < level ∧ slCalc.entry < level

/-- `_structure_sl`. -/
def structureSl : SLResult :=
  let result := toDict (analyze slCalc.df slCalc.swingWindow)
  let bosEvents := getEvents result "bos_events"
  let wanted := match slCalc.side with
    | .long => "bullish"
    | .short => "bearish"
  match (bosEvents.filter (fun e => isIn wanted (typeText e.type))).getLast? with
  | some e => if slCalc.isInvalidation e.swingPrice then slCalc.bosSl e.swingPrice else slCalc.swingSl
  | none => slCalc.swingSl

/-- The volume-weighted price; without candles there is none. -/
def vwap : Option ℚ :=
  let volumes := slCalc.df.map (·.volume)
  let typical := slCalc.df.map (fun c => (c.high + c.low + c.close) / 3)
  if 0 < volumes.sum then some ((List.zipWith (· * ·) typical volumes).sum / volumes.sum)
  else slCalc.df.getLast?.map (·.close)

/-- `_vwap_sl`; it raises on a frame without candles. -/
def vwapSl : Option SLResult :=
  slCalc.vwap.map (fun vwap =>
    { price := stopAt slCalc.side vwap (slCalc.getAtr * (1 / 2))
      style := "vwap"
      invalidationNote := .vwap vwap
      atrUsed := slCalc.getAtr })

/-- The edge of a block that the stop goes beyond. -/
def blockEdge (ob : OrderBlock) : ℚ :=
  match slCalc.side with
  | .long => ob.low
  | .short => ob.high

/-- The stop derived from an order block of the position's direction. -/
def blockSl (ob : OrderBlock) : SLResult :=
  { price := stopAt slCalc.side (slCalc.blockEdge ob) (slCalc.getAtr * (1 / 5))
    style := "order_block"
    invalidationNote := .orderBlock slCalc.side (slCalc.blockEdge ob)
    atrUsed := slCalc.getAtr }

/-- `_order_block_sl`. -/
def orderBlockSl : SLResult :=
  let result := toDict (analyze slCalc.df slCalc.swingWindow)
  let obs := getBlocks result "order_blocks"
  let wanted := match slCalc.side with
    | .long => "bullish"
    | .short => "bearish"
  let found := obs.filter (fun ob => typeText ob.type = wanted ∧ ¬ ob.mitigated)
  match found.minOn? (fun ob => |slCalc.entry - slCalc.blockEdge ob|) with
  | some nearest => slCalc.blockSl nearest
  | none => slCalc.atrSl

/-- `_pct_sl`. -/
def pctSl : SLResult :=
  { price := stopAt slCalc.side slCalc.entry (slCalc.entry * slCalc.pctDefault)
    style := "pct_from_entry"
    invalidationNote := .pct slCalc.pctDefault }

/-- The method of a style; nothing, if it raises. -/
def method (style : String) : Option SLResult :=
  if style = "swing_low" ∨ style = "swing_high" then some slCalc.swingSl
  else if style = "structure" then some slCalc.structureSl
  else if style = "vwap" then slCalc.vwapSl
  else if style = "order_block" then some slCalc.orderBlockSl
  else if style = "pct_from_entry" then some slCalc.pctSl
  else some slCalc.atrSl

/-- `calculate`. -/
def calculate (style : String) : SLResult :=
  match slCalc.method style with
  | some result => { result with style := style }
  | none => slCalc.pctSl

end StopLossCalculator

/-! ## Targets -/

structure TPResult where
  levels : List ℚ
  style : String
  rrRatios : List ℚ
  deriving DecidableEq

/-- `TakeProfitCalculator`, less the symbol. -/
structure TakeProfitCalculator where
  df : List Candle
  side : PositionSide
  entry : ℚ
  sl : ℚ
  swingWindow : ℕ := 3

namespace TakeProfitCalculator

variable (tpCalc : TakeProfitCalculator)

def risk : ℚ := |tpCalc.entry - tpCalc.sl|

/-- The price on the winning side of the entry, at a distance. -/
def targetAt (distance : ℚ) : ℚ :=
  match tpCalc.side with
  | .long => tpCalc.entry + distance
  | .short => tpCalc.entry - distance

/-- `_fixed_rr`. -/
def fixedRr (rr : ℚ) : TPResult :=
  { levels := [tpCalc.targetAt (tpCalc.risk * rr)], style := "fixed_rr", rrRatios := [rr] }

/-- `_multi_level`. -/
def multiLevel (rrRatios : List ℚ) : TPResult :=
  { levels := rrRatios.map (fun rr => tpCalc.targetAt (tpCalc.risk * rr))
    style := "multi_level"
    rrRatios }

/-- The swing that `_liquidity_target` takes. -/
def swingLevel : Option ℚ :=
  match tpCalc.side with
  | .long => highAbove tpCalc.df tpCalc.swingWindow tpCalc.entry
  | .short => lowBelow tpCalc.df tpCalc.swingWindow tpCalc.entry

/-- `_liquidity_target`, and `_resistance_tp`. -/
def liquidityTarget : TPResult :=
  match tpCalc.swingLevel with
  | some level => { levels := [level], style := "liquidity_target", rrRatios := [] }
  | none => tpCalc.fixedRr 2

/-- `_atr_expansion`. -/
def atrExpansion : TPResult :=
  if tpCalc.df.length < 2 then tpCalc.fixedRr 2
  else
    { levels := [tpCalc.targetAt (meanLast14 (trueRanges tpCalc.df) * 3)]
      style := "atr_expansion"
      rrRatios := [3] }

/-- `calculate`; no ratios are `[2.0, 3.0, 4.5]`. -/
def calculate (style : String) (rrRatios : List ℚ) : TPResult :=
  let rrRatios := if rrRatios = [] then [2, 3, 9 / 2] else rrRatios
  if style = "multi_level" then tpCalc.multiLevel rrRatios
  else if style = "liquidity_target" ∨ style = "resistance" then tpCalc.liquidityTarget
  else if style = "atr_expansion" then tpCalc.atrExpansion
  else tpCalc.fixedRr (rrRatios.headD 0)

end TakeProfitCalculator

end CryptoTrader.SlTp
