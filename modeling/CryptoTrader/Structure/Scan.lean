import CryptoTrader.Backtest.Frames

/-!
# The structure scan

The scanner of `MarketStructureAnalyzer.analyze`: a pass over the candles that
confirms swings, records sweeps and breaks of them, and keeps order blocks and
fair-value gaps until a candle touches them.  The source writes every bullish
branch out again for the bearish side; here each is one definition with the
direction as a parameter, and `step` has them in the order of the source.
-/

namespace CryptoTrader.Structure

open CryptoTrader.Lib

/-- A row of the frame; `time` of a record is the open time. -/
structure Candle extends Backtest.Candle where
  openTime : ℤ
  deriving DecidableEq, Inhabited

/-- `BULLISH` or `BEARISH`. -/
inductive Bias where
  | bullish
  | bearish
  deriving DecidableEq

def Bias.flip : Bias → Bias
  | .bullish => .bearish
  | .bearish => .bullish

/-- The high for the bullish side, the low for the bearish one. -/
def Bias.extreme (dir : Bias) (c : Candle) : ℚ :=
  match dir with
  | .bullish => c.high
  | .bearish => c.low

/-- The price `a` is strictly beyond `b`: above it for the bullish side, below it for
the bearish one. -/
def Bias.beyond (dir : Bias) (a b : ℚ) : Bool :=
  match dir with
  | .bullish => b < a
  | .bearish => a < b

/-! ## Records -/

/-- A swing high, which a bullish break breaks, or a swing low. -/
structure Swing where
  index : ℕ
  price : ℚ
  time : ℤ
  breakIndex : Option ℕ := none
  deriving DecidableEq

def Swing.broken (sw : Swing) : Bool := sw.breakIndex.isSome

/-- The `event` of a break. -/
inductive BreakKind where
  | bos
  | choch
  deriving DecidableEq

/-- An entry of `bos_events`. -/
structure Break where
  index : ℕ
  type : Bias
  event : BreakKind
  swingIndex : ℕ
  swingPrice : ℚ
  breakPrice : ℚ
  time : ℤ
  deriving DecidableEq

structure OrderBlock where
  index : ℕ
  formedIndex : ℕ
  type : Bias
  high : ℚ
  low : ℚ
  open_ : ℚ
  close : ℚ
  time : ℤ
  mitigateIndex : Option ℕ := none
  deriving DecidableEq

def OrderBlock.mitigated (ob : OrderBlock) : Bool := ob.mitigateIndex.isSome

structure Sweep where
  index : ℕ
  type : Bias
  swingIndex : ℕ
  swingPrice : ℚ
  sweptPrice : ℚ
  time : ℤ
  deriving DecidableEq

/-- A fair-value gap. -/
structure Fvg where
  index : ℕ
  type : Bias
  top : ℚ
  bottom : ℚ
  time : ℤ
  mitigateIndex : Option ℕ := none
  deriving DecidableEq

def Fvg.mitigated (gap : Fvg) : Bool := gap.mitigateIndex.isSome

/-- The lists the scan keeps, and its running bias; no bias is `0`. -/
structure Scan where
  swingHighs : List Swing := []
  swingLows : List Swing := []
  bosEvents : List Break := []
  orderBlocks : List OrderBlock := []
  sweepEvents : List Sweep := []
  fvgs : List Fvg := []
  trendBias : Option Bias := none
  deriving DecidableEq

/-- The swings that a break of this direction breaks. -/
def Scan.swings (s : Scan) : Bias → List Swing
  | .bullish => s.swingHighs
  | .bearish => s.swingLows

def Scan.setSwings (s : Scan) (dir : Bias) (swings : List Swing) : Scan :=
  match dir with
  | .bullish => { s with swingHighs := swings }
  | .bearish => { s with swingLows := swings }

/-! ## What one candle does -/

section Step

variable (df : List Candle) (w i : ℕ) (dir : Bias)

def bar (k : ℕ) : Candle := df.getD k default

/-- `df[target - w : target + w + 1]` of a column. -/
def window (target : ℕ) (column : Candle → ℚ) : List ℚ :=
  (slice df (target - w) (target + w + 1)).map column

/-- The swing high check. -/
def isSwingHigh (target : ℕ) : Bool :=
  let highs := window df w target (·.high)
  highs.max? = some (bar df target).high ∧ highs.min? ≠ highs.max?

/-- The swing low check. -/
def isSwingLow (target : ℕ) : Bool :=
  let lows := window df w target (·.low)
  lows.min? = some (bar df target).low ∧ lows.min? ≠ lows.max?

def isSwing (target : ℕ) : Bool :=
  match dir with
  | .bullish => isSwingHigh df w target
  | .bearish => isSwingLow df w target

/-- A. The swing that is confirmed by this candle. -/
def confirm (s : Scan) : Scan :=
  let target := i - w
  if 2 * w ≤ i ∧ isSwing df w dir target ∧ ¬ (s.swings dir).any (·.index = target) then
    s.setSwings dir (s.swings dir ++
      [{ index := target
         price := dir.extreme (bar df target)
         time := (bar df target).openTime }])
  else s

/-- A wick beyond the swing and a close back inside; a bullish sweep is one of a swing
low. -/
def Swing.sweptBy (c : Candle) (sw : Swing) : Bool :=
  ¬ sw.broken ∧ sw.index < i ∧ dir.flip.beyond (dir.flip.extreme c) sw.price ∧
    dir.beyond c.close sw.price

/-- C. Liquidity sweeps. -/
def sweep (s : Scan) : Scan :=
  let c := bar df i
  { s with
    sweepEvents := s.sweepEvents ++ ((s.swings dir.flip).filter (Swing.sweptBy i dir c)).map
      (fun sw =>
        { index := i
          type := dir
          swingIndex := sw.index
          swingPrice := sw.price
          sweptPrice := dir.flip.extreme c
          time := c.openTime }) }

/-- A close beyond the swing. -/
def Swing.brokenBy (c : Candle) (sw : Swing) : Bool :=
  ¬ sw.broken ∧ dir.beyond c.close sw.price ∧ sw.index < i

/-- `ob_idx`: the last candle against the break. -/
def obIndex : Option ℕ :=
  (List.range (i + 1)).reverse.find? (fun k => dir.flip.beyond (bar df k).close (bar df k).open_)

/-- The order block of a break, unless there is one at that candle. -/
def addOrderBlock (blocks : List OrderBlock) : List OrderBlock :=
  match obIndex df i dir with
  | none => blocks
  | some k =>
      if blocks.any (fun ob => ob.index = k ∧ ob.type = dir) then blocks
      else
        let c := bar df k
        blocks ++
          [{ index := k
             formedIndex := i
             type := dir
             high := c.high
             low := c.low
             open_ := c.open_
             close := c.close
             time := c.openTime }]

/-- What a break of a swing records. -/
def recordBreak (s : Scan) (sw : Swing) : Scan :=
  let c := bar df i
  { s with
    bosEvents := s.bosEvents ++
      [{ index := i
         type := dir
         event := if s.trendBias = some dir.flip then .choch else .bos
         swingIndex := sw.index
         swingPrice := sw.price
         breakPrice := c.close
         time := c.openTime }]
    trendBias := some dir
    orderBlocks := addOrderBlock df i dir s.orderBlocks }

/-- A swing that is marked when the candle breaks it. -/
def Swing.mark (c : Candle) (sw : Swing) : Swing :=
  if sw.brokenBy i dir c then { sw with breakIndex := some i } else sw

/-- D. Breaks of structure. -/
def breakSwings (s : Scan) : Scan :=
  let c := bar df i
  ((s.swings dir).filter (Swing.brokenBy i dir c)).foldl (recordBreak df i dir)
    (s.setSwings dir ((s.swings dir).map (Swing.mark i dir c)))

/-- A candle that reaches the block. -/
def OrderBlock.touchedBy (c : Candle) (ob : OrderBlock) : Bool :=
  match ob.type with
  | .bullish => c.low ≤ ob.high
  | .bearish => ob.low ≤ c.high

def OrderBlock.mark (c : Candle) (ob : OrderBlock) : OrderBlock :=
  if ¬ ob.mitigated ∧ ob.formedIndex < i ∧ ob.touchedBy c then
    { ob with mitigateIndex := some i }
  else ob

/-- E. Order block mitigation. -/
def mitigateBlocks (s : Scan) : Scan :=
  { s with orderBlocks := s.orderBlocks.map (OrderBlock.mark i (bar df i)) }

/-- The gap between this candle and the one before the last, if there is one. -/
def gapAt : Option Fvg :=
  let prev2 := bar df (i - 2)
  let curr := bar df i
  let gap (top bottom : ℚ) : Fvg :=
    { index := i - 1, type := dir, top, bottom, time := (bar df (i - 1)).openTime }
  match dir with
  | .bullish => if prev2.high < curr.low then some (gap curr.low prev2.high) else none
  | .bearish => if curr.high < prev2.low then some (gap prev2.low curr.high) else none

/-- F. Fair-value gaps. -/
def detectGap (s : Scan) : Scan :=
  if 2 ≤ i then { s with fvgs := s.fvgs ++ (gapAt df i dir).toList } else s

/-- A candle that enters the gap. -/
def Fvg.touchedBy (c : Candle) (gap : Fvg) : Bool :=
  match gap.type with
  | .bullish => c.low ≤ gap.top
  | .bearish => gap.bottom ≤ c.high

def Fvg.mark (c : Candle) (gap : Fvg) : Fvg :=
  if ¬ gap.mitigated ∧ gap.index + 1 < i ∧ gap.touchedBy c then
    { gap with mitigateIndex := some i }
  else gap

/-- G. Gap mitigation. -/
def mitigateGaps (s : Scan) : Scan :=
  { s with fvgs := s.fvgs.map (Fvg.mark i (bar df i)) }

end Step

/-- The loop body. -/
def step (df : List Candle) (w : ℕ) (s : Scan) (i : ℕ) : Scan :=
  let s := confirm df w i .bearish (confirm df w i .bullish s)
  let s := sweep df i .bearish (sweep df i .bullish s)
  let s := breakSwings df i .bearish (breakSwings df i .bullish s)
  let s := mitigateBlocks df i s
  let s := detectGap df i .bearish (detectGap df i .bullish s)
  mitigateGaps df i s

/-- The scan after the first candles. -/
def scanTo (df : List Candle) (w k : ℕ) : Scan := (List.range k).foldl (step df w) {}

def scan (df : List Candle) (w : ℕ) : Scan := scanTo df w df.length

/-! ## Candlestick signals -/

/-- `_detect_pinbar`. -/
def detectPinbar (c : Candle) : Option Bias :=
  let body := |c.close - c.open_|
  let rng := c.high - c.low
  if rng = 0 then none
  else
    let lowerWick := min c.open_ c.close - c.low
    let upperWick := c.high - max c.open_ c.close
    if 3 / 2 * body ≤ lowerWick ∧ upperWick ≤ 1 / 2 * lowerWick ∧ 2 / 5 * rng ≤ lowerWick ∧
        c.low + 2 / 5 * rng ≤ min c.open_ c.close then
      some .bullish
    else if 3 / 2 * body ≤ upperWick ∧ lowerWick ≤ 1 / 2 * upperWick ∧ 2 / 5 * rng ≤ upperWick ∧
        max c.open_ c.close ≤ c.high - 2 / 5 * rng then
      some .bearish
    else none

/-- `_detect_engulfing`. -/
def detectEngulfing (prev curr : Candle) : Option Bias :=
  if prev.close < prev.open_ ∧ curr.open_ < curr.close ∧ prev.open_ < curr.close ∧
      curr.open_ ≤ prev.close then
    some .bullish
  else if prev.open_ < prev.close ∧ curr.close < curr.open_ ∧ curr.close < prev.open_ ∧
      prev.close ≤ curr.open_ then
    some .bearish
  else none

inductive Pattern where
  | pinbar
  | engulfing
  deriving DecidableEq

/-- An entry of `price_action_signals`; `candle` is `forming` or `completed`. -/
structure PriceAction where
  forming : Bool
  side : Bias
  pattern : Pattern
  price : ℚ
  time : ℤ
  deriving DecidableEq

/-- The signals of the candle at an index. -/
def signalsAt (df : List Candle) (forming : Bool) (idx : ℕ) : List PriceAction :=
  let row := bar df idx
  let signal (pattern : Pattern) (side : Bias) : PriceAction :=
    { forming, side, pattern, price := row.close, time := row.openTime }
  let pin := (detectPinbar row).map (signal .pinbar)
  let eng :=
    if 0 < idx then (detectEngulfing (bar df (idx - 1)) row).map (signal .engulfing) else none
  pin.toList ++ eng.toList

/-! ## The result -/

/-- A record with `candles_ago`. -/
structure Recent (α : Type) where
  event : α
  candlesAgo : ℕ
  deriving DecidableEq

structure Analysis where
  swingHighsCount : ℕ := 0
  swingLowsCount : ℕ := 0
  activeSwingHighs : List Swing := []
  activeSwingLows : List Swing := []
  recentBos : Option (Recent Break) := none
  recentChoch : Option (Recent Break) := none
  trendBias : Option Bias := none
  recentSweep : Option (Recent Sweep) := none
  unmitigatedOrderBlocks : List OrderBlock := []
  unmitigatedFvgs : List Fvg := []
  priceActionSignals : List PriceAction := []
  deriving DecidableEq

/-- `l[-3:]`. -/
def lastThree {α : Type} (l : List α) : List α := l.drop (l.length - 3)

/-- What is compiled of a scan of `n` candles. -/
def Scan.compile (s : Scan) (n : ℕ) (signals : List PriceAction) : Analysis :=
  { swingHighsCount := s.swingHighs.length
    swingLowsCount := s.swingLows.length
    activeSwingHighs := lastThree (s.swingHighs.filter (fun sw => ¬ sw.broken))
    activeSwingLows := lastThree (s.swingLows.filter (fun sw => ¬ sw.broken))
    recentBos := s.bosEvents.getLast?.map (fun e => ⟨e, n - 1 - e.index⟩)
    recentChoch :=
      (s.bosEvents.reverse.find? (fun e => e.event = .choch)).map (fun e => ⟨e, n - 1 - e.index⟩)
    trendBias := s.trendBias
    recentSweep := s.sweepEvents.getLast?.map (fun e => ⟨e, n - 1 - e.index⟩)
    unmitigatedOrderBlocks := lastThree (s.orderBlocks.filter (fun ob => ¬ ob.mitigated))
    unmitigatedFvgs := lastThree (s.fvgs.filter (fun gap => ¬ gap.mitigated))
    priceActionSignals := signals }

/-- `has_sufficient_data`. -/
def Sufficient (df : List Candle) (w : ℕ) : Prop := max 20 (2 * w + 1) ≤ df.length

instance (df : List Candle) (w : ℕ) : Decidable (Sufficient df w) :=
  inferInstanceAs (Decidable (_ ≤ _))

/-- `analyze`. -/
def analyze (df : List Candle) (w : ℕ) : Analysis :=
  if Sufficient df w then
    (scan df w).compile df.length
      (signalsAt df false (df.length - 2) ++ signalsAt df true (df.length - 1))
  else {}

end CryptoTrader.Structure
