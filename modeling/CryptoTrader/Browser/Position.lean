import CryptoTrader.Strategies.SupertrendPort

/-!
# Positions of the browser engine

`engine/position.ts` of the user interface, and the regime of `engine/regime.ts` that one
of the exits reads.  Numbers are exact.  A position is marked at a price, and closed with
the PnL it was marked with last.  The width of the Bollinger bands is compared through its
square.
-/

namespace CryptoTrader.Browser

open CryptoTrader.Backtest

/-! ## The regime -/

inductive MarketRegime where
  | trendingUp
  | trendingDown
  | ranging
  | unknown
  deriving DecidableEq, Repr

/-- The loop of `computeEMA`. -/
def emaFrom (alpha prev : ℚ) : List ℚ → List ℚ
  | [] => []
  | v :: rest =>
      let ema := v * alpha + prev * (1 - alpha)
      ema :: emaFrom alpha ema rest

def computeEMA (values : List ℚ) (period : ℕ) : List ℚ :=
  match values with
  | [] => []
  | v :: rest => v :: emaFrom (2 / (period + 1)) v rest

/-- How far the last ten values of an average moved. -/
def slope (ema : List ℚ) : ℚ :=
  let recent := ema.drop (ema.length - 10)
  if 2 ≤ recent.length then (recent.getLastD 0 - recent.headD 0) / recent.headD 0 else 0

/-- The directional movement from one candle to the next. -/
def directionalMove (prev c : Candle) : ℚ × ℚ :=
  let upMove := c.high - prev.high
  let downMove := prev.low - c.low
  (if downMove < upMove ∧ 0 < upMove then upMove else 0,
    if upMove < downMove ∧ 0 < downMove then downMove else 0)

/-- The directional index of a candle. -/
def directionalIndex (move : ℚ × ℚ) (atr : ℚ) : ℚ :=
  let plusDI := if atr = 0 then 0 else 100 * move.1 / atr
  let minusDI := if atr = 0 then 0 else 100 * move.2 / atr
  let sum := plusDI + minusDI
  if sum = 0 then 0 else 100 * |plusDI - minusDI| / sum

/-- The last value of `computeADX`, and zero where it is `NaN`. -/
def adxValue (candles : List Candle) (period : ℕ) : ℚ :=
  let atr := Port.wilderATR (highs candles) (lows candles) (closes candles) period
  let moves := (0, 0) :: List.zipWith directionalMove candles candles.tail
  match List.zipWith directionalIndex moves atr with
  | [] => 0
  | dx :: rest =>
      if rest.length + 1 < period then 0
      else rest.foldl (fun smoothed dx => smoothed + 1 / period * (dx - smoothed)) dx

/-- `bbWidth < 0.03`: four deviations of the last twenty closes against their mean. -/
def bandsNarrow (closes : List ℚ) : Bool :=
  let last := closes.drop (closes.length - 20)
  let middle := last.sum / 20
  let variance := (last.map (fun c => (c - middle) ^ 2)).sum / 20
  middle ≤ 0 || 16 * variance < (3 / 100 * middle) ^ 2

/-- The regime of `analyzeRegime`. -/
def analyzeRegime (candles : List Candle) : MarketRegime :=
  if candles.length < 50 then .unknown
  else
    let emaTrend := slope (computeEMA (closes candles) 20) +
      slope (computeEMA (closes candles) 50) * (1 / 2)
    if 25 < adxValue candles 14 then
      if 1 / 1000 < emaTrend then .trendingUp
      else if emaTrend < -(1 / 1000) then .trendingDown
      else .ranging
    else if |emaTrend| < 5 / 10000 ∧ bandsNarrow (closes candles) then .ranging
    else if 0 < emaTrend then .trendingUp
    else .trendingDown

/-! ## Positions -/

inductive PositionStatus where
  | open_
  | closed
  deriving DecidableEq, Repr

/-- The reasons to close; the event of an update is its reason. -/
inductive ExitReason where
  | liquidated
  | catastrophicSL
  | windfall
  | peakPnl
  | regimeExit
  | tpHit
  | slHit
  | trailingStop
  | timeStop
  | flipExit
  deriving DecidableEq, Repr

structure Position where
  id : ℕ
  side : PositionSide
  entryPrice : ℚ
  quantity : ℚ
  marginUsed : ℚ
  leverage : ℚ
  slPrice : ℚ
  tpPrice : Option ℚ
  trailingActive : Bool := false
  highestPrice : ℚ
  lowestPrice : ℚ
  peakPnlPct : ℚ := 0
  timeStopHours : ℕ
  openTime : ℤ
  openCandleTime : ℤ
  status : PositionStatus := .open_
  closePrice : Option ℚ := none
  closeReason : Option ExitReason := none
  realizedPnl : ℚ := 0
  unrealizedPnl : ℚ := 0
  fees : ℚ
  deriving DecidableEq

structure PositionUpdate where
  position : Position
  event : ExitReason
  pnl : ℚ

/-- `openPosition`. -/
def openPosition (id : ℕ) (side : PositionSide) (entryPrice quantity leverage slPrice : ℚ)
    (tpPrice : Option ℚ) (timeStopHours : ℕ) (candleCloseTime now : ℤ) (fee : ℚ) : Position where
  id := id
  side := side
  entryPrice := entryPrice
  quantity := quantity
  marginUsed := entryPrice * quantity / leverage
  leverage := leverage
  slPrice := slPrice
  tpPrice := tpPrice
  highestPrice := entryPrice
  lowestPrice := entryPrice
  timeStopHours := timeStopHours
  openTime := now
  openCandleTime := candleCloseTime
  fees := fee

namespace Position

variable (pos : Position) (markPrice : ℚ)

/-- The PnL of the position at a price. -/
def pnlAt : ℚ :=
  match pos.side with
  | .long => (markPrice - pos.entryPrice) * pos.quantity
  | .short => (pos.entryPrice - markPrice) * pos.quantity

/-- How far the price moved in favour of the position. -/
def undilutedPnl : ℚ :=
  let priceChangePct :=
    if 0 < pos.entryPrice then (markPrice - pos.entryPrice) / pos.entryPrice else 0
  match pos.side with
  | .long => priceChangePct
  | .short => -priceChangePct

/-- The first part of `updatePosition`: margin, PnL and extremes at a price. -/
def mark : Position :=
  { pos with
    marginUsed := pos.quantity * markPrice / pos.leverage
    unrealizedPnl := pos.pnlAt markPrice
    highestPrice := match pos.side with
      | .long => max pos.highestPrice markPrice
      | .short => pos.highestPrice
    lowestPrice := match pos.side with
      | .long => pos.lowestPrice
      | .short => min pos.lowestPrice markPrice
    peakPnlPct := max pos.peakPnlPct (pos.undilutedPnl markPrice) }

/-- A price at or past another, against the position. -/
def reachedAgainst (level : ℚ) : Bool :=
  match pos.side with
  | .long => markPrice ≤ level
  | .short => level ≤ markPrice

/-- A price at or past another, in favour of the position. -/
def reachedInFavour (level : ℚ) : Bool :=
  match pos.side with
  | .long => level ≤ markPrice
  | .short => markPrice ≤ level

/-- The liquidation price, approximately. -/
def liquidationPrice : ℚ :=
  match pos.side with
  | .long => pos.entryPrice * (1 - 1 / pos.leverage)
  | .short => pos.entryPrice * (1 + 1 / pos.leverage)

/-- The regime turned against the position, near its entry. -/
def regimeReversed (currentRegime : MarketRegime) : Bool :=
  match pos.side with
  | .long => currentRegime = .trendingDown && pos.entryPrice * (995 / 1000) ≤ markPrice
  | .short => currentRegime = .trendingUp && markPrice ≤ pos.entryPrice * (1005 / 1000)

/-- The mark is past the average on which an active trailing stop rests. -/
def trailedOut (ema9 : ℚ) : Bool :=
  pos.trailingActive && match pos.side with
    | .long => markPrice < ema9
    | .short => ema9 < markPrice

/-- The exits of `updatePosition`, in their order, for a position that is marked. -/
def exitReason (candleCloseTime : ℤ) (catastrophicSLPct windfallROMPct : ℚ)
    (currentRegime : MarketRegime) (ema9 : ℚ) : Option ExitReason :=
  let marginPnlPct := if 0 < pos.marginUsed then pos.unrealizedPnl / pos.marginUsed else 0
  let peakPnlValue := pos.peakPnlPct * pos.entryPrice * pos.quantity
  let hoursOpen : ℚ := (candleCloseTime - pos.openCandleTime) / 3600000
  if pos.reachedAgainst markPrice pos.liquidationPrice then some .liquidated
  else if pos.unrealizedPnl ≤ pos.marginUsed * catastrophicSLPct then some .catastrophicSL
  else if windfallROMPct ≤ marginPnlPct then some .windfall
  else if 2 / 100 ≤ pos.peakPnlPct ∧ pos.unrealizedPnl ≤ peakPnlValue * (75 / 100) then
    some .peakPnl
  else if pos.regimeReversed markPrice currentRegime then some .regimeExit
  else if pos.tpPrice.any (pos.reachedInFavour markPrice) then some .tpHit
  else if pos.reachedAgainst markPrice pos.slPrice then some .slHit
  else if pos.trailedOut markPrice ema9 then some .trailingStop
  else if pos.timeStopHours ≤ hoursOpen then some .timeStop
  else none

end Position

/-- `closePosition`: what was unrealized is realized. -/
def closePosition (pos : Position) (markPrice : ℚ) (reason : ExitReason) : PositionUpdate :=
  let closed : Position :=
    { pos with
      status := .closed
      closePrice := some markPrice
      closeReason := some reason
      realizedPnl := pos.unrealizedPnl
      unrealizedPnl := 0 }
  ⟨closed, reason, closed.realizedPnl⟩

/-- `updatePosition`: the position as it is then, and its update if it was closed. -/
def updatePosition (pos : Position) (markPrice : ℚ) (candleCloseTime : ℤ)
    (catastrophicSLPct windfallROMPct : ℚ) (currentRegime : MarketRegime) (ema9 : ℚ) :
    Position × Option PositionUpdate :=
  if pos.status ≠ .open_ then (pos, none)
  else
    let pos := pos.mark markPrice
    match pos.exitReason markPrice candleCloseTime catastrophicSLPct windfallROMPct currentRegime
      ema9 with
    | some reason =>
        let update := closePosition pos markPrice reason
        (update.position, some update)
    | none => (pos, none)

/-! ## What a close realizes -/

/-- A closed position that realized its PnL at the price it was closed at. -/
structure Position.Settled (pos : Position) : Prop where
  closed : pos.status = .closed
  own : ∃ price, pos.closePrice = some price ∧ pos.realizedPnl = pos.pnlAt price

section Close

variable {pos : Position} {price : ℚ} {reason : ExitReason}

/-- A close settles the position only if it was marked at the closing price. -/
theorem closePosition_settled_iff : (closePosition pos price reason).position.Settled ↔
    pos.unrealizedPnl = pos.pnlAt price := by
  constructor
  · rintro ⟨-, x, hprice, hown⟩
    obtain rfl : price = x := Option.some.inj hprice
    exact hown
  · exact fun h => ⟨rfl, price, rfl, h⟩

@[simp] theorem closePosition_id : (closePosition pos price reason).position.id = pos.id := rfl

@[simp] theorem closePosition_pnl : (closePosition pos price reason).pnl = pos.unrealizedPnl := rfl

@[simp] theorem closePosition_realizedPnl :
    (closePosition pos price reason).position.realizedPnl = pos.unrealizedPnl := rfl

@[simp] theorem mark_id : (pos.mark price).id = pos.id := rfl

@[simp] theorem mark_status : (pos.mark price).status = pos.status := rfl

@[simp] theorem mark_unrealizedPnl : (pos.mark price).unrealizedPnl = pos.pnlAt price := rfl

@[simp] theorem mark_pnlAt (x : ℚ) : (pos.mark price).pnlAt x = pos.pnlAt x := rfl

/-- An open position is marked, and closed at the mark or left open. -/
theorem updatePosition_cases (h : pos.status = .open_) (candleCloseTime : ℤ)
    (catastrophicSLPct windfallROMPct : ℚ) (currentRegime : MarketRegime) (ema9 : ℚ) :
    (∃ reason, updatePosition pos price candleCloseTime catastrophicSLPct windfallROMPct
      currentRegime ema9 = ((closePosition (pos.mark price) price reason).position,
        some (closePosition (pos.mark price) price reason))) ∨
    updatePosition pos price candleCloseTime catastrophicSLPct windfallROMPct currentRegime ema9 =
      (pos.mark price, none) := by
  unfold updatePosition
  rw [if_neg (not_not_intro h)]
  cases hexit : (pos.mark price).exitReason price candleCloseTime catastrophicSLPct windfallROMPct
      currentRegime ema9 with
  | some reason => exact .inl ⟨reason, by simp only [hexit]⟩
  | none => exact .inr (by simp only [hexit])

end Close

end CryptoTrader.Browser
