import CryptoTrader.Wallet.Trading

/-!
# What a mark makes of a position

The tests `update_positions` runs on a position that has just been marked, in
the order in which it runs them: the exits that return at once (liquidation,
catastrophic loss, windfall, falling back from the peak, reversals), then
those of the playbook.
-/

namespace CryptoTrader

open CryptoTrader.Lib

/-- The constructor arguments that only the exit tests read. -/
structure ExitRules where
  catastrophicSlPct : Decimal := -1 / 2
  softwareSlBackupBps : Int := 15
  deriving DecidableEq

/-- `MarketRegime`. -/
inductive MarketRegime where
  | trendingUp
  | trendingDown
  | ranging
  | chop
  deriving DecidableEq, Repr

inductive Bias where
  | bullish
  | bearish
  | neutral
  deriving DecidableEq, Repr

/-- What is read of `current_llm_advice`. -/
structure LlmAdvice where
  bias : Bias
  confidence : Decimal
  deriving DecidableEq

/-- The arguments of `update_positions` besides the symbol. -/
structure MarkUpdate where
  markPrice : Decimal
  candleCloseTime : Int
  ema9 : Option Decimal := none
  llmAdvice : Option LlmAdvice := none
  regime : Option MarketRegime := none
  deriving DecidableEq

/-! ## Texts of the reasons -/

/-- Round to an integer, halves to even. -/
def roundHalfEven (x : Decimal) : Int :=
  let low := x.floor
  let rest := x - low
  if rest < 1 / 2 then low
  else if 1 / 2 < rest then low + 1
  else if low % 2 = 0 then low else low + 1

/-- `f"{x:.{digits}f}"`. -/
def pyFixed (digits : Nat) (x : Decimal) : String :=
  let scaled := (roundHalfEven (|x| * (10 ^ digits : Nat))).toNat
  let fraction := toString (scaled % 10 ^ digits)
  (if x < 0 then "-" else "") ++ toString (scaled / 10 ^ digits) ++ "." ++
    String.ofList (List.replicate (digits - fraction.length) '0') ++ fraction

/-! ## Liquidation -/

/-- `_is_liquidation_required`. -/
def Wallet.isLiquidationRequired (w : Wallet) (pos : EnhancedPosition) (markPrice : Decimal) :
    Bool :=
  let pos := pos.updatePnl markPrice
  let equity := pos.marginUsed + pos.unrealizedPnl
  let maintenance := pos.notional * w.maintenanceMarginRatio
  equity < maintenance

/-- `liquidation_price`; a position's leverage is never zero. -/
def Wallet.liquidationPrice (w : Wallet) (pos : EnhancedPosition) : Decimal :=
  if pos.entryPrice ≤ 0 then 0
  else
    let invLev : Decimal := 1 / (pos.leverage : ℕ)
    let denom :=
      match pos.side with
      | .long => 1 + invLev - w.maintenanceMarginRatio
      | .short => 1 - invLev + w.maintenanceMarginRatio
    if denom ≤ 0 then 0 else pos.entryPrice / denom

/-! ## Exits that return at once -/

/-- `current_margin_pnl_pct`. -/
def EnhancedPosition.currentMarginPnlPct (pos : EnhancedPosition) : Decimal :=
  if pos.marginUsed = 0 then 0 else pos.unrealizedPnl / pos.marginUsed

/-- The position has been 2% up and has lost a quarter of its best PnL. -/
def EnhancedPosition.fallsFromPeak (pos : EnhancedPosition) : Bool :=
  let peakPnl := pos.side.gain pos.entryPrice pos.highestPrice * pos.remainingQuantity
  2 / 100 ≤ pos.peakPnlPct && pos.unrealizedPnl ≤ peakPnl * (75 / 100)

/-- The mark is no more than 0.5% against the position. -/
def EnhancedPosition.nearEntry (pos : EnhancedPosition) (markPrice : Decimal) : Bool :=
  match pos.side with
  | .long => pos.entryPrice * (995 / 1000) ≤ markPrice
  | .short => markPrice ≤ pos.entryPrice * (1005 / 1000)

/-- The bias against a side. -/
def PositionSide.adverseBias : PositionSide → Bias
  | .long => .bearish
  | .short => .bullish

/-- The trend against a side. -/
def PositionSide.adverseRegime : PositionSide → MarketRegime
  | .long => .trendingDown
  | .short => .trendingUp

/-- An exit after which `update_positions` returns at once. -/
inductive ForcedExit where
  | liquidation
  | close (reason : String)
  deriving DecidableEq

/-- Blocks 1 to 4 of `update_positions`. -/
def Wallet.forcedExit (w : Wallet) (rules : ExitRules) (pos : EnhancedPosition) (u : MarkUpdate) :
    Option ForcedExit :=
  let pnl := pos.unrealizedPnl
  let catSl := pos.marginUsed * rules.catastrophicSlPct
  let adviceReverses := u.llmAdvice.any (fun advice =>
    advice.bias = pos.side.adverseBias && 7 / 10 ≤ advice.confidence)
  let regimeReverses := u.regime.any (fun regime => regime = pos.side.adverseRegime)
  if w.isLiquidationRequired pos u.markPrice then some .liquidation
  else if pnl ≤ catSl then some (.close s!"CATASTROPHIC_SL ({pyFixed 2 pnl})")
  else if 40 / 100 ≤ pos.currentMarginPnlPct then some (.close "WINDFALL_RO_MARGIN_EXIT")
  else if pos.fallsFromPeak then some (.close "PEAK_TRADING_STOP")
  else if adviceReverses && pos.nearEntry u.markPrice then some (.close "AI_REVERSAL_EXIT")
  else if regimeReverses && pos.nearEntry u.markPrice then some (.close "REGIME_REVERSAL_EXIT")
  else none

/-! ## Exits of the playbook -/

/-- The mark has reached a take-profit price. -/
def PositionSide.reaches (side : PositionSide) (markPrice target : Decimal) : Bool :=
  match side with
  | .long => target ≤ markPrice
  | .short => markPrice ≤ target

/-- The mark has gone through a stop. -/
def PositionSide.stopsAt (side : PositionSide) (markPrice stop : Decimal) : Bool :=
  match side with
  | .long => markPrice ≤ stop
  | .short => stop ≤ markPrice

/-- `_software_sl_level`: a little past the stop while one rests on the venue. -/
def Wallet.softwareSlLevel (w : Wallet) (rules : ExitRules) (pos : EnhancedPosition) : Decimal :=
  let sl := pos.slPrice
  if w.liveExecution && pos.protectiveOrders.sl.any (· ≠ "") then
    let buf : Decimal := (rules.softwareSlBackupBps : Decimal) / 10000
    match pos.side with
    | .long => sl * (1 - buf)
    | .short => sl * (1 + buf)
  else sl

/-- The age of a position at a candle's close. -/
def EnhancedPosition.hoursOpen (pos : EnhancedPosition) (candleCloseTime : Int) : Decimal :=
  ((candleCloseTime - pos.openTime : Int) : Decimal) / 3600000

/-- What the playbook does: close, or take profit at a level. -/
inductive PlaybookExit where
  | close (reason : String)
  | takeProfit (level : TpLevel)
  deriving DecidableEq

section Playbook

variable (w : Wallet) (rules : ExitRules) (pos : EnhancedPosition) (u : MarkUpdate)

/-- The stop test both playbooks share. -/
def Wallet.stopExit : Option PlaybookExit :=
  if pos.side.stopsAt u.markPrice (w.softwareSlLevel rules pos) then
    some (.close s!"SL_HIT ({pyFixed 2 pos.unrealizedPnl})")
  else none

/-- The time test both playbooks share. -/
def EnhancedPosition.timeExit : Option PlaybookExit :=
  let hoursOpen := pos.hoursOpen u.candleCloseTime
  if (pos.timeStopHours : Decimal) ≤ hoursOpen then
    some (.close s!"TIME_STOP ({pyFixed 1 hoursOpen}h)")
  else none

/-- `_check_intraday_exits`. -/
def Wallet.intradayExit : Option PlaybookExit :=
  let target := pos.tpLevels.head?.filter (fun tp => pos.side.reaches u.markPrice tp.price)
  if target.isSome then some (.close s!"TP_HIT ({pyFixed 2 pos.unrealizedPnl})")
  else (w.stopExit rules pos u).or (pos.timeExit u)

/-- The close below or above the moving average once the trail is active. -/
def EnhancedPosition.trailExit : Option PlaybookExit :=
  match pos.trailingActive, u.ema9 with
  | true, some ema9 =>
      let crossed :=
        match pos.side with
        | .long => decide (u.markPrice < ema9)
        | .short => decide (ema9 < u.markPrice)
      if crossed then some (.close s!"TRAIL_STOP (EMA9 {pyFixed 2 ema9})") else none
  | _, _ => none

/-- `_check_swing_exits`; at most one level is taken on a tick. -/
def Wallet.swingExit : Option PlaybookExit :=
  match pos.tpLevels.find? (fun tp => !tp.hit && pos.side.reaches u.markPrice tp.price) with
  | some tp => some (.takeProfit tp)
  | none => ((w.stopExit rules pos u).or (pos.trailExit u)).or (pos.timeExit u)

/-- Block 5 of `update_positions`. -/
def Wallet.playbookExit : Option PlaybookExit :=
  match pos.playbook with
  | .intraday => w.intradayExit rules pos u
  | .swing => w.swingExit rules pos u

end Playbook

/-! ## `update_positions` in paper mode -/

/-- What `update_positions` does once a playbook exit has fired. -/
def Wallet.takePlaybookExit (w : Wallet) (symbol : Symbol) (markPrice entryPrice : Decimal) :
    PlaybookExit → Wallet
  | .close reason => (w.closePosition symbol markPrice reason none).2
  | .takeProfit tp =>
      let w := (w.partialClose symbol markPrice tp.pct s!"{tp.label} HIT" (some tp.label) none).2
      if tp.label = "TP1" then w.adjustSlPrice symbol entryPrice
      else if tp.label = "TP2" then w.activateTrailingStop symbol
      else w

def Wallet.takeForcedExit (w : Wallet) (symbol : Symbol) (markPrice : Decimal) :
    ForcedExit → Wallet
  | .liquidation => w.liquidatePosition symbol markPrice
  | .close reason => (w.closePosition symbol markPrice reason none).2

/-- The position of a symbol, marked. -/
def Wallet.markPosition (w : Wallet) (symbol : Symbol) (markPrice : Decimal) : Wallet :=
  w.editPosition symbol (fun pos => pos.updatePnl markPrice)

/-- `update_positions`. -/
def Wallet.updatePositions (w : Wallet) (rules : ExitRules) (symbol : Symbol) (u : MarkUpdate) :
    Wallet :=
  match w.getOpenPosition symbol with
  | none => w.syncUnrealizedTotal
  | some pos =>
      let pos := pos.updatePnl u.markPrice
      let w := w.markPosition symbol u.markPrice
      match w.forcedExit rules pos u with
      | some exit => w.takeForcedExit symbol u.markPrice exit
      | none =>
          match w.playbookExit rules pos u with
          | some exit =>
              (w.takePlaybookExit symbol u.markPrice pos.entryPrice exit).syncUnrealizedTotal
          | none => w.syncUnrealizedTotal

end CryptoTrader
