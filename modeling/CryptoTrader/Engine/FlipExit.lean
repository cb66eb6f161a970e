import CryptoTrader.Strategies.Supertrend
import CryptoTrader.Lib.Run

/-!
# The flip exit of the Supertrend modes

The signal tick of `engine_ws.py` in the modes `supertrend2` and
`regime_switch`: the market data it fetches, the gates, the flip exit, and the
entry.  Of the wallet only the side of the open position is kept; what its exits
and the execution of an entry come to is an input of the tick.
-/

namespace CryptoTrader

open CryptoTrader.Lib CryptoTrader.Backtest

/-! ## Market data -/

/-- The modes that trade the playbook. -/
inductive TrendMode where
  | supertrend2
  | regimeSwitch
  deriving DecidableEq, Repr

/-- `get_klines`, with the limit of each timeframe, and the timeframes for which
it raises. -/
structure KlineFeed where
  klines : Timeframe → List Candle
  fails : Timeframe → Bool

/-- The timeframes that are always fetched. -/
def baselineTimeframes : List Timeframe := [.hours 1, .hours 4, .minutes 15, .minutes 5]

/-- What is read of the dict that `_fetch_market_data` returns; the outer options
are keys that may be missing. -/
structure MarketData where
  df1h : List Candle
  df4h : List Candle
  dfSt2 : Option (List Candle)
  dfSt2Htf : Option (Option (List Candle))

/-- `_fetch_market_data`: only in the mode `supertrend2` the engine has the
playbook whose timeframes it looks at. -/
def KlineFeed.fetchMarketData (feed : KlineFeed) (mode : TrendMode) (pb : PlaybookSupertrend2) :
    MarketData :=
  let known (timeframe : Timeframe) : Bool :=
    timeframe ∈ baselineTimeframes || !feed.fails timeframe
  { df1h := feed.klines (.hours 1)
    df4h := feed.klines (.hours 4)
    dfSt2 := match mode with
      | .supertrend2 =>
          some (feed.klines (if known pb.timeframe then pb.timeframe else .hours 1))
      | .regimeSwitch => none
    dfSt2Htf := match mode with
      | .supertrend2 =>
          some (if known pb.htfTimeframe then some (feed.klines pb.htfTimeframe) else none)
      | .regimeSwitch => none }

/-- `data.get("df_st2", data["df_1h"])`. -/
def MarketData.primary (data : MarketData) : List Candle := data.dfSt2.getD data.df1h

/-- `data.get("df_st2_htf", data["df_4h"])`, if the filter is on. -/
def MarketData.higher (data : MarketData) (pb : PlaybookSupertrend2) : Option (List Candle) :=
  if pb.useHtfFilter then data.dfSt2Htf.getD (some data.df4h) else none

/-! ## A tick -/

/-- What `_execute_entry` comes to: a fill, no order or a rejection before any
fill, or an exception, after which a fill may have been booked. -/
inductive EntryExecution where
  | filled
  | vetoed
  | failed (booked : Bool)
  deriving DecidableEq, Repr

/-- What a signal tick meets: the mode and the playbook in effect, the market, the
gates, and what the wallet's calls come to. -/
structure SignalTick where
  mode : TrendMode := .supertrend2
  pb : PlaybookSupertrend2
  feed : KlineFeed
  /-- the price monitor or the venue closed the position since the last tick -/
  closedBefore : Bool := false
  /-- `_fetch_market_data` returns data -/
  fetched : Bool := true
  /-- `REQUIRE_KILL_ZONE` is on, outside of one -/
  outsideKillZone : Bool := false
  /-- a step between the data and the risk check raises -/
  stepRaises : Bool := false
  /-- what `RiskManager.can_trade` returns -/
  canTrade : Bool := true
  /-- `close_position` raises in the flip exit -/
  closeRaises : Bool := false
  /-- `update_positions` closes the position -/
  otherExit : Bool := false
  noChampion : Bool := false
  outOfScope : Bool := false
  /-- `_regime_allows` -/
  regimeAllows : Bool := true
  /-- the funding rate is extreme against the side -/
  fundingExtreme : PositionSide → Bool := fun _ => false
  entry : EntryExecution := .filled

/-- What is kept of the engine of a symbol. -/
structure TrendEngine where
  halted : Bool := false
  position : Option PositionSide := none
  deriving DecidableEq

namespace SignalTick

variable (tick : SignalTick)

def data : MarketData := tick.feed.fetchMarketData tick.mode tick.pb

/-- `_st2_check_flip_exit` finds a flip against a position: the direction changed
at the last bar. -/
def flipsAgainst (side : PositionSide) : Bool :=
  let df := tick.data.primary
  if df.length < tick.pb.minBars then false
  else if tick.pb.currDir df = tick.pb.prevDir df then false
  else (tick.pb.currDir df).side ≠ side

/-- `_update_open_position`; an exception of `close_position` is swallowed, and
the position is managed as if there was no flip. -/
def updateOpenPosition (engine : TrendEngine) : TrendEngine :=
  match engine.position with
  | none => engine
  | some side =>
      if tick.flipsAgainst side && !tick.closeRaises then { engine with position := none }
      else if tick.otherExit then { engine with position := none }
      else engine

/-- The setup of `_evaluate_entry_st2` and `_evaluate_entry_regime_switch`. -/
def setup : Option SupertrendSetup :=
  let setup := tick.pb.evaluate tick.data.primary (tick.data.higher tick.pb)
  match tick.mode with
  | .supertrend2 => setup
  | .regimeSwitch => if tick.regimeAllows then setup else none

/-- The entry, if there is no position. -/
def evaluateEntry (engine : TrendEngine) : TrendEngine :=
  match engine.position with
  | some _ => engine
  | none =>
      if tick.noChampion || tick.outOfScope then engine
      else
        match tick.setup with
        | none => engine
        | some setup =>
            if tick.fundingExtreme setup.side then engine
            else
              match tick.entry with
              | .filled => { engine with position := some setup.side }
              | .vetoed => engine
              | .failed booked =>
                  { halted := true, position := if booked then some setup.side else none }

end SignalTick

/-- `_signal_tick`. -/
def TrendEngine.signalTick (engine : TrendEngine) (tick : SignalTick) : TrendEngine :=
  let engine := if tick.closedBefore then { engine with position := none } else engine
  if engine.halted then engine
  else if !tick.fetched then engine
  else if tick.outsideKillZone || tick.stepRaises then engine
  else if !tick.canTrade then engine
  else tick.evaluateEntry (tick.updateOpenPosition engine)

/-! ## Complete exits -/

/-- The direction on the configured timeframe is against a side. -/
def SignalTick.opposes (tick : SignalTick) (side : PositionSide) : Bool :=
  (tick.pb.getCurrentDirection (tick.feed.klines tick.pb.timeframe)).any (·.side ≠ side)

/-- A tick of a running engine that fetched its data leaves no position against the
direction. -/
def TrendEngine.ExitsComplete (engine : TrendEngine) (tick : SignalTick) : Prop :=
  engine.halted = false → tick.fetched = true →
    ∀ side, (engine.signalTick tick).position = some side → tick.opposes side = false

/-- The position a tick starts with. -/
def TrendEngine.held (engine : TrendEngine) (tick : SignalTick) : Option PositionSide :=
  if tick.closedBefore then none else engine.position

namespace SignalTick

variable (tick : SignalTick)

/-- No gate before the position update is closed. -/
def gatesOpen : Bool := !tick.outsideKillZone && !tick.stepRaises && tick.canTrade

/-- A position on the side is closed: by the flip, or by another exit. -/
def exits (side : PositionSide) : Bool :=
  (tick.flipsAgainst side && !tick.closeRaises) || tick.otherExit

/-- The side an engine without position has after the tick. -/
def entrySide : Option PositionSide :=
  if tick.noChampion || tick.outOfScope then none
  else
    match tick.setup with
    | none => none
    | some setup =>
        if tick.fundingExtreme setup.side then none
        else
          match tick.entry with
          | .filled => some setup.side
          | .vetoed => none
          | .failed booked => if booked then some setup.side else none

/-- The frame the tick reads is that of the configured timeframe. -/
def ReadsConfigured : Prop := tick.data.primary = tick.feed.klines tick.pb.timeframe

end SignalTick

/-- What makes the exits of a tick complete: it is not held up while the position
is against the direction and closes it then; and an entry made in its place is with
the direction. -/
structure TrendEngine.Covered (engine : TrendEngine) (tick : SignalTick) : Prop where
  exit : ∀ side, engine.held tick = some side → tick.opposes side = true →
    tick.gatesOpen = true ∧ tick.exits side = true
  entry : tick.gatesOpen = true → (∀ side, engine.held tick = some side → tick.exits side = true) →
    ∀ side, tick.entrySide = some side → tick.opposes side = false

/-! ## The side of an entry -/

namespace SignalTick

variable {tick : SignalTick}

theorem setup_side {setup : SupertrendSetup} (h : tick.setup = some setup) :
    setup.side = (tick.pb.currDir tick.data.primary).side ∧
      tick.pb.minBars ≤ tick.data.primary.length := by
  unfold SignalTick.setup at h
  cases hmode : tick.mode with
  | supertrend2 =>
      simp only [hmode] at h
      exact PlaybookSupertrend2.evaluate_side h
  | regimeSwitch =>
      simp only [hmode] at h
      split_ifs at h
      exact PlaybookSupertrend2.evaluate_side h

theorem setup_of_entrySide {side : PositionSide} (h : tick.entrySide = some side) :
    ∃ setup, tick.setup = some setup ∧ setup.side = side := by
  unfold entrySide at h
  split_ifs at h
  cases hsetup : tick.setup with
  | none => simp [hsetup] at h
  | some setup =>
      refine ⟨setup, rfl, ?_⟩
      simp only [hsetup] at h
      split_ifs at h
      cases hentry : tick.entry with
      | filled => simpa [hentry] using h
      | vetoed => simp [hentry] at h
      | failed booked => cases booked <;> simp [hentry] at h; exact h

/-- An entry on the configured timeframe is with its direction. -/
theorem entrySide_not_opposed (hreads : tick.ReadsConfigured) {side : PositionSide}
    (h : tick.entrySide = some side) : tick.opposes side = false := by
  obtain ⟨setup, hsetup, rfl⟩ := setup_of_entrySide h
  obtain ⟨hside, hbars⟩ := setup_side hsetup
  unfold opposes
  rw [← hreads, PlaybookSupertrend2.getCurrentDirection_eq hbars, hside]
  simp

/-- On the configured timeframe a position against the direction is closed by the
flip exit where the direction changed at the last bar. -/
theorem flipsAgainst_iff (hreads : tick.ReadsConfigured) {side : PositionSide}
    (h : tick.opposes side = true) :
    tick.flipsAgainst side = true ↔
      tick.pb.currDir tick.data.primary ≠ tick.pb.prevDir tick.data.primary := by
  unfold opposes at h
  rw [← hreads] at h
  unfold flipsAgainst
  by_cases hbars : tick.data.primary.length < tick.pb.minBars
  · simp [PlaybookSupertrend2.getCurrentDirection, hbars] at h
  · rw [PlaybookSupertrend2.getCurrentDirection_eq (not_lt.mp hbars)] at h
    simp only [hbars, if_false]
    by_cases hsame : tick.pb.currDir tick.data.primary = tick.pb.prevDir tick.data.primary
    · simp [hsame]
    · simpa [hsame] using h

/-! ## What a tick does to the position -/

theorem updateOpenPosition_position (engine : TrendEngine) :
    (tick.updateOpenPosition engine).position =
      engine.position.filter (fun side => !tick.exits side) := by
  unfold updateOpenPosition exits
  cases h : engine.position with
  | none => simp [h]
  | some side =>
      cases hflip : tick.flipsAgainst side && !tick.closeRaises with
      | true => simp [Option.filter, hflip]
      | false => cases tick.otherExit <;> simp [Option.filter, hflip, h]

theorem evaluateEntry_position (engine : TrendEngine) :
    (tick.evaluateEntry engine).position = engine.position.or tick.entrySide := by
  unfold evaluateEntry entrySide
  cases h : engine.position with
  | some side => simp [h]
  | none =>
      by_cases hscope : (tick.noChampion || tick.outOfScope) = true
      · simp [hscope, h]
      · simp only [hscope, Option.none_or]
        cases tick.setup with
        | none => simp [h]
        | some setup =>
            cases hfunding : tick.fundingExtreme setup.side with
            | true => simp [hfunding, h]
            | false => cases tick.entry <;> simp [hfunding, h]

end SignalTick

namespace TrendEngine

variable {engine : TrendEngine} {tick : SignalTick}

/-- The position a running engine ends a tick with. -/
theorem signalTick_position (hrunning : engine.halted = false) (hfetched : tick.fetched = true) :
    (engine.signalTick tick).position =
      if tick.gatesOpen then
        ((engine.held tick).filter (fun side => !tick.exits side)).or tick.entrySide
      else engine.held tick := by
  unfold signalTick held SignalTick.gatesOpen
  have hhalted : (if tick.closedBefore then { engine with position := none } else engine).halted =
      false := by
    split_ifs <;> exact hrunning
  have hposition :
      (if tick.closedBefore then { engine with position := none } else engine).position =
        if tick.closedBefore then none else engine.position := by
    split_ifs <;> rfl
  simp only [hhalted, hfetched, Bool.false_eq_true, Bool.not_true, if_false]
  cases tick.outsideKillZone with
  | true => simpa using hposition
  | false =>
      cases tick.stepRaises with
      | true => simpa using hposition
      | false =>
          cases tick.canTrade with
          | false => simpa using hposition
          | true =>
              rw [← hposition, ← SignalTick.updateOpenPosition_position,
                ← SignalTick.evaluateEntry_position]
              simp

/-- The exits of a tick are complete exactly if it is covered. -/
theorem exitsComplete_iff (engine : TrendEngine) (tick : SignalTick) :
    engine.ExitsComplete tick ↔
      (engine.halted = false → tick.fetched = true → engine.Covered tick) := by
  refine imp_congr_right (fun hrunning => imp_congr_right (fun hfetched => ?_))
  rw [signalTick_position hrunning hfetched]
  cases hgates : tick.gatesOpen with
  | false =>
      simp only [Bool.false_eq_true, if_false]
      constructor
      · intro h
        refine ⟨fun side hheld hopposes => ?_, fun hopen => ?_⟩
        · rw [h side hheld] at hopposes
          cases hopposes
        · rw [hgates] at hopen
          cases hopen
      · intro h side hheld
        by_contra hopposes
        have hexit := h.exit side hheld (by simpa using hopposes)
        simp [hgates] at hexit
  | true =>
      simp only [if_true]
      cases hheld : engine.held tick with
      | none =>
          simp only [Option.filter_none, Option.none_or]
          constructor
          · intro h
            exact ⟨by simp [hheld], fun _ _ => h⟩
          · intro h
            exact h.entry hgates (by simp [hheld])
      | some held =>
          cases hexits : tick.exits held with
          | true =>
              simp only [Option.filter, hexits, Bool.not_true, Bool.false_eq_true, if_false,
                Option.none_or]
              constructor
              · intro h
                exact ⟨by simp [hheld, hgates, hexits], fun _ _ => h⟩
              · intro h
                exact h.entry hgates (by simp [hheld, hexits])
          | false =>
              simp only [Option.filter, hexits, Bool.not_false, if_true, Option.some_or,
                Option.some.injEq, forall_eq']
              constructor
              · intro h
                exact ⟨by simp [hheld, h], by simp [hheld, hexits]⟩
              · intro h
                by_contra hopposes
                have hexit := h.exit held hheld (by simpa using hopposes)
                simp [hexits] at hexit

/-- A flat market, with a crash and what follows it. -/
def demoKlines (bars : ℕ) : List Candle :=
  let flat : Candle := ⟨100, 101, 99, 100, 1, 0⟩
  let crash : Candle := ⟨100, 101, 49, 50, 1, 0⟩
  let after : Candle := ⟨50, 51, 49, 50, 1, 0⟩
  (List.replicate 22 flat ++ crash :: List.replicate 3 after).take bars

/-- A tick of the mode on one series after so many bars, in the middle of the trend. -/
def demoTick (mode : TrendMode) (timeframe : Timeframe) (bars : ℕ) : SignalTick :=
  { mode
    pb := { atrPeriod := 1, useAdaptiveAtr := false, timeframe, entryMode := .continuous,
            useHtfFilter := false }
    feed := { klines := fun tf => demoKlines (if tf = timeframe then bars else 22)
              fails := fun _ => false } }

end TrendEngine

end CryptoTrader
