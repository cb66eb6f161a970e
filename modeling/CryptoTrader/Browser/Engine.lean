import CryptoTrader.Browser.Position
import CryptoTrader.Browser.Risk
import CryptoTrader.Lib.Run

/-!
# The browser engine

`engine/engine.ts` of the user interface.  A tick suspends at its two fetches: the first
response replaces the candles of the engine, the second those of the higher timeframe, and
then the tick evaluates what the engine holds.  Between them anything may happen: other
ticks, `start`, `pause`, `resume`, `stop` and `reset`.  What is only reported is left out:
the events, the last signal, the regime's score.
-/

namespace CryptoTrader.Browser

open CryptoTrader.Backtest

inductive BotStatus where
  | idle
  | running
  | paused
  | halted
  deriving DecidableEq, Repr

/-- `BotConfig`, as far as the engine reads it. -/
structure BotConfig where
  initialBalance : ℚ := 1000
  leverage : ℚ := 10
  riskPerTrade : ℚ := 1 / 100
  risk : RiskConfig := {}
  supertrend : Port.Supertrend2Config := {}

structure BotState where
  status : BotStatus := .idle
  balance : ℚ
  unrealizedPnl : ℚ := 0
  realizedPnl : ℚ := 0
  marginBalance : ℚ
  availableBalance : ℚ
  utilizedMargin : ℚ := 0
  openPositions : List Position := []
  positionHistory : List Position := []
  totalTrades : ℕ := 0
  regime : MarketRegime := .unknown
  riskState : RiskState
  deriving DecidableEq

/-- `createInitialState`. -/
def createInitialState (config : BotConfig) (now : ℤ) : BotState where
  balance := config.initialBalance
  marginBalance := config.initialBalance
  availableBalance := config.initialBalance
  riskState := createRiskState now

/-- The engine's fields, and the counter of position ids. -/
structure TradingEngine where
  state : BotState
  candles : List Candle := []
  htfCandles : List Candle := []
  posIdCounter : ℕ := 0

/-- What `Date.now` gives to the risk check, to a close and to an entry of one tick. -/
structure Times where
  check : ℤ
  close : ℤ
  entry : ℤ

/-! ## The evaluation of a tick -/

/-- `getSupertrendDirection`. -/
def getSupertrendDirection (candles : List Candle) (config : Port.Supertrend2Config) :
    Option TrendDirection :=
  if candles.length < config.minBars then none
  else (Port.computeSupertrend2 (highs candles) (lows candles) (closes candles) config.factor
    config.effectiveATRLen).direction.getLast?

/-- `checkFlipExit`, with its default configuration. -/
def checkFlipExit (candles : List Candle) (side : PositionSide) : Bool :=
  match getSupertrendDirection candles {}, side with
  | some .down, .long => true
  | some .up, .short => true
  | _, _ => false

namespace BotState

/-- `applyClose`. -/
def applyClose (state : BotState) (update : PositionUpdate) (now : ℤ) : BotState :=
  { state with
    riskState := recordTradeClose state.riskState update.pnl now
    balance := state.balance + update.pnl
    realizedPnl := state.realizedPnl + update.pnl
    positionHistory := state.positionHistory ++ [update.position] }

/-- `recalcTotals`. -/
def recalcTotals (state : BotState) : BotState :=
  let held := state.openPositions.filter (fun p => p.status = .open_)
  let unrealized := (held.map Position.unrealizedPnl).sum
  let utilized := (held.map Position.marginUsed).sum
  { state with
    unrealizedPnl := unrealized
    marginBalance := state.balance + unrealized
    availableBalance := max 0 (state.balance + unrealized - utilized)
    utilizedMargin := utilized
    openPositions := held }

end BotState

section Evaluate

variable (calendar : Calendar) (config : BotConfig) (candles : List Candle) (last : Candle)
variable (now : ℤ)

/-- One position: the flip exit, or the exits of `updatePosition`. -/
def updateOne (regime : MarketRegime) (ema9 : ℚ) (pos : Position) :
    Position × Option PositionUpdate :=
  if pos.status ≠ .open_ then (pos, none)
  else if checkFlipExit candles pos.side then
    let update := closePosition pos last.close .flipExit
    (update.position, some update)
  else
    updatePosition pos last.close last.closeTime config.risk.catastrophicSLPct
      config.risk.windfallROMPct regime ema9

/-- The loop over the open positions. -/
def updateAll (ema9 : ℚ) : BotState → List Position → BotState × List Position
  | state, [] => (state, [])
  | state, pos :: rest =>
      let (pos, update) := updateOne config candles last state.regime ema9 pos
      let state := match update with
        | some update => state.applyClose update now
        | none => state
      let (state, rest) := updateAll ema9 state rest
      (state, pos :: rest)

/-- Step 4 of a tick, and the totals after it. -/
def manage (ema9 : ℚ) (state : BotState) : BotState :=
  let (state, positions) := updateAll config candles last now ema9 state state.openPositions
  ({ state with openPositions := positions }).recalcTotals

/-- Steps 2 and 3 of a tick: the regime, and the risk check. -/
def check (state : BotState) : BotState × Option Refusal :=
  let risk := updatePeakBalance state.riskState state.marginBalance
  let (risk, refusal) := canTrade calendar config.risk risk now state.marginBalance
  ({ state with regime := analyzeRegime candles, riskState := risk }, refusal)

/-- `executeEntry`: the state after it, and whether a position was opened. -/
def executeEntry (setup : SupertrendSetup) (id : ℕ) (state : BotState) : BotState × Bool :=
  let fee := setup.entryPrice * (1 / 100) * (5 / 10000)
  let qty := calculatePositionSize state.balance config.riskPerTrade setup.entryPrice setup.slPrice
    config.leverage 1 (6 / 10)
  if qty ≤ 0 then (state, false)
  else
    let pos := openPosition id setup.side setup.entryPrice qty config.leverage setup.slPrice
      setup.tpPrice setup.timeStopHours last.closeTime now fee
    ({ state with
        openPositions := state.openPositions ++ [pos]
        riskState := recordTradeOpen state.riskState
        totalTrades := state.totalTrades + 1 }, true)

/-- Step 5 of a tick: an entry, if nothing is open and trading is allowed. -/
def enter (htfCandles : List Candle) (refusal : Option Refusal) (id : ℕ) (state : BotState) :
    BotState × Bool :=
  if state.openPositions.any (fun p => p.status = .open_) ∨ refusal ≠ none then (state, false)
  else
    match config.supertrend.evaluateSupertrend2 candles (some htfCandles) with
    | some setup => executeEntry config last now setup id state
    | none => (state, false)

end Evaluate

/-- The end of a tick. -/
def BotState.haltIfRisky (state : BotState) : BotState :=
  if state.riskState.halted then { state with status := .halted } else state

/-- A tick after its fetches, at the last candle: the engine after it, and whether it opened
a position. -/
def TradingEngine.evaluate (calendar : Calendar) (config : BotConfig) (times : Times)
    (last : Candle) (e : TradingEngine) : TradingEngine × Bool :=
  let ema9 := (computeEMA (closes e.candles) 9).getLastD 0
  let (checked, refusal) := check calendar config e.candles times.check e.state
  let managed := manage config e.candles last times.close ema9 checked
  let (entered, opened) := enter config e.candles last times.entry e.htfCandles refusal
    e.posIdCounter managed
  ({ e with
      state := entered.haltIfRisky
      posIdCounter := if opened then e.posIdCounter + 1 else e.posIdCounter }, opened)

/-! ## Interleavings -/

/-- Where a tick is suspended. -/
inductive Phase where
  | first
  | second
  deriving DecidableEq, Repr

/-- A tick under way, and the life of the engine's state in which it began. -/
structure Pending where
  life : ℕ
  phase : Phase
  deriving DecidableEq

/-- A risk check that was made. -/
structure RiskCheck where
  life : ℕ
  time : ℤ
  balance : ℚ
  deriving DecidableEq

/-- The engine with its ticks under way and the clock.  The rest records what happened: the
resets so far, the life in which each list of candles was asked for, the mark of the last
evaluation, the risk checks and the entries, latest first. -/
structure World where
  engine : TradingEngine
  pending : List Pending := []
  clock : ℤ
  life : ℕ := 0
  candlesOf : ℕ := 0
  htfOf : ℕ := 0
  lastMark : Option ℚ := none
  checks : List RiskCheck := []
  entries : List ℤ := []

/-- The response to the second fetch. -/
inductive HtfResponse where
  | threw
  | notOk
  | ok (htfCandles : List Candle)

/-- What may happen next.  The second response says how long the rest of its tick takes, to
its closes and to its entry. -/
inductive Action where
  | start
  | pause
  | resume
  | stop
  | reset
  | tick
  | first (i : ℕ) (candles : Option (List Candle))
  | second (i : ℕ) (response : HtfResponse) (toClose toEntry : ℕ)

/-- The actions that control the engine, and keep its state. -/
def Action.controls : Action → Bool
  | .start | .pause | .resume | .stop | .tick => true
  | .reset | .first _ _ | .second _ _ _ _ => false

/-- An action, and the time since the one before. -/
structure Event where
  elapsed : ℕ
  action : Action

namespace World

/-- The engine as it is constructed. -/
def create (config : BotConfig) (now : ℤ) : World :=
  { engine := { state := createInitialState config now }, clock := now }

def withStatus (w : World) (status : BotStatus) : World :=
  { w with engine := { w.engine with state := { w.engine.state with status := status } } }

/-- `tick`, up to its first fetch. -/
def beginTick (w : World) : World :=
  if w.engine.state.status = .running then { w with pending := w.pending ++ [⟨w.life, .first⟩] }
  else w

/-- `reset`. -/
def reset (config : BotConfig) (w : World) : World :=
  { w with
    engine :=
      { state := createInitialState config w.clock
        posIdCounter := w.engine.posIdCounter }
    life := w.life + 1
    candlesOf := w.life + 1
    htfOf := w.life + 1
    lastMark := none }

/-- What the clock shows to the check, to the closes and to the entry of a tick. -/
def times (w : World) (toClose toEntry : ℕ) : Times :=
  ⟨w.clock, w.clock + toClose, w.clock + toClose + toEntry⟩

/-- The world after an evaluation at the last candle. -/
def evaluateAt (calendar : Calendar) (config : BotConfig) (times : Times) (last : Candle)
    (w : World) : World :=
  let (engine, opened) := w.engine.evaluate calendar config times last
  { w with
    engine := engine
    clock := times.entry
    lastMark := some last.close
    checks := ⟨w.life, times.check, w.engine.state.marginBalance⟩ :: w.checks
    entries := if opened then times.entry :: w.entries else w.entries }

/-- `tick`, after its fetches, if there are candles. -/
def evaluate (calendar : Calendar) (config : BotConfig) (toClose toEntry : ℕ) (w : World) : World :=
  match w.engine.candles.getLast? with
  | none => w
  | some last => w.evaluateAt calendar config (w.times toClose toEntry) last

/-- The first response to a tick. -/
def receiveFirst (i : ℕ) (candles : Option (List Candle)) (w : World) : World :=
  match w.pending[i]? with
  | some ⟨life, .first⟩ =>
      match candles with
      | none => { w with pending := w.pending.eraseIdx i }
      | some candles =>
          { w with
            engine := { w.engine with candles := candles }
            candlesOf := life
            pending := w.pending.set i ⟨life, .second⟩ }
  | _ => w

/-- The second response, to a tick of some life; nothing where it ends the tick. -/
def withHtf (life : ℕ) (response : HtfResponse) (w : World) : Option World :=
  match response with
  | .threw => none
  | .notOk => some w
  | .ok htfCandles =>
      some { w with engine := { w.engine with htfCandles := htfCandles }, htfOf := life }

/-- The second response to a tick, and the evaluation. -/
def receiveSecond (calendar : Calendar) (config : BotConfig) (i : ℕ) (response : HtfResponse)
    (toClose toEntry : ℕ) (w : World) : World :=
  match w.pending[i]? with
  | some ⟨life, .second⟩ =>
      let w := { w with pending := w.pending.eraseIdx i }
      match w.withHtf life response with
      | some w => w.evaluate calendar config toClose toEntry
      | none => w
  | _ => w

/-- One event. -/
def step (calendar : Calendar) (config : BotConfig) (w : World) (event : Event) : World :=
  let w := { w with clock := w.clock + event.elapsed }
  match event.action with
  | .start =>
      if w.engine.state.status = .running then w else (w.withStatus .running).beginTick
  | .pause => if w.engine.state.status = .running then w.withStatus .paused else w
  | .resume =>
      if w.engine.state.status = .paused then (w.withStatus .running).beginTick else w
  | .stop => w.withStatus .idle
  | .reset => w.reset config
  | .tick => w.beginTick
  | .first i candles => w.receiveFirst i candles
  | .second i response toClose toEntry =>
      w.receiveSecond calendar config i response toClose toEntry

/-! ## What an event can do -/

/-- The last candle, if the event is the second response to a tick that evaluates. -/
def evaluates (w : World) (event : Event) : Option Candle :=
  match event.action with
  | .second i response _ _ =>
      match w.pending[i]?, response with
      | some ⟨_, .second⟩, .notOk => w.engine.candles.getLast?
      | some ⟨_, .second⟩, .ok _ => w.engine.candles.getLast?
      | _, _ => none
  | _ => none

/-- The engine just before an evaluation: its state and its candles are as they were. -/
structure Prepared (w : World) (event : Event) (w' : World) : Prop where
  state : w'.engine.state = w.engine.state
  candles : w'.engine.candles = w.engine.candles
  posIdCounter : w'.engine.posIdCounter = w.engine.posIdCounter
  clock : w'.clock = w.clock + event.elapsed
  life : w'.life = w.life
  candlesOf : w'.candlesOf = w.candlesOf
  checks : w'.checks = w.checks
  entries : w'.entries = w.entries

/-- Nothing but the status and the fetched candles changed. -/
structure Undisturbed (w : World) (event : Event) (w' : World) : Prop where
  state : ∃ status, w'.engine.state = { w.engine.state with status := status }
  posIdCounter : w'.engine.posIdCounter = w.engine.posIdCounter
  clock : w'.clock = w.clock + event.elapsed
  life : w'.life = w.life
  lastMark : w'.lastMark = w.lastMark
  checks : w'.checks = w.checks
  entries : w'.entries = w.entries

section Cases

variable {calendar : Calendar} {config : BotConfig} {w : World} {event : Event}

theorem beginTick_eq (w : World) : ∃ pending, w.beginTick = { w with pending := pending } := by
  unfold beginTick
  split
  · exact ⟨_, rfl⟩
  · exact ⟨w.pending, rfl⟩

theorem evaluates_of_controls (w : World) (h : event.action.controls = true) :
    w.evaluates event = none := by
  unfold evaluates
  cases haction : event.action with
  | second =>
      rw [haction] at h
      cases h
  | _ => rfl

/-- Controlling the engine changes its status and the ticks under way. -/
theorem step_of_controls (calendar : Calendar) (config : BotConfig) (w : World)
    (h : event.action.controls = true) :
    ∃ status pending, w.step calendar config event =
      { w.withStatus status with pending := pending, clock := w.clock + event.elapsed } := by
  have hstays : ∃ status pending, ({ w with clock := w.clock + event.elapsed } : World) =
      { w.withStatus status with pending := pending, clock := w.clock + event.elapsed } :=
    ⟨w.engine.state.status, w.pending, rfl⟩
  have hstarts : ∃ status pending,
      (withStatus { w with clock := w.clock + event.elapsed } .running).beginTick =
        { w.withStatus status with pending := pending, clock := w.clock + event.elapsed } := by
    obtain ⟨pending, htick⟩ :=
      beginTick_eq (withStatus { w with clock := w.clock + event.elapsed } .running)
    exact ⟨.running, pending, htick⟩
  unfold step
  cases haction : event.action with
  | start =>
      simp only
      split
      · exact hstays
      · exact hstarts
  | pause =>
      simp only
      split
      · exact ⟨.paused, w.pending, rfl⟩
      · exact hstays
  | resume =>
      simp only
      split
      · exact hstarts
      · exact hstays
  | stop => exact ⟨.idle, w.pending, rfl⟩
  | tick =>
      obtain ⟨pending, htick⟩ := beginTick_eq { w with clock := w.clock + event.elapsed }
      exact ⟨w.engine.state.status, pending, htick⟩
  | reset | first | second =>
      rw [haction] at h
      cases h

/-- An event evaluates, or resets, or leaves all but the status and the candles. -/
theorem step_cases (calendar : Calendar) (config : BotConfig) (w : World) (event : Event) :
    (∃ w' last i response toClose toEntry, event.action = .second i response toClose toEntry ∧
      w.evaluates event = some last ∧ Prepared w event w' ∧
      w'.engine.candles.getLast? = some last ∧ w.step calendar config event =
        w'.evaluateAt calendar config (w'.times toClose toEntry) last) ∨
    (w.evaluates event = none ∧ event.action = .reset ∧ w.step calendar config event =
      ({ w with clock := w.clock + event.elapsed }).reset config) ∨
    (w.evaluates event = none ∧ event.action ≠ .reset ∧
      Undisturbed w event (w.step calendar config event)) := by
  have hsame : Undisturbed w event { w with clock := w.clock + event.elapsed } :=
    ⟨⟨w.engine.state.status, rfl⟩, rfl, rfl, rfl, rfl, rfl, rfl⟩
  by_cases hcontrols : event.action.controls = true
  · obtain ⟨status, pending, hstep⟩ := step_of_controls calendar config w hcontrols
    refine .inr (.inr ⟨evaluates_of_controls w hcontrols, ?_, ?_⟩)
    · intro hreset
      rw [hreset] at hcontrols
      cases hcontrols
    · rw [hstep]
      exact ⟨⟨status, rfl⟩, rfl, rfl, rfl, rfl, rfl, rfl⟩
  unfold step evaluates
  cases haction : event.action with
  | start | pause | resume | stop | tick =>
      rw [haction] at hcontrols
      exact absurd rfl hcontrols
  | reset => exact .inr (.inl ⟨rfl, rfl, rfl⟩)
  | first i candles =>
      refine .inr (.inr ⟨rfl, by simp, ?_⟩)
      unfold receiveFirst
      simp only
      split
      · cases candles with
        | none => exact ⟨⟨_, rfl⟩, rfl, rfl, rfl, rfl, rfl, rfl⟩
        | some candles => exact ⟨⟨_, rfl⟩, rfl, rfl, rfl, rfl, rfl, rfl⟩
      · exact hsame
  | second i response toClose toEntry =>
      -- with candles the tick evaluates, and without it only ends
      have hreached : ∀ w', Prepared w event w' → Undisturbed w event w' →
          (∃ last, w.engine.candles.getLast? = some last ∧
            w'.engine.candles.getLast? = some last ∧
            w'.evaluate calendar config toClose toEntry =
              w'.evaluateAt calendar config (w'.times toClose toEntry) last) ∨
          (w.engine.candles.getLast? = none ∧
            Undisturbed w event (w'.evaluate calendar config toClose toEntry)) := by
        intro w' hprepared hquiet
        cases hlast : w.engine.candles.getLast? with
        | none =>
            refine .inr ⟨rfl, ?_⟩
            unfold evaluate
            rw [hprepared.candles, hlast]
            exact hquiet
        | some last =>
            have hlast' : w'.engine.candles.getLast? = some last := by
              rw [hprepared.candles, hlast]
            refine .inl ⟨last, rfl, hlast', ?_⟩
            unfold evaluate
            rw [hlast']
      have hends : Undisturbed w event
          { w with clock := w.clock + event.elapsed, pending := w.pending.eraseIdx i } :=
        ⟨⟨_, rfl⟩, rfl, rfl, rfl, rfl, rfl, rfl⟩
      unfold receiveSecond
      simp only
      rcases w.pending[i]? with _ | ⟨life, _ | _⟩
      · exact .inr (.inr ⟨rfl, by simp, hsame⟩)
      · exact .inr (.inr ⟨rfl, by simp, hsame⟩)
      · cases response with
        | threw => exact .inr (.inr ⟨rfl, by simp, hends⟩)
        | notOk =>
            have hprepared : Prepared w event
                { w with clock := w.clock + event.elapsed, pending := w.pending.eraseIdx i } :=
              ⟨rfl, rfl, rfl, rfl, rfl, rfl, rfl, rfl⟩
            rcases hreached _ hprepared hends with ⟨last, hlast, h⟩ | ⟨hnone, hquiet⟩
            · exact .inl ⟨_, last, i, _, toClose, toEntry, rfl, hlast, hprepared, h⟩
            · exact .inr (.inr ⟨hnone, by simp, hquiet⟩)
        | ok htfCandles =>
            have hprepared : Prepared w event
                { w with
                  clock := w.clock + event.elapsed
                  pending := w.pending.eraseIdx i
                  engine := { w.engine with htfCandles := htfCandles }
                  htfOf := life } :=
              ⟨rfl, rfl, rfl, rfl, rfl, rfl, rfl, rfl⟩
            rcases hreached _ hprepared ⟨⟨_, rfl⟩, rfl, rfl, rfl, rfl, rfl, rfl⟩ with
              ⟨last, hlast, h⟩ | ⟨hnone, hquiet⟩
            · exact .inl ⟨_, last, i, _, toClose, toEntry, rfl, hlast, hprepared, h⟩
            · exact .inr (.inr ⟨hnone, by simp, hquiet⟩)

end Cases

end World

end CryptoTrader.Browser
