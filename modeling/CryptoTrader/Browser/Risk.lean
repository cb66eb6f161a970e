import Mathlib.Algebra.Order.Ring.Rat
import Mathlib.Algebra.Order.Group.Unbundled.Abs
import Mathlib.Tactic.Linarith
import Mathlib.Data.Int.ConditionallyCompleteOrder

/-!
# Risk of the browser engine

`engine/risk.ts` of the user interface.  The daily counters are reset when the day of the
month of `lastMinuteReset` is not today's, and `lastMinuteReset` moves only when it is more
than a minute old.
-/

namespace CryptoTrader.Browser

/-- The local calendar: the day a time lies on, and the day of the month of a day. -/
structure Calendar where
  day : ℤ → ℤ
  dayOfMonth : ℤ → ℤ
  day_mono : Monotone day

/-- `new Date(time).getDate()`. -/
def Calendar.getDate (calendar : Calendar) (time : ℤ) : ℤ := calendar.dayOfMonth (calendar.day time)

/-- The calendar of a clock at UTC: the Gregorian day of the month of a number of days. -/
def Calendar.utc : Calendar where
  day := fun time => time / 86400000
  dayOfMonth := fun day =>
    let z := day + 719468
    let dayOfEra := z % 146097
    let yearOfEra :=
      (dayOfEra - dayOfEra / 1460 + dayOfEra / 36524 - dayOfEra / 146096) / 365
    let dayOfYear := dayOfEra - (365 * yearOfEra + yearOfEra / 4 - yearOfEra / 100)
    let month := (5 * dayOfYear + 2) / 153
    dayOfYear - (153 * month + 2) / 5 + 1
  day_mono := fun _ _ h => Int.ediv_le_ediv (by norm_num) h

/-- `RiskConfig`, as far as the engine reads it. -/
structure RiskConfig where
  maxDailyTrades : ℕ := 10
  maxConsecutiveLosses : ℕ := 4
  maxDrawdownPct : ℚ := 15 / 100
  maxDailyDrawdownPct : ℚ := 8 / 100
  cooldownAfterLossMinutes : ℚ := 30
  maxOrdersPerMinute : ℕ := 3
  catastrophicSLPct : ℚ := -(5 / 10)
  windfallROMPct : ℚ := 4 / 10

/-- Why trading is not allowed, with the numbers its text quotes. -/
inductive Refusal where
  | halted
  | dailyTrades (dailyTrades max : ℕ)
  | consecutiveLosses (consecutiveLosses max : ℕ)
  | drawdown (drawdown : ℚ)
  | dailyDrawdown (dailyDD : ℚ)
  | cooldown (minutesRemaining : ℚ)
  | orderRate (ordersThisMinute : ℕ)
  deriving DecidableEq

structure RiskState where
  dailyTrades : ℕ := 0
  consecutiveLosses : ℕ := 0
  peakBalance : ℚ := 0
  dailyStartBalance : ℚ := 0
  lastLossTime : Option ℤ := none
  ordersThisMinute : ℕ := 0
  lastMinuteReset : ℤ
  halted : Bool := false
  haltReason : Option Refusal := none
  deriving DecidableEq

/-- `createRiskState`. -/
def createRiskState (now : ℤ) : RiskState := { lastMinuteReset := now }

section CanTrade

variable (calendar : Calendar) (config : RiskConfig) (state : RiskState) (now : ℤ) (balance : ℚ)

/-- The test for a new day. -/
def newDay : Bool :=
  state.lastMinuteReset ≠ 0 && calendar.getDate state.lastMinuteReset ≠ calendar.getDate now

/-- The test for a new minute. -/
def newMinute : Bool := 60000 < now - state.lastMinuteReset

/-- The resets of `canTrade`, of the day and of the minute. -/
def rollOver : RiskState :=
  { state with
    dailyTrades := if newDay calendar state now then 0 else state.dailyTrades
    dailyStartBalance := if newDay calendar state now then balance else state.dailyStartBalance
    ordersThisMinute := if newMinute state now then 0 else state.ordersThisMinute
    lastMinuteReset := if newMinute state now then now else state.lastMinuteReset }

/-- The limits of `canTrade`, in their order; the two drawdowns halt. -/
def refused : Option Refusal :=
  let drawdown := (state.peakBalance - balance) / state.peakBalance
  let dailyDD := (state.dailyStartBalance - balance) / state.dailyStartBalance
  let minsSinceLoss : ℤ → ℚ := fun lastLossTime => (now - lastLossTime) / 60000
  if config.maxDailyTrades ≤ state.dailyTrades then
    some (.dailyTrades state.dailyTrades config.maxDailyTrades)
  else if config.maxConsecutiveLosses ≤ state.consecutiveLosses then
    some (.consecutiveLosses state.consecutiveLosses config.maxConsecutiveLosses)
  else if 0 < state.peakBalance ∧ config.maxDrawdownPct ≤ drawdown then some (.drawdown drawdown)
  else if 0 < state.dailyStartBalance ∧ config.maxDailyDrawdownPct ≤ dailyDD then
    some (.dailyDrawdown dailyDD)
  else
    match state.lastLossTime.filter (fun lastLossTime => lastLossTime ≠ 0 ∧
        0 < config.cooldownAfterLossMinutes ∧
        minsSinceLoss lastLossTime < config.cooldownAfterLossMinutes) with
    | some lastLossTime =>
        some (.cooldown (config.cooldownAfterLossMinutes - minsSinceLoss lastLossTime))
    | none =>
        if config.maxOrdersPerMinute ≤ state.ordersThisMinute then
          some (.orderRate state.ordersThisMinute)
        else none

def Refusal.halts : Refusal → Bool
  | .drawdown _ | .dailyDrawdown _ => true
  | _ => false

/-- `canTrade`: the state after it, and why trading is not allowed. -/
def canTrade : RiskState × Option Refusal :=
  if state.halted then (state, some .halted)
  else
    let state := rollOver calendar state now balance
    match refused config state now balance with
    | some reason =>
        if reason.halts then ({ state with halted := true, haltReason := some reason }, some reason)
        else (state, some reason)
    | none => (state, none)

end CanTrade

/-- `updatePeakBalance`. -/
def updatePeakBalance (state : RiskState) (balance : ℚ) : RiskState :=
  { state with
    peakBalance := if state.peakBalance < balance then balance else state.peakBalance
    dailyStartBalance := if state.dailyStartBalance = 0 then balance else state.dailyStartBalance }

/-- `recordTradeOpen`. -/
def recordTradeOpen (state : RiskState) : RiskState :=
  { state with
    dailyTrades := state.dailyTrades + 1
    ordersThisMinute := state.ordersThisMinute + 1 }

/-- `recordTradeClose`. -/
def recordTradeClose (state : RiskState) (pnl : ℚ) (now : ℤ) : RiskState :=
  if pnl < 0 then
    { state with consecutiveLosses := state.consecutiveLosses + 1, lastLossTime := some now }
  else { state with consecutiveLosses := 0 }

/-- `calculatePositionSize`; a price of zero bounds no quantity. -/
def calculatePositionSize (balance riskPerTrade entryPrice slPrice leverage score threshold : ℚ) :
    ℚ :=
  let stopDistance := |entryPrice - slPrice|
  let riskBudget := balance * riskPerTrade
  let sizeMultiplier := min (score / threshold) 1
  let adjustedRisk := riskBudget * sizeMultiplier
  let quantity := if 0 < stopDistance then adjustedRisk / stopDistance else 0
  let maxNotional := balance * leverage
  if entryPrice = 0 then (if 0 < maxNotional then quantity else 0)
  else min quantity (maxNotional / entryPrice)

/-! ## What a check does to the day's numbers -/

section Checks

variable {calendar : Calendar} {config : RiskConfig} {state : RiskState} {now : ℤ} {balance : ℚ}

/-- A halted state stays as it is, and any other is rolled over; the day's numbers are
those of the rolled state. -/
theorem canTrade_day (h : state.halted = false) :
    (canTrade calendar config state now balance).1.dailyTrades =
        (rollOver calendar state now balance).dailyTrades ∧
      (canTrade calendar config state now balance).1.dailyStartBalance =
        (rollOver calendar state now balance).dailyStartBalance ∧
      (canTrade calendar config state now balance).1.lastMinuteReset =
        (rollOver calendar state now balance).lastMinuteReset := by
  unfold canTrade
  rw [if_neg (by simp [h])]
  cases hrefused : refused config (rollOver calendar state now balance) now balance with
  | none => simp [hrefused]
  | some reason => cases hreason : reason.halts <;> simp [hrefused, hreason]

theorem canTrade_of_halted (h : state.halted = true) :
    canTrade calendar config state now balance = (state, some .halted) := if_pos h

theorem canTrade_allowed (h : (canTrade calendar config state now balance).2 = none) :
    (canTrade calendar config state now balance).1.dailyTrades < config.maxDailyTrades := by
  unfold canTrade at h ⊢
  by_cases hhalted : state.halted = true
  · simp [hhalted] at h
  · rw [if_neg hhalted] at h ⊢
    simp only at h ⊢
    cases hrefused : refused config (rollOver calendar state now balance) now balance with
    | some reason => cases hreason : reason.halts <;> simp [hrefused, hreason] at h
    | none =>
        simp only
        unfold refused at hrefused
        by_contra hfull
        rw [if_pos (not_lt.mp hfull)] at hrefused
        cases hrefused

end Checks

end CryptoTrader.Browser
