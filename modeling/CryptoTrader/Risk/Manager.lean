import CryptoTrader.Engine.Margin
import CryptoTrader.Lib.Hoare
import CryptoTrader.Lib.PyValue
import CryptoTrader.Lib.Window

/-!
# The risk manager

`RiskManager` of `risk.py` with the file it saves its state to.  An operation
reads the UTC day first and, where it needs it, the time after that; both are
arguments here.  Days are counted from the epoch, times in seconds.
-/

namespace CryptoTrader.Risk

open CryptoTrader.Lib

abbrev Day := ℤ

abbrev Time := ℚ

/-! ## State -/

/-- What `_save_state` writes. -/
structure RiskState where
  dailyCount : ℕ := 0
  dailyPnl : Decimal := 0
  lastTradeDate : Option Day := none
  consecutiveLosses : ℕ := 0
  lastLossTime : Option Time := none
  peakBalance : Option Decimal := none
  killSwitch : Bool := false
  killSwitchReason : Option String := none
  deriving DecidableEq

/-- The limits a `RiskManager` is constructed with, and whether
`DISABLE_RISK_HALT` was set then. -/
structure RiskLimits where
  maxDaily : ℤ := 2
  maxConsecutive : ℤ := 3
  maxDrawdownPct : PyFloat := .fin (1 / 5)
  maxDailyDrawdownPct : PyFloat := .fin (3 / 100)
  cooldownAfterLossSeconds : ℤ := 1440 * 60
  maxOrdersPerMinute : ℤ := 6
  maxMarginRatio : PyFloat := .fin (4 / 5)
  maxPortfolioLeverage : Decimal := 3
  disabled : Bool := false
  deriving DecidableEq

/-- `RiskManager`, less the margin engine. -/
structure RiskManager extends RiskState where
  limits : RiskLimits := {}
  recentOpenTimes : List Time := []
  deriving DecidableEq

/-- A `RiskManager` and its state file, if there is one. -/
structure RiskSession where
  manager : RiskManager
  file : Option RiskState := none
  deriving DecidableEq

/-- `_save_state`. -/
def RiskSession.saveState (s : RiskSession) : RiskSession :=
  { s with file := some s.manager.toRiskState }

/-- `__init__`, which ends with `_load_state`. -/
def RiskSession.construct (limits : RiskLimits) (file : Option RiskState) : RiskSession :=
  { manager := { toRiskState := file.getD {}, limits := limits }, file := file }

/-! ## The gate -/

/-- `_reset_daily_stats_if_new_day`. -/
def RiskManager.resetDailyStatsIfNewDay (m : RiskManager) (today : Day) : RiskManager :=
  if m.lastTradeDate = some today then m
  else { m with dailyCount := 0, dailyPnl := 0, lastTradeDate := some today }

/-- The arguments of `can_trade`. -/
structure TradeQuery where
  currentBalance : Option Decimal := none
  initialDailyBalance : Option Decimal := none
  totalNotional : Decimal := 0
  deriving DecidableEq

/-- `_has_reached_daily_limit`. -/
def RiskManager.hasReachedDailyLimit (m : RiskManager) : Bool :=
  m.limits.maxDaily ≤ m.dailyCount

/-- The opens that count towards the velocity limit. -/
def recentOpens (now : Time) (times : List Time) : List Time :=
  recent 60 now times

/-- The pruning in `_has_reached_velocity_limit`. -/
def RiskManager.pruneOpenTimes (m : RiskManager) (now : Time) : RiskManager :=
  if m.limits.maxOrdersPerMinute ≤ 0 then m
  else { m with recentOpenTimes := recentOpens now m.recentOpenTimes }

/-- `_has_reached_velocity_limit`, of a manager that has been pruned. -/
def RiskManager.hasReachedVelocityLimit (m : RiskManager) : Bool :=
  0 < m.limits.maxOrdersPerMinute && m.limits.maxOrdersPerMinute ≤ m.recentOpenTimes.length

/-- `_is_daily_drawdown_limit_hit`. -/
def RiskManager.isDailyDrawdownLimitHit (m : RiskManager) (initialDailyBalance : Option Decimal) :
    Bool :=
  match initialDailyBalance with
  | none => false
  | some initial =>
      initial ≠ 0 && PyFloat.le (.fin m.dailyPnl) (.scale (-initial) m.limits.maxDailyDrawdownPct)

/-- `_is_consecutive_loss_halt_active`. -/
def RiskManager.isConsecutiveLossHaltActive (m : RiskManager) : Bool :=
  m.limits.maxConsecutive ≤ m.consecutiveLosses

/-- `_check_cooldown_status`: the minutes that remain, if any do. -/
def RiskManager.cooldownRemaining (m : RiskManager) (now : Time) : Option ℤ :=
  match m.lastLossTime.filter (· ≠ 0) with
  | none => none
  | some lost =>
      let elapsed := now - lost
      if elapsed < m.limits.cooldownAfterLossSeconds then
        some (⌊(m.limits.cooldownAfterLossSeconds - elapsed) / 60⌋ + 1)
      else none

/-- The drawdown from the peak, where `_is_max_drawdown_reached` computes one. -/
def RiskManager.drawdown (m : RiskManager) (currentBalance : Option Decimal) : Option Decimal := do
  let current ← currentBalance
  let peak ← m.peakBalance.filter (0 < ·)
  some ((peak - current) / peak)

/-- `calculate_effective_leverage`. -/
def calculateEffectiveLeverage (totalNotional accountEquity : Decimal) : PyFloat :=
  if accountEquity ≤ 0 then .posInf else .fin (totalNotional / accountEquity)

/-- A rule of the gate: nothing where it is satisfied, otherwise the reason. -/
abbrev Rule := RiskManager → Option String

/-- `_KillSwitchSpec`. -/
def killSwitchSpec : Rule := fun m =>
  if m.killSwitch then
    let reason := (m.killSwitchReason.filter (· ≠ "")).getD "unknown"
    some s!"Kill switch active: {reason}"
  else none

/-- `_DailyLimitSpec`. -/
def dailyLimitSpec : Rule := fun m =>
  if m.hasReachedDailyLimit then
    let limit := m.limits.maxDaily
    some s!"Daily trade limit reached ({limit})"
  else none

/-- `_VelocitySpec`. -/
def velocitySpec : Rule := fun m =>
  if m.hasReachedVelocityLimit then
    let count := m.recentOpenTimes.length
    let limit := m.limits.maxOrdersPerMinute
    some s!"Velocity limit reached ({count}/{limit} orders/min)"
  else none

/-- `_DailyDrawdownSpec`. -/
def dailyDrawdownSpec (q : TradeQuery) : Rule := fun m =>
  if m.isDailyDrawdownLimitHit q.initialDailyBalance then
    let pnl := pyFixed 2 m.dailyPnl
    let limit := (PyFloat.scale 100 m.limits.maxDailyDrawdownPct).fixed 1
    some s!"Daily drawdown limit hit: {pnl} ({limit}%)"
  else none

/-- `_ConsecutiveLossSpec`. -/
def consecutiveLossSpec : Rule := fun m =>
  if m.isConsecutiveLossHaltActive then
    let limit := m.limits.maxConsecutive
    some s!"Consecutive loss halt ({limit}) — manual reset required"
  else none

/-- `_CooldownSpec`. -/
def cooldownSpec (now : Time) : Rule := fun m =>
  (m.cooldownRemaining now).map (fun remaining =>
    s!"Cooldown after loss active ({remaining}m remaining)")

/-- `_MaxDrawdownSpec`. -/
def maxDrawdownSpec (q : TradeQuery) : Rule := fun m =>
  match m.drawdown q.currentBalance with
  | none => none
  | some drawdown =>
      if m.limits.maxDrawdownPct.le (.fin drawdown) then
        let reached := (PyFloat.fin drawdown).percent 1
        let limit := m.limits.maxDrawdownPct.percent 1
        some s!"Max drawdown reached ({reached} >= {limit})"
      else none

/-- `_PortfolioLeverageSpec`. -/
def portfolioLeverageSpec (q : TradeQuery) : Rule := fun m =>
  match q.currentBalance.filter (0 < ·) with
  | none => none
  | some balance =>
      let leverage := calculateEffectiveLeverage q.totalNotional balance
      if PyFloat.lt (.fin m.limits.maxPortfolioLeverage) leverage then
        let reached := leverage.fixed 2
        let limit := pyFixed 2 m.limits.maxPortfolioLeverage
        some s!"Portfolio leverage too high: {reached}x > {limit}x"
      else none

/-- The rules after the velocity limit, in order. -/
def laterSpecs (now : Time) (q : TradeQuery) : List Rule :=
  [dailyDrawdownSpec q, consecutiveLossSpec, cooldownSpec now, maxDrawdownSpec q,
    portfolioLeverageSpec q]

/-- `_TRADE_GATE`: the first rule that is not satisfied, with the manager as the
rules left it; only the velocity limit changes it. -/
def tradeGate (now : Time) (q : TradeQuery) (m : RiskManager) : Option String × RiskManager :=
  match killSwitchSpec m, dailyLimitSpec m with
  | some reason, _ => (some reason, m)
  | none, some reason => (some reason, m)
  | none, none =>
      let m := m.pruneOpenTimes now
      (((velocitySpec :: laterSpecs now q).findSome? (fun rule => rule m)), m)

/-- `can_trade`. -/
def RiskManager.canTrade (m : RiskManager) (today : Day) (now : Time) (q : TradeQuery) :
    (Bool × String) × RiskManager :=
  if m.limits.disabled then ((true, "OK"), m)
  else
    match tradeGate now q (m.resetDailyStatsIfNewDay today) with
    | (none, m) => ((true, "OK"), m)
    | (some reason, m) => ((false, reason), m)

/-! ## The operations -/

/-- The day's opening balance as `record_close` reconstructs it. -/
def RiskManager.openingBalance (m : RiskManager) (currentBalance : Decimal) : Decimal :=
  currentBalance - m.dailyPnl

/-- A key of an overrides dict: nothing where it is absent, otherwise what
`int` or `float` makes of its value. -/
abbrev Override (α : Type) := Option (Except PyErr α)

/-- The whitelisted keys of an overrides dict. -/
structure RiskOverrides where
  maxDailyTrades : Override ℤ := none
  maxConsecutiveLosses : Override ℤ := none
  maxOrdersPerMinute : Override ℤ := none
  maxMarginRatio : Override PyFloat := none
  maxDrawdownPct : Override PyFloat := none
  maxDailyDrawdownPct : Override PyFloat := none
  cooldownAfterLossMinutes : Override ℤ := none

/-- Write one limit, if its key is there. -/
def setLimit {α : Type} (key : Override α) (write : RiskLimits → α → RiskLimits) :
    EStateM PyErr RiskLimits Unit :=
  match key with
  | none => pure ()
  | some (.error e) => throw e
  | some (.ok value) => modify (fun limits => write limits value)

/-- `apply_overrides`. -/
def RiskOverrides.apply (ov : RiskOverrides) : EStateM PyErr RiskLimits Unit := do
  setLimit ov.maxDailyTrades (fun l v => { l with maxDaily := v })
  setLimit ov.maxConsecutiveLosses (fun l v => { l with maxConsecutive := v })
  setLimit ov.maxOrdersPerMinute (fun l v => { l with maxOrdersPerMinute := v })
  setLimit ov.maxMarginRatio (fun l v => { l with maxMarginRatio := v })
  setLimit ov.maxDrawdownPct (fun l v => { l with maxDrawdownPct := v })
  setLimit ov.maxDailyDrawdownPct (fun l v => { l with maxDailyDrawdownPct := v })
  setLimit ov.cooldownAfterLossMinutes (fun l v => { l with cooldownAfterLossSeconds := v * 60 })

namespace RiskSession

variable (s : RiskSession)

/-- Change the manager. -/
def modify (f : RiskManager → RiskManager) : RiskSession := { s with manager := f s.manager }

/-- `trigger_kill_switch`. -/
def triggerKillSwitch (reason : String) : RiskSession :=
  (s.modify (fun m => { m with killSwitch := true, killSwitchReason := some reason })).saveState

/-- `clear_kill_switch`. -/
def clearKillSwitch : RiskSession :=
  (s.modify (fun m => { m with killSwitch := false, killSwitchReason := none })).saveState

/-- `can_trade`. -/
def canTrade (today : Day) (now : Time) (q : TradeQuery) : (Bool × String) × RiskSession :=
  let (answer, m) := s.manager.canTrade today now q
  (answer, { s with manager := m })

/-- `record_open`. -/
def recordOpen (today : Day) (now : Time) : RiskSession :=
  (s.modify (fun m =>
    let m := m.resetDailyStatsIfNewDay today
    { m with
      dailyCount := m.dailyCount + 1
      recentOpenTimes := m.recentOpenTimes ++ [now] })).saveState

/-- `record_close` up to the daily-loss halt. -/
def bookClose (today : Day) (now : Time) (netPnl : Decimal) : RiskSession :=
  (s.modify (fun m =>
    let m := m.resetDailyStatsIfNewDay today
    let m := { m with dailyPnl := m.dailyPnl + netPnl }
    if 0 < netPnl then { m with consecutiveLosses := 0 }
    else
      { m with
        consecutiveLosses := m.consecutiveLosses + 1
        lastLossTime := some now })).saveState

/-- `record_close`. -/
def recordClose (today : Day) (now : Time) (netPnl : Decimal) (currentBalance : Option Decimal) :
    RiskSession :=
  let s := s.bookClose today now netPnl
  match currentBalance with
  | none => s
  | some balance =>
      let initialDaily := s.manager.openingBalance balance
      if s.manager.isDailyDrawdownLimitHit (some initialDaily) then
        let pnl := pyFixed 2 s.manager.dailyPnl
        let limit := (PyFloat.scale 100 s.manager.limits.maxDailyDrawdownPct).fixed 1
        let initial := pyFixed 2 initialDaily
        s.triggerKillSwitch s!"Daily loss limit hit: {pnl} ({limit}% of {initial})"
      else s

/-- `update_peak_balance`. -/
def updatePeakBalance (currentBalance : Decimal) : RiskSession :=
  if currentBalance ≤ 0 then s
  else if s.manager.peakBalance.any (currentBalance ≤ ·) then s
  else (s.modify (fun m => { m with peakBalance := some currentBalance })).saveState

/-- `reset_consecutive_losses`. -/
def resetConsecutiveLosses : RiskSession :=
  (s.modify (fun m => { m with consecutiveLosses := 0 })).saveState

/-- `apply_overrides`; what was written before an exception stays. -/
def applyOverrides (ov : RiskOverrides) : RiskSession :=
  s.modify (fun m => { m with limits := final ov.apply m.limits })

end RiskSession

end CryptoTrader.Risk
