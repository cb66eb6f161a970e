import CryptoTrader.Wallet.Types

/-!
# The state of the mean-reversion playbook

`strategies/mr_state.py`: what is kept for a symbol between restarts, the file it is
kept in, and the operations that change it.  A write of the file is atomic and is
taken to succeed.
-/

namespace CryptoTrader

/-- `MRSymbolState`; `daily_date` is a UTC day, and none for the empty string. -/
structure MRSymbolState where
  symbol : String := ""
  lastProcessedCandleTs : ℤ := 0
  lastEntrySide : String := ""
  lastEntryPrice : ℚ := 0
  lastEntryQty : ℚ := 0
  stopOrderId : String := ""
  consecutiveLosses : ℕ := 0
  dailyTradeCount : ℕ := 0
  dailyDate : Option ℤ := none
  dailyPnl : ℚ := 0
  deriving DecidableEq

namespace MRSymbolState

/-- `has_open_entry`. -/
def hasOpenEntry (s : MRSymbolState) : Bool := s.lastEntrySide ≠ ""

/-- The daily counters, started over if the day is another. -/
def rolled (s : MRSymbolState) (today : ℤ) : MRSymbolState :=
  if s.dailyDate = some today then s
  else { s with dailyTradeCount := 0, dailyPnl := 0, dailyDate := some today }

/-- `_bump_daily_count`. -/
def bumpDailyCount (s : MRSymbolState) (today : ℤ) : MRSymbolState :=
  let s := s.rolled today
  { s with dailyTradeCount := s.dailyTradeCount + 1 }

/-- The position fields cleared. -/
def flat (s : MRSymbolState) : MRSymbolState :=
  { s with lastEntrySide := "", lastEntryPrice := 0, lastEntryQty := 0, stopOrderId := "" }

end MRSymbolState

/-- `MRStateManager`: the file, which may be missing or corrupt, and `_state`. -/
structure MRStateManager where
  symbol : String
  file : Option MRSymbolState := none
  state? : Option MRSymbolState := none

/-- What `reconcile_on_startup` reports. -/
inductive MRReconciliation where
  | staleCleared
  | rebuilt
  | consistent
  | flat
  deriving DecidableEq

/-- `side.value.lower()`. -/
def PositionSide.lowerValue : PositionSide → String
  | .long => "long"
  | .short => "short"

namespace MRStateManager

variable (m : MRStateManager)

/-- What the file holds; a fresh state if it is missing or corrupt. -/
def stored : MRSymbolState := { m.file.getD {} with symbol := m.symbol }

/-- `load`. -/
def load : MRStateManager := { m with state? := some m.stored }

/-- `state`, which is loaded at its first use. -/
def state : MRSymbolState := m.state?.getD m.stored

/-- `save`. -/
def save : MRStateManager :=
  match m.state? with
  | none => m
  | some s => { m with file := some s }

/-- The state changed and saved. -/
def put (s : MRSymbolState) : MRStateManager := { m with state? := some s }.save

/-- `mark_candle_processed`. -/
def markCandleProcessed (candleTsMs : ℤ) : MRStateManager :=
  m.put { m.state with lastProcessedCandleTs := candleTsMs }

/-- `is_candle_processed`. -/
def isCandleProcessed (candleTsMs : ℤ) : Bool := m.state.lastProcessedCandleTs = candleTsMs

/-- `record_entry`. -/
def recordEntry (today : ℤ) (side : String) (price qty : ℚ) (stopOrderId : String) :
    MRStateManager :=
  m.put ({ m.state with
    lastEntrySide := side.toLower
    lastEntryPrice := price
    lastEntryQty := qty
    stopOrderId := stopOrderId }.bumpDailyCount today)

/-- `record_close`, which does not look at the day. -/
def recordClose (pnl : ℚ) : MRStateManager :=
  m.put { m.state with
    dailyPnl := m.state.dailyPnl + pnl
    consecutiveLosses := if pnl < 0 then m.state.consecutiveLosses + 1 else 0 }.flat

/-- `update_stop_order_id`. -/
def updateStopOrderId (stopOrderId : String) : MRStateManager :=
  m.put { m.state with stopOrderId := stopOrderId }

/-- `clear_entry`. -/
def clearEntry : MRStateManager := m.put m.state.flat

/-- `reset_daily_if_new_day`. -/
def resetDailyIfNewDay (today : ℤ) : MRStateManager :=
  if m.state.dailyDate = some today then { m with state? := some m.state }
  else m.put (m.state.rolled today)

/-- `reconcile_on_startup`, with the wallet's position and the conversion of its
numbers. -/
def reconcileOnStartup (float : Decimal → ℚ) (walletPosition : Option EnhancedPosition) :
    MRReconciliation × MRStateManager :=
  let m := m.load
  match walletPosition.filter (fun p => p.status = .opened) with
  | none => if m.state.hasOpenEntry then (.staleCleared, m.clearEntry) else (.flat, m)
  | some p =>
      if m.state.hasOpenEntry then (.consistent, m)
      else
        (.rebuilt, m.put { m.state with
          lastEntrySide := p.side.lowerValue
          lastEntryPrice := float p.entryPrice
          lastEntryQty := float p.remainingQuantity })

/-- `missing_stop_order`. -/
def missingStopOrder : Bool := m.state.hasOpenEntry && m.state.stopOrderId = ""

/-- A new process. -/
def restart : MRStateManager := { m with state? := none }

/-! ## Reading back -/

@[simp] theorem state_put (s : MRSymbolState) : (m.put s).state = s := rfl

@[simp] theorem state_load : m.load.state = m.stored := rfl

end MRStateManager

end CryptoTrader
