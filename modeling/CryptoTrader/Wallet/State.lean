import CryptoTrader.Wallet.Store
import Mathlib.Logic.Relation

/-!
# The wallet and its two durable steps

An `EnhancedFuturesWallet` is its configuration, a clock, the runtime fields,
the reducer state and the journal of everything it has written since it was
created.  Whatever an operation does to the reducer state or to the stores
goes through `_emit_event` or `_save_state`; the rest is volatile.
-/

namespace CryptoTrader

open CryptoTrader.Lib

/-- The constructor arguments no operation changes. -/
structure WalletConfig where
  symbol : Symbol
  stateNamespace : String
  initialBalance : Decimal
  equityUtilization : Decimal
  tdsEnabled : Bool
  tdsRate : Decimal
  paperSpreadCoeff : Option Decimal
  paperCollarPct : Decimal
  venueSlEnabled : Bool
  venueTpEnabled : Bool
  requireVenueSl : Bool
  haltOnInvariantViolation : Bool
  haltOnCritical : Bool
  haltOnFatal : Bool
  maxSnapshots : Nat
  redisAttached : Bool

/-- `EnhancedFuturesWallet`.  `self.orders` and `self.fills` are images of the
reducer's and are read from `runtime`.  The `n`-th reading of the clock is
`clock n`, and `reads` readings have been taken. -/
structure Wallet where
  cfg : WalletConfig
  clock : Nat → Nat
  reads : Nat
  makerFeeRate : Decimal
  takerFeeRate : Decimal
  maintenanceMarginRatio : Decimal
  leverage : Leverage
  symbolLeverages : Dict Symbol Leverage
  halted : Bool
  liveExecution : Bool
  walletBalance : Decimal
  unrealizedPnlTotal : Decimal
  realizedPnlTotal : Decimal
  positions : Dict Symbol EnhancedPosition
  positionHistory : List EnhancedPosition
  runtime : PortfolioState
  base : Stores
  journal : List Write

/-- The stores as they are now. -/
def Wallet.stores (w : Wallet) : Stores := w.base.writes w.journal

/-- `_now_ms`. -/
def Wallet.nowMs (w : Wallet) : Nat := w.clock w.reads

/-- The clock moves on. -/
def Wallet.tick (w : Wallet) : Wallet := { w with reads := w.reads + 1 }

/-- `get_leverage`. -/
def Wallet.getLeverage (w : Wallet) (symbol : Symbol) : Leverage :=
  (w.symbolLeverages.get? symbol).getD w.leverage

/-! ## Positions follow the reducer -/

/-- What `_sync_positions_from_reducer` overwrites in an open position. -/
def EnhancedPosition.sync (pos : EnhancedPosition) (data : PositionData) : EnhancedPosition :=
  let notional := data.quantity * data.entryPrice
  { pos with
    remainingQuantity := data.quantity
    originalQuantity := max pos.originalQuantity data.quantity
    entryPrice := data.entryPrice
    slPrice := data.slPrice
    trailingActive := data.trailingActive
    tpLevels := data.tpLevels
    protectiveOrders := data.protectiveOrders.getD pos.protectiveOrders
    notional := notional
    marginUsed := notional / (pos.leverage : ℕ)
    mode := data.mode.getD pos.mode }

/-- Take-profit levels for positions of legacy databases. -/
def legacyTpLevels (side : PositionSide) (entry : Decimal) : List TpLevel :=
  match side with
  | .long =>
      [ { label := "TP1", pct := 1 / 2, price := entry * (101 / 100), hit := false },
        { label := "TP2", pct := 1 / 2, price := entry * (102 / 100), hit := false } ]
  | .short =>
      [ { label := "TP1", pct := 1 / 2, price := entry * (99 / 100), hit := false },
        { label := "TP2", pct := 1 / 2, price := entry * (98 / 100), hit := false } ]

/-- The position built for a reducer entry the wallet has no position for. -/
def PositionData.toPosition (data : PositionData) (symbol : Symbol) (live : Bool) :
    EnhancedPosition :=
  let notional := data.quantity * data.entryPrice
  { symbol := symbol
    side := data.side
    playbook := data.playbook
    entryPrice := data.entryPrice
    originalQuantity := data.quantity
    remainingQuantity := data.quantity
    notional := notional
    marginUsed := notional / (data.leverage : ℕ)
    leverage := data.leverage
    openTime := data.openTime
    slPrice := data.slPrice
    tpLevels :=
      if data.tpLevels = [] ∧ data.playbook = .intraday
      then legacyTpLevels data.side data.entryPrice
      else data.tpLevels
    trailingActive := data.trailingActive
    highestPrice := data.highestPrice.getD data.entryPrice
    peakPnlPct := data.peakPnlPct.getD 0
    protectiveOrders := data.protectiveOrders.getD .none
    mode := data.mode.getD (if live then .live else .paper) }

/-- One entry of `_sync_positions_from_reducer`. -/
def syncPosition (existing : Option EnhancedPosition) (live : Bool) (symbol : Symbol)
    (data : PositionData) : EnhancedPosition :=
  match existing with
  | none => data.toPosition symbol live
  | some pos =>
      match pos.status with
      | .opened => pos.sync data
      | .closed => pos

/-- `_sync_positions_from_reducer`. -/
def Wallet.syncPositionsFromReducer (w : Wallet) : Wallet :=
  { w with
    positions := w.runtime.openPositions.mapVal
      (fun symbol data => syncPosition (w.positions.get? symbol) w.liveExecution symbol data) }

/-- `_sync_unrealized_total`. -/
def Wallet.syncUnrealizedTotal (w : Wallet) : Wallet :=
  { w with
    unrealizedPnlTotal :=
      ((w.positions.values.filter (fun pos => pos.status = .opened)).map
        EnhancedPosition.unrealizedPnl).sum }

/-- `self.positions[symbol] = pos`. -/
def Wallet.setPosition (w : Wallet) (symbol : Symbol) (pos : EnhancedPosition) : Wallet :=
  { w with positions := w.positions.set symbol pos }

/-- Mutate the position object of a symbol in place. -/
def Wallet.editPosition (w : Wallet) (symbol : Symbol)
    (f : EnhancedPosition → EnhancedPosition) : Wallet :=
  { w with positions := w.positions.modify symbol f }

/-- `self.position_history.append(record)`. -/
def Wallet.appendHistory (w : Wallet) (record : EnhancedPosition) : Wallet :=
  { w with positionHistory := w.positionHistory ++ [record] }

/-! ## The two durable steps -/

/-- The event `_append_event` builds from a payload. -/
def Wallet.event (w : Wallet) (payload : Payload) : Event :=
  { ts := w.nowMs
    symbol := w.cfg.symbol
    namespace_ := w.cfg.stateNamespace
    payload := payload }

def Payload.isInvariantViolation : Payload → Bool
  | .invariantViolation _ => true
  | _ => false

/-- `_emit_event`: append to both logs, write the domain tables, reduce, and
align the runtime fields with the reducer. -/
def Wallet.emit (w : Wallet) (payload : Payload) : Wallet :=
  let event := w.event payload
  let runtime := w.runtime.apply event
  { w with
    reads := w.reads + 1
    journal := w.journal ++ [.jsonl event, .dbEvent event, .domainEvent event]
    runtime := runtime
    walletBalance := runtime.walletBalance
    realizedPnlTotal := runtime.realizedPnlTotal
    positions := runtime.openPositions.mapVal
      (fun symbol data => syncPosition (w.positions.get? symbol) w.liveExecution symbol data)
    halted :=
      w.halted || (payload.isInvariantViolation && w.cfg.haltOnInvariantViolation) }

/-- The dynamic peaks `_save_state` writes back into the reducer state. -/
def PositionData.withPeaks (data : PositionData) (pos : Option EnhancedPosition) : PositionData :=
  match pos with
  | none => data
  | some pos =>
      { data with highestPrice := some pos.highestPrice, peakPnlPct := some pos.peakPnlPct }

@[simp] theorem PositionData.view_withPeaks (data : PositionData)
    (pos : Option EnhancedPosition) : (data.withPeaks pos).view = data.view := by
  cases pos <;> rfl

/-- The reducer state after the write-back. -/
def Wallet.runtimeWithPeaks (w : Wallet) : PortfolioState :=
  { w.runtime with
    openPositions := w.runtime.openPositions.mapVal
      (fun symbol data => data.withPeaks (w.positions.get? symbol)) }

/-- The `state` dictionary of `_save_state`. -/
def Wallet.snapshot (w : Wallet) : Snapshot :=
  { walletBalance := w.walletBalance
    realizedPnlTotal := w.realizedPnlTotal
    makerFeeRate := w.makerFeeRate
    takerFeeRate := w.takerFeeRate
    maintenanceMarginRatio := w.maintenanceMarginRatio
    positions := w.positions
    positionHistory := w.positionHistory
    reducerOpenPositions := w.runtimeWithPeaks.openPositions
    reducerOrders := w.runtime.orders
    reducerFills := w.runtime.fills
    reducerViolations := w.runtime.violations
    reducerLastTs := w.runtime.lastTs
    reducerEventsApplied := w.runtime.eventsApplied }

/-- `_save_state`: the state file, a row of the snapshot table, and the Redis
key when a cache is attached. -/
def Wallet.save (w : Wallet) : Wallet :=
  let snap := w.snapshot
  { w with
    reads := w.reads + 1
    runtime := w.runtimeWithPeaks
    journal := w.journal ++ [.stateFile snap, .dbSnapshot w.nowMs snap w.cfg.maxSnapshots] ++
      (if w.cfg.redisAttached then [.redisPut snap] else []) }

section StepEffects

variable (w : Wallet) (payload : Payload)

@[simp] theorem Wallet.runtime_emit : (w.emit payload).runtime = w.runtime.apply (w.event payload) :=
  rfl

@[simp] theorem Wallet.walletBalance_emit :
    (w.emit payload).walletBalance = (w.emit payload).runtime.walletBalance := rfl

theorem Wallet.eventsApplied_emit_pos : 0 < (w.emit payload).runtime.eventsApplied := by
  simp

/-- The balance moves by the cash of the event. -/
theorem Wallet.cash_emit (h : ∀ b, payload ≠ .walletInitialized b) :
    (w.emit payload).walletBalance = w.runtime.walletBalance + payload.cash :=
  w.runtime.walletBalance_apply (w.event payload) h

/-- Positions after an event are the reducer's, synced. -/
theorem Wallet.positions_emit (symbol : Symbol) :
    (w.emit payload).positions.get? symbol =
      ((w.emit payload).runtime.openPositions.get? symbol).map
        (syncPosition (w.positions.get? symbol) w.liveExecution symbol) :=
  Dict.get?_mapVal _ _ symbol

/-- The write-back of the peaks is invisible. -/
@[simp] theorem Wallet.view_runtimeWithPeaks : w.runtimeWithPeaks.view = w.runtime.view := by
  simp [runtimeWithPeaks, PortfolioState.view, Dict.mapVal_mapVal]

/-- A snapshot restores what is compared of the reducer state it was taken
from, once the balances agree. -/
theorem Wallet.view_snapshot (hbalance : w.walletBalance = w.runtime.walletBalance)
    (hpnl : w.realizedPnlTotal = w.runtime.realizedPnlTotal) :
    w.snapshot.reducerState.view = w.runtime.view := by
  simp [Snapshot.reducerState, snapshot, runtimeWithPeaks, PortfolioState.view,
    Dict.mapVal_mapVal, hbalance, hpnl]

end StepEffects

/-! ## What an operation can do -/

/-- A change that no store, no replay and no clock reading notices. -/
structure Wallet.Volatile (w w' : Wallet) : Prop where
  cfg : w'.cfg = w.cfg
  clock : w'.clock = w.clock
  reads : w.reads ≤ w'.reads
  runtime : w'.runtime = w.runtime
  base : w'.base = w.base
  journal : w'.journal = w.journal
  walletBalance : w'.walletBalance = w.walletBalance
  realizedPnlTotal : w'.realizedPnlTotal = w.realizedPnlTotal

/-- One primitive step of an operation.  Nothing is saved before the first
event has been applied. -/
inductive Wallet.Step : Wallet → Wallet → Prop where
  | emit (w : Wallet) (payload : Payload) : Wallet.Step w (w.emit payload)
  | save (w : Wallet) (h : 0 < w.runtime.eventsApplied) : Wallet.Step w w.save
  | volatile {w w' : Wallet} (h : Wallet.Volatile w w') : Wallet.Step w w'

/-- What a whole operation does: primitive steps, one after another. -/
def Wallet.Steps : Wallet → Wallet → Prop := Relation.ReflTransGen Wallet.Step

namespace Wallet.Steps

theorem refl (w : Wallet) : Steps w w := Relation.ReflTransGen.refl

theorem trans {u v w : Wallet} (h₁ : Steps u v) (h₂ : Steps v w) : Steps u w :=
  Relation.ReflTransGen.trans h₁ h₂

theorem emit {u v : Wallet} (h : Steps u v) (payload : Payload) : Steps u (v.emit payload) :=
  h.tail (.emit v payload)

theorem save {u v : Wallet} (h : Steps u v) (hv : 0 < v.runtime.eventsApplied) :
    Steps u v.save :=
  h.tail (.save v hv)

theorem volatile {u v v' : Wallet} (h : Steps u v) (hv : Volatile v v') : Steps u v' :=
  h.tail (.volatile hv)

theorem eventsApplied_le {u v : Wallet} (h : Steps u v) :
    u.runtime.eventsApplied ≤ v.runtime.eventsApplied := by
  induction h with
  | refl => exact Nat.le_refl _
  | tail _ hstep ih =>
      refine ih.trans ?_
      cases hstep with
      | emit payload => simp
      | save _ => exact Nat.le_refl _
      | volatile hv => rw [hv.runtime]

section Volatile

variable {u v : Wallet} (h : Wallet.Steps u v)
include h

theorem tick : Wallet.Steps u v.tick :=
  h.volatile ⟨rfl, rfl, Nat.le_succ _, rfl, rfl, rfl, rfl, rfl⟩

theorem setPosition (symbol : Symbol) (pos : EnhancedPosition) :
    Wallet.Steps u (v.setPosition symbol pos) :=
  h.volatile ⟨rfl, rfl, Nat.le_refl _, rfl, rfl, rfl, rfl, rfl⟩

theorem editPosition (symbol : Symbol) (f : EnhancedPosition → EnhancedPosition) :
    Wallet.Steps u (v.editPosition symbol f) :=
  h.volatile ⟨rfl, rfl, Nat.le_refl _, rfl, rfl, rfl, rfl, rfl⟩

theorem appendHistory (record : EnhancedPosition) : Wallet.Steps u (v.appendHistory record) :=
  h.volatile ⟨rfl, rfl, Nat.le_refl _, rfl, rfl, rfl, rfl, rfl⟩

theorem syncUnrealizedTotal : Wallet.Steps u v.syncUnrealizedTotal :=
  h.volatile ⟨rfl, rfl, Nat.le_refl _, rfl, rfl, rfl, rfl, rfl⟩

theorem setHalted (b : Bool) : Wallet.Steps u { v with halted := b } :=
  h.volatile ⟨rfl, rfl, Nat.le_refl _, rfl, rfl, rfl, rfl, rfl⟩

end Volatile

end Wallet.Steps

end CryptoTrader
