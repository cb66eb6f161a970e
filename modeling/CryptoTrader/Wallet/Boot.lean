import CryptoTrader.Wallet.Trading

/-!
# Creating a wallet over its stores

`__init__` of `EnhancedFuturesWallet`: the blank object, `_load_state` with
its sources in the order it tries them (Redis, the latest database snapshot
with a replay of the events after it, the state file), and the bootstrap
event of an empty log.
-/

namespace CryptoTrader

open CryptoTrader.Lib

/-- The constructor arguments. -/
structure WalletInit where
  cfg : WalletConfig
  makerFeeRate : Decimal
  takerFeeRate : Decimal
  maintenanceMarginRatio : Decimal
  leverage : Leverage

/-- The object before `_load_state`. -/
def Wallet.blank (init : WalletInit) (clock : Nat → Nat) (stores : Stores) : Wallet :=
  { cfg := init.cfg
    clock := clock
    reads := 0
    makerFeeRate := init.makerFeeRate
    takerFeeRate := init.takerFeeRate
    maintenanceMarginRatio := init.maintenanceMarginRatio
    leverage := init.leverage
    symbolLeverages := Dict.empty
    halted := false
    liveExecution := false
    walletBalance := init.cfg.initialBalance
    unrealizedPnlTotal := 0
    realizedPnlTotal := 0
    positions := Dict.empty
    positionHistory := []
    runtime := .initial init.cfg.initialBalance
    base := stores
    journal := [] }

/-- `d.get("status") == "OPEN"`. -/
def EnhancedPosition.isOpen (pos : EnhancedPosition) : Bool := pos.status = .opened

/-- `_hydrate_from_state`. -/
def Wallet.hydrateFromState (w : Wallet) (snap : Snapshot) : Wallet :=
  { w with
    walletBalance := snap.walletBalance
    realizedPnlTotal := snap.realizedPnlTotal
    makerFeeRate := snap.makerFeeRate
    takerFeeRate := snap.takerFeeRate
    maintenanceMarginRatio := snap.maintenanceMarginRatio
    positions := snap.positions.filterVal EnhancedPosition.isOpen
    positionHistory := snap.positionHistory
    runtime := snap.reducerState }.syncPositionsFromReducer.syncUnrealizedTotal

/-- The reducer state after the events that follow a database snapshot: those
past the count it carries, or, for a snapshot without one, those stamped
after it. -/
def Stores.replayDelta (s : Stores) (snapTs : Nat) (snap : Snapshot) : PortfolioState :=
  let state := snap.reducerState
  let delta :=
    if 0 < state.eventsApplied then s.iterEvents.drop state.eventsApplied
    else s.iterEvents.filter (fun event => snapTs < event.ts)
  delta.foldl PortfolioState.apply state

/-- `_load_from_db_snapshot_and_replay`; `none` when there is no snapshot. -/
def Wallet.loadFromDbSnapshotAndReplay (w : Wallet) : Option Wallet :=
  match w.stores.latestSnapshot with
  | none => none
  | some (snapTs, snap) =>
      let replayState := w.stores.replayDelta snapTs snap
      some { w with
        positions := snap.positions.filterVal EnhancedPosition.isOpen
        positionHistory := snap.positionHistory
        runtime := replayState
        walletBalance := replayState.walletBalance
        realizedPnlTotal :=
          replayState.realizedPnlTotal }.syncPositionsFromReducer.syncUnrealizedTotal

/-- `_load_state`.  The cache may be down or may have dropped its key. -/
def Wallet.loadState (w : Wallet) (redisUp : Bool) : Wallet :=
  match if w.cfg.redisAttached && redisUp then w.stores.redis else none with
  | some cached => w.hydrateFromState cached
  | none =>
      match w.loadFromDbSnapshotAndReplay with
      | some loaded => loaded
      | none =>
          match w.stores.stateFile with
          | some state => w.hydrateFromState state
          | none => w

/-- The end of `__init__`: the first event of an empty log. -/
def Wallet.bootstrap (w : Wallet) : Wallet :=
  if w.stores.jsonl = [] ∧ w.stores.events = [] then
    w.emit (.walletInitialized w.walletBalance)
  else w

/-- `EnhancedFuturesWallet(…)` over the stores it finds. -/
def Wallet.boot (init : WalletInit) (clock : Nat → Nat) (stores : Stores) (redisUp : Bool) :
    Wallet :=
  ((Wallet.blank init clock stores).loadState redisUp).bootstrap

/-- Over empty stores there is nothing to load. -/
theorem Wallet.boot_empty (init : WalletInit) (clock : Nat → Nat) (redisUp : Bool) :
    Wallet.boot init clock {} redisUp =
      (Wallet.blank init clock {}).emit (.walletInitialized init.cfg.initialBalance) := by
  have hload : (Wallet.blank init clock {}).loadState redisUp = Wallet.blank init clock {} := by
    unfold loadState
    have hredis : (if (Wallet.blank init clock {}).cfg.redisAttached && redisUp then
        (Wallet.blank init clock {}).stores.redis else none) = none := by
      split <;> rfl
    rw [hredis]
    rfl
  unfold boot
  rw [hload]
  exact if_pos ⟨rfl, rfl⟩

/-! ## Inputs of the worked runs -/

/-- A wallet of 1000 USDT at 10x with taker fees of 5 bps. -/
def demoInit : WalletInit :=
  { cfg :=
      { symbol := ⟨"GLOBAL", by decide⟩
        stateNamespace := "default"
        initialBalance := 1000
        equityUtilization := 1 / 2
        tdsEnabled := false
        tdsRate := 1 / 100
        paperSpreadCoeff := none
        paperCollarPct := 1 / 10
        venueSlEnabled := true
        venueTpEnabled := false
        requireVenueSl := false
        haltOnInvariantViolation := false
        haltOnCritical := false
        haltOnFatal := true
        maxSnapshots := 10
        redisAttached := false }
    makerFeeRate := 2 / 10000
    takerFeeRate := 5 / 10000
    maintenanceMarginRatio := 5 / 1000
    leverage := 10 }

theorem demoSymbol_nonempty : "BTCUSDT" ≠ "" := by decide

def demoSymbol : Symbol := ⟨"BTCUSDT", demoSymbol_nonempty⟩

/-- A position of ten units at 100. -/
def demoAdoption : AdoptRequest :=
  { symbol := demoSymbol, side := .long, quantity := 10, entryPrice := 100 }

/-- A market order for the other side. -/
def demoOrder : OrderRequest :=
  { symbol := demoSymbol, side := .short, quantity := 10, orderType := .market }

end CryptoTrader
