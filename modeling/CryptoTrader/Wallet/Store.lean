import CryptoTrader.Wallet.Reducer
import Mathlib.Data.List.Sort

/-!
# What the wallet persists

The JSONL file, the event table, the snapshot table, the state file and the
Redis key of one namespace, the writes an operation makes to them, and how
they are read back: `_iter_events`, `get_latest_snapshot`,
`_deserialize_reducer_state` and `replay_portfolio_state`.
-/

namespace CryptoTrader

open CryptoTrader.Lib

/-! ## Snapshots -/

/-- The `state` dictionary of `_save_state`, as far as recovery reads it. -/
structure Snapshot where
  walletBalance : Decimal
  realizedPnlTotal : Decimal
  makerFeeRate : Decimal
  takerFeeRate : Decimal
  maintenanceMarginRatio : Decimal
  positions : Dict Symbol EnhancedPosition
  positionHistory : List EnhancedPosition
  reducerOpenPositions : Dict Symbol PositionData
  reducerOrders : Dict String OrderData
  reducerFills : List FillPayload
  reducerViolations : List Violation
  reducerLastTs : Nat
  reducerEventsApplied : Nat
  deriving DecidableEq

/-- An open position as `_deserialize_reducer_state` reads it: the protective
orders and the provenance are not among the keys it copies. -/
def PositionData.deserialize (pos : PositionData) : PositionData :=
  { pos with
    protectiveOrders := none
    mode := none
    source := none
    openedExternally := none
    highestPrice := some (pos.highestPrice.getD pos.entryPrice)
    peakPnlPct := some (pos.peakPnlPct.getD 0) }

@[simp] theorem PositionData.view_deserialize (pos : PositionData) :
    pos.deserialize.view = pos.view := rfl

/-- `_deserialize_reducer_state`.  The funding total is not among the keys
that `_save_state` writes. -/
def Snapshot.reducerState (snap : Snapshot) : PortfolioState :=
  { walletBalance := snap.walletBalance
    realizedPnlTotal := snap.realizedPnlTotal
    openPositions := snap.reducerOpenPositions.mapVal (fun _ pos => pos.deserialize)
    orders := snap.reducerOrders
    fills := snap.reducerFills
    fundingTotal := 0
    violations := snap.reducerViolations
    lastTs := snap.reducerLastTs
    eventsApplied := snap.reducerEventsApplied }

/-! ## Stores and writes -/

/-- The persistent stores of one wallet namespace.  Rows of the event and
snapshot tables stand in the order of their ids. -/
structure Stores where
  jsonl : List Event := []
  events : List Event := []
  snapshots : List (Nat × Snapshot) := []
  stateFile : Option Snapshot := none
  redis : Option Snapshot := none
  deriving DecidableEq

/-- One persistent write.  The tables behind `persist_domain_event` are read
by queries only, never by a recovery. -/
inductive Write where
  | jsonl (event : Event)
  | dbEvent (event : Event)
  | domainEvent (event : Event)
  | stateFile (snap : Snapshot)
  | dbSnapshot (ts : Nat) (snap : Snapshot) (maxSnapshots : Nat)
  | redisPut (snap : Snapshot)
  deriving DecidableEq

/-- The rotation of `save_snapshot`: the `maxSnapshots` latest rows stay. -/
def rotateSnapshots (maxSnapshots : Nat) (rows : List (Nat × Snapshot)) :
    List (Nat × Snapshot) :=
  let byTsDesc := rows.zipIdx.insertionSort (fun a b => b.1.1 ≤ a.1.1)
  let idsToKeep := (byTsDesc.take maxSnapshots).map Prod.snd
  if idsToKeep = [] then rows
  else (rows.zipIdx.filter (fun row => row.2 ∈ idsToKeep)).map Prod.fst

def Stores.write (s : Stores) : Write → Stores
  | .jsonl event => { s with jsonl := s.jsonl ++ [event] }
  | .dbEvent event => { s with events := s.events ++ [event] }
  | .domainEvent _ => s
  | .stateFile snap => { s with stateFile := some snap }
  | .dbSnapshot ts snap maxSnapshots =>
      { s with snapshots := rotateSnapshots maxSnapshots (s.snapshots ++ [(ts, snap)]) }
  | .redisPut snap => { s with redis := some snap }

/-- The stores after a list of writes. -/
def Stores.writes (s : Stores) (journal : List Write) : Stores := journal.foldl Stores.write s

@[simp] theorem Stores.writes_nil (s : Stores) : s.writes [] = s := rfl

@[simp] theorem Stores.writes_append (s : Stores) (j₁ j₂ : List Write) :
    s.writes (j₁ ++ j₂) = (s.writes j₁).writes j₂ :=
  List.foldl_append

@[simp] theorem Stores.writes_cons (s : Stores) (x : Write) (j : List Write) :
    s.writes (x :: j) = (s.write x).writes j := rfl

/-! ## Reading back -/

/-- `SELECT … FROM events ORDER BY ts ASC, id ASC`. -/
def Stores.eventRows (s : Stores) : List Event :=
  s.events.insertionSort (fun a b => a.ts ≤ b.ts)

/-- `_iter_events`: the event table, or the JSONL file when the table has no
rows. -/
def Stores.iterEvents (s : Stores) : List Event :=
  if s.events = [] then s.jsonl else s.eventRows

/-- `get_latest_snapshot`: `ORDER BY ts DESC LIMIT 1`. -/
def Stores.latestSnapshot (s : Stores) : Option (Nat × Snapshot) :=
  (s.snapshots.insertionSort (fun a b => b.1 ≤ a.1)).head?

/-- `replay_portfolio_state`; `none` is its out-of-order error. -/
def Stores.replayPortfolioState (s : Stores) (initialBalance : Decimal) :
    Option PortfolioState :=
  EventLog.guardedReplay PortfolioState.apply Event.ts (-1) [] s.iterEvents
    (.initial initialBalance)

/-- Rows in time order come back as they were appended. -/
theorem Stores.eventRows_of_sorted {s : Stores}
    (hsorted : s.events.Pairwise (fun a b => a.ts ≤ b.ts)) : s.eventRows = s.events :=
  hsorted.insertionSort_eq

theorem mem_rotateSnapshots {maxSnapshots : Nat} {rows : List (Nat × Snapshot)}
    {row : Nat × Snapshot} (h : row ∈ rotateSnapshots maxSnapshots rows) : row ∈ rows := by
  unfold rotateSnapshots at h
  simp only at h
  split at h
  · exact h
  · obtain ⟨⟨x, i⟩, hx, rfl⟩ := List.mem_map.mp h
    exact (List.mem_zipIdx (List.mem_of_mem_filter hx)).2.2 ▸ List.getElem_mem _

theorem Stores.mem_of_latestSnapshot {s : Stores} {row : Nat × Snapshot}
    (h : s.latestSnapshot = some row) : row ∈ s.snapshots :=
  (List.mem_insertionSort _).mp (List.mem_of_mem_head? h)

end CryptoTrader
