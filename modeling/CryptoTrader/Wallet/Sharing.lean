import CryptoTrader.Wallet.Reports

/-!
# Wallets that share one database

Several wallets, each with its own namespace and symbol, over one Postgres
database and one data directory.  Snapshots and Redis keys are kept apart by
namespace and files by name, but the event and funding tables are read whole:
`iter_events`, `count_events` and `get_funding_last_ts` have no condition on
the namespace column.
-/

namespace CryptoTrader

open CryptoTrader.Lib

/-! ## Names -/

/-- `_sanitize_path_component`. -/
def sanitizePathComponent (value : String) : String :=
  let sanitized := String.ofList
    (value.toList.map (fun ch => if ch.isAlphanum || ch = '-' || ch = '_' then ch else '_'))
  if sanitized = "" then "default" else sanitized

/-- `safe_ns`, the namespace of the store and of the cache. -/
def WalletConfig.safeNs (cfg : WalletConfig) : String := sanitizePathComponent cfg.stateNamespace

/-- What the names of the state file and of the event file end in. -/
def WalletConfig.fileStem (cfg : WalletConfig) : String :=
  cfg.safeNs ++ "_" ++ sanitizePathComponent cfg.symbol.name

/-- The two columns an event row carries of its wallet. -/
def WalletConfig.identity (cfg : WalletConfig) : String × Symbol :=
  (cfg.stateNamespace, cfg.symbol)

def Event.identity (event : Event) : String × Symbol := (event.namespace_, event.symbol)

/-! ## The shared stores -/

/-- The tables `wallet_events`, `wallet_funding` (symbol and time) and
`wallet_snapshots` (by namespace), the Redis keys (by namespace; a wallet is
built in paper mode), and the files of the data directory. -/
structure SharedStores where
  events : List Event
  funding : List (Symbol × Nat)
  snapshots : String → List (Nat × Snapshot)
  redis : String → Option Snapshot
  jsonl : String → List Event
  stateFile : String → Option Snapshot

def SharedStores.empty : SharedStores :=
  { events := []
    funding := []
    snapshots := fun _ => []
    redis := fun _ => none
    jsonl := fun _ => []
    stateFile := fun _ => none }

/-- The rotation of `save_snapshot` on Postgres, where a limit of no rows
deletes them all. -/
def rotateSnapshotsPg (maxSnapshots : Nat) (rows : List (Nat × Snapshot)) :
    List (Nat × Snapshot) :=
  if maxSnapshots = 0 then [] else rotateSnapshots maxSnapshots rows

/-- A write of the wallet with this configuration. -/
def SharedStores.write (cfg : WalletConfig) (s : SharedStores) : Write → SharedStores
  | .jsonl event =>
      { s with
        jsonl := Function.update s.jsonl cfg.fileStem (s.jsonl cfg.fileStem ++ [event]) }
  | .dbEvent event => { s with events := s.events ++ [event] }
  | .domainEvent event =>
      match event.payload with
      | .fundingApplied symbol _ _ _ => { s with funding := s.funding ++ [(symbol, event.ts)] }
      | _ => s
  | .stateFile snap =>
      { s with stateFile := Function.update s.stateFile cfg.fileStem (some snap) }
  | .dbSnapshot ts snap maxSnapshots =>
      { s with
        snapshots := Function.update s.snapshots cfg.safeNs
          (rotateSnapshotsPg maxSnapshots (s.snapshots cfg.safeNs ++ [(ts, snap)])) }
  | .redisPut snap => { s with redis := Function.update s.redis cfg.safeNs (some snap) }

def SharedStores.writes (cfg : WalletConfig) (s : SharedStores) (journal : List Write) :
    SharedStores :=
  journal.foldl (SharedStores.write cfg) s

/-- The stores as this wallet finds them. -/
def SharedStores.view (s : SharedStores) (cfg : WalletConfig) : Stores :=
  { jsonl := s.jsonl cfg.fileStem
    events := s.events
    snapshots := s.snapshots cfg.safeNs
    stateFile := s.stateFile cfg.fileStem
    redis := s.redis cfg.safeNs }

/-- `get_funding_last_ts`. -/
def SharedStores.fundingLastTs (s : SharedStores) (symbol : Symbol) : Nat :=
  ((s.funding.filter (fun row => row.1 = symbol)).map Prod.snd).foldl max 0

section SharedStores

variable (cfg : WalletConfig) (s : SharedStores)

theorem SharedStores.events_write (x : Write) {t : Stores} (h : s.events = t.events) :
    (s.write cfg x).events = (t.write x).events := by
  cases x with
  | domainEvent event =>
      simp only [write, Stores.write]
      split <;> exact h
  | dbEvent event => simp [write, Stores.write, h]
  | _ => exact h

theorem SharedStores.jsonl_write (x : Write) {t : Stores} (h : s.jsonl cfg.fileStem = t.jsonl) :
    (s.write cfg x).jsonl cfg.fileStem = (t.write x).jsonl := by
  cases x with
  | domainEvent event =>
      simp only [write, Stores.write]
      split <;> exact h
  | jsonl event => simp [write, Stores.write, h]
  | _ => exact h

/-- The rows a journal leaves in the event table. -/
theorem SharedStores.events_writes (journal : List Write) :
    ∀ (s : SharedStores) (t : Stores), s.events = t.events →
      (s.writes cfg journal).events = (t.writes journal).events := by
  induction journal with
  | nil => exact fun _ _ h => h
  | cons x rest ih => exact fun s t h => ih (s.write cfg x) (t.write x) (s.events_write cfg x h)

/-- The lines a journal leaves in the wallet's own event file. -/
theorem SharedStores.jsonl_writes (journal : List Write) :
    ∀ (s : SharedStores) (t : Stores), s.jsonl cfg.fileStem = t.jsonl →
      (s.writes cfg journal).jsonl cfg.fileStem = (t.writes journal).jsonl := by
  induction journal with
  | nil => exact fun _ _ h => h
  | cons x rest ih => exact fun s t h => ih (s.write cfg x) (t.write x) (s.jsonl_write cfg x h)

end SharedStores

/-! ## What a wallet does in one go -/

/-- The test of `run_funding_scheduler`. -/
def isFundingDue (lastTs : Nat) (intervalMs now : Int) : Bool := ¬ (now - lastTs < intervalMs)

/-- `run_funding_scheduler`, which reads `lastTs` from the funding table. -/
def Wallet.runFundingScheduler (w : Wallet) (lastTs : Nat) (symbol : Symbol)
    (fundingRate : Decimal) (intervalMs : Int) (nowMs : Option Int) :
    Except PyErr Decimal × Wallet :=
  match nowMs with
  | some now =>
      if isFundingDue lastTs intervalMs now then w.applyFunding symbol fundingRate else (.ok 0, w)
  | none =>
      if isFundingDue lastTs intervalMs w.nowMs then w.tick.applyFunding symbol fundingRate
      else (.ok 0, w.tick)

/-- An operation of a wallet, with or without an execution engine: whatever it
does, it writes through `_emit_event` and `_save_state`, and saves only what
an event has reported. -/
structure WalletRoutine where
  run : Wallet → Wallet
  reported : ∀ w, Wallet.Reported w (run w)

def Operation.call (op : Operation) : WalletRoutine :=
  ⟨fun w => op.run w, fun w => op.run_reported w⟩

/-- What the process of a wallet does: it starts, perhaps again, it runs an
operation, or it lets the funding scheduler decide. -/
inductive WalletAct where
  | start (clock : Nat → Nat) (redisUp : Bool)
  | call (c : WalletRoutine)
  | fundingScheduler (symbol : Symbol) (fundingRate : Decimal) (intervalMs : Int)
      (nowMs : Option Int)

/-- The wallet over the stores as they are now, with nothing written yet. -/
def Wallet.attach (w : Wallet) (stores : Stores) : Wallet :=
  { w with base := stores, journal := [] }

/-- The wallet after an act; `none` when there is no wallet to act. -/
def WalletAct.perform (init : WalletInit) (db : SharedStores) (current : Option Wallet) :
    WalletAct → Option Wallet
  | .start clock redisUp => some (Wallet.boot init clock (db.view init.cfg) redisUp)
  | .call c => current.map (fun w => c.run (w.attach (db.view init.cfg)))
  | .fundingScheduler symbol fundingRate intervalMs nowMs =>
      current.map (fun w =>
        ((w.attach (db.view init.cfg)).runFundingScheduler (db.fundingLastTs symbol) symbol
          fundingRate intervalMs nowMs).2)

theorem Wallet.runFundingScheduler_reported (w : Wallet) (lastTs : Nat) (symbol : Symbol)
    (fundingRate : Decimal) (intervalMs : Int) (nowMs : Option Int) :
    Reported w (w.runFundingScheduler lastTs symbol fundingRate intervalMs nowMs).2 := by
  unfold runFundingScheduler
  cases nowMs with
  | some now =>
      simp only
      split
      · exact w.applyFunding_reported symbol fundingRate
      · exact .refl w
  | none =>
      simp only
      split
      · exact (Reported.tick w).trans (w.tick.applyFunding_reported symbol fundingRate)
      · exact Reported.tick w

/-- A start loads what it finds and announces itself in an empty log. -/
theorem Wallet.boot_reported (init : WalletInit) (clock : Nat → Nat) (stores : Stores)
    (redisUp : Bool) :
    ∃ v : Wallet, v.base = stores ∧ v.journal = [] ∧ v.cfg = init.cfg ∧
      Reported v (Wallet.boot init clock stores redisUp) := by
  have hload : ((blank init clock stores).loadState redisUp).base = stores ∧
      ((blank init clock stores).loadState redisUp).journal = [] ∧
      ((blank init clock stores).loadState redisUp).cfg = init.cfg := by
    unfold loadState loadFromDbSnapshotAndReplay
    split
    · exact ⟨rfl, rfl, rfl⟩
    · split
      · next heq =>
          split at heq
          · simp at heq
          · rw [← Option.some.inj heq]
            exact ⟨rfl, rfl, rfl⟩
      · split <;> exact ⟨rfl, rfl, rfl⟩
  refine ⟨_, hload.1, hload.2.1, hload.2.2, ?_⟩
  unfold boot bootstrap
  split
  · exact .emit (.refl _) _
  · exact .refl _

/-- An act starts from the stores as the wallet finds them. -/
theorem WalletAct.perform_reported {init : WalletInit} {db : SharedStores}
    {current : Option Wallet} (hcfg : ∀ v, current = some v → v.cfg = init.cfg)
    (act : WalletAct) {w : Wallet} (h : act.perform init db current = some w) :
    ∃ v : Wallet, v.base = db.view init.cfg ∧ v.journal = [] ∧ v.cfg = init.cfg ∧
      Wallet.Reported v w := by
  cases act with
  | start clock redisUp =>
      rw [← Option.some.inj h]
      exact Wallet.boot_reported init clock _ redisUp
  | call c =>
      obtain ⟨v, rfl, rfl⟩ := Option.map_eq_some_iff.mp h
      exact ⟨v.attach (db.view init.cfg), rfl, rfl, hcfg v rfl, c.reported _⟩
  | fundingScheduler symbol fundingRate intervalMs nowMs =>
      obtain ⟨v, rfl, rfl⟩ := Option.map_eq_some_iff.mp h
      exact ⟨v.attach (db.view init.cfg), rfl, rfl, hcfg v rfl,
        Wallet.runFundingScheduler_reported _ _ _ _ _ _⟩

end CryptoTrader
