import CryptoTrader.Lib.Run
import CryptoTrader.Wallet.Boot

/-!
# The runtime state follows the log

The operations as one type, and the invariant every one of them keeps because
it is made of durable steps: the reducer state looks like the fold of the
stored events, the events are in time order, and the runtime balances are
the reducer's.
-/

namespace CryptoTrader

open CryptoTrader.Lib

/-! ## Operations -/

/-- The operations of a wallet without an execution engine. -/
inductive Operation where
  | openPosition (symbol : Symbol) (setup : Setup) (markPrice : Decimal)
      (customMargin customQuantity : Option Decimal) (externalFill : Option ExternalFill)
  | adoptVenuePosition (r : AdoptRequest)
  | partialClose (symbol : Symbol) (markPrice pct : Decimal) (reason : String)
      (tpLabel : Option String) (externalFill : Option ExternalFill)
  | closePosition (symbol : Symbol) (markPrice : Decimal) (reason : String)
      (externalFill : Option ExternalFill)
  | liquidatePosition (symbol : Symbol) (markPrice : Decimal)
  | applyFunding (symbol : Symbol) (fundingRate : Decimal)
  | adjustSlPrice (symbol : Symbol) (newSlPrice : Decimal)
  | activateTrailingStop (symbol : Symbol)
  | placePendingOrder (r : OrderRequest)
  | evaluatePendingOrders (symbol : Symbol) (markPrice : Decimal)
  | cancelOrder (orderId reason : String)

/-- The wallet after an operation has returned or raised. -/
def Operation.run (w : Wallet) : Operation → Wallet
  | .openPosition symbol setup markPrice customMargin customQuantity externalFill =>
      (w.openPosition symbol setup markPrice customMargin customQuantity externalFill).2
  | .adoptVenuePosition r => (w.adoptVenuePosition r).2
  | .partialClose symbol markPrice pct reason tpLabel externalFill =>
      (w.partialClose symbol markPrice pct reason tpLabel externalFill).2
  | .closePosition symbol markPrice reason externalFill =>
      (w.closePosition symbol markPrice reason externalFill).2
  | .liquidatePosition symbol markPrice => w.liquidatePosition symbol markPrice
  | .applyFunding symbol fundingRate => (w.applyFunding symbol fundingRate).2
  | .adjustSlPrice symbol newSlPrice => w.adjustSlPrice symbol newSlPrice
  | .activateTrailingStop symbol => w.activateTrailingStop symbol
  | .placePendingOrder r => (w.placePendingOrder r).2
  | .evaluatePendingOrders symbol markPrice => w.evaluatePendingOrders symbol markPrice
  | .cancelOrder orderId reason => (w.cancelOrder orderId reason).2

/-- Every operation is a sequence of durable steps. -/
theorem Operation.run_steps (w : Wallet) (op : Operation) : Wallet.Steps w (op.run w) := by
  cases op with
  | openPosition symbol setup markPrice customMargin customQuantity externalFill =>
      exact Wallet.openPosition_steps symbol markPrice w setup customMargin customQuantity
        externalFill
  | adoptVenuePosition r => exact Wallet.adoptVenuePosition_steps w r
  | partialClose symbol markPrice pct reason tpLabel externalFill =>
      exact Wallet.partialClose_steps symbol markPrice w pct reason tpLabel externalFill
  | closePosition symbol markPrice reason externalFill =>
      exact (Wallet.Steps.refl w).bookClose symbol markPrice reason externalFill
  | liquidatePosition symbol markPrice => exact Wallet.liquidatePosition_steps symbol markPrice w
  | applyFunding symbol fundingRate => exact Wallet.applyFunding_steps symbol w fundingRate
  | adjustSlPrice symbol newSlPrice => exact Wallet.adjustSlPrice_steps symbol w newSlPrice
  | activateTrailingStop symbol => exact Wallet.activateTrailingStop_steps symbol w
  | placePendingOrder r => exact Wallet.placePendingOrder_steps w r
  | evaluatePendingOrders symbol markPrice =>
      exact Wallet.evaluatePendingOrders_steps w symbol markPrice
  | cancelOrder orderId reason => exact Wallet.cancelOrder_steps w orderId reason

/-! ## The log and what a step appends to it -/

/-- The rows of the event table. -/
def Wallet.log (w : Wallet) : List Event := w.stores.events

section Log

variable (w : Wallet)

@[simp] theorem Wallet.stores_emit (payload : Payload) :
    (w.emit payload).stores =
      { w.stores with
        jsonl := w.stores.jsonl ++ [w.event payload]
        events := w.stores.events ++ [w.event payload] } := by
  simp [stores, emit, Stores.write]

theorem Wallet.stores_save :
    w.save.stores =
      { w.stores with
        stateFile := some w.snapshot
        snapshots :=
          rotateSnapshots w.cfg.maxSnapshots (w.stores.snapshots ++ [(w.nowMs, w.snapshot)])
        redis := if w.cfg.redisAttached then some w.snapshot else w.stores.redis } := by
  unfold stores save
  cases w.cfg.redisAttached <;> simp [Stores.write]

@[simp] theorem Wallet.log_emit (payload : Payload) :
    (w.emit payload).log = w.log ++ [w.event payload] := by
  simp [log]

@[simp] theorem Wallet.log_save : w.save.log = w.log := by
  simp [log, stores_save]

variable {w}

theorem Wallet.Volatile.stores {w' : Wallet} (h : Wallet.Volatile w w') :
    w'.stores = w.stores := by
  unfold Wallet.stores
  rw [h.base, h.journal]

theorem Wallet.Volatile.log {w' : Wallet} (h : Wallet.Volatile w w') : w'.log = w.log := by
  unfold Wallet.log
  rw [h.stores]

/-- The log only grows. -/
theorem Wallet.Steps.log_extends {w' : Wallet} (h : Wallet.Steps w w') :
    ∃ new, w'.log = w.log ++ new := by
  induction h with
  | refl => exact ⟨[], (List.append_nil _).symm⟩
  | tail _ hstep ih =>
      obtain ⟨new, hnew⟩ := ih
      cases hstep with
      | emit payload => exact ⟨new ++ [_], by rw [Wallet.log_emit, hnew, List.append_assoc]⟩
      | save _ => exact ⟨new, by rw [Wallet.log_save, hnew]⟩
      | volatile hv => exact ⟨new, by rw [hv.log, hnew]⟩

theorem Wallet.Steps.cfg {w' : Wallet} (h : Wallet.Steps w w') : w'.cfg = w.cfg := by
  induction h with
  | refl => rfl
  | tail _ hstep ih =>
      cases hstep with
      | emit payload => exact ih
      | save _ => exact ih
      | volatile hv => rw [hv.cfg, ih]

theorem Wallet.Steps.clock {w' : Wallet} (h : Wallet.Steps w w') : w'.clock = w.clock := by
  induction h with
  | refl => rfl
  | tail _ hstep ih =>
      cases hstep with
      | emit payload => exact ih
      | save _ => exact ih
      | volatile hv => rw [hv.clock, ih]

end Log

/-! ## The invariants -/

/-- The runtime balances are the reducer's. -/
structure Wallet.Coherent (w : Wallet) : Prop where
  walletBalance : w.walletBalance = w.runtime.walletBalance
  realizedPnlTotal : w.realizedPnlTotal = w.runtime.realizedPnlTotal

theorem Wallet.Coherent.step {w w' : Wallet} (h : w.Coherent) (hstep : Wallet.Step w w') :
    w'.Coherent := by
  cases hstep with
  | emit payload => exact ⟨rfl, rfl⟩
  | save _ => exact ⟨h.walletBalance, h.realizedPnlTotal⟩
  | volatile hv =>
      refine ⟨?_, ?_⟩
      · rw [hv.walletBalance, hv.runtime]
        exact h.walletBalance
      · rw [hv.realizedPnlTotal, hv.runtime]
        exact h.realizedPnlTotal

theorem Wallet.Coherent.steps {w w' : Wallet} (h : w.Coherent) (hsteps : Wallet.Steps w w') :
    w'.Coherent := by
  induction hsteps with
  | refl => exact h
  | tail _ hstep ih => exact ih.step hstep

/-- A wallet is coherent from its creation, whatever it was loaded from. -/
theorem Wallet.Coherent.boot (init : WalletInit) (clock : Nat → Nat) (stores : Stores)
    (redisUp : Bool) : (Wallet.boot init clock stores redisUp).Coherent := by
  have hload : ((Wallet.blank init clock stores).loadState redisUp).Coherent := by
    unfold loadState
    split
    · exact ⟨rfl, rfl⟩
    · split
      · next loaded heq =>
          unfold loadFromDbSnapshotAndReplay at heq
          split at heq
          · simp at heq
          · rw [← Option.some.inj heq]
            exact ⟨rfl, rfl⟩
      · split
        · exact ⟨rfl, rfl⟩
        · exact ⟨rfl, rfl⟩
  unfold Wallet.boot Wallet.bootstrap
  split
  · exact ⟨rfl, rfl⟩
  · exact hload

/-- Besides, the reducer state looks like the fold of the log, and the log is
in time order and not ahead of the clock. -/
structure Wallet.Tracks (w : Wallet) : Prop extends w.Coherent where
  view : w.runtime.view = (PortfolioState.ofLog w.cfg.initialBalance w.log).view
  sorted : w.log.Pairwise (fun a b => a.ts ≤ b.ts)
  bounded : ∀ e ∈ w.log, e.ts ≤ w.nowMs

theorem PortfolioState.ofLog_append (initialBalance : Decimal) (log new : List Event) :
    PortfolioState.ofLog initialBalance (log ++ new) =
      new.foldl PortfolioState.apply (.ofLog initialBalance log) :=
  List.foldl_append

/-- One durable step keeps the invariant on a clock that does not go back. -/
theorem Wallet.Tracks.step {w w' : Wallet} (h : w.Tracks) (hclock : Monotone w.clock)
    (hstep : Wallet.Step w w') : w'.Tracks := by
  have hcoherent := h.toCoherent.step hstep
  cases hstep with
  | emit payload =>
      have hnext : w.nowMs ≤ (w.emit payload).nowMs := hclock (Nat.le_succ w.reads)
      refine ⟨hcoherent, ?_, ?_, ?_⟩
      · rw [Wallet.log_emit, PortfolioState.ofLog_append]
        exact PortfolioState.view_congruence _ _ _ h.view
      · rw [Wallet.log_emit, List.pairwise_append]
        refine ⟨h.sorted, List.pairwise_singleton _ _, ?_⟩
        intro a ha b hb
        rw [List.mem_singleton.mp hb]
        exact h.bounded a ha
      · intro e he
        rw [Wallet.log_emit, List.mem_append, List.mem_singleton] at he
        rcases he with he | rfl
        · exact (h.bounded e he).trans hnext
        · exact hnext
  | save _ =>
      have hnext : w.nowMs ≤ w.save.nowMs := hclock (Nat.le_succ w.reads)
      refine ⟨hcoherent, ?_, ?_, ?_⟩
      · rw [Wallet.log_save]
        exact w.view_runtimeWithPeaks.trans h.view
      · rw [Wallet.log_save]
        exact h.sorted
      · intro e he
        rw [Wallet.log_save] at he
        exact (h.bounded e he).trans hnext
  | volatile hv =>
      have hnext : w.nowMs ≤ w'.nowMs := by
        unfold Wallet.nowMs
        rw [hv.clock]
        exact hclock hv.reads
      refine ⟨hcoherent, ?_, ?_, ?_⟩
      · rw [hv.runtime, hv.cfg, hv.log]
        exact h.view
      · rw [hv.log]
        exact h.sorted
      · intro e he
        rw [hv.log] at he
        exact (h.bounded e he).trans hnext

theorem Wallet.Tracks.steps {w w' : Wallet} (h : w.Tracks) (hclock : Monotone w.clock)
    (hsteps : Wallet.Steps w w') : w'.Tracks := by
  induction hsteps with
  | refl => exact h
  | tail hprev hstep ih =>
      refine ih.step ?_ hstep
      rw [Wallet.Steps.clock hprev]
      exact hclock

end CryptoTrader
