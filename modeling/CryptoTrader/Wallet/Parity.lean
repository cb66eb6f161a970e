import CryptoTrader.Wallet.Ledger

/-!
# Event-sourcing parity

`assert_runtime_matches_replay` promises that the runtime state matches a
full replay of the log.  The runtime applies every event it emits; the replay
skips an event whose JSON repeats an earlier one.
-/

namespace CryptoTrader

open CryptoTrader.Lib

/-- The runtime reducer state shows what a replay of the log shows. -/
def Wallet.InParity (w : Wallet) : Prop :=
  (w.stores.replayPortfolioState w.cfg.initialBalance).map PortfolioState.view =
    some w.runtime.view

instance (w : Wallet) : Decidable w.InParity := by
  unfold Wallet.InParity
  infer_instance

/-- The rows an operation appends to the event table. -/
def Operation.appended (w : Wallet) (op : Operation) : List Event :=
  (op.run w).log.drop w.log.length

/-- Whenever the operation appends an event that equals, ms stamp included, an
earlier row, applying it changes nothing that is compared. -/
def Operation.RepeatsHarmless (w : Wallet) (op : Operation) : Prop :=
  EventLog.RepeatsHarmless PortfolioState.apply PortfolioState.view w.log w.runtime
    (op.appended w)

instance (w : Wallet) (op : Operation) : Decidable (Operation.RepeatsHarmless w op) := by
  unfold Operation.RepeatsHarmless
  infer_instance

/-- What happened between two states of a wallet appended no harmful repeat. -/
def Wallet.AppendsHarmlessly (w w' : Wallet) : Prop :=
  EventLog.RepeatsHarmless PortfolioState.apply PortfolioState.view w.log w.runtime
    (w'.log.drop w.log.length)

instance (w w' : Wallet) : Decidable (w.AppendsHarmlessly w') := by
  unfold Wallet.AppendsHarmlessly
  infer_instance

/-- The log of a run so far holds only harmless repeats. -/
def Wallet.HarmlessLog (w : Wallet) : Prop :=
  EventLog.RepeatsHarmless PortfolioState.apply PortfolioState.view []
    (.initial w.cfg.initialBalance) w.log

/-- Parity, once the log is followed and its repeats are harmless. -/
theorem Wallet.Tracks.inParity {w : Wallet} (h : w.Tracks) (hlog : w.log ≠ [])
    (hharm : w.HarmlessLog) : w.InParity := by
  have hiter : w.stores.iterEvents = w.log := by
    have hevents : w.stores.events ≠ [] := hlog
    rw [Stores.iterEvents, if_neg hevents]
    exact Stores.eventRows_of_sorted h.sorted
  have hreplay : w.stores.replayPortfolioState w.cfg.initialBalance =
      some ((EventLog.firsts [] w.log).foldl PortfolioState.apply
        (.initial w.cfg.initialBalance)) := by
    rw [Stores.replayPortfolioState, hiter]
    refine EventLog.guardedReplay_eq _ _ w.log h.sorted (-1) [] _ (fun e _ => ?_)
    omega
  rw [InParity, hreplay, Option.map_some, h.view]
  exact congrArg some
    (PortfolioState.view_congruence.foldl_firsts w.log [] _ _ rfl hharm)

/-- What a run of harmless operations keeps. -/
structure Wallet.ParityInv (w : Wallet) : Prop where
  clock : Monotone w.clock
  tracks : w.Tracks
  started : w.log ≠ []
  harmless : w.HarmlessLog

theorem Wallet.ParityInv.boot (init : WalletInit) {clock : Nat → Nat} (hclock : Monotone clock)
    (redisUp : Bool) : (Wallet.boot init clock {} redisUp).ParityInv := by
  have hblank : (Wallet.blank init clock {}).Tracks :=
    { view := rfl
      sorted := List.Pairwise.nil
      bounded := fun e he => absurd he (List.not_mem_nil)
      walletBalance := rfl
      realizedPnlTotal := rfl }
  rw [Wallet.boot_empty]
  refine ⟨hclock, hblank.step hclock (.emit _ _), ?_, ?_⟩
  · rw [Wallet.log_emit]
    exact List.append_ne_nil_of_right_ne_nil _ (List.cons_ne_nil _ _)
  · exact ⟨fun hmem => absurd hmem (List.not_mem_nil), trivial⟩

theorem Wallet.ParityInv.steps {w w' : Wallet} (h : w.ParityInv) (hsteps : Wallet.Steps w w')
    (hharm : w.AppendsHarmlessly w') : w'.ParityInv := by
  obtain ⟨new, hlog⟩ := hsteps.log_extends
  have hnew := hharm
  rw [AppendsHarmlessly, hlog, List.drop_left] at hnew
  refine ⟨?_, h.tracks.steps h.clock hsteps, ?_, ?_⟩
  · rw [hsteps.clock]
    exact h.clock
  · rw [hlog]
    exact List.append_ne_nil_of_left_ne_nil h.started _
  · have hview := PortfolioState.view_congruence.repeatsHarmless_congr _ _ h.tracks.view hnew
    rw [HarmlessLog, hlog, hsteps.cfg, EventLog.repeatsHarmless_append]
    exact ⟨h.harmless, hview⟩

theorem Wallet.ParityInv.run {w : Wallet} (h : w.ParityInv) (op : Operation)
    (hop : op.RepeatsHarmless w) : (op.run w).ParityInv :=
  h.steps (Operation.run_steps w op) hop

/-- In every run on a clock that never goes back, as long as no operation
appends a harmful repeat, the runtime matches the replay after each one. -/
theorem Wallet.inParity_of_reaches (init : WalletInit) (clock : Nat → Nat)
    (hclock : Monotone clock) (redisUp : Bool) (w : Wallet)
    (hrun : Reaches Operation.run Operation.RepeatsHarmless
      (Wallet.boot init clock {} redisUp) w) : w.InParity := by
  have hinv : w.ParityInv :=
    hrun.invariant (.boot init hclock redisUp) (fun _ op h hop => h.run op hop)
  exact hinv.tracks.inParity hinv.started hinv.harmless

/-! ### A run with and without the repeat -/

/-- Two funding payments one millisecond apart. -/
theorem Wallet.inParity_of_reaches_funding :
    ([Operation.adoptVenuePosition demoAdoption, .applyFunding demoSymbol (1 / 1000),
      .applyFunding demoSymbol (1 / 1000)].foldl Operation.run
        (Wallet.boot demoInit (fun n => n) {} false)).InParity :=
  Wallet.inParity_of_reaches demoInit (fun n => n) monotone_id false _
    (Reaches.foldl _ .start
      ⟨by decide +kernel, by decide +kernel, by decide +kernel, trivial⟩)

/-- Two equal funding payments within one millisecond: the runtime pays both,
the replay one. -/
theorem Wallet.not_inParity_of_repeat :
    ¬ ∀ (init : WalletInit) (clock : Nat → Nat), Monotone clock → ∀ (redisUp : Bool)
        (ops : List Operation),
        (ops.foldl Operation.run (Wallet.boot init clock {} redisUp)).InParity := by
  intro h
  have hrun := h demoInit (fun _ => 1000) monotone_const false
    [.adoptVenuePosition demoAdoption, .applyFunding demoSymbol (1 / 1000),
      .applyFunding demoSymbol (1 / 1000)]
  revert hrun
  decide +kernel

end CryptoTrader
