import CryptoTrader.Strategies.MrState

/-!
# Reconciling the mean-reversion state at startup

What the state should say of the wallet's position after `reconcile_on_startup`, and
when it does.  A record that is open is believed when the wallet has a position, of
whichever side and quantity, and a stop order id is dropped only with a stale entry.
-/

namespace CryptoTrader

/-- The wallet's position, if it is open. -/
def openOf (walletPosition : Option EnhancedPosition) : Option EnhancedPosition :=
  walletPosition.filter (fun p => p.status = .opened)

section Reconcile

variable (float : Decimal → ℚ) (belongs : String → EnhancedPosition → Prop)

/-- The entry on record is that of the position. -/
def MRSymbolState.EntryOf (s : MRSymbolState) (p : EnhancedPosition) : Prop :=
  s.lastEntrySide = p.side.lowerValue ∧ s.lastEntryQty = float p.remainingQuantity ∧
    s.lastEntryPrice = float p.entryPrice

/-- The state has an entry exactly if the wallet has a position, with its side, quantity
and price; its stop order is the position's own; and a position without one is
noticed. -/
structure MRStateManager.Mirrors (m : MRStateManager) (position : Option EnhancedPosition) :
    Prop where
  open_iff : m.state.hasOpenEntry = true ↔ position.isSome = true
  entry : ∀ p, position = some p → m.state.EntryOf float p
  stop : m.state.stopOrderId ≠ "" → ∃ p, position = some p ∧ belongs m.state.stopOrderId p
  missing : ∀ p, position = some p → ¬ belongs m.state.stopOrderId p → m.missingStopOrder = true

/-- An entry on record is that of the open position, if there is one, and a stop order
on record is the position's own; without a position there is none but with an entry. -/
def MRSymbolState.Reconcilable (s : MRSymbolState) : Option EnhancedPosition → Prop
  | none => s.hasOpenEntry = true ∨ s.stopOrderId = ""
  | some p =>
      (s.hasOpenEntry = true → s.EntryOf float p) ∧ (s.stopOrderId ≠ "" → belongs s.stopOrderId p)

variable {float belongs} {m : MRStateManager} {s : MRSymbolState} {p : EnhancedPosition}

theorem PositionSide.lowerValue_ne_empty (side : PositionSide) : side.lowerValue ≠ "" := by
  cases side <;> decide

/-- A state with the entry of a position mirrors it up to the stop order. -/
theorem MRStateManager.mirrors_some_iff (hopen : m.state.hasOpenEntry = true) :
    m.Mirrors float belongs (some p) ↔
      m.state.EntryOf float p ∧ (m.state.stopOrderId ≠ "" → belongs m.state.stopOrderId p) := by
  constructor
  · intro h
    refine ⟨h.entry p rfl, fun hstop => ?_⟩
    obtain ⟨q, hq, hbelongs⟩ := h.stop hstop
    rw [Option.some.inj hq]
    exact hbelongs
  · rintro ⟨hentry, hstop⟩
    refine ⟨iff_of_true hopen rfl, ?_, fun hne => ⟨p, rfl, hstop hne⟩, ?_⟩
    · intro q hq
      rw [← Option.some.inj hq]
      exact hentry
    · intro q hq hforeign
      rw [← Option.some.inj hq] at hforeign
      have hnone : m.state.stopOrderId = "" := not_not.mp (fun hne => hforeign (hstop hne))
      simp [missingStopOrder, hopen, hnone]

/-- A state without an entry mirrors a flat wallet up to the stop order. -/
theorem MRStateManager.mirrors_none_iff (hflat : m.state.hasOpenEntry = false) :
    m.Mirrors float belongs none ↔ m.state.stopOrderId = "" := by
  constructor
  · intro h
    by_contra hne
    obtain ⟨q, hq, -⟩ := h.stop hne
    cases hq
  · intro hnone
    exact ⟨by simp [hflat], fun q hq => (by cases hq), fun hne => absurd hnone hne,
      fun q hq => by cases hq⟩

/-- After the reconciliation the state mirrors the wallet exactly if the file was
reconcilable with it. -/
theorem MRStateManager.reconcile_mirrors_iff (float : Decimal → ℚ)
    (belongs : String → EnhancedPosition → Prop) (m : MRStateManager)
    (walletPosition : Option EnhancedPosition) :
    (m.reconcileOnStartup float walletPosition).2.Mirrors float belongs (openOf walletPosition) ↔
      m.stored.Reconcilable float belongs (openOf walletPosition) := by
  unfold reconcileOnStartup openOf
  cases walletPosition.filter (fun p => p.status = .opened) with
  | none =>
      dsimp only [MRSymbolState.Reconcilable]
      rw [state_load]
      by_cases hopen : m.stored.hasOpenEntry = true
      · -- the stale entry is cleared, with its stop order
        rw [if_pos hopen, mirrors_none_iff rfl]
        exact iff_of_true rfl (Or.inl hopen)
      · rw [if_neg hopen, mirrors_none_iff (by simpa using hopen)]
        exact (or_iff_right hopen).symm
  | some p =>
      dsimp only [MRSymbolState.Reconcilable]
      rw [state_load]
      by_cases hopen : m.stored.hasOpenEntry = true
      · -- both are open: nothing is compared
        rw [if_pos hopen, forall_prop_of_true hopen]
        exact mirrors_some_iff hopen
      · rw [if_neg hopen, forall_prop_of_false hopen]
        refine Iff.trans (mirrors_some_iff ?_)
          (and_congr_left (fun _ => iff_of_true ⟨rfl, rfl, rfl⟩ trivial))
        simp [MRSymbolState.hasOpenEntry, p.side.lowerValue_ne_empty]

end Reconcile

/-- The file of a long of which the wallet never heard. -/
def staleManager : MRStateManager :=
  { symbol := "ETHUSDT"
    file := some
      { symbol := "ETHUSDT", lastEntrySide := "long", lastEntryPrice := 2510,
        lastEntryQty := 1 / 20, stopOrderId := "stop-1" } }

/-- The wallet is short of two. -/
def shortPosition : EnhancedPosition :=
  { symbol := ⟨"ETHUSDT", by decide⟩
    side := .short
    playbook := .intraday
    entryPrice := 2600
    originalQuantity := 2
    remainingQuantity := 2
    notional := 5200
    marginUsed := 520
    leverage := 10
    openTime := 0
    slPrice := 2650
    tpLevels := [] }

/-- The reconciliation calls it consistent. -/
theorem reconcile_believes_stale :
    ¬ ∀ (float : Decimal → ℚ) (belongs : String → EnhancedPosition → Prop) (m : MRStateManager)
      (walletPosition : Option EnhancedPosition),
      (m.reconcileOnStartup float walletPosition).2.Mirrors float belongs
        (openOf walletPosition) := by
  intro h
  have hside := ((h id (fun _ _ => False) staleManager (some shortPosition)).entry
    shortPosition rfl).1
  have hlong : (staleManager.reconcileOnStartup id (some shortPosition)).2.state.lastEntrySide =
      "long" := rfl
  rw [hlong] at hside
  exact absurd hside (by decide)

end CryptoTrader
