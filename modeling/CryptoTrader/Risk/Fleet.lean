import CryptoTrader.Reconcile.Sourcing
import CryptoTrader.Risk.KillSwitch

/-!
# The risk managers of the fleet

`main` of `multi_engine.py` constructs one `RiskManager` and installs it on every
engine after the engine has been constructed.  The engine's constructor has made
a `RiskManager` of its own by then, and that is the one its reconciler keeps.
All of them save their whole state to one file.
-/

namespace CryptoTrader.Risk

open CryptoTrader.Lib

/-- The message of `reconcile_symbol`; `str` shows a quantity. -/
def haltMessage (str : Decimal → String) : HaltReason → String
  | .phantomPosition exQty symbol =>
      let quantity := str exQty
      let name := symbol.name
      s!"Phantom position detected on exchange: {quantity} {name}. Local state is FLAT."
  | .missingPosition localQty symbol =>
      let quantity := str localQty
      let name := symbol.name
      s!"Missing position on exchange: expected {quantity} {name}, but exchange is FLAT."
  | .sizeDesync exQty localQty symbol =>
      let quantity := str exQty
      let expected := str localQty
      let name := symbol.name
      s!"Position size desync: exchange={quantity} local={expected} {name}. Halting for safety."
  | .missingStop symbol =>
      let name := symbol.name
      s!"Missing venue stop-loss for open {name} position; recreation failed."

/-- The state file, the shared manager, and the manager that each engine's
reconciler was constructed with.  `desynced` notes that a `reconcile_symbol` has
returned False since the switch was last cleared, `admitted` that some
`can_trade` has returned True in spite of that. -/
structure Fleet where
  file : Option RiskState
  shared : RiskManager
  own : ℕ → Option RiskManager := fun _ => none
  desynced : Bool := false
  admitted : Bool := false

/-- An engine uses the shared manager, or restarts with the process; an engine
is constructed; or an engine reconciles its symbol, on whatever the wallet is
then. -/
inductive FleetStep where
  | risk (a : RiskStep)
  | build (engine : ℕ) (limits : RiskLimits)
  | reconcile (engine : ℕ) (env : Env) (world : World) (reading : SymbolReading) (symbol : Symbol)

namespace Fleet

/-- The shared manager with the file. -/
def session (s : Fleet) : RiskSession := { manager := s.shared, file := s.file }

/-- A step of the shared manager; a restart ends the engines. -/
def risk (s : Fleet) (a : RiskStep) : Fleet :=
  let after := s.session.step a
  let s := { s with file := after.file, shared := after.manager }
  match a with
  | .clearKillSwitch => { s with desynced := false }
  | .restart _ => { s with own := fun _ => none }
  | _ => s

/-- `can_trade` of an engine. -/
def canTrade (s : Fleet) (today : Day) (now : Time) (q : TradeQuery) : Fleet :=
  { s.risk (.canTrade today now q) with
    admitted := s.admitted || (s.desynced && (s.session.canTrade today now q).1.1) }

/-- `reconcile_symbol` of an engine's reconciler. -/
def reconcile (str : Decimal → String) (s : Fleet) (engine : ℕ) (manager : RiskManager) (env : Env)
    (world : World) (reading : SymbolReading) (symbol : Symbol) : Fleet :=
  match reconcileSymbol env reading symbol world with
  | .ok (some reason) _ =>
      let halted := RiskSession.triggerKillSwitch { manager := manager, file := s.file }
        (haltMessage str reason)
      { s with
        file := halted.file
        own := Function.update s.own engine (some halted.manager)
        desynced := true }
  | _ => s

def step (str : Decimal → String) (s : Fleet) : FleetStep → Fleet
  | .risk (.canTrade today now q) => s.canTrade today now q
  | .risk a => s.risk a
  | .build engine limits =>
      { s with
        own := Function.update s.own engine (some (RiskSession.construct limits s.file).manager) }
  | .reconcile engine env world reading symbol =>
      match s.own engine with
      | none => s
      | some manager => s.reconcile str engine manager env world reading symbol

/-- The process just started. -/
def start (limits : RiskLimits) (file : Option RiskState) : Fleet :=
  { file := file, shared := (RiskSession.construct limits file).manager }

end Fleet

/-- The step neither asks the manager nor saves it with its switch as it is. -/
def RiskStep.Idle : RiskStep → Prop
  | .applyOverrides _ | .triggerKillSwitch _ | .clearKillSwitch | .restart _ => True
  | _ => False

/-- `DISABLE_RISK_HALT` is not set, and after a desync the shared manager, as long
as its own switch is not set, stays idle. -/
def Fleet.Stopped (s : Fleet) : FleetStep → Prop
  | .risk a =>
      (a = .clearKillSwitch ∨ a.KeepsLatch) ∧
        (s.desynced = true → s.shared.killSwitch = false → a.Idle)
  | _ => True

/-! ## The file keeps the halt -/

namespace Fleet

/-- After a desync the file has the switch set, and nobody has been admitted. -/
structure Halting (s : Fleet) : Prop where
  enabled : s.shared.limits.disabled = false
  saved : s.desynced = true → ∃ state, s.file = some state ∧ state.killSwitch = true
  admitted : s.admitted = false

section Steps

variable {s : Fleet} {str : Decimal → String}

/-- Where the shared manager's switch is set as well, it is latched. -/
theorem Halting.latched (h : s.Halting) (hdesynced : s.desynced = true)
    (hswitch : s.shared.killSwitch = true) : s.session.Latched :=
  ⟨hswitch, h.saved hdesynced, h.enabled⟩

/-- An idle manager leaves the file's switch set, or is cleared. -/
theorem Halting.idle (h : s.Halting) (hdesynced : s.desynced = true) {a : RiskStep}
    (ha : a.Idle) (hclear : a ≠ .clearKillSwitch) :
    ∃ state, (s.session.step a).file = some state ∧ state.killSwitch = true := by
  cases a with
  | applyOverrides ov => exact h.saved hdesynced
  | triggerKillSwitch reason => exact ⟨_, rfl, rfl⟩
  | clearKillSwitch => exact absurd rfl hclear
  | restart limits => exact h.saved hdesynced
  | canTrade today now q => exact ha.elim
  | recordOpen today now => exact ha.elim
  | recordClose today now netPnl currentBalance => exact ha.elim
  | updatePeakBalance currentBalance => exact ha.elim
  | resetConsecutiveLosses => exact ha.elim

theorem risk_shared (s : Fleet) (a : RiskStep) : (s.risk a).shared = (s.session.step a).manager := by
  cases a <;> rfl

theorem risk_file (s : Fleet) (a : RiskStep) : (s.risk a).file = (s.session.step a).file := by
  cases a <;> rfl

theorem risk_admitted (s : Fleet) (a : RiskStep) : (s.risk a).admitted = s.admitted := by
  cases a <;> rfl

/-- Clearing the switch is what ends a desync. -/
theorem risk_desynced (s : Fleet) (a : RiskStep) (h : (s.risk a).desynced = true) :
    s.desynced = true ∧ a ≠ .clearKillSwitch := by
  by_cases hclear : a = .clearKillSwitch
  · subst hclear
    exact absurd h Bool.false_ne_true
  · refine ⟨?_, hclear⟩
    cases a with
    | clearKillSwitch => exact absurd rfl hclear
    | _ => exact h

theorem Halting.risk (h : s.Halting) {a : RiskStep} (ha : s.Stopped (.risk a)) :
    (s.risk a).Halting where
  enabled := by
    rw [risk_shared]
    exact RiskSession.step_enabled h.enabled ha.1
  saved hafter := by
    obtain ⟨hdesynced, hclear⟩ := risk_desynced s a hafter
    rw [risk_file]
    cases hswitch : s.shared.killSwitch with
    | true =>
        have hkeeps : a.KeepsLatch := ha.1.resolve_left hclear
        exact ((h.latched hdesynced hswitch).step hkeeps).saved
    | false => exact h.idle hdesynced (ha.2 hdesynced hswitch) hclear
  admitted := (risk_admitted s a).trans h.admitted

/-- An engine that asks after a desync asks a latched manager. -/
theorem Halting.canTrade (h : s.Halting) {today : Day} {now : Time} {q : TradeQuery}
    (ha : s.Stopped (.risk (.canTrade today now q))) : (s.canTrade today now q).Halting := by
  have hrisk := h.risk ha
  refine ⟨hrisk.enabled, hrisk.saved, ?_⟩
  show (s.admitted || (s.desynced && (s.session.canTrade today now q).1.1)) = false
  rw [h.admitted, Bool.false_or]
  cases hdesynced : s.desynced with
  | false => rfl
  | true =>
      cases hswitch : s.shared.killSwitch with
      | true => exact (h.latched hdesynced hswitch).canTrade today now q
      | false => exact (ha.2 hdesynced hswitch).elim

/-- A reconciler that halts saves its own manager, with the switch set. -/
theorem Halting.reconcile (h : s.Halting) (engine : ℕ) (manager : RiskManager) (env : Env)
    (world : World) (reading : SymbolReading) (symbol : Symbol) :
    (s.reconcile str engine manager env world reading symbol).Halting := by
  unfold Fleet.reconcile
  split
  · exact ⟨h.enabled, fun _ => ⟨_, rfl, rfl⟩, h.admitted⟩
  · exact h

theorem Halting.step (h : s.Halting) {a : FleetStep} (ha : s.Stopped a) : (s.step str a).Halting := by
  cases a with
  | risk a =>
      cases a with
      | canTrade today now q => exact h.canTrade ha
      | _ => exact h.risk ha
  | build engine limits => exact ⟨h.enabled, h.saved, h.admitted⟩
  | reconcile engine env world reading symbol =>
      simp only [Fleet.step]
      cases s.own engine with
      | none => exact h
      | some manager => exact h.reconcile engine manager env world reading symbol

end Steps

/-- Once a reconciler has returned False no engine is let through, also after a
restart, in a run in which the shared manager stays idle from a desync that it
does not know of until the restart, a trigger of its own, or the clearing. -/
theorem desync_halts (str : Decimal → String) (limits : RiskLimits) (file : Option RiskState)
    (henabled : limits.disabled = false) (s : Fleet)
    (h : Reaches (step str) Stopped (start limits file) s) : s.admitted = false := by
  have hstart : (start limits file).Halting :=
    ⟨henabled, fun hdesynced => absurd hdesynced Bool.false_ne_true, rfl⟩
  have hhalting : s.Halting := h.invariant hstart (fun _ _ hs ha => hs.step ha)
  exact hhalting.admitted

/-! ### A desync, with and without a restart -/

/-- A position of the venue that the wallet does not have. -/
def demoPhantom : FleetStep := .reconcile 0 demoEnv demoWorld (demoReading 10) demoSymbol

theorem demoRestart_halts :
    (([.build 0 {}, demoPhantom, .risk (.restart {}), .risk (.canTrade 0 0 {})] :
      List FleetStep).foldl (step (fun _ => "")) (start {} none)).admitted = false :=
  desync_halts (fun _ => "") {} none rfl _ (Reaches.start.foldl _
    ⟨trivial, trivial, ⟨Or.inr rfl, fun _ _ => trivial⟩,
      ⟨Or.inr trivial, fun _ hswitch => absurd hswitch (by decide +kernel)⟩, trivial⟩)

/-- The engine that asks next is let through. -/
theorem not_desync_halts_next :
    ¬ ∀ (str : Decimal → String) (limits : RiskLimits) (file : Option RiskState)
      (steps : List FleetStep), limits.disabled = false →
      (steps.foldl (step str) (start limits file)).admitted = false := by
  intro h
  have hadmitted := h (fun _ => "") {} none [.build 0 {}, demoPhantom, .risk (.canTrade 0 0 {})] rfl
  exact absurd hadmitted (by decide +kernel)

end Fleet

end CryptoTrader.Risk
