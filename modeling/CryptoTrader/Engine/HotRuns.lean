import CryptoTrader.Engine.HotConfig
import CryptoTrader.Lib.Run

/-!
# Runs of the hot configuration

Signal ticks interleaved with changes of the two files and of the position.  While the
symbol is in a position no strategy and no flat-only parameter changes.  Once the files
have stopped changing, a tick at which the symbol is flat is to leave the base
configuration with the current champion and the current overrides in force.
-/

namespace CryptoTrader

open CryptoTrader.Lib

/-! ## Overrides on the configuration -/

namespace HotEngine

variable {s : HotSetup} {e : HotEngine}

theorem setattr_eq (e : HotEngine) (item : String × ConfigValue) : e.setattr item =
    { e with
      base := if e.own.isNone then e.base.assign item.1 item.2 else e.base
      own := e.own.map (fun cfg => cfg.assign item.1 item.2) } := by
  unfold setattr
  cases e.own with
  | none => rfl
  | some cfg => rfl

/-- A list of overrides taking effect. -/
theorem foldl_applyOverride (e : HotEngine) (l : List (String × ConfigValue)) :
    l.foldl (applyOverride s) e =
      { e with
        base := if e.own.isNone then e.base.assignAll l else e.base
        own := e.own.map (fun cfg => cfg.assignAll l)
        playbook := l.foldl (fun p item => p.applyOverride s item) e.playbook } := by
  induction l generalizing e with
  | nil => cases h : e.own <;> simp [← h]
  | cons item rest ih =>
      rw [List.foldl_cons, ih, applyOverride, setattr_eq]
      cases h : e.own <;> simp

theorem cfg_foldl_applyOverride (e : HotEngine) (l : List (String × ConfigValue)) :
    (l.foldl (applyOverride s) e).cfg = e.cfg.assignAll l := by
  rw [foldl_applyOverride]
  cases h : e.own <;> simp [cfg, h]

/-- The safe overrides of a changed file take effect and the flat-only ones wait. -/
theorem foldl_takeOverride (e : HotEngine) (l : List (String × ConfigValue)) :
    l.foldl (takeOverride s) e =
      { (l.filter (fun item => classify item.1 = .safe)).foldl (applyOverride s) e with
        pendingFlatOverrides := e.pendingFlatOverrides.setAll
          (l.filter (fun item => classify item.1 = .flatOnly)) } := by
  induction l generalizing e with
  | nil => rfl
  | cons item rest ih =>
      rw [List.foldl_cons, ih]
      cases hclass : classify item.1 with
      | safe => simp [takeOverride, hclass, applyOverride, setattr_eq]
      | flatOnly => simp [takeOverride, hclass, foldl_applyOverride, Dict.setAll]
      | restart => simp [takeOverride, hclass]
      | unknown => simp [takeOverride, hclass]

/-- The flat-only overrides that wait after a poll. -/
def deferred (e : HotEngine) (file : Option OverridesFile) : Dict String ConfigValue :=
  e.pendingFlatOverrides.setAll
    ((e.polled file).filter (fun item => classify item.1 = .flatOnly))

/-- The overrides that take effect on a tick. -/
def tickOverrides (e : HotEngine) (file : Option OverridesFile) (inPosition : Bool) :
    List (String × ConfigValue) :=
  (e.polled file).filter (fun item => classify item.1 = .safe) ++
    if inPosition then [] else (e.deferred file).entries

theorem applyRuntimeOverrides_eq (e : HotEngine) (file : Option OverridesFile) (inPosition : Bool) :
    e.applyRuntimeOverrides s file inPosition =
      { (e.tickOverrides file inPosition).foldl (applyOverride s) e with
        store := (e.store.poll file).1
        pendingFlatOverrides := if inPosition then e.deferred file else Dict.empty } := by
  have htaken : (e.polled file).foldl (takeOverride s) { e with store := (e.store.poll file).1 } =
      { ((e.polled file).filter (fun item => classify item.1 = .safe)).foldl (applyOverride s) e with
        store := (e.store.poll file).1
        pendingFlatOverrides := e.deferred file } := by
    rw [foldl_takeOverride, foldl_applyOverride, foldl_applyOverride]
    rfl
  unfold applyRuntimeOverrides
  rw [htaken]
  cases inPosition with
  | true => simp [tickOverrides]
  | false =>
      by_cases hempty : (e.deferred file).entries = []
      · have hnil : e.deferred file = Dict.empty := Dict.ext hempty
        simp [tickOverrides, hnil, Dict.empty]
      · simp only [hempty, if_false, Bool.false_eq_true, tickOverrides, List.foldl_append,
          foldl_applyOverride]

end HotEngine

/-! ## The system -/

/-- The engine, the two files and the position of its symbol.  `settled` says that no
file has changed since a tick at which the symbol was flat. -/
structure HotWorld where
  engine : HotEngine
  champions : Option ChampionsFile
  overrides : Option OverridesFile
  inPosition : Bool
  settled : Bool := false

/-- A file is written or deleted, a position opened or closed, or there is a signal
tick. -/
inductive HotEvent where
  | champions (file : Option ChampionsFile)
  | overrides (file : Option OverridesFile)
  | position (inPosition : Bool)
  | tick
  deriving DecidableEq

/-- The overrides of a file that are taken, on a configuration. -/
def Config.withOverrides (cfg : Config) (d : Dict String ConfigValue) : Config :=
  cfg.assignAll (d.entries.filter (fun item => Overridable item.1))

namespace HotWorld

variable (s : HotSetup) (w : HotWorld)

def step (w : HotWorld) : HotEvent → HotWorld
  | .champions file => { w with champions := file, settled := false }
  | .overrides file => { w with overrides := file, settled := false }
  | .position inPosition => { w with inPosition := inPosition }
  | .tick =>
      { w with
        engine := w.engine.signalTick s w.champions w.overrides w.inPosition
        settled := w.settled || !w.inPosition }

/-- The engine starts on the files as they are. -/
def start (champions : Option ChampionsFile) (overrides : Option OverridesFile)
    (inPosition : Bool) : HotWorld :=
  { engine := s.boot champions
    champions := champions
    overrides := overrides
    inPosition := inPosition }

/-! ## What the configuration is to be -/

/-- The current champion entry; without champions routing there is none. -/
def champion : Option Champion :=
  if s.useStrategyChampions then championFor s.symbol w.champions else none

/-- The current overrides. -/
def currentOverrides : Dict String ConfigValue := w.engine.store.current w.overrides

/-- The base configuration with the champion and the overrides applied. -/
def target : Config :=
  Config.withOverrides (resolveChampion (w.champion s) s.base) w.currentOverrides

/-- It is the configuration in force, and the playbook is the one built from it. -/
structure InForce : Prop where
  cfg : w.engine.cfg = w.target s
  playbook : w.engine.playbook = initStrategyPlaybooks s (w.target s)

/-- A step leaves the strategy and the flat-only parameters in force. -/
structure Frozen (e e' : HotEngine) : Prop where
  mode : e'.cfg "strategy_mode" = e.cfg "strategy_mode"
  playbook : e'.playbook.mode = e.playbook.mode
  params : ∀ k, classify k = .flatOnly →
    e'.cfg k = e.cfg k ∧ e'.playbook.params k = e.playbook.params k

/-- In a position nothing but safe parameters changes, whatever happens next; and the
configuration that is to be in force is, from the tick on at which the symbol was flat
after the last change of a file. -/
structure Converges : Prop where
  frozen : ∀ event, w.inPosition → Frozen w.engine (w.step s event).engine
  inForce : w.settled → w.InForce s

end HotWorld

/-! ## In a position -/

section Frozen

variable {s : HotSetup}

theorem StrategyPlaybook.mode_applyOverride (p : StrategyPlaybook) (item : String × ConfigValue) :
    (p.applyOverride s item).mode = p.mode := by
  unfold applyOverride
  split
  · split <;> rfl
  · rfl

theorem StrategyPlaybook.params_applyOverride_ne (p : StrategyPlaybook)
    {item : String × ConfigValue} {k : String} (h : k ≠ item.1) :
    (p.applyOverride s item).params k = p.params k := by
  unfold applyOverride
  split
  · split
    · exact Attributes.assign_ne _ h
    · rfl
  · rfl

/-- What a list of overrides does not name stays in the playbook. -/
theorem StrategyPlaybook.foldl_applyOverride (p : StrategyPlaybook)
    (l : List (String × ConfigValue)) :
    (l.foldl (fun p item => p.applyOverride s item) p).mode = p.mode ∧
      ∀ k, k ∉ l.map Prod.fst →
        (l.foldl (fun p item => p.applyOverride s item) p).params k = p.params k := by
  induction l generalizing p with
  | nil => exact ⟨rfl, fun _ _ => rfl⟩
  | cons item rest ih =>
      obtain ⟨hmode, hparams⟩ := ih (p.applyOverride s item)
      refine ⟨hmode.trans (p.mode_applyOverride item), fun k hk => ?_⟩
      rw [List.map_cons, List.mem_cons, not_or] at hk
      exact (hparams k hk.2).trans (p.params_applyOverride_ne hk.1)

theorem HotWorld.Frozen.refl (e : HotEngine) : HotWorld.Frozen e e :=
  ⟨rfl, rfl, fun _ _ => ⟨rfl, rfl⟩⟩

/-- The overrides of a tick in a position are the safe ones. -/
theorem HotEngine.safe_of_mem_tickOverrides {e : HotEngine} {file : Option OverridesFile}
    {k : String} (h : k ∈ (e.tickOverrides file true).map Prod.fst) : classify k = .safe := by
  simp only [tickOverrides, if_true, List.append_nil, List.mem_map, List.mem_filter,
    decide_eq_true_eq] at h
  obtain ⟨item, ⟨_, hsafe⟩, rfl⟩ := h
  exact hsafe

/-- In a position a champion is put off. -/
theorem HotEngine.refreshChampion_inPosition (e : HotEngine) (file : Option ChampionsFile) :
    (e.refreshChampion s file true).cfg = e.cfg ∧
      (e.refreshChampion s file true).playbook = e.playbook := by
  unfold refreshChampion
  split
  · split
    · exact ⟨rfl, rfl⟩
    · simp only [if_true]
      split <;> exact ⟨rfl, rfl⟩
  · exact ⟨rfl, rfl⟩

theorem HotEngine.signalTick_frozen (e : HotEngine) (champions : Option ChampionsFile)
    (overrides : Option OverridesFile) :
    HotWorld.Frozen e (e.signalTick s champions overrides true) := by
  obtain ⟨hcfg, hplaybook⟩ :=
    (e.applyRuntimeOverrides s overrides true).refreshChampion_inPosition champions (s := s)
  have hruntime : (e.applyRuntimeOverrides s overrides true).cfg =
      e.cfg.assignAll (e.tickOverrides overrides true) := by
    rw [applyRuntimeOverrides_eq]
    exact cfg_foldl_applyOverride e _
  have htold : (e.applyRuntimeOverrides s overrides true).playbook =
      (e.tickOverrides overrides true).foldl (fun p item => p.applyOverride s item) e.playbook := by
    rw [applyRuntimeOverrides_eq, foldl_applyOverride]
  have hnot : ∀ k, classify k ≠ .safe → k ∉ (e.tickOverrides overrides true).map Prod.fst :=
    fun k hk hmem => hk (safe_of_mem_tickOverrides hmem)
  obtain ⟨hmode, hparams⟩ := e.playbook.foldl_applyOverride (s := s) (e.tickOverrides overrides true)
  unfold signalTick
  constructor
  · rw [hcfg, hruntime]
    exact Attributes.assignAll_of_not_mem _ (hnot _ (by decide +kernel))
  · rw [hplaybook, htold, hmode]
  · intro k hk
    have hne : classify k ≠ .safe := by rw [hk]; decide
    rw [hcfg, hruntime, hplaybook, htold]
    exact ⟨Attributes.assignAll_of_not_mem _ (hnot k hne), hparams k (hnot k hne)⟩

theorem HotWorld.frozen_step (w : HotWorld) (event : HotEvent) (h : w.inPosition) :
    Frozen w.engine (w.step s event).engine := by
  cases event with
  | tick =>
      have htick := w.engine.signalTick_frozen (s := s) w.champions w.overrides
      rw [← h] at htick
      exact htick
  | _ => exact Frozen.refl w.engine

end Frozen

end CryptoTrader
