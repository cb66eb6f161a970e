import CryptoTrader.Engine.HotConverge

/-!
# Champions, and the runs that converge

A tick comes to apply a champion when one was put off or the file names another one.  Then
the copy of the base replaces the configuration, overrides included.
-/

namespace CryptoTrader

open CryptoTrader.Lib

/-! ## Refreshing the champion -/

/-- `_refresh_champion` comes to a change: the file was not seen before and names another
champion, or one was put off. -/
def HotEngine.Due (s : HotSetup) (e : HotEngine) (f : ChampionsFile) : Prop :=
  ¬ (e.championsMtime = some f.mtime ∧ e.pendingChampion = none) ∧
    ¬ (e.sig = some (championSig (championFor s.symbol (some f))) ∧ e.pendingChampion = none)

instance (s : HotSetup) (e : HotEngine) (f : ChampionsFile) : Decidable (e.Due s f) :=
  inferInstanceAs (Decidable (_ ∧ _))

namespace HotEngine

variable {s : HotSetup} {e : HotEngine} {f : ChampionsFile} {inPosition : Bool}
  {champ target : Option Champion} {d : Dict String ConfigValue}

theorem refreshChampion_none {file : Option ChampionsFile}
    (h : s.useStrategyChampions = true → file = none) :
    e.refreshChampion s file inPosition = e := by
  cases huse : s.useStrategyChampions with
  | false => simp [refreshChampion, huse]
  | true => simp [refreshChampion, h huse]

section Routing

variable (huse : s.useStrategyChampions = true)

include huse

theorem refreshChampion_of_not_due (h : ¬ e.Due s f) :
    e.refreshChampion s (some f) inPosition = { e with championsMtime := some f.mtime } ∧
      e.pendingChampion = none := by
  unfold refreshChampion
  simp only [huse]
  by_cases hseen : e.championsMtime = some f.mtime ∧ e.pendingChampion = none
  · rw [if_pos hseen, ← hseen.1]
    exact ⟨rfl, hseen.2⟩
  · by_cases hsame : e.sig = some (championSig (championFor s.symbol (some f))) ∧
        e.pendingChampion = none
    · rw [if_neg hseen, if_pos hsame]
      exact ⟨rfl, hsame.2⟩
    · exact absurd ⟨hseen, hsame⟩ h

theorem refreshChampion_deferred (h : e.Due s f) (hheld : inPosition = true) :
    e.refreshChampion s (some f) inPosition =
      { e with
        championsMtime := some f.mtime
        pendingChampion := some (championFor s.symbol (some f)) } := by
  subst hheld
  unfold refreshChampion
  simp only [huse]
  rw [if_neg h.1, if_neg h.2]
  rfl

theorem refreshChampion_swapped (h : e.Due s f) :
    e.refreshChampion s (some f) false =
      let applied := { e with championsMtime := some f.mtime, pendingChampion := none }.applyChampion
        (e.swapTarget s (some f)) (some f)
      { applied with playbook := initStrategyPlaybooks s applied.cfg } := by
  unfold refreshChampion
  simp only [huse]
  rw [if_neg h.1, if_neg h.2]
  rfl

end Routing

/-- Only the configuration and what waits matter to what an engine holds. -/
theorem Holds.congr {e' : HotEngine} (h : e.Holds s champ d) (hbase : e'.base = e.base)
    (hown : e'.own = e.own) (hpending : e'.pendingFlatOverrides = e.pendingFlatOverrides) :
    e'.Holds s champ d := by
  have hcfg : e'.cfg = e.cfg := by
    unfold HotEngine.cfg
    rw [hbase, hown]
  exact ⟨hbase ▸ h.base, hcfg ▸ h.fields, hbase ▸ h.baseFields, hown ▸ h.own, hpending ▸ h.pending,
    hpending ▸ hcfg ▸ h.cfg⟩

/-- The overrides of a tick leave the routing alone, and a base that is not the
configuration. -/
theorem applyRuntimeOverrides_keeps (e : HotEngine) (file : Option OverridesFile) (inPosition : Bool) :
    (e.applyRuntimeOverrides s file inPosition).sig = e.sig ∧
      (e.applyRuntimeOverrides s file inPosition).championsMtime = e.championsMtime ∧
      (e.applyRuntimeOverrides s file inPosition).pendingChampion = e.pendingChampion ∧
      (e.applyRuntimeOverrides s file inPosition).store = (e.store.poll file).1 ∧
      ((e.applyRuntimeOverrides s file inPosition).own = none ↔ e.own = none) ∧
      (e.own ≠ none → (e.applyRuntimeOverrides s file inPosition).base = e.base) := by
  rw [applyRuntimeOverrides_eq, foldl_applyOverride]
  refine ⟨rfl, rfl, rfl, rfl, ?_, fun hown => ?_⟩
  · simp
  · simp [hown]

/-- The override is in the copy of the base that is swapped in: the champion gives it, or
the base has it. -/
structure Retains (e : HotEngine) (target : Option Champion) (item : String × ConfigValue) :
    Prop where
  param : ∀ u ∈ target.bind (fun c => c.params.get? item.1), u = item.2
  base : target.bind (fun c => c.params.get? item.1) = none →
    e.own.isNone ∨ e.base item.1 = some item.2

instance (e : HotEngine) (target : Option Champion) (item : String × ConfigValue) :
    Decidable (e.Retains target item) :=
  decidable_of_iff
    ((∀ u ∈ target.bind (fun c => c.params.get? item.1), u = item.2) ∧
      (target.bind (fun c => c.params.get? item.1) = none →
        e.own.isNone ∨ e.base item.1 = some item.2))
    ⟨fun h => ⟨h.1, h.2⟩, fun h => ⟨h.param, h.base⟩⟩

theorem applyChampion_keeps (e : HotEngine) (target : Option Champion)
    (file : Option ChampionsFile) :
    (e.applyChampion target file).sig = some (championSig target) ∧
      (e.applyChampion target file).store = e.store ∧
      (e.applyChampion target file).pendingFlatOverrides = e.pendingFlatOverrides ∧
      (e.applyChampion target file).championsMtime = e.championsMtime ∧
      (e.applyChampion target file).pendingChampion = e.pendingChampion := by
  cases target <;> exact ⟨rfl, rfl, rfl, rfl, rfl⟩

/-- A flat tick leaves nothing that waits. -/
theorem drained_runtime (e : HotEngine) (file : Option OverridesFile) :
    (e.applyRuntimeOverrides s file false).pendingFlatOverrides = Dict.empty := by
  rw [applyRuntimeOverrides_eq]
  rfl

theorem Retains.runtime {item : String × ConfigValue} (h : e.Retains target item)
    (file : Option OverridesFile) (inPosition : Bool) :
    (e.applyRuntimeOverrides s file inPosition).Retains target item := by
  obtain ⟨_, _, _, _, hown, hbase⟩ := e.applyRuntimeOverrides_keeps (s := s) file inPosition
  simp only [← Option.isNone_iff_eq_none] at hown
  refine ⟨h.param, fun hnone => ?_⟩
  rcases h.base hnone with hshared | hvalue
  · exact .inl (hown.mpr hshared)
  · by_cases hshared : e.own.isNone
    · exact .inl (hown.mpr hshared)
    · exact .inr ((hbase (by simpa using hshared)).symm ▸ hvalue)

/-- Where the configuration is the base object, the base has the overrides. -/
theorem Holds.base_eq (h : e.Holds s champ d) (hdrained : e.pendingFlatOverrides = Dict.empty)
    {k : String} {v : ConfigValue} (hk : Overridable k) (hv : d.get? k = some v)
    (hfield : (s.base k).isSome) (hown : e.own.isNone ∨ e.base k = some v) : e.base k = some v := by
  rcases hown with hown | hbase
  · have hcfg := h.cfg k (by simp [hdrained])
    have hsome : (resolveChampion champ s.base k).isSome := isSome_resolveChampion.trans hfield
    obtain ⟨u, hu⟩ := Option.isSome_iff_exists.mp hsome
    rw [Config.withOverrides_of_get? _ hk hv, hu] at hcfg
    simpa [HotEngine.cfg, Option.isNone_iff_eq_none.mp hown] using hcfg
  · exact hbase

/-- A retained override is in the copy. -/
theorem Holds.resolveChampion_eq (h : e.Holds s champ d)
    (hdrained : e.pendingFlatOverrides = Dict.empty) {k : String} {v : ConfigValue}
    (hk : Overridable k) (hv : d.get? k = some v) (hfield : (s.base k).isSome)
    (hretains : e.Retains target (k, v)) : resolveChampion target e.base k = some v := by
  cases target with
  | none => exact h.base_eq hdrained hk hv hfield (hretains.base rfl)
  | some c =>
      cases hparam : c.params.get? k with
      | none =>
          rw [resolveChampion_rest (ne_strategyMode hk) hparam]
          exact h.base_eq hdrained hk hv hfield (hretains.base hparam)
      | some u =>
          have huv : u = v := hretains.param u hparam
          obtain ⟨x, hx⟩ := Option.isSome_iff_exists.mp ((h.baseFields k).trans hfield)
          rw [resolveChampion_param hparam, hx, huv]
          rfl

theorem Holds.applyChampion (h : e.Holds s champ d) (hdrained : e.pendingFlatOverrides = Dict.empty)
    (hretains : ∀ item ∈ d.entries, Overridable item.1 → (s.base item.1).isSome →
      e.Retains target item)
    (file : Option ChampionsFile) :
    (e.applyChampion target file).Holds s target d := by
  have hcfg : (e.applyChampion target file).cfg = resolveChampion target e.base := by
    cases target <;> rfl
  have hkeep : (e.applyChampion target file).base = e.base ∧
      (e.applyChampion target file).pendingFlatOverrides = e.pendingFlatOverrides := by
    cases target <;> exact ⟨rfl, rfl⟩
  constructor
  · rw [hkeep.1]
    exact h.base
  · intro k
    rw [hcfg, isSome_resolveChampion]
    exact h.baseFields k
  · rw [hkeep.1]
    exact h.baseFields
  · cases target <;> simp [HotEngine.applyChampion]
  · intro k v hv
    rw [hkeep.2, hdrained] at hv
    simp at hv
  · intro k _
    rw [hcfg]
    by_cases hk : Overridable k ∧ (d.get? k).isSome
    · obtain ⟨hover, hsome⟩ := hk
      obtain ⟨v, hv⟩ := Option.isSome_iff_exists.mp hsome
      rw [Config.withOverrides_of_get? _ hover hv]
      by_cases hfield : (s.base k).isSome
      · have hsome : (resolveChampion target s.base k).isSome := isSome_resolveChampion.trans hfield
        obtain ⟨x, hx⟩ := Option.isSome_iff_exists.mp hsome
        have hret := hretains (k, v) (d.mem_entries_iff.mpr hv) hover hfield
        rw [h.resolveChampion_eq hdrained hover hv hfield hret, hx]
        rfl
      · have hnone : s.base k = none := by simpa using hfield
        have hbase : e.base k = none := by simpa [hnone] using h.baseFields k
        have hfields : (resolveChampion target s.base k).isSome = (s.base k).isSome :=
          isSome_resolveChampion
        have hresolved : resolveChampion target s.base k = none := by simpa [hnone] using hfields
        rw [resolveChampion_congr (hbase.trans hnone.symm), hresolved]
        rfl
    · rw [Config.withOverrides_rest _ hk]
      exact resolveChampion_congr (h.base k hk)

/-- What a refresh that applies a champion leaves. -/
theorem Holds.refresh_swapped (h : e.Holds s champ d) (huse : s.useStrategyChampions = true)
    (hdue : e.Due s f) (hdrained : e.pendingFlatOverrides = Dict.empty)
    (hretains : ∀ item ∈ d.entries, Overridable item.1 → (s.base item.1).isSome →
      e.Retains (e.swapTarget s (some f)) item) :
    (e.refreshChampion s (some f) false).Holds s (e.swapTarget s (some f)) d ∧
      (e.refreshChampion s (some f) false).sig = some (championSig (e.swapTarget s (some f))) ∧
      (e.refreshChampion s (some f) false).store = e.store ∧
      (e.refreshChampion s (some f) false).pendingFlatOverrides = Dict.empty ∧
      (e.refreshChampion s (some f) false).championsMtime = some f.mtime ∧
      (e.refreshChampion s (some f) false).pendingChampion = none ∧
      (e.refreshChampion s (some f) false).playbook =
        initStrategyPlaybooks s (e.refreshChampion s (some f) false).cfg := by
  let e₁ : HotEngine := { e with championsMtime := some f.mtime, pendingChampion := none }
  have hholds₁ : e₁.Holds s champ d := h.congr rfl rfl rfl
  obtain ⟨hsig, hstore, hpending, hmtime, hunset⟩ :=
    e₁.applyChampion_keeps (e.swapTarget s (some f)) (some f)
  have hretains₁ : ∀ item ∈ d.entries, Overridable item.1 → (s.base item.1).isSome →
      e₁.Retains (e.swapTarget s (some f)) item := by
    intro item hitem hk hfield
    have hret := hretains item hitem hk hfield
    exact ⟨hret.param, hret.base⟩
  have hholds := hholds₁.applyChampion hdrained hretains₁ (some f)
  rw [refreshChampion_swapped huse hdue]
  exact ⟨hholds.congr rfl rfl rfl, hsig, hstore, hpending.trans hdrained, hmtime, hunset, rfl⟩

/-- The engine as it is constructed holds the champion of the file. -/
theorem holds_boot (s : HotSetup) (champions : Option ChampionsFile) :
    (s.boot champions).Holds s
      (if s.useStrategyChampions then championFor s.symbol champions else none) Dict.empty := by
  let e : HotEngine := { base := s.base, playbook := initStrategyPlaybooks s s.base }
  have he : e.Holds s none Dict.empty := by
    refine ⟨fun _ _ => rfl, fun _ => rfl, fun _ => rfl, ⟨fun _ => rfl, fun _ => rfl⟩, ?_, ?_⟩
    · intro k v hv
      simp [e] at hv
    · intro k _
      rw [Config.withOverrides_rest _ (by simp)]
      rfl
  unfold HotSetup.boot
  by_cases huse : s.useStrategyChampions
  · rw [if_pos huse, if_pos huse]
    refine (he.applyChampion rfl (fun item hitem => ?_) champions).congr rfl rfl rfl
    cases hitem
  · rw [if_neg huse, if_neg huse]
    exact he

end HotEngine

/-! ## Runs that converge -/

namespace HotWorld

variable (s : HotSetup) (w : HotWorld)

/-- The tick applies a champion. -/
def Swaps : Prop :=
  s.useStrategyChampions = true ∧ w.inPosition = false ∧
    ∃ f ∈ w.champions, w.engine.Due s f

instance : Decidable (w.Swaps s) := inferInstanceAs (Decidable (_ ∧ _ ∧ ∃ _ ∈ _, _))

/-- A tick that meets none of the defects: no override is gone from the file; an override
that takes effect reaches the playbook, unless a champion is applied after it; a champion
that is applied retains the overrides and, if it was put off, still is the file's; and the
file is only gone while no champion is in force. -/
structure TickRegular : Prop where
  kept : w.engine.KeepsOverrides w.overrides
  heeded : ¬ w.Swaps s → ∀ item ∈ w.engine.tickOverrides w.overrides w.inPosition,
    w.engine.playbook.Heeds s item
  retained : w.Swaps s → ∀ item ∈ w.currentOverrides.entries, Overridable item.1 →
    (s.base item.1).isSome → w.engine.Retains (w.engine.swapTarget s w.champions) item
  current : w.Swaps s → ∀ c ∈ w.engine.pendingChampion,
    championSig c = championSig (championFor s.symbol w.champions)
  present : s.useStrategyChampions = true → w.inPosition = false → w.champions = none →
    w.engine.sig = some (championSig none)

/-- A file that is written gets a time that was not seen of it last. -/
def Regular : HotEvent → Prop
  | .champions file => ∀ f ∈ file, w.engine.championsMtime ≠ some f.mtime
  | .overrides file => ∀ f ∈ file, w.engine.store.mtime ≠ some f.mtime
  | .position _ => True
  | .tick => w.TickRegular s

/-- Nothing is left to do. -/
structure Calm : Prop where
  polled : w.engine.store.poll w.overrides = (w.engine.store, none)
  drained : w.engine.pendingFlatOverrides = Dict.empty
  routed : s.useStrategyChampions = true →
    w.engine.sig = some (championSig (championFor s.symbol w.champions))
  seen : s.useStrategyChampions = true → ∀ f, w.champions = some f →
    w.engine.championsMtime = some f.mtime ∧ w.engine.pendingChampion = none

/-- What holds along a regular run. -/
structure Inv : Prop where
  sees : w.engine.store.Sees w.overrides
  holds : ∃ champ, w.engine.Holds s champ w.engine.store.cache ∧
    (s.useStrategyChampions = true → w.engine.sig = some (championSig champ)) ∧
    (s.useStrategyChampions = false → champ = none)
  playbook : w.engine.playbook = initStrategyPlaybooks s w.engine.cfg
  marked : s.useStrategyChampions = true → ∀ f, w.champions = some f →
    w.engine.championsMtime = some f.mtime → w.engine.pendingChampion = none →
    w.engine.sig = some (championSig (championFor s.symbol w.champions))
  calm : w.settled → w.Calm s

variable {s w}

/-- Where nothing is left to do the configuration is the one that is to be. -/
theorem Inv.inForce (h : w.Inv s) (hsettled : w.settled) : w.InForce s := by
  obtain ⟨champ, hholds, hsig, hnone⟩ := h.holds
  have hcalm := h.calm hsettled
  have hcache : w.engine.store.cache = w.currentOverrides := by
    have hpoll := ConfigStore.cache_poll h.sees
    rwa [hcalm.polled] at hpoll
  have hchamp : resolveChampion champ s.base = resolveChampion (w.champion s) s.base := by
    unfold champion
    by_cases huse : s.useStrategyChampions
    · rw [if_pos huse]
      have hroute := (hsig huse).symm.trans (hcalm.routed huse)
      exact resolveChampion_of_sig (Option.some.inj hroute)
    · rw [if_neg huse, hnone (by simpa using huse)]
  have hcfg : w.engine.cfg = w.target s := by
    funext k
    rw [hholds.cfg k (by simp [hcalm.drained]), hcache, hchamp]
    rfl
  exact ⟨hcfg, h.playbook.trans (by rw [hcfg])⟩

/-- A tick does nothing where nothing is left to do. -/
theorem Calm.signalTick (h : w.Calm s) :
    w.engine.signalTick s w.champions w.overrides w.inPosition = w.engine := by
  have hruntime : w.engine.applyRuntimeOverrides s w.overrides w.inPosition = w.engine := by
    have hempty : w.engine.polled w.overrides = [] := by simp [HotEngine.polled, h.polled]
    have hnone : w.engine.pendingFlatOverrides.entries = [] := by simp [h.drained, Dict.empty]
    unfold HotEngine.applyRuntimeOverrides
    rw [hempty, h.polled]
    exact if_pos hnone
  unfold HotEngine.signalTick
  rw [hruntime]
  by_cases huse : s.useStrategyChampions = true
  · cases hfile : w.champions with
    | none => exact HotEngine.refreshChampion_none (fun _ => rfl)
    | some f =>
        have hseen := h.seen huse f hfile
        simp [HotEngine.refreshChampion, huse, hseen]
  · exact HotEngine.refreshChampion_none (fun htrue => absurd htrue huse)

/-- Without a change of champion the configuration in force is the champion's as before. -/
theorem Inv.sig_of_not_due (h : w.Inv s) {f : ChampionsFile}
    (huse : s.useStrategyChampions = true) (hfile : w.champions = some f)
    (hdue : ¬ w.engine.Due s f) :
    w.engine.sig = some (championSig (championFor s.symbol w.champions)) := by
  by_cases hseen : w.engine.championsMtime = some f.mtime ∧ w.engine.pendingChampion = none
  · exact h.marked huse f hfile hseen.1 hseen.2
  · by_cases hsame : w.engine.sig = some (championSig (championFor s.symbol (some f))) ∧
        w.engine.pendingChampion = none
    · rw [hfile]
      exact hsame.1
    · exact absurd ⟨hseen, hsame⟩ hdue

section Tick

variable (h : w.Inv s) (hregular : w.TickRegular s)

include h hregular

/-- After the overrides of a tick the engine holds the current ones. -/
theorem Inv.runtime :
    ∃ champ, (w.engine.applyRuntimeOverrides s w.overrides w.inPosition).Holds s champ
        w.currentOverrides ∧
      (s.useStrategyChampions = true → w.engine.sig = some (championSig champ)) ∧
      (s.useStrategyChampions = false → champ = none) := by
  obtain ⟨champ, hholds, hsig, hnone⟩ := h.holds
  exact ⟨champ, hholds.runtime h.sees hregular.kept, hsig, hnone⟩

/-- And the playbook is built from the configuration, if it heeds them. -/
theorem Inv.runtime_playbook (hswap : ¬ w.Swaps s) :
    (w.engine.applyRuntimeOverrides s w.overrides w.inPosition).playbook =
      initStrategyPlaybooks s
        (w.engine.applyRuntimeOverrides s w.overrides w.inPosition).cfg := by
  obtain ⟨champ, hholds, _⟩ := h.holds
  have hcfg : (w.engine.applyRuntimeOverrides s w.overrides w.inPosition).cfg =
      w.engine.cfg.assignAll (w.engine.tickOverrides w.overrides w.inPosition) := by
    rw [HotEngine.applyRuntimeOverrides_eq]
    exact HotEngine.cfg_foldl_applyOverride w.engine _
  have hheeded := hregular.heeded hswap
  rw [h.playbook] at hheeded
  rw [hcfg, initStrategyPlaybooks_assignAll
    (HotEngine.nodup_tickOverrides hholds h.sees hregular.kept)
    (fun item hitem => (HotEngine.mem_tickOverrides hholds h.sees hregular.kept hitem).1) hheeded,
    ← h.playbook, HotEngine.applyRuntimeOverrides_eq, HotEngine.foldl_applyOverride]

/-- A tick that applies no champion. -/
theorem Inv.tick_unswapped (hswap : ¬ w.Swaps s) {mtime : Option ℕ}
    {pending : Option (Option Champion)} {settled : Bool}
    (hmarked : s.useStrategyChampions = true → ∀ f, w.champions = some f → mtime = some f.mtime →
      pending = none → w.engine.sig = some (championSig (championFor s.symbol w.champions)))
    (hcalm : settled → w.inPosition = false ∧
      (s.useStrategyChampions = true →
        w.engine.sig = some (championSig (championFor s.symbol w.champions)) ∧
          ∀ f, w.champions = some f → mtime = some f.mtime ∧ pending = none)) :
    Inv s { w with
      engine := { w.engine.applyRuntimeOverrides s w.overrides w.inPosition with
        championsMtime := mtime
        pendingChampion := pending }
      settled := settled } := by
  obtain ⟨hsig, _, _, hstore, _⟩ :=
    w.engine.applyRuntimeOverrides_keeps (s := s) w.overrides w.inPosition
  obtain ⟨champ, hholds, hchamp, hnone⟩ := h.runtime hregular
  have hcache := ConfigStore.cache_poll h.sees
  rw [← hstore] at hcache
  constructor
  · show (w.engine.applyRuntimeOverrides s w.overrides w.inPosition).store.Sees w.overrides
    rw [hstore]
    exact h.sees.poll
  · refine ⟨champ, ?_, fun huse => hsig.trans (hchamp huse), hnone⟩
    show HotEngine.Holds s _ champ
      (w.engine.applyRuntimeOverrides s w.overrides w.inPosition).store.cache
    rw [hcache]
    exact hholds.congr rfl rfl rfl
  · exact h.runtime_playbook hregular hswap
  · intro huse f hfile hmtime hpending
    exact hsig.trans (hmarked huse f hfile hmtime hpending)
  · intro hsettled
    obtain ⟨hflat, hroute⟩ := hcalm hsettled
    constructor
    · show (w.engine.applyRuntimeOverrides s w.overrides w.inPosition).store.poll w.overrides =
        ((w.engine.applyRuntimeOverrides s w.overrides w.inPosition).store, none)
      rw [hstore]
      exact ConfigStore.poll_poll _ _
    · show (w.engine.applyRuntimeOverrides s w.overrides w.inPosition).pendingFlatOverrides = _
      rw [hflat]
      exact w.engine.drained_runtime w.overrides
    · exact fun huse => hsig.trans (hroute huse).1
    · exact fun huse => (hroute huse).2

omit h in
/-- A champion that is applied is the one of the file. -/
theorem TickRegular.sig_swapTarget (hswap : w.Swaps s) :
    championSig (w.engine.swapTarget s w.champions) =
      championSig (championFor s.symbol w.champions) := by
  unfold HotEngine.swapTarget
  cases hpending : w.engine.pendingChampion with
  | none => rfl
  | some c => exact hregular.current hswap c hpending

/-- A tick that applies a champion. -/
theorem Inv.tick_swapped (hswap : w.Swaps s) : (w.step s .tick).Inv s := by
  have htarget := hregular.sig_swapTarget hswap
  have hretained := hregular.retained hswap
  obtain ⟨huse, hflat, f, hfile, hdue⟩ := hswap
  obtain ⟨hsig, hmtime, hpending, hstore, _⟩ :=
    w.engine.applyRuntimeOverrides_keeps (s := s) w.overrides w.inPosition
  obtain ⟨champ, hholds, _⟩ := h.runtime hregular
  have hdrained : (w.engine.applyRuntimeOverrides s w.overrides w.inPosition).pendingFlatOverrides =
      Dict.empty := by
    rw [hflat]
    exact w.engine.drained_runtime w.overrides
  have hdue' : (w.engine.applyRuntimeOverrides s w.overrides w.inPosition).Due s f := by
    unfold HotEngine.Due
    rw [hsig, hmtime, hpending]
    exact hdue
  have hsame : (w.engine.applyRuntimeOverrides s w.overrides w.inPosition).swapTarget s w.champions =
      w.engine.swapTarget s w.champions := by
    unfold HotEngine.swapTarget
    rw [hpending]
  obtain ⟨hholds', hsig', hstore', hdrained', hmtime', hunset', hplaybook'⟩ :=
    hholds.refresh_swapped huse hdue' hdrained (hfile ▸ hsame.symm ▸
      fun item hitem hk hfield => (hretained item hitem hk hfield).runtime w.overrides w.inPosition)
  have htick : (w.step s .tick).engine =
      (w.engine.applyRuntimeOverrides s w.overrides w.inPosition).refreshChampion s (some f)
        false := by
    have hargs : ∀ file inPosition, file = some f → inPosition = false →
        (w.engine.applyRuntimeOverrides s w.overrides w.inPosition).refreshChampion s file inPosition =
          (w.engine.applyRuntimeOverrides s w.overrides w.inPosition).refreshChampion s (some f)
            false := by
      rintro _ _ rfl rfl
      rfl
    exact hargs _ _ hfile hflat
  have hcache : (w.step s .tick).engine.store.cache = w.currentOverrides := by
    rw [htick, hstore', hstore]
    exact ConfigStore.cache_poll h.sees
  have hroute : (w.step s .tick).engine.sig =
      some (championSig (championFor s.symbol w.champions)) := by
    rw [htick, hsig', ← hfile, hsame, htarget]
  constructor
  · show (w.step s .tick).engine.store.Sees w.overrides
    rw [htick, hstore', hstore]
    exact h.sees.poll
  · rw [hcache]
    refine ⟨_, htick ▸ hholds', fun _ => htick ▸ hsig', fun hnot => ?_⟩
    simp [huse] at hnot
  · exact htick ▸ hplaybook'
  · exact fun _ _ _ _ _ => hroute
  · intro _
    constructor
    · show (w.step s .tick).engine.store.poll w.overrides = ((w.step s .tick).engine.store, none)
      rw [htick, hstore', hstore]
      exact ConfigStore.poll_poll _ _
    · exact htick ▸ hdrained'
    · exact fun _ => hroute
    · intro _ g hg
      have hfg : f = g := Option.some.inj (hfile.symm.trans hg)
      exact ⟨htick ▸ hfg ▸ hmtime', htick ▸ hunset'⟩

/-- A tick that applies no champion: none is routed, none is due, or one is put off. -/
theorem Inv.tick_idle (hsettled : ¬ w.settled) (hswap : ¬ w.Swaps s) : (w.step s .tick).Inv s := by
  obtain ⟨hsig, hmtime, hpending, _⟩ :=
    w.engine.applyRuntimeOverrides_keeps (s := s) w.overrides w.inPosition
  have hflat : (w.settled || !w.inPosition) = true → w.inPosition = false := by simp [hsettled]
  have hstep : ∀ e', w.engine.signalTick s w.champions w.overrides w.inPosition = e' →
      Inv s { w with engine := e', settled := w.settled || !w.inPosition } →
        (w.step s .tick).Inv s := by
    rintro _ rfl hinv
    exact hinv
  by_cases hrouted : s.useStrategyChampions = true → w.champions = none
  · refine hstep _ (HotEngine.refreshChampion_none hrouted)
      (h.tick_unswapped hregular hswap (fun huse f hfile _ _ => ?_) (fun hset => ⟨hflat hset, ?_⟩))
    · simp [hrouted huse] at hfile
    · intro huse
      have hgone := hrouted huse
      refine ⟨?_, fun f hfile => by simp [hgone] at hfile⟩
      rw [hgone]
      exact hregular.present huse (hflat hset) hgone
  · obtain ⟨huse, hsome⟩ := Classical.not_imp.mp hrouted
    obtain ⟨f, hfile⟩ := Option.ne_none_iff_exists'.mp hsome
    have hdue' : (w.engine.applyRuntimeOverrides s w.overrides w.inPosition).Due s f ↔
        w.engine.Due s f := by
      unfold HotEngine.Due
      rw [hsig, hmtime, hpending]
    have htick : w.engine.signalTick s w.champions w.overrides w.inPosition =
        (w.engine.applyRuntimeOverrides s w.overrides w.inPosition).refreshChampion s (some f)
          w.inPosition := by
      rw [← hfile]
      rfl
    by_cases hdue : w.engine.Due s f
    · have hheld : w.inPosition = true := by
        by_contra hnot
        exact hswap ⟨huse, by simpa using hnot, f, hfile, hdue⟩
      have hrefresh := HotEngine.refreshChampion_deferred huse (hdue'.mpr hdue) hheld
      refine hstep _ (htick.trans hrefresh) (h.tick_unswapped hregular hswap
        (fun _ _ _ _ hunset => by cases hunset) (fun hset => ?_))
      exact absurd hheld (by simp [hflat hset])
    · obtain ⟨hrefresh, hunset⟩ := @HotEngine.refreshChampion_of_not_due s
        (w.engine.applyRuntimeOverrides s w.overrides w.inPosition) f w.inPosition huse
        (mt hdue'.mp hdue)
      have hroute := h.sig_of_not_due huse hfile hdue
      refine hstep _ (htick.trans hrefresh)
        (h.tick_unswapped hregular hswap (fun _ _ _ _ _ => hroute)
          (fun hset => ⟨hflat hset, fun _ => ⟨hroute, fun g hg => ⟨?_, hunset⟩⟩⟩))
      rw [Option.some.inj (hfile.symm.trans hg)]

/-- A tick keeps what holds along a regular run. -/
theorem Inv.tick : (w.step s .tick).Inv s := by
  by_cases hsettled : w.settled
  · have hsame : w.step s .tick = w := by
      have hstays : (w.settled || !w.inPosition) = w.settled := by simp [hsettled]
      show HotWorld.mk _ _ _ _ (w.settled || !w.inPosition) = w
      rw [(h.calm hsettled).signalTick, hstays]
    rw [hsame]
    exact h
  · by_cases hswap : w.Swaps s
    · exact h.tick_swapped hregular hswap
    · exact h.tick_idle hregular hsettled hswap

end Tick

/-- Every step of a regular run keeps it. -/
theorem Inv.step (h : w.Inv s) {event : HotEvent} (hregular : w.Regular s event) :
    (w.step s event).Inv s := by
  cases event with
  | champions file =>
      refine ⟨h.sees, h.holds, h.playbook, fun _ f hfile hmtime _ => ?_, fun hset => ?_⟩
      · exact absurd hmtime (hregular f hfile)
      · simp [HotWorld.step] at hset
  | overrides file =>
      refine ⟨?_, h.holds, h.playbook, h.marked, fun hset => ?_⟩
      · cases file with
        | none => exact h.sees.delete
        | some f => exact h.sees.write (hregular f rfl)
      · simp [HotWorld.step] at hset
  | position inPosition =>
      refine ⟨h.sees, h.holds, h.playbook, h.marked, fun hset => ?_⟩
      have hcalm := h.calm hset
      exact ⟨hcalm.polled, hcalm.drained, hcalm.routed, hcalm.seen⟩
  | tick => exact h.tick hregular

theorem inv_start (s : HotSetup) (champions : Option ChampionsFile)
    (overrides : Option OverridesFile) (inPosition : Bool) :
    (start s champions overrides inPosition).Inv s := by
  have hholds := HotEngine.holds_boot s champions
  have hboot : (s.boot champions).store = {} ∧ (s.boot champions).championsMtime = none ∧
      (s.boot champions).playbook = initStrategyPlaybooks s (s.boot champions).cfg ∧
      (s.useStrategyChampions = true →
        (s.boot champions).sig = some (championSig (championFor s.symbol champions))) := by
    unfold HotSetup.boot
    by_cases huse : s.useStrategyChampions
    · rw [if_pos huse]
      cases championFor s.symbol champions <;> exact ⟨rfl, rfl, rfl, fun _ => rfl⟩
    · rw [if_neg huse]
      exact ⟨rfl, rfl, rfl, fun htrue => absurd htrue huse⟩
  obtain ⟨hstore, hmtime, hplaybook, hsig⟩ := hboot
  constructor
  · show (s.boot champions).store.Sees overrides
    rw [hstore]
    exact ⟨fun _ => rfl, fun _ _ hseen => by cases hseen⟩
  · show ∃ champ, (s.boot champions).Holds s champ (s.boot champions).store.cache ∧ _
    rw [hstore]
    refine ⟨_, hholds, fun huse => ?_, fun hnot => by simp [hnot]⟩
    rw [if_pos huse]
    exact hsig huse
  · exact hplaybook
  · intro _ f _ hseen _
    exact absurd (hmtime.symm.trans hseen) (by simp)
  · intro hset
    simp [start] at hset

/-- The liquidity sweep, with champions. -/
def demoHotSetup : HotSetup where
  symbol := "ETHUSDT"
  base k :=
    if k = "strategy_mode" then some (.str "liquidity_sweep")
    else if k = "lsw_tp_r" then some (.num (5 / 2))
    else if k = "lsw_sl_buffer_atr" then some (.num (1 / 4))
    else none
  useStrategyChampions := true

/-- The champion of the symbol has its target at `tp`. -/
def demoChampions (mtime : ℕ) (tp : ℚ) : ChampionsFile where
  mtime := mtime
  text := .champions (Dict.empty.set "ETHUSDT"
    { strategyMode := some (.str "liquidity_sweep")
      params := Dict.empty.set "lsw_tp_r" (.num tp) })

def demoOverrides (key : String) (value : ℚ) : OverridesFile where
  mtime := 1
  text := .dict (Dict.empty.set key (.num value))

end HotWorld

end CryptoTrader
