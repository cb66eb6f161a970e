import CryptoTrader.Engine.HotRuns

/-!
# Convergence of the hot configuration

What an engine holds after a tick is described by a champion and a dictionary of
overrides: those of the files, except that a champion may be put off and flat-only
overrides may wait while the symbol is in a position.
-/

namespace CryptoTrader

open CryptoTrader.Lib

/-! ## Overrides on a configuration -/

theorem Config.withOverrides_apply (cfg : Config) (d : Dict String ConfigValue) (k : String) :
    Config.withOverrides cfg d k =
      if Overridable k then (d.get? k).elim (cfg k) (fun v => (cfg k).map (fun _ => v))
      else cfg k := by
  unfold withOverrides
  by_cases hk : Overridable k
  · rw [if_pos hk]
    cases hd : d.get? k with
    | none =>
        refine Attributes.assignAll_of_not_mem _ (fun hmem => ?_)
        obtain ⟨item, hitem, rfl⟩ := List.mem_map.mp hmem
        have hget := d.get?_of_mem (List.mem_of_mem_filter hitem)
        simp [hd] at hget
    | some v =>
        refine Attributes.assignAll_of_mem _ ?_ (List.mem_filter.mpr ⟨d.mem_entries_iff.mpr hd, ?_⟩)
        · exact d.nodup.sublist (List.filter_sublist.map _)
        · simpa using hk
  · rw [if_neg hk]
    refine Attributes.assignAll_of_not_mem _ (fun hmem => ?_)
    obtain ⟨item, hitem, rfl⟩ := List.mem_map.mp hmem
    exact hk (by simpa using List.of_mem_filter hitem)

theorem Config.withOverrides_of_get? (cfg : Config) {d : Dict String ConfigValue} {k : String}
    {v : ConfigValue} (hk : Overridable k) (hd : d.get? k = some v) :
    Config.withOverrides cfg d k = (cfg k).map (fun _ => v) := by
  simp [withOverrides_apply, hk, hd]

theorem Config.withOverrides_rest (cfg : Config) {d : Dict String ConfigValue} {k : String}
    (h : ¬ (Overridable k ∧ (d.get? k).isSome)) : Config.withOverrides cfg d k = cfg k := by
  rw [withOverrides_apply]
  by_cases hk : Overridable k
  · have hd : d.get? k = none := by simpa [hk] using h
    simp [hk, hd]
  · simp [hk]

theorem ne_strategyMode {k : String} (h : Overridable k) : k ≠ "strategy_mode" :=
  fun heq => not_overridable_strategyMode (heq ▸ h)

/-! ## What an engine holds -/

/-- The engine holds the configuration of a champion with the overrides of a dictionary,
less those that wait. -/
structure HotEngine.Holds (s : HotSetup) (e : HotEngine) (champ : Option Champion)
    (d : Dict String ConfigValue) : Prop where
  base : ∀ k, ¬ (Overridable k ∧ (d.get? k).isSome) → e.base k = s.base k
  fields : ∀ k, (e.cfg k).isSome = (s.base k).isSome
  baseFields : ∀ k, (e.base k).isSome = (s.base k).isSome
  own : e.own = none ↔ champ = none
  pending : ∀ k v, e.pendingFlatOverrides.get? k = some v →
    classify k = .flatOnly ∧ d.get? k = some v
  cfg : ∀ k, e.pendingFlatOverrides.get? k = none →
    e.cfg k = Config.withOverrides (resolveChampion champ s.base) d k

namespace HotEngine

variable {s : HotSetup} {e : HotEngine} {champ : Option Champion} {c : Dict String ConfigValue}
  {file : Option OverridesFile} {inPosition : Bool} {k : String} {v : ConfigValue}

/-- What a poll returns are the current overrides, unless they have not changed. -/
theorem polled_cases (hsees : e.store.Sees file) :
    e.polled file = (e.store.current file).entries ∨
      e.polled file = [] ∧ e.store.current file = e.store.cache := by
  rcases ConfigStore.poll_snd hsees with h | ⟨h, hsame⟩
  · exact .inl (by simp [polled, h])
  · exact .inr ⟨by simp [polled, h], hsame⟩

theorem mem_polled (hsees : e.store.Sees file) (h : (k, v) ∈ e.polled file) :
    (e.store.current file).get? k = some v := by
  rcases polled_cases hsees with hpolled | ⟨hpolled, _⟩
  · exact Dict.get?_of_mem _ (hpolled ▸ h)
  · rw [hpolled] at h
    cases h

theorem nodup_polled (hsees : e.store.Sees file) : ((e.polled file).map Prod.fst).Nodup := by
  rcases polled_cases hsees with hpolled | ⟨hpolled, _⟩
  · rw [hpolled]
    exact (e.store.current file).nodup
  · simp [hpolled]

/-- No override is gone from the file. -/
def KeepsOverrides (e : HotEngine) (file : Option OverridesFile) : Prop :=
  ∀ item ∈ e.store.cache.entries, Overridable item.1 → ((e.store.current file).get? item.1).isSome

instance (e : HotEngine) (file : Option OverridesFile) : Decidable (e.KeepsOverrides file) :=
  inferInstanceAs (Decidable (∀ _ ∈ _, _ → _))

theorem KeepsOverrides.isSome (h : e.KeepsOverrides file) (hk : Overridable k)
    (hold : (e.store.cache.get? k).isSome) : ((e.store.current file).get? k).isSome := by
  obtain ⟨v, hv⟩ := Option.isSome_iff_exists.mp hold
  exact h (k, v) ((Dict.mem_entries_iff _).mpr hv) hk

section Runtime

variable (h : e.Holds s champ e.store.cache) (hsees : e.store.Sees file)
  (hkept : e.KeepsOverrides file)

include h hsees hkept

/-- What waits after a poll is a current override. -/
theorem get?_deferred (hv : (e.deferred file).get? k = some v) :
    classify k = .flatOnly ∧ (e.store.current file).get? k = some v := by
  have hnodup := (nodup_polled hsees).sublist
    ((List.filter_sublist (p := fun item => classify item.1 = .flatOnly)).map Prod.fst)
  by_cases hmem : k ∈ ((e.polled file).filter (fun item => classify item.1 = .flatOnly)).map Prod.fst
  · obtain ⟨⟨_, u⟩, hitem, rfl⟩ := List.mem_map.mp hmem
    have hu := Dict.get?_setAll_of_mem e.pendingFlatOverrides hnodup hitem
    have hflat := List.of_mem_filter hitem
    rw [deferred, hu] at hv
    exact ⟨by simpa using hflat, Option.some.inj hv ▸ mem_polled hsees (List.mem_of_mem_filter hitem)⟩
  · rw [deferred, Dict.get?_setAll_of_not_mem _ hmem] at hv
    obtain ⟨hflat, hcache⟩ := h.pending k v hv
    refine ⟨hflat, ?_⟩
    rcases polled_cases hsees with hpolled | ⟨_, hsame⟩
    · have hsome := hkept.isSome (.inr hflat) (by simp [hcache])
      obtain ⟨u, hu⟩ := Option.isSome_iff_exists.mp hsome
      have hitem : (k, u) ∈ e.polled file := hpolled ▸ Dict.mem_entries_iff _ |>.mpr hu
      exact absurd (List.mem_map.mpr ⟨(k, u), List.mem_filter.mpr ⟨hitem, by simpa using hflat⟩, rfl⟩)
        hmem
    · rw [hsame, hcache]

theorem mem_tickOverrides (hv : (k, v) ∈ e.tickOverrides file inPosition) :
    Overridable k ∧ (e.store.current file).get? k = some v := by
  rcases List.mem_append.mp hv with hsafe | hdrained
  · obtain ⟨hitem, hclass⟩ := List.mem_filter.mp hsafe
    exact ⟨.inl (by simpa using hclass), mem_polled hsees hitem⟩
  · cases inPosition with
    | true => cases hdrained
    | false =>
        have hget := Dict.get?_of_mem _ hdrained
        obtain ⟨hflat, hcurrent⟩ := get?_deferred h hsees hkept hget
        exact ⟨.inr hflat, hcurrent⟩

theorem nodup_tickOverrides : ((e.tickOverrides file inPosition).map Prod.fst).Nodup := by
  rw [tickOverrides, List.map_append, List.nodup_append]
  refine ⟨(nodup_polled hsees).sublist (List.filter_sublist.map _), ?_, ?_⟩
  · cases inPosition with
    | true => simp
    | false => exact (e.deferred file).nodup
  · intro a ha b hb heq
    obtain ⟨item, hitem, rfl⟩ := List.mem_map.mp ha
    have hsafe : classify item.1 = .safe := by simpa using List.of_mem_filter hitem
    cases inPosition with
    | true => cases hb
    | false =>
        obtain ⟨⟨_, u⟩, hdrained, rfl⟩ := List.mem_map.mp hb
        have hflat := (get?_deferred h hsees hkept (Dict.get?_of_mem _ hdrained)).1
        rw [heq] at hsafe
        rw [hsafe] at hflat
        cases hflat

omit h in
/-- An override that neither takes effect nor waits was there before the poll. -/
theorem unchanged_of_not_mem (hk : Overridable k)
    (hmem : k ∉ (e.tickOverrides file inPosition).map Prod.fst)
    (hpending : inPosition → (e.deferred file).get? k = none) :
    (e.store.current file).get? k = e.store.cache.get? k := by
  rcases polled_cases hsees with hpolled | ⟨_, hsame⟩
  · cases hcurrent : (e.store.current file).get? k with
    | none =>
        cases hcache : e.store.cache.get? k with
        | none => rfl
        | some u =>
            have hsome := hkept.isSome hk (by simp [hcache])
            simp [hcurrent] at hsome
    | some u =>
        have hitem : (k, u) ∈ e.polled file := hpolled ▸ (Dict.mem_entries_iff _).mpr hcurrent
        exfalso
        rcases hk with hsafe | hflat
        · refine hmem (List.mem_map.mpr ⟨(k, u), List.mem_append_left _ ?_, rfl⟩)
          exact List.mem_filter.mpr ⟨hitem, by simpa using hsafe⟩
        · have hnodup := (nodup_polled hsees).sublist
            ((List.filter_sublist (p := fun item => classify item.1 = .flatOnly)).map Prod.fst)
          have hwaits : (e.deferred file).get? k = some u :=
            Dict.get?_setAll_of_mem _ hnodup (List.mem_filter.mpr ⟨hitem, by simpa using hflat⟩)
          cases inPosition with
          | true => simp [hpending rfl] at hwaits
          | false =>
              refine hmem (List.mem_map.mpr ⟨(k, u), List.mem_append_right _ ?_, rfl⟩)
              exact (Dict.mem_entries_iff _).mpr hwaits
  · rw [hsame]

/-- The overrides of a tick bring an engine to the current ones. -/
theorem Holds.runtime : (e.applyRuntimeOverrides s file inPosition).Holds s champ
    (e.store.current file) := by
  have hmem : ∀ {k v}, (k, v) ∈ e.tickOverrides file inPosition →
      Overridable k ∧ (e.store.current file).get? k = some v :=
    fun hv => mem_tickOverrides h hsees hkept hv
  have hnodup := @nodup_tickOverrides s e champ file inPosition h hsees hkept
  have hcfg : (e.applyRuntimeOverrides s file inPosition).cfg =
      e.cfg.assignAll (e.tickOverrides file inPosition) := by
    rw [applyRuntimeOverrides_eq]
    exact cfg_foldl_applyOverride e _
  have hrest : ∀ k, ¬ (Overridable k ∧ ((e.store.current file).get? k).isSome) →
      k ∉ (e.tickOverrides file inPosition).map Prod.fst ∧
        ¬ (Overridable k ∧ (e.store.cache.get? k).isSome) := by
    intro k hk
    refine ⟨fun hin => ?_, fun hold => hk ⟨hold.1, hkept.isSome hold.1 hold.2⟩⟩
    obtain ⟨⟨_, u⟩, hitem, rfl⟩ := List.mem_map.mp hin
    obtain ⟨hover, hcurrent⟩ := hmem hitem
    exact hk ⟨hover, by simp [hcurrent]⟩
  constructor
  · intro k hk
    obtain ⟨hnot, hold⟩ := hrest k hk
    rw [applyRuntimeOverrides_eq, foldl_applyOverride]
    cases howned : e.own.isNone with
    | true =>
        simp only [if_true]
        rw [Attributes.assignAll_of_not_mem _ hnot, h.base k hold]
    | false => simpa using h.base k hold
  · intro k
    rw [hcfg, Attributes.isSome_assignAll]
    exact h.fields k
  · intro k
    rw [applyRuntimeOverrides_eq, foldl_applyOverride]
    cases howned : e.own.isNone with
    | true => simpa using h.baseFields k
    | false => simpa using h.baseFields k
  · rw [applyRuntimeOverrides_eq, foldl_applyOverride, ← h.own]
    simp
  · intro k v hv
    rw [applyRuntimeOverrides_eq] at hv
    cases inPosition with
    | true => exact get?_deferred h hsees hkept hv
    | false => simp at hv
  · intro k hpending
    rw [applyRuntimeOverrides_eq] at hpending
    rw [hcfg]
    by_cases hin : k ∈ (e.tickOverrides file inPosition).map Prod.fst
    · obtain ⟨⟨x, v⟩, hitem, hx⟩ := List.mem_map.mp hin
      obtain rfl : x = k := hx
      obtain ⟨hover, hcurrent⟩ := hmem hitem
      rw [Attributes.assignAll_of_mem _ hnodup hitem, Config.withOverrides_of_get? _ hover hcurrent]
      exact Attributes.map_const_congr ((h.fields x).trans isSome_resolveChampion.symm) v
    · have hwaits : inPosition → (e.deferred file).get? k = none := by
        intro hin
        rwa [if_pos hin] at hpending
      have hold : e.pendingFlatOverrides.get? k = none := by
        by_contra hsome
        have hdeferred : ((e.deferred file).get? k).isSome :=
          Dict.isSome_get?_setAll _ (Option.ne_none_iff_isSome.mp hsome)
        cases inPosition with
        | true => simp [hwaits rfl] at hdeferred
        | false =>
            obtain ⟨u, hu⟩ := Option.isSome_iff_exists.mp hdeferred
            refine hin (List.mem_map.mpr ⟨(k, u), List.mem_append_right _ ?_, rfl⟩)
            exact (Dict.mem_entries_iff _).mpr hu
      rw [Attributes.assignAll_of_not_mem _ hin, h.cfg k hold, Config.withOverrides_apply,
        Config.withOverrides_apply]
      by_cases hk : Overridable k
      · rw [unchanged_of_not_mem hsees hkept hk hin hwaits]
      · simp [hk]

end Runtime

end HotEngine

/-! ## What the playbook holds -/

/-- An override reaches the playbook if it is built from the parameter: the playbook takes
it, nothing of the symbol's own replaces it, and it has the type of the old value. -/
def StrategyPlaybook.Heeds (s : HotSetup) (p : StrategyPlaybook) (item : String × ConfigValue) :
    Prop :=
  readsParam p.mode item.1 →
    takesParam p.mode item.1 ∧ (targetParam p.mode = some item.1 → s.tpOverride = none) ∧
      ∀ existing ∈ p.params item.1, s.typed existing item.2 = item.2

instance (s : HotSetup) (p : StrategyPlaybook) (item : String × ConfigValue) :
    Decidable (p.Heeds s item) :=
  inferInstanceAs (Decidable (_ → _ ∧ (_ → _) ∧ ∀ _ ∈ _, _))

section Playbook

variable {s : HotSetup} {cfg : Config} {item : String × ConfigValue}

theorem strategyMode_assign (hk : Overridable item.1) :
    strategyMode (cfg.assign item.1 item.2) = strategyMode cfg := by
  unfold strategyMode
  rw [Attributes.assign_ne _ (ne_strategyMode hk).symm]

/-- A playbook is built from each parameter on its own. -/
theorem initStrategyPlaybooks_congr {cfg cfg' : Config} (hmode : strategyMode cfg = strategyMode cfg')
    {params : Config} (h : ∀ k, (initStrategyPlaybooks s cfg).params k = params k) :
    initStrategyPlaybooks s cfg = { mode := strategyMode cfg', params := params } := by
  have hparams : (initStrategyPlaybooks s cfg).params = params := funext h
  rw [← hmode, ← hparams]
  rfl

/-- Telling the playbook is building it from the new configuration. -/
theorem initStrategyPlaybooks_assign (hk : Overridable item.1)
    (h : (initStrategyPlaybooks s cfg).Heeds s item) :
    initStrategyPlaybooks s (cfg.assign item.1 item.2) =
      (initStrategyPlaybooks s cfg).applyOverride s item := by
  obtain ⟨k, v⟩ := item
  have hmode : strategyMode (cfg.assign k v) = strategyMode cfg := strategyMode_assign hk
  have hother : ∀ x, x ≠ k → (initStrategyPlaybooks s (cfg.assign k v)).params x =
      (initStrategyPlaybooks s cfg).params x := by
    intro x hx
    simp [initStrategyPlaybooks, hmode, hx]
  by_cases hreads : readsParam (strategyMode cfg) k
  · obtain ⟨htakes, hown, htyped⟩ := h hreads
    have hparam : ∀ cfg' : Config, strategyMode cfg' = strategyMode cfg →
        (initStrategyPlaybooks s cfg').params k = cfg' k := by
      intro cfg' hsame
      by_cases htarget : targetParam (strategyMode cfg) = some k
      · simp [initStrategyPlaybooks, hsame, hreads, htarget, hown htarget]
      · simp [initStrategyPlaybooks, hsame, hreads, htarget]
    have htakes' : takesParam (initStrategyPlaybooks s cfg).mode k = true := htakes
    unfold StrategyPlaybook.applyOverride
    rw [if_pos htakes', hparam cfg rfl]
    cases hcfg : cfg k with
    | none => rw [Attributes.assign_of_none cfg hcfg]
    | some existing =>
        refine initStrategyPlaybooks_congr hmode (fun x => ?_)
        show _ = (initStrategyPlaybooks s cfg).params.assign k (s.typed existing v) x
        rw [htyped existing ((hparam cfg rfl).trans hcfg)]
        by_cases hx : x = k
        · subst hx
          rw [hparam _ hmode, Attributes.assign_self, Attributes.assign_self, hparam cfg rfl]
        · rw [hother x hx, Attributes.assign_ne _ hx]
  · have htakes : takesParam (strategyMode cfg) k = false := by
      simp only [readsParam, Bool.or_eq_true, not_or] at hreads
      simpa using hreads.1
    have htakes' : takesParam (initStrategyPlaybooks s cfg).mode k = false := htakes
    unfold StrategyPlaybook.applyOverride
    rw [if_neg (by simp [htakes'])]
    refine initStrategyPlaybooks_congr hmode (fun x => ?_)
    by_cases hx : x = k
    · subst hx
      simp [initStrategyPlaybooks, hmode, hreads]
    · exact hother x hx

/-- So it is for a list of overrides. -/
theorem initStrategyPlaybooks_assignAll {l : List (String × ConfigValue)}
    (hnodup : (l.map Prod.fst).Nodup) (hk : ∀ item ∈ l, Overridable item.1)
    (h : ∀ item ∈ l, (initStrategyPlaybooks s cfg).Heeds s item) :
    initStrategyPlaybooks s (cfg.assignAll l) =
      l.foldl (fun p item => p.applyOverride s item) (initStrategyPlaybooks s cfg) := by
  induction l generalizing cfg with
  | nil => rfl
  | cons item rest ih =>
      rw [List.map_cons, List.nodup_cons] at hnodup
      have hhead := initStrategyPlaybooks_assign (hk item List.mem_cons_self)
        (h item List.mem_cons_self)
      rw [List.foldl_cons, ← hhead, Attributes.assignAll_cons]
      refine ih hnodup.2 (fun i hi => hk i (List.mem_cons_of_mem _ hi)) (fun i hi => ?_)
      have hne : i.1 ≠ item.1 := fun heq =>
        hnodup.1 (heq ▸ List.mem_map_of_mem (f := Prod.fst) hi)
      have hheeds := h i (List.mem_cons_of_mem _ hi)
      rw [hhead]
      unfold StrategyPlaybook.Heeds at hheeds ⊢
      rwa [StrategyPlaybook.mode_applyOverride, StrategyPlaybook.params_applyOverride_ne _ hne]

end Playbook

end CryptoTrader
