import CryptoTrader.Lib.Run
import CryptoTrader.Engine.ConfigStore

/-!
# Polling the overrides file

`ConfigStore.poll` of `config/_store.py` in its two steps: it asks for the
modification time, and then opens and reads the file, which the writer may
have replaced or deleted in between.  Times are compared for equality only,
and the store's `-1.0` is no time of a file.
-/

namespace CryptoTrader.OverridesPoll

open CryptoTrader.Lib

variable {τ ν : Type}

/-! ## The file and the store -/

/-- What is in the file: a dictionary, one under `"overrides"`, other JSON,
text that `json.load` rejects, or text on which it raises what `_read_file`
does not catch (bytes that are no text, nesting past the recursion limit). -/
inductive Content (ν : Type) where
  | dict (data : Dict String ν)
  | wrapped (overrides : Dict String ν)
  | other
  | rejected
  | escaping

/-- The overrides a valid content stands for. -/
def Content.overrides : Content ν → Option (Dict String ν)
  | .dict data => some data
  | .wrapped overrides => some overrides
  | .other => some Dict.empty
  | .rejected | .escaping => none

/-- The file as one write has left it. -/
structure Version (τ ν : Type) where
  mtime : τ
  content : Content ν

/-- `_mtime` and `_cache`. -/
structure Store (τ ν : Type) where
  mtime : Option τ := none
  cache : Dict String ν := Dict.empty

/-- What `_read_file` returns, or that it raises. -/
inductive ReadResult (ν : Type) where
  | parsed (data : Dict String ν)
  | bad
  | raised

/-- `_read_file`. -/
def readFile : Option (Version τ ν) → ReadResult ν
  | none => .parsed Dict.empty
  | some v =>
      match v.content with
      | .dict data => .parsed data
      | .wrapped overrides => .parsed overrides
      | .other => .parsed Dict.empty
      | .rejected => .bad
      | .escaping => .raised

/-- The first step of `poll` ends it, or leaves the file to be read. -/
inductive StatResult (τ ν : Type) where
  | ended (store : Store τ ν) (result : Option (Dict String ν))
  | changed (mtime : τ)

/-- How a poll ends that has read the file. -/
inductive PollResult (ν : Type) where
  | returned (result : Option (Dict String ν))
  | raised

namespace Store

variable [DecidableEq τ]

/-- `poll` up to the comparison of the times. -/
def stat (store : Store τ ν) : Option (Version τ ν) → StatResult τ ν
  | none =>
      if store.mtime ≠ none then .ended { mtime := none, cache := Dict.empty } (some Dict.empty)
      else .ended store none
  | some v => if store.mtime = some v.mtime then .ended store none else .changed v.mtime

omit [DecidableEq τ] in
/-- `poll` from `_read_file` on, with the time it has found. -/
def read (store : Store τ ν) (mtime : τ) (file : Option (Version τ ν)) :
    Store τ ν × PollResult ν :=
  match readFile file with
  | .parsed data => ({ mtime := some mtime, cache := data }, .returned (some data))
  | .bad => (store, .returned none)
  | .raised => (store, .raised)

end Store

/-! ## Runs -/

/-- The overrides file and a store that is polled.  Besides, the times of all
versions so far, the dictionaries returned by polls, each with the time of the
version it was read from, and the number of deletions. -/
structure World (τ ν : Type) where
  file : Option (Version τ ν)
  store : Store τ ν
  polling : Option τ
  written : List τ
  returns : List (Option τ × Dict String ν)
  deletions : ℕ

/-- The writer writes or replaces the file, or deletes it; the store goes on
with a poll. -/
inductive Step (τ ν : Type) where
  | write (v : Version τ ν)
  | delete
  | stat
  | read

namespace World

/-- A poll returns the dictionary, which it has read from the version of the
given time. -/
def returning (w : World τ ν) (store : Store τ ν) (source : Option τ) (data : Dict String ν) :
    World τ ν :=
  { w with store := store, polling := none, returns := w.returns ++ [(source, data)] }

variable [DecidableEq τ]

def step (w : World τ ν) : Step τ ν → World τ ν
  | .write v => { w with file := some v, written := w.written ++ [v.mtime] }
  | .delete =>
      match w.file with
      | none => w
      | some _ => { w with file := none, deletions := w.deletions + 1 }
  | .stat =>
      match w.polling with
      | some _ => w
      | none =>
          match w.store.stat w.file with
          | .ended store none => { w with store := store }
          | .ended store (some data) => w.returning store none data
          | .changed mtime => { w with polling := some mtime }
  | .read =>
      match w.polling with
      | none => w
      | some mtime =>
          match w.store.read mtime w.file with
          | (store, .returned (some data)) =>
              w.returning store (w.file.map Version.mtime) data
          | (store, _) => { w with store := store, polling := none }

omit [DecidableEq τ] in
/-- A new store, beside the file it finds. -/
def start (file : Option (Version τ ν)) : World τ ν :=
  { file := file
    store := {}
    polling := none
    written := (file.map Version.mtime).toList
    returns := []
    deletions := 0 }

end World

/-! ## Once per change -/

/-- Each write gives the file a new time. -/
def Step.Fresh (w : World τ ν) : Step τ ν → Prop
  | .write v => v.mtime ∉ w.written
  | .delete | .stat | .read => True

instance [DecidableEq τ] (w : World τ ν) : ∀ a : Step τ ν, Decidable (a.Fresh w)
  | .write v => inferInstanceAs (Decidable (v.mtime ∉ w.written))
  | .delete | .stat | .read => isTrue trivial

namespace World

/-- The times of the versions whose content was returned. -/
def sources (w : World τ ν) : List τ := w.returns.filterMap Prod.fst

/-- The reports of a missing file. -/
def reports (w : World τ ν) : List (Option τ × Dict String ν) :=
  w.returns.filter (fun r => r.1.isNone)

/-- The file is gone, and the store still stands for it. -/
def Unreported (w : World τ ν) : Prop := w.file = none ∧ w.store.mtime ≠ none

instance (w : World τ ν) : Decidable w.Unreported :=
  decidable_of_iff (w.file.isNone ∧ w.store.mtime.isSome)
    (by simp [Unreported, Option.isSome_iff_ne_none])

theorem not_unreported {w : World τ ν} {v : Version τ ν} (hfile : w.file = some v) :
    ¬ w.Unreported :=
  fun hun => by simp [hun.1] at hfile

section Returning

variable (w : World τ ν) (store : Store τ ν) (source : Option τ) (data : Dict String ν)

@[simp] theorem returning_sources :
    (w.returning store source data).sources = w.sources ++ source.toList := by
  cases source <;> simp [returning, World.sources]

@[simp] theorem returning_reports :
    (w.returning store source data).reports =
      w.reports ++ (if source.isNone then [(source, data)] else []) := by
  cases source <;> simp [returning, reports]

@[simp] theorem returning_deletions :
    (w.returning store source data).deletions = w.deletions := rfl

@[simp] theorem returning_file : (w.returning store source data).file = w.file := rfl

end Returning

variable [DecidableEq τ]

/-- What is promised: every content is returned at most once; a file that
cannot be parsed changes nothing and is read again; every deletion is reported
once, by an empty dictionary; and a poll of a file at rest leaves the snapshot
equal to it. -/
structure OncePerChange (w : World τ ν) : Prop where
  once : w.sources.Nodup
  kept : ∀ v, w.file = some v → v.content.overrides = none →
    (w.step .read).store = w.store ∧ (w.step .stat).store = w.store ∧
      (w.polling = none → (w.step .stat).polling = some v.mtime)
  reported : w.deletions = w.reports.length + (if w.Unreported then 1 else 0)
  empty : ∀ r ∈ w.reports, r.2 = Dict.empty
  due : w.Unreported → w.polling = none →
    (w.step .stat).returns = w.returns ++ [(none, Dict.empty)]
  gone : w.polling = none → w.file = none →
    ((w.step .stat).step .read).store.cache = Dict.empty
  settled : ∀ v overrides, w.polling = none → w.file = some v →
    v.content.overrides = some overrides →
    ((w.step .stat).step .read).store.cache = overrides

end World

/-- A step of the store. -/
def Step.IsPoll : Step τ ν → Prop
  | .stat | .read => True
  | .write _ | .delete => False

/-- The promises hold, however the store goes on. -/
def World.AppliesOnce [DecidableEq τ] (w : World τ ν) : Prop :=
  ∀ polls : List (Step τ ν), (∀ a ∈ polls, a.IsPoll) →
    (polls.foldl World.step w).OncePerChange

/-- The writer neither writes what can be parsed nor deletes while a poll is
between its two steps; what it deletes is a file of which the store holds a
version; and the deletion has been reported when it writes again. -/
def Step.Undisturbed (w : World τ ν) : Step τ ν → Prop
  | .write v =>
      (w.file = none → w.store.mtime = none) ∧ (v.content.overrides = none ∨ w.polling = none)
  | .delete => w.file ≠ none → w.store.mtime ≠ none ∧ w.polling = none
  | .stat | .read => True

instance (w : World τ ν) : ∀ a : Step τ ν, Decidable (a.Undisturbed w)
  | .write v => inferInstanceAs (Decidable ((w.file = none → w.store.mtime = none) ∧
      (v.content.overrides = none ∨ w.polling = none)))
  | .delete => inferInstanceAs (Decidable (w.file ≠ none →
      w.store.mtime ≠ none ∧ w.polling = none))
  | .stat | .read => isTrue trivial

/-! ## What the steps of a poll do -/

theorem readFile_of_overrides {v : Version τ ν} {data : Dict String ν}
    (h : v.content.overrides = some data) : readFile (some v) = .parsed data := by
  unfold readFile
  cases hc : v.content <;> rw [hc] at h <;> simp_all [Content.overrides]

/-- A file that cannot be parsed leaves the store alone, whether the poll
returns or raises. -/
theorem Store.read_unparsed (store : Store τ ν) (mtime : τ) {v : Version τ ν}
    (h : v.content.overrides = none) :
    (store.read mtime (some v)).1 = store ∧
      ∀ data, (store.read mtime (some v)).2 ≠ .returned (some data) := by
  unfold Store.read readFile
  cases hc : v.content <;> rw [hc] at h <;> simp_all [Content.overrides]

namespace World

variable [DecidableEq τ] {w : World τ ν}

theorem step_stat_polling {mtime : τ} (h : w.polling = some mtime) : w.step .stat = w := by
  simp only [step, h]

theorem step_stat_gone (hpolling : w.polling = none) (hfile : w.file = none)
    (hmtime : w.store.mtime ≠ none) :
    w.step .stat = w.returning { mtime := none, cache := Dict.empty } none Dict.empty := by
  simp only [step, hpolling, hfile, Store.stat, if_pos hmtime]

theorem step_stat_absent (hpolling : w.polling = none) (hfile : w.file = none)
    (hmtime : w.store.mtime = none) : w.step .stat = w := by
  cases w
  simp_all [step, Store.stat]

theorem step_stat_known (hpolling : w.polling = none) {v : Version τ ν} (hfile : w.file = some v)
    (hmtime : w.store.mtime = some v.mtime) : w.step .stat = w := by
  cases w
  simp_all [step, Store.stat]

theorem step_stat_changed (hpolling : w.polling = none) {v : Version τ ν}
    (hfile : w.file = some v) (hmtime : w.store.mtime ≠ some v.mtime) :
    w.step .stat = { w with polling := some v.mtime } := by
  simp only [step, hpolling, hfile, Store.stat, if_neg hmtime]

theorem step_read_idle (h : w.polling = none) : w.step .read = w := by
  simp only [step, h]

theorem step_read_unparsed {mtime : τ} (hpolling : w.polling = some mtime) {v : Version τ ν}
    (hfile : w.file = some v) (h : v.content.overrides = none) :
    w.step .read = { w with polling := none } := by
  obtain ⟨hstore, hresult⟩ := w.store.read_unparsed mtime h
  simp only [step, hpolling, hfile]
  revert hstore hresult
  generalize w.store.read mtime (some v) = r
  obtain ⟨store, result⟩ := r
  rintro rfl hresult
  cases result with
  | raised => rfl
  | returned result =>
      cases result with
      | none => rfl
      | some data => exact absurd rfl (hresult data)

theorem step_read_parsed {mtime : τ} (hpolling : w.polling = some mtime) {v : Version τ ν}
    (hfile : w.file = some v) {data : Dict String ν} (h : v.content.overrides = some data) :
    w.step .read =
      w.returning { mtime := some mtime, cache := data } (some v.mtime) data := by
  simp only [step, hpolling, hfile, Store.read, readFile_of_overrides h, Option.map_some]

theorem step_read_gone {mtime : τ} (hpolling : w.polling = some mtime) (hfile : w.file = none) :
    w.step .read = w.returning { mtime := some mtime, cache := Dict.empty } none Dict.empty := by
  simp only [step, hpolling, hfile, Store.read, readFile, Option.map_none]

end World

/-! ## Without a writer in between -/

section Quiet

def Content.ofText : OverridesText → Content ConfigValue
  | .bad => .rejected
  | .dict data => .dict data
  | .wrapped overrides => .wrapped overrides
  | .other => .other

def Version.ofFile (file : OverridesFile) : Version ℕ ConfigValue :=
  { mtime := file.mtime, content := .ofText file.text }

def Store.ofConfig (store : ConfigStore) : Store ℕ ConfigValue :=
  { mtime := store.mtime, cache := store.cache }

theorem Version.overrides_ofFile (file : OverridesFile) :
    (Version.ofFile file).content.overrides = file.read := by
  unfold Version.ofFile OverridesFile.read
  cases file.text <;> rfl

/-- The two steps together are `ConfigStore.poll`. -/
theorem World.poll_of_quiet {w : World ℕ ConfigValue} {store : ConfigStore}
    {file : Option OverridesFile} (hpolling : w.polling = none)
    (hstore : w.store = .ofConfig store) (hfile : w.file = file.map .ofFile) :
    ((w.step .stat).step .read).store = .ofConfig (store.poll file).1 := by
  have hmtime : w.store.mtime = store.mtime := by rw [hstore]; rfl
  cases file with
  | none =>
      by_cases hnone : store.mtime = none
      · rw [step_stat_absent hpolling hfile (hmtime.trans hnone), step_read_idle hpolling, hstore]
        simp [ConfigStore.poll, hnone]
      · rw [step_stat_gone hpolling hfile (by rwa [hmtime]), step_read_idle rfl]
        simp [ConfigStore.poll, hnone, returning, Store.ofConfig]
  | some f =>
      have hv : w.file = some (.ofFile f) := hfile
      by_cases hsame : store.mtime = some f.mtime
      · rw [step_stat_known hpolling hv (hmtime.trans hsame), step_read_idle hpolling, hstore]
        simp [ConfigStore.poll, hsame]
      · have hchanged := step_stat_changed hpolling hv (by rwa [hmtime])
        cases hread : f.read with
        | none =>
            rw [step_read_unparsed (by rw [hchanged]) (by rw [hchanged]; exact hv)
              ((Version.overrides_ofFile f).trans hread), hchanged]
            simpa [ConfigStore.poll, hsame, hread] using hstore
        | some data =>
            rw [step_read_parsed (by rw [hchanged]) (by rw [hchanged]; exact hv)
              ((Version.overrides_ofFile f).trans hread)]
            simp [ConfigStore.poll, hsame, hread, returning, Store.ofConfig, Version.ofFile]

theorem World.polling_step_read [DecidableEq τ] (w : World τ ν) : (w.step .read).polling = none := by
  cases hpolling : w.polling with
  | none => rw [step_read_idle hpolling, hpolling]
  | some mtime =>
      simp only [step, hpolling]
      split
      · rfl
      · rfl

/-- The file is put in place, and polled before the writer is back. -/
def quietPoll (file : Option OverridesFile) : List (Step ℕ ConfigValue) :=
  [file.elim .delete (fun f => .write (.ofFile f)), .stat, .read]

/-- As long as the writer keeps out of the polls, a store that polls in two steps goes
through the states of `ConfigStore`, whatever becomes of the file. -/
theorem World.quietPolls_store (file : Option OverridesFile) (files : List (Option OverridesFile)) :
    ((files.flatMap quietPoll).foldl World.step (World.start (file.map .ofFile))).store =
      .ofConfig (files.foldl (fun store f => (store.poll f).1) {}) := by
  have hrun (w : World ℕ ConfigValue) (store : ConfigStore) (hpolling : w.polling = none)
      (hstore : w.store = .ofConfig store) : ((files.flatMap quietPoll).foldl World.step w).store =
        .ofConfig (files.foldl (fun store f => (store.poll f).1) store) := by
    induction files generalizing w store with
    | nil => exact hstore
    | cons f rest ih =>
        rw [List.flatMap_cons, List.foldl_append]
        refine ih _ _ (World.polling_step_read _) (World.poll_of_quiet ?_ ?_ ?_)
        all_goals
          cases f with
          | some f => first | exact hpolling | exact hstore | rfl
          | none => cases hfile : w.file <;> simp [step, hfile, hpolling, hstore]
  exact hrun _ _ rfl rfl

end Quiet

namespace World

variable [DecidableEq τ] {w : World τ ν}

/-! ## What every run keeps -/

/-- The store, whatever the writer does between the two steps of a poll. -/
structure Sound (w : World τ ν) : Prop where
  current : ∀ v, w.file = some v → v.mtime ∈ w.written
  seen : ∀ mtime, w.store.mtime = some mtime → mtime ∈ w.written
  pending : ∀ mtime, w.polling = some mtime → mtime ∈ w.written ∧ w.store.mtime ≠ some mtime
  absent : w.store.mtime = none → w.store.cache = Dict.empty
  cached : ∀ v, w.file = some v → w.store.mtime = some v.mtime →
    v.content.overrides = some w.store.cache
  sources : ∀ mtime ∈ w.sources, mtime ∈ w.written
  empty : ∀ r ∈ w.reports, r.2 = Dict.empty

omit [DecidableEq τ] in
theorem start_sound (file : Option (Version τ ν)) : (start file).Sound := by
  refine ⟨fun v hv => ?_, fun _ h => ?_, fun _ h => ?_, fun _ => rfl, fun _ _ h => ?_,
    fun _ h => ?_, fun _ h => ?_⟩
  · simp only [start] at hv ⊢
    simp [hv]
  all_goals simp [start, World.sources, reports] at h

theorem Sound.write (h : w.Sound) {v : Version τ ν} (hfresh : v.mtime ∉ w.written) :
    (w.step (.write v)).Sound := by
  constructor
  case current =>
    intro v' hv'
    rw [← Option.some.inj hv']
    exact List.mem_append_right _ List.mem_cons_self
  case seen => exact fun mtime hm => List.mem_append_left _ (h.seen mtime hm)
  case pending =>
    exact fun mtime hm => ⟨List.mem_append_left _ (h.pending mtime hm).1, (h.pending mtime hm).2⟩
  case absent => exact h.absent
  case cached =>
    intro v' hv' hmtime
    rw [← Option.some.inj hv'] at hmtime
    exact absurd (h.seen _ hmtime) hfresh
  case sources => exact fun mtime hm => List.mem_append_left _ (h.sources mtime hm)
  case empty => exact h.empty

theorem Sound.delete (h : w.Sound) : (w.step .delete).Sound := by
  cases hfile : w.file with
  | none =>
      simp only [step, hfile]
      exact h
  | some v =>
      simp only [step, hfile]
      exact { h with
        current := fun _ hv => by simp at hv
        cached := fun _ hv => by simp at hv }

omit [DecidableEq τ] in
/-- A poll that returns what the file holds, or what it holds no more. -/
theorem Sound.returning (h : w.Sound) {store : Store τ ν} {source : Option τ}
    {data : Dict String ν} (hseen : ∀ mtime, store.mtime = some mtime → mtime ∈ w.written)
    (habsent : store.mtime = none → store.cache = Dict.empty)
    (hcached : ∀ v, w.file = some v → store.mtime = some v.mtime →
      v.content.overrides = some store.cache)
    (hsource : ∀ mtime, source = some mtime → mtime ∈ w.written)
    (hempty : source = none → data = Dict.empty) : (w.returning store source data).Sound := by
  constructor
  case current => exact h.current
  case seen => exact hseen
  case pending => exact fun _ hm => by simp [World.returning] at hm
  case absent => exact habsent
  case cached => exact hcached
  case sources =>
    intro mtime hm
    rw [returning_sources, List.mem_append] at hm
    rcases hm with hm | hm
    · exact h.sources mtime hm
    · exact hsource mtime (Option.mem_toList.mp hm)
  case empty =>
    intro r hr
    rw [returning_reports, List.mem_append] at hr
    rcases hr with hr | hr
    · exact h.empty r hr
    · cases source with
      | some mtime => simp at hr
      | none => simpa [List.mem_singleton.mp hr] using hempty rfl

theorem Sound.stat (h : w.Sound) : (w.step .stat).Sound := by
  cases hpolling : w.polling with
  | some mtime =>
      rw [step_stat_polling hpolling]
      exact h
  | none =>
      cases hfile : w.file with
      | none =>
          by_cases hmtime : w.store.mtime = none
          · rw [step_stat_absent hpolling hfile hmtime]
            exact h
          · rw [step_stat_gone hpolling hfile hmtime]
            exact h.returning (fun _ hm => by simp at hm) (fun _ => rfl)
              (fun _ hv => by simp [hfile] at hv) (fun _ hm => by simp at hm) (fun _ => rfl)
      | some v =>
          by_cases hmtime : w.store.mtime = some v.mtime
          · rw [step_stat_known hpolling hfile hmtime]
            exact h
          · rw [step_stat_changed hpolling hfile hmtime]
            refine { h with pending := fun mtime hm => ?_ }
            rw [← Option.some.inj hm]
            exact ⟨h.current v hfile, hmtime⟩

theorem Sound.read (h : w.Sound) : (w.step .read).Sound := by
  cases hpolling : w.polling with
  | none =>
      rw [step_read_idle hpolling]
      exact h
  | some mtime =>
      have hpending := (h.pending mtime hpolling).1
      cases hfile : w.file with
      | none =>
          rw [step_read_gone hpolling hfile]
          exact h.returning (fun _ hm => Option.some.inj hm ▸ hpending) (fun hm => by simp at hm)
            (fun _ hv => by simp [hfile] at hv) (fun _ hm => by simp at hm) (fun _ => rfl)
      | some v =>
          cases hcontent : v.content.overrides with
          | none =>
              rw [step_read_unparsed hpolling hfile hcontent]
              exact { h with pending := fun _ hm => by simp at hm }
          | some data =>
              rw [step_read_parsed hpolling hfile hcontent]
              refine h.returning (fun _ hm => Option.some.inj hm ▸ hpending)
                (fun hm => by simp at hm) (fun v' hv' _ => ?_) (fun _ hm => ?_)
                (fun hm => by simp at hm)
              · rw [← Option.some.inj (hfile.symm.trans hv'), hcontent]
              · rw [← Option.some.inj hm]
                exact h.current v hfile

/-- A run of fresh writes keeps the store sound, in whatever order. -/
theorem Sound.step (h : w.Sound) {a : Step τ ν} (hfresh : a.Fresh w) : (w.step a).Sound := by
  cases a with
  | write v => exact h.write hfresh
  | delete => exact h.delete
  | stat => exact h.stat
  | read => exact h.read

/-- A file that cannot be parsed is read again by every poll. -/
theorem Sound.kept (h : w.Sound) {v : Version τ ν} (hfile : w.file = some v)
    (hcontent : v.content.overrides = none) :
    (w.step .read).store = w.store ∧ (w.step .stat).store = w.store ∧
      (w.polling = none → (w.step .stat).polling = some v.mtime) := by
  have hmtime : w.store.mtime ≠ some v.mtime := by
    intro hm
    have hcached := h.cached v hfile hm
    rw [hcontent] at hcached
    simp at hcached
  cases hpolling : w.polling with
  | none =>
      rw [step_read_idle hpolling, step_stat_changed hpolling hfile hmtime]
      exact ⟨rfl, rfl, fun _ => rfl⟩
  | some mtime =>
      rw [step_read_unparsed hpolling hfile hcontent, step_stat_polling hpolling]
      exact ⟨rfl, rfl, fun hnone => by simp at hnone⟩

/-- After a poll without a writer in between the snapshot is empty when there
is no file. -/
theorem Sound.gone (h : w.Sound) (hpolling : w.polling = none) (hfile : w.file = none) :
    ((w.step .stat).step .read).store.cache = Dict.empty := by
  by_cases hmtime : w.store.mtime = none
  · rw [step_stat_absent hpolling hfile hmtime, step_read_idle hpolling]
    exact h.absent hmtime
  · rw [step_stat_gone hpolling hfile hmtime, step_read_idle rfl]
    rfl

/-- And it is what the file holds when there is one. -/
theorem Sound.settled (h : w.Sound) (hpolling : w.polling = none) {v : Version τ ν}
    (hfile : w.file = some v) {overrides : Dict String ν}
    (hcontent : v.content.overrides = some overrides) :
    ((w.step .stat).step .read).store.cache = overrides := by
  by_cases hmtime : w.store.mtime = some v.mtime
  · rw [step_stat_known hpolling hfile hmtime, step_read_idle hpolling]
    have hcached := h.cached v hfile hmtime
    exact Option.some.inj (hcached.symm.trans hcontent)
  · have hchanged : w.step .stat = { w with polling := some v.mtime } :=
      step_stat_changed hpolling hfile hmtime
    have hread : (w.step .stat).step .read =
        (w.step .stat).returning { mtime := some v.mtime, cache := overrides } (some v.mtime)
          overrides :=
      step_read_parsed (by rw [hchanged]) (by rw [hchanged]; exact hfile) hcontent
    rw [hread]
    rfl

/-! ## What an undisturbed run keeps -/

/-- Besides, no content was returned twice, the one in the file only if the
store is up to date with it, the deletions are accounted for, and a poll that
has begun will read the version it has asked about, or none it can parse. -/
structure Exact (w : World τ ν) : Prop extends w.Sound where
  once : w.sources.Nodup
  returned : ∀ v, w.file = some v → v.mtime ∈ w.sources → w.store.mtime = some v.mtime
  counted : w.deletions = w.reports.length + (if w.Unreported then 1 else 0)
  ready : ∀ mtime, w.polling = some mtime →
    ∃ v, w.file = some v ∧ (v.content.overrides = none ∨ v.mtime = mtime)

omit [DecidableEq τ] in
theorem start_exact (file : Option (Version τ ν)) : (start file).Exact := by
  refine { start_sound file with
    once := ?_, returned := fun _ _ hm => ?_, counted := ?_, ready := fun _ hm => ?_ }
  · simp [start, World.sources]
  · simp [start, World.sources] at hm
  · simp [start, reports, Unreported]
  · simp [start] at hm

theorem Exact.write (h : w.Exact) {v : Version τ ν} (hfresh : v.mtime ∉ w.written)
    (hreported : w.file = none → w.store.mtime = none)
    (hquiet : v.content.overrides = none ∨ w.polling = none) : (w.step (.write v)).Exact := by
  refine { h.toSound.write hfresh with
    once := h.once, returned := fun v' hv' hm => ?_, counted := ?_, ready := fun mtime hm => ?_ }
  · rw [← Option.some.inj hv'] at hm
    exact absurd (h.sources v.mtime hm) hfresh
  · have hbefore : ¬ w.Unreported := fun hun => hun.2 (hreported hun.1)
    have hafter : ¬ (w.step (.write v)).Unreported := not_unreported rfl
    have hcounted := h.counted
    rw [if_neg hbefore] at hcounted
    rw [if_neg hafter]
    exact hcounted
  · have hpolling : w.polling = some mtime := hm
    exact ⟨v, rfl, .inl (hquiet.resolve_right (by simp [hpolling]))⟩

theorem Exact.delete (h : w.Exact)
    (hquiet : w.file ≠ none → w.store.mtime ≠ none ∧ w.polling = none) :
    (w.step .delete).Exact := by
  have hsound := h.toSound.delete
  cases hfile : w.file with
  | none =>
      simp only [World.step, hfile]
      exact h
  | some v =>
      obtain ⟨hloaded, hpolling⟩ := hquiet (by simp [hfile])
      simp only [World.step, hfile] at hsound ⊢
      refine { hsound with
        once := h.once, returned := fun _ hv => by simp at hv, counted := ?_,
        ready := fun _ hm => by simp [hpolling] at hm }
      have hcounted := h.counted
      rw [if_neg (not_unreported hfile)] at hcounted
      rw [if_pos ⟨rfl, hloaded⟩, hcounted]
      rfl

theorem Exact.stat (h : w.Exact) : (w.step .stat).Exact := by
  have hsound := h.toSound.stat
  cases hpolling : w.polling with
  | some mtime =>
      rw [step_stat_polling hpolling]
      exact h
  | none =>
      cases hfile : w.file with
      | none =>
          by_cases hmtime : w.store.mtime = none
          · rw [step_stat_absent hpolling hfile hmtime]
            exact h
          · rw [step_stat_gone hpolling hfile hmtime] at hsound ⊢
            refine { hsound with
              once := ?_, returned := fun _ hv => ?_, counted := ?_, ready := fun _ hm => ?_ }
            · simpa using h.once
            · simp [hfile] at hv
            · have hcounted := h.counted
              rw [if_pos ⟨hfile, hmtime⟩] at hcounted
              rw [if_neg (fun hun => hun.2 rfl), returning_reports]
              simpa using hcounted
            · simp [World.returning] at hm
      | some v =>
          by_cases hmtime : w.store.mtime = some v.mtime
          · rw [step_stat_known hpolling hfile hmtime]
            exact h
          · rw [step_stat_changed hpolling hfile hmtime] at hsound ⊢
            exact { hsound with
              once := h.once, returned := h.returned, counted := h.counted
              ready := fun mtime hm => ⟨v, hfile, .inr (Option.some.inj hm)⟩ }

/-- The content a poll returns is that of the version it has asked about, and
the store had not been up to date with it. -/
theorem Exact.read (h : w.Exact) : (w.step .read).Exact := by
  have hsound := h.toSound.read
  cases hpolling : w.polling with
  | none =>
      rw [step_read_idle hpolling]
      exact h
  | some mtime =>
      obtain ⟨v, hfile, hsame⟩ := h.ready mtime hpolling
      cases hcontent : v.content.overrides with
      | none =>
          rw [step_read_unparsed hpolling hfile hcontent] at hsound ⊢
          exact { hsound with
            once := h.once, returned := h.returned, counted := h.counted
            ready := fun _ hm => by simp at hm }
      | some data =>
          have hmtime : v.mtime = mtime := hsame.resolve_left (by simp [hcontent])
          have hnew : v.mtime ∉ w.sources := fun hm =>
            (h.pending mtime hpolling).2 (hmtime ▸ h.returned v hfile hm)
          rw [step_read_parsed hpolling hfile hcontent] at hsound ⊢
          refine { hsound with
            once := ?_, returned := fun v' hv' _ => ?_, counted := ?_, ready := fun _ hm => ?_ }
          · rw [returning_sources]
            exact List.nodup_append.mpr ⟨h.once, by simp, fun m hm n hn => by
              have hn' : v.mtime = n := Option.some.inj (Option.mem_toList.mp hn)
              exact fun heq => hnew ((heq.trans hn'.symm) ▸ hm)⟩
          · rw [← Option.some.inj (hfile.symm.trans hv'), hmtime]
            rfl
          · have hcounted := h.counted
            rw [if_neg (not_unreported hfile)] at hcounted
            have hafter := (returning_file w { mtime := some mtime, cache := data }
              (some v.mtime) data).trans hfile
            rw [if_neg (not_unreported hafter), returning_reports]
            simpa using hcounted
          · simp [World.returning] at hm

theorem Exact.step (h : w.Exact) {a : Step τ ν} (hfresh : a.Fresh w) (ha : a.Undisturbed w) :
    (w.step a).Exact := by
  cases a with
  | write v => exact h.write hfresh ha.1 ha.2
  | delete => exact h.delete ha
  | stat => exact h.stat
  | read => exact h.read

/-- The promises follow. -/
theorem Exact.oncePerChange (h : w.Exact) : w.OncePerChange := by
  constructor
  case once => exact h.once
  case kept => exact fun v hfile hcontent => h.toSound.kept hfile hcontent
  case reported => exact h.counted
  case empty => exact h.empty
  case due =>
    intro hun hpolling
    rw [step_stat_gone hpolling hun.1 hun.2]
    rfl
  case gone => exact fun hpolling hfile => h.toSound.gone hpolling hfile
  case settled =>
    exact fun v overrides hpolling hfile hcontent => h.toSound.settled hpolling hfile hcontent

/-- And they hold however the store goes on. -/
theorem Exact.appliesOnce (h : w.Exact) : w.AppliesOnce := by
  intro polls hpolls
  refine Exact.oncePerChange ?_
  induction polls generalizing w with
  | nil => exact h
  | cons a rest ih =>
      refine ih ?_ (fun b hb => hpolls b (List.mem_cons_of_mem a hb))
      cases a with
      | write v => exact absurd (hpolls _ List.mem_cons_self) id
      | delete => exact absurd (hpolls _ List.mem_cons_self) id
      | stat => exact h.stat
      | read => exact h.read

/-! ## What a disturbed poll does -/

/-- A valid version that has come between the two steps of a poll is returned
by it, under the old time, and again by the next poll. -/
theorem not_appliesOnce_replaced {mtime : τ} (hpolling : w.polling = some mtime)
    {v : Version τ ν} (hfile : w.file = some v) {data : Dict String ν}
    (hcontent : v.content.overrides = some data) (hother : v.mtime ≠ mtime) :
    ¬ w.AppliesOnce := by
  intro h
  have hread := step_read_parsed hpolling hfile hcontent
  have hstat : (w.step .read).step .stat = { w.step .read with polling := some v.mtime } := by
    refine step_stat_changed (by rw [hread]; rfl) (by rw [hread]; exact hfile) ?_
    rw [hread]
    exact fun hm => hother (Option.some.inj hm).symm
  have hagain : ((w.step .read).step .stat).step .read =
      ((w.step .read).step .stat).returning { mtime := some v.mtime, cache := data }
        (some v.mtime) data :=
    step_read_parsed (by rw [hstat]) (by rw [hstat, hread]; exact hfile) hcontent
  have honce := (h [.read, .stat, .read] (by simp [Step.IsPoll])).once
  change (((w.step .read).step .stat).step .read).sources.Nodup at honce
  rw [hagain, returning_sources, hstat] at honce
  have htwice : v.mtime ∈ (w.step .read).sources := by
    rw [hread, returning_sources]
    simp
  exact (List.nodup_append.mp honce).2.2 v.mtime htwice v.mtime (by simp) rfl

/-- A file that has vanished between the two steps of a poll is reported by
it, and again by the next poll. -/
theorem not_appliesOnce_vanished (h : w.Exact) {v : Version τ ν} (hfile : w.file = some v)
    {mtime : τ} (hpolling : w.polling = some mtime) : ¬ (w.step .delete).AppliesOnce := by
  intro happlies
  have hdelete : w.step .delete = { w with file := none, deletions := w.deletions + 1 } := by
    simp only [World.step, hfile]
  have hread : (w.step .delete).step .read =
      (w.step .delete).returning { mtime := some mtime, cache := Dict.empty } none Dict.empty :=
    step_read_gone (by rw [hdelete]; exact hpolling) (by rw [hdelete])
  have hreported := (happlies [.read] (by simp [Step.IsPoll])).reported
  change ((w.step .delete).step .read).deletions =
    ((w.step .delete).step .read).reports.length +
      (if ((w.step .delete).step .read).Unreported then 1 else 0) at hreported
  have hunreported : ((w.step .delete).step .read).Unreported := by
    rw [hread, hdelete]
    exact ⟨rfl, fun hnone => by simp [World.returning] at hnone⟩
  have hcounted := h.counted
  rw [if_neg (not_unreported hfile)] at hcounted
  rw [if_pos hunreported, hread, returning_reports, returning_deletions, hdelete] at hreported
  have hsame : ({ w with file := none, deletions := w.deletions + 1 } : World τ ν).reports =
      w.reports := rfl
  simp only [hsame, Option.isNone_none, if_true, List.length_append, List.length_singleton]
    at hreported
  omega

/-- A deletion that no poll reports. -/
theorem not_appliesOnce_unloaded (h : w.Exact) {v : Version τ ν} (hfile : w.file = some v)
    (hmtime : w.store.mtime = none) : ¬ (w.step .delete).AppliesOnce := by
  intro happlies
  have hreported := (happlies [] (by simp)).reported
  have hdelete : w.step .delete = { w with file := none, deletions := w.deletions + 1 } := by
    simp only [World.step, hfile]
  have hcounted := h.counted
  rw [if_neg (not_unreported hfile)] at hcounted
  rw [List.foldl_nil, hdelete, if_neg (fun hun => hun.2 hmtime)] at hreported
  have hsame : ({ w with file := none, deletions := w.deletions + 1 } : World τ ν).reports =
      w.reports := rfl
  rw [hsame] at hreported
  simp only at hreported
  omega

/-- A deletion that the next version overtakes. -/
theorem not_appliesOnce_overtaken (h : w.Exact) (hunreported : w.Unreported) (v : Version τ ν) :
    ¬ (w.step (.write v)).AppliesOnce := by
  intro happlies
  have hreported := (happlies [] (by simp)).reported
  have hafter : ¬ (w.step (.write v)).Unreported := not_unreported rfl
  have hcounted := h.counted
  rw [if_pos hunreported] at hcounted
  rw [List.foldl_nil, if_neg hafter] at hreported
  have hdeletions : (w.step (.write v)).deletions = w.deletions := rfl
  have hreports : (w.step (.write v)).reports = w.reports := rfl
  rw [hdeletions, hreports] at hreported
  omega

/-- The writer disturbs exactly when a promise breaks, now or in the polls
that follow. -/
theorem Exact.undisturbed_of_appliesOnce (h : w.Exact) {a : Step τ ν} (hfresh : a.Fresh w)
    (happlies : (w.step a).AppliesOnce) : a.Undisturbed w := by
  cases a with
  | stat => trivial
  | read => trivial
  | write v =>
      constructor
      · intro hfile
        by_contra hmtime
        exact not_appliesOnce_overtaken h ⟨hfile, hmtime⟩ v happlies
      · cases hcontent : v.content.overrides with
        | none => exact .inl rfl
        | some data =>
            refine .inr ?_
            cases hpolling : w.polling with
            | none => rfl
            | some mtime =>
                have hother : v.mtime ≠ mtime :=
                  fun heq => hfresh (heq ▸ (h.pending mtime hpolling).1)
                exact absurd happlies
                  (not_appliesOnce_replaced (w := w.step (.write v)) hpolling rfl hcontent hother)
  | delete =>
      intro hfile
      obtain ⟨v, hv⟩ := Option.ne_none_iff_exists'.mp hfile
      constructor
      · exact fun hmtime => not_appliesOnce_unloaded h hv hmtime happlies
      · cases hpolling : w.polling with
        | none => rfl
        | some mtime => exact absurd happlies (not_appliesOnce_vanished h hv hpolling)

/-- In every run in which each write gives the file a new time, and in whatever
polls follow, every change is applied once, exactly if the writer keeps out of
the polls and every deletion is of a file that has been loaded, and is polled
before the next write. -/
theorem appliesOnce_iff (file : Option (Version τ ν)) (steps : List (Step τ ν))
    (hfresh : AllOk World.step (fun w a => a.Fresh w) (start file) steps) :
    (∀ before, before <+: steps → (before.foldl World.step (start file)).AppliesOnce) ↔
      AllOk World.step (fun w a => a.Undisturbed w) (start file) steps := by
  have hkept : ∀ w : World τ ν, w.Exact → w.AppliesOnce := fun _ h => h.appliesOnce
  have hstep : ∀ (w : World τ ν) (a : Step τ ν), w.Exact → a.Fresh w →
      ((w.step a).AppliesOnce → a.Undisturbed w) ∧ (a.Undisturbed w → (w.step a).Exact) :=
    fun _ _ h hgiven => ⟨h.undisturbed_of_appliesOnce hgiven, fun ha => h.step hgiven ha⟩
  exact AllOk.kept_iff_of hkept hstep steps (start_exact file) hfresh

end World

/-! ## A run of each kind -/

/-- The content `{}`. -/
def demoVersion (mtime : ℕ) : Version ℕ ℕ := { mtime := mtime, content := .dict Dict.empty }

/-- Two versions, each polled, and a deletion. -/
def demoPolled : List (Step ℕ ℕ) :=
  [ .write (demoVersion 1), .stat, .read, .write { mtime := 2, content := .rejected }, .stat,
    .write { mtime := 3, content := .escaping }, .read, .write (demoVersion 4), .stat, .read,
    .delete, .stat ]

theorem demoPolled_appliesOnce :
    AllOk World.step (fun w a => a.Undisturbed w) (World.start none) demoPolled ∧
      ∀ before, before <+: demoPolled →
        (before.foldl World.step (World.start none)).AppliesOnce := by
  have hquiet : AllOk World.step (fun w a => a.Undisturbed w) (World.start none) demoPolled := by
    decide
  exact ⟨hquiet, (World.appliesOnce_iff none demoPolled (by decide)).mpr hquiet⟩

/-- The second version comes between the two steps of the first poll, which
returns it.  So does the second poll. -/
theorem not_oncePerChange_replaced :
    ¬ ∀ (file : Option (Version ℕ ℕ)) (steps : List (Step ℕ ℕ)),
      AllOk World.step (fun w a => a.Fresh w) (World.start file) steps →
        (steps.foldl World.step (World.start file)).OncePerChange := by
  intro h
  have hrun := h none
    [.write (demoVersion 1), .stat, .write (demoVersion 2), .read, .stat, .read]
    (by decide)
  exact absurd hrun.once (by decide)

end CryptoTrader.OverridesPoll
