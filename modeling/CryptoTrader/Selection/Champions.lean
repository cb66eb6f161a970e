import CryptoTrader.Engine.ConfigStore
import Mathlib.Data.List.Sort
import Mathlib.Data.String.Basic

/-!
# The champions file

`selection/champions.py`, and what a champion makes of a base configuration.  Two
champions with one signature, the mode and the sorted parameters, make the same of it.
-/

namespace CryptoTrader

open CryptoTrader.Lib

/-- An entry of the file; `params` is empty where it is missing. -/
structure ChampionEntry where
  strategyMode : Option ConfigValue
  params : Dict String ConfigValue
  deriving DecidableEq

/-- What `json.load` makes of the champions file: it raises, or the object has
`"champions"`, or not. -/
inductive ChampionsText where
  | bad
  | champions (entries : Dict String ChampionEntry)
  | other
  deriving DecidableEq

structure ChampionsFile where
  mtime : ℕ
  text : ChampionsText
  deriving DecidableEq

/-- `load_champions`. -/
def loadChampions (file : Option ChampionsFile) : Dict String ChampionEntry :=
  match file with
  | some { text := .champions entries, .. } => entries
  | _ => Dict.empty

/-- An entry that names a strategy. -/
structure Champion where
  strategyMode : ConfigValue
  params : Dict String ConfigValue
  validated : strategyMode ≠ .str "none"
  deriving DecidableEq

/-- `champion_for`. -/
def championFor (symbol : String) (file : Option ChampionsFile) : Option Champion :=
  match (loadChampions file).get? symbol with
  | none => none
  | some entry =>
      let mode := entry.strategyMode.getD (.str "none")
      if h : mode = .str "none" then none
      else some { strategyMode := mode, params := entry.params, validated := h }

/-! ## Signatures -/

abbrev ChampionSig := ConfigValue × List (String × ConfigValue)

/-- `(strategy_mode, tuple(sorted(params.items())))`, and `("none", ())` without a
champion. -/
def championSig : Option Champion → ChampionSig
  | some c => (c.strategyMode, c.params.entries.insertionSort (fun a b => a.1 ≤ b.1))
  | none => (.str "none", [])

/-- `replace(base, **overrides)` with the mode and those of the parameters that `base`
has. -/
def Champion.resolve (c : Champion) (base : Config) : Config :=
  (base.assign "strategy_mode" c.strategyMode).assignAll c.params.entries

/-- The configuration of a champion entry, or the base. -/
def resolveChampion (champ : Option Champion) (base : Config) : Config :=
  champ.elim base (fun c => c.resolve base)

section Resolve

variable {champ champ' : Option Champion} {base base' : Config} {k : String}

theorem isSome_resolveChampion :
    (resolveChampion champ base k).isSome = (base k).isSome := by
  cases champ with
  | none => rfl
  | some c => simp [resolveChampion, Champion.resolve]

/-- An attribute comes from the champion or from the attribute of the base. -/
theorem resolveChampion_congr (h : base k = base' k) :
    resolveChampion champ base k = resolveChampion champ base' k := by
  cases champ with
  | none => exact h
  | some c =>
      simp only [resolveChampion, Option.elim_some, Champion.resolve, Attributes.assignAll_entries]
      by_cases hk : k = "strategy_mode"
      · subst hk
        simp [h]
      · simp [hk, h]

theorem resolveChampion_param {c : Champion} {v : ConfigValue} (hv : c.params.get? k = some v) :
    resolveChampion (some c) base k = (base k).map (fun _ => v) := by
  simp only [resolveChampion, Option.elim_some, Champion.resolve, Attributes.assignAll_entries, hv]
  by_cases hk : k = "strategy_mode"
  · subst hk
    cases h : base "strategy_mode" <;> simp [h]
  · simp [hk]

/-- What the champion does not name is the base's. -/
theorem resolveChampion_rest {c : Champion} (hk : k ≠ "strategy_mode")
    (hv : c.params.get? k = none) : resolveChampion (some c) base k = base k := by
  simp [resolveChampion, Champion.resolve, Attributes.assignAll_entries, hv, hk]

/-- One signature, one configuration. -/
theorem resolveChampion_of_sig (h : championSig champ = championSig champ') :
    resolveChampion champ base = resolveChampion champ' base := by
  cases champ with
  | none =>
      cases champ' with
      | none => rfl
      | some d => exact absurd (congrArg Prod.fst h).symm d.validated
  | some c =>
      cases champ' with
      | none => exact absurd (congrArg Prod.fst h) c.validated
      | some d =>
          have hmode : c.strategyMode = d.strategyMode := congrArg Prod.fst h
          have hsorted := congrArg Prod.snd h
          have hperm : c.params.entries.Perm d.params.entries := by
            refine (List.perm_insertionSort (fun a b => a.1 ≤ b.1) _).symm.trans ?_
            exact (List.Perm.of_eq hsorted).trans (List.perm_insertionSort _ _)
          have hget : ∀ k, c.params.get? k = d.params.get? k := by
            intro k
            refine Option.ext (fun v => ?_)
            rw [← Dict.mem_entries_iff, ← Dict.mem_entries_iff, hperm.mem_iff]
          funext k
          simp only [resolveChampion, Option.elim_some, Champion.resolve,
            Attributes.assignAll_entries, hget, hmode]

end Resolve

end CryptoTrader
