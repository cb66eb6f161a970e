import CryptoTrader.Lib.Dict
import Mathlib.Logic.Function.Basic

/-!
# Keyed tables

A table with a primary key, as statements that name one key see it: each key
has a row or none.  The second half is about a dictionary that is kept in such
a table under a longer key, each value in the row of its key and of a second
part, its `mode`.  `ofDict` is the table such a dictionary stands for.
-/

namespace CryptoTrader.Lib

universe u v w x

/-- A table with rows `ρ` under the primary key `κ`. -/
abbrev Table (κ : Type u) (ρ : Type v) := κ → Option ρ

namespace Table

variable {κ : Type u} {ρ : Type v} {ν : Type w} {μ : Type x} [DecidableEq κ] [DecidableEq μ]

/-- A table without rows. -/
def empty : Table κ ρ := fun _ => none

/-- `INSERT … ON CONFLICT DO UPDATE`: a row that is there is merged with the
new one. -/
def upsert (merge : ρ → ρ → ρ) (t : Table κ ρ) (key : κ) (row : ρ) : Table κ ρ :=
  Function.update t key (some (match t key with | none => row | some old => merge old row))

/-- `UPDATE … WHERE key = …`. -/
def modify (t : Table κ ρ) (key : κ) (f : ρ → ρ) : Table κ ρ :=
  Function.update t key ((t key).map f)

/-- `DELETE … WHERE key = …`. -/
def delete (t : Table κ ρ) (key : κ) : Table κ ρ := Function.update t key none

/-! ## Dictionaries in a table -/

variable (mode : ν → μ) (row : ν → ρ)

/-- The table of a dictionary whose values are kept under their key and mode. -/
def ofDict (d : Dict κ ν) : Table (κ × μ) ρ := fun key =>
  ((d.get? key.1).filter (fun v => mode v = key.2)).map row

variable {mode row} {d : Dict κ ν}

theorem ofDict_of_none {k : κ} (h : d.get? k = none) (m : μ) : ofDict mode row d (k, m) = none := by
  simp [ofDict, h]

theorem ofDict_of_some {k : κ} {v : ν} (h : d.get? k = some v) (m : μ) :
    ofDict mode row d (k, m) = if mode v = m then some (row v) else none := by
  by_cases hm : mode v = m
  · simp [ofDict, h, hm]
  · simp [ofDict, h, hm]

/-- The rows of a key depend on its value alone. -/
theorem ofDict_congr {d' : Dict κ ν} {k' : κ} (h : d'.get? k' = d.get? k') (m : μ) :
    ofDict mode row d' (k', m) = ofDict mode row d (k', m) := by
  simp [ofDict, h]

/-- A statement on the row of `k` and `m`, and a change to the value of `k`, do
the same exactly if they do the same to the rows of `k`. -/
theorem update_eq_ofDict_iff {d' : Dict κ ν} {k : κ}
    (hother : ∀ k', k ≠ k' → d'.get? k' = d.get? k') (m : μ) (r : Option ρ) :
    Function.update (ofDict mode row d) (k, m) r = ofDict mode row d' ↔
      r = ofDict mode row d' (k, m) ∧
        ∀ m', m' ≠ m → ofDict mode row d (k, m') = ofDict mode row d' (k, m') := by
  constructor
  · intro h
    constructor
    · rw [← h, Function.update_self]
    · intro m' hm
      rw [← h, Function.update_of_ne (by simp [hm])]
  · rintro ⟨hhere, hmodes⟩
    funext ⟨k', m'⟩
    by_cases hk : k = k'
    · subst hk
      by_cases hm : m' = m
      · subst hm
        rw [Function.update_self, hhere]
      · rw [Function.update_of_ne (by simp [hm]), hmodes m' hm]
    · rw [Function.update_of_ne (by simp [Ne.symm hk]), ofDict_congr (hother k' hk)]

variable (mode row)

/-- An upsert writes a value of the dictionary, exactly if an old value has its
mode and the merged row is the new one. -/
theorem upsert_eq_set_iff (merge : ρ → ρ → ρ) (k : κ) (v : ν) :
    (ofDict mode row d).upsert merge (k, mode v) (row v) = ofDict mode row (d.set k v) ↔
      ∀ old ∈ d.get? k, mode old = mode v ∧ merge (row old) (row v) = row v := by
  rw [upsert, update_eq_ofDict_iff (fun k' hk => d.get?_set_ne v hk)]
  have hset := d.get?_set_self k v
  rw [ofDict_of_some hset, if_pos rfl]
  cases hold : d.get? k with
  | none =>
      rw [ofDict_of_none hold]
      simp only [Option.mem_def, reduceCtorEq, false_implies, implies_true, iff_true, true_and]
      intro m hm
      rw [ofDict_of_none hold, ofDict_of_some hset, if_neg (Ne.symm hm)]
  | some old =>
      simp only [Option.mem_def, Option.some.injEq, forall_eq']
      by_cases hmode : mode old = mode v
      · rw [ofDict_of_some hold, if_pos hmode]
        simp only [hmode, true_and]
        constructor
        · exact fun h => h.1
        · intro h
          refine ⟨h, fun m hm => ?_⟩
          rw [ofDict_of_some hold, ofDict_of_some hset, hmode]
          simp [Ne.symm hm]
      · simp only [hmode, false_and, iff_false, not_and]
        intro _ hmodes
        have hleft := hmodes (mode old) hmode
        rw [ofDict_of_some hold, ofDict_of_some hset, if_pos rfl, if_neg (Ne.symm hmode)] at hleft
        exact absurd hleft (by simp)

/-- An update changes a value of the dictionary, exactly if the value has the
mode and is changed alike, or has another mode and its row does not change. -/
theorem modify_eq_modify_iff (k : κ) (m : μ) (f : ρ → ρ) {g : ν → ν}
    (hg : ∀ v, mode (g v) = mode v) :
    (ofDict mode row d).modify (k, m) f = ofDict mode row (d.modify k g) ↔
      ∀ v ∈ d.get? k, row (g v) = if mode v = m then f (row v) else row v := by
  rw [modify, update_eq_ofDict_iff (fun k' hk => d.get?_modify_ne g hk)]
  cases hold : d.get? k with
  | none =>
      have hnew : (d.modify k g).get? k = none := by simp [hold]
      simp [ofDict_of_none hold, ofDict_of_none hnew]
  | some v =>
      have hnew : (d.modify k g).get? k = some (g v) := by simp [hold]
      simp only [Option.mem_def, Option.some.injEq, forall_eq', ofDict_of_some hold,
        ofDict_of_some hnew, hg]
      by_cases hmode : mode v = m
      · subst hmode
        simp only [if_true, Option.map_some, Option.some.injEq]
        constructor
        · exact fun h => h.1.symm
        · intro h
          refine ⟨h.symm, fun m hm => ?_⟩
          rw [if_neg (Ne.symm hm), if_neg (Ne.symm hm)]
      · simp only [if_neg hmode, Option.map_none, true_and]
        constructor
        · intro h
          simpa using (h (mode v) hmode).symm
        · intro h m' _
          rw [h]

/-- A deletion takes a value out of the dictionary, exactly if the value has the
mode. -/
theorem delete_eq_erase_iff (k : κ) (m : μ) :
    (ofDict mode row d).delete (k, m) = ofDict mode row (d.erase k) ↔
      ∀ v ∈ d.get? k, mode v = m := by
  rw [delete, update_eq_ofDict_iff (fun k' hk => d.get?_erase_ne hk)]
  have herase := d.get?_erase_self k
  simp only [ofDict_of_none herase, true_and]
  cases hold : d.get? k with
  | none => simp [ofDict_of_none hold]
  | some v =>
      simp only [Option.mem_def, Option.some.injEq, forall_eq', ofDict_of_some hold]
      constructor
      · intro h
        by_contra hmode
        simpa using h (mode v) hmode
      · intro hmode m' hm
        rw [if_neg (by rw [hmode]; exact Ne.symm hm)]

/-- No statement takes a value out of the dictionary, exactly if there is none. -/
theorem eq_erase_iff (k : κ) :
    ofDict mode row d = ofDict mode row (d.erase k) ↔ d.get? k = none := by
  have herase := d.get?_erase_self k
  constructor
  · intro h
    cases hold : d.get? k with
    | none => rfl
    | some v =>
        have hrow := congrFun h (k, mode v)
        rw [ofDict_of_some hold, if_pos rfl, ofDict_of_none herase] at hrow
        exact absurd hrow (by simp)
  · intro hold
    funext ⟨k', m⟩
    by_cases hk : k = k'
    · subst hk
      rw [ofDict_of_none hold, ofDict_of_none herase]
    · exact (ofDict_congr (d.get?_erase_ne hk) m).symm

/-- Writing values under distinct keys into a table that has none of them. -/
theorem foldl_upsert (merge : ρ → ρ → ρ) (key : ν → κ) (l : List (κ × ν))
    (hnodup : (l.map Prod.fst).Nodup) (hkey : ∀ entry ∈ l, key entry.2 = entry.1) :
    ∀ t : Table (κ × μ) ρ, (∀ k ∈ l.map Prod.fst, ∀ m, t (k, m) = none) →
      ∀ k m, (l.map Prod.snd).foldl (fun t v => t.upsert merge (key v, mode v) (row v)) t (k, m) =
        match Dict.lookupIn k l with
        | none => t (k, m)
        | some v => if mode v = m then some (row v) else none := by
  induction l with
  | nil => simp [Dict.lookupIn]
  | cons entry rest ih =>
      obtain ⟨k₀, v₀⟩ := entry
      intro t hfree k m
      have hkey₀ : key v₀ = k₀ := hkey (k₀, v₀) List.mem_cons_self
      rw [List.map_cons, List.nodup_cons] at hnodup
      have hnone : t (k₀, mode v₀) = none := hfree k₀ (by simp) _
      have hput : t.upsert merge (key v₀, mode v₀) (row v₀) =
          Function.update t (k₀, mode v₀) (some (row v₀)) := by
        simp [upsert, hkey₀, hnone]
      rw [List.map_cons, List.foldl_cons, hput,
        ih hnodup.2 (fun entry hmem => hkey entry (List.mem_cons_of_mem _ hmem))]
      · by_cases hk : k₀ = k
        · subst hk
          have habsent : Dict.lookupIn k₀ rest = none := by
            rw [← Option.not_isSome_iff_eq_none, Dict.lookupIn_isSome_iff]
            exact hnodup.1
          simp only [habsent, Dict.lookupIn, if_true]
          by_cases hm : mode v₀ = m
          · subst hm
            rw [Function.update_self, if_pos rfl]
          · rw [Function.update_of_ne (by simp [Ne.symm hm]), if_neg hm, hfree k₀ (by simp)]
        · simp only [Dict.lookupIn, if_neg hk]
          rw [Function.update_of_ne (by simp [Ne.symm hk])]
      · intro k' hmem m'
        have hne : k' ≠ k₀ := by
          rintro rfl
          exact hnodup.1 hmem
        rw [Function.update_of_ne (by simp [hne])]
        exact hfree k' (List.mem_cons_of_mem _ hmem) m'

/-- Writing all values of a dictionary into an empty table. -/
theorem foldl_upsert_values (merge : ρ → ρ → ρ) (key : ν → κ)
    (hkey : ∀ k, ∀ v ∈ d.get? k, key v = k) :
    d.values.foldl (fun t v => t.upsert merge (key v, mode v) (row v)) empty = ofDict mode row d := by
  have hentries : ∀ entry ∈ d.entries, key entry.2 = entry.1 := by
    intro entry hmem
    exact hkey entry.1 entry.2 (d.get?_of_mem hmem)
  funext ⟨k, m⟩
  have hrows := foldl_upsert mode row merge key d.entries d.nodup hentries empty
    (fun _ _ _ => rfl) k m
  rw [Dict.values, hrows]
  cases hold : d.get? k with
  | none =>
      have hlookup : Dict.lookupIn k d.entries = none := hold
      rw [ofDict_of_none hold, hlookup]
      rfl
  | some v =>
      have hlookup : Dict.lookupIn k d.entries = some v := hold
      rw [ofDict_of_some hold, hlookup]

end Table

end CryptoTrader.Lib
