import Mathlib.Algebra.BigOperators.Group.Finset.Basic
import Mathlib.Data.List.Nodup
import Mathlib.Tactic.Abel

/-!
# Insertion-ordered dictionaries

A dictionary in the sense of Python's `dict`: a finite map whose iteration
order is the order of first insertion.  Writing a key that is present
replaces its value in place; writing a fresh key appends it.  `Finmap` and
`AList` forget or permute that order, and a loop over `dict.values()` can
observe it, so the order is kept here.
-/

namespace CryptoTrader.Lib

universe u v w

/-- An insertion-ordered finite map. -/
structure Dict (κ : Type u) (ν : Type v) where
  entries : List (κ × ν)
  nodup : (entries.map Prod.fst).Nodup

namespace Dict

variable {κ : Type u} {ν : Type v} {ω : Type w}

instance [DecidableEq κ] [DecidableEq ν] : DecidableEq (Dict κ ν) := fun d e =>
  decidable_of_iff (d.entries = e.entries) ⟨fun h => by cases d; cases e; congr, fun h => h ▸ rfl⟩

theorem ext {d e : Dict κ ν} (h : d.entries = e.entries) : d = e := by
  cases d; cases e; congr

/-- The dictionary `{}`. -/
def empty : Dict κ ν := ⟨[], List.nodup_nil⟩

instance : Inhabited (Dict κ ν) := ⟨empty⟩

/-- The keys, in iteration order. -/
def keys (d : Dict κ ν) : List κ := d.entries.map Prod.fst

/-- The values, in iteration order. -/
def values (d : Dict κ ν) : List ν := d.entries.map Prod.snd

/-- The number of keys. -/
def size (d : Dict κ ν) : Nat := d.entries.length

section Lookup

variable [DecidableEq κ]

/-- Lookup of `k` in a list of bindings. -/
def lookupIn (k : κ) : List (κ × ν) → Option ν
  | [] => none
  | (k', v) :: rest => if k' = k then some v else lookupIn k rest

/-- `d.get(k)`. -/
def get? (d : Dict κ ν) (k : κ) : Option ν := lookupIn k d.entries

/-- Replace the value bound to `k`, or append the binding. -/
def setIn (k : κ) (v : ν) : List (κ × ν) → List (κ × ν)
  | [] => [(k, v)]
  | (k', v') :: rest => if k' = k then (k, v) :: rest else (k', v') :: setIn k v rest

theorem mem_keys_setIn (k : κ) (v : ν) (l : List (κ × ν)) (x : κ) :
    x ∈ (setIn k v l).map Prod.fst ↔ x = k ∨ x ∈ l.map Prod.fst := by
  induction l with
  | nil => simp [setIn]
  | cons p rest ih =>
      obtain ⟨k', v'⟩ := p
      by_cases h : k' = k
      · subst h; simp [setIn]
      · simp only [setIn, h, if_false, List.map_cons, List.mem_cons, ih]
        exact or_left_comm

theorem nodup_setIn (k : κ) (v : ν) (l : List (κ × ν))
    (hl : (l.map Prod.fst).Nodup) : ((setIn k v l).map Prod.fst).Nodup := by
  induction l with
  | nil => simp [setIn]
  | cons p rest ih =>
      obtain ⟨k', v'⟩ := p
      simp only [List.map_cons, List.nodup_cons] at hl
      by_cases h : k' = k
      · subst h; simpa [setIn] using hl
      · simp only [setIn, h, if_false, List.map_cons, List.nodup_cons]
        refine ⟨?_, ih hl.2⟩
        rw [mem_keys_setIn]
        rintro (h' | h')
        · exact h h'
        · exact hl.1 h'

/-- `d[k] = v`. -/
def set (d : Dict κ ν) (k : κ) (v : ν) : Dict κ ν :=
  ⟨setIn k v d.entries, nodup_setIn k v d.entries d.nodup⟩

/-- `del d[k]`, a no-op when `k` is absent. -/
def erase (d : Dict κ ν) (k : κ) : Dict κ ν :=
  ⟨d.entries.filter (fun p => p.1 ≠ k), by
    have h : (d.entries.filter (fun p => p.1 ≠ k)).map Prod.fst =
        (d.entries.map Prod.fst).filter (fun x => x ≠ k) := by
      rw [List.filter_map]; rfl
    rw [h]
    exact d.nodup.filter _⟩

/-- Mutate the value bound to `k` in place; nothing happens without one. -/
def modify (d : Dict κ ν) (k : κ) (f : ν → ν) : Dict κ ν :=
  match d.get? k with
  | some v => d.set k (f v)
  | none => d

@[simp] theorem get?_empty (k : κ) : (empty : Dict κ ν).get? k = none := rfl

theorem lookupIn_setIn (k : κ) (v : ν) (l : List (κ × ν)) (x : κ) :
    lookupIn x (setIn k v l) = if k = x then some v else lookupIn x l := by
  induction l with
  | nil => simp [setIn, lookupIn]
  | cons p rest ih =>
      obtain ⟨k', v'⟩ := p
      by_cases h : k' = k
      · subst h
        by_cases hx : k' = x <;> simp [setIn, lookupIn, hx]
      · by_cases hx : k' = x
        · subst hx
          simp [setIn, lookupIn, h, Ne.symm h]
        · simp [setIn, lookupIn, h, hx, ih]

theorem get?_set (d : Dict κ ν) (k : κ) (v : ν) (x : κ) :
    (d.set k v).get? x = if k = x then some v else d.get? x :=
  lookupIn_setIn k v d.entries x

@[simp] theorem get?_set_self (d : Dict κ ν) (k : κ) (v : ν) :
    (d.set k v).get? k = some v := by
  rw [get?_set, if_pos rfl]

theorem get?_set_ne (d : Dict κ ν) {k x : κ} (v : ν) (h : k ≠ x) :
    (d.set k v).get? x = d.get? x := by
  rw [get?_set, if_neg h]

theorem lookupIn_filter_ne (k : κ) (l : List (κ × ν)) (x : κ) :
    lookupIn x (l.filter (fun p => p.1 ≠ k)) = if k = x then none else lookupIn x l := by
  induction l with
  | nil => simp [lookupIn]
  | cons p rest ih =>
      obtain ⟨k', v'⟩ := p
      by_cases h : k' = k
      · subst h
        by_cases hx : k' = x <;> simp_all [lookupIn]
      · by_cases hx : k' = x
        · subst hx
          simp [lookupIn, h, Ne.symm h]
        · simp_all [lookupIn]

theorem get?_erase (d : Dict κ ν) (k x : κ) :
    (d.erase k).get? x = if k = x then none else d.get? x :=
  lookupIn_filter_ne k d.entries x

@[simp] theorem get?_erase_self (d : Dict κ ν) (k : κ) : (d.erase k).get? k = none := by
  rw [get?_erase, if_pos rfl]

theorem get?_erase_ne (d : Dict κ ν) {k x : κ} (h : k ≠ x) :
    (d.erase k).get? x = d.get? x := by
  rw [get?_erase, if_neg h]

/-- A new key is one entry more, a known one none. -/
theorem size_set (d : Dict κ ν) (k : κ) (v : ν) :
    (d.set k v).size = if (d.get? k).isSome then d.size else d.size + 1 := by
  show (setIn k v d.entries).length = if (lookupIn k d.entries).isSome then d.entries.length
    else d.entries.length + 1
  generalize d.entries = l
  induction l with
  | nil => rfl
  | cons p rest ih =>
      obtain ⟨k', v'⟩ := p
      by_cases h : k' = k
      · simp [setIn, lookupIn, h]
      · simp only [setIn, lookupIn, h, if_false, List.length_cons, ih]
        split <;> rfl

@[simp] theorem size_modify (d : Dict κ ν) (k : κ) (f : ν → ν) : (d.modify k f).size = d.size := by
  unfold modify
  cases h : d.get? k with
  | none => rfl
  | some v => simp [size_set, h]

theorem get?_modify (d : Dict κ ν) (k : κ) (f : ν → ν) (x : κ) :
    (d.modify k f).get? x = if k = x then (d.get? k).map f else d.get? x := by
  unfold modify
  cases h : d.get? k with
  | none => by_cases hx : k = x <;> simp_all
  | some v => rw [get?_set]; simp

@[simp] theorem get?_modify_self (d : Dict κ ν) (k : κ) (f : ν → ν) :
    (d.modify k f).get? k = (d.get? k).map f := by
  rw [get?_modify, if_pos rfl]

theorem get?_modify_ne (d : Dict κ ν) {k x : κ} (f : ν → ν) (h : k ≠ x) :
    (d.modify k f).get? x = d.get? x := by
  rw [get?_modify, if_neg h]

/-- A key looks up to something exactly when it is listed. -/
theorem lookupIn_isSome_iff (k : κ) (l : List (κ × ν)) :
    (lookupIn k l).isSome ↔ k ∈ l.map Prod.fst := by
  induction l with
  | nil => simp [lookupIn]
  | cons p rest ih =>
      obtain ⟨k', v'⟩ := p
      by_cases h : k' = k
      · subst h; simp [lookupIn]
      · simp only [lookupIn, h, if_false, ih, List.map_cons, List.mem_cons, Ne.symm h, false_or]

/-- A binding found by lookup is one of the entries. -/
theorem mem_of_lookupIn {k : κ} {v : ν} {l : List (κ × ν)}
    (h : lookupIn k l = some v) : (k, v) ∈ l := by
  induction l with
  | nil => simp [lookupIn] at h
  | cons p rest ih =>
      obtain ⟨k', v'⟩ := p
      by_cases hk : k' = k
      · subst hk
        simp only [lookupIn, if_true, Option.some.injEq] at h
        subst h
        exact List.mem_cons_self
      · simp only [lookupIn, hk, if_false] at h
        exact List.mem_cons_of_mem _ (ih h)

/-- There is nothing to delete of a key that is absent. -/
theorem erase_of_none (d : Dict κ ν) {k : κ} (h : d.get? k = none) : d.erase k = d := by
  apply ext
  apply List.filter_eq_self.mpr
  intro p hp
  have hkey : k ∉ d.entries.map Prod.fst := by
    rw [← lookupIn_isSome_iff]
    simpa [get?] using h
  simp only [ne_eq, decide_not, Bool.not_eq_true', decide_eq_false_iff_not]
  intro heq
  exact hkey (heq ▸ List.mem_map_of_mem hp)

end Lookup

/-- Keep the bindings whose value passes the test. -/
def filterVal (d : Dict κ ν) (p : ν → Bool) : Dict κ ν :=
  ⟨d.entries.filter (fun e => p e.2), (d.entries.filter_sublist.map Prod.fst).nodup d.nodup⟩

/-- Keep the bindings whose key passes the test. -/
def filterKeys (d : Dict κ ν) (p : κ → Bool) : Dict κ ν :=
  ⟨d.entries.filter (fun e => p e.1), (d.entries.filter_sublist.map Prod.fst).nodup d.nodup⟩

/-! ## Mapping over the values -/

/-- Rebuild every value from its key, keeping keys and order. -/
def mapVal (f : κ → ν → ω) (d : Dict κ ν) : Dict κ ω :=
  ⟨d.entries.map (fun p => (p.1, f p.1 p.2)), by
    have h : (d.entries.map (fun p => (p.1, f p.1 p.2))).map Prod.fst =
        d.entries.map Prod.fst := by simp [List.map_map, Function.comp_def]
    rw [h]
    exact d.nodup⟩

theorem mapVal_mapVal {χ : Type*} (d : Dict κ ν) (f : κ → ν → ω) (g : κ → ω → χ) :
    (d.mapVal f).mapVal g = d.mapVal (fun k v => g k (f k v)) := by
  apply ext
  simp [mapVal, List.map_map, Function.comp_def]

theorem mapVal_congr (d : Dict κ ν) {f g : κ → ν → ω}
    (h : ∀ p ∈ d.entries, f p.1 p.2 = g p.1 p.2) : d.mapVal f = d.mapVal g := by
  apply ext
  exact List.map_congr_left (fun p hp => by rw [h p hp])

/-- Two maps over one dictionary agree exactly when they agree on its bindings. -/
theorem mapVal_eq_iff (d : Dict κ ν) {f g : κ → ν → ω} :
    d.mapVal f = d.mapVal g ↔ ∀ p ∈ d.entries, f p.1 p.2 = g p.1 p.2 := by
  constructor
  · intro h p hp
    have hmap := List.map_inj_left.mp (congrArg entries h) p hp
    exact (Prod.mk.inj hmap).2
  · exact mapVal_congr d

section LookupMap

variable [DecidableEq κ]

theorem lookupIn_map (f : κ → ν → ω) (l : List (κ × ν)) (k : κ) :
    lookupIn k (l.map (fun p => (p.1, f p.1 p.2))) = (lookupIn k l).map (f k) := by
  induction l with
  | nil => rfl
  | cons p rest ih =>
      obtain ⟨k', v'⟩ := p
      by_cases h : k' = k
      · subst h; simp [lookupIn]
      · simp [lookupIn, h, ih]

@[simp] theorem get?_mapVal (d : Dict κ ν) (f : κ → ν → ω) (k : κ) :
    (d.mapVal f).get? k = (d.get? k).map (f k) :=
  lookupIn_map f d.entries k

theorem mapVal_set (d : Dict κ ν) (f : κ → ν → ω) (k : κ) (v : ν) :
    (d.set k v).mapVal f = (d.mapVal f).set k (f k v) := by
  apply ext
  show (setIn k v d.entries).map _ = setIn k (f k v) (d.entries.map _)
  induction d.entries with
  | nil => rfl
  | cons p rest ih =>
      obtain ⟨k', v'⟩ := p
      by_cases h : k' = k
      · subst h; simp [setIn]
      · simp [setIn, h, ih]

theorem mapVal_erase (d : Dict κ ν) (f : κ → ν → ω) (k : κ) :
    (d.erase k).mapVal f = (d.mapVal f).erase k := by
  apply ext
  simp only [mapVal, erase, List.filter_map]
  rfl

/-- In-place mutation commutes with a view of the values that turns the
mutation `g` into `g'`. -/
theorem mapVal_modify (d : Dict κ ν) (f : κ → ν → ω) (k : κ) (g : ν → ν) (g' : ω → ω)
    (h : ∀ v, f k (g v) = g' (f k v)) :
    (d.modify k g).mapVal f = (d.mapVal f).modify k g' := by
  unfold modify
  rw [get?_mapVal]
  cases d.get? k with
  | none => rfl
  | some v => simp only [Option.map_some, mapVal_set, h]

theorem setIn_lookupIn {k : κ} {v : ν} {l : List (κ × ν)} (h : lookupIn k l = some v) :
    setIn k v l = l := by
  induction l with
  | nil => simp [lookupIn] at h
  | cons p rest ih =>
      obtain ⟨k', v'⟩ := p
      by_cases hk : k' = k
      · subst hk
        simp only [lookupIn, if_true, Option.some.injEq] at h
        simp [setIn, h]
      · simp only [lookupIn, hk, if_false] at h
        simp [setIn, hk, ih h]

/-- Writing back the value that is there changes nothing. -/
theorem set_get? (d : Dict κ ν) {k : κ} {v : ν} (h : d.get? k = some v) : d.set k v = d :=
  ext (setIn_lookupIn h)

/-- A mutation invisible to the view leaves the view of the dictionary. -/
theorem mapVal_modify_eq (d : Dict κ ν) (f : κ → ν → ω) (k : κ) (g : ν → ν)
    (h : ∀ v, f k (g v) = f k v) : (d.modify k g).mapVal f = d.mapVal f := by
  rw [mapVal_modify d f k g id h]
  unfold modify
  cases hk : (d.mapVal f).get? k with
  | none => rfl
  | some v => exact set_get? _ hk

end LookupMap

/-! ## Sums over the values -/

section Sum

variable {M : Type*} [DecidableEq κ]

/-- The sum of `f` over the values. -/
def total [AddCommMonoid M] (d : Dict κ ν) (f : ν → M) : M := (d.values.map f).sum

/-- The summand of a key; zero without a binding. -/
def summand [AddCommMonoid M] (d : Dict κ ν) (f : ν → M) (k : κ) : M := ((d.get? k).map f).getD 0

theorem lookupIn_of_mem {k : κ} {v : ν} {l : List (κ × ν)} (hl : (l.map Prod.fst).Nodup)
    (h : (k, v) ∈ l) : lookupIn k l = some v := by
  induction l with
  | nil => cases h
  | cons p rest ih =>
      obtain ⟨k', v'⟩ := p
      simp only [List.map_cons, List.nodup_cons] at hl
      rcases List.mem_cons.mp h with heq | hrest
      · cases heq
        simp [lookupIn]
      · have hne : k' ≠ k := by
          rintro rfl
          exact hl.1 (List.mem_map_of_mem hrest)
        simp [lookupIn, hne, ih hl.2 hrest]

/-- Every binding is found. -/
theorem get?_of_mem (d : Dict κ ν) {k : κ} {v : ν} (h : (k, v) ∈ d.entries) : d.get? k = some v :=
  lookupIn_of_mem d.nodup h

/-- The bindings are what lookup finds. -/
theorem mem_entries_iff (d : Dict κ ν) {k : κ} {v : ν} :
    (k, v) ∈ d.entries ↔ d.get? k = some v :=
  ⟨d.get?_of_mem, mem_of_lookupIn⟩

theorem get?_filterVal_eq_some (d : Dict κ ν) (p : ν → Bool) {k : κ} {v : ν} :
    (d.filterVal p).get? k = some v ↔ d.get? k = some v ∧ p v = true := by
  rw [← mem_entries_iff, ← mem_entries_iff]
  exact List.mem_filter

theorem total_eq_sum [AddCommMonoid M] (d : Dict κ ν) (f : ν → M) (S : Finset κ)
    (hS : ∀ k ∈ d.keys, k ∈ S) : d.total f = ∑ k ∈ S, d.summand f k := by
  have hlist : d.total f = (d.keys.map (d.summand f)).sum := by
    unfold total values keys
    rw [List.map_map, List.map_map]
    congr 1
    refine List.map_congr_left (fun p hp => ?_)
    simp [summand, d.get?_of_mem (k := p.1) (v := p.2) hp]
  have hnodup : d.keys.Nodup := d.nodup
  rw [hlist, ← List.sum_toFinset _ hnodup]
  refine Finset.sum_subset (fun k hk => hS k (List.mem_toFinset.mp hk)) (fun k _ hk => ?_)
  have hnone : d.get? k = none := by
    rw [← Option.not_isSome_iff_eq_none, get?, lookupIn_isSome_iff]
    exact fun h => hk (List.mem_toFinset.mpr h)
  simp [summand, hnone]

/-- Dictionaries whose summands agree but at one key have sums that differ by
what they have there. -/
theorem total_sub_summand [AddCommGroup M] {d e : Dict κ ν} (f : ν → M) (k : κ)
    (h : ∀ x, x ≠ k → d.summand f x = e.summand f x) :
    d.total f - d.summand f k = e.total f - e.summand f k := by
  set S : Finset κ := insert k (d.keys.toFinset ∪ e.keys.toFinset)
  have hd : d.total f = ∑ x ∈ S, d.summand f x :=
    d.total_eq_sum f S (fun x hx => by simp [S, hx])
  have he : e.total f = ∑ x ∈ S, e.summand f x :=
    e.total_eq_sum f S (fun x hx => by simp [S, hx])
  have hk : k ∈ S := Finset.mem_insert_self _ _
  have hrest : ∑ x ∈ S.erase k, d.summand f x = ∑ x ∈ S.erase k, e.summand f x :=
    Finset.sum_congr rfl (fun x hx => h x (Finset.ne_of_mem_erase hx))
  rw [hd, he, ← Finset.add_sum_erase S _ hk, ← Finset.add_sum_erase S (e.summand f) hk, hrest]
  abel

end Sum

/-! ## Two dictionaries seen alike -/

section SeenAlike

variable {κ : Type u} {κ' : Type*} {ν : Type v} {ω : Type w} {χ : Type*} [DecidableEq κ]
  [DecidableEq κ']

/-- Under every key `e` shows what `d` shows under the key it is renamed to. -/
def SeenAlike (name : κ' → κ) (see : ν → χ) (see' : ω → χ) (d : Dict κ ν) (e : Dict κ' ω) : Prop :=
  ∀ k, (d.get? (name k)).map see = (e.get? k).map see'

variable {name : κ' → κ} {see : ν → χ} {see' : ω → χ} {d : Dict κ ν} {e : Dict κ' ω}

theorem SeenAlike.empty : SeenAlike name see see' (Dict.empty : Dict κ ν) (Dict.empty : Dict κ' ω) :=
  fun _ => rfl

/-- Two changes under one key keep the rest, so only that key matters. -/
theorem SeenAlike.changed_iff (hname : Function.Injective name) (h : SeenAlike name see see' d e)
    {d' : Dict κ ν} {e' : Dict κ' ω} (k : κ')
    (hd : ∀ x, name k ≠ x → d'.get? x = d.get? x) (he : ∀ x, k ≠ x → e'.get? x = e.get? x) :
    SeenAlike name see see' d' e' ↔ (d'.get? (name k)).map see = (e'.get? k).map see' := by
  constructor
  · exact fun hall => hall k
  · intro hk x
    by_cases hx : k = x
    · subst hx
      exact hk
    · rw [hd _ (fun heq => hx (hname heq)), he x hx]
      exact h x

theorem SeenAlike.set_iff (hname : Function.Injective name) (h : SeenAlike name see see' d e)
    (k : κ') (x : ν) (y : ω) :
    SeenAlike name see see' (d.set (name k) x) (e.set k y) ↔ see x = see' y := by
  rw [h.changed_iff hname k (fun _ hx => d.get?_set_ne x hx) (fun _ hx => e.get?_set_ne y hx)]
  simp

theorem SeenAlike.erase (hname : Function.Injective name) (h : SeenAlike name see see' d e)
    (k : κ') : SeenAlike name see see' (d.erase (name k)) (e.erase k) := by
  rw [h.changed_iff hname k (fun _ hx => d.get?_erase_ne hx) (fun _ hx => e.get?_erase_ne hx)]
  simp

/-- A change that can be made on what is seen. -/
theorem SeenAlike.modify_iff (hname : Function.Injective name) (h : SeenAlike name see see' d e)
    (k : κ') {f : ν → ν} (g : ω → ω) (change : χ → χ) (hf : ∀ x, see (f x) = change (see x)) :
    SeenAlike name see see' (d.modify (name k) f) (e.modify k g) ↔
      ∀ y ∈ e.get? k, change (see' y) = see' (g y) := by
  rw [h.changed_iff hname k (fun _ hx => d.get?_modify_ne f hx) (fun _ hx => e.get?_modify_ne g hx),
    get?_modify_self, get?_modify_self]
  have hk := h k
  cases hd : d.get? (name k) with
  | none =>
      rw [hd, Option.map_none, eq_comm, Option.map_eq_none_iff] at hk
      simp [hk]
  | some x =>
      rw [hd, Option.map_some, eq_comm, Option.map_eq_some_iff] at hk
      obtain ⟨y, hy, hsee⟩ := hk
      simp [hy, hf, hsee]

/-- A value set on one side only. -/
theorem SeenAlike.set_right_iff (hname : Function.Injective name) (h : SeenAlike name see see' d e)
    (k : κ') (y : ω) :
    SeenAlike name see see' d (e.set k y) ↔ (e.get? k).map see' = some (see' y) := by
  rw [h.changed_iff hname k (fun _ _ => rfl) (fun _ hx => e.get?_set_ne y hx), h k]
  simp

/-- A change on one side only that does not show. -/
theorem SeenAlike.modify_right (h : SeenAlike name see see' d e) (k : κ') {g : ω → ω}
    (hg : ∀ y, see' (g y) = see' y) : SeenAlike name see see' d (e.modify k g) := by
  intro x
  by_cases hx : k = x
  · subst hx
    rw [h k, get?_modify_self]
    cases e.get? k with
    | none => rfl
    | some y => simp [hg]
  · rw [get?_modify_ne e g hx]
    exact h x

end SeenAlike

end Dict

end CryptoTrader.Lib
