import CryptoTrader.Lib.Dict

/-!
# Objects with attributes

An object maps the names of its attributes to their values.  Guarded assignment
(`if hasattr(o, k): setattr(o, k, v)`) changes values and never the set of
attributes.  A list of assignments with distinct names acts on each attribute on
its own, whatever the order.
-/

namespace CryptoTrader.Lib

universe u v

variable {κ : Type u} {ν : Type v} [DecidableEq κ]

/-- The attributes of an object; `none` where there is no such attribute. -/
abbrev Attributes (κ : Type u) (ν : Type v) := κ → Option ν

namespace Attributes

/-- `if hasattr(o, k): setattr(o, k, v)`. -/
def assign (o : Attributes κ ν) (k : κ) (v : ν) : Attributes κ ν :=
  Function.update o k ((o k).map (fun _ => v))

/-- One assignment after another. -/
def assignAll (o : Attributes κ ν) (l : List (κ × ν)) : Attributes κ ν :=
  l.foldl (fun o item => o.assign item.1 item.2) o

/-- Assigned values depend on whether there is an attribute. -/
theorem map_const_congr {a b : Option ν} (h : a.isSome = b.isSome) (v : ν) :
    a.map (fun _ => v) = b.map (fun _ => v) := by
  cases a <;> cases b <;> simp_all

section Assign

variable (o : Attributes κ ν) {k x : κ} {v w : ν} (l : List (κ × ν))

@[simp] theorem assign_self : o.assign k v k = (o k).map (fun _ => v) :=
  Function.update_self k _ o

@[simp] theorem assign_ne (h : x ≠ k) : o.assign k v x = o x := Function.update_of_ne h _ o

theorem assign_of_none (h : o k = none) : o.assign k v = o := by
  funext x
  by_cases hx : x = k
  · subst hx
    simp [h]
  · simp [hx]

/-- Assignment keeps the set of attributes. -/
@[simp] theorem isSome_assign (x : κ) : (o.assign k v x).isSome = (o x).isSome := by
  by_cases h : x = k
  · subst h
    simp
  · simp [h]

@[simp] theorem assignAll_nil : o.assignAll [] = o := rfl

@[simp] theorem assignAll_cons (item : κ × ν) :
    o.assignAll (item :: l) = (o.assign item.1 item.2).assignAll l := rfl

@[simp] theorem isSome_assignAll (x : κ) : (o.assignAll l x).isSome = (o x).isSome := by
  induction l generalizing o with
  | nil => rfl
  | cons item rest ih => simp [ih]

variable {l}

/-- What the assignments do not name stays. -/
theorem assignAll_of_not_mem (h : x ∉ l.map Prod.fst) : o.assignAll l x = o x := by
  induction l generalizing o with
  | nil => rfl
  | cons item rest ih =>
      rw [List.map_cons, List.mem_cons, not_or] at h
      rw [assignAll_cons, ih _ h.2, assign_ne _ h.1]

/-- What they name has the value they give. -/
theorem assignAll_of_mem (hl : (l.map Prod.fst).Nodup) (h : (x, v) ∈ l) :
    o.assignAll l x = (o x).map (fun _ => v) := by
  induction l generalizing o with
  | nil => cases h
  | cons item rest ih =>
      rw [List.map_cons, List.nodup_cons] at hl
      rw [assignAll_cons]
      by_cases hhead : (x, v) = item
      · subst hhead
        rw [assignAll_of_not_mem _ hl.1, assign_self]
      · have hrest : (x, v) ∈ rest := (List.mem_cons.mp h).resolve_left hhead
        have hne : x ≠ item.1 := by
          intro heq
          exact hl.1 (heq ▸ List.mem_map_of_mem (f := Prod.fst) hrest)
        rw [ih _ hl.2 hrest, assign_ne _ hne]

end Assign

/-- Assigning a dictionary. -/
theorem assignAll_entries (o : Attributes κ ν) (d : Dict κ ν) (x : κ) :
    o.assignAll d.entries x = (d.get? x).elim (o x) (fun v => (o x).map (fun _ => v)) := by
  cases h : d.get? x with
  | some v => exact assignAll_of_mem o d.nodup (d.mem_entries_iff.mpr h)
  | none =>
      refine assignAll_of_not_mem o (fun hmem => ?_)
      obtain ⟨item, hitem, rfl⟩ := List.mem_map.mp hmem
      exact absurd (d.get?_of_mem hitem) (by simp [h])

end Attributes

/-! ## Updating a dictionary -/

namespace Dict

/-- `d.update(items)`. -/
def setAll (d : Dict κ ν) (l : List (κ × ν)) : Dict κ ν :=
  l.foldl (fun d item => d.set item.1 item.2) d

variable (d : Dict κ ν) {l : List (κ × ν)} {x : κ} {v : ν}

theorem get?_setAll_of_not_mem (h : x ∉ l.map Prod.fst) : (d.setAll l).get? x = d.get? x := by
  induction l generalizing d with
  | nil => rfl
  | cons item rest ih =>
      rw [List.map_cons, List.mem_cons, not_or] at h
      exact (ih _ h.2).trans (d.get?_set_ne _ (Ne.symm h.1))

theorem get?_setAll_of_mem (hl : (l.map Prod.fst).Nodup) (h : (x, v) ∈ l) :
    (d.setAll l).get? x = some v := by
  induction l generalizing d with
  | nil => cases h
  | cons item rest ih =>
      rw [List.map_cons, List.nodup_cons] at hl
      by_cases hhead : (x, v) = item
      · subst hhead
        exact (get?_setAll_of_not_mem _ hl.1).trans (d.get?_set_self x v)
      · exact ih _ hl.2 ((List.mem_cons.mp h).resolve_left hhead)

/-- An update only adds. -/
theorem isSome_get?_setAll (h : (d.get? x).isSome) : ((d.setAll l).get? x).isSome := by
  induction l generalizing d with
  | nil => exact h
  | cons item rest ih =>
      refine ih _ ?_
      rw [get?_set]
      split
      · rfl
      · exact h

end Dict

end CryptoTrader.Lib
