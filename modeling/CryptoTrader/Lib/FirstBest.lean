import Mathlib.Data.List.Sort

/-!
# The first best of a list

A stable sort by falling keys puts in front the first of the elements with the
greatest key.  `Leads` says so of an element by the list itself, and of one that leads
only those that qualify.
-/

namespace CryptoTrader.Lib

variable {α : Type*} {κ : Type*} [LinearOrder κ]

/-- The element qualifies, and of the others that do, those before it have a smaller
key and those after it no greater one. -/
def Leads (qualifies : α → Prop) (key : α → κ) (l : List α) (c : α) : Prop :=
  qualifies c ∧ ∃ before after, l = before ++ c :: after ∧
    (∀ d ∈ before, qualifies d → key d < key c) ∧ ∀ d ∈ after, qualifies d → key d ≤ key c

/-- The element leads the whole list. -/
abbrev LeadsAll (key : α → κ) : List α → α → Prop := Leads (fun _ => True) key

/-- The stable sort by falling keys. -/
def byFallingKey (key : α → κ) (l : List α) : List α :=
  l.insertionSort (fun a b => key b ≤ key a)

section Leads

variable {qualifies : α → Prop} {key : α → κ} {l : List α} {a c d : α}

theorem Leads.mem (h : Leads qualifies key l c) : c ∈ l := by
  obtain ⟨-, before, after, rfl, -, -⟩ := h
  simp

/-- Nothing that qualifies has a greater key. -/
theorem Leads.key_le (h : Leads qualifies key l c) (hd : d ∈ l) (hqualifies : qualifies d) :
    key d ≤ key c := by
  obtain ⟨-, before, after, rfl, hbefore, hafter⟩ := h
  rcases List.mem_append.mp hd with hd | hd
  · exact (hbefore d hd hqualifies).le
  · rcases List.mem_cons.mp hd with rfl | hd
    · exact le_rfl
    · exact hafter d hd hqualifies

/-- One that leads all leads those that qualify, if it does. -/
theorem Leads.of_all (h : LeadsAll key l c) (hqualifies : qualifies c) :
    Leads qualifies key l c := by
  obtain ⟨-, before, after, heq, hbefore, hafter⟩ := h
  exact ⟨hqualifies, before, after, heq, fun d hd _ => hbefore d hd trivial,
    fun d hd _ => hafter d hd trivial⟩

/-- No two lead. -/
theorem LeadsAll.unique (hc : LeadsAll key l c) (hd : LeadsAll key l d) : c = d := by
  have hle := hc.key_le hd.mem trivial
  have hge := hd.key_le hc.mem trivial
  obtain ⟨-, before, after, rfl, hbefore, -⟩ := hc
  obtain ⟨-, before', after', heq, hbefore', -⟩ := hd
  rcases List.append_eq_append_iff.mp heq with ⟨mid, hsplit, hrest⟩ | ⟨mid, hsplit, hrest⟩
  · cases mid with
    | nil => exact (List.cons.inj hrest).1
    | cons e mid =>
        -- then `c` comes before `d`
        have he : c = e := (List.cons.inj hrest).1
        have hmem : c ∈ before' := by
          rw [hsplit, he]
          simp
        exact absurd hle (not_le.mpr (hbefore' c hmem trivial))
  · cases mid with
    | nil => exact (List.cons.inj hrest).1.symm
    | cons e mid =>
        have he : d = e := (List.cons.inj hrest).1
        have hmem : d ∈ before := by
          rw [hsplit, he]
          simp
        exact absurd hge (not_le.mpr (hbefore d hmem trivial))

theorem leadsAll_singleton : LeadsAll key [a] a :=
  ⟨trivial, [], [], rfl, by simp, by simp⟩

/-- A first element that is no smaller takes the lead. -/
theorem LeadsAll.cons_of_le (h : LeadsAll key l c) (hle : key c ≤ key a) : LeadsAll key (a :: l) a :=
  ⟨trivial, [], l, rfl, by simp, fun _ hd _ => (h.key_le hd trivial).trans hle⟩

theorem LeadsAll.cons_of_lt (h : LeadsAll key l c) (hlt : key a < key c) :
    LeadsAll key (a :: l) c := by
  obtain ⟨-, before, after, rfl, hbefore, hafter⟩ := h
  refine ⟨trivial, a :: before, after, rfl, ?_, hafter⟩
  intro d hd _
  rcases List.mem_cons.mp hd with rfl | hd
  · exact hlt
  · exact hbefore d hd trivial

/-- The front of the sorted list leads. -/
theorem leadsAll_of_head (h : (byFallingKey key l).head? = some c) : LeadsAll key l c := by
  induction l generalizing c with
  | nil => cases h
  | cons a l ih =>
      unfold byFallingKey at h ih
      rw [List.insertionSort_cons] at h
      cases hsorted : l.insertionSort (fun a b => key b ≤ key a) with
      | nil =>
          have hnil : l = [] := by
            have hlength := List.length_insertionSort (fun a b => key b ≤ key a) l
            rw [hsorted] at hlength
            exact List.length_eq_zero_iff.mp hlength.symm
          rw [hsorted] at h
          obtain rfl : a = c := Option.some.inj h
          rw [hnil]
          exact leadsAll_singleton
      | cons b rest =>
          rw [hsorted] at h ih
          have hb := ih (c := b) rfl
          by_cases hle : key b ≤ key a
          · rw [List.orderedInsert_cons, if_pos hle] at h
            obtain rfl : a = c := Option.some.inj h
            exact hb.cons_of_le hle
          · rw [List.orderedInsert_cons, if_neg hle] at h
            obtain rfl : b = c := Option.some.inj h
            exact hb.cons_of_lt (not_le.mp hle)

theorem head_byFallingKey_eq_none : (byFallingKey key l).head? = none ↔ l = [] := by
  rw [List.head?_eq_none_iff, ← List.length_eq_zero_iff, byFallingKey, List.length_insertionSort,
    List.length_eq_zero_iff]

end Leads

end CryptoTrader.Lib
