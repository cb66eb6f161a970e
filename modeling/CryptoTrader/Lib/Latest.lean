import Mathlib.Data.List.Sort
import Mathlib.Data.List.MinMax

/-!
# The first of the greatest

`ORDER BY ts DESC LIMIT 1` over rows in the order of their ids is the head of a
stable descending sort, and so is the first element after a reversed `sort`.  It
is the first of the greatest rows, and therefore survives a rotation that keeps
the first rows of the same order.
-/

namespace CryptoTrader.Lib

universe u v

variable {α : Type u} {κ : Type v} [LinearOrder κ] (key : α → κ)

/-- The first of the rows with the greatest key. -/
theorem head?_insertionSort_desc (l : List α) :
    (l.insertionSort (fun a b => key b ≤ key a)).head? = l.argmax key := by
  induction l with
  | nil => rfl
  | cons a rest ih =>
      rw [List.argmax_cons, ← ih, List.insertionSort_cons]
      cases rest.insertionSort (fun a b => key b ≤ key a) with
      | nil => rfl
      | cons b sorted =>
          by_cases h : key b ≤ key a
          · simp [h, not_lt.mpr h]
          · simp [h, lt_of_not_ge h]

/-- A row that is appended becomes the latest exactly if it is later than it. -/
theorem argmax_concat_of_lt {l : List α} {old new : α} (hold : l.argmax key = some old)
    (h : key old < key new) : (l ++ [new]).argmax key = some new := by
  rw [List.argmax_concat, hold]
  exact if_pos h

theorem argmax_concat_of_le {l : List α} {old new : α} (hold : l.argmax key = some old)
    (h : key new ≤ key old) : (l ++ [new]).argmax key = some old := by
  rw [List.argmax_concat, hold]
  exact if_neg (not_lt.mpr h)

theorem argmax_concat_of_none {l : List α} {new : α} (hnone : l.argmax key = none) :
    (l ++ [new]).argmax key = some new := by
  rw [List.argmax_concat, hnone]

/-- Dropping other rows leaves the latest. -/
theorem argmax_filter {p : α → Bool} {l : List α} : ∀ {m : α}, l.argmax key = some m → p m →
    (l.filter p).argmax key = some m := by
  induction l with
  | nil => simp
  | cons a rest ih =>
      intro m hm hp
      rw [List.argmax_cons] at hm
      cases hrest : rest.argmax key with
      | none =>
          rw [hrest] at hm
          obtain rfl : a = m := Option.some.inj hm
          rw [List.argmax_eq_none] at hrest
          simp [hrest, hp]
      | some b =>
          simp only [hrest] at hm
          by_cases hlt : key a < key b
          · rw [if_pos hlt] at hm
            obtain rfl : b = m := Option.some.inj hm
            have htail := ih hrest hp
            by_cases ha : p a
            · rw [List.filter_cons_of_pos ha, List.argmax_cons, htail]
              exact if_pos hlt
            · rw [List.filter_cons_of_neg ha]
              exact htail
          · rw [if_neg hlt] at hm
            obtain rfl : a = m := Option.some.inj hm
            rw [List.filter_cons_of_pos hp, List.argmax_cons]
            cases htail : (rest.filter p).argmax key with
            | none => rfl
            | some c =>
                have hc : c ∈ rest := List.mem_of_mem_filter (List.argmax_mem htail)
                have hle : key c ≤ key b := List.le_of_mem_argmax hc hrest
                exact if_neg (fun hac => hlt (lt_of_lt_of_le hac hle))

/-- The latest of the images. -/
theorem argmax_map {β : Type u} (f : β → α) (l : List β) :
    (l.map f).argmax key = (l.argmax (fun b => key (f b))).map f := by
  induction l with
  | nil => rfl
  | cons b rest ih =>
      rw [List.map_cons, List.argmax_cons, List.argmax_cons, ih]
      cases rest.argmax (fun b => key (f b)) with
      | none => rfl
      | some c =>
          by_cases h : key (f b) < key (f c)
          · simp [h]
          · simp [h]

end CryptoTrader.Lib
