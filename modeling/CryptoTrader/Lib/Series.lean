import Mathlib.Data.List.Basic
import Mathlib.Data.List.ReduceOption
import Mathlib.Order.Lattice

/-!
# Series computed row by row

An indicator column is causal when its value at a row is a function of the rows
up to it.  `expanding g` is the column of such a `g`; cutting a series off after
a row and taking the last value gives what the whole column holds at that row.
-/

namespace CryptoTrader.Lib

universe u v

variable {α : Type u} {β : Type v}

/-- The column whose value at a row is `g` of the rows up to it. -/
def expanding (g : List α → β) (l : List α) : List β :=
  (List.range l.length).map (fun i => g (l.take (i + 1)))

/-- `l[a:b]`. -/
def slice (l : List α) (a b : ℕ) : List α := (l.take b).drop a

section Expanding

variable (g : List α → β) (l : List α)

@[simp] theorem length_expanding : (expanding g l).length = l.length := by
  simp [expanding]

theorem getElem?_expanding {i : ℕ} (h : i < l.length) :
    (expanding g l)[i]? = some (g (l.take (i + 1))) := by
  simp [expanding, h]

/-- The column of the first rows is the first part of the column. -/
theorem expanding_take (n : ℕ) : expanding g (l.take n) = (expanding g l).take n := by
  apply List.ext_getElem?
  intro i
  by_cases hi : i < min n l.length
  · have hn : i < n := Nat.lt_of_lt_of_le hi (Nat.min_le_left _ _)
    have hl : i < l.length := Nat.lt_of_lt_of_le hi (Nat.min_le_right _ _)
    rw [getElem?_expanding g _ (by simpa using hi), List.getElem?_take_of_lt hn,
      getElem?_expanding g l hl, List.take_take, Nat.min_eq_left hn]
  · have hlen : (expanding g (l.take n)).length ≤ i := by
      rw [length_expanding, List.length_take]
      omega
    have hlen' : ((expanding g l).take n).length ≤ i := by
      rw [List.length_take, length_expanding]
      omega
    rw [List.getElem?_eq_none hlen, List.getElem?_eq_none hlen']

/-- The last value is that of all rows. -/
theorem getLast?_expanding (h : l ≠ []) : (expanding g l).getLast? = some (g l) := by
  have hpos : 0 < l.length := List.length_pos_iff.mpr h
  rw [List.getLast?_eq_getElem?, length_expanding, getElem?_expanding g l (by omega)]
  congr 2
  rw [List.take_of_length_le (by omega)]

end Expanding

section Slice

variable (l : List α)

theorem slice_take {a b n : ℕ} (h : b ≤ n) : slice (l.take n) a b = slice l a b := by
  unfold slice
  rw [List.take_take, Nat.min_eq_left h]

theorem getD_take {n i : ℕ} (h : i < n) (d : α) : (l.take n).getD i d = l.getD i d := by
  simp [List.getD, List.getElem?_take_of_lt h]

end Slice

/-! ## Columns that begin with missing values -/

section Missing

/-- Dropping rows and then the missing values, when these come first: as many of
the last values stay as rows do. -/
theorem reduceOption_drop (a : ℕ) (values : List α) (k : ℕ) :
    let column := List.replicate a none ++ values.map some
    (column.drop k).reduceOption =
      column.reduceOption.drop (column.reduceOption.length - (column.length - k)) := by
  intro column
  have hvalues : ∀ (l : List α), (l.map some).reduceOption = l := fun l => by
    simp [List.reduceOption, List.filterMap_map]
  have hmissing : ∀ n, (List.replicate n (none : Option α)).reduceOption = [] := fun n => by
    simp [List.reduceOption]
  have hcolumn : column.reduceOption = values := by
    rw [List.reduceOption_append, hmissing, hvalues, List.nil_append]
  have hlen : column.length = a + values.length := by simp [column]
  rw [hcolumn, hlen, List.drop_append, List.reduceOption_append, List.drop_replicate, hmissing,
    List.nil_append, ← List.map_drop, hvalues, List.length_replicate]
  by_cases hk : k ≤ a + values.length
  · congr 1
    omega
  · rw [List.drop_of_length_le (by omega), List.drop_of_length_le (by omega)]

theorem getLast?_of_values (a : ℕ) (values : List α) (d : α)
    (h : (List.replicate a none ++ values.map some).reduceOption ≠ []) :
    (List.replicate a none ++ values.map some).getLast? =
      some (some ((List.replicate a none ++ values.map some).reduceOption.getLastD d)) := by
  have hcolumn : (List.replicate a none ++ values.map some).reduceOption = values := by
    simp [List.reduceOption, List.filterMap_map]
  rw [hcolumn] at h ⊢
  have hlast := List.getLast?_eq_some_getLast h
  simp [List.getLast?_append, List.getLast?_map, List.getLastD_eq_getLast?, hlast]

/-- A column that has values from row `p - 1` on. -/
theorem expanding_from (p : ℕ) (g : List β → α) (l : List β) :
    ∃ a values, expanding (fun rows => if rows.length < p then none else some (g rows)) l =
      List.replicate a none ++ List.map some values := by
  refine ⟨min (p - 1) l.length, (expanding g l).drop (p - 1), ?_⟩
  apply List.ext_getElem?
  intro i
  by_cases hi : i < l.length
  · rw [getElem?_expanding _ _ hi]
    have hrows : (l.take (i + 1)).length = i + 1 := by
      rw [List.length_take]
      omega
    simp only [hrows]
    by_cases hp : i + 1 < p
    · rw [if_pos hp, List.getElem?_append_left (by rw [List.length_replicate]; omega),
        List.getElem?_replicate_of_lt (by omega)]
    · have hmin : min (p - 1) l.length = p - 1 := by omega
      rw [if_neg hp, hmin, List.getElem?_append_right (by rw [List.length_replicate]; omega),
        List.length_replicate, List.getElem?_map, List.getElem?_drop,
        Nat.add_sub_cancel' (by omega), getElem?_expanding _ _ hi]
      rfl
  · rw [List.getElem?_eq_none (by rw [length_expanding]; omega), List.getElem?_eq_none]
    simp
    omega

end Missing

end CryptoTrader.Lib
