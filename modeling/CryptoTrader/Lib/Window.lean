import Mathlib.Algebra.Order.Field.Rat
import Mathlib.Algebra.Order.Group.Defs
import Mathlib.Data.List.Basic
import Mathlib.Tactic.Linarith

/-!
# Sliding windows

Times of events, in any ordered group.  A limiter looks back from the present:
`recent width now` are the events that are younger than `width`.  What it is to
guarantee is about every window of that width, wherever it starts, and
`WindowCap.snoc` is how the first gives the second.
-/

namespace CryptoTrader.Lib

variable {α : Type} [AddCommGroup α] [LinearOrder α] [IsOrderedAddMonoid α]

/-- The events younger than `width`. -/
def recent (width now : α) (times : List α) : List α :=
  times.filter (fun t => now - t < width)

/-- No half-open window holds more than `cap` events. -/
def WindowCap (width : α) (cap : ℕ) (times : List α) : Prop :=
  ∀ start, (times.filter (fun t => start ≤ t ∧ t < start + width)).length ≤ cap

section Recent

variable {width now later : α} {times : List α}

omit [IsOrderedAddMonoid α] in
@[simp] theorem recent_nil : recent width now ([] : List α) = [] := rfl

omit [IsOrderedAddMonoid α] in
theorem recent_append (times' : List α) :
    recent width now (times ++ times') = recent width now times ++ recent width now times' :=
  List.filter_append times times'

theorem recent_recent (h : now ≤ later) :
    recent width later (recent width now times) = recent width later times := by
  unfold recent
  rw [List.filter_filter]
  apply List.filter_congr
  intro t _
  have hsub : now - t ≤ later - t := sub_le_sub_right h t
  by_cases hlater : later - t < width
  · simp [hlater, lt_of_le_of_lt hsub hlater]
  · simp [hlater]

theorem recent_length_le_of_le (h : now ≤ later) :
    (recent width later times).length ≤ (recent width now times).length := by
  rw [← recent_recent h]
  exact List.length_filter_le _ _

omit [IsOrderedAddMonoid α] in
/-- Nothing is recent once every event is as old as the width. -/
theorem recent_eq_nil (h : ∀ t ∈ times, width ≤ now - t) : recent width now times = [] := by
  unfold recent
  rw [List.filter_eq_nil_iff]
  intro t ht
  simp [h t ht]

end Recent

/-- An event that finds fewer than `cap` recent ones keeps every window within
the cap: a window that holds it holds recent events only besides. -/
theorem WindowCap.snoc {width now : α} {cap : ℕ} {times : List α}
    (h : WindowCap width cap times) (hroom : (recent width now times).length < cap) :
    WindowCap width cap (times ++ [now]) := by
  intro start
  rw [List.filter_append, List.length_append]
  by_cases hin : start ≤ now ∧ now < start + width
  · have hrecent : (times.filter (fun t => start ≤ t ∧ t < start + width)).length ≤
        (recent width now times).length := by
      apply List.Sublist.length_le
      apply List.monotone_filter_right
      intro t ht
      simp only [decide_eq_true_eq] at ht ⊢
      calc now - t ≤ now - start := sub_le_sub_left ht.1 now
        _ < width := by rw [sub_lt_iff_lt_add, add_comm]; exact hin.2
    have hone : ([now].filter (fun t => start ≤ t ∧ t < start + width)).length ≤ 1 :=
      List.length_filter_le _ [now]
    omega
  · have hnone : [now].filter (fun t => start ≤ t ∧ t < start + width) = [] := by
      simp only [List.filter_cons, decide_eq_true_eq, if_neg hin, List.filter_nil]
    rw [hnone]
    exact h start

end CryptoTrader.Lib
