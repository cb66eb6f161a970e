import Mathlib.Algebra.Order.Field.Basic
import Mathlib.Algebra.BigOperators.Group.List.Basic
import Mathlib.Tactic.Linarith
import Mathlib.Tactic.Ring

/-!
# A reservoir with a steady inflow

A vessel of a fixed capacity is filled at a fixed rate, what would overflow is
lost, and draws are taken from it.  `BurstBound` is what its draws are to meet:
no window holds more than a full vessel and the inflow of the window.  `Covered`
is the potential that shows it.
-/

namespace CryptoTrader.Lib

variable {α : Type} [Field α] [LinearOrder α]

/-- What was drawn between two times, both included; a draw is its time and its
amount. -/
def drawn (start stop : α) (draws : List (α × α)) : α :=
  ((draws.filter (fun d => start ≤ d.1 ∧ d.1 ≤ stop)).map Prod.snd).sum

/-- No window holds more than a full vessel and the inflow of the window. -/
def BurstBound (capacity rate : α) (draws : List (α × α)) : Prop :=
  ∀ start stop, start ≤ stop → drawn start stop draws ≤ capacity + rate * (stop - start)

section Drawn

variable {start stop now : α} {draws : List (α × α)}

@[simp] theorem drawn_nil : drawn start stop ([] : List (α × α)) = 0 := rfl

theorem drawn_snoc_of_mem {d : α × α} (h : start ≤ d.1 ∧ d.1 ≤ stop) :
    drawn start stop (draws ++ [d]) = drawn start stop draws + d.2 := by
  simp [drawn, List.filter_append, h]

theorem drawn_snoc_of_not_mem {d : α × α} (h : ¬ (start ≤ d.1 ∧ d.1 ≤ stop)) :
    drawn start stop (draws ++ [d]) = drawn start stop draws := by
  unfold drawn
  rw [List.filter_append, List.filter_cons_of_neg (by simpa using h), List.filter_nil,
    List.append_nil]

/-- A window that starts after the last draw holds nothing. -/
theorem drawn_eq_zero (hpast : ∀ d ∈ draws, d.1 ≤ now) (h : now < start) :
    drawn start stop draws = 0 := by
  have hnone : draws.filter (fun d => start ≤ d.1 ∧ d.1 ≤ stop) = [] := by
    rw [List.filter_eq_nil_iff]
    intro d hd
    simp [not_le.mpr ((hpast d hd).trans_lt h)]
  unfold drawn
  rw [hnone, List.map_nil, List.sum_nil]

/-- A window goes no further than the last draw. -/
theorem drawn_stop (hpast : ∀ d ∈ draws, d.1 ≤ now) (h : now ≤ stop) :
    drawn start stop draws = drawn start now draws := by
  unfold drawn
  congr 2
  apply List.filter_congr
  intro d hd
  simp [hpast d hd, (hpast d hd).trans h]

end Drawn

/-- The vessel at a time, with the draws so far. -/
structure Covered (capacity rate level now : α) (draws : List (α × α)) : Prop where
  level_nonneg : 0 ≤ level
  level_le : level ≤ capacity
  past : ∀ d ∈ draws, d.1 ≤ now
  window : ∀ start, start ≤ now → drawn start now draws + level ≤ capacity + rate * (now - start)
  bound : BurstBound capacity rate draws

section Covered

variable [IsStrictOrderedRing α] {capacity rate level now : α} {draws : List (α × α)}

/-- A full vessel from which nothing has been drawn. -/
theorem Covered.full (hcapacity : 0 ≤ capacity) (hrate : 0 ≤ rate) :
    Covered capacity rate capacity now [] where
  level_nonneg := hcapacity
  level_le := le_refl capacity
  past := by simp
  window start hstart := by
    have hinflow : 0 ≤ rate * (now - start) := mul_nonneg hrate (sub_nonneg.mpr hstart)
    rw [drawn_nil]
    linarith
  bound start stop hle := by
    have hinflow : 0 ≤ rate * (stop - start) := mul_nonneg hrate (sub_nonneg.mpr hle)
    rw [drawn_nil]
    linarith

/-- Time passes, and the vessel takes what it has room for. -/
theorem Covered.fill (h : Covered capacity rate level now draws) (hrate : 0 ≤ rate) {later : α}
    (hlater : now ≤ later) :
    Covered capacity rate (min capacity (level + (later - now) * rate)) later draws where
  level_nonneg := by
    have hinflow : 0 ≤ (later - now) * rate := mul_nonneg (sub_nonneg.mpr hlater) hrate
    exact le_min (h.level_nonneg.trans h.level_le) (add_nonneg h.level_nonneg hinflow)
  level_le := min_le_left _ _
  past d hd := (h.past d hd).trans hlater
  window start hstart := by
    by_cases hin : start ≤ now
    · have hwindow := h.window start hin
      have hlevel := min_le_right capacity (level + (later - now) * rate)
      have hsplit : rate * (later - start) = rate * (now - start) + (later - now) * rate := by ring
      rw [drawn_stop h.past hlater, hsplit]
      linarith
    · have hlevel := min_le_left capacity (level + (later - now) * rate)
      have hinflow : 0 ≤ rate * (later - start) := mul_nonneg hrate (sub_nonneg.mpr hstart)
      rw [drawn_eq_zero h.past (not_le.mp hin)]
      linarith
  bound := h.bound

/-- A draw of what is there. -/
theorem Covered.draw (h : Covered capacity rate level now draws) (hrate : 0 ≤ rate) {amount : α}
    (hpos : 0 ≤ amount) (hle : amount ≤ level) :
    Covered capacity rate (level - amount) now (draws ++ [(now, amount)]) := by
  have hpast : ∀ d ∈ draws ++ [(now, amount)], d.1 ≤ now := by
    simpa [or_imp, forall_and] using h.past
  have hwindow : ∀ start, start ≤ now →
      drawn start now (draws ++ [(now, amount)]) + (level - amount) ≤
        capacity + rate * (now - start) := by
    intro start hstart
    have hbefore := h.window start hstart
    rw [drawn_snoc_of_mem ⟨hstart, le_refl now⟩]
    linarith
  refine ⟨sub_nonneg.mpr hle, ?_, hpast, hwindow, ?_⟩
  · linarith [h.level_le]
  · intro start stop horder
    by_cases hlast : start ≤ now ∧ now ≤ stop
    · have hnow := hwindow start hlast.1
      have hlonger : rate * (now - start) ≤ rate * (stop - start) :=
        mul_le_mul_of_nonneg_left (sub_le_sub_right hlast.2 start) hrate
      rw [drawn_stop hpast hlast.2]
      linarith
    · rw [drawn_snoc_of_not_mem hlast]
      exact h.bound start stop horder

end Covered

end CryptoTrader.Lib
