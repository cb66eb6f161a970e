import Mathlib.Algebra.BigOperators.Group.List.Basic
import Mathlib.Algebra.Order.Group.Defs
import Mathlib.Data.List.Induction
import Mathlib.Order.Bounds.Basic

/-!
# The drawdown of a series of changes

A pass over a list of changes that keeps their running sum, its peak so far, and the
largest fall from a peak; and that the last is the largest difference of an earlier
running sum and a later one.
-/

namespace CryptoTrader.Lib

variable {K : Type*} [AddCommGroup K] {changes : List K} {change : K} {n : ℕ}

/-- The sum of the first changes. -/
def runningSum (changes : List K) (n : ℕ) : K := (changes.take n).sum

theorem runningSum_append_of_le (h : n ≤ changes.length) :
    runningSum (changes ++ [change]) n = runningSum changes n := by
  unfold runningSum
  rw [List.take_append_of_le_length h]

theorem runningSum_append_length :
    runningSum (changes ++ [change]) (changes.length + 1) =
      runningSum changes changes.length + change := by
  simp [runningSum]

variable [LinearOrder K]

/-- The running sum, its peak and the largest fall from it. -/
structure Drawdown (K : Type*) where
  cum : K
  peak : K
  fall : K

/-- From the start, where nothing has been added. -/
def Drawdown.start : Drawdown K := ⟨0, 0, 0⟩

def Drawdown.add (d : Drawdown K) (change : K) : Drawdown K :=
  let cum := d.cum + change
  let peak := max d.peak cum
  ⟨cum, peak, max d.fall (peak - cum)⟩

/-- The pass over a list. -/
def drawdown (changes : List K) : Drawdown K := changes.foldl Drawdown.add .start

section Pass

theorem drawdown_append : drawdown (changes ++ [change]) = (drawdown changes).add change := by
  simp [drawdown]

theorem drawdown_cum : (drawdown changes).cum = runningSum changes changes.length := by
  induction changes using List.reverseRecOn with
  | nil => rfl
  | append_singleton changes change ih =>
      rw [drawdown_append, List.length_append, List.length_singleton, runningSum_append_length, ← ih]
      rfl

/-- The peak is the greatest running sum. -/
theorem drawdown_peak :
    IsGreatest {s | ∃ i, i ≤ changes.length ∧ s = runningSum changes i} (drawdown changes).peak := by
  induction changes using List.reverseRecOn with
  | nil =>
      refine ⟨⟨0, le_rfl, rfl⟩, ?_⟩
      rintro _ ⟨i, -, rfl⟩
      simp [runningSum, drawdown, Drawdown.start]
  | append_singleton changes change ih =>
      have hcum : (drawdown changes).cum + change =
          runningSum (changes ++ [change]) (changes.length + 1) := by
        rw [drawdown_cum, runningSum_append_length]
      rw [drawdown_append]
      simp only [Drawdown.add, List.length_append, List.length_singleton]
      rw [hcum]
      constructor
      · rcases max_choice (drawdown changes).peak
          (runningSum (changes ++ [change]) (changes.length + 1)) with h | h
        · obtain ⟨i, hi, heq⟩ := ih.1
          exact ⟨i, Nat.le_succ_of_le hi, by rw [h, heq, runningSum_append_of_le hi]⟩
        · exact ⟨changes.length + 1, le_rfl, h⟩
      · rintro _ ⟨i, hi, rfl⟩
        rcases Nat.le_succ_iff.mp hi with hi | rfl
        · rw [runningSum_append_of_le hi]
          exact (ih.2 ⟨i, hi, rfl⟩).trans (le_max_left _ _)
        · exact le_max_right _ _

variable [IsOrderedAddMonoid K]

/-- The fall is the greatest difference of an earlier running sum and a later one. -/
theorem drawdown_fall :
    IsGreatest {d | ∃ i j, i ≤ j ∧ j ≤ changes.length ∧
      d = runningSum changes i - runningSum changes j} (drawdown changes).fall := by
  induction changes using List.reverseRecOn with
  | nil =>
      refine ⟨⟨0, 0, le_rfl, le_rfl, by simp [drawdown, Drawdown.start]⟩, ?_⟩
      rintro _ ⟨i, j, -, -, rfl⟩
      simp [runningSum, drawdown, Drawdown.start]
  | append_singleton changes change ih =>
      have hpeak : IsGreatest _ (drawdown (changes ++ [change])).peak := drawdown_peak
      have hcum : (drawdown (changes ++ [change])).cum = _ := drawdown_cum
      have hfall : (drawdown (changes ++ [change])).fall =
          max (drawdown changes).fall
            ((drawdown (changes ++ [change])).peak - (drawdown (changes ++ [change])).cum) := by
        rw [drawdown_append]
        rfl
      rw [hfall, hcum]
      constructor
      · rcases max_choice (drawdown changes).fall ((drawdown (changes ++ [change])).peak -
          runningSum (changes ++ [change]) (changes ++ [change]).length) with h | h
        · rw [h]
          obtain ⟨i, j, hij, hj, heq⟩ := ih.1
          refine ⟨i, j, hij, ?_, ?_⟩
          · rw [List.length_append]
            omega
          · rw [runningSum_append_of_le (hij.trans hj), runningSum_append_of_le hj, heq]
        · rw [h]
          obtain ⟨i, hi, heq⟩ := hpeak.1
          exact ⟨i, _, hi, le_rfl, by rw [heq]⟩
      · rintro _ ⟨i, j, hij, hj, rfl⟩
        rw [List.length_append, List.length_singleton] at hj
        rcases Nat.le_succ_iff.mp hj with hj | rfl
        · rw [runningSum_append_of_le (hij.trans hj), runningSum_append_of_le hj]
          exact (ih.2 ⟨i, j, hij, hj, rfl⟩).trans (le_max_left _ _)
        · refine le_trans ?_ (le_max_right _ _)
          rw [List.length_append, List.length_singleton]
          exact sub_le_sub_right (hpeak.2 ⟨i, by simpa using hij, rfl⟩) _

end Pass

end CryptoTrader.Lib
