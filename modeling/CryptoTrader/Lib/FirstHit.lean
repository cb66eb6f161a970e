import Mathlib.Data.List.Basic
import Mathlib.Data.List.Range

/-!
# The first hit

A loop over `0, 1, 2, …` that keeps the first index at which a predicate holds,
and keeps it for good.
-/

namespace CryptoTrader.Lib

/-- The first index below a bound that is hit. -/
def firstHit (p : ℕ → Bool) (k : ℕ) : Option ℕ := (List.range k).find? p

/-- One more index: what was found stays. -/
def latch (p : ℕ → Bool) (k : ℕ) (found : Option ℕ) : Option ℕ :=
  found.or (if p k then some k else none)

section FirstHit

variable {p : ℕ → Bool} {n k i : ℕ}

theorem latch_eq_ite (found : Option ℕ) :
    latch p k found = if found.isNone ∧ p k then some k else found := by
  unfold latch
  cases found with
  | none => simp
  | some i => simp

theorem firstHit_succ : firstHit p (k + 1) = latch p k (firstHit p k) := by
  unfold firstHit latch
  rw [List.range_succ, List.find?_append, List.find?_singleton]

theorem firstHit_eq_some_iff :
    firstHit p k = some i ↔ i < k ∧ p i = true ∧ ∀ j, j < i → p j = false := by
  unfold firstHit
  rw [List.find?_range_eq_some]
  simp only [List.mem_range, Bool.not_eq_true']
  constructor
  · intro h
    exact ⟨h.2.1, h.1, h.2.2⟩
  · intro h
    exact ⟨h.2.1, h.1, h.2.2⟩

theorem firstHit_eq_none_iff : firstHit p k = none ↔ ∀ j, j < k → p j = false := by
  simp [firstHit]

/-- Forgetting the later indices is as if the loop had stopped there. -/
theorem firstHit_filter (h : n ≤ k) : (firstHit p k).filter (fun i => i < n) = firstHit p n := by
  cases hn : firstHit p n with
  | none =>
      have hnone := firstHit_eq_none_iff.mp hn
      cases hk : firstHit p k with
      | none => rfl
      | some i =>
          obtain ⟨-, hi, -⟩ := firstHit_eq_some_iff.mp hk
          have hlate : ¬ i < n := fun hlt => by simp [hnone i hlt] at hi
          simp [Option.filter, hlate]
  | some i =>
      obtain ⟨hlt, hi, hfirst⟩ := firstHit_eq_some_iff.mp hn
      have hk : firstHit p k = some i :=
        firstHit_eq_some_iff.mpr ⟨Nat.lt_of_lt_of_le hlt h, hi, hfirst⟩
      simp [hk, Option.filter, hlt]

/-- A later index is not seen. -/
theorem latch_filter (h : n ≤ k) (found : Option ℕ) :
    (latch p k found).filter (fun i => i < n) = found.filter (fun i => i < n) := by
  unfold latch
  cases found with
  | some i => rfl
  | none =>
      by_cases hp : p k = true
      · simp [hp, Option.filter, h]
      · simp [hp]

end FirstHit

end CryptoTrader.Lib
