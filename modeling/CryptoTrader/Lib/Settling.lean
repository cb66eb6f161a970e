import Mathlib.Data.Set.Finite.Basic
import Mathlib.Data.Set.Finite.Lattice
import Mathlib.Order.Iterate

/-!
# Iterates that settle

The iterates of a monotone function on a linear order go one way, and where the
function takes finitely many values they come to rest.
-/

namespace CryptoTrader.Lib

variable {α : Type*} [LinearOrder α] {f : α → α} {x : α}

theorem iterate_monotone_or_antitone (hf : Monotone f) (x : α) :
    Monotone (fun n => f^[n] x) ∨ Antitone (fun n => f^[n] x) :=
  (le_total x (f x)).imp hf.monotone_iterate_of_le_map hf.antitone_iterate_of_map_le

/-- A sequence that goes one way and never stays is injective. -/
theorem injective_of_one_way {u : ℕ → α} (h : Monotone u ∨ Antitone u)
    (hmoves : ∀ n, u (n + 1) ≠ u n) : Function.Injective u := by
  rcases h with h | h
  · exact (strictMono_nat_of_lt_succ (fun n =>
      lt_of_le_of_ne (h n.le_succ) (hmoves n).symm)).injective
  · exact (strictAnti_nat_of_succ_lt (fun n =>
      lt_of_le_of_ne (h n.le_succ) (hmoves n))).injective

theorem exists_iterate_fixed (hf : Monotone f) {s : Set α} (hs : s.Finite)
    (hmaps : ∀ y, f y ∈ s) (x : α) : ∃ n, f (f^[n] x) = f^[n] x := by
  by_contra hnone
  push Not at hnone
  have hinj : Function.Injective (fun n => f^[n] x) :=
    injective_of_one_way (iterate_monotone_or_antitone hf x) (fun n => by
      rw [Function.iterate_succ_apply']
      exact hnone n)
  have hshift : Function.Injective (fun n => f^[n + 1] x) :=
    fun m n h => Nat.succ_injective (hinj h)
  refine Set.infinite_of_injective_forall_mem hshift (fun n => ?_) hs
  rw [Function.iterate_succ_apply']
  exact hmaps _

omit [LinearOrder α] in
/-- What has come to rest stays. -/
theorem iterate_eq_of_fixed {m n : ℕ} (h : f (f^[n] x) = f^[n] x) (hle : n ≤ m) :
    f^[m] x = f^[n] x := by
  obtain ⟨k, rfl⟩ := Nat.exists_eq_add_of_le' hle
  rw [Function.iterate_add_apply]
  exact Function.iterate_fixed h k

end CryptoTrader.Lib
