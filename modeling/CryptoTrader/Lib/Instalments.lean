import Mathlib.Algebra.BigOperators.Group.List.Basic
import Mathlib.Algebra.Module.Basic
import Mathlib.Algebra.Order.Module.Defs
import Mathlib.Tactic.Abel

/-!
# Instalments

A total paid in `n` instalments: a fixed amount each time, and the last one
settles what is left.  The total always comes out; whether the last instalment
is a payment at all depends on how the fixed amount was rounded.
-/

namespace CryptoTrader.Lib

variable {K : Type*}

section Group

variable [AddCommGroup K]

/-- `n` instalments of `amount`, the last of which settles the rest of `total`. -/
def instalments (amount : K) : Nat → K → List K
  | 0, _ => []
  | n + 1, total => (if n = 0 then total else amount) :: instalments amount n (total - amount)

@[simp] theorem length_instalments (amount : K) (n : Nat) (total : K) :
    (instalments amount n total).length = n := by
  induction n generalizing total with
  | zero => rfl
  | succ n ih => simp [instalments, ih]

/-- The first instalments are all the fixed amount. -/
theorem sum_take_instalments (amount : K) {n k : Nat} (total : K) (hk : k < n) :
    ((instalments amount n total).take k).sum = k • amount := by
  induction n generalizing total k with
  | zero => omega
  | succ n ih =>
      cases k with
      | zero => simp
      | succ k =>
          have hn : n ≠ 0 := by omega
          simp only [instalments, hn, if_false, List.take_succ_cons, List.sum_cons]
          rw [ih (total - amount) (by omega), succ_nsmul']

/-- The instalments add up to the total. -/
theorem sum_instalments (amount : K) {n : Nat} (total : K) (hn : 0 < n) :
    (instalments amount n total).sum = total := by
  induction n generalizing total with
  | zero => omega
  | succ n ih =>
      cases n with
      | zero => simp [instalments]
      | succ n =>
          rw [instalments, List.sum_cons, ih (total - amount) (by omega)]
          simp

/-- An instalment is the fixed amount or what the others leave. -/
theorem eq_of_mem_instalments {amount : K} {n : Nat} {total x : K}
    (hx : x ∈ instalments amount (n + 1) total) : x = amount ∨ x = total - n • amount := by
  induction n generalizing total with
  | zero => exact .inr (by simpa [instalments] using hx)
  | succ n ih =>
      rw [instalments, List.mem_cons] at hx
      rcases hx with rfl | hx
      · exact .inl (by simp)
      · rcases ih hx with h | h
        · exact .inl h
        · right
          rw [h, succ_nsmul]
          abel

end Group

section Ordered

variable [AddCommGroup K] [LinearOrder K] [IsOrderedAddMonoid K]

/-- No instalment is negative when the fixed ones stay within the total. -/
theorem nonneg_of_mem_instalments {amount : K} {n : Nat} {total x : K} (hamount : 0 ≤ amount)
    (hfit : n • amount ≤ total) (hx : x ∈ instalments amount (n + 1) total) : 0 ≤ x := by
  rcases eq_of_mem_instalments hx with rfl | rfl
  · exact hamount
  · exact sub_nonneg.mpr hfit

end Ordered

end CryptoTrader.Lib
