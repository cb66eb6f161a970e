import Mathlib.Data.List.Basic
import Mathlib.Order.Basic
import Mathlib.Data.Nat.Init

/-!
# A log that grows, and whose records may be closed

At each time the log gets new records, and a mark goes over all of them; a mark
closes a record at present.  `cut n` is a record as it was known at time `n`: none,
if it is newer.
-/

namespace CryptoTrader.Lib

universe u

variable {α : Type u} {log new : ℕ → List α} {mark : ℕ → α → α} {cut : ℕ → α → Option α}

theorem filterMap_cut (hstep : ∀ k, log (k + 1) = (log k ++ new k).map (mark k))
    (hnew : ∀ k n a, n ≤ k → a ∈ new k → cut n a = none)
    (hmark : ∀ k n a, n ≤ k → cut n (mark k a) = cut n a)
    (hkept : ∀ k a, a ∈ log k → cut k a = some a) {n k : ℕ} (h : n ≤ k) :
    (log k).filterMap (cut n) = log n := by
  induction k, h using Nat.le_induction with
  | base =>
      have hall : ∀ a, a ∈ log n → cut n a = some a := fun a ha => hkept n a ha
      rw [List.filterMap_congr hall, List.filterMap_some]
  | succ k hk ih =>
      have hlate : (new k).filterMap (cut n) = [] := by
        rw [List.filterMap_eq_nil_iff]
        exact fun a ha => hnew k n a hk ha
      have hsame : cut n ∘ mark k = cut n := funext (fun a => hmark k n a hk)
      rw [hstep, List.filterMap_map, hsame, List.filterMap_append, ih, hlate, List.append_nil]

/-- A log that only grows. -/
theorem filter_stamp {stamp : α → ℕ} (hstep : ∀ k, log (k + 1) = log k ++ new k)
    (hnew : ∀ k a, a ∈ new k → stamp a = k) (hempty : log 0 = []) {n k : ℕ} (h : n ≤ k) :
    (log k).filter (fun a => stamp a < n) = log n := by
  have hold : ∀ k a, a ∈ log k → stamp a < k := by
    intro k
    induction k with
    | zero =>
        intro a ha
        rw [hempty] at ha
        cases ha
    | succ k ih =>
        intro a ha
        rw [hstep, List.mem_append] at ha
        exact ha.elim (fun h => Nat.lt_succ_of_lt (ih a h))
          (fun h => by rw [hnew k a h]; exact Nat.lt_succ_self k)
  induction k, h using Nat.le_induction with
  | base =>
      rw [List.filter_eq_self]
      intro a ha
      simpa using hold n a ha
  | succ k hk ih =>
      have hlate : (new k).filter (fun a => stamp a < n) = [] := by
        rw [List.filter_eq_nil_iff]
        intro a ha
        simp [hnew k a ha, hk]
      rw [hstep, List.filter_append, ih, hlate, List.append_nil]

end CryptoTrader.Lib
