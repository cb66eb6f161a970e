import Mathlib.Algebra.BigOperators.Group.List.Basic
import Mathlib.Data.List.Dedup

/-!
# Grouping a list by a key

The groups of a list, in the order in which their keys are first seen, and that a sum
over the groups is a sum over the list.
-/

namespace CryptoTrader.Lib

variable {α κ : Type*} [DecidableEq κ]

/-- The keys of a list, each where it is first seen. -/
def firstSeen (key : α → κ) (l : List α) : List κ := (l.map key).reverse.dedup.reverse

/-- The elements of a list with a key. -/
def groupOf (key : α → κ) (l : List α) (k : κ) : List α := l.filter (fun a => key a = k)

section Groups

variable {key : α → κ} {l : List α} {k : κ} {a : α}

theorem mem_firstSeen : k ∈ firstSeen key l ↔ ∃ a ∈ l, key a = k := by
  simp [firstSeen]

theorem nodup_firstSeen : (firstSeen key l).Nodup :=
  List.nodup_reverse.mpr (List.nodup_dedup _)

theorem mem_groupOf : a ∈ groupOf key l k ↔ a ∈ l ∧ key a = k := by
  simp [groupOf]

/-- A key counts an element once, if it is there. -/
theorem sum_single {M : Type*} [AddCommMonoid M] {ks : List κ} (hnodup : ks.Nodup) (hk : k ∈ ks)
    (x : M) : (ks.map (fun k' => if k = k' then x else 0)).sum = x := by
  induction ks with
  | nil => cases hk
  | cons k' ks ih =>
      obtain ⟨hnew, hnodup⟩ := List.nodup_cons.mp hnodup
      rw [List.map_cons, List.sum_cons]
      by_cases heq : k = k'
      · have hzero : (ks.map (fun k' => if k = k' then x else 0)).sum = 0 := by
          refine List.sum_eq_zero (fun y hy => ?_)
          obtain ⟨k'', hk'', rfl⟩ := List.mem_map.mp hy
          refine if_neg (fun h => hnew ?_)
          rw [← heq, h]
          exact hk''
        rw [if_pos heq, hzero, add_zero]
      · rw [if_neg heq, zero_add]
        exact ih hnodup ((List.mem_cons.mp hk).resolve_left heq)

/-- Summing over keys that cover the list, and over the group of each, is summing over
the list. -/
theorem sum_groups {M : Type*} [AddCommMonoid M] {ks : List κ} (hnodup : ks.Nodup)
    (hcover : ∀ a ∈ l, key a ∈ ks) (f : α → M) :
    (ks.map (fun k => ((groupOf key l k).map f).sum)).sum = (l.map f).sum := by
  induction l with
  | nil => simp [groupOf]
  | cons a l ih =>
      have hgroup : ∀ k, ((groupOf key (a :: l) k).map f).sum =
          (if key a = k then f a else 0) + ((groupOf key l k).map f).sum := by
        intro k
        by_cases heq : key a = k <;> simp [groupOf, heq]
      simp only [hgroup, List.sum_map_add]
      rw [sum_single hnodup (hcover a List.mem_cons_self),
        ih (fun b hb => hcover b (List.mem_cons_of_mem a hb)), List.map_cons, List.sum_cons]

/-- A list in the order of its keys is its groups, one key after the other. -/
theorem flatMap_groupOf [PartialOrder κ] {ks : List κ} (hks : ks.Pairwise (fun k k' => k < k'))
    (hcover : ∀ a ∈ l, key a ∈ ks) (hsorted : l.Pairwise (fun a b => key a ≤ key b)) :
    ks.flatMap (groupOf key l) = l := by
  induction l with
  | nil => simp [groupOf]
  | cons a l ih =>
      obtain ⟨hfirst, hsorted⟩ := List.pairwise_cons.mp hsorted
      have hrest := ih (fun b hb => hcover b (List.mem_cons_of_mem a hb)) hsorted
      obtain ⟨before, after, rfl⟩ := List.append_of_mem (hcover a List.mem_cons_self)
      obtain ⟨-, hafter, hbefore⟩ := List.pairwise_append.mp hks
      -- no element has a key before the first one's
      have hnone : ∀ l', (∀ b ∈ l', key a ≤ key b) → before.flatMap (groupOf key l') = [] := by
        intro l' hl'
        rw [List.flatMap_eq_nil_iff]
        intro k hk
        rw [groupOf, List.filter_eq_nil_iff]
        intro b hb heq
        have hlt : k < key a := hbefore k hk (key a) List.mem_cons_self
        rw [← of_decide_eq_true heq] at hlt
        exact absurd (hl' b hb) (not_le_of_gt hlt)
      have hsame : after.flatMap (groupOf key (a :: l)) = after.flatMap (groupOf key l) := by
        refine List.flatMap_congr (fun k hk => ?_)
        have hne : key a ≠ k := ne_of_lt ((List.pairwise_cons.mp hafter).1 k hk)
        simp [groupOf, hne]
      have hself : groupOf key (a :: l) (key a) = a :: groupOf key l (key a) := by simp [groupOf]
      have hall : ∀ b ∈ a :: l, key a ≤ key b := by
        intro b hb
        rcases List.mem_cons.mp hb with rfl | hb
        · exact le_refl _
        · exact hfirst b hb
      rw [List.flatMap_append, List.flatMap_cons, hnone l hfirst, List.nil_append] at hrest
      rw [List.flatMap_append, List.flatMap_cons, hnone (a :: l) hall, hself, hsame,
        List.nil_append, List.cons_append, hrest]

end Groups

end CryptoTrader.Lib
