import CryptoTrader.Lib.Dict
import Mathlib.Data.List.Basic

/-!
# Names that end in a number

Names made of anything, a dash and a number are told apart by the number.  A
dictionary whose entries were added one by one under names that end in its new
size never gets a name twice.
-/

namespace CryptoTrader.Lib

universe u

variable {ν : Type u}

/-- What follows the last separator. -/
theorem eq_of_append_cons_eq {α : Type u} [DecidableEq α] {sep : α} {a b x y : List α}
    (hx : sep ∉ x) (hy : sep ∉ y) (h : a ++ sep :: x = b ++ sep :: y) : x = y := by
  have hlast : ∀ {c z : List α}, sep ∉ z →
      (c ++ sep :: z).reverse.takeWhile (· ≠ sep) = z.reverse := by
    intro c z hz
    rw [List.reverse_append, List.reverse_cons, List.append_assoc,
      List.takeWhile_append_of_pos]
    · simp
    · intro e he
      have hne : e ≠ sep := fun heq => hz (heq ▸ List.mem_reverse.mp he)
      simpa using hne
  have hrev := congrArg (fun l => l.reverse.takeWhile (· ≠ sep)) h
  simp only [hlast hx, hlast hy] at hrev
  exact List.reverse_injective hrev

/-- `stem-n`. -/
def numbered (stem : String) (n : Nat) : String := stem ++ "-" ++ toString n

theorem numbered_ne_empty (stem : String) (n : Nat) : numbered stem n ≠ "" := by
  intro h
  have hlist := congrArg String.toList h
  simp [numbered] at hlist

/-- The number of a name is its own. -/
theorem numbered_inj {stem stem' : String} {n n' : Nat} (h : numbered stem n = numbered stem' n') :
    n = n' := by
  have hdash : ∀ m : Nat, '-' ∉ Nat.toDigits 10 m := by
    intro m hm
    have hdigit := Nat.isDigit_of_mem_toDigits (by decide) (by decide) hm
    simp at hdigit
  have hlist : stem.toList ++ '-' :: Nat.toDigits 10 n =
      stem'.toList ++ '-' :: Nat.toDigits 10 n' := by
    simpa [numbered, toString] using congrArg String.toList h
  have hdigits := eq_of_append_cons_eq (hdash n) (hdash n') hlist
  rw [← @Nat.ofDigitChars_ten_toDigits n, hdigits, Nat.ofDigitChars_ten_toDigits]

/-- Every name ends in a number from one to the size. -/
def Numbered (d : Dict String ν) : Prop :=
  ∀ key, (d.get? key).isSome → ∃ stem n, key = numbered stem n ∧ 1 ≤ n ∧ n ≤ d.size

namespace Numbered

variable {d : Dict String ν}

theorem empty : Numbered (Dict.empty : Dict String ν) := by
  intro key h
  simp at h

/-- The next name is new. -/
theorem fresh (h : Numbered d) (stem : String) : d.get? (numbered stem (d.size + 1)) = none := by
  by_contra hsome
  obtain ⟨stem', n, hkey, -, hle⟩ := h _ (Option.isSome_iff_ne_none.mpr hsome)
  have hn := numbered_inj hkey
  omega

theorem set (h : Numbered d) (stem : String) (v : ν) :
    Numbered (d.set (numbered stem (d.size + 1)) v) := by
  have hsize : (d.set (numbered stem (d.size + 1)) v).size = d.size + 1 := by
    rw [Dict.size_set, h.fresh stem]
    rfl
  intro key hkey
  rw [hsize]
  by_cases heq : numbered stem (d.size + 1) = key
  · exact ⟨stem, d.size + 1, heq.symm, by omega, le_refl _⟩
  · rw [Dict.get?_set_ne _ _ heq] at hkey
    obtain ⟨stem', n, hname, hpos, hle⟩ := h key hkey
    exact ⟨stem', n, hname, hpos, by omega⟩

/-- A change of entries adds no name. -/
theorem modify (h : Numbered d) (k : String) (f : ν → ν) : Numbered (d.modify k f) := by
  intro key hkey
  rw [Dict.size_modify]
  refine h key ?_
  by_cases heq : k = key
  · subst heq
    simpa using hkey
  · rwa [Dict.get?_modify_ne _ _ heq] at hkey

end Numbered

end CryptoTrader.Lib
