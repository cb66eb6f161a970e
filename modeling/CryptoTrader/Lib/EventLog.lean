import Mathlib.Data.Finset.Card

/-!
# Event logs and their replays

A state machine that records every event before applying it can be rebuilt
from its log.  Two rebuilds are common, and neither is literally the fold
of the log:

* a *guarded replay* skips an event equal to an earlier one and refuses a
  stream whose time stamps go back;
* a *resume* starts from a snapshot of a prefix and folds the remainder.

Both are compared with the plain fold through a `view`, the part of the
state that is looked at.
-/

namespace CryptoTrader.Lib.EventLog

universe u v w

variable {σ : Type u} {ε : Type v} {ο : Type w}

/-- The view determines itself along events. -/
def Congruence (apply : σ → ε → σ) (view : σ → ο) : Prop :=
  ∀ s t e, view s = view t → view (apply s e) = view (apply t e)

/-- Folding one log from two states that look alike ends in states that
look alike. -/
theorem Congruence.foldl {apply : σ → ε → σ} {view : σ → ο}
    (hview : Congruence apply view) (log : List ε) {s t : σ} (h : view s = view t) :
    view (log.foldl apply s) = view (log.foldl apply t) :=
  List.foldl_rel (r := fun a b => view a = view b) h
    (fun e _ a b hab => hview a b e hab)

/-! ## Resuming from a snapshot -/

/-- Folding what follows the first `n` events from a state that looks like
their fold gives what folding the whole log gives. -/
theorem Congruence.resume {apply : σ → ε → σ} {view : σ → ο}
    (hview : Congruence apply view) (s₀ s : σ) (log : List ε) (n : Nat)
    (hs : view s = view ((log.take n).foldl apply s₀)) :
    view ((log.drop n).foldl apply s) = view (log.foldl apply s₀) := by
  have h := hview.foldl (log.drop n) hs
  rwa [← List.foldl_append, List.take_append_drop] at h

/-! ## Repeated events -/

/-- Every event of the log that repeats one of `seen`, or an earlier event
of the log, leaves the view of the state it is applied to as it was. -/
def RepeatsHarmless (apply : σ → ε → σ) (view : σ → ο) :
    List ε → σ → List ε → Prop
  | _, _, [] => True
  | seen, s, e :: rest =>
      (e ∈ seen → view (apply s e) = view s) ∧
        RepeatsHarmless apply view (seen ++ [e]) (apply s e) rest

theorem repeatsHarmless_append (apply : σ → ε → σ) (view : σ → ο) (l₁ l₂ : List ε) :
    ∀ (seen : List ε) (s : σ),
      RepeatsHarmless apply view seen s (l₁ ++ l₂) ↔
        RepeatsHarmless apply view seen s l₁ ∧
          RepeatsHarmless apply view (seen ++ l₁) (l₁.foldl apply s) l₂ := by
  induction l₁ with
  | nil => intro seen s; simp [RepeatsHarmless]
  | cons e rest ih =>
      intro seen s
      simp only [List.cons_append, RepeatsHarmless, ih, List.foldl_cons, and_assoc,
        List.append_assoc, List.nil_append]

instance decidableRepeatsHarmless [DecidableEq ε] [DecidableEq ο] (apply : σ → ε → σ)
    (view : σ → ο) : ∀ (seen : List ε) (s : σ) (log : List ε),
      Decidable (RepeatsHarmless apply view seen s log)
  | _, _, [] => isTrue trivial
  | seen, s, e :: rest =>
      have := decidableRepeatsHarmless apply view (seen ++ [e]) (apply s e) rest
      inferInstanceAs (Decidable ((e ∈ seen → view (apply s e) = view s) ∧
        RepeatsHarmless apply view (seen ++ [e]) (apply s e) rest))

/-- Whether repeats are harmful is decided by what is seen of the state. -/
theorem Congruence.repeatsHarmless_congr {apply : σ → ε → σ} {view : σ → ο}
    (hview : Congruence apply view) (log : List ε) :
    ∀ (seen : List ε) {s t : σ}, view s = view t →
      RepeatsHarmless apply view seen s log → RepeatsHarmless apply view seen t log := by
  induction log with
  | nil => intro seen s t _ _; trivial
  | cons e rest ih =>
      intro seen s t hst h
      have hnext := hview s t e hst
      refine ⟨fun hmem => ?_, ih _ hnext h.2⟩
      rw [← hnext, h.1 hmem, hst]

/-! ## Guarded replay -/

section Guarded

variable [DecidableEq ε]

/-- The log without the events that repeat an earlier one or one of `seen`. -/
def firsts : List ε → List ε → List ε
  | _, [] => []
  | seen, e :: rest =>
      if e ∈ seen then firsts seen rest else e :: firsts (seen ++ [e]) rest

theorem mem_firsts {x : ε} (log : List ε) :
    ∀ {seen : List ε}, x ∈ firsts seen log ↔ x ∈ log ∧ x ∉ seen := by
  induction log with
  | nil => intro seen; simp [firsts]
  | cons e rest ih =>
      intro seen
      by_cases hmem : e ∈ seen
      · rw [firsts, if_pos hmem, ih, List.mem_cons]
        refine and_congr_left (fun hx => (or_iff_right ?_).symm)
        rintro rfl
        exact hx hmem
      · rw [firsts, if_neg hmem, List.mem_cons, ih, List.mem_cons, List.mem_append,
          List.mem_singleton]
        by_cases hx : x = e
        · subst hx
          simp [hmem]
        · simp [hx]

theorem nodup_firsts (log : List ε) : ∀ (seen : List ε), (firsts seen log).Nodup := by
  induction log with
  | nil => intro seen; exact List.nodup_nil
  | cons e rest ih =>
      intro seen
      by_cases hmem : e ∈ seen
      · rw [firsts, if_pos hmem]
        exact ih seen
      · rw [firsts, if_neg hmem, List.nodup_cons, mem_firsts]
        exact ⟨fun h => h.2 (by simp), ih _⟩

/-- A guarded replay applies as many events as the log has different ones. -/
theorem length_firsts (log : List ε) : (firsts [] log).length = log.toFinset.card := by
  rw [← List.toFinset_card_of_nodup (nodup_firsts log [])]
  congr 1
  ext x
  simp [mem_firsts]

/-- Replay that skips repeats and stops with `none` on a time stamp before
the last one applied. -/
def guardedReplay (apply : σ → ε → σ) (stamp : ε → Nat) :
    Int → List ε → List ε → σ → Option σ
  | _, _, [], s => some s
  | last, seen, e :: rest, s =>
      if e ∈ seen then guardedReplay apply stamp last seen rest s
      else if (stamp e : Int) < last then none
      else guardedReplay apply stamp (stamp e) (seen ++ [e]) rest (apply s e)

/-- On a stream in time order the guarded replay never stops, and folds the
first occurrences. -/
theorem guardedReplay_eq (apply : σ → ε → σ) (stamp : ε → Nat) (log : List ε)
    (hsorted : log.Pairwise (fun a b => stamp a ≤ stamp b)) :
    ∀ (last : Int) (seen : List ε) (s : σ), (∀ e ∈ log, last ≤ stamp e) →
      guardedReplay apply stamp last seen log s =
        some ((firsts seen log).foldl apply s) := by
  induction log with
  | nil => intro last seen s _; rfl
  | cons e rest ih =>
      intro last seen s hlast
      obtain ⟨hhead, hrest⟩ := List.pairwise_cons.mp hsorted
      by_cases hmem : e ∈ seen
      · simp only [guardedReplay, firsts, if_pos hmem]
        exact ih hrest last seen s (fun x hx => hlast x (List.mem_cons_of_mem _ hx))
      · have hnot : ¬ ((stamp e : Int) < last) :=
          Int.not_lt.mpr (hlast e List.mem_cons_self)
        simp only [guardedReplay, firsts, if_neg hmem, if_neg hnot, List.foldl_cons]
        exact ih hrest _ _ _ (fun x hx => by exact_mod_cast hhead x hx)

/-- `firsts` looks at `seen` only through membership. -/
private theorem firsts_congr (log : List ε) : ∀ {a b : List ε}, (∀ x, x ∈ a ↔ x ∈ b) →
    firsts a log = firsts b log := by
  induction log with
  | nil => intro a b _; rfl
  | cons e rest ih =>
      intro a b hab
      have hnext : ∀ x, x ∈ a ++ [e] ↔ x ∈ b ++ [e] := by
        intro x
        simp only [List.mem_append, hab x]
      simp only [firsts, hab e, ih hab, ih hnext]

/-- When repeats are harmless, skipping them is invisible. -/
theorem Congruence.foldl_firsts {apply : σ → ε → σ} {view : σ → ο}
    (hview : Congruence apply view) (log : List ε) :
    ∀ (seen : List ε) (s t : σ), view s = view t →
      RepeatsHarmless apply view seen t log →
      view ((firsts seen log).foldl apply s) = view (log.foldl apply t) := by
  induction log with
  | nil => intro seen s t h _; exact h
  | cons e rest ih =>
      intro seen s t h hharm
      obtain ⟨hhere, hrest⟩ := hharm
      by_cases hmem : e ∈ seen
      · have hskip : view s = view (apply t e) := by rw [h, hhere hmem]
        have hseen : ∀ x, x ∈ seen ++ [e] ↔ x ∈ seen := by
          intro x
          simp only [List.mem_append, List.mem_singleton, or_iff_left_iff_imp]
          rintro rfl
          exact hmem
        simp only [firsts, if_pos hmem, List.foldl_cons]
        rw [← firsts_congr rest hseen]
        exact ih (seen ++ [e]) s (apply t e) hskip hrest
      · simp only [firsts, if_neg hmem, List.foldl_cons]
        exact ih (seen ++ [e]) _ _ (hview s t e h) hrest

end Guarded

end CryptoTrader.Lib.EventLog
