/-!
# Guarded runs

A run applies steps one after another to a state.  `Reaches` are the states
of the runs all of whose steps met a condition when they were taken; the
condition may look at the state before the step and at the step's input.
-/

namespace CryptoTrader.Lib

universe u v w

variable {σ : Type u} {α : Type v}

/-- The states reached from `s₀` by steps that each meet `ok`. -/
inductive Reaches (step : σ → α → σ) (ok : σ → α → Prop) (s₀ : σ) : σ → Prop where
  | start : Reaches step ok s₀ s₀
  | step {s : σ} {a : α} (h : Reaches step ok s₀ s) (ha : ok s a) : Reaches step ok s₀ (step s a)

/-- Every step of a list meets the condition when its turn comes. -/
def AllOk (step : σ → α → σ) (ok : σ → α → Prop) : σ → List α → Prop
  | _, [] => True
  | s, a :: rest => ok s a ∧ AllOk step ok (step s a) rest

instance AllOk.decidable (step : σ → α → σ) (ok : σ → α → Prop) [∀ s a, Decidable (ok s a)] :
    ∀ (s : σ) (l : List α), Decidable (AllOk step ok s l)
  | _, [] => isTrue trivial
  | s, a :: rest =>
      have := AllOk.decidable step ok (step s a) rest
      inferInstanceAs (Decidable (ok s a ∧ AllOk step ok (step s a) rest))

/-- Two conditions that agree on the steps of a list as long as an invariant
holds, which those that meet them keep, are met by the list alike. -/
theorem AllOk.congr {step : σ → α → σ} {ok ok' : σ → α → Prop} {inv : σ → Prop} (l : List α)
    (hiff : ∀ s, ∀ a ∈ l, inv s → (ok s a ↔ ok' s a))
    (hkeep : ∀ s, ∀ a ∈ l, inv s → ok s a → inv (step s a)) :
    ∀ {s : σ}, inv s → (AllOk step ok s l ↔ AllOk step ok' s l) := by
  induction l with
  | nil => exact fun _ => Iff.rfl
  | cons a rest ih =>
      intro s hs
      show ok s a ∧ _ ↔ ok' s a ∧ _
      rw [← hiff s a List.mem_cons_self hs]
      refine and_congr_right (fun ha => ?_)
      exact ih (fun s b hb => hiff s b (List.mem_cons_of_mem a hb))
        (fun s b hb => hkeep s b (List.mem_cons_of_mem a hb)) (hkeep s a List.mem_cons_self hs ha)

/-- Steps that meet one condition meet another, as long as an invariant holds,
which they keep. -/
theorem AllOk.of_inv {step : σ → α → σ} {ok ok' : σ → α → Prop} {inv : σ → Prop} (l : List α)
    (hstep : ∀ s, ∀ a ∈ l, inv s → ok s a → ok' s a ∧ inv (step s a)) :
    ∀ {s : σ}, inv s → AllOk step ok s l → AllOk step ok' s l := by
  induction l with
  | nil => exact fun _ _ => trivial
  | cons a rest ih =>
      intro s hs h
      obtain ⟨hfine, hnext⟩ := hstep s a List.mem_cons_self hs h.1
      exact ⟨hfine, ih (fun s b hb => hstep s b (List.mem_cons_of_mem a hb)) hnext h.2⟩

/-- The steps of two lists one after the other. -/
theorem AllOk.append_iff {step : σ → α → σ} {ok : σ → α → Prop} (l l' : List α) :
    ∀ {s : σ}, AllOk step ok s (l ++ l') ↔ AllOk step ok s l ∧ AllOk step ok (l.foldl step s) l' := by
  induction l with
  | nil => simp [AllOk]
  | cons a rest ih =>
      intro s
      simp only [List.cons_append, AllOk, List.foldl_cons, ih, and_assoc]

/-- Two machines that run on the same steps, whose states are related at the
start.  If one step keeps them related exactly when it meets the condition, then
they stay related throughout a list exactly if every step does when its turn
comes. -/
theorem AllOk.related_iff {τ : Type w} {step : σ → α → σ} {step' : τ → α → τ} {rel inv : σ → τ → Prop}
    {ok : σ → α → Prop} (hkeep : ∀ s t a, inv s t → rel s t → inv (step s a) (step' t a))
    (hstep : ∀ s t a, inv s t → rel s t → (rel (step s a) (step' t a) ↔ ok s a)) (l : List α) :
    ∀ {s : σ} {t : τ}, inv s t → rel s t →
      ((∀ before, before <+: l → rel (before.foldl step s) (before.foldl step' t)) ↔
        AllOk step ok s l) := by
  induction l with
  | nil =>
      intro s t _ hrel
      simpa [AllOk] using hrel
  | cons a rest ih =>
      intro s t hinv hrel
      show _ ↔ ok s a ∧ _
      rw [← hstep s t a hinv hrel]
      constructor
      · intro h
        have hfirst : rel (step s a) (step' t a) := h [a] (by simp)
        refine ⟨hfirst, (ih (hkeep s t a hinv hrel) hfirst).mp (fun before hbefore => ?_)⟩
        exact h (a :: before) (by simpa using hbefore)
      · rintro ⟨hfirst, hrest⟩ before hbefore
        cases before with
        | nil => exact hrel
        | cons b before =>
            obtain ⟨heq, htail⟩ := List.cons_prefix_cons.mp hbefore
            subst heq
            exact (ih (hkeep s t b hinv hrel) hfirst).mpr hrest before htail

/-- One machine: if a step keeps a property exactly when it meets the condition,
the property holds throughout a list exactly if every step meets it. -/
theorem AllOk.kept_iff {step : σ → α → σ} {kept inv : σ → Prop} {ok : σ → α → Prop}
    (hstep : ∀ s a, inv s → kept s → inv (step s a) ∧ (kept (step s a) ↔ ok s a)) (l : List α)
    {s : σ} (hinv : inv s) (hkept : kept s) :
    (∀ before, before <+: l → kept (before.foldl step s)) ↔ AllOk step ok s l := by
  -- the other machine is the one that does nothing
  let idle : Unit → α → Unit := fun _ _ => ()
  let rel : σ → Unit → Prop := fun s _ => kept s
  let inv' : σ → Unit → Prop := fun s _ => inv s
  have hkeep : ∀ s t a, inv' s t → rel s t → inv' (step s a) (idle t a) :=
    fun s _ a hinv hkept => (hstep s a hinv hkept).1
  have hrel : ∀ s t a, inv' s t → rel s t → (rel (step s a) (idle t a) ↔ ok s a) :=
    fun s _ a hinv hkept => (hstep s a hinv hkept).2
  exact @AllOk.related_iff σ α Unit step idle rel inv' ok hkeep hrel l s () hinv hkept

/-- The same under an assumption on the steps, for an invariant from which the
property follows. -/
theorem AllOk.kept_iff_of {step : σ → α → σ} {kept inv : σ → Prop} {given ok : σ → α → Prop}
    (hkept : ∀ s, inv s → kept s)
    (hstep : ∀ s a, inv s → given s a →
      (kept (step s a) → ok s a) ∧ (ok s a → inv (step s a))) (l : List α) :
    ∀ {s : σ}, inv s → AllOk step given s l →
      ((∀ before, before <+: l → kept (before.foldl step s)) ↔ AllOk step ok s l) := by
  induction l with
  | nil =>
      intro s hs _
      simpa [AllOk] using hkept s hs
  | cons a rest ih =>
      intro s hs hgiven
      obtain ⟨hok, hinv⟩ := hstep s a hs hgiven.1
      constructor
      · intro h
        have hfirst : ok s a := hok (h [a] (by simp))
        refine ⟨hfirst, (ih (hinv hfirst) hgiven.2).mp (fun before hbefore => ?_)⟩
        exact h (a :: before) (by simpa using hbefore)
      · rintro ⟨hfirst, hrest⟩ before hbefore
        cases before with
        | nil => exact hkept s hs
        | cons b before =>
            obtain ⟨heq, htail⟩ := List.cons_prefix_cons.mp hbefore
            subst heq
            exact (ih (hinv hfirst) hgiven.2).mpr hrest before htail

namespace Reaches

variable {step : σ → α → σ} {ok : σ → α → Prop} {s₀ s : σ}

/-- What holds at the start and is kept by every step that meets the
condition holds in every state reached. -/
theorem invariant {inv : σ → Prop} (h : Reaches step ok s₀ s) (hstart : inv s₀)
    (hstep : ∀ s a, inv s → ok s a → inv (step s a)) : inv s := by
  induction h with
  | start => exact hstart
  | step _ ha ih => exact hstep _ _ ih ha

/-- Running a list of steps that are each fine in turn. -/
theorem foldl (l : List α) : ∀ {s : σ}, Reaches step ok s₀ s → AllOk step ok s l →
    Reaches step ok s₀ (l.foldl step s) := by
  induction l with
  | nil => intro s h _; exact h
  | cons a rest ih => intro s h hok; exact ih (h.step hok.1) hok.2

end Reaches

end CryptoTrader.Lib
