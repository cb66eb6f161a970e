import Mathlib.Order.RelClasses

/-!
# Weakest preconditions for state and exceptions

`EStateM ε σ` runs a computation that threads a state and may raise; what it
did to the state before raising stays done.  `wp m Q E s` says how `m` ends
when it starts in `s`: with a value and a state in `Q`, or with an exception
and a state in `E`.  Each construct has its equation, so a program is read
backwards by rewriting, and a call is replaced by its specification with
`wp_mono`.

`transaction` is a computation whose changes are rolled back when it raises.

`Moves R m` is the special case of a relation between the first and the last
state that holds however `m` ends, which is how frame conditions are proved.
-/

namespace CryptoTrader.Lib

section Wp

variable {ε σ α β : Type}

/-- How `m` ends from `s`. -/
def wp (m : EStateM ε σ α) (Q : α → σ → Prop) (E : ε → σ → Prop) (s : σ) : Prop :=
  match m s with
  | .ok a s' => Q a s'
  | .error e s' => E e s'

variable {Q Q' : α → σ → Prop} {E E' : ε → σ → Prop} {s : σ}

/-- The rule of consequence. -/
theorem wp_mono {m : EStateM ε σ α} (h : wp m Q E s) (hQ : ∀ a s', Q a s' → Q' a s')
    (hE : ∀ e s', E e s' → E' e s') : wp m Q' E' s := by
  unfold wp at h ⊢
  cases hm : m s with
  | ok a s' =>
      rw [hm] at h
      exact hQ a s' h
  | error e s' =>
      rw [hm] at h
      exact hE e s' h

/-- Two postconditions hold together. -/
theorem wp_and {m : EStateM ε σ α} (h : wp m Q E s) (h' : wp m Q' E' s) :
    wp m (fun a s' => Q a s' ∧ Q' a s') (fun e s' => E e s' ∧ E' e s') s := by
  unfold wp at h h' ⊢
  cases hm : m s with
  | ok a s' =>
      rw [hm] at h h'
      exact ⟨h, h'⟩
  | error e s' =>
      rw [hm] at h h'
      exact ⟨h, h'⟩

@[simp] theorem wp_pure (a : α) : wp (pure a) Q E s ↔ Q a s := Iff.rfl

@[simp] theorem wp_throw (e : ε) : wp (throw e) Q E s ↔ E e s := Iff.rfl

theorem wp_bind (m : EStateM ε σ α) (f : α → EStateM ε σ β) (Q : β → σ → Prop)
    (E : ε → σ → Prop) :
    wp (m >>= f) Q E s ↔ wp m (fun a s' => wp (f a) Q E s') E s := by
  show (match EStateM.bind m f s with | .ok a s' => Q a s' | .error e s' => E e s') ↔ _
  unfold wp EStateM.bind
  cases m s with
  | ok a s' => exact Iff.rfl
  | error e s' => exact Iff.rfl

theorem wp_map (g : α → β) (m : EStateM ε σ α) (Q : β → σ → Prop) (E : ε → σ → Prop) :
    wp (g <$> m) Q E s ↔ wp m (fun a s' => Q (g a) s') E s := by
  show (match EStateM.map g m s with | .ok a s' => Q a s' | .error e s' => E e s') ↔ _
  unfold wp EStateM.map
  cases m s with
  | ok a s' => exact Iff.rfl
  | error e s' => exact Iff.rfl

theorem wp_tryCatch (m : EStateM ε σ α) (f : ε → EStateM ε σ α) :
    wp (tryCatch m f) Q E s ↔ wp m Q (fun e s' => wp (f e) Q E s') s := by
  show (match EStateM.tryCatch m f s with | .ok a s' => Q a s' | .error e s' => E e s') ↔ _
  unfold wp EStateM.tryCatch
  cases m s with
  | ok a s' => exact Iff.rfl
  | error e s' => exact Iff.rfl

@[simp] theorem wp_get {Q : σ → σ → Prop} :
    wp (get : EStateM ε σ σ) Q E s ↔ Q s s := Iff.rfl

@[simp] theorem wp_modify {Q : PUnit → σ → Prop} (f : σ → σ) :
    wp (modify f : EStateM ε σ PUnit) Q E s ↔ Q ⟨⟩ (f s) := Iff.rfl

theorem wp_ite {c : Prop} [Decidable c] (m m' : EStateM ε σ α) :
    wp (if c then m else m') Q E s ↔ (c → wp m Q E s) ∧ (¬ c → wp m' Q E s) := by
  by_cases h : c
  · simp [h]
  · simp [h]

/-- A computation that ends with a value ends in its postcondition. -/
theorem wp_ok {m : EStateM ε σ α} (h : wp m Q E s) {a : α} {s' : σ} (hm : m s = .ok a s') :
    Q a s' := by
  unfold wp at h
  rwa [hm] at h

/-- A computation that raises ends in its exceptional postcondition. -/
theorem wp_error {m : EStateM ε σ α} (h : wp m Q E s) {e : ε} {s' : σ}
    (hm : m s = .error e s') : E e s' := by
  unfold wp at h
  rwa [hm] at h

/-- A sequence whose first part ends with a value goes on with the second. -/
theorem bind_of_ok {m : EStateM ε σ α} {a : α} {s' : σ} (hm : m s = .ok a s')
    (f : α → EStateM ε σ β) : (m >>= f) s = f a s' := by
  show EStateM.bind m f s = f a s'
  unfold EStateM.bind
  rw [hm]

/-- A sequence whose first part raises ends there. -/
theorem bind_of_error {m : EStateM ε σ α} {e : ε} {s' : σ} (hm : m s = .error e s')
    (f : α → EStateM ε σ β) : (m >>= f) s = .error e s' := by
  show EStateM.bind m f s = .error e s'
  unfold EStateM.bind
  rw [hm]

/-- A sequence that ends with a value ends so in both parts. -/
theorem bind_eq_ok {m : EStateM ε σ α} {f : α → EStateM ε σ β} {b : β} {s' : σ}
    (h : (m >>= f) s = .ok b s') : ∃ a s₁, m s = .ok a s₁ ∧ f a s₁ = .ok b s' := by
  cases hm : m s with
  | ok a s₁ => exact ⟨a, s₁, rfl, (bind_of_ok hm f).symm.trans h⟩
  | error e s₁ =>
      rw [bind_of_error hm f] at h
      cases h

/-- A computation that never raises ends in `Q` exactly when `P` holds. -/
theorem exists_ok_iff {m : EStateM ε σ α} {P : Prop}
    (h : wp m (fun a s' => Q a s' ↔ P) (fun _ _ => False) s) :
    (∃ a s', m s = .ok a s' ∧ Q a s') ↔ P := by
  unfold wp at h
  cases hm : m s with
  | ok a s' =>
      rw [hm] at h
      constructor
      · rintro ⟨_, _, ⟨⟩, hQ⟩
        exact h.mp hQ
      · intro hP
        exact ⟨a, s', rfl, h.mpr hP⟩
  | error e s' =>
      rw [hm] at h
      exact h.elim

/-- The exact postconditions. -/
theorem wp_run (m : EStateM ε σ α) (s : σ) :
    wp m (fun a s' => m s = .ok a s') (fun e s' => m s = .error e s') s := by
  unfold wp
  cases m s with
  | ok a s' => rfl
  | error e s' => rfl

/-- The state in which `m` ends. -/
def final (m : EStateM ε σ α) (s : σ) : σ :=
  match m s with
  | .ok _ s' => s'
  | .error _ s' => s'

theorem final_bind_ok {m : EStateM ε σ α} {a : α} {s' : σ} (hm : m s = .ok a s')
    (f : α → EStateM ε σ β) : final (m >>= f) s = final (f a) s' := by
  unfold final
  rw [bind_of_ok hm f]

theorem final_bind_error {m : EStateM ε σ α} {e : ε} {s' : σ} (hm : m s = .error e s')
    (f : α → EStateM ε σ β) : final (m >>= f) s = final m s := by
  unfold final
  rw [bind_of_error hm f, hm]

theorem final_of_ok {m : EStateM ε σ α} {a : α} {s' : σ} (hm : m s = .ok a s') :
    final m s = s' := by
  unfold final
  rw [hm]

theorem wp_final {P : σ → Prop} (m : EStateM ε σ α) :
    wp m (fun _ s' => P s') (fun _ s' => P s') s ↔ P (final m s) := by
  unfold wp final
  cases m s with
  | ok a s' => exact Iff.rfl
  | error e s' => exact Iff.rfl

/-- A handler that only returns leaves the state alone. -/
theorem final_tryCatch_pure (m : EStateM ε σ α) (g : ε → α) (s : σ) :
    final (tryCatch m (fun e => pure (g e))) s = final m s := by
  show (match EStateM.tryCatch m (fun e => pure (g e)) s with
    | .ok _ s' => s'
    | .error _ s' => s') = _
  unfold final EStateM.tryCatch
  cases m s with
  | ok a s' => rfl
  | error e s' => rfl

/-- Run `m` and return what it raised. -/
def attempt (m : EStateM ε σ α) : EStateM ε σ (Except ε α) := fun s =>
  match m s with
  | .ok a s' => .ok (.ok a) s'
  | .error e s' => .ok (.error e) s'

theorem wp_attempt {Q : Except ε α → σ → Prop} (m : EStateM ε σ α) :
    wp (attempt m) Q E s ↔ wp m (fun a s' => Q (.ok a) s') (fun e s' => Q (.error e) s') s := by
  unfold wp attempt
  cases m s with
  | ok a s' => exact Iff.rfl
  | error e s' => exact Iff.rfl

/-- A handler runs on what was raised. -/
theorem tryCatch_eq_attempt (m : EStateM ε σ α) (f : ε → EStateM ε σ α) :
    tryCatch m f = attempt m >>= fun r => match r with
      | .ok a => pure a
      | .error e => f e := by
  funext s
  show EStateM.tryCatch m f s = EStateM.bind (attempt m) _ s
  unfold EStateM.tryCatch EStateM.bind attempt
  cases m s with
  | ok a s' => rfl
  | error e s' => rfl

/-- Run `m` as a database transaction: what it did is rolled back when it
raises. -/
def transaction (m : EStateM ε σ α) : EStateM ε σ α := fun s =>
  match m s with
  | .ok a s' => .ok a s'
  | .error e _ => .error e s

theorem wp_transaction (m : EStateM ε σ α) :
    wp (transaction m) Q E s ↔ wp m Q (fun e _ => E e s) s := by
  unfold wp transaction
  cases m s with
  | ok a s' => exact Iff.rfl
  | error e s' => exact Iff.rfl

theorem wp_ofExcept (x : Except ε α) :
    wp (ofExcept x : EStateM ε σ α) Q E s ↔ (∀ a, x = .ok a → Q a s) ∧ (∀ e, x = .error e → E e s) := by
  cases x with
  | ok a =>
      show Q a s ↔ _
      simp
  | error e =>
      show E e s ↔ _
      simp

/-- Run `m` and test how it ended. -/
def ends (m : EStateM ε σ α) (s : σ) (p : α → σ → Bool) : Bool :=
  match m s with
  | .ok a s' => p a s'
  | .error _ _ => false

theorem exists_of_ends {m : EStateM ε σ α} {p : α → σ → Bool} (h : ends m s p) :
    ∃ a s', m s = .ok a s' ∧ p a s' := by
  unfold ends at h
  cases hm : m s with
  | ok a s' =>
      rw [hm] at h
      exact ⟨a, s', rfl, h⟩
  | error e s' =>
      rw [hm] at h
      cases h

/-- Run `m` and test what it raised. -/
def raises (m : EStateM ε σ α) (s : σ) (p : ε → σ → Bool) : Bool :=
  match m s with
  | .ok _ _ => false
  | .error e s' => p e s'

theorem exists_of_raises {m : EStateM ε σ α} {p : ε → σ → Bool} (h : raises m s p) :
    ∃ e s', m s = .error e s' ∧ p e s' := by
  unfold raises at h
  cases hm : m s with
  | ok a s' =>
      rw [hm] at h
      cases h
  | error e s' =>
      rw [hm] at h
      exact ⟨e, s', rfl, h⟩

end Wp

/-! ## Relations between the first and the last state -/

section Moves

variable {ε σ α β : Type} {R : σ → σ → Prop}

/-- However `m` ends, its first and last states are related. -/
def Moves (R : σ → σ → Prop) (m : EStateM ε σ α) : Prop :=
  ∀ s, wp m (fun _ s' => R s s') (fun _ s' => R s s') s

theorem Moves.mono {R' : σ → σ → Prop} {m : EStateM ε σ α} (h : Moves R m)
    (hR : ∀ s s', R s s' → R' s s') : Moves R' m :=
  fun s => wp_mono (h s) (fun _ s' => hR s s') (fun _ s' => hR s s')

theorem Moves.modify {f : σ → σ} (h : ∀ s, R s (f s)) :
    Moves R (modify f : EStateM ε σ PUnit) := h

theorem Moves.attempt {m : EStateM ε σ α} (h : Moves R m) : Moves R (attempt m) :=
  fun s => (wp_attempt m).mpr (h s)

section Refl

variable [Std.Refl R]

theorem Moves.pure (a : α) : Moves R (pure a : EStateM ε σ α) :=
  fun s => refl_of R s

theorem Moves.throw (e : ε) : Moves R (throw e : EStateM ε σ α) :=
  fun s => refl_of R s

theorem Moves.get : Moves R (get : EStateM ε σ σ) :=
  fun s => refl_of R s

end Refl

section Trans

variable [IsTrans σ R]

theorem Moves.bind {m : EStateM ε σ α} {f : α → EStateM ε σ β} (hm : Moves R m)
    (hf : ∀ a, Moves R (f a)) : Moves R (m >>= f) := by
  intro s
  rw [wp_bind]
  refine wp_mono (hm s) ?_ (fun _ _ h => h)
  intro a s' h
  exact wp_mono (hf a s') (fun _ s'' h' => trans_of R h h') (fun _ s'' h' => trans_of R h h')

theorem Moves.tryCatch {m : EStateM ε σ α} {f : ε → EStateM ε σ α} (hm : Moves R m)
    (hf : ∀ e, Moves R (f e)) : Moves R (tryCatch m f) := by
  intro s
  rw [wp_tryCatch]
  refine wp_mono (hm s) (fun _ _ h => h) ?_
  intro e s' h
  exact wp_mono (hf e s') (fun _ s'' h' => trans_of R h h') (fun _ s'' h' => trans_of R h h')

end Trans

end Moves

/-! ## Exceptions alone -/

section Yields

variable {ε α β : Type}

/-- The computation ends normally, with a value in `P`. -/
def Yields (m : Except ε α) (P : α → Prop) : Prop := ∃ a, m = .ok a ∧ P a

variable {P : α → Prop} {Q : β → Prop}

theorem Yields.pure {a : α} (h : P a) : Yields (pure a : Except ε α) P := ⟨a, rfl, h⟩

theorem Yields.bind {m : Except ε α} {f : α → Except ε β} (hm : Yields m P)
    (hf : ∀ a, P a → Yields (f a) Q) : Yields (m >>= f) Q := by
  obtain ⟨a, rfl, ha⟩ := hm
  exact hf a ha

end Yields

end CryptoTrader.Lib
