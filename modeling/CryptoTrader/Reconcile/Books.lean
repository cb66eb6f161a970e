import CryptoTrader.Wallet.Types

/-!
# Comparing two books

A book says which position is held on a symbol.  Two books agree on a symbol
when neither holds anything on it, or both hold a position of one side whose
quantities agree.
-/

namespace CryptoTrader

/-- A position, as far as books are compared. -/
structure Holding where
  side : PositionSide
  quantity : Decimal

/-- The position of each symbol; one without a quantity counts as flat. -/
abbrev Book (κ : Type) := κ → Option Holding

/-- What is held. -/
def held (holding : Option Holding) : Option Holding := holding.filter (fun p => 0 < p.quantity)

theorem held_pos {p : Holding} (h : 0 < p.quantity) : held (some p) = some p := by
  simp [held, h]

theorem held_flat {p : Holding} (h : p.quantity ≤ 0) : held (some p) = none := by
  simp [held, h]

/-- Both flat, or both hold one side in quantities that agree. -/
def Agree (within : Decimal → Decimal → Prop) (holding other : Option Holding) : Prop :=
  match held holding, held other with
  | none, none => True
  | some p, some q => p.side = q.side ∧ within p.quantity q.quantity
  | _, _ => False

section Agree

variable {within : Decimal → Decimal → Prop} {p q : Holding}

theorem agree_none : Agree within none none := trivial

theorem agree_left : Agree within (some p) none ↔ p.quantity ≤ 0 := by
  by_cases h : 0 < p.quantity
  · unfold Agree
    rw [held_pos h]
    simpa [held] using h
  · rw [not_lt] at h
    unfold Agree
    rw [held_flat h]
    simpa [held] using h

theorem agree_right : Agree within none (some q) ↔ q.quantity ≤ 0 := by
  by_cases h : 0 < q.quantity
  · unfold Agree
    rw [held_pos h]
    simpa [held] using h
  · rw [not_lt] at h
    unfold Agree
    rw [held_flat h]
    simpa [held] using h

theorem agree_both (hp : 0 < p.quantity) (hq : 0 < q.quantity) :
    Agree within (some p) (some q) ↔ p.side = q.side ∧ within p.quantity q.quantity := by
  unfold Agree
  rw [held_pos hp, held_pos hq]

theorem agree_some_of_flat (hp : p.quantity ≤ 0) :
    Agree within (some p) (some q) ↔ q.quantity ≤ 0 := by
  unfold Agree
  rw [held_flat hp]
  exact agree_right

theorem not_agree_of_emptied (hp : 0 < p.quantity) (hq : q.quantity ≤ 0) :
    ¬ Agree within (some p) (some q) := by
  unfold Agree
  rw [held_pos hp, held_flat hq]
  exact id

theorem not_agree_of_side (hp : 0 < p.quantity) (hq : 0 < q.quantity) (hside : p.side ≠ q.side) :
    ¬ Agree within (some p) (some q) := fun h => hside ((agree_both hp hq).mp h).1

/-- The quantity of a position, or none. -/
def quantityOf (holding : Option Holding) : Decimal := (holding.map Holding.quantity).getD 0

theorem exists_of_quantityOf_pos {holding : Option Holding} (h : 0 < quantityOf holding) :
    ∃ p, holding = some p ∧ 0 < p.quantity := by
  cases holding with
  | none => exact absurd h (lt_irrefl 0)
  | some p => exact ⟨p, rfl, h⟩

theorem agree_iff {holding other : Option Holding} :
    Agree within holding other ↔
      (quantityOf holding ≤ 0 ∧ quantityOf other ≤ 0) ∨
        ∃ p q, holding = some p ∧ other = some q ∧ 0 < p.quantity ∧ 0 < q.quantity ∧
          p.side = q.side ∧ within p.quantity q.quantity := by
  have hflat (p : Holding) : quantityOf (some p) = p.quantity := rfl
  cases holding with
  | none =>
      cases other with
      | none => simp [agree_none, quantityOf]
      | some q =>
          rw [agree_right, hflat]
          simp [quantityOf]
  | some p =>
      cases other with
      | none =>
          rw [agree_left, hflat]
          simp [quantityOf]
      | some q =>
          rw [hflat, hflat]
          by_cases hp : 0 < p.quantity
          · by_cases hq : 0 < q.quantity
            · rw [agree_both hp hq]
              simp [hp, hq, not_le.mpr hp]
            · rw [iff_false_left (not_agree_of_emptied hp (not_lt.mp hq))]
              simp [hq, not_le.mpr hp]
          · rw [agree_some_of_flat (not_lt.mp hp)]
            simp [hp, not_lt.mp hp]

end Agree

/-! ## Reports -/

/-- Nothing is reported exactly when the books agree on every symbol. -/
def Discerns {κ : Type} (reported agree : κ → Prop) : Prop :=
  (∀ s, ¬ reported s) ↔ ∀ s, agree s

/-- What a comparison sees, what it overlooks and what it reports without need
cover everything but the symbols about which it is right and silent. -/
structure Classified {κ : Type} (reported agree seen overlooked overreported : κ → Prop) :
    Prop where
  of_seen {s : κ} (h : seen s) : reported s ∧ ¬ agree s
  of_overlooked {s : κ} (h : overlooked s) : ¬ reported s ∧ ¬ agree s
  of_overreported {s : κ} (h : overreported s) : reported s ∧ agree s
  rest (s : κ) : seen s ∨ overlooked s ∨ overreported s ∨ (¬ reported s ∧ agree s)

/-- When a comparison is right. -/
theorem Classified.discerns_iff {κ : Type} {reported agree seen overlooked overreported : κ → Prop}
    (h : Classified reported agree seen overlooked overreported) :
    Discerns reported agree ↔
      (∃ s, seen s) ∨ ((∃ s, overlooked s) ↔ ∃ s, overreported s) := by
  have hreports : (∃ s, reported s) ↔ (∃ s, seen s) ∨ ∃ s, overreported s := by
    rw [← exists_or]
    refine exists_congr (fun s => ⟨fun hreported => ?_, ?_⟩)
    · rcases h.rest s with hseen | hmissed | hneedless | hright
      · exact Or.inl hseen
      · exact absurd hreported (h.of_overlooked hmissed).1
      · exact Or.inr hneedless
      · exact absurd hreported hright.1
    · rintro (hseen | hneedless)
      · exact (h.of_seen hseen).1
      · exact (h.of_overreported hneedless).1
  have hdiffers : (∃ s, ¬ agree s) ↔ (∃ s, seen s) ∨ ∃ s, overlooked s := by
    rw [← exists_or]
    refine exists_congr (fun s => ⟨fun hdiffers => ?_, ?_⟩)
    · rcases h.rest s with hseen | hmissed | hneedless | hright
      · exact Or.inl hseen
      · exact Or.inr hmissed
      · exact absurd (h.of_overreported hneedless).2 hdiffers
      · exact absurd hright.2 hdiffers
    · rintro (hseen | hmissed)
      · exact (h.of_seen hseen).2
      · exact (h.of_overlooked hmissed).2
  have hdiscerns : Discerns reported agree ↔ ((∃ s, reported s) ↔ ∃ s, ¬ agree s) := by
    unfold Discerns
    rw [← not_exists, ← not_forall]
    exact not_iff_comm.trans Iff.comm
  rw [hdiscerns, hreports, hdiffers]
  by_cases hseen : ∃ s, seen s
  · simp [hseen]
  · simp only [hseen, false_or]
    exact Iff.comm

/-- When it is right about one symbol. -/
theorem Classified.right_iff {κ : Type} {reported agree seen overlooked overreported : κ → Prop}
    (h : Classified reported agree seen overlooked overreported) (s : κ) :
    (¬ reported s ↔ agree s) ↔ ¬ overlooked s ∧ ¬ overreported s := by
  constructor
  · intro hright
    exact ⟨fun hmissed => (h.of_overlooked hmissed).2 (hright.mp (h.of_overlooked hmissed).1),
      fun hneedless => hright.mpr (h.of_overreported hneedless).2 (h.of_overreported hneedless).1⟩
  · rintro ⟨hmissed, hneedless⟩
    rcases h.rest s with hseen | hover | hover | hright
    · exact iff_of_false (not_not.mpr (h.of_seen hseen).1) (h.of_seen hseen).2
    · exact absurd hover hmissed
    · exact absurd hover hneedless
    · exact iff_of_true hright.1 hright.2

/-! ## A relative tolerance -/

/-- A comparison of each position of one book with the other, which allows a
part of the first one's quantity. -/
structure RelativeComparison where
  tolerance : Decimal
  /-- Whether a position of the other book alone is reported without a quantity. -/
  countsEmpty : Bool

namespace RelativeComparison

variable (c : RelativeComparison)

/-- The quantities agree. -/
def Within (q q' : Decimal) : Prop := |q - q'| ≤ c.tolerance * q

/-- What is reported. -/
def Reports (base other : Option Holding) : Prop :=
  match base, other with
  | none, none => False
  | some _, none => True
  | none, some q => c.countsEmpty ∨ 0 < q.quantity
  | some p, some q => 0 < p.quantity ∧ c.tolerance < |p.quantity - q.quantity| / p.quantity

/-- A difference of quantities that is reported. -/
inductive Seen : Option Holding → Option Holding → Prop where
  | ghost {p : Holding} (hp : 0 < p.quantity) : Seen (some p) none
  | missing {q : Holding} (hq : 0 < q.quantity) : Seen none (some q)
  | drift {p q : Holding} (hp : 0 < p.quantity) (h : ¬ c.Within p.quantity q.quantity) :
      Seen (some p) (some q)

/-- A difference that is not: opposite sides, a position without a quantity
against one that has one, and the other way round within the tolerance. -/
inductive Overlooked : Option Holding → Option Holding → Prop where
  | opposed {p q : Holding} (hp : 0 < p.quantity) (hq : 0 < q.quantity)
      (h : c.Within p.quantity q.quantity) (hside : p.side ≠ q.side) : Overlooked (some p) (some q)
  | empty {p q : Holding} (hp : p.quantity ≤ 0) (hq : 0 < q.quantity) : Overlooked (some p) (some q)
  | emptied {p q : Holding} (hp : 0 < p.quantity) (hq : q.quantity ≤ 0)
      (h : c.Within p.quantity q.quantity) : Overlooked (some p) (some q)

/-- A position without a quantity that is reported because the other book has
none. -/
inductive Overreported : Option Holding → Option Holding → Prop where
  | ghost {p : Holding} (hp : p.quantity ≤ 0) : Overreported (some p) none
  | missing {q : Holding} (hc : c.countsEmpty) (hq : q.quantity ≤ 0) : Overreported none (some q)

variable {c} {base other : Option Holding}

theorem reports_both {p q : Holding} (hp : 0 < p.quantity) :
    c.Reports (some p) (some q) ↔ ¬ c.Within p.quantity q.quantity := by
  show (0 < p.quantity ∧ c.tolerance < |p.quantity - q.quantity| / p.quantity) ↔ _
  unfold Within
  rw [not_le, lt_div_iff₀ hp]
  exact and_iff_right hp

theorem not_reports_of_flat {p q : Holding} (hp : p.quantity ≤ 0) :
    ¬ c.Reports (some p) (some q) := fun h => absurd h.1 (not_lt.mpr hp)

theorem Seen.sound (h : c.Seen base other) :
    c.Reports base other ∧ ¬ Agree c.Within base other := by
  cases h with
  | ghost hp => exact ⟨trivial, fun hagree => absurd (agree_left.mp hagree) (not_le.mpr hp)⟩
  | missing hq => exact ⟨Or.inr hq, fun hagree => absurd (agree_right.mp hagree) (not_le.mpr hq)⟩
  | @drift p q hp hdrift =>
      refine ⟨(reports_both hp).mpr hdrift, fun hagree => ?_⟩
      by_cases hq : 0 < q.quantity
      · exact hdrift ((agree_both hp hq).mp hagree).2
      · exact not_agree_of_emptied hp (not_lt.mp hq) hagree

theorem Overlooked.sound (h : c.Overlooked base other) :
    ¬ c.Reports base other ∧ ¬ Agree c.Within base other := by
  cases h with
  | opposed hp hq hwithin hside =>
      exact ⟨fun hreports => (reports_both hp).mp hreports hwithin,
        not_agree_of_side hp hq hside⟩
  | empty hp hq =>
      exact ⟨not_reports_of_flat hp,
        fun hagree => absurd ((agree_some_of_flat hp).mp hagree) (not_le.mpr hq)⟩
  | emptied hp hq hwithin =>
      exact ⟨fun hreports => (reports_both hp).mp hreports hwithin, not_agree_of_emptied hp hq⟩

theorem Overreported.sound (h : c.Overreported base other) :
    c.Reports base other ∧ Agree c.Within base other := by
  cases h with
  | ghost hp => exact ⟨trivial, agree_left.mpr hp⟩
  | missing hc hq => exact ⟨Or.inl hc, agree_right.mpr hq⟩

/-- Otherwise the comparison is right and silent. -/
theorem complete (base other : Option Holding) :
    c.Seen base other ∨ c.Overlooked base other ∨ c.Overreported base other ∨
      (¬ c.Reports base other ∧ Agree c.Within base other) := by
  cases base with
  | none =>
      cases other with
      | none => exact Or.inr (Or.inr (Or.inr ⟨id, agree_none⟩))
      | some q =>
          by_cases hq : 0 < q.quantity
          · exact Or.inl (Seen.missing hq)
          · rw [not_lt] at hq
            by_cases hc : c.countsEmpty
            · exact Or.inr (Or.inr (Or.inl (Overreported.missing hc hq)))
            · refine Or.inr (Or.inr (Or.inr ⟨?_, agree_right.mpr hq⟩))
              rintro (hcounts | hpos)
              · exact hc hcounts
              · exact absurd hpos (not_lt.mpr hq)
  | some p =>
      by_cases hp : 0 < p.quantity
      · cases other with
        | none => exact Or.inl (Seen.ghost hp)
        | some q =>
            by_cases hwithin : c.Within p.quantity q.quantity
            · by_cases hq : 0 < q.quantity
              · by_cases hside : p.side = q.side
                · exact Or.inr (Or.inr (Or.inr ⟨fun hreports => (reports_both hp).mp hreports hwithin,
                    (agree_both hp hq).mpr ⟨hside, hwithin⟩⟩))
                · exact Or.inr (Or.inl (Overlooked.opposed hp hq hwithin hside))
              · exact Or.inr (Or.inl (Overlooked.emptied hp (not_lt.mp hq) hwithin))
            · exact Or.inl (Seen.drift hp hwithin)
      · rw [not_lt] at hp
        cases other with
        | none => exact Or.inr (Or.inr (Or.inl (Overreported.ghost hp)))
        | some q =>
            by_cases hq : 0 < q.quantity
            · exact Or.inr (Or.inl (Overlooked.empty hp hq))
            · rw [not_lt] at hq
              exact Or.inr (Or.inr (Or.inr ⟨not_reports_of_flat hp, (agree_some_of_flat hp).mpr hq⟩))

/-- A relative comparison of two books. -/
theorem classified {κ : Type} (c : RelativeComparison) (base other : Book κ) :
    Classified (fun s => c.Reports (base s) (other s)) (fun s => Agree c.Within (base s) (other s))
      (fun s => c.Seen (base s) (other s)) (fun s => c.Overlooked (base s) (other s))
      (fun s => c.Overreported (base s) (other s)) where
  of_seen := Seen.sound
  of_overlooked := Overlooked.sound
  of_overreported := Overreported.sound
  rest s := complete (base s) (other s)

end RelativeComparison

/-! ## An absolute tolerance -/

/-- A comparison of one position with another, which allows a fixed difference.
Where both are held a difference is reported only `halts`. -/
structure AbsoluteComparison where
  tolerance : Decimal
  halts : Bool

namespace AbsoluteComparison

variable (c : AbsoluteComparison)

/-- The quantities agree. -/
def Within (q q' : Decimal) : Prop := |q - q'| ≤ c.tolerance

instance (q q' : Decimal) : Decidable (c.Within q q') := by
  unfold Within
  infer_instance

/-- One of the two is flat and the other is not. -/
def Alone (base other : Option Holding) : Prop :=
  (0 < quantityOf base ∧ quantityOf other = 0) ∨ (quantityOf base = 0 ∧ 0 < quantityOf other)

/-- What is reported. -/
def Reports (base other : Option Holding) : Prop :=
  ¬ c.Within (quantityOf base) (quantityOf other) ∧ (Alone base other ∨ c.halts)

/-- A difference of quantities that is reported. -/
def Seen (base other : Option Holding) : Prop :=
  c.Reports base other ∧ (0 < quantityOf base ∨ 0 < quantityOf other)

/-- A difference that is not: opposite sides, a position within the tolerance of
nothing, and different quantities of two positions where that does not halt. -/
inductive Overlooked : Option Holding → Option Holding → Prop where
  | opposed {p q : Holding} (hp : 0 < p.quantity) (hq : 0 < q.quantity)
      (h : c.Within p.quantity q.quantity) (hside : p.side ≠ q.side) : Overlooked (some p) (some q)
  | dust {base other : Option Holding} (h : c.Within (quantityOf base) (quantityOf other))
      (hbase : 0 < quantityOf base) (hother : quantityOf other ≤ 0) : Overlooked base other
  | dustOther {base other : Option Holding} (h : c.Within (quantityOf base) (quantityOf other))
      (hbase : quantityOf base ≤ 0) (hother : 0 < quantityOf other) : Overlooked base other
  | aligned {base other : Option Holding} (h : ¬ c.Within (quantityOf base) (quantityOf other))
      (hhalts : ¬ c.halts) (halone : ¬ Alone base other)
      (hpos : 0 < quantityOf base ∨ 0 < quantityOf other) : Overlooked base other

/-- A difference of negative quantities. -/
def Overreported (base other : Option Holding) : Prop :=
  c.Reports base other ∧ quantityOf base ≤ 0 ∧ quantityOf other ≤ 0

variable {c} {base other : Option Holding}

/-- Positions whose quantities do not agree agree only if both are flat. -/
theorem agree_iff_flat (h : ¬ c.Within (quantityOf base) (quantityOf other)) :
    Agree c.Within base other ↔ quantityOf base ≤ 0 ∧ quantityOf other ≤ 0 := by
  rw [agree_iff, or_iff_left]
  rintro ⟨p, q, rfl, rfl, -, -, -, hwithin⟩
  exact h hwithin

theorem Overlooked.sound (h : c.Overlooked base other) :
    ¬ c.Reports base other ∧ ¬ Agree c.Within base other := by
  cases h with
  | opposed hp hq hwithin hside =>
      exact ⟨fun hreports => hreports.1 hwithin, not_agree_of_side hp hq hside⟩
  | dust hwithin hbase hother =>
      refine ⟨fun hreports => hreports.1 hwithin, fun hagree => ?_⟩
      rcases agree_iff.mp hagree with ⟨hflat, -⟩ | ⟨p, q, rfl, rfl, -, hq, -⟩
      · exact absurd hbase (not_lt.mpr hflat)
      · exact absurd hq (not_lt.mpr hother)
  | dustOther hwithin hbase hother =>
      refine ⟨fun hreports => hreports.1 hwithin, fun hagree => ?_⟩
      rcases agree_iff.mp hagree with ⟨-, hflat⟩ | ⟨p, q, rfl, rfl, hp, -⟩
      · exact absurd hother (not_lt.mpr hflat)
      · exact absurd hp (not_lt.mpr hbase)
  | aligned hdrift hhalts halone hpos =>
      refine ⟨fun hreports => hreports.2.elim halone hhalts, fun hagree => ?_⟩
      obtain ⟨hbase, hother⟩ := (agree_iff_flat hdrift).mp hagree
      rcases hpos with hpos | hpos
      · exact absurd hpos (not_lt.mpr hbase)
      · exact absurd hpos (not_lt.mpr hother)

/-- Otherwise the comparison is right and silent. -/
theorem complete (base other : Option Holding) :
    c.Seen base other ∨ c.Overlooked base other ∨ c.Overreported base other ∨
      (¬ c.Reports base other ∧ Agree c.Within base other) := by
  by_cases hwithin : c.Within (quantityOf base) (quantityOf other)
  · have hsilent : ¬ c.Reports base other := fun hreports => hreports.1 hwithin
    by_cases hbase : 0 < quantityOf base
    · by_cases hother : 0 < quantityOf other
      · obtain ⟨p, rfl, hp⟩ := exists_of_quantityOf_pos hbase
        obtain ⟨q, rfl, hq⟩ := exists_of_quantityOf_pos hother
        by_cases hside : p.side = q.side
        · exact Or.inr (Or.inr (Or.inr ⟨hsilent, (agree_both hp hq).mpr ⟨hside, hwithin⟩⟩))
        · exact Or.inr (Or.inl (Overlooked.opposed hp hq hwithin hside))
      · exact Or.inr (Or.inl (Overlooked.dust hwithin hbase (not_lt.mp hother)))
    · by_cases hother : 0 < quantityOf other
      · exact Or.inr (Or.inl (Overlooked.dustOther hwithin (not_lt.mp hbase) hother))
      · exact Or.inr (Or.inr (Or.inr ⟨hsilent,
          agree_iff.mpr (Or.inl ⟨not_lt.mp hbase, not_lt.mp hother⟩)⟩))
  · by_cases hpos : 0 < quantityOf base ∨ 0 < quantityOf other
    · by_cases hloud : Alone base other ∨ c.halts
      · exact Or.inl ⟨⟨hwithin, hloud⟩, hpos⟩
      · rw [not_or] at hloud
        exact Or.inr (Or.inl (Overlooked.aligned hwithin hloud.2 hloud.1 hpos))
    · rw [not_or, not_lt, not_lt] at hpos
      by_cases hloud : Alone base other ∨ c.halts
      · exact Or.inr (Or.inr (Or.inl ⟨⟨hwithin, hloud⟩, hpos⟩))
      · exact Or.inr (Or.inr (Or.inr ⟨fun hreports => hloud hreports.2,
          (agree_iff_flat hwithin).mpr hpos⟩))

/-- An absolute comparison of two books. -/
theorem classified {κ : Type} (c : AbsoluteComparison) (base other : Book κ) :
    Classified (fun s => c.Reports (base s) (other s)) (fun s => Agree c.Within (base s) (other s))
      (fun s => c.Seen (base s) (other s)) (fun s => c.Overlooked (base s) (other s))
      (fun s => c.Overreported (base s) (other s)) where
  of_seen := by
    rintro s ⟨hreports, hpos⟩
    refine ⟨hreports, fun hagree => ?_⟩
    obtain ⟨hbase, hother⟩ := (agree_iff_flat hreports.1).mp hagree
    rcases hpos with hpos | hpos
    · exact absurd hpos (not_lt.mpr hbase)
    · exact absurd hpos (not_lt.mpr hother)
  of_overlooked := Overlooked.sound
  of_overreported := by
    rintro s ⟨hreports, hflat⟩
    exact ⟨hreports, (agree_iff_flat hreports.1).mpr hflat⟩
  rest s := complete (base s) (other s)

end AbsoluteComparison

end CryptoTrader
