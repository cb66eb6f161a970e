import Mathlib.Algebra.BigOperators.Ring.List
import Mathlib.Algebra.Order.Floor.Ring
import Mathlib.Algebra.Order.Floor.Semifield
import Mathlib.Tactic.Linarith
import Mathlib.Tactic.FieldSimp
import Mathlib.Tactic.Ring

/-!
# Fixed-point numbers

A column of `places` decimals holds the multiples of `10 ^ -places`.  Writing
rounds to the nearest multiple, halfway cases away from zero.  What is on the
grid is stored as it is; adding a number to a grid point and rounding is
rounding the number and adding it, unless the number lies halfway.
-/

namespace CryptoTrader.Lib

variable {K : Type*} [Field K]

/-- The multiples of `10 ^ -places`. -/
def OnGrid (places : ℕ) (x : K) : Prop := ∃ n : ℤ, x * 10 ^ places = n

/-- Halfway between two multiples. -/
def Halfway (places : ℕ) (x : K) : Prop := ∃ n : ℤ, x * 10 ^ places + 1 / 2 = n

section Grid

variable {places : ℕ} {x y : K}

theorem OnGrid.zero : OnGrid places (0 : K) := ⟨0, by simp⟩

theorem OnGrid.add (hx : OnGrid places x) (hy : OnGrid places y) : OnGrid places (x + y) := by
  obtain ⟨m, hm⟩ := hx
  obtain ⟨n, hn⟩ := hy
  exact ⟨m + n, by rw [add_mul, hm, hn, Int.cast_add]⟩

theorem OnGrid.neg (hx : OnGrid places x) : OnGrid places (-x) := by
  obtain ⟨m, hm⟩ := hx
  exact ⟨-m, by rw [neg_mul, hm, Int.cast_neg]⟩

theorem Halfway.neg [CharZero K] (h : Halfway places x) : Halfway places (-x) := by
  obtain ⟨n, hn⟩ := h
  exact ⟨1 - n, by push_cast; rw [← hn]; ring⟩

theorem not_halfway_neg [CharZero K] (h : ¬ Halfway places x) : ¬ Halfway places (-x) := by
  intro hneg
  have hback := hneg.neg
  rw [neg_neg] at hback
  exact h hback

end Grid

variable [LinearOrder K] [IsStrictOrderedRing K] [FloorRing K]

/-- Rounding to an integer, halfway cases away from zero. -/
def roundHalfAway (x : K) : ℤ := if 0 ≤ x then ⌊x + 1 / 2⌋ else ⌈x - 1 / 2⌉

/-- The value a column of `places` decimals stores for `x`. -/
def roundTo (places : ℕ) (x : K) : K := roundHalfAway (x * 10 ^ places) / 10 ^ places

instance [DecidableEq K] (places : ℕ) (x : K) : Decidable (Halfway places x) :=
  decidable_of_iff ((⌊x * 10 ^ places + 1 / 2⌋ : K) = x * 10 ^ places + 1 / 2)
    ⟨fun h => ⟨_, h.symm⟩, fun ⟨n, hn⟩ => by rw [hn, Int.floor_intCast]⟩

instance [DecidableEq K] (places : ℕ) (x : K) : Decidable (OnGrid places x) :=
  decidable_of_iff ((⌊x * 10 ^ places⌋ : K) = x * 10 ^ places)
    ⟨fun h => ⟨_, h.symm⟩, fun ⟨n, hn⟩ => by rw [hn, Int.floor_intCast]⟩

theorem ten_pow_pos (places : ℕ) : (0 : K) < 10 ^ places := pow_pos (by norm_num) places

theorem onGrid_intCast_div {places : ℕ} (n : ℤ) : OnGrid places ((n : K) / 10 ^ places) :=
  ⟨n, div_mul_cancel₀ _ (ten_pow_pos places).ne'⟩

theorem onGrid_roundTo (places : ℕ) (x : K) : OnGrid places (roundTo places x) :=
  onGrid_intCast_div _

/-! ## Rounding -/

@[simp] theorem roundHalfAway_intCast (n : ℤ) : roundHalfAway (n : K) = n := by
  unfold roundHalfAway
  split
  · rw [Int.floor_eq_iff]
    constructor
    · linarith
    · linarith
  · rw [Int.ceil_eq_iff]
    constructor
    · linarith
    · linarith

/-- Off the halfway points rounding is a floor. -/
theorem roundHalfAway_eq_floor {x : K} (h : ∀ n : ℤ, x + 1 / 2 ≠ n) :
    roundHalfAway x = ⌊x + 1 / 2⌋ := by
  unfold roundHalfAway
  split
  · rfl
  · rw [Int.ceil_eq_iff]
    have hle : (⌊x + 1 / 2⌋ : K) ≤ x + 1 / 2 := Int.floor_le _
    have hlt : x + 1 / 2 < ⌊x + 1 / 2⌋ + 1 := Int.lt_floor_add_one _
    have hne : (⌊x + 1 / 2⌋ : K) ≠ x + 1 / 2 := fun heq => h _ heq.symm
    constructor
    · linarith [lt_of_le_of_ne hle hne]
    · linarith

theorem roundHalfAway_nonneg {x : K} (h : 0 ≤ x) : 0 ≤ roundHalfAway x := by
  unfold roundHalfAway
  rw [if_pos h, Int.le_floor]
  push_cast
  linarith

theorem roundHalfAway_le {x : K} {n : ℤ} (h : x ≤ n) : roundHalfAway x ≤ n := by
  unfold roundHalfAway
  split
  · have hlt : ⌊x + 1 / 2⌋ < n + 1 := by
      rw [Int.floor_lt]
      push_cast
      linarith
    omega
  · rw [Int.ceil_le]
    linarith

theorem le_roundHalfAway {x : K} {n : ℤ} (h : n ≤ x) : n ≤ roundHalfAway x := by
  unfold roundHalfAway
  split
  · rw [Int.le_floor]
    linarith
  · have hlt : n - 1 < ⌈x - 1 / 2⌉ := by
      rw [Int.lt_ceil]
      push_cast
      linarith
    omega

section Round

variable {places : ℕ} {x a : K}

theorem roundTo_of_onGrid (h : OnGrid places x) : roundTo places x = x := by
  obtain ⟨n, hn⟩ := h
  unfold roundTo
  rw [hn, roundHalfAway_intCast, ← hn]
  exact mul_div_cancel_right₀ x (ten_pow_pos places).ne'

theorem roundTo_nonneg (h : 0 ≤ x) : 0 ≤ roundTo places x := by
  have hround : 0 ≤ roundHalfAway (x * 10 ^ places) :=
    roundHalfAway_nonneg (mul_nonneg h (ten_pow_pos places).le)
  exact div_nonneg (by exact_mod_cast hround) (ten_pow_pos places).le

/-- Rounding does not pass a grid point. -/
theorem roundTo_le (h : x ≤ a) (ha : OnGrid places a) : roundTo places x ≤ a := by
  obtain ⟨n, hn⟩ := ha
  have hpos := ten_pow_pos (K := K) places
  have hround : roundHalfAway (x * 10 ^ places) ≤ n :=
    roundHalfAway_le (by rw [← hn]; exact mul_le_mul_of_nonneg_right h hpos.le)
  have hcast : (roundHalfAway (x * 10 ^ places) : K) ≤ n := by exact_mod_cast hround
  unfold roundTo
  rw [div_le_iff₀ hpos, hn]
  exact hcast

theorem le_roundTo (h : a ≤ x) (ha : OnGrid places a) : a ≤ roundTo places x := by
  obtain ⟨n, hn⟩ := ha
  have hpos := ten_pow_pos (K := K) places
  have hround : n ≤ roundHalfAway (x * 10 ^ places) :=
    le_roundHalfAway (by rw [← hn]; exact mul_le_mul_of_nonneg_right h hpos.le)
  have hcast : (n : K) ≤ roundHalfAway (x * 10 ^ places) := by exact_mod_cast hround
  unfold roundTo
  rw [le_div_iff₀ hpos, hn]
  exact hcast

theorem OnGrid.not_halfway (h : OnGrid places x) : ¬ Halfway places x := by
  obtain ⟨n, hn⟩ := h
  rintro ⟨m, hm⟩
  rw [hn] at hm
  have htwice : (2 * n + 1 : ℤ) = 2 * m := by
    have : (2 * (n : K) + 1) = 2 * m := by linarith
    exact_mod_cast this
  omega

/-- Rounding commutes with moving by a grid point. -/
theorem roundTo_add (hx : OnGrid places x) (ha : ¬ Halfway places a) :
    roundTo places (x + a) = x + roundTo places a := by
  obtain ⟨n, hn⟩ := hx
  have hsum : roundHalfAway ((x + a) * 10 ^ places) = n + roundHalfAway (a * 10 ^ places) := by
    have hne : ∀ m : ℤ, a * 10 ^ places + 1 / 2 ≠ m := fun m hm => ha ⟨m, hm⟩
    have hne' : ∀ m : ℤ, (x + a) * 10 ^ places + 1 / 2 ≠ m := by
      intro m hm
      refine hne (m - n) ?_
      push_cast
      rw [← hm, add_mul, hn]
      ring
    rw [roundHalfAway_eq_floor hne', roundHalfAway_eq_floor hne, add_mul, hn, add_assoc,
      Int.floor_intCast_add]
  unfold roundTo
  rw [hsum, Int.cast_add, add_div, ← hn, mul_div_cancel_right₀ x (ten_pow_pos places).ne']

/-- Above zero rounding commutes with moving by a grid point, halfway or
not. -/
theorem roundTo_add_of_nonneg (hx : OnGrid places x) (hxnonneg : 0 ≤ x) (ha : 0 ≤ a) :
    roundTo places (x + a) = x + roundTo places a := by
  obtain ⟨n, hn⟩ := hx
  have hpos := ten_pow_pos (K := K) places
  have hsum : roundHalfAway ((x + a) * 10 ^ places) = n + roundHalfAway (a * 10 ^ places) := by
    unfold roundHalfAway
    rw [if_pos (mul_nonneg (add_nonneg hxnonneg ha) hpos.le), if_pos (mul_nonneg ha hpos.le),
      add_mul, hn, add_assoc, Int.floor_intCast_add]
  unfold roundTo
  rw [hsum, Int.cast_add, add_div, ← hn, mul_div_cancel_right₀ x hpos.ne']

theorem roundTo_neg (ha : ¬ Halfway places a) : roundTo places (-a) = -roundTo places a := by
  have hgrid := onGrid_roundTo places a
  -- move `-a` by the rounded value and back
  have hmove := roundTo_add hgrid (not_halfway_neg ha)
  have hsmall : roundTo places (roundTo places a + -a) = 0 := by
    have hne : ∀ m : ℤ, a * 10 ^ places + 1 / 2 ≠ m := fun m hm => ha ⟨m, hm⟩
    have hvalue : (roundTo places a + -a) * 10 ^ places =
        ⌊a * 10 ^ places + 1 / 2⌋ - a * 10 ^ places := by
      unfold roundTo
      rw [roundHalfAway_eq_floor hne, add_mul, div_mul_cancel₀ _ (ten_pow_pos places).ne']
      ring
    have hle : (⌊a * 10 ^ places + 1 / 2⌋ : K) ≤ a * 10 ^ places + 1 / 2 := Int.floor_le _
    have hlt : a * 10 ^ places + 1 / 2 < ⌊a * 10 ^ places + 1 / 2⌋ + 1 := Int.lt_floor_add_one _
    have hneq : (⌊a * 10 ^ places + 1 / 2⌋ : K) ≠ a * 10 ^ places + 1 / 2 := fun h => hne _ h.symm
    have hround : roundHalfAway ((roundTo places a + -a) * 10 ^ places) = 0 := by
      rw [hvalue]
      unfold roundHalfAway
      split
      · rw [Int.floor_eq_iff]
        constructor
        · push_cast
          linarith
        · push_cast
          linarith [lt_of_le_of_ne hle hneq]
      · rw [Int.ceil_eq_iff]
        constructor
        · push_cast
          linarith
        · push_cast
          linarith
    unfold roundTo at hround ⊢
    rw [hround]
    simp
  rw [hsmall] at hmove
  linarith

theorem roundTo_sub (hx : OnGrid places x) (ha : ¬ Halfway places a) :
    roundTo places (x - a) = x - roundTo places a := by
  rw [sub_eq_add_neg, roundTo_add hx (not_halfway_neg ha), roundTo_neg ha, ← sub_eq_add_neg]

end Round

/-! ## Cutting -/

/-- The multiple of `10 ^ -places` below `x`. -/
def cutTo (places : ℕ) (x : K) : K := ⌊x * 10 ^ places⌋ / 10 ^ places

section Cut

variable (places : ℕ) {x : K}

theorem cutTo_le (x : K) : cutTo places x ≤ x := by
  unfold cutTo
  rw [div_le_iff₀ (ten_pow_pos places)]
  exact Int.floor_le _

theorem sum_floor_le (xs : List K) : (xs.map Int.floor).sum ≤ ⌊xs.sum⌋ := by
  induction xs with
  | nil => simp
  | cons x xs ih =>
      rw [List.map_cons, List.sum_cons, List.sum_cons]
      exact (Int.add_le_add_left ih _).trans (Int.le_floor_add x xs.sum)

/-- They fall short of it by less than their number. -/
theorem floor_sum_lt {xs : List K} (hne : xs ≠ []) :
    ⌊xs.sum⌋ < (xs.map Int.floor).sum + xs.length := by
  induction xs with
  | nil => exact absurd rfl hne
  | cons x xs ih =>
      rw [List.map_cons, List.sum_cons, List.sum_cons, List.length_cons]
      push_cast
      cases xs with
      | nil => simp
      | cons y ys =>
          have htail := ih (by simp)
          have hsplit := Int.le_floor_add_floor x (y :: ys).sum
          omega

omit [IsStrictOrderedRing K] in
theorem sum_map_cutTo (xs : List K) : (xs.map (cutTo places)).sum =
    ((xs.map (fun x => ⌊x * 10 ^ places⌋)).sum : ℤ) / 10 ^ places := by
  induction xs with
  | nil => simp
  | cons x xs ih =>
      rw [List.map_cons, List.sum_cons, ih, List.map_cons, List.sum_cons, cutTo]
      push_cast
      ring

/-- Cut one by one, the parts come to no more than the sum cut at once. -/
theorem sum_cutTo_le (xs : List K) : (xs.map (cutTo places)).sum ≤ cutTo places xs.sum := by
  have hfloor := sum_floor_le (xs.map (fun x => x * 10 ^ places))
  rw [List.map_map, List.sum_map_mul_right, List.map_id'] at hfloor
  rw [sum_map_cutTo, cutTo]
  exact div_le_div_of_nonneg_right (by exact_mod_cast hfloor) (ten_pow_pos places).le

/-- They fall short of it by less than a unit each. -/
theorem cutTo_sum_lt {xs : List K} (hne : xs ≠ []) :
    cutTo places xs.sum - (xs.map (cutTo places)).sum < xs.length / 10 ^ places := by
  have hscaled : xs.map (fun x => x * 10 ^ places) ≠ [] := by simpa using hne
  have hfloor := floor_sum_lt hscaled
  rw [List.map_map, List.sum_map_mul_right, List.map_id', List.length_map] at hfloor
  rw [sum_map_cutTo, cutTo, ← sub_div]
  refine div_lt_div_of_pos_right ?_ (ten_pow_pos places)
  have hcast : (⌊xs.sum * 10 ^ places⌋ : K) <
      ((xs.map (fun x => ⌊x * 10 ^ places⌋)).sum : ℤ) + xs.length := by exact_mod_cast hfloor
  linarith

end Cut

end CryptoTrader.Lib
