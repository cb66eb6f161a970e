import Mathlib.Algebra.Order.Floor.Ring
import Mathlib.Data.Int.Interval
import Mathlib.Data.Int.Log
import Mathlib.Data.Rat.Floor
import Mathlib.Order.Interval.Finset.Defs
import Mathlib.Tactic.Linarith
import Mathlib.Tactic.Positivity
import Mathlib.Tactic.FieldSimp
import Mathlib.Tactic.Ring
import Mathlib.Data.Int.ConditionallyCompleteOrder

/-!
# Significant digits

Rounding to a number of significant digits, halfway cases to the even one, as a
decimal context does after every operation.  Of such a rounding, arguments use
that it is monotone and leaves alone what is already rounded; `Rounding` is any
function of this kind.
-/

namespace CryptoTrader.Lib

/-! ## Roundings -/

/-- A monotone function that leaves zero and what it gives as they are. -/
structure Rounding where
  round : ℚ → ℚ
  zero : round 0 = 0
  mono : Monotone round
  idem : ∀ x, round (round x) = round x

namespace Rounding

/-- Exact arithmetic. -/
def none : Rounding := ⟨id, rfl, monotone_id, fun _ => rfl⟩

variable (r : Rounding) {x y : ℚ}

/-- A number that rounding leaves alone. -/
def Exact (x : ℚ) : Prop := r.round x = x

instance (x : ℚ) : Decidable (r.Exact x) := inferInstanceAs (Decidable (_ = _))

theorem exact_zero : r.Exact 0 := r.zero

theorem exact_round (x : ℚ) : r.Exact (r.round x) := r.idem x

variable {r}

theorem Exact.le_round (hx : r.Exact x) (h : x ≤ y) : x ≤ r.round y := hx ▸ r.mono h

theorem Exact.round_le (hy : r.Exact y) (h : x ≤ y) : r.round x ≤ y := hy ▸ r.mono h

theorem Exact.lt_of_lt_round (hx : r.Exact x) (h : x < r.round y) : x < y :=
  not_le.mp (fun hle => (hx.round_le hle).not_gt h)

end Rounding

/-! ## Halfway cases to even -/

section HalfEven

variable {x y : ℚ}

/-- Rounding to an integer, halfway cases to the even one. -/
def roundHalfEven (x : ℚ) : ℤ :=
  if Int.fract x < 1 / 2 then ⌊x⌋
  else if 1 / 2 < Int.fract x then ⌊x⌋ + 1
  else if Even ⌊x⌋ then ⌊x⌋ else ⌊x⌋ + 1

theorem floor_le_roundHalfEven (x : ℚ) : ⌊x⌋ ≤ roundHalfEven x := by
  unfold roundHalfEven
  split_ifs <;> omega

theorem roundHalfEven_le_floor (x : ℚ) : roundHalfEven x ≤ ⌊x⌋ + 1 := by
  unfold roundHalfEven
  split_ifs <;> omega

@[simp] theorem roundHalfEven_intCast (n : ℤ) : roundHalfEven n = n := by
  simp [roundHalfEven]

theorem roundHalfEven_mono : Monotone roundHalfEven := by
  intro x y h
  rcases (Int.floor_mono h).lt_or_eq with hlt | heq
  · have hx := roundHalfEven_le_floor x
    have hy := floor_le_roundHalfEven y
    omega
  · have hfract : Int.fract x ≤ Int.fract y := by
      unfold Int.fract
      rw [heq]
      linarith
    unfold roundHalfEven
    rw [heq]
    split_ifs <;> first | omega | (exfalso; linarith)

/-- It is off by at most a half. -/
theorem roundHalfEven_le_add (x : ℚ) : roundHalfEven x ≤ x + 1 / 2 := by
  have hsplit := Int.floor_add_fract x
  have hfract := Int.fract_lt_one x
  unfold roundHalfEven
  split_ifs with hlow hhigh heven
  · linarith [Int.fract_nonneg x]
  · push_cast
    linarith
  · linarith [Int.fract_nonneg x]
  · push_cast
    linarith

theorem le_roundHalfEven_of_ne {n : ℤ} (hn : n ≠ ⌊x⌋ + 1) :
    n ≤ roundHalfEven x ↔ n - 1 / 2 ≤ x := by
  have hlow := floor_le_roundHalfEven x
  have hhigh := roundHalfEven_le_floor x
  have hfloor := Int.floor_le x
  have hlt := Int.lt_floor_add_one x
  rcases lt_or_gt_of_ne hn with h | h
  · have hle : (n : ℚ) ≤ ⌊x⌋ := by exact_mod_cast Int.lt_add_one_iff.mp h
    exact ⟨fun _ => by linarith, fun _ => by omega⟩
  · have hge : (⌊x⌋ : ℚ) + 2 ≤ n := by exact_mod_cast (by omega : ⌊x⌋ + 2 ≤ n)
    exact ⟨fun h => by omega, fun h => by linarith⟩

/-- From which number on rounding reaches an even integer: halfway cases do. -/
theorem le_roundHalfEven_of_even {n : ℤ} (hn : Even n) : n ≤ roundHalfEven x ↔ n - 1 / 2 ≤ x := by
  have hsplit := Int.floor_add_fract x
  by_cases hnext : n = ⌊x⌋ + 1
  · subst hnext
    have hodd : ¬ Even ⌊x⌋ := by rwa [Int.even_add_one] at hn
    unfold roundHalfEven
    rw [if_neg hodd]
    push_cast
    split_ifs with hlow hhigh
    · exact ⟨fun h => by omega, fun h => by linarith⟩
    · exact ⟨fun _ => by linarith, fun _ => le_rfl⟩
    · exact ⟨fun _ => by linarith, fun _ => le_rfl⟩
  · exact le_roundHalfEven_of_ne hnext

/-- Halfway cases do not reach an odd one. -/
theorem le_roundHalfEven_of_odd {n : ℤ} (hn : Odd n) : n ≤ roundHalfEven x ↔ n - 1 / 2 < x := by
  have hsplit := Int.floor_add_fract x
  by_cases hnext : n = ⌊x⌋ + 1
  · subst hnext
    have heven : Even ⌊x⌋ := by rwa [← Int.not_even_iff_odd, Int.even_add_one, not_not] at hn
    unfold roundHalfEven
    rw [if_pos heven]
    push_cast
    split_ifs with hlow hhigh
    · exact ⟨fun h => by omega, fun h => by linarith⟩
    · exact ⟨fun _ => by linarith, fun _ => le_rfl⟩
    · exact ⟨fun h => by omega, fun h => by linarith⟩
  · rw [le_roundHalfEven_of_ne hnext]
    refine ⟨fun h => h.lt_of_ne (fun heq => hnext ?_), le_of_lt⟩
    have hfloor : ⌊x⌋ = n - 1 :=
      Int.floor_eq_iff.mpr ⟨by push_cast; linarith, by push_cast; linarith⟩
    omega

end HalfEven

/-! ## Decimal places -/

section Places

variable {x y : ℚ}

/-- To the nearest multiple of `10 ^ -places`, halfway cases to the even one. -/
def roundPlaces (places : ℕ) (x : ℚ) : ℚ := roundHalfEven (x * 10 ^ places) / 10 ^ places

@[simp] theorem roundPlaces_roundPlaces (places : ℕ) (x : ℚ) :
    roundPlaces places (roundPlaces places x) = roundPlaces places x := by
  unfold roundPlaces
  rw [div_mul_cancel₀ _ (by positivity), roundHalfEven_intCast]

theorem roundPlaces_mono (places : ℕ) : Monotone (roundPlaces places) := by
  intro x y h
  unfold roundPlaces
  refine div_le_div_of_nonneg_right ?_ (by positivity)
  exact_mod_cast roundHalfEven_mono (mul_le_mul_of_nonneg_right h (by positivity))

/-- Within two bounds, rounding takes finitely many values. -/
theorem finite_roundPlaces (places : ℕ) (lo hi : ℚ) :
    {y | ∃ x, lo ≤ x ∧ x ≤ hi ∧ y = roundPlaces places x}.Finite := by
  have hfinite : ((fun n : ℤ => (n : ℚ) / 10 ^ places) '' Set.Icc (roundHalfEven (lo * 10 ^ places))
      (roundHalfEven (hi * 10 ^ places))).Finite := (Set.finite_Icc _ _).image _
  refine hfinite.subset ?_
  rintro _ ⟨x, hlo, hhi, rfl⟩
  exact ⟨roundHalfEven (x * 10 ^ places),
    ⟨roundHalfEven_mono (mul_le_mul_of_nonneg_right hlo (by positivity)),
      roundHalfEven_mono (mul_le_mul_of_nonneg_right hhi (by positivity))⟩, rfl⟩

/-- A multiple is reached where the number of its units is. -/
theorem le_roundPlaces {places : ℕ} {n : ℤ} :
    n / 10 ^ places ≤ roundPlaces places x ↔ n ≤ roundHalfEven (x * 10 ^ places) := by
  unfold roundPlaces
  rw [div_le_div_iff_of_pos_right (by positivity), Int.cast_le]

end Places

/-! ## Digits -/

section Digits

variable {places : ℕ} {x y : ℚ}

/-- The unit of the last of `places` digits of a positive number. -/
def lastUnit (places : ℕ) (x : ℚ) : ℚ := 10 ^ (Int.log 10 x + 1 - places)

/-- A number that is not negative, with `places` significant digits. -/
def roundNonneg (places : ℕ) (x : ℚ) : ℚ :=
  roundHalfEven (x / lastUnit places x) * lastUnit places x

/-- A number with `places` significant digits. -/
def roundSignificant (places : ℕ) (x : ℚ) : ℚ :=
  if x < 0 then -roundNonneg places (-x) else roundNonneg places x

theorem lastUnit_pos : 0 < lastUnit places x := zpow_pos (by norm_num) _

/-- The integer that has the digits of a positive number has `places` of them. -/
theorem significand_bounds (hx : 0 < x) (hplaces : 0 < places) :
    10 ^ (places - 1) ≤ roundHalfEven (x / lastUnit places x) ∧
      roundHalfEven (x / lastUnit places x) ≤ 10 ^ places := by
  have hlow : (10 : ℚ) ^ (Int.log 10 x) ≤ x := Int.zpow_log_le_self (by norm_num) hx
  have hhigh : x < (10 : ℚ) ^ (Int.log 10 x + 1) := Int.lt_zpow_succ_log_self (by norm_num) x
  constructor
  · have h : (((10 ^ (places - 1) : ℤ)) : ℚ) ≤ x / lastUnit places x := by
      rw [le_div_iff₀ lastUnit_pos, lastUnit]
      push_cast
      rw [← zpow_natCast, ← zpow_add₀ (by norm_num)]
      have hexp : ((places - 1 : ℕ) : ℤ) + (Int.log 10 x + 1 - places) = Int.log 10 x := by omega
      rw [hexp]
      exact hlow
    rw [← roundHalfEven_intCast (10 ^ (places - 1))]
    exact roundHalfEven_mono h
  · have h : x / lastUnit places x ≤ ((10 ^ places : ℤ) : ℚ) := by
      rw [div_le_iff₀ lastUnit_pos, lastUnit]
      push_cast
      rw [← zpow_natCast, ← zpow_add₀ (by norm_num)]
      have hexp : (places : ℤ) + (Int.log 10 x + 1 - places) = Int.log 10 x + 1 := by omega
      rw [hexp]
      exact hhigh.le
    rw [← roundHalfEven_intCast (10 ^ places)]
    exact roundHalfEven_mono h

/-- A number with `places` digits is left alone. -/
theorem roundNonneg_of_digits {m e : ℤ} (hm : 10 ^ (places - 1) ≤ m) (hm' : m < 10 ^ places)
    (hplaces : 0 < places) : roundNonneg places (m * 10 ^ e) = m * 10 ^ e := by
  have hlow : (10 : ℚ) ^ (places - 1) ≤ m := by exact_mod_cast hm
  have hhigh : (m : ℚ) < 10 ^ places := by exact_mod_cast hm'
  have hunit : (0 : ℚ) < 10 ^ e := zpow_pos (by norm_num) e
  have hpos : (0 : ℚ) < m * 10 ^ e := mul_pos (lt_of_lt_of_le (by positivity) hlow) hunit
  have hlog : Int.log 10 ((m : ℚ) * 10 ^ e) = e + places - 1 := by
    refine le_antisymm (Int.lt_add_one_iff.mp ?_) ?_
    · rw [← Int.lt_zpow_iff_log_lt (by norm_num) hpos]
      have hexp : e + places - 1 + 1 = (places : ℤ) + e := by ring
      rw [hexp]
      push_cast
      rw [zpow_add₀ (by norm_num), zpow_natCast]
      exact mul_lt_mul_of_pos_right hhigh hunit
    · rw [← Int.zpow_le_iff_le_log (by norm_num) hpos]
      have hexp : e + places - 1 = ((places - 1 : ℕ) : ℤ) + e := by omega
      rw [hexp]
      push_cast
      rw [zpow_add₀ (by norm_num), zpow_natCast]
      exact mul_le_mul_of_nonneg_right hlow hunit.le
  have hlast : lastUnit places ((m : ℚ) * 10 ^ e) = 10 ^ e := by
    unfold lastUnit
    rw [hlog]
    congr 1
    ring
  rw [roundNonneg, hlast, mul_div_cancel_right₀ _ hunit.ne', roundHalfEven_intCast]

@[simp] theorem roundNonneg_zero : roundNonneg places 0 = 0 := by simp [roundNonneg, roundHalfEven]

/-- So is a number that has fewer. -/
theorem roundNonneg_of_lt {n : ℕ} {e : ℤ} (hn : n < 10 ^ places) (hplaces : 0 < places) :
    roundNonneg places (n * 10 ^ e) = n * 10 ^ e := by
  rcases Nat.eq_zero_or_pos n with rfl | hpos
  · simp
  · -- fill it up with zeros
    let digits := Nat.log 10 n + 1
    have hlow : 10 ^ (digits - 1) ≤ n := Nat.pow_log_le_self 10 hpos.ne'
    have hhigh : n < 10 ^ digits := Nat.lt_pow_succ_log_self (by norm_num) n
    have hdigits : digits ≤ places := by
      by_contra hlt
      have hpow : 10 ^ places ≤ 10 ^ (digits - 1) := Nat.pow_le_pow_right (by norm_num) (by omega)
      omega
    have hshift : (n : ℚ) * 10 ^ e =
        ((n * 10 ^ (places - digits) : ℤ) : ℚ) * 10 ^ (e - ((places - digits : ℕ) : ℤ)) := by
      rw [zpow_sub₀ (by norm_num), zpow_natCast]
      push_cast
      field_simp
    rw [hshift]
    refine roundNonneg_of_digits ?_ ?_ hplaces
    · have hsplit : places - 1 = (digits - 1) + (places - digits) := by omega
      rw [hsplit, pow_add]
      exact_mod_cast Nat.mul_le_mul_right _ hlow
    · have hsplit : places = digits + (places - digits) := by omega
      calc (n : ℤ) * 10 ^ (places - digits) < 10 ^ digits * 10 ^ (places - digits) := by
            exact_mod_cast Nat.mul_lt_mul_of_pos_right hhigh (by positivity)
        _ = 10 ^ places := by rw [← pow_add, ← hsplit]

/-- The error of a rounding up, in proportion. -/
theorem roundNonneg_le_add (hx : 0 < x) (hplaces : 0 < places) :
    roundNonneg places x ≤ x + x / (2 * 10 ^ (places - 1)) := by
  have hunit : lastUnit places x ≤ x / 10 ^ (places - 1) := by
    have hlow : (10 : ℚ) ^ (Int.log 10 x) ≤ x := Int.zpow_log_le_self (by norm_num) hx
    rw [le_div_iff₀ (by positivity), lastUnit, ← zpow_natCast, ← zpow_add₀ (by norm_num)]
    have hexp : Int.log 10 x + 1 - (places : ℤ) + ((places - 1 : ℕ) : ℤ) = Int.log 10 x := by omega
    rw [hexp]
    exact hlow
  have hround := roundHalfEven_le_add (x / lastUnit places x)
  calc roundNonneg places x
      ≤ (x / lastUnit places x + 1 / 2) * lastUnit places x :=
        mul_le_mul_of_nonneg_right hround lastUnit_pos.le
    _ = x + lastUnit places x / 2 := by
        have hpos : 0 < lastUnit places x := lastUnit_pos
        field_simp
    _ ≤ x + x / 10 ^ (places - 1) / 2 := by linarith
    _ = x + x / (2 * 10 ^ (places - 1)) := by
        rw [div_div, mul_comm]

theorem roundNonneg_nonneg (hx : 0 ≤ x) : 0 ≤ roundNonneg places x := by
  refine mul_nonneg ?_ lastUnit_pos.le
  have h : ((0 : ℤ) : ℚ) ≤ x / lastUnit places x := by
    simpa using div_nonneg hx lastUnit_pos.le
  have hround := roundHalfEven_mono h
  rw [roundHalfEven_intCast] at hround
  exact_mod_cast hround

theorem roundNonneg_idem (hx : 0 ≤ x) (hplaces : 0 < places) :
    roundNonneg places (roundNonneg places x) = roundNonneg places x := by
  rcases hx.eq_or_lt with rfl | hpos
  · simp
  · obtain ⟨hlow, hhigh⟩ := significand_bounds hpos hplaces
    rcases hhigh.lt_or_eq with hlt | heq
    · exact roundNonneg_of_digits hlow hlt hplaces
    · -- all nines were rounded up: one digit, one place further
      have hshift : roundNonneg places x =
          ((10 ^ (places - 1) : ℤ) : ℚ) * 10 ^ (Int.log 10 x + 1 - places + 1) := by
        obtain ⟨n, rfl⟩ : ∃ n, places = n + 1 := ⟨places - 1, by omega⟩
        rw [roundNonneg, heq, lastUnit, zpow_add_one₀ (by norm_num)]
        push_cast
        rw [pow_succ]
        ring
      rw [hshift]
      refine roundNonneg_of_digits le_rfl ?_ hplaces
      exact pow_lt_pow_right₀ (by norm_num) (by omega)

theorem roundNonneg_mono (hx : 0 ≤ x) (h : x ≤ y) (hplaces : 0 < places) :
    roundNonneg places x ≤ roundNonneg places y := by
  rcases hx.eq_or_lt with rfl | hpos
  · rw [roundNonneg_zero]
    exact roundNonneg_nonneg h
  have hy : 0 < y := hpos.trans_le h
  rcases (Int.log_mono_right (b := 10) hpos h).lt_or_eq with hlt | heq
  · -- the power of ten between them separates their roundings
    have hxle : roundNonneg places x ≤ 10 ^ (Int.log 10 x + 1) := by
      have hbound : ((roundHalfEven (x / lastUnit places x) : ℤ) : ℚ) ≤ 10 ^ places := by
        exact_mod_cast (significand_bounds hpos hplaces).2
      calc roundNonneg places x ≤ 10 ^ places * lastUnit places x :=
            mul_le_mul_of_nonneg_right hbound lastUnit_pos.le
        _ = 10 ^ (Int.log 10 x + 1) := by
            rw [lastUnit, ← zpow_natCast, ← zpow_add₀ (by norm_num)]
            congr 1
            ring
    have hyge : (10 : ℚ) ^ (Int.log 10 y) ≤ roundNonneg places y := by
      have hbound : (10 : ℚ) ^ (places - 1) ≤ (roundHalfEven (y / lastUnit places y) : ℤ) := by
        exact_mod_cast (significand_bounds hy hplaces).1
      calc (10 : ℚ) ^ (Int.log 10 y) = 10 ^ (places - 1) * lastUnit places y := by
            rw [lastUnit, ← zpow_natCast, ← zpow_add₀ (by norm_num)]
            congr 1
            omega
        _ ≤ roundNonneg places y := mul_le_mul_of_nonneg_right hbound lastUnit_pos.le
    refine hxle.trans (le_trans ?_ hyge)
    exact zpow_le_zpow_right₀ (by norm_num) (by omega)
  · have hunit : lastUnit places x = lastUnit places y := by
      unfold lastUnit
      rw [heq]
    unfold roundNonneg
    rw [hunit]
    refine mul_le_mul_of_nonneg_right ?_ lastUnit_pos.le
    exact_mod_cast roundHalfEven_mono (div_le_div_of_nonneg_right h lastUnit_pos.le)

theorem roundSignificant_mono (hplaces : 0 < places) : Monotone (roundSignificant places) := by
  intro x y h
  unfold roundSignificant
  split_ifs with hx hy hy
  · exact neg_le_neg (roundNonneg_mono (neg_nonneg.mpr hy.le) (neg_le_neg h) hplaces)
  · have hneg : 0 ≤ roundNonneg places (-x) := roundNonneg_nonneg (neg_nonneg.mpr hx.le)
    have hpos : 0 ≤ roundNonneg places y := roundNonneg_nonneg (not_lt.mp hy)
    linarith
  · exact absurd (h.trans_lt hy) hx
  · exact roundNonneg_mono (not_lt.mp hx) h hplaces

theorem roundSignificant_idem (hplaces : 0 < places) (x : ℚ) :
    roundSignificant places (roundSignificant places x) = roundSignificant places x := by
  by_cases hx : x < 0
  · have hneg : roundSignificant places x = -roundNonneg places (-x) := if_pos hx
    have hnonneg : 0 ≤ roundNonneg places (-x) := roundNonneg_nonneg (neg_nonneg.mpr hx.le)
    rw [hneg]
    rcases hnonneg.eq_or_lt with heq | hlt
    · simp [← heq, roundSignificant]
    · rw [roundSignificant, if_pos (neg_lt_zero.mpr hlt), neg_neg,
        roundNonneg_idem (neg_nonneg.mpr hx.le) hplaces]
  · have hpos : roundSignificant places x = roundNonneg places x := if_neg hx
    have hnonneg : 0 ≤ roundNonneg places x := roundNonneg_nonneg (not_lt.mp hx)
    rw [hpos, roundSignificant, if_neg hnonneg.not_gt, roundNonneg_idem (not_lt.mp hx) hplaces]

/-- A rounding that cannot reach the next multiple of `10 ^ -scale` leaves a
number between the same two. -/
theorem floor_roundNonneg (hx : 0 < x) (hplaces : 0 < places) (scale : ℕ)
    (hfits : x * 10 ^ scale < 10 ^ places)
    (hgap : (x + x / (2 * 10 ^ (places - 1))) * 10 ^ scale < ⌊x * 10 ^ scale⌋ + 1) :
    ⌊roundNonneg places x * 10 ^ scale⌋ = ⌊x * 10 ^ scale⌋ := by
  have hscale : (0 : ℚ) < 10 ^ scale := by positivity
  have hfloor : (⌊x * 10 ^ scale⌋ : ℚ) ≤ x * 10 ^ scale := Int.floor_le _
  obtain ⟨n, hn⟩ := Int.eq_ofNat_of_zero_le (Int.floor_nonneg.mpr (mul_pos hx hscale).le)
  rw [hn] at hfloor hgap ⊢
  rw [Int.floor_eq_iff]
  constructor
  · -- the multiple below has few enough digits to stay
    have hbelow : (n : ℚ) * 10 ^ (-(scale : ℤ)) ≤ x := by
      rw [zpow_neg, zpow_natCast, ← div_eq_mul_inv, div_le_iff₀ hscale]
      exact_mod_cast hfloor
    have hdigits : n < 10 ^ places := by
      have hlt : (n : ℚ) < 10 ^ places := lt_of_le_of_lt (by exact_mod_cast hfloor) hfits
      exact_mod_cast hlt
    have hnonneg : (0 : ℚ) ≤ n * 10 ^ (-(scale : ℤ)) :=
      mul_nonneg (Nat.cast_nonneg n) (zpow_pos (by norm_num) _).le
    have hmono := roundNonneg_mono hnonneg hbelow hplaces
    rw [roundNonneg_of_lt hdigits hplaces, zpow_neg, zpow_natCast, ← div_eq_mul_inv,
      div_le_iff₀ hscale] at hmono
    exact_mod_cast hmono
  · exact lt_of_le_of_lt (mul_le_mul_of_nonneg_right (roundNonneg_le_add hx hplaces) hscale.le) hgap

end Digits

/-- Rounding to significant digits. -/
def Rounding.significant (places : ℕ) (hplaces : 0 < places) : Rounding where
  round := roundSignificant places
  zero := by simp [roundSignificant]
  mono := roundSignificant_mono hplaces
  idem := roundSignificant_idem hplaces

example : roundSignificant 3 (2 / 3) = 667 / 1000 := by decide +kernel

end CryptoTrader.Lib
