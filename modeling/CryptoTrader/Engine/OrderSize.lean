import CryptoTrader.Engine.Entry
import CryptoTrader.Lib.Significant
import Mathlib.Order.Bounds.Basic

/-!
# The size of an entry in decimal arithmetic

The sizing section of `_execute_entry`, with a rounding after every decimal
operation, and `round_qty`, which the order goes through when it is sent.  The
venue takes a multiple of its increment that reaches both minimums.  The
comparison of margins is between floats, which are exact here.
-/

namespace CryptoTrader

open CryptoTrader.Lib

/-- The default context: 28 significant digits, halfway cases to the even one. -/
def decimalContext : Rounding := .significant 28 (by norm_num)

/-- What the sizing section reads once the instrument's constraints are there.
`gateLeverage` is the leverage of the affordability check, `bookLeverage` that
of the wallet's position. -/
structure SizingInput (r : Rounding) where
  entryPrice : Decimal
  stopDistance : Decimal
  marginBalance : Decimal
  usedMargin : Decimal
  riskPerTradePct : Decimal
  riskBudgetFraction : Decimal
  sizeMultiplier : Decimal
  spec : InstrumentSpec
  gateLeverage : ℕ
  bookLeverage : Leverage
  entryPrice_pos : 0 < entryPrice
  stopDistance_pos : 0 < stopDistance
  increment_nonneg : 0 ≤ spec.quantityIncrement
  minQuantity_nonneg : 0 ≤ spec.minQuantity
  minNotional_nonneg : 0 ≤ spec.minNotional
  minQuantity_exact : r.Exact spec.minQuantity
  minNotional_exact : r.Exact spec.minNotional

namespace SizingInput

variable {r : Rounding} (i : SizingInput r)

/-! ## The code -/

/-- `risk_budget`. -/
def riskBudget : Decimal :=
  r.round (r.round (r.round (i.marginBalance * i.riskPerTradePct) * i.riskBudgetFraction) *
    i.sizeMultiplier)

/-- The risk-based quantity. -/
def riskQuantity : Decimal := r.round (i.riskBudget / i.stopDistance)

/-- The margin that is still available. -/
def available : Decimal := i.marginBalance - i.usedMargin

/-- `quantity < min_q or cur_notional < min_n`. -/
def belowMinimum (qty : Decimal) : Bool :=
  qty < i.spec.minQuantity || r.round (qty * i.entryPrice) < i.spec.minNotional

/-- `target_qty`. -/
def targetQty : Decimal := max (r.round (i.spec.minNotional / i.entryPrice)) i.spec.minQuantity

/-- `bumped_qty` before the loop. -/
def rounded : Decimal :=
  let inc := i.spec.quantityIncrement
  if 0 < inc then r.round ((toIntegralUp (r.round (i.targetQty / inc)) : Decimal) * inc)
  else i.targetQty

/-- One round of the loop. -/
def raised (qty : Decimal) : Decimal :=
  r.round (qty + if 0 < i.spec.quantityIncrement then i.spec.quantityIncrement
    else r.round (i.spec.minQuantity - qty))

/-- The `while` loop, with the rounds it may take; `none` when they do not do. -/
def raise : ℕ → Decimal → Option Decimal
  | rounds, qty =>
      if i.belowMinimum qty then
        match rounds with
        | 0 => none
        | rounds + 1 => raise rounds (i.raised qty)
      else some qty

/-- The affordability check of the bumped quantity. -/
def afford (qty : Decimal) : Sized :=
  let required := r.round (qty * i.entryPrice) / (max i.gateLeverage 1 : ℕ)
  if i.available < required then .vetoed (.minNotionalUnaffordable required i.available)
  else .quantity qty

/-- What the section comes to, unless the loop takes more rounds. -/
def size (rounds : ℕ) : Option Sized :=
  let sized := if i.belowMinimum i.riskQuantity then (i.raise rounds i.rounded).map i.afford
    else some (.quantity i.riskQuantity)
  sized.map (fun
    | .quantity qty => if qty ≤ 0 then .vetoed (.qtyZero i.stopDistance) else .quantity qty
    | other => other)

/-- `round_qty`. -/
def sentQty (qty : Decimal) : Decimal :=
  let inc := i.spec.quantityIncrement
  if inc ≤ 0 then qty else r.round ((toIntegralDown (r.round (qty / inc)) : Decimal) * inc)

/-! ## What the venue takes -/

/-- A quantity the venue takes: a multiple of the increment, or a decimal when
there is none, that reaches both minimums. -/
def Legal (qty : Decimal) : Prop :=
  (if 0 < i.spec.quantityIncrement then ∃ k : ℤ, qty = k * i.spec.quantityIncrement
    else r.Exact qty) ∧
    i.spec.minQuantity ≤ qty ∧ i.spec.minNotional ≤ qty * i.entryPrice

/-- What an order of a quantity is meant to satisfy once it is sent. -/
structure Fine (qty : Decimal) : Prop where
  quantity : i.spec.minQuantity ≤ i.sentQty qty
  notional : i.spec.minNotional ≤ i.sentQty qty * i.entryPrice
  margin : i.sentQty qty * i.entryPrice / (i.bookLeverage : ℕ) ≤ i.available
  risk : i.belowMinimum i.riskQuantity = false → i.sentQty qty * i.stopDistance ≤ i.riskBudget
  smallest : i.belowMinimum i.riskQuantity = true → IsLeast {q | i.Legal q} (i.sentQty qty)

/-- The section ends, and what it passes on is fine. -/
def VenueLegal : Prop :=
  ∃ rounds sized, i.size rounds = some sized ∧ ∀ qty, sized = .quantity qty → i.Fine qty

/-! ## The smallest order -/

/-- The larger minimum, as a quantity. -/
def minimum : Decimal := max (i.spec.minNotional / i.entryPrice) i.spec.minQuantity

/-- How many increments reach it. -/
def steps : ℤ := ⌈i.minimum / i.spec.quantityIncrement⌉

/-- The smallest quantity the venue takes. -/
def smallestOrder : Decimal :=
  if 0 < i.spec.quantityIncrement then i.steps * i.spec.quantityIncrement else i.minimum

/-- The smallest order and the multiple before it are not rounded.  When the
risk-based quantity is below a minimum, the multiple before is so as well, also
after rounding; without an increment the minimum is not rounded down. -/
structure Fits : Prop where
  steps : 0 < i.spec.quantityIncrement → r.Exact i.steps ∧
    r.Exact (i.steps * i.spec.quantityIncrement)
  before : 0 < i.spec.quantityIncrement → r.Exact (i.steps - 1) ∧
    r.Exact ((i.steps - 1) * i.spec.quantityIncrement)
  bump : i.belowMinimum i.riskQuantity = true →
    if 0 < i.spec.quantityIncrement then
      i.belowMinimum ((i.steps - 1) * i.spec.quantityIncrement) = true
    else i.minimum ≤ r.round i.minimum

/-- A risk-based quantity below a minimum: the affordability check vetoes the
smallest order, or its margin is available at the leverage it is booked with.
Otherwise: the quantity is not positive, or at least the smallest order, the
budget covers it unless the rounding to the increment lowers it, and the margin
of what is sent is available. -/
def Sound : Prop :=
  if i.belowMinimum i.riskQuantity then
    i.available < r.round (r.round i.smallestOrder * i.entryPrice) / (max i.gateLeverage 1 : ℕ) ∨
      r.round i.smallestOrder * i.entryPrice / (i.bookLeverage : ℕ) ≤ i.available
  else
    i.riskQuantity ≤ 0 ∨
      (i.smallestOrder ≤ i.riskQuantity ∧
        (i.sentQty i.riskQuantity < i.riskQuantity ∨
          i.sentQty i.riskQuantity = i.riskQuantity ∧
            i.riskQuantity * i.stopDistance ≤ i.riskBudget) ∧
        i.sentQty i.riskQuantity * i.entryPrice / (i.bookLeverage : ℕ) ≤ i.available)

/-! ## Minimums -/

variable {i : SizingInput r} {qty : Decimal}

theorem minimum_nonneg : 0 ≤ i.minimum :=
  i.minQuantity_nonneg.trans (le_max_right _ _)

/-- Both minimums are reached from the larger one on. -/
theorem minimum_le_iff :
    i.minimum ≤ qty ↔ i.spec.minQuantity ≤ qty ∧ i.spec.minNotional ≤ qty * i.entryPrice := by
  rw [minimum, max_le_iff, div_le_iff₀ i.entryPrice_pos, and_comm]

theorem not_below_of_minimum_le (h : i.minimum ≤ qty) : i.belowMinimum qty = false := by
  obtain ⟨hquantity, hnotional⟩ := minimum_le_iff.mp h
  have hround : i.spec.minNotional ≤ r.round (qty * i.entryPrice) :=
    i.minNotional_exact.le_round hnotional
  simp [belowMinimum, hquantity, hround]

theorem targetQty_eq : i.targetQty = r.round i.minimum := by
  rw [targetQty, minimum, r.mono.map_max, i.minQuantity_exact]

section Increment

variable (hinc : 0 < i.spec.quantityIncrement)

include hinc

theorem smallestOrder_of_pos : i.smallestOrder = i.steps * i.spec.quantityIncrement :=
  if_pos hinc

theorem minimum_le_steps : i.minimum ≤ i.steps * i.spec.quantityIncrement :=
  (div_le_iff₀ hinc).mp (Int.le_ceil _)

theorem steps_sub_one_lt : (i.steps - 1) * i.spec.quantityIncrement < i.minimum := by
  have h : (i.steps : Decimal) < i.minimum / i.spec.quantityIncrement + 1 := Int.ceil_lt_add_one _
  exact (lt_div_iff₀ hinc).mp (by linarith)

theorem steps_nonneg : 0 ≤ i.steps :=
  Int.ceil_nonneg (div_nonneg minimum_nonneg hinc.le)

/-- The first quantity tried is the smallest order or the multiple before it. -/
theorem rounded_of_pos (hfits : i.Fits) :
    i.rounded = i.steps * i.spec.quantityIncrement ∨
      i.rounded = (i.steps - 1) * i.spec.quantityIncrement := by
  obtain ⟨hsteps, horder⟩ := hfits.steps hinc
  obtain ⟨hsteps', hbefore⟩ := hfits.before hinc
  have hupper : r.round (i.targetQty / i.spec.quantityIncrement) ≤ i.steps := by
    refine hsteps.round_le ((div_le_iff₀ hinc).mpr ?_)
    rw [targetQty_eq]
    exact horder.round_le (minimum_le_steps hinc)
  have hlower : (i.steps : Decimal) - 1 ≤ r.round (i.targetQty / i.spec.quantityIncrement) := by
    refine hsteps'.le_round ((le_div_iff₀ hinc).mpr ?_)
    rw [targetQty_eq]
    exact hbefore.le_round (steps_sub_one_lt hinc).le
  have hnonneg : 0 ≤ r.round (i.targetQty / i.spec.quantityIncrement) := by
    refine r.exact_zero.le_round (div_nonneg ?_ hinc.le)
    exact i.minQuantity_nonneg.trans (le_max_right _ _)
  have hceil : ⌈r.round (i.targetQty / i.spec.quantityIncrement)⌉ ≤ i.steps := Int.ceil_le.mpr hupper
  have hceil' : i.steps - 1 ≤ ⌈r.round (i.targetQty / i.spec.quantityIncrement)⌉ := by
    exact_mod_cast hlower.trans (Int.le_ceil _)
  have hrounded : i.rounded =
      r.round (⌈r.round (i.targetQty / i.spec.quantityIncrement)⌉ * i.spec.quantityIncrement) := by
    simp only [rounded, if_pos hinc, toIntegralUp, if_pos hnonneg]
  rw [hrounded]
  rcases hceil.eq_or_lt with heq | hlt
  · exact Or.inl (by rw [heq, horder])
  · have heq : ⌈r.round (i.targetQty / i.spec.quantityIncrement)⌉ = i.steps - 1 := by omega
    refine Or.inr ?_
    rw [heq]
    push_cast
    exact hbefore

/-- Sending the smallest order sends it as it is. -/
theorem sentQty_steps (hfits : i.Fits) :
    i.sentQty (i.steps * i.spec.quantityIncrement) = i.steps * i.spec.quantityIncrement := by
  obtain ⟨hsteps, horder⟩ := hfits.steps hinc
  simp only [sentQty, if_neg hinc.not_ge]
  rw [mul_div_cancel_right₀ _ hinc.ne', hsteps, toIntegralDown_intCast, horder]

end Increment

/-! ## The bump -/

theorem raise_of_not_below (h : i.belowMinimum qty = false) (rounds : ℕ) :
    i.raise rounds qty = some qty := by
  cases rounds <;> simp [raise, h]

/-- More rounds make no difference once the loop has ended. -/
theorem raise_unique {rounds rounds' : ℕ} {found found' : Decimal} :
    i.raise rounds qty = some found → i.raise rounds' qty = some found' → found = found' := by
  induction rounds generalizing qty rounds' with
  | zero =>
      intro h h'
      cases hbelow : i.belowMinimum qty with
      | true => simp [raise, hbelow] at h
      | false =>
          rw [raise_of_not_below hbelow] at h h'
          exact Option.some.inj (h.symm.trans h')
  | succ rounds ih =>
      intro h h'
      cases hbelow : i.belowMinimum qty with
      | false =>
          rw [raise_of_not_below hbelow] at h h'
          exact Option.some.inj (h.symm.trans h')
      | true =>
          cases rounds' with
          | zero => simp [raise, hbelow] at h'
          | succ rounds' =>
              rw [raise, if_pos hbelow] at h h'
              exact ih h h'

/-- The loop comes to the smallest order, in one round at most. -/
theorem raise_rounded (hfits : i.Fits) (hbump : i.belowMinimum i.riskQuantity = true) :
    i.raise 1 i.rounded = some (r.round i.smallestOrder) := by
  have hexact := hfits.bump hbump
  by_cases hinc : 0 < i.spec.quantityIncrement
  · obtain ⟨-, horder⟩ := hfits.steps hinc
    rw [if_pos hinc] at hexact
    rw [smallestOrder_of_pos hinc, horder]
    have hdone := not_below_of_minimum_le (minimum_le_steps hinc)
    rcases rounded_of_pos hinc hfits with heq | heq
    · rw [heq, raise_of_not_below hdone]
    · have hraised : i.raised i.rounded = i.steps * i.spec.quantityIncrement := by
        rw [raised, if_pos hinc, heq, sub_mul, one_mul, sub_add_cancel, horder]
      rw [raise, heq, if_pos hexact, ← heq, hraised, raise_of_not_below hdone]
  · rw [if_neg hinc] at hexact
    have hrounded : i.rounded = r.round i.minimum := by rw [rounded, if_neg hinc, targetQty_eq]
    rw [hrounded, smallestOrder, if_neg hinc, raise_of_not_below (not_below_of_minimum_le hexact)]

/-- The smallest order is sent as it is, and no smaller quantity is taken. -/
theorem smallest_legal (hfits : i.Fits) (hbump : i.belowMinimum i.riskQuantity = true) :
    i.sentQty (r.round i.smallestOrder) = r.round i.smallestOrder ∧
      IsLeast {q | i.Legal q} (r.round i.smallestOrder) := by
  have hexact := hfits.bump hbump
  by_cases hinc : 0 < i.spec.quantityIncrement
  · obtain ⟨-, horder⟩ := hfits.steps hinc
    rw [smallestOrder_of_pos hinc, horder]
    refine ⟨sentQty_steps hinc hfits, ⟨?_, minimum_le_iff.mp (minimum_le_steps hinc)⟩, ?_⟩
    · rw [if_pos hinc]
      exact ⟨i.steps, rfl⟩
    · rintro q ⟨hgrid, hminimums⟩
      rw [if_pos hinc] at hgrid
      obtain ⟨k, rfl⟩ := hgrid
      have hk : i.steps ≤ k := Int.ceil_le.mpr ((div_le_iff₀ hinc).mpr (minimum_le_iff.mpr hminimums))
      exact mul_le_mul_of_nonneg_right (by exact_mod_cast hk) hinc.le
  · rw [if_neg hinc] at hexact
    rw [smallestOrder, if_neg hinc]
    refine ⟨by simp only [sentQty, if_pos (not_lt.mp hinc)], ⟨?_, minimum_le_iff.mp hexact⟩, ?_⟩
    · rw [if_neg hinc]
      exact r.exact_round _
    · rintro q ⟨hgrid, hminimums⟩
      rw [if_neg hinc] at hgrid
      exact Rounding.Exact.round_le hgrid (minimum_le_iff.mpr hminimums)

/-! ## The risk-based quantity -/

theorem exact_sentQty (h : r.Exact qty) : r.Exact (i.sentQty qty) := by
  simp only [sentQty]
  split_ifs
  · exact h
  · exact r.exact_round _

/-- What is sent of the risk-based quantity is within the budget exactly if it
is not more than the quotient before its rounding. -/
theorem sentQty_risk_iff :
    i.sentQty i.riskQuantity * i.stopDistance ≤ i.riskBudget ↔
      i.sentQty i.riskQuantity < i.riskQuantity ∨
        i.sentQty i.riskQuantity = i.riskQuantity ∧
          i.riskQuantity * i.stopDistance ≤ i.riskBudget := by
  have hsent : r.Exact (i.sentQty i.riskQuantity) := exact_sentQty (r.exact_round _)
  constructor
  · intro h
    have hle : i.sentQty i.riskQuantity ≤ i.riskQuantity :=
      hsent.le_round ((le_div_iff₀ i.stopDistance_pos).mpr h)
    rcases hle.lt_or_eq with hlt | heq
    · exact Or.inl hlt
    · exact Or.inr ⟨heq, heq ▸ h⟩
  · rintro (hlt | ⟨heq, h⟩)
    · exact ((lt_div_iff₀ i.stopDistance_pos).mp (hsent.lt_of_lt_round hlt)).le
    · rwa [heq]

/-- What is sent reaches the minimums when the quantity reaches the smallest
order. -/
theorem minimum_le_sentQty (hfits : i.Fits) (h : i.smallestOrder ≤ qty) :
    i.minimum ≤ i.sentQty qty := by
  by_cases hinc : 0 < i.spec.quantityIncrement
  · obtain ⟨hsteps, horder⟩ := hfits.steps hinc
    rw [smallestOrder_of_pos hinc] at h
    have hround : (i.steps : Decimal) ≤ r.round (qty / i.spec.quantityIncrement) :=
      hsteps.le_round ((le_div_iff₀ hinc).mpr h)
    have hnonneg : 0 ≤ r.round (qty / i.spec.quantityIncrement) := by
      have hzero : (0 : Decimal) ≤ i.steps := by exact_mod_cast steps_nonneg hinc
      exact hzero.trans hround
    have hfloor : (i.steps : Decimal) ≤ (⌊r.round (qty / i.spec.quantityIncrement)⌋ : ℤ) := by
      exact_mod_cast Int.le_floor.mpr hround
    simp only [sentQty, if_neg hinc.not_ge, toIntegralDown, if_pos hnonneg]
    refine (minimum_le_steps hinc).trans (horder.le_round ?_)
    exact mul_le_mul_of_nonneg_right hfloor hinc.le
  · rw [smallestOrder, if_neg hinc] at h
    simpa only [sentQty, if_pos (not_lt.mp hinc)] using h

/-- And only then, unless more is sent than the quantity. -/
theorem smallestOrder_le_of_sentQty (hfits : i.Fits) (hqty : 0 ≤ qty)
    (hsent : i.minimum ≤ i.sentQty qty) (hle : i.sentQty qty ≤ qty) : i.smallestOrder ≤ qty := by
  by_cases hinc : 0 < i.spec.quantityIncrement
  · obtain ⟨hsteps, horder⟩ := hfits.steps hinc
    obtain ⟨-, hbefore⟩ := hfits.before hinc
    rw [smallestOrder_of_pos hinc]
    by_contra hlt
    have hround : r.round (qty / i.spec.quantityIncrement) ≤ i.steps :=
      hsteps.round_le ((div_le_iff₀ hinc).mpr (not_le.mp hlt).le)
    have hnonneg : 0 ≤ r.round (qty / i.spec.quantityIncrement) :=
      r.exact_zero.le_round (div_nonneg hqty hinc.le)
    have hfloor : ⌊r.round (qty / i.spec.quantityIncrement)⌋ ≤ i.steps := by
      exact_mod_cast (Int.floor_le _).trans hround
    have hvalue : i.sentQty qty =
        r.round (⌊r.round (qty / i.spec.quantityIncrement)⌋ * i.spec.quantityIncrement) := by
      simp only [sentQty, if_neg hinc.not_ge, toIntegralDown, if_pos hnonneg]
    rcases hfloor.eq_or_lt with heq | hless
    · rw [heq, horder] at hvalue
      exact hlt (hvalue ▸ hle)
    · have hk : ((⌊r.round (qty / i.spec.quantityIncrement)⌋ : ℤ) : Decimal) ≤ i.steps - 1 := by
        exact_mod_cast Int.le_sub_one_of_lt hless
      have hsmall : i.sentQty qty ≤ (i.steps - 1) * i.spec.quantityIncrement := by
        rw [hvalue]
        exact hbefore.round_le (mul_le_mul_of_nonneg_right hk hinc.le)
      exact absurd (hsent.trans hsmall) (steps_sub_one_lt hinc).not_ge
  · simp only [sentQty, if_pos (not_lt.mp hinc)] at hsent
    rwa [smallestOrder, if_neg hinc]

/-! ## The section -/

theorem size_of_not_below (hrisk : i.belowMinimum i.riskQuantity = false) (rounds : ℕ) :
    i.size rounds = some (if i.riskQuantity ≤ 0 then .vetoed (.qtyZero i.stopDistance)
      else .quantity i.riskQuantity) := by
  simp [size, hrisk]

/-- A quantity that is passed on without a bump. -/
theorem fine_risk_iff (hfits : i.Fits) (hrisk : i.belowMinimum i.riskQuantity = false)
    (hpos : 0 ≤ i.riskQuantity) :
    i.Fine i.riskQuantity ↔
      i.smallestOrder ≤ i.riskQuantity ∧
        (i.sentQty i.riskQuantity < i.riskQuantity ∨
          i.sentQty i.riskQuantity = i.riskQuantity ∧
            i.riskQuantity * i.stopDistance ≤ i.riskBudget) ∧
        i.sentQty i.riskQuantity * i.entryPrice / (i.bookLeverage : ℕ) ≤ i.available := by
  constructor
  · intro h
    have hbudget := sentQty_risk_iff.mp (h.risk hrisk)
    have hle : i.sentQty i.riskQuantity ≤ i.riskQuantity := by
      rcases hbudget with hlt | ⟨heq, -⟩
      · exact hlt.le
      · exact heq.le
    have hminimum := minimum_le_iff.mpr ⟨h.quantity, h.notional⟩
    exact ⟨smallestOrder_le_of_sentQty hfits hpos hminimum hle, hbudget, h.margin⟩
  · rintro ⟨hsmallest, hbudget, hmargin⟩
    obtain ⟨hquantity, hnotional⟩ := minimum_le_iff.mp (minimum_le_sentQty hfits hsmallest)
    refine ⟨hquantity, hnotional, hmargin, fun _ => sentQty_risk_iff.mpr hbudget, fun hbump => ?_⟩
    rw [hrisk] at hbump
    cases hbump

/-- A bumped quantity. -/
theorem fine_bump_iff (hfits : i.Fits) (hbump : i.belowMinimum i.riskQuantity = true) :
    i.Fine (r.round i.smallestOrder) ↔
      r.round i.smallestOrder * i.entryPrice / (i.bookLeverage : ℕ) ≤ i.available := by
  obtain ⟨hsent, hleast⟩ := smallest_legal hfits hbump
  constructor
  · intro h
    simpa only [hsent] using h.margin
  · intro hmargin
    obtain ⟨-, hquantity, hnotional⟩ := hleast.1
    refine ⟨by rwa [hsent], by rwa [hsent], by rwa [hsent], fun hrisk => ?_, fun _ => by rwa [hsent]⟩
    rw [hbump] at hrisk
    cases hrisk

theorem smallestOrder_nonneg : 0 ≤ i.smallestOrder := by
  by_cases hinc : 0 < i.spec.quantityIncrement
  · rw [smallestOrder_of_pos hinc]
    exact minimum_nonneg.trans (minimum_le_steps hinc)
  · rw [smallestOrder, if_neg hinc]
    exact minimum_nonneg

/-- With a bump the section comes to what becomes of the smallest order. -/
theorem size_of_below (hfits : i.Fits) (hbump : i.belowMinimum i.riskQuantity = true)
    {rounds : ℕ} {sized : Sized} (h : i.size rounds = some sized) : i.size 1 = some sized := by
  have hraise := raise_rounded hfits hbump
  cases hfound : i.raise rounds i.rounded with
  | none => simp [size, hbump, hfound] at h
  | some found =>
      have heq := raise_unique hfound hraise
      subst heq
      simpa [size, hbump, hfound, hraise] using h

/-- A smallest order that can be afforded is passed on, unless it is zero. -/
theorem size_bump (hfits : i.Fits) (hbump : i.belowMinimum i.riskQuantity = true) :
    i.size 1 = some (
      if i.available < r.round (r.round i.smallestOrder * i.entryPrice) / (max i.gateLeverage 1 : ℕ)
      then .vetoed (.minNotionalUnaffordable
        (r.round (r.round i.smallestOrder * i.entryPrice) / (max i.gateLeverage 1 : ℕ)) i.available)
      else if r.round i.smallestOrder ≤ 0 then .vetoed (.qtyZero i.stopDistance)
      else .quantity (r.round i.smallestOrder)) := by
  simp only [size, hbump, if_true, raise_rounded hfits hbump, Option.map_some, afford]
  by_cases hafford : i.available <
      r.round (r.round i.smallestOrder * i.entryPrice) / (max i.gateLeverage 1 : ℕ)
  · rw [if_pos hafford, if_pos hafford]
  · rw [if_neg hafford, if_neg hafford]

theorem venueLegal_of_below (hfits : i.Fits) (hbump : i.belowMinimum i.riskQuantity = true) :
    i.VenueLegal ↔
      i.available < r.round (r.round i.smallestOrder * i.entryPrice) / (max i.gateLeverage 1 : ℕ) ∨
        r.round i.smallestOrder * i.entryPrice / (i.bookLeverage : ℕ) ≤ i.available := by
  have hsize := size_bump hfits hbump
  by_cases hafford : i.available <
      r.round (r.round i.smallestOrder * i.entryPrice) / (max i.gateLeverage 1 : ℕ)
  · rw [if_pos hafford] at hsize
    exact iff_of_true ⟨1, _, hsize, fun _ h => nomatch h⟩ (Or.inl hafford)
  · rw [if_neg hafford] at hsize
    by_cases hpos : r.round i.smallestOrder ≤ 0
    · -- an order of nothing: the available margin is not negative
      have hzero : r.round i.smallestOrder = 0 :=
        le_antisymm hpos (r.exact_zero.le_round smallestOrder_nonneg)
      rw [if_pos hpos] at hsize
      refine iff_of_true ⟨1, _, hsize, fun _ h => nomatch h⟩ (Or.inr ?_)
      simpa [hzero, r.zero] using hafford
    · rw [if_neg hpos] at hsize
      rw [← fine_bump_iff hfits hbump, or_iff_right hafford]
      constructor
      · rintro ⟨rounds, sized, h, hfine⟩
        have hsized := Option.some.inj ((size_of_below hfits hbump h).symm.trans hsize)
        exact hfine _ hsized
      · intro hfine
        refine ⟨1, _, hsize, fun qty h => ?_⟩
        cases h
        exact hfine

theorem venueLegal_of_not_below (hfits : i.Fits)
    (hrisk : i.belowMinimum i.riskQuantity = false) :
    i.VenueLegal ↔ i.riskQuantity ≤ 0 ∨
      (i.smallestOrder ≤ i.riskQuantity ∧
        (i.sentQty i.riskQuantity < i.riskQuantity ∨
          i.sentQty i.riskQuantity = i.riskQuantity ∧
            i.riskQuantity * i.stopDistance ≤ i.riskBudget) ∧
        i.sentQty i.riskQuantity * i.entryPrice / (i.bookLeverage : ℕ) ≤ i.available) := by
  have hsize := size_of_not_below hrisk
  by_cases hpos : i.riskQuantity ≤ 0
  · simp only [if_pos hpos] at hsize
    exact iff_of_true ⟨0, _, hsize 0, fun _ h => nomatch h⟩ (Or.inl hpos)
  · simp only [if_neg hpos] at hsize
    rw [← fine_risk_iff hfits hrisk (not_le.mp hpos).le, or_iff_right hpos]
    constructor
    · rintro ⟨rounds, sized, h, hfine⟩
      exact hfine _ (Option.some.inj (h.symm.trans (hsize rounds)))
    · intro hfine
      refine ⟨0, _, hsize 0, fun qty h => ?_⟩
      cases h
      exact hfine

theorem venueLegal_iff (hfits : i.Fits) : i.VenueLegal ↔ i.Sound := by
  unfold Sound
  cases hbelow : i.belowMinimum i.riskQuantity with
  | true => simpa using venueLegal_of_below hfits hbelow
  | false => simpa using venueLegal_of_not_below hfits hbelow

/-- A quantity below a minimum that the loop does not move is never left. -/
theorem raise_stuck (hbelow : i.belowMinimum qty = true) (hstuck : i.raised qty = qty)
    (rounds : ℕ) : i.raise rounds qty = none := by
  induction rounds with
  | zero => simp [raise, hbelow]
  | succ rounds ih => rw [raise, if_pos hbelow, hstuck, ih]

/-! ## Exact arithmetic -/

/-- The smallest order is what the entry path takes for it in exact arithmetic. -/
theorem minimumOrder_eq (i : SizingInput .none) :
    i.spec.minimumOrder i.entryPrice = some i.smallestOrder := by
  have hraise (rounds : ℕ) (qty : Decimal) :
      i.spec.raise i.entryPrice rounds qty = i.raise rounds qty := by
    induction rounds generalizing qty with
    | zero => rfl
    | succ rounds ih =>
        rw [InstrumentSpec.raise, raise]
        exact if_congr Iff.rfl (ih _) rfl
  have hmin : i.minimum ≤ i.smallestOrder := by
    by_cases hinc : 0 < i.spec.quantityIncrement
    · rw [smallestOrder_of_pos hinc]
      exact minimum_le_steps hinc
    · rw [smallestOrder, if_neg hinc]
  have hrounded : (if 0 < i.spec.quantityIncrement then
      (toIntegralUp (i.minimum / i.spec.quantityIncrement) : Decimal) * i.spec.quantityIncrement
      else i.minimum) = i.smallestOrder := by
    unfold smallestOrder
    by_cases hinc : 0 < i.spec.quantityIncrement
    · rw [if_pos hinc, if_pos hinc, toIntegralUp, if_pos (div_nonneg minimum_nonneg hinc.le)]
      rfl
    · rw [if_neg hinc, if_neg hinc]
  unfold InstrumentSpec.minimumOrder
  simp only [if_pos i.entryPrice_pos]
  change InstrumentSpec.raise _ _ _ (if 0 < i.spec.quantityIncrement then
      (toIntegralUp (i.minimum / i.spec.quantityIncrement) : Decimal) * i.spec.quantityIncrement
      else i.minimum) = _
  rw [hrounded, hraise, raise_of_not_below (not_below_of_minimum_le hmin)]

end SizingInput

/-- Where the smallest order fits into 28 digits, the sizing section ends, and
passes on what the venue takes, exactly under the condition; where it does not,
nothing is said. -/
theorem entry_size_legal (i : SizingInput decimalContext) :
    (i.Fits ∧ i.Sound → i.VenueLegal) ∧ (i.Fits → i.VenueLegal → i.Sound) :=
  ⟨fun ⟨hfits, hsound⟩ => (SizingInput.venueLegal_iff hfits).mpr hsound,
    fun hfits hlegal => (SizingInput.venueLegal_iff hfits).mp hlegal⟩

/-! ## Rounding down, and a loop without end -/

/-- A risk-based quantity of 0.065 at 100, with a minimum notional of 6.3 and an
increment of 0.01. -/
def demoRoundDown : SizingInput decimalContext where
  entryPrice := 100
  stopDistance := 1
  marginBalance := 13
  usedMargin := 0
  riskPerTradePct := 5 / 1000
  riskBudgetFraction := 1
  sizeMultiplier := 1
  spec :=
    { priceIncrement := 1 / 10
      quantityIncrement := 1 / 100
      minQuantity := 1 / 100
      minNotional := 63 / 10
      maxLeverage := 20 }
  gateLeverage := 10
  bookLeverage := 10
  entryPrice_pos := by norm_num
  stopDistance_pos := by norm_num
  increment_nonneg := by norm_num
  minQuantity_nonneg := by norm_num
  minNotional_nonneg := by norm_num
  minQuantity_exact := by decide +kernel
  minNotional_exact := by decide +kernel

/-- No increment, and a minimum notional of one at a price of three. -/
def demoEndless : SizingInput decimalContext where
  entryPrice := 3
  stopDistance := 1
  marginBalance := 1
  usedMargin := 0
  riskPerTradePct := 5 / 1000
  riskBudgetFraction := 1
  sizeMultiplier := 1
  spec :=
    { priceIncrement := 1 / 10
      quantityIncrement := 0
      minQuantity := 1 / 100
      minNotional := 1
      maxLeverage := 20 }
  gateLeverage := 10
  bookLeverage := 10
  entryPrice_pos := by norm_num
  stopDistance_pos := by norm_num
  increment_nonneg := le_rfl
  minQuantity_nonneg := by norm_num
  minNotional_nonneg := by norm_num
  minQuantity_exact := by decide +kernel
  minNotional_exact := by decide +kernel

/-- The order is sent below the minimum notional; the loop sets the quantity to
the minimum quantity over and over. -/
theorem demo_not_venueLegal : ¬ demoRoundDown.VenueLegal ∧ ¬ demoEndless.VenueLegal := by
  constructor
  · rintro ⟨rounds, sized, hsize, hfine⟩
    rw [SizingInput.size_of_not_below (by decide +kernel)] at hsize
    have hsized : sized = .quantity demoRoundDown.riskQuantity := by
      rw [if_neg (by decide +kernel)] at hsize
      exact (Option.some.inj hsize).symm
    have hnotional := (hfine _ hsized).notional
    exact absurd hnotional (by decide +kernel)
  · rintro ⟨rounds, sized, hsize, -⟩
    have hbelow : demoEndless.belowMinimum demoEndless.riskQuantity = true := by decide +kernel
    have hnever (n : ℕ) : demoEndless.raise n demoEndless.rounded = none := by
      have hfirst : demoEndless.belowMinimum demoEndless.rounded = true := by decide +kernel
      have hstuck : ∀ m, demoEndless.raise m (demoEndless.raised demoEndless.rounded) = none :=
        SizingInput.raise_stuck (by decide +kernel) (by decide +kernel)
      cases n with
      | zero => simp [SizingInput.raise, hfirst]
      | succ n => rw [SizingInput.raise, if_pos hfirst, hstuck]
    simp [SizingInput.size, hbelow, hnever] at hsize

end CryptoTrader
