import CryptoTrader.Wallet.Types
import Mathlib.Data.Rat.Floor
import Mathlib.Algebra.Order.Floor.Ring
import Mathlib.Tactic.Linarith

/-!
# Instrument constraints

`InstrumentSpec` of `exchanges/instrument_mapper.py`: the steps prices and
quantities are rounded to before they are sent, and the pre-flight check of
an order.  Rounding is `ROUND_DOWN`, towards zero.
-/

namespace CryptoTrader

/-- `InstrumentSpec`, less the pair name, the fees and the status. -/
structure InstrumentSpec where
  priceIncrement : Decimal
  quantityIncrement : Decimal
  minQuantity : Decimal
  minNotional : Decimal
  maxLeverage : Leverage
  deriving DecidableEq, Repr

/-- `Decimal.to_integral_value(rounding=ROUND_DOWN)`. -/
def toIntegralDown (value : Decimal) : Int := if 0 ≤ value then ⌊value⌋ else ⌈value⌉

/-- `_round_to_increment`. -/
def roundToIncrement (value increment : Decimal) : Decimal :=
  if increment ≤ 0 then value else (toIntegralDown (value / increment) : Decimal) * increment

/-- `InstrumentSpec.round_price`. -/
def InstrumentSpec.roundPrice (spec : InstrumentSpec) (price : Decimal) : Decimal :=
  roundToIncrement price spec.priceIncrement

/-- `InstrumentSpec.round_qty`. -/
def InstrumentSpec.roundQty (spec : InstrumentSpec) (qty : Decimal) : Decimal :=
  roundToIncrement qty spec.quantityIncrement

/-- `InstrumentSpec.validate_order`; numbers are printed as fractions. -/
def InstrumentSpec.validateOrder (spec : InstrumentSpec) (qty price : Decimal) : Option String :=
  if qty < spec.minQuantity then
    some s!"quantity {qty} below min_quantity {spec.minQuantity}"
  else if qty * price < spec.minNotional then
    some s!"notional {qty * price} below min_notional {spec.minNotional}"
  else none

/-! ## Rounding -/

section Rounding

variable (value increment : Decimal)

@[simp] theorem toIntegralDown_intCast (n : Int) : toIntegralDown n = n := by
  unfold toIntegralDown
  split
  · exact Int.floor_intCast n
  · exact Int.ceil_intCast n

/-- Truncation moves towards zero. -/
theorem abs_toIntegralDown_le : |(toIntegralDown value : Decimal)| ≤ |value| := by
  unfold toIntegralDown
  by_cases h : 0 ≤ value
  · rw [if_pos h]
    have hfloor : (0 : Decimal) ≤ (⌊value⌋ : Decimal) := by
      exact_mod_cast Int.floor_nonneg.mpr h
    rw [abs_of_nonneg hfloor, abs_of_nonneg h]
    exact Int.floor_le value
  · rw [if_neg h]
    have hneg : value ≤ 0 := le_of_lt (not_le.mp h)
    have hceil : (⌈value⌉ : Decimal) ≤ 0 := by
      exact_mod_cast Int.ceil_le.mpr (by simpa using hneg)
    rw [abs_of_nonpos hceil, abs_of_nonpos hneg]
    linarith [Int.le_ceil value]

/-- A quantity is never rounded up. -/
theorem abs_roundToIncrement_le : |roundToIncrement value increment| ≤ |value| := by
  unfold roundToIncrement
  by_cases h : increment ≤ 0
  · rw [if_pos h]
  · rw [if_neg h, abs_mul]
    have hpos : 0 < increment := not_le.mp h
    have htrunc := abs_toIntegralDown_le (value / increment)
    have habs : |value / increment| * |increment| = |value| := by
      rw [abs_div, div_mul_cancel₀ _ (abs_ne_zero.mpr hpos.ne')]
    calc |(toIntegralDown (value / increment) : Decimal)| * |increment|
        ≤ |value / increment| * |increment| :=
          mul_le_mul_of_nonneg_right htrunc (abs_nonneg increment)
      _ = |value| := habs

/-- Rounding keeps the sign. -/
theorem roundToIncrement_nonneg (h : 0 ≤ value) : 0 ≤ roundToIncrement value increment := by
  unfold roundToIncrement
  by_cases hinc : increment ≤ 0
  · rw [if_pos hinc]
    exact h
  · rw [if_neg hinc]
    have hpos : 0 < increment := not_le.mp hinc
    have hdiv : 0 ≤ value / increment := div_nonneg h hpos.le
    have hfloor : 0 ≤ toIntegralDown (value / increment) := by
      rw [toIntegralDown, if_pos hdiv]
      exact Int.floor_nonneg.mpr hdiv
    exact mul_nonneg (by exact_mod_cast hfloor) hpos.le

theorem roundToIncrement_le (h : 0 ≤ value) : roundToIncrement value increment ≤ value := by
  have habs := abs_roundToIncrement_le value increment
  rwa [abs_of_nonneg (roundToIncrement_nonneg value increment h), abs_of_nonneg h] at habs

end Rounding

end CryptoTrader
