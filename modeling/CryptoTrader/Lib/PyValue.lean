import Mathlib.Algebra.Order.Ring.Rat
import Mathlib.Algebra.Order.Group.Unbundled.Abs
import Mathlib.Algebra.Order.Floor.Ring
import Mathlib.Data.Rat.Floor

/-!
# Values out of a JSON text

What `json.loads` makes of a text: `None`, booleans, integers, floats, strings,
lists and dicts with string keys.  A float is an exact number, one of the two
infinities, or `nan`, which compares with nothing; `json.loads` and `float`
produce all of them.  Two floats are equal here when they are the same object
or have the same value, which is what the comparison of two containers tests.
A string is text, or holds a lone surrogate, which no encoding can express.
-/

namespace CryptoTrader.Lib

/-! ## Floats -/

inductive PyFloat where
  | nan
  | negInf
  | fin (q : ℚ)
  | posInf
  deriving DecidableEq

namespace PyFloat

/-- `a < b`. -/
def lt : PyFloat → PyFloat → Bool
  | .fin a, .fin b => a < b
  | .negInf, .fin _ | .negInf, .posInf | .fin _, .posInf => true
  | _, _ => false

/-- `a <= b`. -/
def le : PyFloat → PyFloat → Bool
  | .fin a, .fin b => a ≤ b
  | .negInf, .negInf | .negInf, .fin _ | .negInf, .posInf | .fin _, .posInf
  | .posInf, .posInf => true
  | _, _ => false

/-- `min(a, b)`: the first unless the second is less. -/
def pyMin (a b : PyFloat) : PyFloat := if lt b a then b else a

/-- `max(a, b)`: the first unless the second is greater. -/
def pyMax (a b : PyFloat) : PyFloat := if lt a b then b else a

/-- `abs(a - x)` for a number `a`. -/
def distance (a : ℚ) : PyFloat → PyFloat
  | .fin x => .fin |a - x|
  | .nan => .nan
  | _ => .posInf

/-- `a * x` for a number `a`. -/
def scale (a : ℚ) : PyFloat → PyFloat
  | .fin x => .fin (a * x)
  | .nan => .nan
  | .posInf => if a = 0 then .nan else if 0 < a then .posInf else .negInf
  | .negInf => if a = 0 then .nan else if 0 < a then .negInf else .posInf

/-- `a + b`. -/
def add : PyFloat → PyFloat → PyFloat
  | .fin a, .fin b => .fin (a + b)
  | .nan, _ | _, .nan | .posInf, .negInf | .negInf, .posInf => .nan
  | .posInf, _ | _, .posInf => .posInf
  | .negInf, _ | _, .negInf => .negInf

/-- `a - b`. -/
def sub : PyFloat → PyFloat → PyFloat
  | .fin a, .fin b => .fin (a - b)
  | .nan, _ | _, .nan | .posInf, .posInf | .negInf, .negInf => .nan
  | .posInf, _ | _, .negInf => .posInf
  | .negInf, _ | _, .posInf => .negInf

/-- `bool(x)`; `nan` is true. -/
def truthy (x : PyFloat) : Bool := x ≠ .fin 0

@[simp] theorem lt_fin (a b : ℚ) : lt (.fin a) (.fin b) ↔ a < b := by simp [lt]

@[simp] theorem le_fin (a b : ℚ) : le (.fin a) (.fin b) ↔ a ≤ b := by simp [le]

@[simp] theorem sub_fin (a b : ℚ) : sub (.fin a) (.fin b) = .fin (a - b) := rfl

@[simp] theorem distance_fin (a x : ℚ) : distance a (.fin x) = .fin |a - x| := rfl

@[simp] theorem scale_fin (a x : ℚ) : scale a (.fin x) = .fin (a * x) := rfl

@[simp] theorem pyMin_fin (a b : ℚ) : pyMin (.fin a) (.fin b) = .fin (min a b) := by
  unfold pyMin
  by_cases h : b < a
  · rw [if_pos ((lt_fin b a).mpr h), min_eq_right h.le]
  · rw [if_neg (fun hlt => h ((lt_fin b a).mp hlt)), min_eq_left (not_lt.mp h)]

@[simp] theorem pyMax_fin (a b : ℚ) : pyMax (.fin a) (.fin b) = .fin (max a b) := by
  unfold pyMax
  by_cases h : a < b
  · rw [if_pos ((lt_fin a b).mpr h), max_eq_right h.le]
  · rw [if_neg (fun hlt => h ((lt_fin a b).mp hlt)), max_eq_left (not_lt.mp h)]

/-- Clamping between two numbers gives a number, at least the lower one. -/
theorem pyMax_pyMin_fin (lower upper : ℚ) (x : PyFloat) :
    ∃ q, pyMax (.fin lower) (pyMin (.fin upper) x) = .fin q ∧ lower ≤ q := by
  cases x with
  | fin x => exact ⟨_, by rw [pyMin_fin, pyMax_fin], le_max_left _ _⟩
  | negInf => exact ⟨lower, rfl, le_refl lower⟩
  | nan => exact ⟨_, pyMax_fin lower upper, le_max_left _ _⟩
  | posInf => exact ⟨_, pyMax_fin lower upper, le_max_left _ _⟩

end PyFloat

/-! ## Formatting -/

/-- A nonnegative number with some decimals, halfway cases to even. -/
def fixedDigits (places : ℕ) (q : ℚ) : String :=
  let scaled := q * 10 ^ places
  let floor := ⌊scaled⌋.toNat
  let half := scaled - floor
  let n := if half < 1 / 2 ∨ (half = 1 / 2 ∧ floor % 2 = 0) then floor else floor + 1
  let whole := toString (n / 10 ^ places)
  if places = 0 then whole
  else
    let decimals := toString (n % 10 ^ places)
    whole ++ "." ++ String.ofList (List.replicate (places - decimals.length) '0') ++ decimals

/-- The format `.nf`. -/
def PyFloat.fixed (places : ℕ) : PyFloat → String
  | .nan => "nan"
  | .negInf => "-inf"
  | .posInf => "inf"
  | .fin q => if q < 0 then "-" ++ fixedDigits places (-q) else fixedDigits places q

/-- The format `.n%`. -/
def PyFloat.percent (places : ℕ) (x : PyFloat) : String :=
  (PyFloat.scale 100 x).fixed places ++ "%"

/-! ## Values -/

inductive PyValue where
  | none
  | bool (b : Bool)
  | int (n : ℤ)
  | float (x : PyFloat)
  | str (s : String)
  | surrogates (points : List ℕ)
  | list (xs : List PyValue)
  | dict (fields : List (String × PyValue))

/-- A string. -/
inductive PyStr where
  | text (s : String)
  | surrogates (points : List ℕ)
  deriving DecidableEq

/-- The interpreter, where a result depends on more than is modelled. -/
structure Python where
  /-- `str` of a value that is no string. -/
  str : PyValue → String
  /-- `float` of a string; nothing where it raises. -/
  float : String → Option PyFloat
  /-- How deep containers may nest before `json.loads` raises. -/
  recursionLimit : ℕ

namespace PyValue

/-- `bool(v)`. -/
def truthy : PyValue → Bool
  | .none => false
  | .bool b => b
  | .int n => n ≠ 0
  | .float x => x.truthy
  | .str s => s ≠ ""
  | .surrogates points => !points.isEmpty
  | .list xs => !xs.isEmpty
  | .dict fields => !fields.isEmpty

/-- `type(v).__name__`. -/
def typeName : PyValue → String
  | .none => "NoneType"
  | .bool _ => "bool"
  | .int _ => "int"
  | .float _ => "float"
  | .str _ | .surrogates _ => "str"
  | .list _ => "list"
  | .dict _ => "dict"

/-- Whether the value can be a key. -/
def hashable : PyValue → Bool
  | .list _ | .dict _ => false
  | _ => true

/-- The entry of a dict. -/
def lookup (fields : List (String × PyValue)) (key : String) : Option PyValue :=
  (fields.find? (fun field => field.1 = key)).map Prod.snd

/-- The least magnitude whose conversion to a float overflows. -/
def floatOverflow : ℤ := 2 ^ 1024 - 2 ^ 970

/-- `float(v)`, with `parse` what it makes of a string; nothing where it
raises. -/
def toFloat (parse : String → Option PyFloat) : PyValue → Option PyFloat
  | .bool b => some (.fin (if b then 1 else 0))
  | .int n => if |n| < floatOverflow then some (.fin n) else Option.none
  | .float x => some x
  | .str s => parse s
  | .none | .surrogates _ | .list _ | .dict _ => Option.none

/-- `int(v)`, with `parse` what it makes of a string; nothing where it raises. -/
def toInt (parse : String → Option ℤ) : PyValue → Option ℤ
  | .bool b => some (if b then 1 else 0)
  | .int n => some n
  | .float (.fin q) => some (if 0 ≤ q then ⌊q⌋ else ⌈q⌉)
  | .float _ => Option.none
  | .str s => parse s
  | .none | .surrogates _ | .list _ | .dict _ => Option.none

/-- `str(v)`. -/
def toStr (py : Python) : PyValue → PyStr
  | .str s => .text s
  | .surrogates points => .surrogates points
  | v => .text (py.str v)

/-- `a or b`. -/
def orElse (a b : PyValue) : PyValue := if a.truthy then a else b

/-- `str(v)`, where it can be encoded. -/
def text (py : Python) : PyValue → Option String
  | .str s => some s
  | .surrogates _ => Option.none
  | v => some (py.str v)

end PyValue

end CryptoTrader.Lib
