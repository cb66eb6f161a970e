import CryptoTrader.Lib.Attributes
import CryptoTrader.Lib.PyValue

/-!
# Tunable objects

An object whose parameters are overridden by name, each new value cast to the type of
the one it replaces.  A value that cannot be cast is stored as it is, and an overflow
ends the whole call.  A `Rail` says which parameters there are and what their
constructor lets through.
-/

namespace CryptoTrader.Lib

/-! ## Casts -/

/-- `float` and `int` of a text, `str` of what is no text, `list` and `dict`; nothing
where they raise. -/
structure Casts where
  float : String → Option PyFloat
  int : String → Option ℤ
  str : PyValue → String
  list : PyValue → Option PyValue
  dict : PyValue → Option PyValue

/-- What comes of a cast: `refused` is a `TypeError` or a `ValueError`. -/
inductive Cast where
  | value (v : PyValue)
  | refused
  | overflow

def Cast.ofOption (v? : Option PyValue) : Cast := v?.elim .refused .value

namespace Casts

variable (py : Casts)

def toFloat : PyValue → Cast
  | .int n => if |n| < PyValue.floatOverflow then .value (.float (.fin n)) else .overflow
  | v => .ofOption ((v.toFloat py.float).map .float)

def toInt : PyValue → Cast
  | .float .posInf | .float .negInf => .overflow
  | v => .ofOption ((v.toInt py.int).map .int)

def toStr : PyValue → PyValue
  | .str s => .str s
  | .surrogates points => .surrogates points
  | v => .str (py.str v)

/-- `type(existing)(val)`. -/
def cast (existing val : PyValue) : Cast :=
  match existing with
  | .none => .value val
  | .bool _ => .value (.bool val.truthy)
  | .int _ => py.toInt val
  | .float _ => py.toFloat val
  | .str _ | .surrogates _ => .value (py.toStr val)
  | .list _ => .ofOption (py.list val)
  | .dict _ => .ofOption (py.dict val)

/-- `typed_val`; nothing where the cast overflows. -/
def typedVal (existing val : PyValue) : Option PyValue :=
  match py.cast existing val with
  | .value v => some v
  | .refused => some val
  | .overflow => none

end Casts

/-! ## Parameters -/

namespace PyValue

def isBool : PyValue → Bool
  | .bool _ => true
  | _ => false

def isList : PyValue → Bool
  | .list _ => true
  | _ => false

/-- A finite number. -/
def number : PyValue → Option ℚ
  | .int n => some n
  | .float (.fin q) => some q
  | _ => Option.none

/-- A number of things. -/
def count : PyValue → Option ℕ
  | .int (.ofNat n) => some n
  | _ => Option.none

/-- The text of a string; one that cannot be encoded is like no text that is known. -/
def asText : PyValue → Option String
  | .str s => some s
  | .surrogates _ => some ""
  | _ => Option.none

def asBool : PyValue → Option Bool
  | .bool b => some b
  | _ => Option.none

/-- The texts among the items of what can be iterated, if there are items and all of
them can be keys. -/
def names : PyValue → Option (List String)
  | .list xs =>
      if !xs.isEmpty && xs.all hashable then
        some (xs.filterMap (fun x => match x with
          | .str s => some s
          | _ => Option.none))
      else Option.none
  | .str s => if s = "" then Option.none else some (s.toList.map (fun c => String.ofList [c]))
  | .dict fields => if fields.isEmpty then Option.none else some (fields.map Prod.fst)
  | .surrogates points => if points.isEmpty then Option.none else some []
  | _ => Option.none

/-- The value says no: it is false, or a text for it. -/
def saysFalse : PyValue → Bool
  | .str s => s.toLower ∈ ["", "false", "0", "no", "off"]
  | v => !v.truthy

end PyValue

/-- The type of a parameter, and the least value its constructor lets through. -/
inductive ParamKind where
  | count (least : ℕ)
  | number (least : Option ℚ)
  | flag
  | text
  | names

/-- A value the constructor can leave. -/
def ParamKind.fits : ParamKind → PyValue → Bool
  | .count least, v => v.count.any (least ≤ ·)
  | .number least, v => v.number.any (fun q => least.all (· ≤ q))
  | .flag, v => v.asBool.isSome
  | .text, v => v.asText.isSome
  | .names, v => v.names.isSome

/-- How a class takes overrides: the head of their keys, its parameters, and whether
lists are stored without a cast. -/
structure Rail where
  head : String
  params : List (String × ParamKind)
  keepsLists : Bool := false

/-- An object.  It is disturbed once an attribute other than its parameters has been
replaced; `flags` are the values given for flags, each with the one that was stored. -/
structure Tuned where
  attrs : Attributes String PyValue
  disturbed : Bool := false
  flags : List (PyValue × PyValue) := []

namespace Rail

variable (rail : Rail)

/-- The attribute that a key names. -/
def attr? (key : String) : Option String :=
  if rail.head.toList.isPrefixOf key.toList then
    some (String.ofList (key.toList.drop rail.head.length))
  else none

/-- Every parameter is as the constructor can leave it. -/
def bounded (o : Tuned) : Bool := rail.params.all (fun p => (o.attrs p.1).any p.2.fits)

section Overrides

variable (py : Casts) (others : String → Bool)

/-- What is stored in place of a value. -/
def stored (existing val : PyValue) : Option PyValue :=
  if rail.keepsLists && existing.isList then some val else py.typedVal existing val

/-- An override, `others` being the attributes besides the parameters; nothing where it
raises. -/
def applyOverride (o : Tuned) (item : String × PyValue) : Option Tuned :=
  match rail.attr? item.1 with
  | none => some o
  | some attr =>
      match o.attrs attr with
      | none => some { o with disturbed := o.disturbed || others attr }
      | some existing =>
          (rail.stored py existing item.2).map (fun v =>
            { o with
              attrs := o.attrs.assign attr v
              flags := if existing.isBool then o.flags ++ [(item.2, v)] else o.flags })

/-- `apply_overrides`. -/
def applyOverrides (o : Tuned) : List (String × PyValue) → Tuned
  | [] => o
  | item :: rest =>
      match rail.applyOverride py others o item with
      | none => o
      | some o' => applyOverrides o' rest

/-! ## What overrides leave alone -/

/-- An override that is not meant for the object, or names a parameter and has a value
that is within the parameter's bounds once it is cast; and for a flag, a value that is
not cast to its opposite. -/
def Tame (o : Tuned) (item : String × PyValue) : Prop :=
  ∀ attr, rail.attr? item.1 = some attr →
    match o.attrs attr with
    | none => others attr = false
    | some existing => ∀ v, rail.stored py existing item.2 = some v →
        (∀ p ∈ rail.params, p.1 = attr → p.2.fits v) ∧
          (existing.isBool → item.2.saysFalse → v.truthy = false)

/-- Every override of a call is, when its turn comes. -/
def TameAll (o : Tuned) : List (String × PyValue) → Prop
  | [] => True
  | item :: rest => rail.Tame py others o item ∧
      ∀ o', rail.applyOverride py others o item = some o' → TameAll o' rest

/-- The parameters are within bounds, nothing else was replaced, and no flag says yes
where it was told no. -/
structure Sound (o : Tuned) : Prop where
  bounded : rail.bounded o = true
  undisturbed : o.disturbed = false
  honest : ∀ flag ∈ o.flags, flag.1.saysFalse → flag.2.truthy = false

variable {rail py others} {o o' : Tuned}

theorem bounded_iff : rail.bounded o = true ↔
    ∀ p ∈ rail.params, ∃ v, o.attrs p.1 = some v ∧ p.2.fits v = true := by
  simp [bounded, List.all_eq_true, Option.any_eq_true]

theorem Sound.applyOverride (h : rail.Sound o) {item : String × PyValue}
    (htame : rail.Tame py others o item) (hnext : rail.applyOverride py others o item = some o') :
    rail.Sound o' := by
  unfold Rail.applyOverride at hnext
  cases hattr : rail.attr? item.1 with
  | none =>
      rw [hattr, Option.some.injEq] at hnext
      exact hnext ▸ h
  | some attr =>
      have hfine := htame attr hattr
      simp only [hattr] at hnext
      cases hexisting : o.attrs attr with
      | none =>
          simp only [hexisting] at hfine
          simp only [hexisting, Option.some.injEq] at hnext
          rw [← hnext]
          exact ⟨h.bounded, by simp [h.undisturbed, hfine], h.honest⟩
      | some existing =>
          simp only [hexisting] at hfine
          simp only [hexisting] at hnext
          obtain ⟨v, hstored, rfl⟩ := Option.map_eq_some_iff.mp hnext
          obtain ⟨hfits, hflag⟩ := hfine v hstored
          refine ⟨bounded_iff.mpr (fun p hp => ?_), h.undisturbed, ?_⟩
          · by_cases hsame : p.1 = attr
            · exact ⟨v, by simp [hsame, hexisting], hfits p hp hsame⟩
            · obtain ⟨w, hw, hw'⟩ := bounded_iff.mp h.bounded p hp
              exact ⟨w, by simpa [hsame] using hw, hw'⟩
          · intro flag hmem hsays
            by_cases hbool : existing.isBool = true
            · simp only [hbool, if_true, List.mem_append, List.mem_singleton] at hmem
              rcases hmem with hold | rfl
              · exact h.honest flag hold hsays
              · exact hflag hbool hsays
            · simp only [hbool, Bool.false_eq_true, if_false] at hmem
              exact h.honest flag hmem hsays

theorem Sound.applyOverrides {items : List (String × PyValue)} (h : rail.Sound o)
    (htame : rail.TameAll py others o items) : rail.Sound (rail.applyOverrides py others o items) := by
  induction items generalizing o with
  | nil => exact h
  | cons item rest ih =>
      unfold Rail.applyOverrides
      cases hnext : rail.applyOverride py others o item with
      | none => exact h
      | some o' => exact ih (h.applyOverride htame.1 hnext) (htame.2 o' hnext)

end Overrides

end Rail

/-! ## Reading parameters -/

namespace Tuned

variable (o : Tuned) (name : String)

def count : ℕ := ((o.attrs name).bind PyValue.count).getD 0

def number : ℚ := ((o.attrs name).bind PyValue.number).getD 0

def flag : Bool := ((o.attrs name).bind PyValue.asBool).getD false

def text : String := ((o.attrs name).bind PyValue.asText).getD ""

def names : List String := ((o.attrs name).bind PyValue.names).getD []

variable {o name} {rail : Rail}

/-- A count within bounds is at least the least. -/
theorem le_count (h : rail.bounded o = true) {least : ℕ} (hp : (name, .count least) ∈ rail.params) :
    least ≤ o.count name := by
  obtain ⟨v, hv, hfits⟩ := Rail.bounded_iff.mp h _ hp
  obtain ⟨n, hn, hle⟩ := (Option.any_eq_true _ _).mp hfits
  simpa [count, hv, hn] using hle

theorem le_number (h : rail.bounded o = true) {least : ℚ}
    (hp : (name, .number (some least)) ∈ rail.params) : least ≤ o.number name := by
  obtain ⟨v, hv, hfits⟩ := Rail.bounded_iff.mp h _ hp
  obtain ⟨q, hq, hle⟩ := (Option.any_eq_true _ _).mp hfits
  simpa [number, hv, hq] using hle

end Tuned

end CryptoTrader.Lib
