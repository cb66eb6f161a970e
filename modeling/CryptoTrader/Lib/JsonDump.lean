import CryptoTrader.Lib.Json
import Mathlib.Data.List.Infix
import Mathlib.Data.List.TakeWhile
import Mathlib.Data.String.Basic
import Mathlib.Tactic.IntervalCases

/-!
# The JSON encoder

`json.dumps` of a dict of scalars, with its defaults: ASCII only, `", "` between the
fields and `": "` after a name, `NaN` and the infinities as words, and `str` of an object
that is no JSON value.
-/

namespace CryptoTrader.Lib.Json

/-! ## Strings -/

/-- A string by its code points, lone surrogates among them. -/
structure Points where
  points : List ℕ
  valid : ∀ p ∈ points, p < 0x110000

/-- The code points of some characters. -/
def Points.ofString (s : String) : Points where
  points := s.toList.map Char.toNat
  valid := by
    intro p hp
    obtain ⟨c, _, rfl⟩ := List.mem_map.mp hp
    have hvalid := c.valid
    simp only [UInt32.isValidChar, Nat.isValidChar] at hvalid
    show c.val.toNat < 0x110000
    omega

def hexUnitText (unit : ℕ) : List Char :=
  [Nat.digitChar (unit / 4096 % 16), Nat.digitChar (unit / 256 % 16),
    Nat.digitChar (unit / 16 % 16), Nat.digitChar (unit % 16)]

/-- The escape of a code unit. -/
def unitText (unit : ℕ) : List Char := '\\' :: 'u' :: hexUnitText unit

/-- A code point between quotes. -/
def pointText (p : ℕ) : List Char :=
  if p = 0x22 then ['\\', '"']
  else if p = 0x5c then ['\\', '\\']
  else if p = 0x08 then ['\\', 'b']
  else if p = 0x0c then ['\\', 'f']
  else if p = 0x0a then ['\\', 'n']
  else if p = 0x0d then ['\\', 'r']
  else if p = 0x09 then ['\\', 't']
  else if 0x20 ≤ p ∧ p ≤ 0x7e then [Char.ofNat p]
  else if p < 0x10000 then unitText p
  else unitText (0xd800 + (p - 0x10000) / 0x400) ++ unitText (0xdc00 + (p - 0x10000) % 0x400)

/-- A code point is written as a short escape, as itself, or as one or two units. -/
theorem pointText_cases (p : ℕ) :
    (∃ c ∈ ['"', '\\', 'b', 'f', 'n', 'r', 't'],
      (escape c).map Char.toNat = some p ∧ pointText p = ['\\', c]) ∨
    ((0x20 ≤ p ∧ p ≤ 0x7e) ∧ (p ≠ 0x22 ∧ p ≠ 0x5c) ∧ pointText p = [Char.ofNat p]) ∨
    (p < 0x10000 ∧ pointText p = unitText p) ∨
    (0x10000 ≤ p ∧ pointText p =
      unitText (0xd800 + (p - 0x10000) / 0x400) ++ unitText (0xdc00 + (p - 0x10000) % 0x400)) := by
  unfold pointText
  by_cases hquote : p = 0x22
  · exact Or.inl ⟨'"', by decide, by rw [hquote]; rfl, if_pos hquote⟩
  rw [if_neg hquote]
  by_cases hslash : p = 0x5c
  · exact Or.inl ⟨'\\', by decide, by rw [hslash]; rfl, if_pos hslash⟩
  rw [if_neg hslash]
  by_cases h8 : p = 0x08
  · exact Or.inl ⟨'b', by decide, by rw [h8]; rfl, if_pos h8⟩
  rw [if_neg h8]
  by_cases h12 : p = 0x0c
  · exact Or.inl ⟨'f', by decide, by rw [h12]; rfl, if_pos h12⟩
  rw [if_neg h12]
  by_cases h10 : p = 0x0a
  · exact Or.inl ⟨'n', by decide, by rw [h10]; rfl, if_pos h10⟩
  rw [if_neg h10]
  by_cases h13 : p = 0x0d
  · exact Or.inl ⟨'r', by decide, by rw [h13]; rfl, if_pos h13⟩
  rw [if_neg h13]
  by_cases h9 : p = 0x09
  · exact Or.inl ⟨'t', by decide, by rw [h9]; rfl, if_pos h9⟩
  rw [if_neg h9]
  by_cases hplain : 0x20 ≤ p ∧ p ≤ 0x7e
  · exact Or.inr (Or.inl ⟨hplain, ⟨hquote, hslash⟩, if_pos hplain⟩)
  rw [if_neg hplain]
  by_cases hbasic : p < 0x10000
  · exact Or.inr (Or.inr (Or.inl ⟨hbasic, if_pos hbasic⟩))
  exact Or.inr (Or.inr (Or.inr ⟨not_lt.mp hbasic, if_neg hbasic⟩))

def pointsText (points : List ℕ) : List Char := points.flatMap pointText

/-- A string in its quotes. -/
def quoted (points : List ℕ) : List Char := '"' :: (pointsText points ++ ['"'])

def isHigh (p : ℕ) : Bool := 0xd800 ≤ p && p ≤ 0xdbff

def isLow (p : ℕ) : Bool := 0xdc00 ≤ p && p ≤ 0xdfff

/-- What the decoder makes of the code points: a high surrogate and the low one that
follows it become one. -/
def joinPoints : List ℕ → List ℕ
  | a :: b :: rest =>
      if isHigh a ∧ isLow b then (0x10000 + (a - 0xd800) * 0x400 + (b - 0xdc00)) :: joinPoints rest
      else a :: joinPoints (b :: rest)
  | points => points

/-- No high surrogate stands before a low one. -/
def Unpaired (points : List ℕ) : Prop :=
  points.IsChain (fun a b => ¬ (isHigh a ∧ isLow b))

instance (points : List ℕ) : Decidable (Unpaired points) :=
  inferInstanceAs (Decidable (points.IsChain _))

theorem joinPoints_of_unpaired {points : List ℕ} (h : Unpaired points) :
    joinPoints points = points := by
  induction points with
  | nil => rfl
  | cons a rest ih =>
      cases rest with
      | nil => rfl
      | cons b rest =>
          obtain ⟨hab, hrest⟩ := List.isChain_cons_cons.mp h
          rw [joinPoints, if_neg hab, ih hrest]

theorem toNat_ofNat {p : ℕ} (hp : p < 0xd800) : (Char.ofNat p).toNat = p := by
  rw [Char.ofNat, dif_pos (Or.inl hp)]
  rfl

/-- A character is no surrogate. -/
theorem isSurrogate_toNat (c : Char) : isSurrogate c.toNat = false := by
  have hvalid := c.valid
  simp only [UInt32.isValidChar, Nat.isValidChar] at hvalid
  have hval : c.toNat = c.val.toNat := rfl
  simp only [isSurrogate, Bool.and_eq_false_iff, decide_eq_false_iff_not, hval]
  omega

theorem unpaired_ofString (s : String) : Unpaired (Points.ofString s).points := by
  show List.IsChain _ (s.toList.map Char.toNat)
  generalize s.toList = cs
  induction cs with
  | nil => exact List.IsChain.nil
  | cons c cs ih =>
      cases cs with
      | nil => exact List.IsChain.singleton _
      | cons d cs =>
          refine List.isChain_cons_cons.mpr ⟨fun h => ?_, ih⟩
          have hc := isSurrogate_toNat c
          simp only [isHigh, isSurrogate, Bool.and_eq_true, decide_eq_true_eq,
            Bool.and_eq_false_iff, decide_eq_false_iff_not] at h hc
          omega

theorem textValue_ofString (s : String) : textValue (Points.ofString s).points = .str s := by
  have hany : (Points.ofString s).points.any isSurrogate = false := by
    simp [Points.ofString, isSurrogate_toNat]
  have hchars : (Points.ofString s).points.map Char.ofNat = s.toList := by
    simp [Points.ofString, Function.comp_def]
  rw [textValue, if_neg (by simp [hany]), hchars, String.ofList_toList]

theorem fieldName_ofString (s : String) : fieldName (Points.ofString s).points = s := by
  simp [fieldName, Points.ofString, Function.comp_def, isSurrogate_toNat]

/-! ### Reading a string back -/

theorem hexDigit_digitChar {k : ℕ} (hk : k < 16) : hexDigit (Nat.digitChar k) = some k := by
  revert k
  decide

theorem hexUnit_hexUnitText {unit : ℕ} (hunit : unit < 0x10000) (rest : List Char) :
    hexUnit (hexUnitText unit ++ rest) = some (unit, rest) := by
  have hdigit : ∀ n, hexDigit (Nat.digitChar (n % 16)) = some (n % 16) :=
    fun n => hexDigit_digitChar (Nat.mod_lt n (by decide))
  simp only [hexUnitText, List.cons_append, List.nil_append, hexUnit, hdigit, Option.bind_eq_bind,
    Option.bind_some, Option.some.injEq, Prod.mk.injEq, and_true]
  omega

/-- The text does not go on with the escape of a low surrogate. -/
def NoLow (text : List Char) : Prop :=
  ∀ more low rest, text = '\\' :: 'u' :: more → hexUnit more = some (low, rest) →
    ¬ (0xdc00 ≤ low ∧ low ≤ 0xdfff)

theorem joinSurrogates_of_noLow {unit : ℕ} {text : List Char} (h : NoLow text) :
    joinSurrogates unit text = (unit, text) := by
  unfold joinSurrogates
  split
  · split
    · next more =>
        split
        · next low rest hlow => rw [if_neg (h more low rest rfl hlow)]
        · rfl
    · rfl
  · rfl

theorem joinSurrogates_of_not_high {unit : ℕ} (h : isHigh unit = false) (text : List Char) :
    joinSurrogates unit text = (unit, text) := by
  refine if_neg (fun hhigh => ?_)
  simp [isHigh, hhigh] at h

theorem joinSurrogates_unitText {high low : ℕ} (hhigh : isHigh high) (hlow : isLow low)
    (rest : List Char) :
    joinSurrogates high (unitText low ++ rest) =
      (0x10000 + (high - 0xd800) * 0x400 + (low - 0xdc00), rest) := by
  simp only [isHigh, isLow, Bool.and_eq_true, decide_eq_true_eq] at hhigh hlow
  have hunit : hexUnit (hexUnitText low ++ rest) = some (low, rest) :=
    hexUnit_hexUnitText (by omega) rest
  simp only [joinSurrogates, unitText, List.cons_append, hunit, if_pos hhigh, if_pos hlow]

theorem stringBody_plain {c : Char} (hquote : c ≠ '"') (hslash : c ≠ '\\')
    (hcontrol : 0x20 ≤ c.toNat) (fuel : ℕ) (rest : List Char) :
    stringBody (fuel + 1) (c :: rest) =
      (stringBody fuel rest).map (fun read => (c.toNat :: read.1, read.2)) := by
  have hplain : ¬ (c = '\\' ∨ c.toNat < 0x20) := by
    rintro (h | h)
    · exact hslash h
    · omega
  rw [stringBody, if_neg hplain]
  · cases stringBody fuel rest <;> rfl
  · exact hquote
  · exact fun rest h _ => hslash h
  · exact fun c' rest h _ => hslash h

theorem stringBody_escape {c : Char} (hc : c ≠ 'u') (fuel : ℕ) (rest : List Char) :
    stringBody (fuel + 1) ('\\' :: c :: rest) =
      (escape c).bind
        (fun d => (stringBody fuel rest).map (fun read => (d.toNat :: read.1, read.2))) := by
  rw [stringBody]
  · cases escape c <;> cases stringBody fuel rest <;> rfl
  · exact hc

theorem stringBody_unitText {unit : ℕ} (hunit : unit < 0x10000) (fuel : ℕ) (rest : List Char) :
    stringBody (fuel + 1) (unitText unit ++ rest) =
      (stringBody fuel (joinSurrogates unit rest).2).map
        (fun read => ((joinSurrogates unit rest).1 :: read.1, read.2)) := by
  rw [unitText, List.cons_append, List.cons_append, stringBody, hexUnit_hexUnitText hunit]
  simp only [Option.bind_eq_bind, Option.bind_some]
  cases stringBody fuel (joinSurrogates unit rest).2 <;> rfl

/-- One code point is read back, if it is not joined with what follows. -/
theorem stringBody_pointText {p : ℕ} (hp : p < 0x110000) {rest : List Char}
    (hrest : isHigh p → NoLow rest) (fuel : ℕ) :
    stringBody (fuel + 1) (pointText p ++ rest) =
      (stringBody fuel rest).map (fun read => (p :: read.1, read.2)) := by
  rcases pointText_cases p with ⟨c, hc, hescape, htext⟩ | ⟨hrange, ⟨hquote, hslash⟩, htext⟩ |
    ⟨hbasic, htext⟩ | ⟨hwide, htext⟩
  · have hunit : c ≠ 'u' := by
      rintro rfl
      exact absurd hc (by decide)
    obtain ⟨d, hd, rfl⟩ := Option.map_eq_some_iff.mp hescape
    rw [htext, List.cons_append, List.singleton_append, stringBody_escape hunit, hd]
    rfl
  · have htoNat : (Char.ofNat p).toNat = p := toNat_ofNat (by omega)
    have hne : ∀ c : Char, p ≠ c.toNat → Char.ofNat p ≠ c := by
      rintro c hc rfl
      exact hc htoNat.symm
    rw [htext, List.singleton_append, stringBody_plain (hne _ hquote) (hne _ hslash) (by omega),
      htoNat]
  · rw [htext, stringBody_unitText hbasic]
    cases hhigh : isHigh p with
    | true => rw [joinSurrogates_of_noLow (hrest hhigh)]
    | false => rw [joinSurrogates_of_not_high hhigh]
  · -- beyond the first 65536: two units, which the decoder joins
    have hhigh : isHigh (0xd800 + (p - 0x10000) / 0x400) := by
      simp only [isHigh, Bool.and_eq_true, decide_eq_true_eq]
      omega
    have hlow : isLow (0xdc00 + (p - 0x10000) % 0x400) := by
      simp only [isLow, Bool.and_eq_true, decide_eq_true_eq]
      omega
    have hpoint : 0x10000 + (0xd800 + (p - 0x10000) / 0x400 - 0xd800) * 0x400 +
        (0xdc00 + (p - 0x10000) % 0x400 - 0xdc00) = p := by omega
    rw [htext, List.append_assoc, stringBody_unitText (by omega),
      joinSurrogates_unitText hhigh hlow, hpoint]

theorem noLow_quote (rest : List Char) : NoLow ('"' :: rest) := by
  intro more low rest' h
  cases h

theorem noLow_unitText {unit : ℕ} (hunit : unit < 0x10000) (hlow : isLow unit = false)
    (rest : List Char) : NoLow (unitText unit ++ rest) := by
  intro more low rest' h hunit' hrange
  simp only [unitText, List.cons_append, List.cons.injEq, true_and] at h
  rw [← h, hexUnit_hexUnitText hunit, Option.some.injEq, Prod.mk.injEq] at hunit'
  rw [← hunit'.1] at hrange
  simp [isLow, hrange] at hlow

theorem noLow_pointText {p : ℕ} (hp : p < 0x110000) (hlow : isLow p = false) (rest : List Char) :
    NoLow (pointText p ++ rest) := by
  rcases pointText_cases p with ⟨c, hc, -, htext⟩ | ⟨hrange, ⟨-, hslash⟩, htext⟩ |
    ⟨hbasic, htext⟩ | ⟨hwide, htext⟩
  · rw [htext]
    intro more low rest' heq
    rw [(List.cons.inj (List.cons.inj heq).2).1] at hc
    exact absurd hc (by decide)
  · rw [htext]
    intro more low rest' heq
    refine absurd ?_ hslash
    rw [← toNat_ofNat (p := p) (by omega), (List.cons.inj heq).1]
    rfl
  · rw [htext]
    exact noLow_unitText hbasic hlow rest
  · rw [htext, List.append_assoc]
    refine noLow_unitText (by omega) ?_ _
    simp only [isLow, Bool.and_eq_false_iff, decide_eq_false_iff_not]
    omega

theorem length_le_pointsText (points : List ℕ) : points.length ≤ (pointsText points).length := by
  induction points with
  | nil => exact Nat.zero_le _
  | cons p points ih =>
      have hpos : 0 < (pointText p).length := by
        rcases pointText_cases p with ⟨c, _, _, htext⟩ | ⟨_, _, htext⟩ | ⟨_, htext⟩ | ⟨_, htext⟩
        · simp [htext]
        · simp [htext]
        · simp [htext, unitText]
        · simp [htext, unitText]
      rw [pointsText, List.flatMap_cons, ← pointsText, List.length_cons, List.length_append]
      omega

/-- The text of a string is read back, with its surrogates joined. -/
theorem stringBody_pointsText (points : List ℕ) (hvalid : ∀ p ∈ points, p < 0x110000)
    (rest : List Char) : ∀ fuel, points.length < fuel →
      stringBody fuel (pointsText points ++ '"' :: rest) = some (joinPoints points, rest) := by
  induction points using joinPoints.induct with
  | case1 a b points hpair ih =>
      intro fuel hfuel
      obtain ⟨fuel, rfl⟩ : ∃ n, fuel = n + 1 := ⟨fuel - 1, by omega⟩
      have hvalid' : ∀ p ∈ points, p < 0x110000 := fun p hp => hvalid p (by simp [hp])
      obtain ⟨hhigh, hlow⟩ := hpair
      have htext : ∀ p, isHigh p ∨ isLow p → pointText p = unitText p := by
        intro p hp
        simp only [isHigh, isLow, Bool.and_eq_true, decide_eq_true_eq] at hp
        unfold pointText
        repeat rw [if_neg (by omega)]
        rw [if_pos (by omega)]
      have hunit : a < 0x10000 := by
        simp only [isHigh, Bool.and_eq_true, decide_eq_true_eq] at hhigh
        omega
      simp only [pointsText, List.flatMap_cons, htext a (Or.inl hhigh), htext b (Or.inr hlow),
        List.append_assoc]
      rw [stringBody_unitText hunit, joinSurrogates_unitText hhigh hlow]
      have hrest := ih hvalid' fuel (by
        simp only [List.length_cons] at hfuel
        omega)
      rw [pointsText] at hrest
      rw [hrest, joinPoints, if_pos ⟨hhigh, hlow⟩]
      rfl
  | case2 a b points hpair ih =>
      intro fuel hfuel
      obtain ⟨fuel, rfl⟩ : ∃ n, fuel = n + 1 := ⟨fuel - 1, by omega⟩
      have hrest := ih (fun p hp => hvalid p (by simp [hp])) fuel (by
        simp only [List.length_cons] at hfuel ⊢
        omega)
      have hnoLow : isHigh a → NoLow (pointsText (b :: points) ++ '"' :: rest) := by
        intro hhigh
        have hlow : isLow b = false := by
          cases h : isLow b with
          | true => exact absurd ⟨hhigh, h⟩ hpair
          | false => rfl
        rw [pointsText, List.flatMap_cons, List.append_assoc]
        exact noLow_pointText (hvalid b (by simp)) hlow _
      rw [pointsText, List.flatMap_cons, List.append_assoc]
      rw [← pointsText, stringBody_pointText (hvalid a (by simp)) hnoLow, hrest, joinPoints,
        if_neg hpair]
      rfl
  | case3 points hshort =>
      intro fuel hfuel
      obtain ⟨fuel, rfl⟩ : ∃ n, fuel = n + 1 := ⟨fuel - 1, by omega⟩
      cases points with
      | nil => rfl
      | cons a points =>
          cases points with
          | cons b points => exact absurd rfl (hshort a b points)
          | nil =>
              obtain ⟨fuel, rfl⟩ : ∃ n, fuel = n + 1 :=
                ⟨fuel - 1, by simp only [List.length_cons] at hfuel; omega⟩
              simp only [pointsText, List.flatMap_cons, List.flatMap_nil, List.append_nil]
              rw [stringBody_pointText (hvalid a (by simp)) (fun _ => noLow_quote rest)]
              rfl

/-! ## Numbers -/

def signText (negative : Bool) : List Char := if negative then ['-'] else []

/-- A finite float as `repr` writes it: with a point, an exponent or both, and with an
exponent from `1e16` on. -/
structure FloatText where
  negative : Bool
  whole : ℕ
  fraction : List (Fin 10)
  exponent : Option ℤ
  short : whole < 10 ^ 16
  marked : fraction ≠ [] ∨ exponent ≠ none

namespace FloatText

def digitText (d : Fin 10) : Char := Nat.digitChar d

def wholeText (x : FloatText) : List Char := Nat.toDigits 10 x.whole

def fractionText (x : FloatText) : List Char :=
  if x.fraction = [] then [] else '.' :: x.fraction.map digitText

/-- The exponent, of two digits at least. -/
def exponentText (x : FloatText) : List Char :=
  match x.exponent with
  | none => []
  | some e =>
      let digits := Nat.toDigits 10 e.natAbs
      'e' :: (if e < 0 then '-' else '+') :: (if e.natAbs < 10 then '0' :: digits else digits)

def text (x : FloatText) : List Char :=
  signText x.negative ++ (x.wholeText ++ (x.fractionText ++ x.exponentText))

def sign (x : FloatText) : ℤ := if x.negative then -1 else 1

/-- The float. -/
def value (x : FloatText) : PyFloat :=
  let mantissa : ℚ := x.sign * digitsValue (x.wholeText ++ x.fraction.map digitText)
  floatOf (mantissa * 10 ^ (x.exponent.getD 0 - (x.fraction.length : ℤ)))

end FloatText

def intText (n : ℤ) : List Char := signText (n < 0) ++ Nat.toDigits 10 n.natAbs

/-- The characters of a number. -/
def isNumberChar (c : Char) : Bool :=
  isDigit c || c = '-' || c = '+' || c = '.' || c = 'e' || c = 'E'

/-- The text does not go on with a character of a number. -/
def NumberEnd (text : List Char) : Prop := ∀ c, text.head? = some c → isNumberChar c = false

/-! ### Digits -/

theorem isDigit_toDigits {n : ℕ} {c : Char} (hc : c ∈ Nat.toDigits 10 n) : isDigit c = true := by
  have hdigit := Nat.isDigit_of_mem_toDigits (by decide) (by decide) hc
  simp only [Char.isDigit, ge_iff_le, Bool.and_eq_true, decide_eq_true_eq] at hdigit
  simp only [isDigit, Bool.and_eq_true, decide_eq_true_eq]
  exact hdigit

theorem isDigit_digitText (d : Fin 10) : isDigit (FloatText.digitText d) = true := by
  revert d
  decide

theorem digitsValue_toDigits (n : ℕ) : digitsValue (Nat.toDigits 10 n) = n := by
  have hvalue := @Nat.ofDigitChars_ten_toDigits n
  rw [Nat.ofDigitChars_eq_foldl] at hvalue
  simp only [mul_comm 10] at hvalue
  exact hvalue

/-- Only zero starts with a zero. -/
theorem head_toDigits {n : ℕ} (hn : n ≠ 0) : ∃ c cs, Nat.toDigits 10 n = c :: cs ∧ c ≠ '0' := by
  induction n using Nat.strong_induction_on with
  | _ n ih =>
      rw [Nat.toDigits_eq_if (by decide)]
      split
      · next hlt =>
          refine ⟨_, [], rfl, ?_⟩
          interval_cases n
          · exact absurd rfl hn
          all_goals decide
      · next hge =>
          obtain ⟨c, cs, htext, hc⟩ := ih (n / 10) (by omega) (by omega)
          exact ⟨c, cs ++ [Nat.digitChar (n % 10)], by rw [htext, List.cons_append], hc⟩

/-- A run of digits ends where they do. -/
theorem span_digits {ds : List Char} (hds : ∀ d ∈ ds, isDigit d = true) {rest : List Char}
    (hrest : ∀ c, rest.head? = some c → isDigit c = false) :
    (ds ++ rest).span isDigit = (ds, rest) := by
  rw [List.span_eq_takeWhile_dropWhile, List.takeWhile_append_of_pos hds,
    List.dropWhile_append_of_pos hds]
  cases rest with
  | nil => simp
  | cons c rest => simp [hrest c rfl]

theorem integerPart_toDigits (n : ℕ) {rest : List Char}
    (hrest : ∀ c, rest.head? = some c → isDigit c = false) :
    integerPart (Nat.toDigits 10 n ++ rest) = some (Nat.toDigits 10 n, rest) := by
  by_cases hn : n = 0
  · subst hn
    rw [Nat.toDigits_zero]
    rfl
  · obtain ⟨c, cs, htext, hc⟩ := head_toDigits hn
    have hspan := span_digits (fun d (hd : d ∈ Nat.toDigits 10 n) => isDigit_toDigits hd) hrest
    rw [htext] at hspan ⊢
    rw [List.cons_append] at hspan ⊢
    rw [integerPart, hspan]
    · exact if_neg (List.cons_ne_nil c cs)
    · exact fun _ h => hc (List.cons.inj h).1

theorem isNumberChar_of_isDigit {c : Char} (h : isDigit c = true) : isNumberChar c = true := by
  simp [isNumberChar, h]

theorem isNumberChar_signText {negative : Bool} {c : Char} (hc : c ∈ signText negative) :
    isNumberChar c = true := by
  cases negative with
  | true =>
      cases List.mem_singleton.mp hc
      decide
  | false => cases hc

theorem isNumberChar_intText {n : ℤ} {c : Char} (hc : c ∈ intText n) : isNumberChar c = true := by
  rcases List.mem_append.mp hc with hc | hc
  · exact isNumberChar_signText hc
  · exact isNumberChar_of_isDigit (isDigit_toDigits hc)

theorem isNumberChar_text {x : FloatText} {c : Char} (hc : c ∈ x.text) : isNumberChar c = true := by
  simp only [FloatText.text, List.mem_append] at hc
  rcases hc with hc | hc | hc | hc
  · exact isNumberChar_signText hc
  · exact isNumberChar_of_isDigit (isDigit_toDigits hc)
  · unfold FloatText.fractionText at hc
    split at hc
    · cases hc
    · rcases List.mem_cons.mp hc with rfl | hc
      · decide
      · obtain ⟨d, _, rfl⟩ := List.mem_map.mp hc
        exact isNumberChar_of_isDigit (isDigit_digitText d)
  · unfold FloatText.exponentText at hc
    split at hc
    · cases hc
    · next e =>
        rcases List.mem_cons.mp hc with rfl | hc
        · decide
        · rcases List.mem_cons.mp hc with rfl | hc
          · split <;> decide
          · split at hc
            · rcases List.mem_cons.mp hc with rfl | hc
              · decide
              · exact isNumberChar_of_isDigit (isDigit_toDigits hc)
            · exact isNumberChar_of_isDigit (isDigit_toDigits hc)

/-! ### Reading a number back -/

theorem not_isDigit_of_numberEnd {rest : List Char} (h : NumberEnd rest) (c : Char)
    (hc : rest.head? = some c) : isDigit c = false := by
  have hnumber := h c hc
  simp only [isNumberChar, Bool.or_eq_false_iff] at hnumber
  exact hnumber.1.1.1.1.1

theorem fractionPart_of_ne {rest : List Char} (h : ∀ c, rest.head? = some c → c ≠ '.') :
    fractionPart rest = ([], rest) := by
  unfold fractionPart
  split
  · next more => exact absurd rfl (h '.' rfl)
  · rfl

theorem exponentPart_of_ne {rest : List Char}
    (h : ∀ c, rest.head? = some c → ¬ (c = 'e' ∨ c = 'E')) : exponentPart rest = (none, rest) := by
  cases rest with
  | nil => rfl
  | cons c rest => exact if_neg (h c rfl)

theorem unsignedNumber_int (sign : ℤ) {n : ℕ} (hn : (Nat.toDigits 10 n).length ≤ maxDigits)
    {rest : List Char} (hrest : NumberEnd rest) :
    unsignedNumber sign (Nat.toDigits 10 n ++ rest) = .ok (.int (sign * n), rest) := by
  have hnumber : ∀ c, rest.head? = some c → c ≠ '.' ∧ ¬ (c = 'e' ∨ c = 'E') := by
    intro c hc
    have hend := hrest c hc
    simp only [isNumberChar, Bool.or_eq_false_iff, decide_eq_false_iff_not] at hend
    tauto
  rw [unsignedNumber, integerPart_toDigits n (not_isDigit_of_numberEnd hrest)]
  simp only [fractionPart_of_ne (fun c hc => (hnumber c hc).1),
    exponentPart_of_ne (fun c hc => (hnumber c hc).2), and_self, if_true, digitsValue_toDigits]
  rw [if_neg (not_lt.mpr hn)]

/-- A digit before the rest of a number. -/
theorem isDigit_ne {c d : Char} (hd : isDigit d = false) (hc : isDigit c = true) : c ≠ d := by
  rintro rfl
  rw [hd] at hc
  cases hc

/-- The sign is read before the digits. -/
theorem numberAt_signText (negative : Bool) (n : ℕ) (rest : List Char) :
    numberAt (signText negative ++ (Nat.toDigits 10 n ++ rest)) =
      unsignedNumber (if negative then -1 else 1) (Nat.toDigits 10 n ++ rest) := by
  cases negative with
  | true => rfl
  | false =>
      obtain ⟨c, cs, htext⟩ := List.exists_cons_of_ne_nil (@Nat.toDigits_ne_nil n 10)
      have hdigit : isDigit c = true := isDigit_toDigits (by rw [htext]; exact List.mem_cons_self)
      have hminus : isDigit '-' = false := by decide
      rw [signText, if_neg (by decide), List.nil_append, htext, List.cons_append, numberAt]
      · rfl
      · exact fun _ h => isDigit_ne hminus hdigit (List.cons.inj h).1

theorem numberAt_intText {n : ℤ} (hn : (Nat.toDigits 10 n.natAbs).length ≤ maxDigits)
    {rest : List Char} (hrest : NumberEnd rest) :
    numberAt (intText n ++ rest) = .ok (.int n, rest) := by
  have hsign : (if decide (n < 0) = true then -1 else 1) * (n.natAbs : ℤ) = n := by
    by_cases hneg : n < 0
    · simp only [hneg, decide_true, if_true]
      omega
    · simp only [hneg, decide_false, Bool.false_eq_true, if_false]
      omega
  rw [intText, List.append_assoc, numberAt_signText, unsignedNumber_int _ hn hrest, hsign]

theorem fractionPart_fractionText (x : FloatText) {rest : List Char}
    (hdigit : ∀ c, rest.head? = some c → isDigit c = false)
    (hpoint : ∀ c, rest.head? = some c → c ≠ '.') :
    fractionPart (x.fractionText ++ rest) = (x.fraction.map FloatText.digitText, rest) := by
  unfold FloatText.fractionText
  split
  · next hnil =>
      rw [hnil, List.nil_append]
      exact fractionPart_of_ne hpoint
  · next hfraction =>
      have hdigits : ∀ d ∈ x.fraction.map FloatText.digitText, isDigit d = true := by
        intro d hd
        obtain ⟨d, _, rfl⟩ := List.mem_map.mp hd
        exact isDigit_digitText d
      rw [List.cons_append, fractionPart, span_digits hdigits hdigit]
      exact if_neg (by simpa using hfraction)

/-- What is read of the exponent. -/
theorem exponentPart_exponentText (x : FloatText) {rest : List Char} (hrest : NumberEnd rest) :
    exponentPart (x.exponentText ++ rest) = (x.exponent, rest) := by
  unfold FloatText.exponentText
  cases hexponent : x.exponent with
  | none =>
      refine exponentPart_of_ne (fun c hc => ?_)
      have hend := hrest c hc
      simp only [isNumberChar, Bool.or_eq_false_iff, decide_eq_false_iff_not] at hend
      tauto
  | some e =>
      -- at least two digits
      let digits := if e.natAbs < 10 then '0' :: Nat.toDigits 10 e.natAbs else Nat.toDigits 10 e.natAbs
      have hdigits : ∀ d ∈ digits, isDigit d = true := by
        intro d hd
        simp only [digits] at hd
        split at hd
        · rcases List.mem_cons.mp hd with rfl | hd
          · decide
          · exact isDigit_toDigits hd
        · exact isDigit_toDigits hd
      have hvalue : digitsValue digits = e.natAbs := by
        simp only [digits]
        split
        · exact digitsValue_toDigits e.natAbs
        · exact digitsValue_toDigits e.natAbs
      have hne : digits ≠ [] := by
        simp only [digits]
        split <;> simp
      have hspan := span_digits hdigits (not_isDigit_of_numberEnd hrest)
      show exponentPart ('e' :: (if e < 0 then '-' else '+') :: (digits ++ rest)) = _
      by_cases hneg : e < 0
      · have hsign : -1 * (e.natAbs : ℤ) = e := by omega
        simp only [exponentPart, hneg, if_true, hspan, hvalue, hne, if_false, hsign, true_or]
      · have hsign : 1 * (e.natAbs : ℤ) = e := by omega
        simp only [exponentPart, hneg, if_true, hspan, hvalue, hne, if_false, hsign, true_or]

/-- After the digits of the whole part comes no digit. -/
theorem head_fractionText (x : FloatText) {rest : List Char} (hrest : NumberEnd rest) (c : Char)
    (hc : (x.fractionText ++ (x.exponentText ++ rest)).head? = some c) : isDigit c = false := by
  unfold FloatText.fractionText at hc
  split at hc
  · unfold FloatText.exponentText at hc
    cases hexponent : x.exponent with
    | none =>
        rw [hexponent] at hc
        exact not_isDigit_of_numberEnd hrest c hc
    | some e =>
        rw [hexponent] at hc
        cases hc
        decide
  · cases hc
    decide

/-- After the fraction comes an `e` or the end. -/
theorem head_exponentText (x : FloatText) {rest : List Char} (hrest : NumberEnd rest) (c : Char)
    (hc : (x.exponentText ++ rest).head? = some c) : isDigit c = false ∧ c ≠ '.' := by
  unfold FloatText.exponentText at hc
  cases hexponent : x.exponent with
  | none =>
      rw [hexponent] at hc
      have hend := hrest c hc
      simp only [isNumberChar, Bool.or_eq_false_iff, decide_eq_false_iff_not] at hend
      tauto
  | some e =>
      rw [hexponent] at hc
      cases hc
      decide

theorem unsignedNumber_float (x : FloatText) {rest : List Char} (hrest : NumberEnd rest) :
    unsignedNumber x.sign (x.wholeText ++ (x.fractionText ++ (x.exponentText ++ rest))) =
      .ok (.float x.value, rest) := by
  have hmarked : ¬ (x.fraction.map FloatText.digitText = [] ∧ x.exponent = none) := by
    rintro ⟨hfraction, hexponent⟩
    exact x.marked.elim (fun h => h (List.map_eq_nil_iff.mp hfraction)) (fun h => h hexponent)
  rw [unsignedNumber, FloatText.wholeText, integerPart_toDigits x.whole (head_fractionText x hrest)]
  simp only [fractionPart_fractionText x (fun c hc => (head_exponentText x hrest c hc).1)
    (fun c hc => (head_exponentText x hrest c hc).2), exponentPart_exponentText x hrest,
    if_neg hmarked, List.length_map]
  rfl

theorem numberAt_text (x : FloatText) {rest : List Char} (hrest : NumberEnd rest) :
    numberAt (x.text ++ rest) = .ok (.float x.value, rest) := by
  have hread := unsignedNumber_float x hrest
  rw [FloatText.text, List.append_assoc, List.append_assoc, List.append_assoc, FloatText.wholeText,
    numberAt_signText]
  exact hread

/-! ## Scalars -/

/-- A value that holds no others: one JSON knows, or an object of which `str` gives the
text. -/
inductive Scalar where
  | none
  | bool (b : Bool)
  | int (n : ℤ)
  | float (x : FloatText)
  | nan
  | inf (negative : Bool)
  | str (s : Points)
  | object (text : Points)

namespace Scalar

def text : Scalar → List Char
  | .none => "null".toList
  | .bool b => if b then "true".toList else "false".toList
  | .int n => intText n
  | .float x => x.text
  | .nan => "NaN".toList
  | .inf negative => if negative then "-Infinity".toList else "Infinity".toList
  | .str s => quoted s.points
  | .object text => quoted text.points

/-- Whether it can be written: `repr` of an integer of too many digits raises. -/
def Writable : Scalar → Prop
  | .int n => (Nat.toDigits 10 n.natAbs).length ≤ maxDigits
  | _ => True

instance : DecidablePred Writable
  | .int n => inferInstanceAs (Decidable ((Nat.toDigits 10 n.natAbs).length ≤ maxDigits))
  | .none | .bool _ | .float _ | .nan | .inf _ | .str _ | .object _ => isTrue trivial

/-- What is read back. -/
def read : Scalar → PyValue
  | .none => .none
  | .bool b => .bool b
  | .int n => .int n
  | .float x => .float x.value
  | .nan => .float .nan
  | .inf negative => .float (if negative then .negInf else .posInf)
  | .str s => textValue (joinPoints s.points)
  | .object text => textValue (joinPoints text.points)

/-- `==` with a value out of a JSON text. -/
def Equals : Scalar → PyValue → Prop
  | .none, v => v = .none
  | .bool b, v => v = .bool b
  | .int n, v => v = .int n
  | .float x, v => v = .float x.value
  | .nan, _ => False
  | .inf negative, v => v = .float (if negative then .negInf else .posInf)
  | .str s, v => v = textValue s.points
  | .object _, _ => False

/-- JSON has an equal for the value. -/
def Kept : Scalar → Prop
  | .nan | .object _ => False
  | .str s => Unpaired s.points
  | _ => True

instance : DecidablePred Kept
  | .nan | .object _ => isFalse id
  | .str s => inferInstanceAs (Decidable (Unpaired s.points))
  | .none | .bool _ | .int _ | .float _ | .inf _ => isTrue trivial

theorem equals_read {s : Scalar} (h : s.Kept) : s.Equals s.read := by
  cases s with
  | nan => exact h.elim
  | object text => exact h.elim
  | str s =>
      show textValue (joinPoints s.points) = textValue s.points
      rw [joinPoints_of_unpaired h]
  | none => rfl
  | bool b => rfl
  | int n => rfl
  | float x => rfl
  | inf negative => rfl

end Scalar

/-! ### Reading a scalar back -/

/-- A word or a number. -/
def plainValue (text : List Char) : Except Failure (PyValue × List Char) :=
  match wordAt text with
  | some parsed => .ok parsed
  | none => numberAt text

theorem plainValue_of_word {text : List Char} {parsed : PyValue × List Char}
    (h : wordAt text = some parsed) : plainValue text = .ok parsed := by
  simp only [plainValue, h]

theorem plainValue_of_not_word {text : List Char} (h : wordAt text = none) :
    plainValue text = numberAt text := by
  simp only [plainValue, h]

theorem value_plain {text : List Char} {c : Char} (hquote : c ≠ '"') (hlist : c ≠ '[')
    (hdict : c ≠ '\x7b') (fuel depth : ℕ) :
    value (fuel + 1) depth (c :: text) = plainValue (c :: text) := by
  rw [value]
  · cases hword : wordAt (c :: text) with
    | some parsed => rw [plainValue_of_word hword]
    | none => rw [plainValue_of_not_word hword]
  · exact fun _ h => hquote (List.cons.inj h).1
  · exact fun _ _ h => hlist (List.cons.inj h).1
  · exact fun _ _ _ h => hlist (List.cons.inj h).1
  · exact fun _ _ h => hdict (List.cons.inj h).1
  · exact fun _ _ _ h => hdict (List.cons.inj h).1

theorem wordAt_number {c : Char} {text : List Char} (hc : isNumberChar c = true)
    (hminus : c = '-' → ∀ d, text.head? = some d → isNumberChar d = true) :
    wordAt (c :: text) = none := by
  have hne : ∀ d, isNumberChar d = false → c ≠ d := by
    rintro d hd rfl
    rw [hd] at hc
    cases hc
  have hfind : words.find? (fun word => word.1.toList.isPrefixOf (c :: text)) = none := by
    rw [List.find?_eq_none]
    intro word hword hprefix
    have hhead : ∀ {first : Char} {more : List Char}, isNumberChar first = false →
        word.1.toList = first :: more → False := by
      intro first more hfirst htext
      rw [htext, List.isPrefixOf_iff_prefix] at hprefix
      exact hne first hfirst (List.cons_prefix_cons.mp hprefix).1.symm
    simp only [words, List.mem_cons, List.not_mem_nil, or_false] at hword
    rcases hword with rfl | rfl | rfl | rfl | rfl | rfl
    · exact hhead (by decide) rfl
    · exact hhead (by decide) rfl
    · exact hhead (by decide) rfl
    · exact hhead (by decide) rfl
    · exact hhead (by decide) rfl
    · have hinfinity : "-Infinity".toList = '-' :: 'I' :: "nfinity".toList := rfl
      rw [hinfinity, List.isPrefixOf_iff_prefix] at hprefix
      obtain ⟨hsign, hrest⟩ := List.cons_prefix_cons.mp hprefix
      obtain ⟨more, hmore⟩ := hrest
      have hletter := hminus hsign.symm 'I' (by rw [← hmore]; rfl)
      exact absurd hletter (by decide)
  rw [wordAt, hfind]
  rfl

theorem value_number {text : List Char} (htext : ∀ c ∈ text, isNumberChar c = true)
    (hne : text ≠ []) (rest : List Char) (hsign : text = ['-'] → rest = []) (fuel depth : ℕ) :
    value (fuel + 1) depth (text ++ rest) = numberAt (text ++ rest) := by
  obtain ⟨c, cs, rfl⟩ := List.exists_cons_of_ne_nil hne
  have hc := htext c List.mem_cons_self
  have hplain : ∀ d, isNumberChar d = false → c ≠ d := by
    rintro d hd rfl
    rw [hd] at hc
    cases hc
  have hword : wordAt (c :: (cs ++ rest)) = none := by
    refine wordAt_number hc ?_
    rintro rfl d hd
    cases cs with
    | nil =>
        rw [hsign rfl] at hd
        cases hd
    | cons e cs =>
        cases hd
        exact htext d (by simp)
  rw [List.cons_append, value_plain (hplain _ (by decide)) (hplain _ (by decide))
    (hplain _ (by decide)), plainValue_of_not_word hword]

/-- A text with digits is no mere sign. -/
theorem ne_minus {text : List Char} {n : ℕ} (h : ∀ c ∈ Nat.toDigits 10 n, c ∈ text) :
    text ≠ ['-'] := by
  rintro rfl
  obtain ⟨c, cs, htext⟩ := List.exists_cons_of_ne_nil (@Nat.toDigits_ne_nil n 10)
  have hc : c ∈ Nat.toDigits 10 n := by rw [htext]; exact List.mem_cons_self
  have hminus : isDigit '-' = false := by decide
  exact isDigit_ne hminus (isDigit_toDigits hc) (List.mem_singleton.mp (h c hc))

/-- What is written is read back. -/
theorem value_text {s : Scalar} (hs : s.Writable) {rest : List Char} (hrest : NumberEnd rest)
    {fuel : ℕ} (hfuel : s.text.length < fuel) (depth : ℕ) :
    value fuel depth (s.text ++ rest) = .ok (s.read, rest) := by
  obtain ⟨fuel, rfl⟩ : ∃ n, fuel = n + 1 := ⟨fuel - 1, by omega⟩
  have hquoted : ∀ s : Points, (quoted s.points).length < fuel + 1 →
      value (fuel + 1) depth (quoted s.points ++ rest) =
        .ok (textValue (joinPoints s.points), rest) := by
    intro s hfuel
    have hlength := length_le_pointsText s.points
    simp only [quoted, List.length_cons, List.length_append, List.length_nil] at hfuel
    have hbody := stringBody_pointsText s.points s.valid rest fuel (by omega)
    rw [quoted, List.cons_append, List.append_assoc, value, List.singleton_append, hbody]
  cases s with
  | none => exact value_plain (by decide) (by decide) (by decide) fuel depth
  | bool b =>
      cases b with
      | true => exact value_plain (by decide) (by decide) (by decide) fuel depth
      | false => exact value_plain (by decide) (by decide) (by decide) fuel depth
  | int n =>
      rw [Scalar.text, value_number (fun c hc => isNumberChar_intText hc)]
      · exact numberAt_intText hs hrest
      · simp [intText]
      · exact fun h => absurd h (ne_minus (fun c hc => List.mem_append_right _ hc))
  | float x =>
      rw [Scalar.text, value_number (fun c hc => isNumberChar_text hc)]
      · exact numberAt_text x hrest
      · simp [FloatText.text, FloatText.wholeText]
      · exact fun h => absurd h
          (ne_minus (fun c hc => List.mem_append_right _ (List.mem_append_left _ hc)))
  | nan => exact value_plain (by decide) (by decide) (by decide) fuel depth
  | inf negative =>
      cases negative with
      | true => exact value_plain (by decide) (by decide) (by decide) fuel depth
      | false => exact value_plain (by decide) (by decide) (by decide) fuel depth
  | str s => exact hquoted s hfuel
  | object text => exact hquoted text hfuel

/-! ## Dicts -/

/-- A field. -/
def itemText (field : String × Scalar) : List Char :=
  quoted (Points.ofString field.1).points ++ (':' :: ' ' :: field.2.text)

/-- The fields to the closing brace. -/
def fieldsText : List (String × Scalar) → List Char
  | [] => ['\x7d']
  | [field] => itemText field ++ ['\x7d']
  | field :: next :: rest => itemText field ++ (',' :: ' ' :: fieldsText (next :: rest))

def objectText (fields : List (String × Scalar)) : List Char := '\x7b' :: fieldsText fields

/-- `json.dumps(d, default=str)`; nothing where it raises. -/
def dumps (fields : List (String × Scalar)) : Option (List Char) :=
  if ∀ field ∈ fields, field.2.Writable then some (objectText fields) else none

example : dumps [("n", .int (-5)), ("s", .str (Points.ofString "a\"\n€"))] =
    some "\x7b\"n\": -5, \"s\": \"a\\\"\\n\\u20ac\"\x7d".toList := by decide

/-! ### Characters -/

/-- A printable ASCII character. -/
def isPrintable (c : Char) : Bool := 0x20 ≤ c.toNat && c.toNat ≤ 0x7e

theorem isPrintable_digitChar (n : ℕ) : isPrintable (Nat.digitChar (n % 16)) = true := by
  have hall : ∀ k < 16, isPrintable (Nat.digitChar k) = true := by decide
  exact hall (n % 16) (Nat.mod_lt n (by decide))

theorem isPrintable_unitText {unit : ℕ} {c : Char} (hc : c ∈ unitText unit) :
    isPrintable c = true := by
  simp only [unitText, hexUnitText, List.mem_cons, List.not_mem_nil, or_false] at hc
  rcases hc with rfl | rfl | rfl | rfl | rfl | rfl
  · decide
  · decide
  all_goals exact isPrintable_digitChar _

theorem isPrintable_pointText {p : ℕ} {c : Char} (hc : c ∈ pointText p) : isPrintable c = true := by
  rcases pointText_cases p with ⟨d, hd, -, htext⟩ | ⟨hrange, -, htext⟩ | ⟨-, htext⟩ | ⟨-, htext⟩
  · have hall : ['"', '\\', 'b', 'f', 'n', 'r', 't'].all isPrintable = true := by decide
    rw [htext] at hc
    rcases List.mem_cons.mp hc with rfl | hc
    · decide
    · rw [List.mem_singleton.mp hc]
      exact List.all_eq_true.mp hall d hd
  · rw [htext] at hc
    rw [List.mem_singleton.mp hc, isPrintable, toNat_ofNat (by omega)]
    simpa using hrange
  · rw [htext] at hc
    exact isPrintable_unitText hc
  · rw [htext] at hc
    exact (List.mem_append.mp hc).elim isPrintable_unitText isPrintable_unitText

theorem isPrintable_quoted {points : List ℕ} {c : Char} (hc : c ∈ quoted points) :
    isPrintable c = true := by
  simp only [quoted, pointsText, List.mem_cons, List.mem_append, List.mem_flatMap,
    List.not_mem_nil, or_false] at hc
  rcases hc with rfl | ⟨p, _, hc⟩ | rfl
  · decide
  · exact isPrintable_pointText hc
  · decide

theorem isPrintable_of_isNumberChar {c : Char} (hc : isNumberChar c = true) :
    isPrintable c = true := by
  simp only [isNumberChar, isDigit, Bool.or_eq_true, Bool.and_eq_true, decide_eq_true_eq] at hc
  rcases hc with ((((⟨hlow, hhigh⟩ | rfl) | rfl) | rfl) | rfl) | rfl
  · have hlow' : 48 ≤ c.toNat := hlow
    have hhigh' : c.toNat ≤ 57 := hhigh
    simp only [isPrintable, Bool.and_eq_true, decide_eq_true_eq]
    omega
  all_goals decide

theorem isPrintable_text {s : Scalar} {c : Char} (hc : c ∈ s.text) : isPrintable c = true := by
  have hall : words.all (fun word => word.1.toList.all isPrintable) = true := by decide
  have hwords : ∀ word ∈ words, ∀ c ∈ word.1.toList, isPrintable c = true :=
    fun word hword => List.all_eq_true.mp (List.all_eq_true.mp hall word hword)
  cases s with
  | none => exact hwords ("null", .none) (by simp [words]) c hc
  | bool b =>
      cases b with
      | true => exact hwords ("true", .bool true) (by simp [words]) c hc
      | false => exact hwords ("false", .bool false) (by simp [words]) c hc
  | int n => exact isPrintable_of_isNumberChar (isNumberChar_intText hc)
  | float x => exact isPrintable_of_isNumberChar (isNumberChar_text hc)
  | nan => exact hwords ("NaN", .float .nan) (by simp [words]) c hc
  | inf negative =>
      cases negative with
      | true => exact hwords ("-Infinity", .float .negInf) (by simp [words]) c hc
      | false => exact hwords ("Infinity", .float .posInf) (by simp [words]) c hc
  | str s => exact isPrintable_quoted hc
  | object text => exact isPrintable_quoted hc

theorem isPrintable_itemText {field : String × Scalar} {c : Char} (hc : c ∈ itemText field) :
    isPrintable c = true := by
  simp only [itemText, List.mem_append, List.mem_cons] at hc
  rcases hc with hc | rfl | rfl | hc
  · exact isPrintable_quoted hc
  · decide
  · decide
  · exact isPrintable_text hc

/-- The text of a dict is ASCII, on one line. -/
theorem isPrintable_objectText {fields : List (String × Scalar)} {c : Char}
    (hc : c ∈ objectText fields) : isPrintable c = true := by
  have hfields : ∀ fields : List (String × Scalar), c ∈ fieldsText fields → isPrintable c = true := by
    intro fields
    induction fields using fieldsText.induct with
    | case1 =>
        intro hc
        cases List.mem_singleton.mp hc
        decide
    | case2 field =>
        intro hc
        rcases List.mem_append.mp hc with hc | hc
        · exact isPrintable_itemText hc
        · cases List.mem_singleton.mp hc
          decide
    | case3 field next fields ih =>
        intro hc
        simp only [fieldsText, List.mem_append, List.mem_cons] at hc
        rcases hc with hc | rfl | rfl | hc
        · exact isPrintable_itemText hc
        · decide
        · decide
        · exact ih hc
  rcases List.mem_cons.mp hc with rfl | hc
  · decide
  · exact hfields fields hc

/-- The text of a dict starts with one brace and ends with the other. -/
theorem objectText_eq (fields : List (String × Scalar)) :
    ∃ body, objectText fields = '\x7b' :: (body ++ ['\x7d']) := by
  have hfields : ∃ body, fieldsText fields = body ++ ['\x7d'] := by
    induction fields using fieldsText.induct with
    | case1 => exact ⟨[], rfl⟩
    | case2 field => exact ⟨itemText field, rfl⟩
    | case3 field next fields ih =>
        obtain ⟨body, hbody⟩ := ih
        exact ⟨itemText field ++ (',' :: ' ' :: body), by simp [fieldsText, hbody]⟩
  obtain ⟨body, hbody⟩ := hfields
  exact ⟨body, by rw [objectText, hbody]⟩

/-! ### Reading a dict back -/

theorem skipSpace_of_head {text : List Char}
    (h : ∀ c, text.head? = some c → isSpace c = false) : skipSpace text = text := by
  cases text with
  | nil => rfl
  | cons c text => exact List.dropWhile_cons_of_neg (by rw [h c rfl]; decide)

theorem isSpace_of_isNumberChar {c : Char} (h : isNumberChar c = true) : isSpace c = false := by
  cases hspace : isSpace c with
  | false => rfl
  | true =>
      simp only [isSpace, Bool.or_eq_true, decide_eq_true_eq] at hspace
      rcases hspace with ((rfl | rfl) | rfl) | rfl <;> exact absurd h (by decide)

theorem text_cons (s : Scalar) : ∃ c cs, s.text = c :: cs ∧ isSpace c = false := by
  have hnumber : ∀ {text : List Char}, text ≠ [] → (∀ c ∈ text, isNumberChar c = true) →
      ∃ c cs, text = c :: cs ∧ isSpace c = false := by
    intro text hne hall
    obtain ⟨c, cs, rfl⟩ := List.exists_cons_of_ne_nil hne
    exact ⟨c, cs, rfl, isSpace_of_isNumberChar (hall c List.mem_cons_self)⟩
  cases s with
  | none => exact ⟨'n', "ull".toList, rfl, by decide⟩
  | bool b =>
      cases b with
      | true => exact ⟨'t', "rue".toList, rfl, by decide⟩
      | false => exact ⟨'f', "alse".toList, rfl, by decide⟩
  | int n => exact hnumber (by simp [Scalar.text, intText]) (fun c hc => isNumberChar_intText hc)
  | float x =>
      refine hnumber ?_ (fun c hc => isNumberChar_text hc)
      simp [Scalar.text, FloatText.text, FloatText.wholeText]
  | nan => exact ⟨'N', "aN".toList, rfl, by decide⟩
  | inf negative =>
      cases negative with
      | true => exact ⟨'-', "Infinity".toList, rfl, by decide⟩
      | false => exact ⟨'I', "nfinity".toList, rfl, by decide⟩
  | str s => exact ⟨'"', _, rfl, by decide⟩
  | object text => exact ⟨'"', _, rfl, by decide⟩

theorem skipSpace_text (s : Scalar) (rest : List Char) :
    skipSpace (' ' :: (s.text ++ rest)) = s.text ++ rest := by
  obtain ⟨c, cs, htext, hspace⟩ := text_cons s
  have hskip : skipSpace (' ' :: (s.text ++ rest)) = skipSpace (s.text ++ rest) := rfl
  rw [hskip]
  refine skipSpace_of_head (fun d hd => ?_)
  rw [htext] at hd
  cases hd
  exact hspace

/-- What the decoder does after a field. -/
def afterField (fuel depth : ℕ) (done : List (String × PyValue)) :
    List Char → Except Failure (PyValue × List Char)
  | ',' :: rest => members fuel depth done (skipSpace rest)
  | '\x7d' :: rest => .ok (.dict done, rest)
  | _ => .error .decode

/-- One field is read, and the decoder stands after it. -/
theorem members_itemText {field : String × Scalar} (hfield : field.2.Writable) {rest : List Char}
    (hrest : NumberEnd rest) {fuel : ℕ} (hfuel : (itemText field).length ≤ fuel) (depth : ℕ)
    (done : List (String × PyValue)) :
    members (fuel + 1) depth done (itemText field ++ rest) =
      afterField fuel depth (setField done field.1 field.2.read) (skipSpace rest) := by
  have hlength := length_le_pointsText (Points.ofString field.1).points
  simp only [itemText, quoted, List.length_append, List.length_cons, List.length_nil] at hfuel
  have hname := stringBody_pointsText (Points.ofString field.1).points (Points.ofString field.1).valid
    (':' :: ' ' :: (field.2.text ++ rest)) fuel (by omega)
  rw [joinPoints_of_unpaired (unpaired_ofString field.1)] at hname
  have hcolon : ∀ text, skipSpace (':' :: text) = ':' :: text := fun _ => rfl
  have hvalue := value_text hfield hrest (show field.2.text.length < fuel by omega) depth
  simp only [itemText, quoted, List.cons_append, List.append_assoc, List.nil_append, members, hname,
    hcolon, skipSpace_text, hvalue, fieldName_ofString]
  rfl

/-- The dict with the fields that are read. -/
def addFields (done : List (String × PyValue)) (fields : List (String × Scalar)) :
    List (String × PyValue) :=
  fields.foldl (fun done field => setField done field.1 field.2.read) done

theorem members_fieldsText {fields : List (String × Scalar)} (hne : fields ≠ [])
    (hfields : ∀ field ∈ fields, field.2.Writable) (rest : List Char) (depth : ℕ) :
    ∀ fuel done, (fieldsText fields).length < fuel →
      members fuel depth done (fieldsText fields ++ rest) =
        .ok (.dict (addFields done fields), rest) := by
  induction fields using fieldsText.induct with
  | case1 => exact absurd rfl hne
  | case2 field =>
      intro fuel done hfuel
      obtain ⟨fuel, rfl⟩ : ∃ n, fuel = n + 1 := ⟨fuel - 1, by omega⟩
      simp only [fieldsText, List.length_append, List.length_singleton] at hfuel
      have hend : NumberEnd ('\x7d' :: rest) := by
        intro c hc
        cases hc
        decide
      rw [fieldsText, List.append_assoc, List.singleton_append,
        members_itemText (hfields field (by simp)) hend (by omega)]
      rfl
  | case3 field next fields ih =>
      intro fuel done hfuel
      obtain ⟨fuel, rfl⟩ : ∃ n, fuel = n + 1 := ⟨fuel - 1, by omega⟩
      simp only [fieldsText, List.length_append, List.length_cons] at hfuel
      have hend : NumberEnd (',' :: ' ' :: (fieldsText (next :: fields) ++ rest)) := by
        intro c hc
        cases hc
        decide
      have hskip : skipSpace (' ' :: (fieldsText (next :: fields) ++ rest)) =
          fieldsText (next :: fields) ++ rest := by
        cases fields <;> rfl
      have hrest := ih (by simp) (fun f hf => hfields f (List.mem_cons_of_mem field hf)) fuel
        (setField done field.1 field.2.read) (by omega)
      rw [fieldsText, List.append_assoc, List.cons_append, List.cons_append,
        members_itemText (hfields field (by simp)) hend (by omega)]
      show members fuel depth _ (skipSpace (' ' :: (fieldsText (next :: fields) ++ rest))) = _
      rw [hskip, hrest]
      rfl

theorem addFields_eq {fields : List (String × Scalar)} (hnodup : (fields.map Prod.fst).Nodup) :
    ∀ {done : List (String × PyValue)}, (∀ field ∈ fields, ∀ old ∈ done, old.1 ≠ field.1) →
      addFields done fields = done ++ fields.map (fun field => (field.1, field.2.read)) := by
  induction fields with
  | nil => exact fun _ => (List.append_nil _).symm
  | cons field fields ih =>
      intro done hnew
      obtain ⟨hfirst, hnodup⟩ := List.nodup_cons.mp hnodup
      have hset : setField done field.1 field.2.read = done ++ [(field.1, field.2.read)] := by
        refine if_neg (fun hany => ?_)
        obtain ⟨old, hold, heq⟩ := List.any_eq_true.mp hany
        exact hnew field List.mem_cons_self old hold (by simpa using heq)
      show addFields (setField done field.1 field.2.read) fields = _
      rw [hset, ih hnodup, List.append_assoc]
      · rfl
      · intro other hother old hold
        rcases List.mem_append.mp hold with hold | hold
        · exact hnew other (List.mem_cons_of_mem field hother) old hold
        · rw [List.mem_singleton.mp hold]
          intro heq
          refine hfirst ?_
          rw [show field.1 = other.1 from heq]
          exact List.mem_map_of_mem hother

/-- What `json.dumps` wrote `json.loads` reads, if the names are distinct. -/
theorem loads_objectText {fields : List (String × Scalar)} (hne : fields ≠ [])
    (hfields : ∀ field ∈ fields, field.2.Writable) (hnodup : (fields.map Prod.fst).Nodup)
    (depth : ℕ) :
    loads (depth + 1) (objectText fields) =
      .ok (.dict (fields.map (fun field => (field.1, field.2.read)))) := by
  have hbrace : skipSpace (objectText fields) = '\x7b' :: fieldsText fields := rfl
  obtain ⟨cs, hquote⟩ : ∃ cs, fieldsText fields = '"' :: cs := by
    cases fields with
    | nil => exact absurd rfl hne
    | cons field fields => cases fields <;> exact ⟨_, rfl⟩
  have hskip : skipSpace (fieldsText fields) = fieldsText fields := by
    rw [hquote]
    rfl
  have hread := members_fieldsText hne hfields [] depth (2 * (objectText fields).length) [] (by
    simp only [objectText, List.length_cons]
    omega)
  rw [List.append_nil, addFields_eq hnodup (by simp)] at hread
  have hvalue : value (2 * (objectText fields).length + 1) (depth + 1) ('\x7b' :: fieldsText fields) =
      members (2 * (objectText fields).length) depth [] (fieldsText fields) := by
    rw [value, hskip, hquote]
    rfl
  rw [loads, hbrace, hvalue, hread]
  rfl

end CryptoTrader.Lib.Json
