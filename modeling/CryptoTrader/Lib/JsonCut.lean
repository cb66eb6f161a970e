import CryptoTrader.Lib.JsonDump

/-!
# A JSON text cut short

Of a dict of scalars as the encoder writes it, every proper start is a text the decoder
does not read: it fails as on any text that is no JSON, never for its length or its
depth.
-/

namespace CryptoTrader.Lib.Json

/-! ## Strings -/

/-- What follows the first quote that is not escaped. -/
def closing : List Char → Option (List Char)
  | [] => none
  | '"' :: rest => some rest
  | ['\\'] => none
  | '\\' :: _ :: rest => closing rest
  | _ :: rest => closing rest

theorem closing_plain {c : Char} (hquote : c ≠ '"') (hslash : c ≠ '\\') (rest : List Char) :
    closing (c :: rest) = closing rest := by
  rw [closing]
  · exact hquote
  · exact fun h _ => hslash h
  · exact fun c' rest h _ => hslash h

/-- More text does not move the quote. -/
theorem closing_append {text rest : List Char} (h : closing text = some rest) (more : List Char) :
    closing (text ++ more) = some (rest ++ more) := by
  induction text using closing.induct with
  | case1 => cases h
  | case2 text =>
      cases h
      rfl
  | case3 => cases h
  | case4 c text ih => exact ih h
  | case5 c text hquote hslash hpair ih =>
      have hc : c ≠ '\\' := by
        rintro rfl
        cases text with
        | nil => exact hslash rfl rfl
        | cons d text => exact hpair d text rfl rfl
      rw [closing_plain hquote hc] at h
      rw [List.cons_append, closing_plain hquote hc]
      exact ih h

theorem plain_of_hexDigit {c : Char} {k : ℕ} (h : hexDigit c = some k) : c ≠ '"' ∧ c ≠ '\\' := by
  constructor <;> rintro rfl <;> cases h

theorem closing_of_hexUnit {text rest : List Char} {unit : ℕ}
    (h : hexUnit text = some (unit, rest)) : closing text = closing rest := by
  match text, h with
  | a :: b :: c :: d :: text, h =>
      simp only [hexUnit, Option.bind_eq_bind, Option.bind_eq_some_iff, Option.some.injEq,
        Prod.mk.injEq] at h
      obtain ⟨_, ha, _, hb, _, hc, _, hd, -, rfl⟩ := h
      rw [closing_plain (plain_of_hexDigit ha).1 (plain_of_hexDigit ha).2,
        closing_plain (plain_of_hexDigit hb).1 (plain_of_hexDigit hb).2,
        closing_plain (plain_of_hexDigit hc).1 (plain_of_hexDigit hc).2,
        closing_plain (plain_of_hexDigit hd).1 (plain_of_hexDigit hd).2]

theorem closing_joinSurrogates (unit : ℕ) (text : List Char) :
    closing (joinSurrogates unit text).2 = closing text := by
  unfold joinSurrogates
  split
  · split
    · next more =>
        split
        · next low rest hlow =>
            split
            · exact (closing_of_hexUnit hlow).symm
            · rfl
        · rfl
    · rfl
  · rfl

/-- A string that is read ends at the first quote that is not escaped. -/
theorem closing_of_stringBody {fuel : ℕ} : ∀ {text points rest},
    stringBody fuel text = some (points, rest) → closing text = some rest := by
  induction fuel with
  | zero =>
      intro text points rest h
      cases h
  | succ fuel ih =>
      intro text points rest h
      unfold stringBody at h
      split at h
      · cases h
      · cases h
      · cases h
        rfl
      · next fuel' text heq =>
          cases heq
          simp only [Option.bind_eq_bind, Option.bind_eq_some_iff, Prod.exists, Option.some.injEq,
            Prod.mk.injEq] at h
          obtain ⟨unit, after, hunit, points', rest', hbody, -, rfl⟩ := h
          have hclosing := ih hbody
          rw [closing_joinSurrogates, ← closing_of_hexUnit hunit] at hclosing
          exact hclosing
      · next fuel' c text hc heq =>
          cases heq
          simp only [Option.bind_eq_bind, Option.bind_eq_some_iff, Prod.exists, Option.some.injEq,
            Prod.mk.injEq] at h
          obtain ⟨_, _, points', rest', hbody, -, rfl⟩ := h
          have hclosing := ih hbody
          exact hclosing
      · next fuel' c text hquote hunit hescape heq =>
          cases heq
          split at h
          · cases h
          · next hplain =>
              simp only [Option.bind_eq_bind, Option.bind_eq_some_iff, Prod.exists,
                Option.some.injEq, Prod.mk.injEq] at h
              obtain ⟨points', rest', hbody, -, rfl⟩ := h
              rw [closing_plain hquote (fun h => hplain (Or.inl h))]
              exact ih hbody

theorem stringBody_start {points : List ℕ} (hvalid : ∀ p ∈ points, p < 0x110000)
    {text : List Char} (htext : text <+: pointsText points ++ ['"']) (fuel : ℕ) :
    stringBody fuel text = none ∨ ∃ read, stringBody fuel text = some (read, []) := by
  cases hread : stringBody fuel text with
  | none => exact Or.inl rfl
  | some read =>
      obtain ⟨points', rest⟩ := read
      obtain ⟨more, hmore⟩ := htext
      have hclosing := closing_append (closing_of_stringBody hread) more
      have hwhole := closing_of_stringBody
        (stringBody_pointsText points hvalid [] _ (Nat.lt_succ_self points.length))
      have hnil : [] = rest ++ more := by
        rw [hmore, hwhole] at hclosing
        exact Option.some.inj hclosing
      rw [(List.append_eq_nil_iff.mp hnil.symm).1]
      exact Or.inr ⟨points', rfl⟩

/-! ## Numbers -/

theorem integerPart_eq {text whole rest : List Char} (h : integerPart text = some (whole, rest)) :
    whole ++ rest = text ∧ ∀ d ∈ whole, isDigit d = true := by
  unfold integerPart at h
  split at h
  · cases h
    refine ⟨rfl, fun d hd => ?_⟩
    rw [List.mem_singleton.mp hd]
    decide
  · next hzero =>
      simp only [List.span_eq_takeWhile_dropWhile] at h
      split at h
      · cases h
      · cases h
        exact ⟨List.takeWhile_append_dropWhile, fun d hd => List.mem_takeWhile_imp hd⟩

theorem fractionPart_suffix (text : List Char) : (fractionPart text).2 <:+ text := by
  unfold fractionPart
  split
  · next rest =>
      simp only [List.span_eq_takeWhile_dropWhile]
      split
      · exact List.suffix_rfl
      · exact (List.dropWhile_suffix _).trans (List.suffix_cons '.' rest)
  · exact List.suffix_rfl

theorem exponentPart_suffix (text : List Char) : (exponentPart text).2 <:+ text := by
  cases text with
  | nil => exact List.suffix_rfl
  | cons e rest =>
      -- the same with a sign and without one
      have hafter : ∀ (sign : ℤ) (after : List Char), after <:+ rest →
          (if (after.span isDigit).1 = [] then (none, e :: rest)
            else (some (sign * digitsValue (after.span isDigit).1), (after.span isDigit).2)).2 <:+
              e :: rest := by
        intro sign after hafter
        rw [List.span_eq_takeWhile_dropWhile]
        split
        · exact List.suffix_rfl
        · exact ((List.dropWhile_suffix _).trans hafter).trans (List.suffix_cons e rest)
      simp only [exponentPart]
      split
      · split
        · exact hafter 1 _ (List.suffix_cons _ _)
        · exact hafter (-1) _ (List.suffix_cons _ _)
        · exact hafter 1 _ List.suffix_rfl
      · exact List.suffix_rfl

/-- With few digits at the start, nothing is read or a number that the rest follows. -/
theorem unsignedNumber_suffix (sign : ℤ) {text : List Char}
    (hdigits : (text.takeWhile isDigit).length ≤ maxDigits) :
    unsignedNumber sign text = .error .decode ∨
      ∃ v rest, unsignedNumber sign text = .ok (v, rest) ∧ rest <:+ text := by
  unfold unsignedNumber
  cases hwhole : integerPart text with
  | none => exact Or.inl rfl
  | some parts =>
      obtain ⟨whole, rest⟩ := parts
      obtain ⟨htext, hall⟩ := integerPart_eq hwhole
      have hsuffix : (exponentPart (fractionPart rest).2).2 <:+ text :=
        ((exponentPart_suffix _).trans (fractionPart_suffix rest)).trans ⟨whole, htext⟩
      have hshort : ¬ maxDigits < whole.length := by
        rw [← htext, List.takeWhile_append_of_pos hall, List.length_append] at hdigits
        omega
      right
      simp only [if_neg hshort]
      split
      · exact ⟨_, _, rfl, hsuffix⟩
      · exact ⟨_, _, rfl, hsuffix⟩

theorem numberAt_truncated {negative : Bool} {n : ℕ} {rest text : List Char}
    (hn : (Nat.toDigits 10 n).length ≤ maxDigits)
    (hrest : ∀ c, rest.head? = some c → isDigit c = false)
    (htext : text <+: signText negative ++ (Nat.toDigits 10 n ++ rest)) :
    numberAt text = .error .decode ∨
      ∃ v left, numberAt text = .ok (v, left) ∧ left <:+ text := by
  have hunsigned : ∀ sign, ∀ body, body <+: Nat.toDigits 10 n ++ rest →
      unsignedNumber sign body = .error .decode ∨
        ∃ v left, unsignedNumber sign body = .ok (v, left) ∧ left <:+ body := by
    intro sign body hbody
    refine unsignedNumber_suffix sign (le_trans ?_ hn)
    have hspan := span_digits (fun d (hd : d ∈ Nat.toDigits 10 n) => isDigit_toDigits hd) hrest
    rw [List.span_eq_takeWhile_dropWhile, Prod.mk.injEq] at hspan
    rw [← hspan.1]
    obtain ⟨more, hmore⟩ := hbody
    rw [← hmore, List.takeWhile_append]
    split
    · next hall =>
        rw [hall, List.length_append]
        exact Nat.le_add_right _ _
    · exact le_refl _
  cases negative with
  | true =>
      cases text with
      | nil => exact Or.inl rfl
      | cons c text =>
          obtain ⟨rfl, hbody⟩ := List.cons_prefix_cons.mp htext
          rcases hunsigned (-1) text hbody with h | ⟨v, left, h, hleft⟩
          · exact Or.inl h
          · exact Or.inr ⟨v, left, h, hleft.trans (List.suffix_cons '-' text)⟩
  | false =>
      have hplain : numberAt text = unsignedNumber 1 text := by
        rw [numberAt]
        rintro more rfl
        obtain ⟨c, cs, hdigits⟩ := List.exists_cons_of_ne_nil (@Nat.toDigits_ne_nil n 10)
        have hdigit : isDigit c = true :=
          isDigit_toDigits (by rw [hdigits]; exact List.mem_cons_self)
        have hminus : isDigit '-' = false := by decide
        rw [signText, if_neg (by decide), List.nil_append, hdigits] at htext
        exact isDigit_ne hminus hdigit (List.cons_prefix_cons.mp htext).1.symm
      rw [hplain]
      exact hunsigned 1 text htext

/-! ## Scalars -/

/-- What a text that is no string and no container leaves. -/
def plainLeft (text : List Char) : Except Failure (List Char) := (plainValue text).map Prod.snd

/-- The start of a word is not read, but for the whole word. -/
theorem plainLeft_word : ∀ word ∈ words, ∀ text ∈ word.1.toList.inits,
    plainLeft text = .error .decode ∨ plainLeft text = .ok [] := by
  decide

theorem value_nil (fuel depth : ℕ) : value fuel depth [] = .error .decode := by
  cases fuel with
  | zero => rw [value]
  | succ fuel =>
      rw [value]
      · rfl
      · exact fun _ h => by cases h
      · exact fun _ _ h => by cases h
      · exact fun _ _ _ h => by cases h
      · exact fun _ _ h => by cases h
      · exact fun _ _ _ h => by cases h

/-- Nothing was read, or what is left could go on with the number that was. -/
def Unfinished (result : Except Failure (PyValue × List Char)) : Prop :=
  result = .error .decode ∨
    ∃ v rest, result = .ok (v, rest) ∧ ∀ c ∈ rest, isNumberChar c = true

theorem unfinished_word (word : String × PyValue) (hword : word ∈ words) {text : List Char}
    (htext : text <+: word.1.toList) (fuel depth : ℕ) :
    Unfinished (value (fuel + 1) depth text) := by
  have hleft := plainLeft_word word hword text (List.mem_inits _ _ |>.mpr htext)
  cases text with
  | nil => exact Or.inl (value_nil _ _)
  | cons c text =>
      have hfirst : words.all (fun word => word.1.toList.head?.all
          (fun c => c ≠ '"' ∧ c ≠ '[' ∧ c ≠ '\x7b')) = true := by decide
      have hhead := List.all_eq_true.mp hfirst word hword
      obtain ⟨more, hmore⟩ := htext
      rw [← hmore] at hhead
      have hc : c ≠ '"' ∧ c ≠ '[' ∧ c ≠ '\x7b' := of_decide_eq_true hhead
      rw [value_plain hc.1 hc.2.1 hc.2.2]
      unfold plainLeft at hleft
      cases hvalue : plainValue (c :: text) with
      | error failure =>
          rw [hvalue] at hleft
          rcases hleft with h | h
          · cases h
            exact Or.inl rfl
          · cases h
      | ok read =>
          rw [hvalue] at hleft
          rcases hleft with h | h
          · cases h
          · have hnil : read.2 = [] := by simpa [Except.map] using h
            refine Or.inr ⟨read.1, read.2, rfl, ?_⟩
            rw [hnil]
            exact fun _ h => by cases h

theorem unfinished_number {negative : Bool} {n : ℕ} {rest text : List Char}
    (hn : (Nat.toDigits 10 n).length ≤ maxDigits)
    (hrest : ∀ c, rest.head? = some c → isDigit c = false)
    (hall : ∀ c ∈ signText negative ++ (Nat.toDigits 10 n ++ rest), isNumberChar c = true)
    (htext : text <+: signText negative ++ (Nat.toDigits 10 n ++ rest)) (fuel depth : ℕ) :
    Unfinished (value (fuel + 1) depth text) := by
  have hchars : ∀ c ∈ text, isNumberChar c = true := fun c hc => hall c (htext.subset hc)
  by_cases hnil : text = []
  · subst hnil
    exact Or.inl (value_nil _ _)
  · have hvalue := value_number hchars hnil [] (fun _ => rfl) fuel depth
    rw [List.append_nil] at hvalue
    rw [hvalue]
    rcases numberAt_truncated hn hrest htext with h | ⟨v, left, h, hleft⟩
    · exact Or.inl h
    · exact Or.inr ⟨v, left, h, fun c hc => hchars c (hleft.subset hc)⟩

theorem unfinished_quoted (s : Points) {text : List Char} (htext : text <+: quoted s.points)
    (fuel depth : ℕ) : Unfinished (value (fuel + 1) depth text) := by
  cases text with
  | nil => exact Or.inl (value_nil _ _)
  | cons c text =>
      obtain ⟨rfl, hbody⟩ := List.cons_prefix_cons.mp htext
      rw [value]
      rcases stringBody_start s.valid hbody fuel with hread | ⟨points, hread⟩
      · rw [hread]
        exact Or.inl rfl
      · rw [hread]
        exact Or.inr ⟨_, [], rfl, fun _ h => by cases h⟩

/-- The start of a scalar. -/
theorem unfinished_of_start {s : Scalar} (hs : s.Writable) {text : List Char}
    (htext : text <+: s.text) (fuel depth : ℕ) : Unfinished (value fuel depth text) := by
  cases fuel with
  | zero => exact Or.inl (by rw [value])
  | succ fuel =>
      cases s with
      | none => exact unfinished_word ("null", .none) (by simp [words]) htext fuel depth
      | bool b =>
          cases b with
          | true =>
              exact unfinished_word ("true", .bool true) (by simp [words]) htext fuel depth
          | false =>
              exact unfinished_word ("false", .bool false) (by simp [words]) htext fuel
                depth
      | int n =>
          have hnil : intText n = signText (n < 0) ++ (Nat.toDigits 10 n.natAbs ++ []) := by
            rw [List.append_nil]
            rfl
          have hend : ∀ c, ([] : List Char).head? = some c → isDigit c = false :=
            fun _ h => by cases h
          have htext' : text <+: signText (n < 0) ++ (Nat.toDigits 10 n.natAbs ++ []) := by
            rw [← hnil]
            exact htext
          refine unfinished_number hs hend ?_ htext' fuel depth
          rw [← hnil]
          exact fun c hc => isNumberChar_intText hc
      | float x =>
          have hshort : (Nat.toDigits 10 x.whole).length ≤ maxDigits :=
            le_trans ((Nat.length_toDigits_le_iff (by decide) (by decide)).mpr x.short) (by decide)
          have hend : NumberEnd [] := fun _ h => by cases h
          refine unfinished_number hshort (fun c hc => ?_) (fun c hc => isNumberChar_text hc) htext
            fuel depth
          exact head_fractionText x hend c (by rw [List.append_nil]; exact hc)
      | nan =>
          exact unfinished_word ("NaN", .float .nan) (by simp [words]) htext fuel depth
      | inf negative =>
          cases negative with
          | true =>
              exact unfinished_word ("-Infinity", .float .negInf) (by simp [words]) htext
                fuel depth
          | false =>
              exact unfinished_word ("Infinity", .float .posInf) (by simp [words]) htext
                fuel depth
      | str s => exact unfinished_quoted s htext fuel depth
      | object text => exact unfinished_quoted text htext fuel depth

/-! ## Dicts -/

theorem prefix_append_cases {text front back : List Char} (h : text <+: front ++ back) :
    text <+: front ∨ ∃ more, text = front ++ more ∧ more <+: back := by
  rcases List.prefix_or_prefix_of_prefix h (List.prefix_append front back) with hfront | hfront
  · exact Or.inl hfront
  · obtain ⟨more, rfl⟩ := hfront
    exact Or.inr ⟨more, rfl, (List.prefix_append_right_inj front).mp h⟩

theorem members_nil (fuel depth : ℕ) (done : List (String × PyValue)) :
    members fuel depth done [] = .error .decode := by
  cases fuel with
  | zero => rw [members]
  | succ fuel =>
      rw [members]
      exact fun _ h => by cases h

/-- After an unfinished value comes no other field. -/
theorem skipSpace_unfinished {rest : List Char} (h : ∀ c ∈ rest, isNumberChar c = true) :
    skipSpace rest = rest := by
  refine skipSpace_of_head (fun c hc => isSpace_of_isNumberChar (h c ?_))
  cases rest with
  | nil => cases hc
  | cons d rest =>
      cases hc
      exact List.mem_cons_self

theorem skipSpace_start {text whole : List Char} (h : text <+: whole)
    (hwhole : ∃ c cs, whole = c :: cs ∧ isSpace c = false) : skipSpace (' ' :: text) = text := by
  obtain ⟨c, cs, rfl, hc⟩ := hwhole
  show skipSpace text = text
  refine skipSpace_of_head (fun d hd => ?_)
  cases text with
  | nil => cases hd
  | cons e text =>
      cases hd
      rw [(List.cons_prefix_cons.mp h).1]
      exact hc

/-- The start of a field. -/
theorem members_cut_item {field : String × Scalar} (hfield : field.2.Writable) {text : List Char}
    (htext : text <+: itemText field) {fuel : ℕ} (hfuel : text.length < fuel) (depth : ℕ)
    (done : List (String × PyValue)) : members fuel depth done text = .error .decode := by
  obtain ⟨fuel, rfl⟩ : ∃ n, fuel = n + 1 := ⟨fuel - 1, by omega⟩
  let name := Points.ofString field.1
  cases text with
  | nil => exact members_nil _ _ _
  | cons c text =>
      have hquoted : c :: text <+: '"' :: ((pointsText name.points ++ ['"']) ++
          (':' :: ' ' :: field.2.text)) := htext
      obtain ⟨rfl, hbody⟩ := List.cons_prefix_cons.mp hquoted
      rw [members]
      rcases prefix_append_cases hbody with hname | ⟨after, rfl, hafter⟩
      · rcases stringBody_start name.valid hname fuel with hread | ⟨points, hread⟩
        · rw [hread]
        · rw [hread]
          rfl
      · -- the name is whole
        have hlength := length_le_pointsText name.points
        simp only [List.length_cons, List.length_append, List.length_nil] at hfuel
        have hread := stringBody_pointsText name.points name.valid after fuel (by omega)
        rw [List.append_assoc, List.singleton_append, hread]
        cases after with
        | nil => rfl
        | cons c after =>
            obtain ⟨rfl, hspace⟩ := List.cons_prefix_cons.mp hafter
            have hvalue : Unfinished (value fuel depth (skipSpace after)) := by
              cases after with
              | nil => exact Or.inl (value_nil _ _)
              | cons c after =>
                  obtain ⟨rfl, hscalar⟩ := List.cons_prefix_cons.mp hspace
                  rw [skipSpace_start hscalar (text_cons field.2)]
                  exact unfinished_of_start hfield hscalar fuel depth
            have hcolon : skipSpace (':' :: after) = ':' :: after := rfl
            simp only [hcolon]
            rcases hvalue with h | ⟨v, rest, h, hrest⟩
            · rw [h]
            · simp only [h, skipSpace_unfinished hrest]
              split
              · exact absurd (hrest ',' List.mem_cons_self) (by decide)
              · exact absurd (hrest '\x7d' List.mem_cons_self) (by decide)
              · rfl

theorem fieldsText_cons {fields : List (String × Scalar)} (hne : fields ≠ []) :
    ∃ c cs, fieldsText fields = c :: cs ∧ isSpace c = false := by
  cases fields with
  | nil => exact absurd rfl hne
  | cons field fields => cases fields <;> exact ⟨'"', _, rfl, by decide⟩

theorem members_cut {fields : List (String × Scalar)} (hne : fields ≠ [])
    (hfields : ∀ field ∈ fields, field.2.Writable) (depth : ℕ) :
    ∀ {text : List Char} {fuel : ℕ} (done : List (String × PyValue)), text <+: fieldsText fields →
      text ≠ fieldsText fields → text.length < fuel →
      members fuel depth done text = .error .decode := by
  induction fields using fieldsText.induct with
  | case1 => exact absurd rfl hne
  | case2 field =>
      intro text fuel done htext hcut hfuel
      have hfield := hfields field (by simp)
      rcases prefix_append_cases htext with hitem | ⟨more, rfl, hmore⟩
      · exact members_cut_item hfield hitem hfuel depth done
      · cases more with
        | nil =>
            rw [List.append_nil] at hfuel ⊢
            exact members_cut_item hfield List.prefix_rfl hfuel depth done
        | cons c more =>
            obtain ⟨rfl, hnil⟩ := List.cons_prefix_cons.mp hmore
            rw [List.prefix_nil.mp hnil] at hcut
            exact absurd rfl hcut
  | case3 field next fields ih =>
      intro text fuel done htext hcut hfuel
      have hfield := hfields field (by simp)
      rcases prefix_append_cases htext with hitem | ⟨more, rfl, hmore⟩
      · exact members_cut_item hfield hitem hfuel depth done
      · cases more with
        | nil =>
            rw [List.append_nil] at hfuel ⊢
            exact members_cut_item hfield List.prefix_rfl hfuel depth done
        | cons c more =>
            obtain ⟨rfl, hback⟩ := List.cons_prefix_cons.mp hmore
            obtain ⟨fuel, rfl⟩ : ∃ n, fuel = n + 1 := ⟨fuel - 1, by omega⟩
            simp only [List.length_append, List.length_cons] at hfuel
            have hend : NumberEnd (',' :: more) := by
              intro c hc
              cases hc
              decide
            rw [members_itemText hfield hend (by omega)]
            show members fuel depth (setField done field.1 field.2.read) (skipSpace more) =
              .error .decode
            cases more with
            | nil => exact members_nil _ _ _
            | cons c more =>
                obtain ⟨rfl, hrest⟩ := List.cons_prefix_cons.mp hback
                rw [skipSpace_start hrest (fieldsText_cons (by simp))]
                refine ih (by simp) (fun f hf => hfields f (List.mem_cons_of_mem field hf)) _ hrest
                  ?_ ?_
                · rintro rfl
                  exact hcut rfl
                · simp only [List.length_cons] at hfuel
                  omega

/-- A proper start of what `json.dumps` wrote is no JSON. -/
theorem loads_cut {fields : List (String × Scalar)} (hne : fields ≠ [])
    (hfields : ∀ field ∈ fields, field.2.Writable) {text : List Char}
    (htext : text <+: objectText fields) (hcut : text ≠ objectText fields) (depth : ℕ) :
    loads (depth + 1) text = .error .decode := by
  cases text with
  | nil =>
      have hnil : skipSpace [] = [] := rfl
      rw [loads, hnil, value_nil]
  | cons c text =>
      obtain ⟨rfl, hbody⟩ := List.cons_prefix_cons.mp htext
      have hbrace : skipSpace ('\x7b' :: text) = '\x7b' :: text := rfl
      have hcut' : text ≠ fieldsText fields := fun h => hcut (by rw [h]; rfl)
      have hskip : skipSpace text = text :=
        skipSpace_start hbody (fieldsText_cons hne)
      have hclosed : ∀ rest, text ≠ '\x7d' :: rest := by
        rintro rest rfl
        cases fields with
        | nil => exact hne rfl
        | cons field fields => cases fields <;> cases (List.cons_prefix_cons.mp hbody).1
      have hread := members_cut hne hfields depth [] hbody hcut'
        (show text.length < 2 * ('\x7b' :: text).length by
          simp only [List.length_cons]
          omega)
      have hvalue : value (2 * ('\x7b' :: text).length + 1) (depth + 1) ('\x7b' :: text) =
          .error .decode := by
        rw [value, hskip]
        split
        · next rest => exact absurd rfl (hclosed rest)
        · exact hread
      rw [loads, hbrace, hvalue]

end CryptoTrader.Lib.Json
