import CryptoTrader.Management.Assessor
import Mathlib.Data.List.MinMax

/-!
# Salvage of a truncated output

`_parse_json`, `_repair_truncated`, `_close` and `_drop_trailing` of
`ai/validators/decision_schema.py`.  The repair closes what is open and parses; if that
fails it cuts the text at its last comma or opening bracket, and tries again.
-/

namespace CryptoTrader.DecisionValidator

open CryptoTrader.Lib CryptoTrader.Lib.Json

/-! ## Outside of strings -/

/-- Whether a character is in a string, and whether it is escaped there. -/
structure Quote where
  inStr : Bool := false
  escaped : Bool := false
  deriving DecidableEq

/-- Past one character. -/
def Quote.step (q : Quote) (ch : Char) : Quote :=
  if q.inStr then
    if q.escaped then { q with escaped := false }
    else if ch = '\\' then { q with escaped := true }
    else if ch = '"' then { q with inStr := false }
    else q
  else if ch = '"' then { q with inStr := true }
  else q

def isOpening (ch : Char) : Bool := ch = '\x7b' || ch = '['

def isClosing (ch : Char) : Bool := ch = '\x7d' || ch = ']'

/-! ## Closing -/

/-- The scan of `_close`: where the text ends, and the brackets that are open there. -/
def openBrackets : Quote → List Char → List Char → Quote × List Char
  | q, stack, [] => (q, stack)
  | q, stack, ch :: rest =>
      let stack :=
        if q.inStr then stack
        else if isOpening ch then (if ch = '\x7b' then '\x7d' else ']') :: stack
        else if isClosing ch then stack.tail
        else stack
      openBrackets (q.step ch) stack rest

/-- `str.rstrip`. -/
def rstrip (p : Char → Bool) (text : List Char) : List Char :=
  (text.reverse.dropWhile p).reverse

/-- `_close`. -/
def close (text : List Char) : List Char :=
  let (q, stack) := openBrackets {} [] text
  let repaired := if q.inStr then text ++ ['"'] else text
  rstrip (· = ',') (rstrip pySpace repaired) ++ stack

/-! ## Cutting -/

/-- The scan of `_drop_trailing`: the last boundary, and whether it is a bracket. -/
def lastBoundary : Quote → ℕ → Option (ℕ × Bool) → List Char → Option (ℕ × Bool)
  | _, _, boundary, [] => boundary
  | q, i, boundary, ch :: rest =>
      let boundary :=
        if q.inStr then boundary
        else if ch = ',' then some (i, false)
        else if isOpening ch then some (i, true)
        else boundary
      lastBoundary (q.step ch) (i + 1) boundary rest

/-- `_drop_trailing`. -/
def dropTrailing (text : List Char) : Option (List Char) :=
  (lastBoundary {} 0 none text).map (fun (boundary, keepBracket) =>
    if keepBracket then text.take (boundary + 1) else text.take boundary)

/-! ## Repairing -/

section Repair

variable (depth : ℕ)

/-- `_repair_truncated`, for as many passes as there is fuel; nothing while it is still
running.  What does not parse is the text itself, so parsing it again at the end raises. -/
def repairTruncated : ℕ → List Char → Option (Except Failure (List Char))
  | 0, _ => none
  | fuel + 1, s =>
      if s = [] then some (.error .decode)
      else
        match loads depth (close s) with
        | .ok _ => some (.ok (close s))
        | .error .decode =>
            match dropTrailing s with
            | none => some (.error .decode)
            | some s => repairTruncated fuel s
        | .error failure => some (.error failure)

/-- `fenced[1::2]`. -/
def everySecond {α : Type*} : List α → List α
  | _ :: b :: rest => b :: everySecond rest
  | _ => []

/-- A fenced block without its language tag. -/
def untag (block : List Char) : List Char :=
  if "json".toList.isPrefixOf ((strip block).map Char.toLower) then strip (block.drop 4)
  else strip block

/-- The text that `_parse_json` parses: the largest fenced block, from its first brace. -/
def extractText (raw : List Char) : List Char :=
  let text := strip raw
  let blocks := (everySecond (splitAt fence 0 text)).map untag
  let text := (blocks.argmax List.length).getD text
  match text.findIdx? (· = '\x7b') with
  | some start => text.drop start
  | none => text

/-- `_parse_json`, with the fuel of its repair. -/
def parseJson (fuel : ℕ) (raw : List Char) : Option (Except Failure (PyValue × Bool)) :=
  let text := extractText raw
  match loads depth text with
  | .ok parsed => some (.ok (parsed, false))
  | .error .decode =>
      (repairTruncated depth fuel text).map (fun repaired =>
        repaired.bind (fun s => (loads depth s).map (fun parsed => (parsed, true))))
  | .error failure => some (.error failure)

/-- The text, closed, is no JSON. -/
def failsClosed (s : List Char) : Bool :=
  match loads depth (close s) with
  | .error .decode => true
  | _ => false

/-- The text of the next pass, if there is one. -/
def repairStep (s : List Char) : Option (List Char) :=
  if s ≠ [] ∧ failsClosed depth s then dropTrailing s else none

/-- The texts of the passes over a text. -/
inductive Reaches (text : List Char) : List Char → Prop where
  | start : Reaches text text
  | step {s s' : List Char} : Reaches text s → repairStep depth s = some s' → Reaches text s'

/-- The repair of a text comes to an end. -/
def Halts (text : List Char) : Prop := ∃ fuel, repairTruncated depth fuel text ≠ none

end Repair

/-! ## Boundaries -/

section Boundaries

variable {q : Quote} {i n : ℕ} {text s s' : List Char} {m : ℕ × Bool}

/-- The boundaries outside of strings, and whether they are brackets. -/
def boundaries : Quote → ℕ → List Char → List (ℕ × Bool)
  | _, _, [] => []
  | q, i, ch :: rest =>
      (if ¬ q.inStr ∧ (ch = ',' ∨ isOpening ch) then [(i, isOpening ch)] else []) ++
        boundaries (q.step ch) (i + 1) rest

/-- The boundaries of a text. -/
abbrev boundariesOf (text : List Char) : List (ℕ × Bool) := boundaries {} 0 text

theorem lastBoundary_eq (boundary : Option (ℕ × Bool)) :
    lastBoundary q i boundary text = ((boundaries q i text).getLast?).or boundary := by
  induction text generalizing q i boundary with
  | nil => rfl
  | cons ch rest ih =>
      simp only [lastBoundary, boundaries]
      rw [ih, List.getLast?_append, Option.or_assoc]
      congr 1
      by_cases hin : q.inStr
      · simp [hin]
      by_cases hcomma : ch = ','
      · subst hcomma
        simp [hin, isOpening]
      by_cases hopen : isOpening ch
      · simp [hin, hcomma, hopen]
      · simp [hin, hcomma, hopen]

theorem bounds_of_mem (h : m ∈ boundaries q i text) : i ≤ m.1 ∧ m.1 < i + text.length := by
  induction text generalizing q i with
  | nil => cases h
  | cons ch rest ih =>
      rcases List.mem_append.mp h with h | h
      · by_cases hmark : ¬ q.inStr ∧ (ch = ',' ∨ isOpening ch)
        · rw [if_pos hmark, List.mem_singleton] at h
          rw [h, List.length_cons]
          omega
        · rw [if_neg hmark] at h
          cases h
      · have hrest := ih h
        rw [List.length_cons]
        omega

/-- They come in the order of the text. -/
theorem pairwise_boundaries : (boundaries q i text).Pairwise (fun m m' => m.1 < m'.1) := by
  induction text generalizing q i with
  | nil => exact .nil
  | cons ch rest ih =>
      refine List.pairwise_append.mpr ⟨?_, ih, fun m hm m' hm' => ?_⟩
      · split
        · exact List.pairwise_singleton _ _
        · exact .nil
      · have hlater := (bounds_of_mem hm').1
        by_cases hmark : ¬ q.inStr ∧ (ch = ',' ∨ isOpening ch)
        · rw [if_pos hmark, List.mem_singleton] at hm
          rw [hm]
          omega
        · rw [if_neg hmark] at hm
          cases hm

/-- The boundaries of the first characters are the first boundaries. -/
theorem boundaries_take : boundaries q i (text.take n) =
    (boundaries q i text).filter (fun m => m.1 < i + n) := by
  induction text generalizing q i n with
  | nil => simp [boundaries]
  | cons ch rest ih =>
      cases n with
      | zero =>
          refine (List.filter_eq_nil_iff.mpr (fun m hm => ?_)).symm
          have hbounds := bounds_of_mem hm
          simp only [decide_eq_true_eq]
          omega
      | succ n =>
          have hshift : i + 1 + n = i + (n + 1) := by omega
          simp only [List.take_succ_cons, boundaries, List.filter_append]
          rw [ih, hshift]
          congr 1
          split
          · simp
          · rfl

/-- The last boundary, and those before it. -/
theorem boundariesOf_take_lt {before : List (ℕ × Bool)} (h : boundariesOf text = before ++ [m]) :
    boundariesOf (text.take m.1) = before := by
  have hlt : ∀ m' ∈ before, m'.1 < m.1 := by
    have hsorted : (boundariesOf text).Pairwise (fun m m' => m.1 < m'.1) := pairwise_boundaries
    rw [h, List.pairwise_append] at hsorted
    exact fun m' hm' => hsorted.2.2 m' hm' m (List.mem_singleton_self m)
  rw [boundariesOf, boundaries_take, ← boundariesOf, h]
  simpa using hlt

theorem boundariesOf_take_le {before : List (ℕ × Bool)} (h : boundariesOf text = before ++ [m]) :
    boundariesOf (text.take (m.1 + 1)) = before ++ [m] := by
  have hlt : ∀ m' ∈ before, m'.1 < m.1 + 1 := by
    intro m' hm'
    have hsorted : (boundariesOf text).Pairwise (fun m m' => m.1 < m'.1) := pairwise_boundaries
    rw [h, List.pairwise_append] at hsorted
    exact Nat.lt_succ_of_lt (hsorted.2.2 m' hm' m (List.mem_singleton_self m))
  rw [boundariesOf, boundaries_take, ← boundariesOf, h]
  simpa using hlt

theorem dropTrailing_eq : dropTrailing text = ((boundariesOf text).getLast?).map (fun m =>
    if m.2 then text.take (m.1 + 1) else text.take m.1) := by
  unfold dropTrailing
  rw [lastBoundary_eq, Option.or_none]

/-- What is cut is shorter, or the same. -/
theorem dropTrailing_shorter (h : dropTrailing s = some s') :
    s'.length < s.length ∨ s' = s := by
  rw [dropTrailing_eq, Option.map_eq_some_iff] at h
  obtain ⟨m, hm, rfl⟩ := h
  have hbound : 0 ≤ m.1 ∧ m.1 < 0 + s.length := bounds_of_mem (List.mem_of_getLast? hm)
  by_cases hkeep : m.2
  · rw [if_pos hkeep]
    by_cases hend : m.1 + 1 = s.length
    · exact .inr (by rw [hend, List.take_length])
    · left
      rw [List.length_take]
      omega
  · left
    rw [if_neg hkeep, List.length_take]
    omega

end Boundaries

/-! ## When the repair ends -/

section Halting

variable {depth : ℕ} {text s s' : List Char}

/-- One pass: it ends the repair, or another follows. -/
theorem repairTruncated_succ (fuel : ℕ) :
    match repairStep depth s with
    | none => repairTruncated depth (fuel + 1) s ≠ none
    | some s' => repairTruncated depth (fuel + 1) s = repairTruncated depth fuel s' := by
  unfold repairStep failsClosed
  rw [repairTruncated.eq_2]
  by_cases hempty : s = []
  · simp [hempty]
  simp only [hempty, ne_eq, not_false_eq_true, true_and, if_false]
  cases loads depth (close s) with
  | ok v => simp
  | error failure =>
      cases failure with
      | decode => cases dropTrailing s <;> simp
      | digits => simp
      | recursion => simp

theorem halts_of_step_eq_none (h : repairStep depth s = none) : Halts depth s := by
  have hpass := @repairTruncated_succ depth s 0
  rw [h] at hpass
  exact ⟨1, hpass⟩

theorem halts_iff_of_step (h : repairStep depth s = some s') : Halts depth s ↔ Halts depth s' := by
  have hpass := @repairTruncated_succ depth s
  rw [h] at hpass
  constructor
  · rintro ⟨fuel, hfuel⟩
    cases fuel with
    | zero => exact absurd rfl hfuel
    | succ fuel => exact ⟨fuel, by rw [← hpass]; exact hfuel⟩
  · rintro ⟨fuel, hfuel⟩
    exact ⟨fuel + 1, by rw [hpass]; exact hfuel⟩

/-- A text that is cut to itself is cut for ever. -/
theorem not_halts_of_step_self (h : repairStep depth s = some s) : ¬ Halts depth s := by
  rintro ⟨fuel, hfuel⟩
  have hpass := @repairTruncated_succ depth s
  rw [h] at hpass
  refine hfuel ?_
  clear hfuel
  induction fuel with
  | zero => rfl
  | succ fuel ih => rw [hpass, ih]

theorem Reaches.halts (h : Reaches depth text s) (htext : Halts depth text) : Halts depth s := by
  induction h with
  | start => exact htext
  | step _ hstep ih => exact (halts_iff_of_step hstep).mp ih

/-- A repair that ends cuts every time. -/
theorem Reaches.shorter (h : Reaches depth text s) (htext : Halts depth text)
    (hstep : repairStep depth s = some s') : s'.length < s.length := by
  have hdrop : dropTrailing s = some s' := by
    unfold repairStep at hstep
    split at hstep
    · exact hstep
    · cases hstep
  refine (dropTrailing_shorter hdrop).resolve_right (fun heq => ?_)
  subst heq
  exact not_halts_of_step_self hstep (h.halts htext)

/-- The texts that the repair cuts to, from the boundaries last to first: up to each comma,
until an opening bracket, which is kept. -/
def cutsAt (text : List Char) : List (ℕ × Bool) → List (List Char)
  | [] => []
  | (i, true) :: _ => [text.take (i + 1)]
  | (i, false) :: rest => text.take i :: cutsAt text rest

/-- The text, and those that the repair cuts it to. -/
def cuts (text : List Char) : List (List Char) :=
  text :: cutsAt text (boundariesOf text).reverse

/-- Without an opening bracket outside of a string. -/
def Flat (text : List Char) : Prop := ∀ m ∈ boundariesOf text, m.2 = false

theorem cutsAt_take {n : ℕ} {ms : List (ℕ × Bool)} (h : ∀ m ∈ ms, m.1 < n) :
    cutsAt (text.take n) ms = cutsAt text ms := by
  induction ms with
  | nil => rfl
  | cons m ms ih =>
      obtain ⟨i, keep⟩ := m
      have hi : i < n := h (i, keep) List.mem_cons_self
      cases keep with
      | true =>
          simp only [cutsAt, List.take_take]
          rw [min_eq_left (by omega)]
      | false =>
          simp only [cutsAt, List.take_take]
          rw [min_eq_left (by omega), ih (fun m hm => h m (List.mem_cons_of_mem _ hm))]

/-- A pass that fails goes on with the cut text. -/
theorem halts_of_drop (h : dropTrailing s = some s') :
    Halts depth s ↔ failsClosed depth s = false ∨ Halts depth s' := by
  have hne : s ≠ [] := by
    rintro rfl
    cases h
  cases hfails : failsClosed depth s with
  | false =>
      have hstep : repairStep depth s = none := if_neg (by simp [hfails])
      exact iff_of_true (halts_of_step_eq_none hstep) (.inl rfl)
  | true =>
      have hstep : repairStep depth s = some s' := by
        unfold repairStep
        rw [if_pos ⟨hne, hfails⟩, h]
      rw [halts_iff_of_step hstep]
      simp

/-- The repair ends in a text without an opening bracket, or at a cut that can be closed. -/
theorem halts_iff (depth : ℕ) (text : List Char) : Halts depth text ↔
    Flat text ∨ ∃ c ∈ cuts text, failsClosed depth c = false := by
  generalize hrev : (boundariesOf text).reverse = rev
  induction rev generalizing text with
  | nil =>
      have hnil : boundariesOf text = [] := List.reverse_eq_nil_iff.mp hrev
      have hdrop : dropTrailing text = none := by
        rw [dropTrailing_eq, hnil]
        rfl
      have hstep : repairStep depth text = none := by
        unfold repairStep
        rw [hdrop, ite_self]
      refine iff_of_true (halts_of_step_eq_none hstep) (.inl ?_)
      unfold Flat
      rw [hnil]
      exact fun m hm => by cases hm
  | cons m rev ih =>
      obtain ⟨i, keep⟩ := m
      have hsplit : boundariesOf text = rev.reverse ++ [(i, keep)] := by
        rw [← List.reverse_cons, ← hrev, List.reverse_reverse]
      have hlt : ∀ m ∈ rev, m.1 < i := by
        intro m hm
        have hsorted : (boundariesOf text).Pairwise (fun m m' => m.1 < m'.1) := pairwise_boundaries
        rw [hsplit, List.pairwise_append] at hsorted
        exact hsorted.2.2 m (List.mem_reverse.mpr hm) _ (List.mem_singleton_self _)
      have hcuts : cuts text = text :: cutsAt text ((i, keep) :: rev) := by
        unfold cuts
        rw [hrev]
      cases keep with
      | true =>
          have hdrop : dropTrailing text = some (text.take (i + 1)) := by
            rw [dropTrailing_eq, hsplit, List.getLast?_concat]
            rfl
          have hself : dropTrailing (text.take (i + 1)) = some (text.take (i + 1)) := by
            rw [dropTrailing_eq, boundariesOf_take_le hsplit, List.getLast?_concat]
            simp
          have hkept : Halts depth (text.take (i + 1)) ↔
              failsClosed depth (text.take (i + 1)) = false := by
            cases hfails : failsClosed depth (text.take (i + 1)) with
            | false =>
                rw [halts_of_drop hself]
                simp [hfails]
            | true =>
                have hne : text.take (i + 1) ≠ [] := by
                  intro hnil
                  rw [hnil] at hself
                  cases hself
                refine iff_of_false (not_halts_of_step_self ?_) (by simp)
                unfold repairStep
                rw [if_pos ⟨hne, hfails⟩, hself]
          have hnotflat : ¬ Flat text := by
            intro hflat
            cases hflat (i, true) (by rw [hsplit]; simp)
          rw [halts_of_drop hdrop, hkept, hcuts]
          simp [cutsAt, hnotflat]
      | false =>
          have hdrop : dropTrailing text = some (text.take i) := by
            rw [dropTrailing_eq, hsplit, List.getLast?_concat]
            rfl
          have hrest := boundariesOf_take_lt hsplit
          have hflat : Flat (text.take i) ↔ Flat text := by
            unfold Flat
            rw [hrest, hsplit]
            simp [or_imp, forall_and]
          have htail : cuts (text.take i) = text.take i :: cutsAt text rev := by
            unfold cuts
            rw [hrest, List.reverse_reverse, cutsAt_take hlt]
          rw [halts_of_drop hdrop, ih (text.take i) (by rw [hrest, List.reverse_reverse]), hflat,
            htail, hcuts, or_left_comm]
          simp [cutsAt]

end Halting

/-! ## The parse -/

section Parse

variable (depth : ℕ) (raw : List Char)

/-- The parse returns or raises, and every pass of its repair is over a shorter text than
the one before. -/
structure Salvages : Prop where
  returns : ∃ fuel, parseJson depth fuel raw ≠ none
  shrinks : loads depth (extractText raw) = .error .decode → ∀ s s',
    Reaches depth (extractText raw) s → repairStep depth s = some s' → s'.length < s.length

/-- The parse ends for a text that parses or is refused for its size, for one without an
opening bracket outside of strings, and for one of which a cut can be closed. -/
theorem salvages_iff : Salvages depth raw ↔
    loads depth (extractText raw) ≠ .error .decode ∨ Flat (extractText raw) ∨
      ∃ c ∈ cuts (extractText raw), failsClosed depth c = false := by
  rw [← halts_iff]
  have hparse : ∀ fuel, parseJson depth fuel raw = none →
      loads depth (extractText raw) = .error .decode ∧
        repairTruncated depth fuel (extractText raw) = none := by
    intro fuel hnone
    unfold parseJson at hnone
    cases hloads : loads depth (extractText raw) with
    | ok v => simp [hloads] at hnone
    | error failure =>
        cases failure with
        | decode => simpa [hloads] using hnone
        | digits => simp [hloads] at hnone
        | recursion => simp [hloads] at hnone
  constructor
  · intro h
    rw [or_iff_not_imp_left, not_not]
    intro hloads
    obtain ⟨fuel, hfuel⟩ := h.returns
    refine ⟨fuel, fun hnone => hfuel ?_⟩
    unfold parseJson
    simp [hloads, hnone]
  · rintro (hloads | ⟨fuel, hfuel⟩)
    · exact ⟨⟨0, fun hnone => hloads (hparse 0 hnone).1⟩, fun hdecode => absurd hdecode hloads⟩
    · exact ⟨⟨fuel, fun hnone => hfuel (hparse fuel hnone).2⟩,
        fun _ s s' hs hstep => hs.shorter ⟨fuel, hfuel⟩ hstep⟩

/-- An object whose first field is a list: closed, cut and kept, for ever. -/
theorem listForField_runs : ¬ ∀ depth raw, Salvages depth raw := by
  intro h
  have hstep : repairStep 1000 "\x7b[".toList = some "\x7b[".toList := by decide +kernel
  have hloads : loads 1000 (extractText "\x7b[".toList) = .error .decode := rfl
  have htext : extractText "\x7b[".toList = "\x7b[".toList := by decide +kernel
  have hreaches : Reaches 1000 (extractText "\x7b[".toList) "\x7b[".toList := by
    rw [htext]
    exact .start
  exact absurd ((h 1000 "\x7b[".toList).shrinks hloads _ _ hreaches hstep) (lt_irrefl _)

end Parse

end CryptoTrader.DecisionValidator
