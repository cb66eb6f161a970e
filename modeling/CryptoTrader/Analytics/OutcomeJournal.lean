import CryptoTrader.Lib.Dict
import CryptoTrader.Lib.Groups
import CryptoTrader.Lib.JsonCut
import CryptoTrader.Lib.Run
import CryptoTrader.Management.Assessor
import Mathlib.Data.List.DropRight

/-!
# The journal of closed trades

`TradeOutcomeJournal` of `journal.py` over the files of its directory.  `record` appends a
line of JSON to the file of the day, `load_all` reads the lines of all files in the order
of their names.  A crash leaves the start of the line that was being written; other
programs may append lines of their own.

A field is a scalar: text, a number, `None`, or an object that only `str` makes a text
of.
-/

namespace CryptoTrader.OutcomeJournal

open CryptoTrader.Lib

/-! ## Records -/

/-- The fields of `TradeOutcomeRecord`. -/
inductive OutcomeField where
  | tradeId
  | symbol
  | side
  | openedAt
  | closedAt
  | entryPrice
  | exitPrice
  | quantity
  | realizedPnl
  | holdingTimeS
  | exitReason
  | regime
  | regimeScore
  | fundingRate
  | volRegime
  | oiDelta
  | session
  | entryReason
  | llmAction
  | llmConfidence
  | llmRationale
  | entryBand
  | stopLossPct
  | riskPerTradePct
  | leverage
  | pnlR
  | mfe
  | mae
  | slippageBps
  deriving DecidableEq

namespace OutcomeField

/-- In the order of the dataclass. -/
def all : List OutcomeField :=
  [tradeId, symbol, side, openedAt, closedAt, entryPrice, exitPrice, quantity, realizedPnl,
    holdingTimeS, exitReason, regime, regimeScore, fundingRate, volRegime, oiDelta, session,
    entryReason, llmAction, llmConfidence, llmRationale, entryBand, stopLossPct, riskPerTradePct,
    leverage, pnlR, mfe, mae, slippageBps]

def name : OutcomeField → String
  | tradeId => "trade_id"
  | symbol => "symbol"
  | side => "side"
  | openedAt => "opened_at"
  | closedAt => "closed_at"
  | entryPrice => "entry_price"
  | exitPrice => "exit_price"
  | quantity => "quantity"
  | realizedPnl => "realized_pnl"
  | holdingTimeS => "holding_time_s"
  | exitReason => "exit_reason"
  | regime => "regime"
  | regimeScore => "regime_score"
  | fundingRate => "funding_rate"
  | volRegime => "vol_regime"
  | oiDelta => "oi_delta"
  | session => "session"
  | entryReason => "entry_reason"
  | llmAction => "llm_action"
  | llmConfidence => "llm_confidence"
  | llmRationale => "llm_rationale"
  | entryBand => "entry_band"
  | stopLossPct => "stop_loss_pct"
  | riskPerTradePct => "risk_per_trade_pct"
  | leverage => "leverage"
  | pnlR => "pnl_r"
  | mfe => "mfe"
  | mae => "mae"
  | slippageBps => "slippage_bps"

/-- The fields without a default. -/
def required : OutcomeField → Bool
  | tradeId | symbol | side | openedAt | closedAt | entryPrice | exitPrice | quantity | realizedPnl
  | holdingTimeS | exitReason => true
  | _ => false

theorem mem_all (f : OutcomeField) : f ∈ all := by
  cases f <;> decide

instance (p : OutcomeField → Prop) [DecidablePred p] : Decidable (∀ f, p f) :=
  decidable_of_iff (∀ f ∈ all, p f) ⟨fun h f => h f (mem_all f), fun h f _ => h f⟩

theorem nodup_names : (all.map name).Nodup := by
  decide

theorem name_ne_recordType : ∀ f ∈ all, f.name ≠ "record_type" := by
  decide

end OutcomeField

/-- A `TradeOutcomeRecord` as it is handed to the journal. -/
abbrev Outcome := OutcomeField → Json.Scalar

/-- A `TradeOutcomeRecord` as `load_all` yields it. -/
abbrev Loaded := OutcomeField → PyValue

/-- `_RECORD_TYPE` -/
def recordType : String := "trade_outcome"

/-- `asdict(outcome)` -/
def asdict (outcome : Outcome) : List (String × Json.Scalar) :=
  OutcomeField.all.map (fun f => (f.name, outcome f))

/-- What `record` writes. -/
def payload (outcome : Outcome) : List (String × Json.Scalar) :=
  asdict outcome ++ [("record_type", .str (Json.Points.ofString recordType))]

/-- The line of a record without its end; none where `json.dumps` raises. -/
def lineOf (outcome : Outcome) : Option (List Char) := Json.dumps (payload outcome)

/-- Two records are equal, field by field. -/
def Matches (outcome : Outcome) (loaded : Loaded) : Prop := ∀ f, (outcome f).Equals (loaded f)

/-! ## Reading -/

/-- What `load_all` can raise. -/
inductive Raised where
  | valueError
  | recursionError
  | attributeError
  | typeError

/-- The value of a line, if there is one; what is no JSON is skipped. -/
def iterRawLine (depth : ℕ) (line : List Char) : Except Raised (Option PyValue) :=
  let line := strip line
  if line = [] then .ok none
  else
    match Json.loads depth line with
    | .ok payload => .ok (some payload)
    | .error .decode => .ok none
    | .error .digits => .error .valueError
    | .error .recursion => .error .recursionError

/-- `TradeOutcomeRecord(**filtered)` -/
def construct (filtered : List (String × PyValue)) : Except Raised Loaded :=
  if ∀ f ∈ OutcomeField.all, f.required → (PyValue.lookup filtered f.name).isSome then
    .ok (fun f => (PyValue.lookup filtered f.name).getD .none)
  else .error .typeError

/-- The loop body of `load_all`. -/
def outcomeOf : PyValue → Except Raised (Option Loaded)
  | .dict payload =>
      match PyValue.lookup payload "record_type" with
      | some (.str type) =>
          if type = recordType then
            let popped := payload.filter (fun field => field.1 ≠ "record_type")
            let filtered :=
              popped.filter (fun field => field.1 ∈ OutcomeField.all.map OutcomeField.name)
            (construct filtered).map some
          else .ok none
      | _ => .ok none
  | _ => .error .attributeError

def readLine (depth : ℕ) (line : List Char) : Except Raised (Option Loaded) :=
  match iterRawLine depth line with
  | .error raised => .error raised
  | .ok none => .ok none
  | .ok (some payload) => outcomeOf payload

def loadLines (depth : ℕ) : List (List Char) → Except Raised (List Loaded)
  | [] => .ok []
  | line :: rest =>
      match readLine depth line with
      | .error raised => .error raised
      | .ok none => loadLines depth rest
      | .ok (some loaded) => (loadLines depth rest).map (fun more => loaded :: more)

/-- The lines of a text file, without their ends. -/
def textLines : List Char → List (List Char)
  | [] => []
  | '\r' :: '\n' :: rest => [] :: textLines rest
  | c :: rest =>
      if c = '\n' ∨ c = '\r' then [] :: textLines rest
      else
        match textLines rest with
        | [] => [[c]]
        | line :: lines => (c :: line) :: lines

/-- The `.jsonl` files of the directory. -/
abbrev Files := Dict String (List Char)

def Files.text (files : Files) (name : String) : List Char := (files.get? name).getD []

/-- `sorted(glob("*.jsonl"))` -/
def Files.names (files : Files) : List String := files.keys.mergeSort (fun a b => decide (a ≤ b))

/-- `list(load_all())` -/
def loadAll (depth : ℕ) (files : Files) : Except Raised (List Loaded) :=
  loadLines depth (files.names.flatMap (fun name => textLines (files.text name)))

/-! ## Writing -/

/-- What `_DailyJsonlJournal` remembers of the day. -/
structure Journal where
  currentFile : Option String
  currentDate : Option String

/-- After `__init__`. -/
def Journal.new : Journal := { currentFile := none, currentDate := none }

/-- The file of a day, which is `strftime("%Y-%m-%d")`. -/
def dayFile (today : String) : String := today ++ ".jsonl"

/-- `_get_file` -/
def Journal.getFile (journal : Journal) (today : String) : Journal × String :=
  if journal.currentDate ≠ some today then
    ({ currentDate := some today, currentFile := some (dayFile today) }, dayFile today)
  else (journal, journal.currentFile.getD "")

/-- `open(path, "a")` and one write. -/
def Files.append (files : Files) (name : String) (chunk : List Char) : Files :=
  files.set name (files.text name ++ chunk)

def isBreak (c : Char) : Bool := c = '\n' || c = '\r'

/-- A line, without its end. -/
structure Line where
  chars : List Char
  oneLine : ∀ c ∈ chars, isBreak c = false

/-- The directory, the journal, and every record of which the call returned, with the
file it went to. -/
structure World where
  journal : Journal
  files : Files
  returned : List (String × Outcome)

def World.new : World := { journal := .new, files := Dict.empty, returned := [] }

inductive Act where
  /-- `record`, which returns or raises. -/
  | record (today : String) (outcome : Outcome)
  /-- `record`, of which the first characters reach the file before the crash. -/
  | crash (today : String) (outcome : Outcome) (left : ℕ)
  /-- A new journal. -/
  | restart
  /-- A line of another program. -/
  | foreign (name : String) (line : Line)

def World.step (w : World) : Act → World
  | .record today outcome =>
      let (journal, file) := w.journal.getFile today
      match lineOf outcome with
      | some text =>
          { journal, files := w.files.append file (text ++ ['\n'])
            returned := w.returned ++ [(file, outcome)] }
      | none => { w with journal, files := w.files.append file [] }
  | .crash today outcome left =>
      let file := (w.journal.getFile today).2
      match lineOf outcome with
      | some text =>
          { w with journal := .new, files := w.files.append file ((text ++ ['\n']).take left) }
      | none => { w with journal := .new, files := w.files.append file [] }
  | .restart => { w with journal := .new }
  | .foreign name line => { w with files := w.files.append name (line.chars ++ ['\n']) }

/-- What `load_all` is for: it yields the records of the calls that returned, in order,
and nothing else. -/
def World.Intact (depth : ℕ) (w : World) : Prop :=
  ∃ read, loadAll depth w.files = .ok read ∧
    List.Forall₂ Matches (w.returned.map Prod.snd) read

/-! ## When the journal is intact -/

/-- The characters after the last end of a line. -/
def World.openLine (w : World) (name : String) : List Char :=
  (w.files.text name).rtakeWhile (fun c => c ≠ '\n')

/-- A blank line, no JSON, or an object of another record type. -/
def isSkipped (depth : ℕ) (line : List Char) : Bool :=
  strip line = [] ||
    match Json.loads depth (strip line) with
    | .error .decode => true
    | .ok (.dict payload) =>
        match PyValue.lookup payload "record_type" with
        | some (.str type) => type ≠ recordType
        | _ => true
    | _ => false

/-- The steps the journal stands.  A record has values JSON knows, starts a line of its
own and comes no earlier than the others by date.  A crash leaves less than a record, or
more of a line that is lost already.  The lines of others are blank, no JSON, or objects. -/
def World.Fine (depth : ℕ) (w : World) : Act → Prop
  | .record today outcome =>
      (lineOf outcome).isSome →
        (∀ f, (outcome f).Kept) ∧ w.openLine (dayFile today) = [] ∧
          ∀ entry ∈ w.returned, entry.1 ≤ dayFile today
  | .crash today outcome left =>
      ∀ text ∈ lineOf outcome,
        if w.openLine (dayFile today) = [] then left < text.length
        else isSkipped depth (w.openLine (dayFile today) ++ text.take left)
  | .restart => True
  | .foreign name line => isSkipped depth (w.openLine name ++ line.chars)

instance (depth : ℕ) (w : World) : DecidablePred (World.Fine depth w)
  | .record today outcome =>
      inferInstanceAs (Decidable ((lineOf outcome).isSome → (∀ f, (outcome f).Kept) ∧
        w.openLine (dayFile today) = [] ∧ ∀ entry ∈ w.returned, entry.1 ≤ dayFile today))
  | .crash today outcome left =>
      inferInstanceAs (Decidable (∀ text ∈ lineOf outcome,
        if w.openLine (dayFile today) = [] then left < text.length
        else isSkipped depth (w.openLine (dayFile today) ++ text.take left)))
  | .restart => isTrue trivial
  | .foreign name line => inferInstanceAs (Decidable (isSkipped depth (w.openLine name ++ line.chars)))

/-! ### A line -/

theorem readLine_of_skipped {depth : ℕ} {line : List Char} (h : isSkipped depth line) :
    readLine depth line = .ok none := by
  unfold isSkipped at h
  unfold readLine iterRawLine
  by_cases hblank : strip line = []
  · simp [hblank]
  · simp only [hblank, decide_false, Bool.false_or] at h
    simp only [hblank, if_false]
    cases hloads : Json.loads depth (strip line) with
    | error failure =>
        rw [hloads] at h
        cases failure with
        | decode => rfl
        | digits => cases h
        | recursion => cases h
    | ok payload =>
        rw [hloads] at h
        cases payload with
        | dict payload =>
            simp only at h
            simp only [outcomeOf]
            split
            · next type htype =>
                rw [htype] at h
                rw [if_neg (by simpa using h)]
            · rfl
        | _ => cases h

theorem lookup_map {α : Type} {key : α → String} {val : α → PyValue} {l : List α} {a : α}
    (hnodup : (l.map key).Nodup) (ha : a ∈ l) :
    PyValue.lookup (l.map (fun b => (key b, val b))) (key a) = some (val a) := by
  induction l with
  | nil => cases ha
  | cons b l ih =>
      obtain ⟨hnew, hnodup⟩ := List.nodup_cons.mp hnodup
      unfold PyValue.lookup at ih ⊢
      rw [List.map_cons, List.find?_cons]
      rcases List.mem_cons.mp ha with rfl | ha
      · simp
      · have hne : key b ≠ key a := fun h => hnew (by rw [h]; exact List.mem_map_of_mem ha)
        simp only [hne, decide_false]
        exact ih hnodup ha

/-- The values of a record as its line has them. -/
def readFields (outcome : Outcome) : List (String × PyValue) :=
  OutcomeField.all.map (fun f => (f.name, (outcome f).read))

/-- A line of a record, as the decoder reads it, yields the record. -/
theorem outcomeOf_payload (outcome : Outcome) :
    outcomeOf (.dict (readFields outcome ++ [("record_type", .str recordType)])) =
      .ok (some (fun f => (outcome f).read)) := by
  have hnone : (readFields outcome).find? (fun field => field.1 = "record_type") = none := by
    rw [List.find?_eq_none]
    intro field hfield
    obtain ⟨f, hf, rfl⟩ := List.mem_map.mp hfield
    simpa using OutcomeField.name_ne_recordType f hf
  have htype : PyValue.lookup (readFields outcome ++ [("record_type", .str recordType)])
      "record_type" = some (.str recordType) := by
    rw [PyValue.lookup, List.find?_append, hnone]
    rfl
  have hpopped : (readFields outcome ++ [("record_type", PyValue.str recordType)]).filter
      (fun field => field.1 ≠ "record_type") = readFields outcome := by
    have hall : (readFields outcome).filter (fun field => field.1 ≠ "record_type") =
        readFields outcome := by
      refine List.filter_eq_self.mpr (fun field hfield => ?_)
      obtain ⟨f, hf, rfl⟩ := List.mem_map.mp hfield
      simpa using OutcomeField.name_ne_recordType f hf
    rw [List.filter_append, hall]
    simp
  have hfiltered : (readFields outcome).filter
      (fun field => field.1 ∈ OutcomeField.all.map OutcomeField.name) = readFields outcome := by
    refine List.filter_eq_self.mpr (fun field hfield => ?_)
    obtain ⟨f, hf, rfl⟩ := List.mem_map.mp hfield
    simpa using ⟨f, hf, rfl⟩
  have hlookup : ∀ f, PyValue.lookup (readFields outcome) (OutcomeField.name f) =
      some (outcome f).read :=
    fun f => lookup_map OutcomeField.nodup_names (OutcomeField.mem_all f)
  have hconstruct : construct (readFields outcome) = .ok (fun f => (outcome f).read) := by
    unfold construct
    rw [if_pos (fun f _ _ => by rw [hlookup]; rfl)]
    simp only [hlookup, Option.getD_some]
  simp only [outcomeOf, htype, if_true, hpopped, hfiltered, hconstruct]
  rfl

theorem lineOf_eq_some {outcome : Outcome} {text : List Char} (h : lineOf outcome = some text) :
    (∀ field ∈ payload outcome, field.2.Writable) ∧ text = Json.objectText (payload outcome) := by
  unfold lineOf Json.dumps at h
  split at h
  · next hwritable =>
      cases h
      exact ⟨hwritable, rfl⟩
  · cases h

theorem payload_ne_nil (outcome : Outcome) : payload outcome ≠ [] := by
  simp [payload]

theorem strip_braces (body : List Char) :
    strip ('\x7b' :: (body ++ ['\x7d'])) = '\x7b' :: (body ++ ['\x7d']) := by
  have hfirst : ('\x7b' :: (body ++ ['\x7d'])).dropWhile pySpace = '\x7b' :: (body ++ ['\x7d']) :=
    List.dropWhile_cons_of_neg (by decide)
  have hlast : ('\x7b' :: (body ++ ['\x7d'])).reverse = '\x7d' :: ('\x7b' :: body).reverse := by
    simp
  rw [strip, hfirst, hlast, List.dropWhile_cons_of_neg (by decide), ← hlast, List.reverse_reverse]

theorem readLine_lineOf {outcome : Outcome} {text : List Char} (h : lineOf outcome = some text)
    (depth : ℕ) : readLine (depth + 1) text = .ok (some (fun f => (outcome f).read)) := by
  obtain ⟨hwritable, rfl⟩ := lineOf_eq_some h
  have hnames : (payload outcome).map Prod.fst =
      OutcomeField.all.map OutcomeField.name ++ ["record_type"] := rfl
  have hnodup : ((payload outcome).map Prod.fst).Nodup := by
    rw [hnames]
    decide
  have hread : (payload outcome).map (fun field => (field.1, field.2.read)) =
      readFields outcome ++ [("record_type", .str recordType)] := by
    have htype : (Json.Scalar.str (Json.Points.ofString recordType)).read = .str recordType := by
      show Json.textValue (Json.joinPoints (Json.Points.ofString recordType).points) = _
      rw [Json.joinPoints_of_unpaired (Json.unpaired_ofString recordType), Json.textValue_ofString]
    rw [payload, asdict, List.map_append, List.map_map, List.map_singleton, htype]
    rfl
  have hloads := Json.loads_objectText (payload_ne_nil outcome) hwritable hnodup depth
  rw [hread] at hloads
  obtain ⟨body, hbody⟩ := Json.objectText_eq (payload outcome)
  have hstrip : strip (Json.objectText (payload outcome)) = Json.objectText (payload outcome) := by
    rw [hbody, strip_braces]
  have hne : Json.objectText (payload outcome) ≠ [] := by
    rw [hbody]
    exact List.cons_ne_nil _ _
  simp only [readLine, iterRawLine, hstrip, hne, if_false, hloads, outcomeOf_payload]

/-- What a crash leaves of a record is skipped. -/
theorem skipped_of_cut {outcome : Outcome} {text part : List Char}
    (h : lineOf outcome = some text) (hpart : part <+: text) (hcut : part ≠ text) (depth : ℕ) :
    isSkipped (depth + 1) part := by
  obtain ⟨hwritable, rfl⟩ := lineOf_eq_some h
  have hstrip : strip part <+: part := by
    have hfirst : part.dropWhile pySpace = part := by
      cases part with
      | nil => rfl
      | cons c part =>
          have hc : c = '\x7b' := (List.cons_prefix_cons.mp hpart).1
          rw [hc]
          exact List.dropWhile_cons_of_neg (by decide)
    rw [strip, hfirst]
    exact List.rdropWhile_prefix pySpace part
  have hcut' : strip part ≠ Json.objectText (payload outcome) := by
    intro heq
    rw [heq] at hstrip
    exact hcut (hpart.eq_of_length_le hstrip.length_le)
  have hloads := Json.loads_cut (payload_ne_nil outcome) hwritable (hstrip.trans hpart) hcut' depth
  simp only [isSkipped, hloads, Bool.or_true]

/-! ### Lines -/

/-- The lines yield these records. -/
def Reads (depth : ℕ) (lines : List (List Char)) (outcomes : List Outcome) : Prop :=
  ∃ read, loadLines depth lines = .ok read ∧ List.Forall₂ Matches outcomes read

theorem Reads.nil {depth : ℕ} : Reads depth [] [] := ⟨[], rfl, List.Forall₂.nil⟩

theorem Reads.skip {depth : ℕ} {line : List Char} (h : isSkipped depth line) :
    Reads depth [line] [] :=
  ⟨[], by simp only [loadLines, readLine_of_skipped h], List.Forall₂.nil⟩

theorem Reads.one {depth : ℕ} {outcome : Outcome} {text : List Char}
    (h : lineOf outcome = some text) (hkept : ∀ f, (outcome f).Kept) :
    Reads (depth + 1) [text] [outcome] := by
  refine ⟨[fun f => (outcome f).read], ?_, ?_⟩
  · simp only [loadLines, readLine_lineOf h]
    rfl
  · exact List.Forall₂.cons (fun f => Json.Scalar.equals_read (hkept f)) List.Forall₂.nil

theorem loadLines_append {depth : ℕ} {lines lines' : List (List Char)} {read read' : List Loaded}
    (h : loadLines depth lines = .ok read) (h' : loadLines depth lines' = .ok read') :
    loadLines depth (lines ++ lines') = .ok (read ++ read') := by
  induction lines generalizing read with
  | nil =>
      cases h
      exact h'
  | cons line lines ih =>
      rw [List.cons_append, loadLines]
      rw [loadLines] at h
      cases hline : readLine depth line with
      | error raised =>
          rw [hline] at h
          cases h
      | ok found =>
          rw [hline] at h
          cases found with
          | none => exact ih h
          | some loaded =>
              cases hlines : loadLines depth lines with
              | error raised =>
                  rw [hlines] at h
                  cases h
              | ok more =>
                  rw [hlines] at h
                  cases h
                  rw [ih hlines]
                  rfl

theorem Reads.append {depth : ℕ} {lines lines' : List (List Char)} {outcomes outcomes' : List Outcome}
    (h : Reads depth lines outcomes) (h' : Reads depth lines' outcomes') :
    Reads depth (lines ++ lines') (outcomes ++ outcomes') := by
  obtain ⟨read, hread, hmatch⟩ := h
  obtain ⟨read', hread', hmatch'⟩ := h'
  exact ⟨read ++ read', loadLines_append hread hread', List.rel_append hmatch hmatch'⟩

theorem Reads.flatMap {depth : ℕ} {lines : String → List (List Char)}
    {outcomes : String → List Outcome} (h : ∀ name, Reads depth (lines name) (outcomes name))
    (names : List String) : Reads depth (names.flatMap lines) (names.flatMap outcomes) := by
  induction names with
  | nil => exact Reads.nil
  | cons name names ih => exact (h name).append ih

/-- On one line. -/
def OneLine (text : List Char) : Prop := ∀ c ∈ text, isBreak c = false

theorem textLines_cons {c : Char} (hc : isBreak c = false) (rest : List Char) :
    textLines (c :: rest) =
      match textLines rest with
      | [] => [[c]]
      | line :: lines => (c :: line) :: lines := by
  simp only [isBreak, Bool.or_eq_false_iff, decide_eq_false_iff_not] at hc
  rw [textLines, if_neg (not_or.mpr hc)]
  exact fun _ h _ => hc.2 h

theorem textLines_line {line : List Char} (hline : OneLine line) (rest : List Char) :
    textLines (line ++ '\n' :: rest) = line :: textLines rest := by
  induction line with
  | nil => rfl
  | cons c line ih =>
      rw [List.cons_append, textLines_cons (hline c List.mem_cons_self),
        ih (fun d hd => hline d (List.mem_cons_of_mem c hd))]

theorem textLines_open {line : List Char} (hline : OneLine line) (hne : line ≠ []) :
    textLines line = [line] := by
  induction line with
  | nil => exact absurd rfl hne
  | cons c line ih =>
      rw [textLines_cons (hline c List.mem_cons_self)]
      cases line with
      | nil => rfl
      | cons d line =>
          rw [ih (fun e he => hline e (List.mem_cons_of_mem c he)) (List.cons_ne_nil d line)]

/-! ### A file -/

/-- Whole lines that yield these records, and what stands after them, which yields none. -/
structure Holds (depth : ℕ) (text : List Char) (outcomes : List Outcome)
    (lines : List (List Char)) (tail : List Char) : Prop where
  text_eq : text = lines.flatMap (fun line => line ++ ['\n']) ++ tail
  whole : ∀ line ∈ lines, OneLine line
  oneLine : OneLine tail
  reads : Reads depth lines outcomes
  skipped : tail ≠ [] → isSkipped depth tail

namespace Holds

variable {depth : ℕ} {text : List Char} {outcomes : List Outcome} {lines : List (List Char)}
  {tail : List Char}

theorem reads_textLines (h : Holds depth text outcomes lines tail) :
    Reads depth (textLines text) outcomes := by
  obtain ⟨rfl, hwhole, hopen, hreads, hskipped⟩ := h
  have hlines : textLines (lines.flatMap (fun line => line ++ ['\n']) ++ tail) =
      lines ++ textLines tail := by
    clear hreads
    induction lines with
    | nil => rfl
    | cons line lines ih =>
        rw [List.flatMap_cons, List.append_assoc, List.append_assoc, List.singleton_append,
          textLines_line (hwhole line List.mem_cons_self),
          ih (fun l hl => hwhole l (List.mem_cons_of_mem line hl)), List.cons_append]
  rw [hlines]
  by_cases hnil : tail = []
  · subst hnil
    exact (List.append_nil lines).symm ▸ hreads
  · rw [textLines_open hopen hnil]
    have happend := hreads.append (Reads.skip (hskipped hnil))
    rw [List.append_nil] at happend
    exact happend

theorem openLine (h : Holds depth text outcomes lines tail) :
    text.rtakeWhile (fun c => c ≠ '\n') = tail := by
  obtain ⟨rfl, -, hopen, -, -⟩ := h
  have hall : ∀ c ∈ tail.reverse, decide (c ≠ '\n') = true := by
    intro c hc
    have hbreak := hopen c (List.mem_reverse.mp hc)
    simp only [isBreak, Bool.or_eq_false_iff, decide_eq_false_iff_not] at hbreak
    simpa using hbreak.1
  have hlast : (lines.flatMap (fun line => line ++ ['\n'])).reverse.takeWhile
      (fun c => decide (c ≠ '\n')) = [] := by
    induction lines using List.reverseRecOn with
    | nil => rfl
    | append_singleton lines line _ => simp
  rw [List.rtakeWhile, List.reverse_append, List.takeWhile_append_of_pos hall, hlast,
    List.append_nil, List.reverse_reverse]

/-- A chunk ends the open line. -/
theorem endLine (h : Holds depth text outcomes lines tail) {chunk : List Char}
    (hchunk : OneLine chunk) {new : List Outcome} (hnew : Reads depth [tail ++ chunk] new) :
    Holds depth (text ++ (chunk ++ ['\n'])) (outcomes ++ new) (lines ++ [tail ++ chunk]) [] where
  text_eq := by
    rw [h.text_eq]
    simp
  whole := by
    intro line hline
    rcases List.mem_append.mp hline with hline | hline
    · exact h.whole line hline
    · rw [List.mem_singleton.mp hline]
      intro c hc
      exact (List.mem_append.mp hc).elim (h.oneLine c) (hchunk c)
  oneLine := by
    intro c hc
    cases hc
  reads := h.reads.append hnew
  skipped := fun hne => absurd rfl hne

/-- A chunk stays on the open line. -/
theorem extend (h : Holds depth text outcomes lines tail) {chunk : List Char}
    (hchunk : OneLine chunk) (hskipped : tail ++ chunk ≠ [] → isSkipped depth (tail ++ chunk)) :
    Holds depth (text ++ chunk) outcomes lines (tail ++ chunk) where
  text_eq := by rw [h.text_eq, List.append_assoc]
  whole := h.whole
  oneLine := fun c hc => (List.mem_append.mp hc).elim (h.oneLine c) (hchunk c)
  reads := h.reads
  skipped := hskipped

end Holds

/-! ### Runs -/

/-- Whatever day it remembers, it remembers the file of that day. -/
def Journal.Current (journal : Journal) : Prop :=
  ∀ today, journal.currentDate = some today → journal.currentFile = some (dayFile today)

theorem Journal.Current.new : Journal.Current .new := by
  intro today h
  cases h

theorem Journal.Current.getFile {journal : Journal} (h : journal.Current) (today : String) :
    (journal.getFile today).2 = dayFile today ∧ (journal.getFile today).1.Current := by
  unfold Journal.getFile
  split
  · refine ⟨rfl, ?_⟩
    intro day hday
    cases hday
    rfl
  · next hsame =>
      refine ⟨?_, h⟩
      show journal.currentFile.getD "" = dayFile today
      rw [h today (not_not.mp hsame)]
      rfl

theorem Files.text_append (files : Files) (name : String) (chunk : List Char) (other : String) :
    (files.append name chunk).text other =
      if name = other then files.text name ++ chunk else files.text other := by
  unfold Files.append
  rw [Files.text, Dict.get?_set]
  split <;> rfl

theorem Files.mem_keys_append {files : Files} {name : String} {chunk : List Char} {other : String} :
    other ∈ (files.append name chunk).keys ↔ other = name ∨ other ∈ files.keys :=
  Dict.mem_keys_setIn name _ files.entries other

/-- The records that went to a file. -/
def World.recorded (w : World) (name : String) : List Outcome :=
  (groupOf Prod.fst w.returned name).map Prod.snd

/-- What holds throughout a run of fine steps. -/
structure World.Inv (depth : ℕ) (w : World) : Prop where
  current : w.journal.Current
  files : ∀ name, ∃ lines tail,
    Holds depth (w.files.text name) (w.recorded name) lines tail
  sorted : w.returned.Pairwise (fun a b => a.1 ≤ b.1)
  listed : ∀ entry ∈ w.returned, entry.1 ∈ w.files.keys

theorem World.Inv.new (depth : ℕ) : World.Inv depth .new where
  current := Journal.Current.new
  files := fun _ => ⟨[], [], {
    text_eq := rfl
    whole := fun _ hline => absurd hline List.not_mem_nil
    oneLine := fun _ hc => absurd hc List.not_mem_nil
    reads := Reads.nil
    skipped := fun hne => absurd rfl hne }⟩
  sorted := List.Pairwise.nil
  listed := fun _ hentry => absurd hentry List.not_mem_nil

theorem World.Inv.intact {depth : ℕ} {w : World} (h : World.Inv depth w) : w.Intact depth := by
  have hsorted : w.files.names.Pairwise (fun a b => a < b) := by
    have hle : w.files.names.Pairwise (fun a b => a ≤ b) := by
      have hpairwise : w.files.names.Pairwise (fun a b => decide (a ≤ b) = true) :=
        List.pairwise_mergeSort
          (fun a b c hab hbc => by
            simpa using le_trans (of_decide_eq_true hab) (of_decide_eq_true hbc))
          (fun a b => by simpa using le_total a b) w.files.keys
      exact hpairwise.imp (fun hab => of_decide_eq_true hab)
    have hnodup : w.files.names.Nodup :=
      (List.mergeSort_perm w.files.keys _).nodup_iff.mpr w.files.nodup
    exact (hle.and hnodup).imp (fun hab => lt_of_le_of_ne hab.1 hab.2)
  have hcover : ∀ entry ∈ w.returned, entry.1 ∈ w.files.names :=
    fun entry hentry => List.mem_mergeSort.mpr (h.listed entry hentry)
  have hreads : ∀ name, Reads depth (textLines (w.files.text name)) (w.recorded name) := by
    intro name
    obtain ⟨lines, tail, hholds⟩ := h.files name
    exact hholds.reads_textLines
  have hall := Reads.flatMap hreads w.files.names
  have hreturned : w.files.names.flatMap w.recorded = w.returned.map Prod.snd := by
    have hgroups := flatMap_groupOf hsorted hcover h.sorted
    conv_rhs => rw [← hgroups, List.map_flatMap]
    rfl
  rw [hreturned] at hall
  exact hall

/-- A chunk that goes to one file, with the records it is worth. -/
theorem World.Inv.append {depth : ℕ} {w : World} (h : World.Inv depth w) {journal : Journal}
    (hcurrent : journal.Current) (name : String) (chunk : List Char) (new : List Outcome)
    (hchunk : ∀ {lines tail}, Holds depth (w.files.text name) (w.recorded name) lines tail →
      ∃ lines' tail', Holds depth (w.files.text name ++ chunk) (w.recorded name ++ new) lines' tail')
    (horder : new ≠ [] → ∀ entry ∈ w.returned, entry.1 ≤ name) :
    World.Inv depth { journal, files := w.files.append name chunk
                      returned := w.returned ++ new.map (fun outcome => (name, outcome)) } where
  current := hcurrent
  files := by
    intro other
    have hrecorded : World.recorded { journal, files := w.files.append name chunk
                                      returned := w.returned ++ new.map (fun o => (name, o)) } other =
        w.recorded other ++ if name = other then new else [] := by
      unfold World.recorded groupOf
      rw [List.filter_append, List.map_append]
      congr 1
      by_cases heq : name = other
      · subst heq
        have hall : (new.map (fun o => (name, o))).filter (fun entry => entry.1 = name) =
            new.map (fun o => (name, o)) :=
          List.filter_eq_self.mpr (by simp)
        rw [hall, if_pos rfl, List.map_map]
        exact List.map_id new
      · have hnone : (new.map (fun o => (name, o))).filter (fun entry => entry.1 = other) = [] :=
          List.filter_eq_nil_iff.mpr (by simp [heq])
        rw [hnone, if_neg heq]
        rfl
    rw [hrecorded, Files.text_append]
    obtain ⟨lines, tail, hholds⟩ := h.files other
    by_cases heq : name = other
    · subst heq
      rw [if_pos rfl, if_pos rfl]
      exact hchunk hholds
    · rw [if_neg heq, if_neg heq, List.append_nil]
      exact ⟨lines, tail, hholds⟩
  sorted := by
    refine List.pairwise_append.mpr ⟨h.sorted, ?_, ?_⟩
    · rw [List.pairwise_map]
      exact List.pairwise_of_forall (fun _ _ => le_refl name)
    · intro entry hentry late hlate
      obtain ⟨outcome, houtcome, rfl⟩ := List.mem_map.mp hlate
      exact horder (List.ne_nil_of_mem houtcome) entry hentry
  listed := by
    intro entry hentry
    rw [Files.mem_keys_append]
    rcases List.mem_append.mp hentry with hentry | hentry
    · exact Or.inr (h.listed entry hentry)
    · obtain ⟨outcome, _, rfl⟩ := List.mem_map.mp hentry
      exact Or.inl rfl

/-- Nothing is written. -/
theorem World.Inv.append_nil {depth : ℕ} {w : World} (h : World.Inv depth w) {journal : Journal}
    (hcurrent : journal.Current) (name : String) :
    World.Inv depth { w with journal, files := w.files.append name [] } := by
  have hinv := h.append hcurrent name [] []
    (fun hholds => ⟨_, _, by rw [List.append_nil, List.append_nil]; exact hholds⟩)
    (fun hne => absurd rfl hne)
  rw [List.map_nil, List.append_nil] at hinv
  exact hinv

theorem oneLine_lineOf {outcome : Outcome} {text : List Char} (h : lineOf outcome = some text) :
    OneLine text := by
  obtain ⟨-, rfl⟩ := lineOf_eq_some h
  intro c hc
  have hprintable := Json.isPrintable_objectText hc
  cases hbreak : isBreak c with
  | false => rfl
  | true =>
      simp only [isBreak, Bool.or_eq_true, decide_eq_true_eq] at hbreak
      rcases hbreak with rfl | rfl <;> exact absurd hprintable (by decide)

/-- A crash in the middle of a record adds nothing to what is read. -/
theorem Holds.crash {depth : ℕ} {text : List Char} {outcomes : List Outcome}
    {lines : List (List Char)} {tail : List Char}
    (h : Holds (depth + 1) text outcomes lines tail) {outcome : Outcome} {line : List Char}
    (hline : lineOf outcome = some line) {left : ℕ}
    (hfine : if tail = [] then left < line.length
      else isSkipped (depth + 1) (tail ++ line.take left)) :
    ∃ lines' tail',
      Holds (depth + 1) (text ++ (line ++ ['\n']).take left) (outcomes ++ []) lines' tail' := by
  have hone := oneLine_lineOf hline
  have hpart : OneLine (line.take left) := fun c hc => hone c (List.mem_of_mem_take hc)
  rw [List.append_nil]
  by_cases hleft : left ≤ line.length
  · -- the end of the line is not written
    rw [List.take_append_of_le_length hleft]
    refine ⟨lines, tail ++ line.take left, h.extend hpart (fun _ => ?_)⟩
    by_cases hnil : tail = []
    · subst hnil
      rw [if_pos rfl] at hfine
      have hcut : line.take left ≠ line := by
        intro heq
        have hlength := congrArg List.length heq
        rw [List.length_take] at hlength
        omega
      have hstart : line.take left <+: line := List.take_prefix left line
      exact skipped_of_cut hline hstart hcut depth
    · rw [if_neg hnil] at hfine
      exact hfine
  · have hnil : tail ≠ [] := by
      intro hnil
      rw [if_pos hnil] at hfine
      omega
    rw [if_neg hnil, List.take_of_length_le (by omega)] at hfine
    rw [List.take_of_length_le (by
      rw [List.length_append, List.length_singleton]
      omega)]
    have hholds := h.endLine hone (Reads.skip hfine)
    rw [List.append_nil] at hholds
    exact ⟨_, _, hholds⟩

theorem World.Inv.step {depth : ℕ} {w : World} (h : World.Inv (depth + 1) w) {act : Act}
    (hfine : w.Fine (depth + 1) act) : World.Inv (depth + 1) (w.step act) := by
  cases act with
  | record today outcome =>
      obtain ⟨hfile, hcurrent⟩ := h.current.getFile today
      simp only [World.step]
      cases hline : lineOf outcome with
      | none => exact h.append_nil hcurrent _
      | some text =>
          obtain ⟨hkept, hopen, horder⟩ := hfine (by rw [hline]; rfl)
          refine h.append hcurrent _ (text ++ ['\n']) [outcome] ?_ (fun _ => ?_)
          · intro lines tail hholds
            rw [hfile] at hholds ⊢
            have htail : tail = [] := hholds.openLine.symm.trans hopen
            subst htail
            exact ⟨_, _, hholds.endLine (oneLine_lineOf hline) (Reads.one hline hkept)⟩
          · rw [hfile]
            exact horder
  | crash today outcome left =>
      obtain ⟨hfile, -⟩ := h.current.getFile today
      simp only [World.step]
      cases hline : lineOf outcome with
      | none => exact h.append_nil Journal.Current.new _
      | some text =>
          have hinv := h.append Journal.Current.new (w.journal.getFile today).2
            ((text ++ ['\n']).take left) []
            (fun {lines tail} hholds => by
              have hcrash := hfine text hline
              rw [hfile] at hholds ⊢
              rw [World.openLine, hholds.openLine] at hcrash
              exact hholds.crash hline hcrash)
            (fun hne => absurd rfl hne)
          rw [List.map_nil, List.append_nil] at hinv
          exact hinv
  | restart => exact { h with current := Journal.Current.new }
  | foreign name line =>
      have hinv := h.append h.current name (line.chars ++ ['\n']) []
        (fun {lines tail} hholds => by
          have hskipped : isSkipped (depth + 1) (w.openLine name ++ line.chars) := hfine
          rw [World.openLine, hholds.openLine] at hskipped
          exact ⟨_, _, hholds.endLine line.oneLine (Reads.skip hskipped)⟩)
        (fun hne => absurd rfl hne)
      rw [List.map_nil, List.append_nil] at hinv
      exact hinv

/-- After any run of such steps `load_all` yields every record of which the call returned,
in order and equal in every field, and nothing else. -/
theorem World.intact_of_reaches {depth : ℕ} (hdepth : 0 < depth) {w : World}
    (h : Reaches World.step (World.Fine depth) World.new w) : w.Intact depth := by
  obtain ⟨depth, rfl⟩ : ∃ n, depth = n + 1 := ⟨depth - 1, by omega⟩
  exact (h.invariant (World.Inv.new (depth + 1)) (fun _ _ hinv hfine => hinv.step hfine)).intact

def demoOutcome : Outcome
  | .tradeId => .str (.ofString "t-1")
  | .openedAt => .int 1714550400000
  | .entryPrice => .float
      { negative := false, whole := 64000, fraction := [Fin.last 9], exponent := none
        short := by decide, marked := by decide }
  | _ => .none

def demoLine : Line where
  chars := "[1, 2".toList
  oneLine := by
    have hall : "[1, 2".toList.all (fun c => isBreak c = false) = true := by decide
    exact fun c hc => of_decide_eq_true (List.all_eq_true.mp hall c hc)

/-- A crash, the next day a record, a line of another program, a restart and another
record. -/
def demoActs : List Act :=
  [.crash "2024-05-01" demoOutcome 10, .record "2024-05-02" demoOutcome,
    .foreign "2024-05-02.jsonl" demoLine, .restart, .record "2024-05-02" demoOutcome]

theorem demoActs_intact : (demoActs.foldl World.step World.new).Intact 1000 :=
  World.intact_of_reaches (by decide)
    (Reaches.start.foldl demoActs (by decide +kernel))

/-! ## When it is not -/

/-- A record glued to a brace. -/
theorem skipped_glued {outcome : Outcome} {text : List Char} (h : lineOf outcome = some text)
    (depth : ℕ) : isSkipped (depth + 1) ('\x7b' :: text) := by
  obtain ⟨-, rfl⟩ := lineOf_eq_some h
  obtain ⟨body, hbody⟩ := Json.objectText_eq (payload outcome)
  rw [hbody]
  have hstrip : strip ('\x7b' :: '\x7b' :: (body ++ ['\x7d'])) =
      '\x7b' :: '\x7b' :: (body ++ ['\x7d']) :=
    strip_braces ('\x7b' :: body)
  have hloads : Json.loads (depth + 1) ('\x7b' :: '\x7b' :: (body ++ ['\x7d'])) =
      .error .decode := by
    have hmembers : ∀ fuel cs, Json.members fuel depth [] ('\x7b' :: cs) = .error .decode := by
      intro fuel cs
      cases fuel with
      | zero => rw [Json.members]
      | succ fuel =>
          rw [Json.members]
          exact fun _ h => by cases h
    have hskip : ∀ cs, Json.skipSpace ('\x7b' :: cs) = '\x7b' :: cs := fun _ => rfl
    have hvalue : ∀ fuel cs, Json.value (fuel + 1) (depth + 1) ('\x7b' :: '\x7b' :: cs) =
        .error .decode := by
      intro fuel cs
      rw [Json.value, hskip]
      exact hmembers fuel cs
    rw [Json.loads, hskip, hvalue]
  simp only [isSkipped, hstrip, hloads, Bool.or_true]

/-- A record that follows a torn line on the same day is lost. -/
theorem not_intact_of_glued {today : String} {torn outcome : Outcome}
    (htorn : (lineOf torn).isSome) (houtcome : (lineOf outcome).isSome) (depth : ℕ) :
    ¬ ((World.new.step (.crash today torn 1)).step (.record today outcome)).Intact (depth + 1) := by
  obtain ⟨part, hpart⟩ := Option.isSome_iff_exists.mp htorn
  obtain ⟨text, htext⟩ := Option.isSome_iff_exists.mp houtcome
  let brace : World := { World.new with files := World.new.files.append (dayFile today) ['\x7b'] }
  let glued : World := { brace with files := brace.files.append (dayFile today) (text ++ ['\n']) }
  -- the same files, of which no record is asked
  have hbrace : World.Inv (depth + 1) brace := by
    refine (World.Inv.new (depth + 1)).append Journal.Current.new _ ['\x7b'] [] ?_
      (fun hne => absurd rfl hne)
    intro lines tail hholds
    have htail : tail = [] := hholds.openLine.symm
    subst htail
    have hone : OneLine ['\x7b'] := by
      intro c hc
      cases List.mem_singleton.mp hc
      decide
    have hskipped : isSkipped (depth + 1) ['\x7b'] := by
      obtain ⟨body, hbody⟩ := Json.objectText_eq (payload torn)
      refine skipped_of_cut hpart ?_ ?_ depth
      · rw [(lineOf_eq_some hpart).2, hbody]
        exact List.prefix_cons_iff.mpr (Or.inr ⟨[], rfl, List.nil_prefix⟩)
      · rw [(lineOf_eq_some hpart).2, hbody]
        simp
    exact ⟨lines, _, hholds.extend hone (fun _ => hskipped)⟩
  have hglued : World.Inv (depth + 1) glued := by
    refine hbrace.append hbrace.current _ (text ++ ['\n']) [] ?_ (fun hne => absurd rfl hne)
    intro lines tail hholds
    have hopen : brace.files.text (dayFile today) = ['\x7b'] := by
      show (Files.append _ (dayFile today) ['\x7b']).text (dayFile today) = _
      rw [Files.text_append, if_pos rfl]
      rfl
    have htail : tail = ['\x7b'] := by
      rw [← hholds.openLine, hopen]
      decide
    subst htail
    exact ⟨_, _, hholds.endLine (oneLine_lineOf htext) (Reads.skip (skipped_glued htext depth))⟩
  obtain ⟨read, hread, hmatch⟩ := hglued.intact
  cases hmatch
  rintro ⟨read, hread', hmatch⟩
  have hfiles : ((World.new.step (.crash today torn 1)).step (.record today outcome)).files =
      glued.files := by
    obtain ⟨body, hbody⟩ := Json.objectText_eq (payload torn)
    have hfirst : (part ++ ['\n']).take 1 = ['\x7b'] := by
      rw [(lineOf_eq_some hpart).2, hbody]
      rfl
    have hfile : ∀ day, (Journal.new.getFile day).2 = dayFile day := fun _ => rfl
    simp only [World.step, hpart, htext, World.new, hfile, hfirst]
    rfl
  have hreturned : ((World.new.step (.crash today torn 1)).step (.record today outcome)).returned =
      [(dayFile today, outcome)] := by
    simp only [World.step, hpart, htext]
    rfl
  have hnone : loadAll (depth + 1) glued.files = .ok [] := hread
  rw [hfiles, hnone] at hread'
  rw [hreturned] at hmatch
  cases hread'
  cases hmatch

theorem not_intact_demo :
    ¬ ((World.new.step (.crash "2024-05-01" demoOutcome 1)).step
        (.record "2024-05-01" demoOutcome)).Intact 1000 :=
  not_intact_of_glued (by decide) (by decide) 999

end CryptoTrader.OutcomeJournal
