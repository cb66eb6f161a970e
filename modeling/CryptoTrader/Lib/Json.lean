import CryptoTrader.Lib.PyValue

/-!
# The JSON decoder

`json.loads`, on the characters of a text.  Like the standard library's it
takes `NaN`, `Infinity` and `-Infinity` for numbers, refuses control characters
in a string, keeps the last of two fields with one name, and has limits on the
nesting of containers and on the digits of an integer.  In the name of a field a
lone surrogate becomes the replacement character.

A parser returns what it read and what is left of the text.  The recursive ones
are fuelled; twice the length of the text is always enough.
-/

namespace CryptoTrader.Lib.Json

/-- What is raised: the text is no JSON, an integer has too many digits, or
containers nest too deep.  The first two are a `ValueError`. -/
inductive Failure where
  | decode
  | digits
  | recursion
  deriving DecidableEq

/-! ## Space -/

def isSpace (c : Char) : Bool := c = ' ' || c = '\t' || c = '\n' || c = '\r'

def skipSpace (cs : List Char) : List Char := cs.dropWhile isSpace

/-! ## Strings -/

def hexDigit (c : Char) : Option ℕ :=
  if '0' ≤ c ∧ c ≤ '9' then some (c.toNat - 48)
  else if 'a' ≤ c ∧ c ≤ 'f' then some (c.toNat - 87)
  else if 'A' ≤ c ∧ c ≤ 'F' then some (c.toNat - 55)
  else none

/-- Four hexadecimal digits. -/
def hexUnit : List Char → Option (ℕ × List Char)
  | a :: b :: c :: d :: rest => do
      let a ← hexDigit a
      let b ← hexDigit b
      let c ← hexDigit c
      let d ← hexDigit d
      some (((a * 16 + b) * 16 + c) * 16 + d, rest)
  | _ => none

/-- The code point of a code unit, joined with its partner where it has one. -/
def joinSurrogates (unit : ℕ) (rest : List Char) : ℕ × List Char :=
  if 0xd800 ≤ unit ∧ unit ≤ 0xdbff then
    match rest with
    | '\\' :: 'u' :: more =>
        match hexUnit more with
        | some (low, more) =>
            if 0xdc00 ≤ low ∧ low ≤ 0xdfff then
              (0x10000 + (unit - 0xd800) * 0x400 + (low - 0xdc00), more)
            else (unit, rest)
        | none => (unit, rest)
    | _ => (unit, rest)
  else (unit, rest)

def escape : Char → Option Char
  | '"' => some '"'
  | '\\' => some '\\'
  | '/' => some '/'
  | 'b' => some (Char.ofNat 8)
  | 'f' => some (Char.ofNat 12)
  | 'n' => some '\n'
  | 'r' => some '\r'
  | 't' => some '\t'
  | _ => none

/-- The code points of a string after its opening quote. -/
def stringBody : ℕ → List Char → Option (List ℕ × List Char)
  | 0, _ => none
  | _ + 1, [] => none
  | _ + 1, '"' :: rest => some ([], rest)
  | fuel + 1, '\\' :: 'u' :: rest => do
      let (unit, rest) ← hexUnit rest
      let (point, rest) := joinSurrogates unit rest
      let (points, rest) ← stringBody fuel rest
      some (point :: points, rest)
  | fuel + 1, '\\' :: c :: rest => do
      let c ← escape c
      let (points, rest) ← stringBody fuel rest
      some (c.toNat :: points, rest)
  | fuel + 1, c :: rest =>
      if c = '\\' ∨ c.toNat < 0x20 then none
      else do
        let (points, rest) ← stringBody fuel rest
        some (c.toNat :: points, rest)

def isSurrogate (point : ℕ) : Bool := 0xd800 ≤ point && point ≤ 0xdfff

/-- The string of some code points. -/
def textValue (points : List ℕ) : PyValue :=
  if points.any isSurrogate then .surrogates points
  else .str (String.ofList (points.map Char.ofNat))

/-- The name of a field. -/
def fieldName (points : List ℕ) : String :=
  String.ofList (points.map (fun point => Char.ofNat (if isSurrogate point then 0xfffd else point)))

/-! ## Numbers -/

def isDigit (c : Char) : Bool := '0' ≤ c && c ≤ '9'

def digitsValue (ds : List Char) : ℕ := ds.foldl (fun n d => n * 10 + (d.toNat - 48)) 0

/-- The digits before the point: a zero, or no leading zero. -/
def integerPart : List Char → Option (List Char × List Char)
  | '0' :: rest => some (['0'], rest)
  | cs =>
      let (ds, rest) := cs.span isDigit
      if ds = [] then none else some (ds, rest)

/-- The digits after the point, if there are any. -/
def fractionPart : List Char → List Char × List Char
  | '.' :: rest =>
      let (ds, more) := rest.span isDigit
      if ds = [] then ([], '.' :: rest) else (ds, more)
  | cs => ([], cs)

/-- The exponent, if there is one. -/
def exponentPart (cs : List Char) : Option ℤ × List Char :=
  match cs with
  | e :: rest =>
      if e = 'e' ∨ e = 'E' then
        let (sign, rest) : ℤ × List Char := match rest with
          | '+' :: rest => (1, rest)
          | '-' :: rest => (-1, rest)
          | rest => (1, rest)
        let (ds, more) := rest.span isDigit
        if ds = [] then (none, cs) else (some (sign * digitsValue ds), more)
      else (none, cs)
  | [] => (none, [])

/-- A number as a float: one that is too large is infinite. -/
def floatOf (q : ℚ) : PyFloat :=
  if (PyValue.floatOverflow : ℚ) ≤ q then .posInf
  else if q ≤ -(PyValue.floatOverflow : ℚ) then .negInf
  else .fin q

/-- The most digits an integer may have. -/
def maxDigits : ℕ := 4300

/-- A number after its sign. -/
def unsignedNumber (sign : ℤ) (cs : List Char) : Except Failure (PyValue × List Char) :=
  match integerPart cs with
  | none => .error .decode
  | some (whole, rest) =>
      let (fraction, rest) := fractionPart rest
      let (exponent?, rest) := exponentPart rest
      if fraction = [] ∧ exponent? = none then
        if maxDigits < whole.length then .error .digits
        else .ok (.int (sign * digitsValue whole), rest)
      else
        let mantissa : ℚ := sign * digitsValue (whole ++ fraction)
        let exponent : ℤ := exponent?.getD 0 - fraction.length
        .ok (.float (floatOf (mantissa * 10 ^ exponent)), rest)

/-! ## Values -/

/-- The words that stand for a value. -/
def words : List (String × PyValue) :=
  [("null", .none), ("true", .bool true), ("false", .bool false), ("NaN", .float .nan),
    ("Infinity", .float .posInf), ("-Infinity", .float .negInf)]

def wordAt (cs : List Char) : Option (PyValue × List Char) :=
  (words.find? (fun word => word.1.toList.isPrefixOf cs)).map
    (fun word => (word.2, cs.drop word.1.length))

def numberAt : List Char → Except Failure (PyValue × List Char)
  | '-' :: rest => unsignedNumber (-1) rest
  | cs => unsignedNumber 1 cs

/-- The fields with one more; the last of one name stays, in the place of the
first. -/
def setField (fields : List (String × PyValue)) (name : String) (v : PyValue) :
    List (String × PyValue) :=
  if fields.any (fun field => field.1 = name) then
    fields.map (fun field => if field.1 = name then (name, v) else field)
  else fields ++ [(name, v)]

mutual

/-- A value, in which containers may nest `depth` deep. -/
def value : ℕ → ℕ → List Char → Except Failure (PyValue × List Char)
  | 0, _, _ => .error .decode
  | fuel + 1, _, '"' :: rest =>
      match stringBody fuel rest with
      | some (points, rest) => .ok (textValue points, rest)
      | none => .error .decode
  | _ + 1, 0, '[' :: _ => .error .recursion
  | fuel + 1, depth + 1, '[' :: rest =>
      match skipSpace rest with
      | ']' :: rest => .ok (.list [], rest)
      | rest => items fuel depth [] rest
  | _ + 1, 0, '\x7b' :: _ => .error .recursion
  | fuel + 1, depth + 1, '\x7b' :: rest =>
      match skipSpace rest with
      | '\x7d' :: rest => .ok (.dict [], rest)
      | rest => members fuel depth [] rest
  | _ + 1, _, cs =>
      match wordAt cs with
      | some parsed => .ok parsed
      | none => numberAt cs

/-- The rest of a list, whose next item starts here. -/
def items : ℕ → ℕ → List PyValue → List Char → Except Failure (PyValue × List Char)
  | 0, _, _, _ => .error .decode
  | fuel + 1, depth, done, cs =>
      match value fuel depth cs with
      | .error failure => .error failure
      | .ok (v, rest) =>
          match skipSpace rest with
          | ',' :: rest => items fuel depth (done ++ [v]) (skipSpace rest)
          | ']' :: rest => .ok (.list (done ++ [v]), rest)
          | _ => .error .decode

/-- The rest of an object, whose next name starts here. -/
def members : ℕ → ℕ → List (String × PyValue) → List Char → Except Failure (PyValue × List Char)
  | 0, _, _, _ => .error .decode
  | fuel + 1, depth, done, '"' :: rest =>
      match stringBody fuel rest with
      | none => .error .decode
      | some (name, rest) =>
          match skipSpace rest with
          | ':' :: rest =>
              match value fuel depth (skipSpace rest) with
              | .error failure => .error failure
              | .ok (v, rest) =>
                  let done := setField done (fieldName name) v
                  match skipSpace rest with
                  | ',' :: rest => members fuel depth done (skipSpace rest)
                  | '\x7d' :: rest => .ok (.dict done, rest)
                  | _ => .error .decode
          | _ => .error .decode
  | _ + 1, _, _, _ => .error .decode

end

/-- `json.loads`, with containers nested at most `depth` deep. -/
def loads (depth : ℕ) (cs : List Char) : Except Failure PyValue :=
  match value (2 * cs.length + 1) depth (skipSpace cs) with
  | .error failure => .error failure
  | .ok (v, rest) => if skipSpace rest = [] then .ok v else .error .decode

end CryptoTrader.Lib.Json
