import CryptoTrader.Lib.Json
import CryptoTrader.Management.Schemas

/-!
# The assessor's reading of a response

`_parse_response` and `_dict_to_decision` of `position_management/ai_assessor.py`,
with the two stops of `action_scorer.py` that complete a decision.
-/

namespace CryptoTrader

open CryptoTrader.Lib

/-! ## The text -/

/-- What `str.strip` removes. -/
def pySpace (c : Char) : Bool :=
  c.toNat ∈ [0x20, 0x85, 0xa0, 0x1680, 0x2028, 0x2029, 0x202f, 0x205f, 0x3000] ||
    (0x09 ≤ c.toNat && c.toNat ≤ 0x0d) || (0x1c ≤ c.toNat && c.toNat ≤ 0x1f) ||
    (0x2000 ≤ c.toNat && c.toNat ≤ 0x200a)

/-- `str.strip`. -/
def strip (text : List Char) : List Char :=
  ((text.dropWhile pySpace).reverse.dropWhile pySpace).reverse

/-- `str.split` at `sep`; the number is how much of a separator is still to be
skipped. -/
def splitAt (sep : List Char) : ℕ → List Char → List (List Char)
  | _, [] => [[]]
  | skip + 1, _ :: rest => splitAt sep skip rest
  | 0, c :: rest =>
      if sep.isPrefixOf (c :: rest) then [] :: splitAt sep (sep.length - 1) rest
      else
        match splitAt sep 0 rest with
        | [] => [[c]]
        | part :: parts => (c :: part) :: parts

/-- The fence of a code block. -/
def fence : List Char := "```".toList

/-- A part of the text between fences, if it starts an object. -/
def fencedObject (part : List Char) : Option (List Char) :=
  let part := strip part
  let word := "json".toList
  let part := if word.isPrefixOf part then part.drop word.length else part
  if part.head? = some '{' then some part else none

/-- The text without the code fences. -/
def unfence (text : List Char) : List Char :=
  let parts := splitAt fence 0 text
  if 1 < parts.length then (parts.findSome? fencedObject).getD text else text

/-- The text from the first opening brace to the last closing one. -/
def objectText (text : List Char) : Option (List Char) :=
  let body := ((text.dropWhile (fun c => c ≠ '{')).reverse.dropWhile (fun c => c ≠ '}')).reverse
  if body = [] then none else some body

/-! ## The stops that complete a decision -/

/-- `compute_trail_stop`. -/
def computeTrailStop (inp : PositionManagementInput) (trailAtrMultiplier : Decimal) : Decimal :=
  let pos := inp.position
  let atr := if pos.atrPct ≠ 0 then pos.atrPct * pos.ltp else 0
  let trailDistance := atr * trailAtrMultiplier
  match pos.side with
  | .long => max (pos.ltp - trailDistance) pos.stopLoss
  | .short => min (pos.ltp + trailDistance) pos.stopLoss

/-- `compute_breakeven_stop`. -/
def computeBreakevenStop (inp : PositionManagementInput) : Decimal :=
  let pos := inp.position
  let atr := if pos.atrPct ≠ 0 then pos.atrPct * pos.ltp else pos.entryPrice * (1 / 1000)
  let buffer := min (atr * (1 / 10)) (pos.entryPrice * (1 / 1000))
  match pos.side with
  | .long => pos.entryPrice + buffer
  | .short => pos.entryPrice - buffer

/-! ## The decision -/

variable (py : Python)

/-- `str(v)`, with a replacement character for a lone surrogate. -/
def pyStr : PyValue → String
  | .surrogates points => Json.fieldName points
  | v => (v.text py).getD ""

/-- `float(v)`. -/
def pyFloat (v : PyValue) : Except PyErr PyFloat :=
  match v.toFloat py.float with
  | some x => .ok x
  | none =>
      match v with
      | .str _ | .surrogates _ => .error (.valueError "could not convert string to float")
      | .int _ => .error (.overflowError "int too large to convert to float")
      | v =>
          let type := v.typeName
          .error (.typeError s!"float() argument must be a string or a real number, not '{type}'")

/-- `data.get(key, default)`. -/
def getField (data : PyValue) (key : String) (default : PyValue) : Except PyErr PyValue :=
  match data with
  | .dict fields => .ok ((PyValue.lookup fields key).getD default)
  | v =>
      let type := v.typeName
      .error (.attributeError s!"'{type}' object has no attribute 'get'")

/-- `data.get(key, {}) or {}`. -/
def getObject (data : PyValue) (key : String) : Except PyErr PyValue := do
  let v ← getField data key (.dict [])
  pure (if v.truthy then v else .dict [])

/-- `PositionActionType(v)`, or to hold where it raises. -/
def actionOf : PyValue → PositionActionType
  | .str s => (PositionActionType.ofValue s).getD .holdAndMonitor
  | _ => .holdAndMonitor

/-- A confidence clamped between 0 and 1. -/
def clampConfidence (x : PyFloat) : Decimal :=
  match PyFloat.pyMax (.fin 0) (PyFloat.pyMin (.fin 1) x) with
  | .fin q => q
  | _ => 0

/-- `_f`: a float parameter, if it is given. -/
def floatParam (exec : PyValue) (key : String) : Except PyErr (Option PyFloat) := do
  match ← getField exec key .none with
  | .none => pure none
  | v => pure (some (← pyFloat py v))

/-- The parameters of the object `execution`. -/
def executionOf (exec : PyValue) : Except PyErr ExecutionParams := do
  let type ← getField exec "type" (.str "keep")
  let newStopLoss ← floatParam py exec "new_stop_loss"
  let newTakeProfit ← floatParam py exec "new_take_profit"
  let exitQtyPct ← floatParam py exec "exit_qty_pct"
  let scaleQtyPct ← floatParam py exec "scale_qty_pct"
  let trailDistancePct ← floatParam py exec "trail_distance_pct"
  pure
    { type := pyStr py type
      newStopLoss := newStopLoss
      newTakeProfit := newTakeProfit
      exitQtyPct := exitQtyPct
      scaleQtyPct := scaleQtyPct
      trailDistancePct := trailDistancePct }

/-- The stop of an action that computes its own, unless one is given. -/
def completeStop (action : PositionActionType) (inp : PositionManagementInput)
    (execution : ExecutionParams) : ExecutionParams :=
  if execution.newStopLoss ≠ none then execution
  else
    match action with
    | .trailSl =>
        { execution with
          newStopLoss := some (.fin (computeTrailStop inp inp.constraints.trailAtrMultiplier)) }
    | .moveSlToBreakeven =>
        { execution with newStopLoss := some (.fin (computeBreakevenStop inp)) }
    | _ => execution

/-- `_dict_to_decision`. -/
def dictToDecision (data : PyValue) (inp : PositionManagementInput) :
    Except PyErr PositionManagementDecision := do
  let action := actionOf (← getField data "action" (.str "HOLD_AND_MONITOR"))
  let confidence ← pyFloat py (← getField data "confidence" (.float (.fin (1 / 2))))
  let risk ← getObject data "risk_effect"
  let _ ← pyFloat py (← getField risk "delta_risk" (.float (.fin 0)))
  let _ ← pyFloat py (← getField risk "capital_freed" (.float (.fin 0)))
  let exec ← getObject data "execution"
  let execution ← executionOf py exec
  let fallback := actionOf (← getField data "fallback" (.str "HOLD_AND_MONITOR"))
  pure
    { action := action
      confidence := clampConfidence confidence
      execution := completeStop action inp execution
      fallback := fallback }

/-- `_parse_response`. -/
def parseResponse (raw : String) (inp : PositionManagementInput) :
    Except PyErr (Option PositionManagementDecision) :=
  match objectText (unfence (strip raw.toList)) with
  | none => .ok none
  | some text =>
      match Json.loads py.recursionLimit text with
      | .error .decode => .ok none
      | .error .digits => .error (.valueError "Exceeds the limit for integer string conversion")
      | .error .recursion => .error (.runtimeError "maximum recursion depth exceeded")
      | .ok data => do
          let decision ← dictToDecision py data inp
          pure (some decision)

end CryptoTrader
