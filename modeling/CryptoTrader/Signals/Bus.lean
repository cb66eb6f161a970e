import CryptoTrader.Lib.Dict
import CryptoTrader.Lib.Hoare
import CryptoTrader.Lib.Json
import CryptoTrader.Wallet.Types

/-!
# The signal bus

`RedisStreamBus` of `infra/redis_streams.py` over one stream with one consumer
group, and the record `Signal` of `execution/signal_bus.py`.  A message is known
by its place in the stream.  Redis redelivers what is not acked and keeps a key
until its time is up; what the consumer did, with the answers it got, is the
history.
-/

namespace CryptoTrader.SignalBus

open CryptoTrader.Lib

/-- The place of a message in the stream. -/
abbrev MessageId := ℕ

/-- The fields of a stream entry. -/
abbrev Entry := List (String × String)

/-! ## Signals -/

/-- `Signal`, whose fields hold whatever the payload has in them. -/
structure Signal where
  strategyId : PyValue
  symbol : PyValue
  side : PyValue
  quantity : PyValue
  mode : PyValue
  orderType : PyValue
  price : PyValue
  timestamp : PyValue
  signalId : PyValue
  metadata : PyValue

/-- The fields of the dataclass, in order; the first four have no default. -/
def Signal.fieldNames : List String :=
  ["strategy_id", "symbol", "side", "quantity", "mode", "order_type", "price", "timestamp",
    "signal_id", "metadata"]

def Signal.required : List String := Signal.fieldNames.take 4

/-- The names that a `TypeError` lists. -/
def quotedNames : List String → String
  | [] => ""
  | [name] => s!"'{name}'"
  | [name, last] => s!"'{name}' and '{last}'"
  | names =>
      let last := names.getLastD ""
      ", ".intercalate (names.dropLast.map (fun name => s!"'{name}'")) ++ s!", and '{last}'"

/-- What calling `Signal` without `names` raises. -/
def missingArguments (names : List String) : PyErr :=
  let count := names.length
  let plural := if count = 1 then "" else "s"
  .typeError (s!"Signal.__init__() missing {count} required positional argument{plural}: " ++
    quotedNames names)

/-- `sub in text`. -/
def containsText (sub text : List Char) : Bool :=
  text.tails.any (fun tail => sub.isPrefixOf tail)

/-- `Signal.from_payload`, with the id and the time that default to new ones. -/
def Signal.fromPayload (newId : String) (time : ℕ) : PyValue → Except PyErr Signal
  | .dict fields =>
      let get name default := (PyValue.lookup fields name).getD default
      let missing := Signal.required.filter (fun name => (PyValue.lookup fields name).isNone)
      if missing ≠ [] then .error (missingArguments missing)
      else
        .ok
          { strategyId := get "strategy_id" .none
            symbol := get "symbol" .none
            side := get "side" .none
            quantity := get "quantity" .none
            mode := get "mode" (.str "paper")
            orderType := get "order_type" (.str "market")
            price := get "price" (.float (.fin 0))
            timestamp := get "timestamp" (.int time)
            signalId := get "signal_id" (.str newId)
            metadata := get "metadata" (.dict []) }
  | .list xs =>
      let isName x := match x with
        | .str s => Signal.fieldNames.contains s
        | _ => false
      if xs.any isName then .error (.typeError "list indices must be integers or slices, not str")
      else .error (missingArguments Signal.required)
  | .str s =>
      if Signal.fieldNames.any (fun name => containsText name.toList s.toList) then
        .error (.typeError "string indices must be integers, not 'str'")
      else .error (missingArguments Signal.required)
  | v =>
      let type := v.typeName
      .error (.typeError s!"argument of type '{type}' is not iterable")

/-! ## The history -/

/-- What calling an adapter came to: whether an entry order was sent, and how
the call ended.  Nothing is returned where the process was killed. -/
structure Execution where
  sent : Bool
  result : Option (Except PyErr Unit)

/-- What the consumer did for a message, with the answer it got. -/
inductive Effect where
  | deadLetter (payload : PyValue) (reason : String)
  | lookup (key : String) (found : Bool)
  | gate (signal : Signal) (verdict : Except PyErr Bool)
  | execute (signal : Signal) (outcome : Execution)
  | recordOpen (result : Except PyErr Unit)
  | mark (key : String)
  | ack

/-- The effects, each with its message. -/
abbrev History := List (MessageId × Effect)

/-- What has been done for one message. -/
def History.of (history : History) (msg : MessageId) : List Effect :=
  (history.filter (fun entry => entry.1 = msg)).map Prod.snd

theorem History.of_append (history history' : History) (msg : MessageId) :
    History.of (history ++ history') msg = history.of msg ++ History.of history' msg := by
  unfold History.of
  rw [List.filter_append, List.map_append]

/-! ## Redis -/

/-- The stream with its group, and the keys with the time they expire.  `pending`
holds how often each message that is not acked has been delivered. -/
structure RedisBus where
  stream : List Entry := []
  delivered : ℕ := 0
  pending : Dict MessageId ℕ := Dict.empty
  markers : Dict String ℕ := Dict.empty
  now : ℕ := 0
  history : History := []

/-- The marker is there and has not expired. -/
def RedisBus.marked (bus : RedisBus) (key : String) : Bool :=
  (bus.markers.get? key).any (fun expiry => bus.now < expiry)

/-- `_decode`; nothing where a payload nests too deep and `json.loads` raises
past it. -/
def decode (recursionLimit : ℕ) (fields : Entry) : Option PyValue :=
  match (fields.find? (fun field => field.1 = "payload")).map Prod.snd with
  | none => some (.dict (fields.map (fun field => (field.1, .str field.2))))
  | some raw =>
      match Json.loads recursionLimit raw.toList with
      | .ok data => some data
      | .error .recursion => none
      | .error _ => some (.dict [("payload", .str raw)])

end CryptoTrader.SignalBus
