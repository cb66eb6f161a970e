import CryptoTrader.Signals.Bus

/-!
# The signal pipeline

The handlers of `execution/signal_bus.py`, chained as in `patterns/chain.py`,
and the loop of `SignalConsumer`.  What the adapters, the risk gate and
`record_open` answer, where the process is killed and the id of a signal that
brings none are functions of the history, so a statement about all consumers is
one about every behaviour.
-/

namespace CryptoTrader.SignalBus

open CryptoTrader.Lib

/-- A consumer with what it was given.  The adapters are known by their mode. -/
structure Consumer where
  py : Python
  adapters : List String
  maxDeliveries : ℕ := 3
  idempotencyTtl : ℕ := 300
  riskGate : Option (History → Signal → Except PyErr Bool) := none
  recordOpen : Option (History → Except PyErr Unit) := none
  execute : History → Signal → Execution
  newId : History → String
  killed : History → Bool := fun _ => false

/-- How a computation ends early: an exception, or the process is killed. -/
inductive Stop where
  | raised (e : PyErr)
  | killed
  deriving DecidableEq

abbrev Pipeline := EStateM Stop RedisBus

structure HandlerResult where
  ok : Bool
  reason : String := ""
  deriving DecidableEq

/-- `HandlerResult.stop`. -/
def HandlerResult.stop (reason : String) : HandlerResult := ⟨false, reason⟩

/-- `HandlerResult.proceed`. -/
def HandlerResult.proceed : HandlerResult := ⟨true, ""⟩

/-- The context of a message in the pipeline. -/
structure SignalCtx where
  msg : MessageId
  rawData : PyValue
  signal : Option Signal := none
  adapter : Option String := none

abbrev Handler := SignalCtx → Pipeline HandlerResult

/-- A handler before it is set its next. -/
abbrev Link := Handler → Handler

/-- `Chain`: each handler forwards to the one behind it. -/
def chain : List Link → Handler
  | [] => fun _ => pure .proceed
  | link :: rest => link (chain rest)

variable (consumer : Consumer)

/-! ## Redis -/

/-- Do something for a message, unless the process is killed first. -/
def perform {α : Type} (msg : MessageId) (ask : History → α) (note : α → Effect) : Pipeline α := do
  let bus ← get
  if consumer.killed bus.history then throw .killed
  else do
    let answer := ask bus.history
    modify (fun bus => { bus with history := bus.history ++ [(msg, note answer)] })
    pure answer

/-- Text that is sent to Redis; what cannot be encoded raises. -/
def encoded : Option String → Pipeline String
  | some text => pure text
  | none => throw (.raised (.valueError "surrogates not allowed"))

/-- `ack`. -/
def ack (msg : MessageId) : Pipeline Unit := do
  perform consumer msg (fun _ => ()) (fun _ => .ack)
  modify (fun bus => { bus with pending := bus.pending.erase msg })

/-- `to_dlq`. -/
def toDlq (msg : MessageId) (payload : PyValue) (reason : Option String) : Pipeline Unit := do
  let reason ← encoded reason
  perform consumer msg (fun _ => ()) (fun _ => .deadLetter payload reason)

/-- `is_processed`. -/
def isProcessed (msg : MessageId) (key : String) : Pipeline Bool := do
  let bus ← get
  perform consumer msg (fun _ => bus.marked key) (.lookup key)

/-- `mark_processed`. -/
def markProcessed (msg : MessageId) (key : String) : Pipeline Unit := do
  perform consumer msg (fun _ => ()) (fun _ => .mark key)
  modify (fun bus =>
    { bus with markers := bus.markers.set key (bus.now + consumer.idempotencyTtl) })

/-- `delivery_count`. -/
def deliveryCount (msg : MessageId) : Pipeline ℕ := do
  let bus ← get
  pure ((bus.pending.get? msg).getD 1)

/-! ## The handlers -/

/-- `_PoisonPillHandler`. -/
def poisonPillHandler : Link := fun next ctx => do
  let count ← deliveryCount ctx.msg
  if consumer.maxDeliveries < count then do
    let limit := consumer.maxDeliveries
    toDlq consumer ctx.msg ctx.rawData (some s!"max_deliveries>{limit}")
    ack consumer ctx.msg
    pure (.stop "poison pill")
  else next ctx

/-- `_ParseHandler`. -/
def parseHandler : Link := fun next ctx => do
  let bus ← get
  match Signal.fromPayload (consumer.newId bus.history) (bus.now * 1000) ctx.rawData with
  | .error e => do
      let reason := "malformed: " ++ e.pyStr
      toDlq consumer ctx.msg ctx.rawData (some reason)
      ack consumer ctx.msg
      pure (.stop reason)
  | .ok signal => next { ctx with signal := some signal }

/-- The signal of a context, which is read once it has been parsed. -/
def ctxSignal (ctx : SignalCtx) : Pipeline Signal :=
  match ctx.signal with
  | some signal => pure signal
  | none => throw (.raised (.attributeError "'NoneType' object has no attribute 'strategy_id'"))

/-- The idempotency key of a signal, if it can be encoded. -/
def Signal.idemKey (py : Python) (signal : Signal) : Option String := do
  let strategyId ← signal.strategyId.text py
  let signalId ← signal.signalId.text py
  some s!"idem:{strategyId}:{signalId}"

/-- `_DuplicateHandler`. -/
def duplicateHandler : Link := fun next ctx => do
  let signal ← ctxSignal ctx
  let key ← encoded (signal.idemKey consumer.py)
  if ← isProcessed consumer ctx.msg key then do
    ack consumer ctx.msg
    pure (.stop "duplicate")
  else next ctx

/-- What the risk gate says of a signal. -/
def askGate (msg : MessageId) (signal : Signal) : Pipeline Bool :=
  match consumer.riskGate with
  | none => pure true
  | some gate => do
      match ← perform consumer msg (fun history => gate history signal) (.gate signal) with
      | .ok verdict => pure verdict
      | .error e => throw (.raised e)

/-- `_RiskGateHandler`. -/
def riskGateHandler : Link := fun next ctx => do
  let signal ← ctxSignal ctx
  if ← askGate consumer ctx.msg signal then next ctx
  else do
    ack consumer ctx.msg
    pure (.stop "risk gate veto")

/-- `adapters.get(mode)`. -/
def lookupAdapter (mode : PyValue) : Pipeline (Option String) :=
  if mode.hashable then
    match mode with
    | .str name => pure (consumer.adapters.find? (fun adapter => adapter = name))
    | _ => pure none
  else
    let type := mode.typeName
    throw (.raised (.typeError s!"unhashable type: '{type}'"))

/-- `_AdapterHandler`. -/
def adapterHandler : Link := fun next ctx => do
  let signal ← ctxSignal ctx
  match ← lookupAdapter consumer signal.mode with
  | some adapter => next { ctx with adapter := some adapter }
  | none => do
      let reason := (signal.mode.text consumer.py).map (fun mode => s!"unknown mode '{mode}'")
      toDlq consumer ctx.msg ctx.rawData reason
      ack consumer ctx.msg
      pure (.stop (reason.getD ""))

/-- Record the open, whatever that raises. -/
def recordOpened (msg : MessageId) : Pipeline Unit :=
  match consumer.recordOpen with
  | none => pure ()
  | some recordOpen => do
      let _ ← perform consumer msg recordOpen .recordOpen
      pure ()

/-- What follows an execution that did not raise. -/
def settleExecuted (msg : MessageId) (signal : Signal) : Pipeline HandlerResult := do
  recordOpened consumer msg
  let key ← encoded (signal.idemKey consumer.py)
  markProcessed consumer msg key
  ack consumer msg
  pure .proceed

/-- `_ExecuteHandler`. -/
def executeHandler : Link := fun _ ctx => do
  let signal ← ctxSignal ctx
  let outcome ← perform consumer ctx.msg (fun history => consumer.execute history signal)
    (.execute signal)
  match outcome.result with
  | none => throw .killed
  | some (.error e) => pure (.stop ("adapter error: " ++ e.pyStr))
  | some (.ok ()) => settleExecuted consumer ctx.msg signal

/-- `_build_pipeline`. -/
def pipeline : Handler :=
  chain [poisonPillHandler consumer, parseHandler consumer, duplicateHandler consumer,
    riskGateHandler consumer, adapterHandler consumer, executeHandler consumer]

/-- `_handle`. -/
def handle (msg : MessageId) (data : PyValue) : Pipeline HandlerResult :=
  pipeline consumer { msg := msg, rawData := data }

/-! ## The loop -/

/-- Decode what was read. -/
def decodeAll (stream : List Entry) : List MessageId → Pipeline (List (MessageId × PyValue))
  | [] => pure []
  | msg :: rest => do
      match decode consumer.py.recursionLimit (stream.getD msg []) with
      | none => throw (.raised (.runtimeError "maximum recursion depth exceeded"))
      | some data => do
          let others ← decodeAll stream rest
          pure ((msg, data) :: others)

/-- `read_new`: messages never delivered before. -/
def readNew (count : ℕ) : Pipeline (List (MessageId × PyValue)) := do
  let bus ← get
  let messages := List.range' bus.delivered (min count (bus.stream.length - bus.delivered))
  modify (fun bus =>
    { bus with
      delivered := bus.delivered + messages.length
      pending := messages.foldl (fun pending msg => pending.set msg 1) bus.pending })
  decodeAll consumer bus.stream messages

/-- `read_pending`: messages delivered and not acked, once more. -/
def readPending (count : ℕ) : Pipeline (List (MessageId × PyValue)) := do
  let bus ← get
  let messages := ((List.range bus.delivered).filter (fun msg => (bus.pending.get? msg).isSome)).take
    count
  modify (fun bus =>
    { bus with
      pending := messages.foldl (fun pending msg => pending.modify msg (· + 1)) bus.pending })
  decodeAll consumer bus.stream messages

/-- Handle what was read, in order. -/
def handleAll : List (MessageId × PyValue) → Pipeline Unit
  | [] => pure ()
  | (msg, data) :: rest => do
      let _ ← handle consumer msg data
      handleAll rest

/-- One turn of `run_forever`. -/
def runBatch : Pipeline Unit := do
  let backlog ← readPending consumer 100
  handleAll consumer backlog
  let new ← readNew consumer 10
  handleAll consumer new

/-- `run_forever` for some batches. -/
def runForever : ℕ → Pipeline Unit
  | 0 => pure ()
  | maxBatches + 1 => do
      runBatch consumer
      runForever maxBatches

/-- `recover_pending`. -/
def recoverPending : Pipeline ℕ := do
  let backlog ← readPending consumer 100
  handleAll consumer backlog
  pure backlog.length

end CryptoTrader.SignalBus
