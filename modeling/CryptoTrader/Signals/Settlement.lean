import CryptoTrader.Lib.Run
import CryptoTrader.Signals.Pipeline

/-!
# What becomes of a message

A message is settled when it is executed, suppressed, vetoed or copied to the
dead letters, and acked; until then it stays pending and its count grows.
-/

namespace CryptoTrader.SignalBus

open CryptoTrader.Lib

/-! ## Settlements -/

inductive Settlement where
  | executed
  | duplicate
  | vetoed
  | deadLettered
  deriving DecidableEq

/-- What an effect settles. -/
def Effect.settles : Effect → Option Settlement
  | .deadLetter _ _ => some .deadLettered
  | .lookup _ true => some .duplicate
  | .gate _ (.ok false) => some .vetoed
  | .execute _ ⟨_, some (.ok ())⟩ => some .executed
  | _ => none

def Effect.isAck : Effect → Bool
  | .ack => true
  | _ => false

/-- The ways in which a message has been settled. -/
def settlements (effects : List Effect) : List Settlement := effects.filterMap Effect.settles

/-- How often a message has been acked. -/
def acks (effects : List Effect) : ℕ := effects.countP Effect.isAck

@[simp] theorem settlements_append (effects effects' : List Effect) :
    settlements (effects ++ effects') = settlements effects ++ settlements effects' :=
  List.filterMap_append

@[simp] theorem acks_append (effects effects' : List Effect) :
    acks (effects ++ effects') = acks effects + acks effects' :=
  List.countP_append

/-- Settled in one way, and acked. -/
def SettledBy (effects : List Effect) : Prop :=
  (∃ settlement, settlements effects = [settlement]) ∧ acks effects = 1

/-- Neither settled nor acked. -/
def Open (effects : List Effect) : Prop := settlements effects = [] ∧ acks effects = 0

theorem Open.append {effects effects' : List Effect} (h : Open effects) (h' : Open effects') :
    Open (effects ++ effects') := by
  unfold Open
  simp [h.1, h.2, h'.1, h'.2]

theorem SettledBy.prepend {effects effects' : List Effect} (h : Open effects)
    (h' : SettledBy effects') : SettledBy (effects ++ effects') := by
  obtain ⟨⟨settlement, hsettled⟩, hack⟩ := h'
  refine ⟨⟨settlement, ?_⟩, ?_⟩
  · rw [settlements_append, h.1, hsettled, List.nil_append]
  · rw [acks_append, h.2, hack]

/-! ## One handling -/

variable {consumer : Consumer}

/-- What the handling of a message does to the bus: it settles the message, or
leaves it pending while the count is within the limit. -/
structure Handled (consumer : Consumer) (msg : MessageId) (bus bus' : RedisBus)
    (effects : List Effect) : Prop where
  stream : bus'.stream = bus.stream
  delivered : bus'.delivered = bus.delivered
  now : bus'.now = bus.now
  history : bus'.history = bus.history ++ effects.map (fun effect => (msg, effect))
  ending : (SettledBy effects ∧ bus'.pending = bus.pending.erase msg) ∨
    (Open effects ∧ bus'.pending = bus.pending ∧
      (bus.pending.get? msg).getD 1 ≤ consumer.maxDeliveries)

/-- The bus after an effect. -/
def RedisBus.did (bus : RedisBus) (msg : MessageId) (effect : Effect) : RedisBus :=
  { bus with history := bus.history ++ [(msg, effect)] }

section Handling

variable {msg : MessageId} {bus : RedisBus}

theorem wp_perform {α : Type} {Q : α → RedisBus → Prop} {E : Stop → RedisBus → Prop}
    (ask : History → α) (note : α → Effect) :
    wp (perform consumer msg ask note) Q E bus ↔
      (consumer.killed bus.history → E .killed bus) ∧
        (¬ consumer.killed bus.history →
          Q (ask bus.history) (bus.did msg (note (ask bus.history)))) := by
  unfold perform
  rw [wp_bind, wp_get, wp_ite, wp_throw, wp_bind, wp_modify]
  exact Iff.rfl

/-- A handling that goes on after an effect that settles nothing. -/
theorem Handled.after {bus' : RedisBus} {effect : Effect} {effects : List Effect}
    (hopen : Open [effect]) (h : Handled consumer msg (bus.did msg effect) bus' effects) :
    Handled consumer msg bus bus' (effect :: effects) where
  stream := h.stream
  delivered := h.delivered
  now := h.now
  history := by
    rw [h.history]
    simp [RedisBus.did]
  ending := by
    rcases h.ending with ⟨hsettled, hpending⟩ | ⟨hstill, hpending⟩
    · exact Or.inl ⟨hsettled.prepend hopen, hpending⟩
    · exact Or.inr ⟨hopen.append hstill, hpending⟩

/-- The bus after an ack. -/
def RedisBus.acked (bus : RedisBus) (msg : MessageId) : RedisBus :=
  { bus.did msg .ack with pending := bus.pending.erase msg }

/-- An effect that settles the message, then the ack. -/
theorem Handled.settled {effect : Effect} {settlement : Settlement}
    (hsettles : settlements [effect] = [settlement]) (hack : effect.isAck = false) :
    Handled consumer msg bus ((bus.did msg effect).acked msg) [effect, .ack] where
  stream := rfl
  delivered := rfl
  now := rfl
  history := by simp [RedisBus.acked, RedisBus.did]
  ending := by
    refine Or.inl ⟨⟨⟨settlement, ?_⟩, ?_⟩, rfl⟩
    · exact (settlements_append [effect] [.ack]).trans (by rw [hsettles]; rfl)
    · unfold acks
      rw [List.countP_cons_of_neg (by simp [hack])]
      rfl

/-- Every signal that the message can be read as has ids and a mode that can be
looked up and sent to Redis. -/
def Readable (py : Python) (data : PyValue) : Prop :=
  ∀ newId time signal, Signal.fromPayload newId time data = .ok signal →
    signal.strategyId.text py ≠ none ∧ signal.signalId.text py ≠ none ∧
      signal.mode.hashable ∧ signal.mode.text py ≠ none

/-- The collaborators of a consumer that keeps running: the process is not
killed, and the risk gate answers. -/
structure Consumer.Steady (consumer : Consumer) : Prop where
  lives : ∀ history, consumer.killed history = false
  returns : ∀ history signal, (consumer.execute history signal).result ≠ none
  answers : ∀ gate, consumer.riskGate = some gate → ∀ history signal, ∃ verdict,
    gate history signal = .ok verdict

/-- How a handling ends. -/
def Ends (consumer : Consumer) (msg : MessageId) (bus bus' : RedisBus) : Prop :=
  ∃ effects, Handled consumer msg bus bus' effects

theorem Ends.after {bus' : RedisBus} {effect : Effect} (hopen : Open [effect])
    (h : Ends consumer msg (bus.did msg effect) bus') : Ends consumer msg bus bus' := by
  obtain ⟨effects, hhandled⟩ := h
  exact ⟨effect :: effects, hhandled.after hopen⟩

/-- A computation that handles the message and does not raise. -/
def Finishes (consumer : Consumer) (msg : MessageId) (bus : RedisBus)
    (m : Pipeline HandlerResult) : Prop :=
  wp m (fun _ bus' => Ends consumer msg bus bus') (fun _ _ => False) bus

section Steady

variable (hsteady : consumer.Steady)

include hsteady

theorem wp_performed {α : Type} {Q : α → RedisBus → Prop} {E : Stop → RedisBus → Prop}
    {ask : History → α} {note : α → Effect}
    (h : Q (ask bus.history) (bus.did msg (note (ask bus.history)))) :
    wp (perform consumer msg ask note) Q E bus := by
  rw [wp_perform, hsteady.lives]
  exact ⟨fun hkilled => absurd hkilled Bool.false_ne_true, fun _ => h⟩

theorem wp_ack {Q : Unit → RedisBus → Prop} {E : Stop → RedisBus → Prop}
    (h : Q () (bus.acked msg)) : wp (ack consumer msg) Q E bus := by
  unfold ack
  rw [wp_bind]
  refine wp_performed hsteady ?_
  rw [wp_modify]
  exact h

/-- Copied to the dead letters, and acked. -/
theorem finishes_deadLetter {payload : PyValue} {reason : Option String} (hreason : reason ≠ none)
    (result : HandlerResult) :
    Finishes consumer msg bus (do
      toDlq consumer msg payload reason
      ack consumer msg
      pure result) := by
  obtain ⟨text, rfl⟩ := Option.ne_none_iff_exists'.mp hreason
  unfold Finishes toDlq encoded
  rw [wp_bind, wp_bind, wp_pure]
  refine wp_performed hsteady ?_
  rw [wp_bind]
  refine wp_ack hsteady ?_
  rw [wp_pure]
  exact ⟨_, Handled.settled (rfl : settlements _ = [.deadLettered]) rfl⟩

/-- A message delivered too often is dead. -/
theorem poisonPill_finishes {next : Handler} {ctx : SignalCtx}
    (hnext : (bus.pending.get? ctx.msg).getD 1 ≤ consumer.maxDeliveries →
      Finishes consumer ctx.msg bus (next ctx)) :
    Finishes consumer ctx.msg bus (poisonPillHandler consumer next ctx) := by
  unfold poisonPillHandler deliveryCount Finishes
  rw [wp_bind, wp_bind, wp_get, wp_pure]
  by_cases hmany : consumer.maxDeliveries < (bus.pending.get? ctx.msg).getD 1
  · rw [if_pos hmany]
    exact finishes_deadLetter hsteady (Option.some_ne_none _) _
  · rw [if_neg hmany]
    exact hnext (not_lt.mp hmany)

/-- A message that is no signal is dead. -/
theorem parse_finishes {next : Handler} {ctx : SignalCtx}
    (hnext : ∀ newId time signal, Signal.fromPayload newId time ctx.rawData = .ok signal →
      Finishes consumer ctx.msg bus (next { ctx with signal := some signal })) :
    Finishes consumer ctx.msg bus (parseHandler consumer next ctx) := by
  unfold parseHandler Finishes
  rw [wp_bind, wp_get]
  cases hparse : Signal.fromPayload (consumer.newId bus.history) (bus.now * 1000) ctx.rawData with
  | error e => exact finishes_deadLetter hsteady (Option.some_ne_none _) _
  | ok signal => exact hnext _ _ signal hparse

/-- A signal executed before is suppressed. -/
theorem duplicate_finishes {next : Handler} {ctx : SignalCtx} {signal : Signal} {key : String}
    (hsignal : ctx.signal = some signal) (hkey : signal.idemKey consumer.py = some key)
    (hnext : Finishes consumer ctx.msg (bus.did ctx.msg (.lookup key false)) (next ctx)) :
    Finishes consumer ctx.msg bus (duplicateHandler consumer next ctx) := by
  unfold duplicateHandler ctxSignal Finishes
  rw [hsignal, wp_bind, wp_pure, hkey, wp_bind]
  unfold encoded isProcessed
  rw [wp_pure, wp_bind, wp_bind, wp_get]
  refine wp_performed hsteady ?_
  by_cases hmarked : bus.marked key
  · rw [if_pos hmarked, wp_bind]
    refine wp_ack hsteady ?_
    rw [wp_pure, hmarked]
    exact ⟨_, Handled.settled (rfl : settlements _ = [.duplicate]) rfl⟩
  · rw [if_neg hmarked]
    rw [Bool.not_eq_true] at hmarked
    rw [hmarked]
    refine wp_mono hnext ?_ (fun _ _ h => h)
    intro _ bus' hends
    exact hends.after ⟨rfl, rfl⟩

/-- A signal the gate refuses is vetoed. -/
theorem riskGate_finishes {next : Handler} {ctx : SignalCtx} {signal : Signal}
    (hsignal : ctx.signal = some signal)
    (hnext : ∀ bus', bus'.pending = bus.pending → Finishes consumer ctx.msg bus' (next ctx)) :
    Finishes consumer ctx.msg bus (riskGateHandler consumer next ctx) := by
  unfold riskGateHandler ctxSignal askGate Finishes
  rw [hsignal, wp_bind, wp_pure, wp_bind]
  cases hgate : consumer.riskGate with
  | none =>
      dsimp only
      rw [wp_pure, if_pos rfl]
      exact hnext bus rfl
  | some gate =>
      dsimp only
      rw [wp_bind]
      refine wp_performed hsteady ?_
      obtain ⟨verdict, hverdict⟩ := hsteady.answers gate hgate bus.history signal
      rw [hverdict]
      dsimp only
      rw [wp_pure]
      cases verdict with
      | true =>
          rw [if_pos rfl]
          refine wp_mono (hnext _ rfl) ?_ (fun _ _ h => h)
          intro _ bus' hends
          exact hends.after ⟨rfl, rfl⟩
      | false =>
          rw [if_neg Bool.false_ne_true, wp_bind]
          refine wp_ack hsteady ?_
          rw [wp_pure]
          exact ⟨_, Handled.settled (rfl : settlements _ = [.vetoed]) rfl⟩

/-- A signal of a mode that has no adapter is dead. -/
theorem adapter_finishes {next : Handler} {ctx : SignalCtx} {signal : Signal}
    (hsignal : ctx.signal = some signal) (hhashable : signal.mode.hashable)
    (htext : signal.mode.text consumer.py ≠ none)
    (hnext : ∀ adapter, Finishes consumer ctx.msg bus (next { ctx with adapter := some adapter })) :
    Finishes consumer ctx.msg bus (adapterHandler consumer next ctx) := by
  have hdead : Finishes consumer ctx.msg bus (do
      let reason := (signal.mode.text consumer.py).map (fun mode => s!"unknown mode '{mode}'")
      toDlq consumer ctx.msg ctx.rawData reason
      ack consumer ctx.msg
      pure (.stop (reason.getD ""))) := by
    refine finishes_deadLetter hsteady ?_ _
    rw [ne_eq, Option.map_eq_none_iff]
    exact htext
  unfold adapterHandler ctxSignal lookupAdapter Finishes
  rw [hsignal, wp_bind, wp_pure, if_pos hhashable, wp_bind]
  cases hmode : signal.mode with
  | str name =>
      dsimp only
      rw [wp_pure]
      cases consumer.adapters.find? (fun adapter => adapter = name) with
      | some adapter =>
          have hadapter := hnext adapter
          rw [hsignal] at hadapter
          exact hadapter
      | none =>
          rw [hmode] at hdead
          exact hdead
  | _ =>
      dsimp only
      rw [wp_pure]
      rw [hmode] at hdead
      exact hdead

/-- The open is recorded, if that is asked for. -/
theorem wp_recordOpened {Q : Unit → RedisBus → Prop} {E : Stop → RedisBus → Prop}
    (h : ∀ recorded, recorded = [] ∨ (∃ result, recorded = [Effect.recordOpen result]) →
      Q () { bus with history := bus.history ++ recorded.map (fun effect => (msg, effect)) }) :
    wp (recordOpened consumer msg) Q E bus := by
  unfold recordOpened
  cases consumer.recordOpen with
  | none =>
      rw [wp_pure]
      have hQ := h [] (Or.inl rfl)
      simpa using hQ
  | some recordOpen =>
      dsimp only
      rw [wp_bind]
      refine wp_performed hsteady ?_
      rw [wp_pure]
      exact h [.recordOpen (recordOpen bus.history)] (Or.inr ⟨_, rfl⟩)

/-- What follows an execution: the open is recorded, the signal marked, the
message acked. -/
theorem wp_settleExecuted {signal : Signal} {key : String}
    (hkey : signal.idemKey consumer.py = some key) {Q : HandlerResult → RedisBus → Prop}
    {E : Stop → RedisBus → Prop}
    (h : ∀ recorded, recorded = [] ∨ (∃ result, recorded = [Effect.recordOpen result]) →
      Q .proceed
        { bus with
          pending := bus.pending.erase msg
          markers := bus.markers.set key (bus.now + consumer.idempotencyTtl)
          history := bus.history ++ recorded.map (fun effect => (msg, effect)) ++
            [(msg, .mark key)] ++ [(msg, .ack)] }) :
    wp (settleExecuted consumer msg signal) Q E bus := by
  unfold settleExecuted
  rw [wp_bind]
  refine wp_recordOpened hsteady (fun recorded hrecorded => ?_)
  unfold encoded markProcessed
  rw [hkey, wp_bind, wp_pure, wp_bind, wp_bind]
  refine wp_performed hsteady ?_
  rw [wp_modify, wp_bind]
  refine wp_ack hsteady ?_
  rw [wp_pure]
  exact h recorded hrecorded

omit hsteady in
theorem settlements_execute {signal : Signal} {outcome : Execution}
    (h : outcome.result = some (.ok ())) : settlements [.execute signal outcome] = [.executed] := by
  obtain ⟨sent, result⟩ := outcome
  subst h
  rfl

omit hsteady in
theorem open_execute {signal : Signal} {outcome : Execution} {e : PyErr}
    (h : outcome.result = some (.error e)) : Open [.execute signal outcome] := by
  obtain ⟨sent, result⟩ := outcome
  subst h
  exact ⟨rfl, rfl⟩

/-- A signal is executed, or stays pending because the adapter failed. -/
theorem execute_finishes (next : Handler) {ctx : SignalCtx} {signal : Signal} {key : String}
    (hsignal : ctx.signal = some signal) (hkey : signal.idemKey consumer.py = some key)
    (hcount : (bus.pending.get? ctx.msg).getD 1 ≤ consumer.maxDeliveries) :
    Finishes consumer ctx.msg bus (executeHandler consumer next ctx) := by
  unfold executeHandler ctxSignal Finishes
  rw [hsignal, wp_bind, wp_pure, wp_bind]
  refine wp_performed hsteady ?_
  cases hresult : (consumer.execute bus.history signal).result with
  | none => exact absurd hresult (hsteady.returns bus.history signal)
  | some result =>
      cases result with
      | error e =>
          dsimp only
          rw [wp_pure]
          exact ⟨_, rfl, rfl, rfl, rfl, Or.inr ⟨open_execute hresult, rfl, hcount⟩⟩
      | ok =>
          refine wp_settleExecuted hsteady hkey (fun recorded hrecorded => ?_)
          have hafter : settlements (recorded ++ [Effect.mark key, Effect.ack]) = [] ∧
              acks (recorded ++ [Effect.mark key, Effect.ack]) = 1 := by
            rcases hrecorded with rfl | ⟨_, rfl⟩
            · exact ⟨rfl, rfl⟩
            · exact ⟨rfl, rfl⟩
          refine ⟨[.execute signal (consumer.execute bus.history signal)] ++
            (recorded ++ [.mark key, .ack]), rfl, rfl, rfl, ?_, Or.inl ⟨⟨⟨.executed, ?_⟩, ?_⟩, rfl⟩⟩
          · simp [RedisBus.did]
          · rw [settlements_append, settlements_execute hresult, hafter.1]
            rfl
          · rw [acks_append, hafter.2]
            rfl

/-- The whole pipeline, on a message that can be read. -/
theorem handle_finishes {data : PyValue} (hreadable : Readable consumer.py data) :
    Finishes consumer msg bus (handle consumer msg data) := by
  refine poisonPill_finishes hsteady (fun hcount => ?_)
  refine parse_finishes hsteady (fun newId time signal hparse => ?_)
  obtain ⟨hstrategy, hid, hhashable, hmode⟩ := hreadable newId time signal hparse
  obtain ⟨key, hkey⟩ : ∃ key, signal.idemKey consumer.py = some key := by
    obtain ⟨strategyId, hstrategyId⟩ := Option.ne_none_iff_exists'.mp hstrategy
    obtain ⟨signalId, hsignalId⟩ := Option.ne_none_iff_exists'.mp hid
    unfold Signal.idemKey
    rw [hstrategyId, hsignalId]
    exact ⟨_, rfl⟩
  refine duplicate_finishes hsteady rfl hkey ?_
  refine riskGate_finishes hsteady rfl (fun bus' hpending => ?_)
  refine adapter_finishes hsteady rfl hhashable hmode (fun adapter => ?_)
  refine execute_finishes hsteady (chain []) rfl hkey ?_
  rw [hpending]
  exact hcount

end Steady

end Handling

end CryptoTrader.SignalBus
