import CryptoTrader.Risk.Caps
import CryptoTrader.Signals.AtMostOnce
import CryptoTrader.Signals.WalletAdapter

/-!
# Counting the opens

A `SignalConsumer` whose adapter is the wallet's and whose `record_open_fn` is that of the
`RiskManager`.  The manager counts whatever the adapter returns from, so its count is that of the
positions only as long as every entry is opened or raises before.
-/

namespace CryptoTrader.SignalBus

open CryptoTrader.Lib CryptoTrader.Risk

/-! ## The trader -/

/-- What `risk_gate` is: the one built on the same risk manager, or another one, if any. -/
inductive RiskGate where
  | built
  | other (gate : Option (History → Signal → Except PyErr Bool))

/-- A consumer that trades, with the risk manager as it was at the start.  The clock, the balance
that the gate reads, what saving the manager's file raises and the world in which a signal is
executed are functions of the history.  An opening is dated by the clock when the adapter has
returned. -/
structure Trader where
  env : Env
  adapter : WalletSignalAdapter
  start : RiskSession
  gate : RiskGate := .built
  maxDeliveries : ℕ := 3
  idempotencyTtl : ℕ := 300
  day : History → Day
  time : History → Time
  balance : History → Option Decimal := fun _ => none
  saves : History → Except PyErr Unit := fun _ => .ok ()
  newId : History → String
  world : History → World
  /-- What comes of a signal of which the wallet has no counterpart, and whether it opens. -/
  unheld : History → Signal → Execution × Bool
  aligned : ∀ history, (world history).wallet.Aligned
  day_mono : ∀ {history history'}, history <+: history' → day history ≤ day history'
  time_mono : ∀ {history history'}, history <+: history' → time history ≤ time history'
  start_past : ∀ d, start.manager.lastTradeDate = some d → d ≤ day []

namespace Trader

variable (trader : Trader)

/-- An entry order reached the venue, or a position was opened. -/
def sends (s s' : World) : Bool :=
  !(created (s'.trace.drop s.trace.length)).isEmpty || opens s s'

/-- `adapter.execute`, and whether a position was opened. -/
def execution (history : History) (signal : Signal) : Execution × Bool :=
  match (trader.adapter.request signal).run with
  | none => trader.unheld history signal
  | some (.error e) => ({ sent := false, result := some (.error e) }, false)
  | some (.ok r) =>
      let s := trader.world history
      match trader.adapter.execute trader.env r s with
      | .ok _ s' => ({ sent := sends s s', result := some (.ok ()) }, opens s s')
      | .error e s' => ({ sent := sends s s', result := some (.error e) }, opens s s')

/-- What the gate asks. -/
def query (history : History) : TradeQuery := { currentBalance := trader.balance history }

/-- A history, with the risk manager after it and the positions opened in it. -/
structure Books where
  history : History := []
  session : RiskSession
  opened : List Risk.Open := []

/-- What one effect does to the books. -/
def note (b : Books) (entry : MessageId × Effect) : Books :=
  let history := b.history ++ [entry]
  let day := trader.day b.history
  let time := trader.time b.history
  match entry.2, trader.gate with
  | .gate _ _, .built =>
      { b with
        history := history
        session := (b.session.canTrade day time (trader.query b.history)).2 }
  | .recordOpen _, _ => { b with history := history, session := b.session.recordOpen day time }
  | .execute signal _, _ =>
      { b with
        history := history
        opened := b.opened ++
          if (trader.execution b.history signal).2 then
            [{ day := trader.day history, time := trader.time history }]
          else [] }
  | _, _ => { b with history := history }

/-- The books after a history. -/
def books (history : History) : Books := history.foldl trader.note { session := trader.start }

/-- The consumer. -/
def consumer : Consumer where
  py := trader.adapter.py
  adapters := ["paper", "live"]
  maxDeliveries := trader.maxDeliveries
  idempotencyTtl := trader.idempotencyTtl
  riskGate :=
    match trader.gate with
    | .built => some (fun history _ =>
        .ok ((trader.books history).session.canTrade (trader.day history) (trader.time history)
          (trader.query history)).1.1)
    | .other gate => gate
  recordOpen := some trader.saves
  execute history signal := (trader.execution history signal).1
  newId := trader.newId

end Trader

/-! ## The manager -/

/-- The daily count once the day has been rolled over to `d`. -/
def countOn (m : RiskManager) (d : Day) : ℕ := (m.resetDailyStatsIfNewDay d).dailyCount

section Manager

variable {m : RiskManager} {today d : Day} {now : Time}

theorem countOn_eq (m : RiskManager) (d : Day) :
    countOn m d = if m.lastTradeDate = some d then m.dailyCount else 0 := by
  unfold countOn RiskManager.resetDailyStatsIfNewDay
  by_cases h : m.lastTradeDate = some d
  · rw [if_pos h, if_pos h]
  · rw [if_neg h, if_neg h]

/-- Only the date and the count matter. -/
theorem countOn_congr {m' : RiskManager} (hstate : m'.toRiskState = m.toRiskState) (d : Day) :
    countOn m' d = countOn m d := by
  rw [countOn_eq, countOn_eq, hstate]

/-- The manager has not been at a later day. -/
def NotPast (m : RiskManager) (today : Day) : Prop := ∀ d, m.lastTradeDate = some d → d ≤ today

theorem notPast_reset (m : RiskManager) (today : Day) :
    NotPast (m.resetDailyStatsIfNewDay today) today := by
  intro d hd
  rw [SharedRisk.resetDailyStats_date] at hd
  exact (Option.some.inj hd).ge

theorem countOn_reset (h : NotPast m today) (hle : today ≤ d) :
    countOn (m.resetDailyStatsIfNewDay today) d = countOn m d := by
  rw [countOn_eq, SharedRisk.resetDailyStats_date]
  by_cases hd : today = d
  · rw [hd, if_pos rfl]
    rfl
  · have hlater : m.lastTradeDate ≠ some d := fun heq => hd (le_antisymm hle (h d heq))
    rw [if_neg (fun heq => hd (Option.some.inj heq)), countOn_eq, if_neg hlater]

/-- What the gate leaves of the counts. -/
theorem canTrade_keeps (h : NotPast m today) (now : Time) (q : TradeQuery) :
    let m' := (m.canTrade today now q).2
    (∀ d, today ≤ d → countOn m' d = countOn m d) ∧ NotPast m' today ∧
      ∀ later, now ≤ later →
        recent 60 later m'.recentOpenTimes = recent 60 later m.recentOpenTimes := by
  intro m'
  cases hdisabled : m.limits.disabled with
  | true =>
      have hsame : m' = m := (m.canTrade_manager today now q).trans (by rw [hdisabled]; rfl)
      rw [hsame]
      exact ⟨fun _ _ => rfl, h, fun _ _ => rfl⟩
  | false =>
      obtain ⟨hstate, hrecent⟩ := SharedRisk.canTrade_counts hdisabled today now q
      refine ⟨fun d hd => ?_, fun d hd => ?_, fun later hlater => ?_⟩
      · rw [countOn_congr hstate, countOn_reset h hd]
      · exact notPast_reset m today d (hstate ▸ hd)
      · rw [← recent_recent hlater, hrecent, recent_recent hlater]

theorem countOn_recordOpen (h : NotPast m today) (hle : today ≤ d) {file : Option RiskState} :
    countOn (RiskSession.recordOpen ⟨m, file⟩ today now).manager d =
      countOn m d + if today = d then 1 else 0 := by
  have hcount := countOn_reset h hle
  rw [countOn_eq] at hcount ⊢
  show (if (m.resetDailyStatsIfNewDay today).lastTradeDate = some d then _ else 0) = _
  rw [SharedRisk.resetDailyStats_date] at hcount ⊢
  by_cases hd : today = d
  · rw [if_pos (congrArg some hd)] at hcount ⊢
    rw [if_pos hd, ← hcount]
    rfl
  · have hsome : some today ≠ some d := fun heq => hd (Option.some.inj heq)
    rw [if_neg hsome] at hcount ⊢
    rw [if_neg hd, ← hcount]

end Manager

/-! ## The books -/

section Books

variable {trader : Trader} {history : History} {entry : MessageId × Effect}

/-- The manager has counted the positions opened on the day, and its velocity window holds their
times. -/
structure Trader.Exact (trader : Trader) (history : History) : Prop where
  count : ∀ d, trader.day history ≤ d →
    countOn (trader.books history).session.manager d =
      countOn trader.start.manager d + (SharedRisk.opensOn d (trader.books history).opened).length
  window : ∀ now, trader.time history ≤ now →
    recent 60 now (trader.books history).session.manager.recentOpenTimes =
      recent 60 now (trader.start.manager.recentOpenTimes ++
        (trader.books history).opened.map Risk.Open.time)
  notPast : NotPast (trader.books history).session.manager (trader.day history)

theorem Trader.books_append (trader : Trader) (history : History) (entry : MessageId × Effect) :
    trader.books (history ++ [entry]) = trader.note (trader.books history) entry :=
  List.foldl_append

@[simp] theorem Trader.history_note (trader : Trader) (b : Books) (entry : MessageId × Effect) :
    (trader.note b entry).history = b.history ++ [entry] := by
  unfold note
  split
  all_goals rfl

@[simp] theorem Trader.history_books (trader : Trader) (history : History) :
    (trader.books history).history = history := by
  induction history using List.reverseRecOn with
  | nil => rfl
  | append_singleton history entry ih => rw [books_append, history_note, ih]

theorem Trader.exact_nil (trader : Trader) : trader.Exact [] := by
  refine ⟨fun d _ => ?_, fun now _ => ?_, trader.start_past⟩
  · exact (Nat.add_zero _).symm
  · exact congrArg (recent 60 now) (List.append_nil _).symm

/-- Nothing is opened and nothing is recorded. -/
theorem Trader.Exact.idle (h : trader.Exact history)
    (hsession : (trader.books (history ++ [entry])).session = (trader.books history).session)
    (hopened : (trader.books (history ++ [entry])).opened = (trader.books history).opened) :
    trader.Exact (history ++ [entry]) := by
  have hlater := List.prefix_append history [entry]
  refine ⟨fun d hd => ?_, fun now hnow => ?_, fun d hd => ?_⟩
  · rw [hsession, hopened]
    exact h.count d ((trader.day_mono hlater).trans hd)
  · rw [hsession, hopened]
    exact h.window now ((trader.time_mono hlater).trans hnow)
  · rw [hsession] at hd
    exact (h.notPast d hd).trans (trader.day_mono hlater)

/-- The gate is asked. -/
theorem Trader.Exact.gated (h : trader.Exact history)
    (hsession : (trader.books (history ++ [entry])).session =
      ((trader.books history).session.canTrade (trader.day history) (trader.time history)
        (trader.query history)).2)
    (hopened : (trader.books (history ++ [entry])).opened = (trader.books history).opened) :
    trader.Exact (history ++ [entry]) := by
  have hlater := List.prefix_append history [entry]
  obtain ⟨hcount, hpast, hrecent⟩ := canTrade_keeps h.notPast (trader.time history)
    (trader.query history)
  refine ⟨fun d hd => ?_, fun now hnow => ?_, fun d hd => ?_⟩
  · have hday := (trader.day_mono hlater).trans hd
    rw [hsession, hopened, ← h.count d hday]
    exact hcount d hday
  · have htime := (trader.time_mono hlater).trans hnow
    rw [hsession, hopened, ← h.window now htime]
    exact hrecent now htime
  · rw [hsession] at hd
    exact (hpast d hd).trans (trader.day_mono hlater)

/-- Whatever is neither an execution nor a record. -/
theorem Trader.Exact.quiet (h : trader.Exact history) {msg : MessageId} {effect : Effect}
    (haside : effect.isAside) : trader.Exact (history ++ [(msg, effect)]) := by
  cases effect with
  | execute signal outcome => cases haside
  | recordOpen result => cases haside
  | gate signal verdict =>
      cases hgate : trader.gate with
      | built =>
          refine h.gated ?_ ?_
          all_goals
            rw [Trader.books_append]
            simp [Trader.note, hgate]
      | other gate =>
          refine h.idle ?_ ?_
          all_goals
            rw [Trader.books_append]
            simp [Trader.note, hgate]
  | _ =>
      refine h.idle ?_ ?_
      all_goals
        rw [Trader.books_append]
        simp [Trader.note]

theorem Trader.Exact.aside (h : trader.Exact history) {msg : MessageId} {effects : List Effect}
    (haside : effects.all Effect.isAside) :
    trader.Exact (history ++ effects.map (fun effect => (msg, effect))) := by
  induction effects generalizing history with
  | nil => exact (List.append_nil history).symm ▸ h
  | cons effect rest ih =>
      rw [List.all_cons, Bool.and_eq_true] at haside
      rw [List.map_cons, List.append_cons]
      exact ih (h.quiet haside.1) haside.2

/-- An execution that opened nothing. -/
theorem Trader.Exact.unopened (h : trader.Exact history) {msg : MessageId} {signal : Signal}
    {outcome : Execution} (hunopened : (trader.execution history signal).2 = false) :
    trader.Exact (history ++ [(msg, .execute signal outcome)]) := by
  refine h.idle ?_ ?_
  all_goals
    rw [Trader.books_append]
    simp [Trader.note, hunopened]

/-- An execution that opened a position, and the record of it. -/
theorem Trader.Exact.opened (h : trader.Exact history) {msg : MessageId} {signal : Signal}
    {outcome : Execution} {result : Except PyErr Unit}
    (hopened : (trader.execution history signal).2 = true) :
    trader.Exact (history ++ [(msg, .execute signal outcome)] ++ [(msg, .recordOpen result)]) := by
  set executed := history ++ [(msg, Effect.execute signal outcome)] with hexecuted
  have hlater : history <+: executed := List.prefix_append _ _
  have hlast : executed <+: executed ++ [(msg, .recordOpen result)] := List.prefix_append _ _
  have hbooks : trader.books (executed ++ [(msg, .recordOpen result)]) =
      { history := executed ++ [(msg, .recordOpen result)]
        session := (trader.books history).session.recordOpen (trader.day executed)
          (trader.time executed)
        opened := (trader.books history).opened ++
          [{ day := trader.day executed, time := trader.time executed }] } := by
    rw [Trader.books_append, hexecuted, Trader.books_append]
    simp [Trader.note, hopened]
  have hpast : NotPast (trader.books history).session.manager (trader.day executed) :=
    fun d hd => (h.notPast d hd).trans (trader.day_mono hlater)
  refine ⟨fun d hd => ?_, fun now hnow => ?_, fun d hd => ?_⟩
  · have hday := (trader.day_mono hlast).trans hd
    rw [hbooks]
    dsimp only
    rw [countOn_recordOpen hpast hday, h.count d ((trader.day_mono hlater).trans hday),
      Nat.add_assoc]
    unfold SharedRisk.opensOn
    rw [List.filter_append, List.length_append, List.filter_singleton]
    by_cases hsame : trader.day executed = d
    · simp [hsame]
    · simp [hsame]
  · have htime := (trader.time_mono hlater).trans ((trader.time_mono hlast).trans hnow)
    have hwindow := h.window now htime
    rw [hbooks]
    show recent 60 now (((trader.books history).session.manager.resetDailyStatsIfNewDay
      (trader.day executed)).recentOpenTimes ++ [trader.time executed]) = _
    rw [SharedRisk.resetDailyStats_openTimes, recent_append, hwindow, ← recent_append,
      List.map_append, List.append_assoc]
    rfl
  · rw [hbooks] at hd
    exact (notPast_reset _ _ d hd).trans (trader.day_mono hlast)

end Books

/-! ## The pipeline -/

section Pipeline

variable {trader : Trader} {msg : MessageId} {bus : RedisBus} {signal : Signal}

/-- Effects of one message are appended, and the counts stay exact. -/
structure Counts (trader : Trader) (msg : MessageId) (bus bus' : RedisBus) : Prop where
  grows : ∃ effects : List Effect,
    bus'.history = bus.history ++ effects.map (fun effect => (msg, effect))
  exact : trader.Exact bus.history → trader.Exact bus'.history

instance : Std.Refl (Counts trader msg) where
  refl _ := ⟨⟨[], (List.append_nil _).symm⟩, fun h => h⟩

instance : IsTrans RedisBus (Counts trader msg) where
  trans := by
    rintro bus bus₁ bus' ⟨⟨effects, hgrows⟩, hexact⟩ ⟨⟨effects', hgrows'⟩, hexact'⟩
    refine ⟨⟨effects ++ effects', ?_⟩, fun h => hexact' (hexact h)⟩
    rw [hgrows', hgrows, List.append_assoc, List.map_append]

/-- Nothing is noted. -/
theorem Counts.same {bus' : RedisBus} (h : bus'.history = bus.history) :
    Counts trader msg bus bus' :=
  ⟨⟨[], h.trans (List.append_nil _).symm⟩, fun hexact => h ▸ hexact⟩

theorem Counts.of_aside {bus' : RedisBus} (h : Aside msg bus bus') : Counts trader msg bus bus' := by
  obtain ⟨effects, haside, hgrows⟩ := h.grows
  refine ⟨⟨effects, hgrows⟩, fun hexact => ?_⟩
  rw [hgrows]
  exact hexact.aside haside

/-! ### The execution -/

/-- A call that returns if it has opened a position, and raises if it has not. -/
def Tells (outcome : Execution × Bool) : Prop :=
  (outcome.1.result = some (.ok ()) ∧ outcome.2 = true) ∨
    ((∃ e, outcome.1.result = some (.error e)) ∧ outcome.2 = false)

/-- A signal that is opened or raises before. -/
def Trader.Regular (trader : Trader) (history : History) (signal : Signal) : Prop :=
  ((trader.adapter.request signal).run = none → Tells (trader.unheld history signal)) ∧
    ∀ r, (trader.adapter.request signal).run = some (.ok r) →
      trader.adapter.Regular trader.env r (trader.world history)

theorem Trader.execution_tells {history : History} (h : trader.Regular history signal) :
    Tells (trader.execution history signal) := by
  obtain ⟨hunheld, hregular⟩ := h
  unfold execution
  cases hrequest : (trader.adapter.request signal).run with
  | none => exact hunheld hrequest
  | some reading =>
      cases reading with
      | error e => exact Or.inr ⟨⟨e, rfl⟩, rfl⟩
      | ok r =>
          have htells := WalletSignalAdapter.execute_tells (trader.aligned history)
            (hregular r hrequest)
          dsimp only
          cases hrun : trader.adapter.execute trader.env r (trader.world history) with
          | ok _ s' => exact Or.inl ⟨rfl, wp_ok htells hrun⟩
          | error e s' => exact Or.inr ⟨⟨e, rfl⟩, wp_error htells hrun⟩

/-- What follows an execution that returned. -/
theorem settle_counts (signal : Signal) :
    Moves (Counts trader msg) (do
      let key ← encoded (signal.idemKey trader.consumer.py)
      markProcessed trader.consumer msg key
      ack trader.consumer msg
      pure HandlerResult.proceed) := by
  have hcounts {α : Type} {m : Pipeline α} (h : Moves (Aside msg) m) :
      Moves (Counts trader msg) m := h.mono (fun _ _ haside => Counts.of_aside haside)
  refine (hcounts (encoded_aside _ _)).bind (fun key => ?_)
  refine Moves.bind ?_ (fun _ => hcounts (acked_aside _))
  exact (hcounts (perform_aside (fun _ => rfl))).bind
    (fun _ => Moves.modify (fun _ => Counts.same rfl))

theorem execute_counts (next : Handler) {ctx : SignalCtx} (hsignal : ctx.signal = some signal)
    (hregular : trader.Regular bus.history signal) :
    MovesFrom (Counts trader ctx.msg) bus (executeHandler trader.consumer next ctx) := by
  have hlives (history : History) : ¬ trader.consumer.killed history := Bool.false_ne_true
  unfold executeHandler ctxSignal MovesFrom
  rw [hsignal, wp_bind, wp_pure, wp_bind, wp_perform]
  refine ⟨fun hkilled => absurd hkilled (hlives _), fun _ => ?_⟩
  rcases Trader.execution_tells hregular with ⟨hresult, hopened⟩ | ⟨⟨e, hresult⟩, hunopened⟩
  · change (trader.consumer.execute bus.history signal).result = some (.ok ()) at hresult
    rw [hresult]
    dsimp only
    unfold settleExecuted recordOpened
    rw [wp_bind]
    show wp (perform trader.consumer ctx.msg trader.saves .recordOpen >>= _) _ _ _
    rw [wp_bind, wp_perform]
    refine ⟨fun hkilled => absurd hkilled (hlives _), fun _ => ?_⟩
    rw [wp_pure]
    have hrecorded : Counts trader ctx.msg bus ((bus.did ctx.msg
        (.execute signal (trader.consumer.execute bus.history signal))).did ctx.msg
        (.recordOpen (trader.saves (bus.did ctx.msg
          (.execute signal (trader.consumer.execute bus.history signal))).history))) :=
      ⟨⟨[_, _], List.append_assoc _ _ _⟩, fun h => h.opened hopened⟩
    refine wp_mono (settle_counts signal _) ?_ ?_
    · exact fun _ _ hrest => trans_of _ hrecorded hrest
    · exact fun _ _ hrest => trans_of _ hrecorded hrest
  · change (trader.consumer.execute bus.history signal).result = some (.error e) at hresult
    rw [hresult]
    exact ⟨⟨[_], rfl⟩, fun h => h.unopened hunopened⟩

/-- Handling a message, if its signal is regular when it is executed. -/
theorem handle_counts {data : PyValue}
    (h : ∀ signal (effects : List Effect),
      Signal.fromPayload (trader.newId bus.history) (bus.now * 1000) data = .ok signal →
      trader.Regular (bus.history ++ effects.map (fun effect => (msg, effect))) signal) :
    MovesFrom (Counts trader msg) bus (handle trader.consumer msg data) := by
  have hjudges : Judges msg (MovesFrom (Counts trader msg)) :=
    MovesFrom.judges (fun _ _ haside => Counts.of_aside haside)
  refine poisonPill_judged hjudges (parse_judged hjudges (fun signal hparse => ?_))
  refine duplicate_judged hjudges (fun bus₁ h₁ => ?_)
  refine riskGate_judged hjudges (fun bus₂ h₂ => ?_)
  refine adapter_judged hjudges (fun bus₃ adapter h₃ => execute_counts (chain []) rfl ?_)
  have haside : Aside msg bus bus₃ := trans_of (Aside msg) h₁ (trans_of (Aside msg) h₂ h₃)
  obtain ⟨effects, -, hgrows⟩ := haside.grows
  rw [hgrows]
  exact h signal effects hparse

end Pipeline

/-! ## Runs -/

/-- A message that is handled has a signal that is opened, or that raises before. -/
def BusStep.Opening (trader : Trader) (bus : RedisBus) : BusStep → Prop
  | .handle msg => ∀ data signal (effects : List Effect),
      decode trader.adapter.py.recursionLimit (bus.stream.getD msg []) = some data →
      Signal.fromPayload (trader.newId bus.history) (bus.now * 1000) data = .ok signal →
      trader.Regular (bus.history ++ effects.map (fun effect => (msg, effect))) signal
  | _ => True

section Runs

variable {trader : Trader} {bus : RedisBus}

theorem Trader.Exact.step {a : BusStep} (h : trader.Exact bus.history) (ha : a.Opening trader bus) :
    trader.Exact (bus.step trader.consumer a).history := by
  cases a with
  | publish fields => exact h
  | wait seconds => exact h
  | readPending count =>
      show trader.Exact (final (readPending trader.consumer count) bus).history
      rw [readPending_final]
      exact h
  | readNew count =>
      show trader.Exact (final (readNew trader.consumer count) bus).history
      rw [readNew_final]
      exact h
  | handle msg =>
      simp only [RedisBus.step]
      cases hdecode : decode trader.consumer.py.recursionLimit (bus.stream.getD msg []) with
      | none => exact h
      | some data =>
          have hcounts := handle_counts (fun signal effects => ha data signal effects hdecode)
          exact ((wp_final _).mp hcounts).exact h

/-- **In a run whose signals are opened or raise before, the count of the day is that of the
positions opened, and the velocity window holds their times.** -/
theorem Trader.exact_of_reaches (trader : Trader) (bus : RedisBus)
    (h : Reaches (RedisBus.step trader.consumer) (BusStep.Opening trader) {} bus) :
    trader.Exact bus.history :=
  h.invariant trader.exact_nil (fun _ _ hexact ha => Trader.Exact.step hexact ha)

end Runs

/-! ### A signal that is opened, and one that opens nothing -/

/-- A paper wallet of 1000 USDT behind a consumer whose gate is that of a fresh risk manager. -/
def demoTrader : Trader where
  env := demoEnv
  adapter :=
    { py :=
        { str := fun _ => ""
          float := fun text =>
            if text ≠ "" ∧ text.toList.all Json.isDigit then
              some (.fin (Json.digitsValue text.toList))
            else none
          recursionLimit := 1000 } }
  start := RiskSession.construct {} none
  day _ := 0
  time _ := 0
  newId _ := "0"
  world _ := { demoWorld with wallet := Wallet.boot demoInit id {} false }
  unheld _ _ := ({ sent := false, result := none }, false)
  aligned _ := Wallet.Aligned.boot demoInit id false
  day_mono _ := le_refl _
  time_mono _ := le_refl _
  start_past _ h := by cases h

/-- A signal to buy at 100. -/
def buyEntry (quantity : String) : Entry :=
  [("strategy_id", "S1"), ("symbol", "BTCUSDT"), ("side", "LONG"), ("quantity", quantity),
    ("price", "100"), ("signal_id", "7")]

/-- The signal in it. -/
def buySignal (quantity : String) (time : ℕ) : Signal where
  strategyId := .str "S1"
  symbol := .str "BTCUSDT"
  side := .str "LONG"
  quantity := .str quantity
  mode := .str "paper"
  orderType := .str "market"
  price := .str "100"
  timestamp := .int time
  signalId := .str "7"
  metadata := .dict []

/-- The wallet admits it, at any time. -/
theorem buySignal_admitted (time : ℕ) :
    ((demoTrader.adapter.request (buySignal "1" time)).run).any (fun reading =>
      reading.toOption.all (fun r =>
        WalletSignalAdapter.EntryOrder.Admitted ⟨r.quantity, none, none⟩ r
          (Wallet.boot demoInit id {} false))) := by
  have hsame : demoTrader.adapter.request (buySignal "1" time) =
      demoTrader.adapter.request (buySignal "1" 0) := rfl
  rw [hsame]
  decide +kernel

theorem buySignal_regular (time : ℕ) (history : History) :
    demoTrader.Regular history (buySignal "1" time) := by
  have hadmitted := buySignal_admitted time
  refine ⟨fun hnone => ?_, fun r hr => ?_⟩
  · rw [hnone] at hadmitted
    exact absurd hadmitted Bool.false_ne_true
  · rw [hr] at hadmitted
    exact WalletSignalAdapter.Regular.paper rfl rfl (Wallet.Aligned.boot demoInit id false)
      (of_decide_eq_true hadmitted) (fun hbus => absurd hbus Bool.false_ne_true)

theorem demoTrader_opening (bus : RedisBus) (msg : MessageId)
    (h : bus.stream.getD msg [] = buyEntry "1") :
    (BusStep.handle msg).Opening demoTrader bus := by
  intro data signal effects hdecode hsignal
  rw [h] at hdecode
  cases hdecode
  have hread : signal = buySignal "1" (bus.now * 1000) := (Except.ok.inj hsignal).symm
  rw [hread]
  exact buySignal_regular _ _

/-- A signal that is published, read and handled. -/
def bought (quantity : String) : RedisBus :=
  [.publish (buyEntry quantity), .readNew 10, .handle 0].foldl
    (RedisBus.step demoTrader.consumer) {}

theorem bought_exact : demoTrader.Exact (bought "1").history :=
  Trader.exact_of_reaches demoTrader (bought "1")
    (Reaches.start.foldl _ ⟨trivial, trivial, demoTrader_opening _ 0 rfl, trivial⟩)

/-- A quantity that the wallet cannot pay for is counted. -/
theorem not_exact_of_reaches_unaffordable :
    ¬ ∀ (trader : Trader) (bus : RedisBus),
      Reaches (RedisBus.step trader.consumer) (fun _ _ => True) {} bus →
      trader.Exact bus.history := by
  intro h
  have hexact := h demoTrader (bought "100000")
    (Reaches.start.foldl _ ⟨trivial, trivial, trivial, trivial⟩)
  have hcount := hexact.count 0 (le_refl _)
  revert hcount
  decide +kernel

end CryptoTrader.SignalBus
