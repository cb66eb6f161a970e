import CryptoTrader.Signals.Delivery

/-!
# At most one order for a signal

A signal is marked after it was executed, and only while the marker lasts is a
second message with its ids suppressed.
-/

namespace CryptoTrader.SignalBus

open CryptoTrader.Lib

variable {consumer : Consumer}

/-! ## What leads up to the execution -/

/-- Neither an execution nor the record of one. -/
def Effect.isAside : Effect → Bool
  | .execute _ _ | .recordOpen _ => false
  | _ => true

/-- There are only such effects, and the markers stay. -/
structure Aside (msg : MessageId) (bus bus' : RedisBus) : Prop where
  stream : bus'.stream = bus.stream
  markers : bus'.markers = bus.markers
  now : bus'.now = bus.now
  grows : ∃ effects : List Effect, effects.all Effect.isAside ∧
    bus'.history = bus.history ++ effects.map (fun effect => (msg, effect))

section Aside

variable {msg : MessageId} {bus : RedisBus}

instance : Std.Refl (Aside msg) where
  refl _ := ⟨rfl, rfl, rfl, [], rfl, (List.append_nil _).symm⟩

instance : IsTrans RedisBus (Aside msg) where
  trans := by
    rintro bus bus₁ bus' ⟨hstream, hmarkers, hnow, effects, haside, hhistory⟩
      ⟨hstream', hmarkers', hnow', effects', haside', hhistory'⟩
    refine ⟨hstream'.trans hstream, hmarkers'.trans hmarkers, hnow'.trans hnow,
      effects ++ effects', ?_, ?_⟩
    · rw [List.all_append, haside, haside']
      rfl
    · rw [hhistory', hhistory, List.append_assoc, List.map_append]

theorem perform_aside {α : Type} {ask : History → α} {note : α → Effect}
    (h : ∀ answer, (note answer).isAside) : Moves (Aside msg) (perform consumer msg ask note) := by
  intro bus
  rw [wp_perform]
  refine ⟨fun _ => refl_of (Aside msg) bus, fun _ => ⟨rfl, rfl, rfl, [_], ?_, rfl⟩⟩
  rw [List.all_cons, h]
  rfl

theorem encoded_aside (msg : MessageId) (text : Option String) :
    Moves (Aside msg) (encoded text) := by
  cases text with
  | none => exact Moves.throw _
  | some text => exact Moves.pure text

theorem ack_aside : Moves (Aside msg) (ack consumer msg) := by
  refine Moves.bind (perform_aside (fun _ => rfl)) (fun _ => Moves.modify (fun bus => ?_))
  exact ⟨rfl, rfl, rfl, [], rfl, (List.append_nil _).symm⟩

theorem acked_aside (result : HandlerResult) :
    Moves (Aside msg) (do
      ack consumer msg
      pure result) :=
  Moves.bind ack_aside (fun _ => Moves.pure _)

theorem deadLetter_aside {payload : PyValue} {reason : Option String} (result : HandlerResult) :
    Moves (Aside msg) (do
      toDlq consumer msg payload reason
      ack consumer msg
      pure result) := by
  refine Moves.bind ?_ (fun _ => acked_aside result)
  exact Moves.bind (encoded_aside _ _) (fun _ => perform_aside (fun _ => rfl))

theorem ctxSignal_aside (ctx : SignalCtx) : Moves (Aside ctx.msg) (ctxSignal ctx) := by
  unfold ctxSignal
  cases ctx.signal with
  | none => exact Moves.throw _
  | some signal => exact Moves.pure _

theorem isProcessed_aside (key : String) : Moves (Aside msg) (isProcessed consumer msg key) :=
  Moves.get.bind (fun _ => perform_aside (fun _ => rfl))

theorem askGate_aside {signal : Signal} : Moves (Aside msg) (askGate consumer msg signal) := by
  unfold askGate
  cases consumer.riskGate with
  | none => exact Moves.pure _
  | some gate =>
      refine Moves.bind (perform_aside (fun _ => rfl)) (fun answer => ?_)
      cases answer with
      | ok verdict => exact Moves.pure _
      | error e => exact Moves.throw _

theorem lookupAdapter_aside {mode : PyValue} :
    Moves (Aside msg) (lookupAdapter consumer mode) := by
  unfold lookupAdapter
  by_cases hhashable : mode.hashable
  · rw [if_pos hhashable]
    cases mode with
    | str name => exact Moves.pure _
    | _ => exact Moves.pure _
  · rw [if_neg hhashable]
    exact Moves.throw _

/-- A judgement of what is computed from a bus on that holds of what goes aside, also after
something that does. -/
structure Judges (msg : MessageId) (G : RedisBus → Pipeline HandlerResult → Prop) : Prop where
  congr : ∀ {bus : RedisBus} {m m' : Pipeline HandlerResult}, m bus = m' bus → G bus m' → G bus m
  aside : ∀ {bus : RedisBus} {m : Pipeline HandlerResult}, Moves (Aside msg) m → G bus m
  after : ∀ {bus : RedisBus} {α : Type} {m : Pipeline α} {f : α → Pipeline HandlerResult},
    Moves (Aside msg) m → (∀ a bus₁, Aside msg bus bus₁ → G bus₁ (f a)) → G bus (m >>= f)

/-- What is computed from a bus on moves along a relation. -/
def MovesFrom (R : RedisBus → RedisBus → Prop) (bus : RedisBus) (m : Pipeline HandlerResult) :
    Prop :=
  wp m (fun _ => R bus) (fun _ => R bus) bus

theorem MovesFrom.judges {R : RedisBus → RedisBus → Prop} [Std.Refl R] [IsTrans RedisBus R]
    (h : ∀ bus bus', Aside msg bus bus' → R bus bus') : Judges msg (MovesFrom R) where
  congr := by
    intro bus m m' hsame hm
    unfold MovesFrom wp at hm ⊢
    rwa [hsame]
  aside hm := hm.mono h _
  after := by
    intro bus α m f hm hf
    unfold MovesFrom
    rw [wp_bind]
    refine wp_mono (hm bus) (fun a bus₁ h₁ => ?_) (fun _ _ h₁ => h _ _ h₁)
    refine wp_mono (hf a bus₁ h₁) ?_ ?_
    · exact fun _ _ hrest => trans_of R (h _ _ h₁) hrest
    · exact fun _ _ hrest => trans_of R (h _ _ h₁) hrest

variable {G : RedisBus → Pipeline HandlerResult → Prop} {next : Handler} {ctx : SignalCtx}

theorem poisonPill_judged (hG : Judges ctx.msg G) (hnext : G bus (next ctx)) :
    G bus (poisonPillHandler consumer next ctx) := by
  refine hG.congr (bind_of_ok
    (show deliveryCount ctx.msg bus = .ok ((bus.pending.get? ctx.msg).getD 1) bus from rfl) _) ?_
  by_cases hmany : consumer.maxDeliveries < (bus.pending.get? ctx.msg).getD 1
  · rw [if_pos hmany]
    exact hG.aside (deadLetter_aside _)
  · rw [if_neg hmany]
    exact hnext

theorem parse_judged (hG : Judges ctx.msg G)
    (hnext : ∀ signal, Signal.fromPayload (consumer.newId bus.history) (bus.now * 1000)
      ctx.rawData = .ok signal → G bus (next { ctx with signal := some signal })) :
    G bus (parseHandler consumer next ctx) := by
  refine hG.congr (bind_of_ok (show (get : Pipeline RedisBus) bus = .ok bus bus from rfl) _) ?_
  cases hparse : Signal.fromPayload (consumer.newId bus.history) (bus.now * 1000) ctx.rawData with
  | error e => exact hG.aside (deadLetter_aside _)
  | ok signal => exact hnext signal hparse

theorem duplicate_judged (hG : Judges ctx.msg G)
    (hnext : ∀ bus₁, Aside ctx.msg bus bus₁ → G bus₁ (next ctx)) :
    G bus (duplicateHandler consumer next ctx) := by
  refine hG.after (ctxSignal_aside ctx) (fun signal bus₁ h₁ => ?_)
  refine hG.after (encoded_aside _ _) (fun key bus₂ h₂ => ?_)
  refine hG.after (isProcessed_aside key) (fun found bus₃ h₃ => ?_)
  cases found with
  | true => exact hG.aside (acked_aside _)
  | false => exact hnext bus₃ (trans_of _ h₁ (trans_of _ h₂ h₃))

theorem riskGate_judged (hG : Judges ctx.msg G)
    (hnext : ∀ bus₁, Aside ctx.msg bus bus₁ → G bus₁ (next ctx)) :
    G bus (riskGateHandler consumer next ctx) := by
  refine hG.after (ctxSignal_aside ctx) (fun signal bus₁ h₁ => ?_)
  refine hG.after askGate_aside (fun verdict bus₂ h₂ => ?_)
  cases verdict with
  | true => exact hnext bus₂ (trans_of _ h₁ h₂)
  | false => exact hG.aside (acked_aside _)

theorem adapter_judged (hG : Judges ctx.msg G)
    (hnext : ∀ bus₁ adapter, Aside ctx.msg bus bus₁ →
      G bus₁ (next { ctx with adapter := some adapter })) :
    G bus (adapterHandler consumer next ctx) := by
  refine hG.after (ctxSignal_aside ctx) (fun signal bus₁ h₁ => ?_)
  refine hG.after lookupAdapter_aside (fun found bus₂ h₂ => ?_)
  cases found with
  | some adapter => exact hnext bus₂ adapter (trans_of _ h₁ h₂)
  | none => exact hG.aside (deadLetter_aside _)

end Aside

/-! ## Orders -/

/-- The signal of an execution that sent an order. -/
def Effect.sentSignal : Effect → Option Signal
  | .execute signal outcome => if outcome.sent then some signal else none
  | _ => none

/-- The signals for which an order was sent, one for each order. -/
def sentSignals (history : History) : List Signal :=
  history.filterMap (fun entry => entry.2.sentSignal)

/-- Two signals of one strategy and one id. -/
def Signal.Same (signal other : Signal) : Prop :=
  signal.strategyId = other.strategyId ∧ signal.signalId = other.signalId

/-- No two orders were sent for one signal. -/
def OnceEach (history : History) : Prop :=
  (sentSignals history).Pairwise (fun signal other => ¬ signal.Same other)

theorem Signal.Same.idemKey {py : Python} {signal other : Signal} (h : signal.Same other) :
    signal.idemKey py = other.idemKey py := by
  unfold Signal.idemKey
  rw [h.1, h.2]

theorem sentSignals_append (history history' : History) :
    sentSignals (history ++ history') = sentSignals history ++ sentSignals history' :=
  List.filterMap_append

/-! ## One handling -/

/-- An attempt at the message that sends an order returns, and the process lives
until the signal is marked. -/
structure SendsSafely (consumer : Consumer) (msg : MessageId) (signal : Signal)
    (history : History) : Prop where
  returns : ∀ effects : List Effect,
    let reached := history ++ effects.map (fun effect => (msg, effect))
    (consumer.execute reached signal).sent →
      (consumer.execute reached signal).result = some (.ok ())
  survives : ∀ effects : List Effect,
    let reached := history ++ effects.map (fun effect => (msg, effect))
    let executed := reached ++ [(msg, .execute signal (consumer.execute reached signal))]
    (consumer.execute reached signal).sent → consumer.killed executed = false ∧
      ∀ result, consumer.killed (executed ++ [(msg, .recordOpen result)]) = false

/-- Nothing is sent, and the markers stay. -/
structure Quiet (msg : MessageId) (bus bus' : RedisBus) : Prop where
  stream : bus'.stream = bus.stream
  sent : sentSignals bus'.history = sentSignals bus.history
  markers : bus'.markers = bus.markers
  now : bus'.now = bus.now
  grows : ∃ effects : List Effect,
    bus'.history = bus.history ++ effects.map (fun effect => (msg, effect))

/-- Nothing is sent, and no marker is lost. -/
structure Unsent (bus bus' : RedisBus) : Prop where
  stream : bus'.stream = bus.stream
  sent : sentSignals bus'.history = sentSignals bus.history
  kept : ∀ key, bus.markers.get? key ≠ none → bus'.markers.get? key ≠ none

/-- At most one order is sent, for a signal that is not marked before and is
marked afterwards. -/
structure Sends (py : Python) (bus bus' : RedisBus) : Prop where
  sent : sentSignals bus'.history = sentSignals bus.history ∨
    ∃ signal key, sentSignals bus'.history = sentSignals bus.history ++ [signal] ∧
      signal.idemKey py = some key ∧ bus.markers.get? key = none ∧ bus'.markers.get? key ≠ none
  kept : ∀ key, bus.markers.get? key ≠ none → bus'.markers.get? key ≠ none

section Relations

variable {py : Python} {msg : MessageId} {signal : Signal} {bus bus₁ bus' : RedisBus}

instance : Std.Refl (Quiet msg) where
  refl _ := ⟨rfl, rfl, rfl, rfl, [], (List.append_nil _).symm⟩

instance : IsTrans RedisBus (Quiet msg) where
  trans := by
    rintro bus bus₁ bus' ⟨hstream, hsent, hmarkers, hnow, effects, hhistory⟩
      ⟨hstream', hsent', hmarkers', hnow', effects', hhistory'⟩
    refine ⟨hstream'.trans hstream, hsent'.trans hsent, hmarkers'.trans hmarkers,
      hnow'.trans hnow, effects ++ effects', ?_⟩
    rw [hhistory', hhistory, List.append_assoc, List.map_append]

instance : Std.Refl Unsent where
  refl _ := ⟨rfl, rfl, fun _ h => h⟩

instance : IsTrans RedisBus Unsent where
  trans _ _ _ h h' := ⟨h'.stream.trans h.stream, h'.sent.trans h.sent,
    fun key hkey => h'.kept key (h.kept key hkey)⟩

/-- An effect that is no order is quiet. -/
theorem RedisBus.did_quiet {effect : Effect} (h : effect.sentSignal = none) :
    Quiet msg bus (bus.did msg effect) where
  stream := rfl
  sent := by
    unfold RedisBus.did
    rw [sentSignals_append]
    simp [sentSignals, h]
  markers := rfl
  now := rfl
  grows := ⟨[effect], rfl⟩

theorem sentSignals_aside {effects : List Effect} (h : effects.all Effect.isAside) :
    sentSignals (effects.map (fun effect => (msg, effect))) = [] := by
  unfold sentSignals
  rw [List.filterMap_map, List.filterMap_eq_nil_iff]
  intro effect heffect
  have haside := List.all_eq_true.mp h effect heffect
  cases effect with
  | execute signal outcome => cases haside
  | _ => rfl

theorem Aside.quiet (h : Aside msg bus bus') : Quiet msg bus bus' := by
  obtain ⟨effects, haside, hgrows⟩ := h.grows
  refine ⟨h.stream, ?_, h.markers, h.now, effects, hgrows⟩
  rw [hgrows, sentSignals_append, sentSignals_aside haside, List.append_nil]

theorem Quiet.unsent (h : Quiet msg bus bus') : Unsent bus bus' where
  stream := h.stream
  sent := h.sent
  kept key hkey := by rwa [h.markers]

theorem Unsent.sends (h : Unsent bus bus') : Sends py bus bus' where
  sent := Or.inl h.sent
  kept := h.kept

theorem Quiet.marked (h : Quiet msg bus bus₁) (key : String) : bus₁.marked key = bus.marked key := by
  unfold RedisBus.marked
  rw [h.markers, h.now]

/-- Quiet at first, then at most one order. -/
theorem Sends.after (hquiet : Quiet msg bus bus₁) (h : Sends py bus₁ bus') : Sends py bus bus' where
  sent := by
    rcases h.sent with hsent | ⟨signal, key, hsent, hkey, hmarked, hafter⟩
    · exact Or.inl (hsent.trans hquiet.sent)
    · exact Or.inr ⟨signal, key, hquiet.sent ▸ hsent, hkey, hquiet.markers ▸ hmarked, hafter⟩
  kept key hkey := h.kept key (by rwa [hquiet.markers])

/-- What is safe stays so while the message is handled. -/
theorem SendsSafely.of_quiet (h : SendsSafely consumer msg signal bus.history)
    (hquiet : Quiet msg bus bus₁) : SendsSafely consumer msg signal bus₁.history := by
  obtain ⟨effects, hgrows⟩ := hquiet.grows
  rw [hgrows]
  constructor
  · intro more
    rw [List.append_assoc, ← List.map_append]
    exact h.returns (effects ++ more)
  · intro more
    rw [List.append_assoc, ← List.map_append]
    exact h.survives (effects ++ more)

end Relations

section Moves

variable {msg : MessageId}

theorem recordOpened_quiet : Moves (Quiet msg) (recordOpened consumer msg) := by
  unfold recordOpened
  cases consumer.recordOpen with
  | none => exact Moves.pure _
  | some recordOpen =>
      refine Moves.bind (fun bus => ?_) (fun _ => Moves.pure _)
      rw [wp_perform]
      exact ⟨fun _ => refl_of (Quiet msg) bus, fun _ => RedisBus.did_quiet rfl⟩

end Moves

/-! ## The pipeline -/

/-- A computation that sends at most one order. -/
def SendsOnce (py : Python) (bus : RedisBus) (m : Pipeline HandlerResult) : Prop :=
  wp m (fun _ => Sends py bus) (fun _ => Sends py bus) bus

section Pipeline

variable {py : Python} {msg : MessageId} {bus : RedisBus} {signal : Signal} {key : String}

theorem SendsOnce.of_unsent {m : Pipeline HandlerResult} (h : Moves Unsent m) :
    SendsOnce py bus m :=
  wp_mono (h bus) (fun _ _ hunsent => hunsent.sends) (fun _ _ hunsent => hunsent.sends)

theorem SendsOnce.judges : Judges msg (SendsOnce py) where
  congr := by
    intro bus m m' hsame h
    unfold SendsOnce wp at h ⊢
    rwa [hsame]
  aside h := SendsOnce.of_unsent (h.mono (fun _ _ haside => haside.quiet.unsent))
  after := by
    intro bus α m f hm hf
    unfold SendsOnce
    rw [wp_bind]
    refine wp_mono (hm bus) (fun a bus₁ h₁ => ?_) (fun _ _ h₁ => h₁.quiet.unsent.sends)
    exact wp_mono (hf a bus₁ h₁) (fun _ _ h => h.after h₁.quiet) (fun _ _ h => h.after h₁.quiet)

/-! ### The execution -/

theorem set_kept {markers : Dict String ℕ} {expiry : ℕ} (key' : String)
    (h : markers.get? key' ≠ none) : (markers.set key expiry).get? key' ≠ none := by
  by_cases hself : key = key'
  · subst hself
    rw [Dict.get?_set_self]
    exact Option.some_ne_none _
  · rwa [Dict.get?_set_ne _ _ hself]

/-- After the execution nothing more is sent. -/
theorem settleExecuted_unsent : Moves Unsent (settleExecuted consumer msg signal) := by
  have haside {α : Type} {m : Pipeline α} (h : Moves (Aside msg) m) : Moves Unsent m :=
    h.mono (fun _ _ haside => haside.quiet.unsent)
  refine Moves.bind (recordOpened_quiet.mono (fun _ _ hquiet => hquiet.unsent)) (fun _ => ?_)
  refine Moves.bind (haside (encoded_aside _ _)) (fun key => ?_)
  refine Moves.bind ?_ (fun _ => haside (acked_aside _))
  exact Moves.bind (haside (perform_aside (fun _ => rfl)))
    (fun _ => Moves.modify (fun bus => ⟨rfl, rfl, fun key' => set_kept key'⟩))

/-- Nothing was sent since `bus`, and the signal is marked. -/
def Marked (key : String) (bus bus' : RedisBus) : Prop :=
  Unsent bus bus' ∧ bus'.markers.get? key ≠ none

/-- A signal whose open has been recorded is marked before anything else. -/
theorem markProcessed_marks {bus₁ : RedisBus} (hquiet : Quiet msg bus bus₁)
    (hlives : consumer.killed bus₁.history = false) :
    wp (do
        markProcessed consumer msg key
        ack consumer msg
        pure HandlerResult.proceed)
      (fun _ => Marked key bus) (fun _ => Marked key bus) bus₁ := by
  unfold markProcessed
  rw [wp_bind, wp_bind, wp_perform, hlives]
  refine ⟨fun hkilled => absurd hkilled Bool.false_ne_true, fun _ => ?_⟩
  rw [wp_modify]
  have hmarked : Unsent bus
      { bus₁.did msg (.mark key) with
        markers := bus₁.markers.set key (bus₁.now + consumer.idempotencyTtl) } := by
    refine ⟨hquiet.stream, ?_, fun key' hkey' => set_kept key' (hquiet.unsent.kept key' hkey')⟩
    exact (trans_of (Quiet msg) hquiet (RedisBus.did_quiet rfl)).sent
  refine wp_mono (acked_aside _ _) ?_ ?_
  all_goals
    intro _ bus' hafter
    refine ⟨trans_of _ hmarked hafter.quiet.unsent, ?_⟩
    rw [hafter.markers, Dict.get?_set_self]
    exact Option.some_ne_none _

/-- An execution that sent its order gets as far as the marker. -/
theorem settleExecuted_marks (hkey : signal.idemKey consumer.py = some key)
    (hlives : consumer.killed bus.history = false)
    (hrecords : ∀ result, consumer.killed (bus.history ++ [(msg, .recordOpen result)]) = false) :
    wp (settleExecuted consumer msg signal)
      (fun _ => Marked key bus) (fun _ => Marked key bus) bus := by
  unfold settleExecuted recordOpened encoded
  rw [wp_bind, hkey]
  cases consumer.recordOpen with
  | none =>
      dsimp only
      rw [wp_pure, wp_bind, wp_pure]
      exact markProcessed_marks (refl_of (Quiet msg) bus) hlives
  | some recordOpen =>
      dsimp only
      rw [wp_bind, wp_perform, hlives]
      refine ⟨fun hkilled => absurd hkilled Bool.false_ne_true, fun _ => ?_⟩
      rw [wp_pure, wp_bind, wp_pure]
      exact markProcessed_marks (RedisBus.did_quiet rfl) (hrecords _)

theorem execute_sends (next : Handler) {ctx : SignalCtx} (hsignal : ctx.signal = some signal)
    (hkey : signal.idemKey consumer.py = some key) (hmarked : bus.markers.get? key = none)
    (hsafe : SendsSafely consumer ctx.msg signal bus.history) :
    SendsOnce consumer.py bus (executeHandler consumer next ctx) := by
  unfold executeHandler ctxSignal SendsOnce
  rw [hsignal, wp_bind, wp_pure, wp_bind, wp_perform]
  refine ⟨fun _ => (refl_of Unsent bus).sends, fun _ => ?_⟩
  have hreturns := hsafe.returns []
  have hsurvives := hsafe.survives []
  simp only [List.map_nil, List.append_nil] at hreturns hsurvives
  cases hsent : (consumer.execute bus.history signal).sent with
  | true =>
      rw [hreturns hsent]
      obtain ⟨hlives, hrecords⟩ := hsurvives hsent
      refine wp_mono (settleExecuted_marks hkey hlives hrecords) ?_ ?_
      all_goals
        rintro _ bus' ⟨hunsent, hafter⟩
        refine ⟨Or.inr ⟨signal, key, ?_, hkey, hmarked, hafter⟩, hunsent.kept⟩
        rw [hunsent.sent]
        unfold RedisBus.did
        rw [sentSignals_append]
        simp [sentSignals, Effect.sentSignal, hsent]
  | false =>
      -- no order: whatever follows only records, marks and acks
      have hquiet : Quiet ctx.msg bus (bus.did ctx.msg
          (.execute signal (consumer.execute bus.history signal))) :=
        RedisBus.did_quiet (by simp [Effect.sentSignal, hsent])
      have hrest {m : Pipeline HandlerResult} (h : Moves Unsent m) :
          wp m (fun _ => Sends consumer.py bus) (fun _ => Sends consumer.py bus)
            (bus.did ctx.msg (.execute signal (consumer.execute bus.history signal))) :=
        wp_mono (h _) (fun _ _ hunsent => hunsent.sends.after hquiet)
          (fun _ _ hunsent => hunsent.sends.after hquiet)
      cases (consumer.execute bus.history signal).result with
      | none => exact hrest (Moves.throw _)
      | some answer =>
          cases answer with
          | error e => exact hrest (Moves.pure _)
          | ok _ => exact hrest settleExecuted_unsent

/-! ### The handlers before it -/

/-- Only a signal that is not marked gets past. -/
theorem duplicate_sends {next : Handler} {ctx : SignalCtx} (hsignal : ctx.signal = some signal)
    (hnext : ∀ key bus₁, signal.idemKey consumer.py = some key → bus₁.marked key = false →
      Quiet ctx.msg bus bus₁ → SendsOnce py bus₁ (next ctx)) :
    SendsOnce py bus (duplicateHandler consumer next ctx) := by
  unfold duplicateHandler ctxSignal encoded isProcessed SendsOnce
  rw [hsignal, wp_bind, wp_pure, wp_bind]
  cases hkey : signal.idemKey consumer.py with
  | none => exact (refl_of Unsent bus).sends
  | some key =>
      dsimp only
      rw [wp_pure, wp_bind, wp_bind, wp_get, wp_perform]
      refine ⟨fun _ => (refl_of Unsent bus).sends, fun _ => ?_⟩
      have hlooked : Quiet ctx.msg bus (bus.did ctx.msg (.lookup key (bus.marked key))) :=
        RedisBus.did_quiet rfl
      have hrest {m : Pipeline HandlerResult}
          (h : SendsOnce py (bus.did ctx.msg (.lookup key (bus.marked key))) m) :
          wp m (fun _ => Sends py bus) (fun _ => Sends py bus)
            (bus.did ctx.msg (.lookup key (bus.marked key))) :=
        wp_mono h (fun _ _ hsends => hsends.after hlooked) (fun _ _ hsends => hsends.after hlooked)
      by_cases hmarked : bus.marked key
      · rw [if_pos hmarked]
        exact hrest (SendsOnce.judges.aside (acked_aside _))
      · rw [if_neg hmarked]
        exact hrest (hnext key _ hkey (hlooked.marked key ▸ Bool.not_eq_true _ ▸ hmarked) hlooked)

/-- The marker of the key, if it is there, still counts. -/
def RedisBus.Unexpired (bus : RedisBus) (key : String) : Prop :=
  ∀ expiry, bus.markers.get? key = some expiry → bus.now < expiry

theorem RedisBus.Unexpired.get?_eq_none (h : bus.Unexpired key) (hmarked : bus.marked key = false) :
    bus.markers.get? key = none := by
  unfold marked at hmarked
  cases hget : bus.markers.get? key with
  | none => rfl
  | some expiry =>
      rw [hget] at hmarked
      have hnow := h expiry hget
      simp [hnow] at hmarked

/-- The whole pipeline sends at most one order, for a signal that had no marker
and has one afterwards. -/
theorem handle_sends {data : PyValue}
    (hsafe : ∀ signal, Signal.fromPayload (consumer.newId bus.history) (bus.now * 1000) data =
      .ok signal → SendsSafely consumer msg signal bus.history ∧
        ∀ key, signal.idemKey consumer.py = some key → bus.Unexpired key) :
    SendsOnce consumer.py bus (handle consumer msg data) := by
  refine poisonPill_judged SendsOnce.judges (parse_judged SendsOnce.judges (fun signal hparse => ?_))
  obtain ⟨hsends, hunexpired⟩ := hsafe signal hparse
  refine duplicate_sends rfl (fun key bus₁ hkey hmarked hquiet₁ => ?_)
  refine riskGate_judged SendsOnce.judges (fun bus₂ h₂ => ?_)
  refine adapter_judged SendsOnce.judges (fun bus₃ adapter h₃ => ?_)
  have hquiet : Quiet msg bus bus₃ :=
    trans_of (Quiet msg) hquiet₁ (trans_of (Quiet msg) h₂.quiet h₃.quiet)
  refine execute_sends (chain []) rfl hkey ?_ (hsends.of_quiet hquiet)
  rw [hquiet.markers]
  exact (hunexpired key hkey).get?_eq_none (hquiet₁.marked key ▸ hmarked)

end Pipeline

/-! ## Runs -/

/-- A message is published, time passes, messages are read, or one of them is
handled.  Each part may be cut short. -/
inductive BusStep where
  | publish (fields : Entry)
  | wait (seconds : ℕ)
  | readPending (count : ℕ)
  | readNew (count : ℕ)
  | handle (msg : MessageId)

def RedisBus.step (consumer : Consumer) (bus : RedisBus) : BusStep → RedisBus
  | .publish fields => { bus with stream := bus.stream ++ [fields] }
  | .wait seconds => { bus with now := bus.now + seconds }
  | .readPending count => final (readPending consumer count) bus
  | .readNew count => final (readNew consumer count) bus
  | .handle msg =>
      match decode consumer.py.recursionLimit (bus.stream.getD msg []) with
      | some data => final (handle consumer msg data) bus
      | none => bus

/-- A message that is handled sends its order safely, and while the marker of
its signal lasts. -/
def BusStep.Guarded (consumer : Consumer) (bus : RedisBus) : BusStep → Prop
  | .handle msg => ∀ data signal,
      decode consumer.py.recursionLimit (bus.stream.getD msg []) = some data →
      Signal.fromPayload (consumer.newId bus.history) (bus.now * 1000) data = .ok signal →
      SendsSafely consumer msg signal bus.history ∧
        ∀ key, signal.idemKey consumer.py = some key → bus.Unexpired key
  | _ => True

/-- The orders sent are for signals of different keys, each of which has a
marker. -/
structure Traced (py : Python) (bus : RedisBus) : Prop where
  once : (sentSignals bus.history).Pairwise (fun signal other =>
    signal.idemKey py ≠ other.idemKey py)
  marked : ∀ signal ∈ sentSignals bus.history, ∃ key, signal.idemKey py = some key ∧
    bus.markers.get? key ≠ none

section Runs

variable {py : Python} {bus bus' : RedisBus}

theorem Traced.onceEach (h : Traced py bus) : OnceEach bus.history :=
  h.once.imp (fun hkeys hsame => hkeys hsame.idemKey)

theorem Traced.of_eq (h : Traced py bus) (hhistory : bus'.history = bus.history)
    (hmarkers : bus'.markers = bus.markers) : Traced py bus' := by
  refine ⟨hhistory ▸ h.once, ?_⟩
  rw [hhistory, hmarkers]
  exact h.marked

/-- An order for a signal without a marker is the first one for its key. -/
theorem Traced.sends (h : Traced py bus) (hsends : Sends py bus bus') : Traced py bus' := by
  have hkept : ∀ signal ∈ sentSignals bus.history, ∃ key, signal.idemKey py = some key ∧
      bus'.markers.get? key ≠ none := by
    intro signal hsignal
    obtain ⟨key, hkey, hmarker⟩ := h.marked signal hsignal
    exact ⟨key, hkey, hsends.kept key hmarker⟩
  rcases hsends.sent with hsent | ⟨signal, key, hsent, hkey, hnone, hafter⟩
  · exact ⟨hsent ▸ h.once, hsent ▸ hkept⟩
  · refine ⟨?_, ?_⟩
    · rw [hsent, List.pairwise_append]
      refine ⟨h.once, List.pairwise_singleton _ _, ?_⟩
      intro earlier hearlier other hother hsame
      rw [List.mem_singleton] at hother
      obtain ⟨key', hkey', hmarker⟩ := h.marked earlier hearlier
      rw [hother, hkey', hkey, Option.some.injEq] at hsame
      exact hmarker (hsame ▸ hnone)
    · rw [hsent]
      intro other hother
      rcases List.mem_append.mp hother with hold | hnew
      · exact hkept other hold
      · rw [List.mem_singleton.mp hnew]
        exact ⟨key, hkey, hafter⟩

theorem decodeAll_moves {stream : List Entry} (messages : List MessageId) :
    Moves Eq (decodeAll consumer stream messages) := by
  induction messages with
  | nil => exact Moves.pure _
  | cons msg rest ih =>
      unfold decodeAll
      cases decode consumer.py.recursionLimit (stream.getD msg []) with
      | none => exact Moves.throw _
      | some data => exact Moves.bind ih (fun _ => Moves.pure _)

/-- Reading only counts deliveries. -/
theorem readPending_final (count : ℕ) :
    final (readPending consumer count) bus = bus.redelivered count := by
  have hdecoded : Moves Eq (decodeAll consumer bus.stream (bus.backlog count)) := decodeAll_moves _
  exact ((wp_final _).mp (hdecoded _)).symm

theorem readNew_final (count : ℕ) : final (readNew consumer count) bus = bus.fetched count := by
  have hdecoded : Moves Eq (decodeAll consumer bus.stream (bus.fresh count)) := decodeAll_moves _
  exact ((wp_final _).mp (hdecoded _)).symm

theorem Traced.step {a : BusStep} (h : Traced consumer.py bus) (ha : a.Guarded consumer bus) :
    Traced consumer.py (bus.step consumer a) := by
  cases a with
  | publish fields => exact h.of_eq rfl rfl
  | wait seconds => exact h.of_eq rfl rfl
  | readPending count =>
      show Traced consumer.py (final (readPending consumer count) bus)
      rw [readPending_final]
      exact h.of_eq rfl rfl
  | readNew count =>
      show Traced consumer.py (final (readNew consumer count) bus)
      rw [readNew_final]
      exact h.of_eq rfl rfl
  | handle msg =>
      simp only [RedisBus.step]
      cases hdecode : decode consumer.py.recursionLimit (bus.stream.getD msg []) with
      | none => exact h
      | some data =>
          have hsends := handle_sends (fun signal => ha data signal hdecode)
          exact h.sends ((wp_final _).mp hsends)

/-- In a run whose handlings send safely and while the markers last, no signal
is sent twice. -/
theorem sent_once (consumer : Consumer) (bus : RedisBus)
    (h : Reaches (RedisBus.step consumer) (BusStep.Guarded consumer) {} bus) :
    OnceEach bus.history := by
  have hstart : Traced consumer.py {} :=
    ⟨List.Pairwise.nil, fun _ hmem => absurd hmem List.not_mem_nil⟩
  exact (h.invariant hstart (fun _ _ hs ha => hs.step ha)).onceEach

/-! ### The loop takes these steps -/

/-- Nothing is published. -/
def SameStream (bus bus' : RedisBus) : Prop := bus'.stream = bus.stream

instance : Std.Refl SameStream where
  refl _ := rfl

instance : IsTrans RedisBus SameStream where
  trans _ _ _ h h' := h'.trans h

theorem execute_sameStream (next : Handler) (ctx : SignalCtx) :
    Moves SameStream (executeHandler consumer next ctx) := by
  refine Moves.bind ((ctxSignal_aside ctx).mono (fun _ _ h => h.stream)) (fun signal => ?_)
  refine Moves.bind ?_ (fun outcome => ?_)
  · intro bus
    rw [wp_perform]
    exact ⟨fun _ => rfl, fun _ => rfl⟩
  · cases outcome.result with
    | none => exact Moves.throw _
    | some answer =>
        cases answer with
        | error e => exact Moves.pure _
        | ok _ => exact settleExecuted_unsent.mono (fun _ _ hunsent => hunsent.stream)

/-- Handling a message publishes nothing. -/
theorem handle_sameStream (msg : MessageId) (data : PyValue) :
    Moves SameStream (handle consumer msg data) := by
  intro bus
  have hjudges : Judges msg (MovesFrom SameStream) := MovesFrom.judges (fun _ _ h => h.stream)
  change MovesFrom SameStream bus (handle consumer msg data)
  refine poisonPill_judged hjudges (parse_judged hjudges (fun signal _ => ?_))
  refine duplicate_judged hjudges (fun bus₁ _ => ?_)
  refine riskGate_judged hjudges (fun bus₂ _ => ?_)
  exact adapter_judged hjudges (fun bus₃ adapter _ => execute_sameStream _ _ bus₃)

/-- The state is reached by steps. -/
def Stepped (consumer : Consumer) (bus bus' : RedisBus) : Prop :=
  ∃ steps : List BusStep, steps.foldl (RedisBus.step consumer) bus = bus'

instance : Std.Refl (Stepped consumer) where
  refl _ := ⟨[], rfl⟩

instance : IsTrans RedisBus (Stepped consumer) where
  trans := by
    rintro bus _ _ ⟨steps, rfl⟩ ⟨steps', rfl⟩
    exact ⟨steps ++ steps', List.foldl_append⟩

theorem handleAll_stepped {messages : List (MessageId × PyValue)}
    (h : ∀ message ∈ messages, decode consumer.py.recursionLimit
      (bus.stream.getD message.1 []) = some message.2) :
    Stepped consumer bus (final (handleAll consumer messages) bus) := by
  induction messages generalizing bus with
  | nil => exact refl_of (Stepped consumer) bus
  | cons message rest ih =>
      obtain ⟨msg, data⟩ := message
      have hdecode := h (msg, data) List.mem_cons_self
      have hhandled : Stepped consumer bus (final (handle consumer msg data) bus) := by
        refine ⟨[.handle msg], ?_⟩
        simp only [List.foldl_cons, List.foldl_nil, RedisBus.step]
        rw [hdecode]
      have hstream : (final (handle consumer msg data) bus).stream = bus.stream :=
        (wp_final _).mp (handle_sameStream msg data bus)
      unfold handleAll
      cases hhandle : handle consumer msg data bus with
      | error stop bus₁ =>
          rw [final_bind_error hhandle]
          exact hhandled
      | ok _ bus₁ =>
          rw [final_bind_ok hhandle]
          rw [final_of_ok hhandle] at hhandled hstream
          refine trans_of (Stepped consumer) hhandled (ih (fun other hother => ?_))
          rw [hstream]
          exact h other (List.mem_cons_of_mem _ hother)

theorem decodeAll_decodes {stream : List Entry} {messages : List MessageId}
    {decoded : List (MessageId × PyValue)}
    (h : decodeAll consumer stream messages bus = .ok decoded bus') :
    ∀ message ∈ decoded, decode consumer.py.recursionLimit (stream.getD message.1 []) =
      some message.2 := by
  induction messages generalizing decoded with
  | nil =>
      cases h
      exact fun _ hmem => absurd hmem List.not_mem_nil
  | cons msg rest ih =>
      unfold decodeAll at h
      cases hdecode : decode consumer.py.recursionLimit (stream.getD msg []) with
      | none =>
          rw [hdecode] at h
          cases h
      | some data =>
          rw [hdecode] at h
          obtain ⟨others, bus₁, hrest, hpure⟩ := bind_eq_ok h
          cases hpure
          intro message hmessage
          rcases List.mem_cons.mp hmessage with rfl | hother
          · exact hdecode
          · exact ih hrest message hother

theorem Stepped.bind {α β : Type} {m : Pipeline α} {f : α → Pipeline β}
    (hm : Stepped consumer bus (final m bus))
    (hf : ∀ a bus₁, m bus = .ok a bus₁ → Stepped consumer bus₁ (final (f a) bus₁)) :
    Stepped consumer bus (final (m >>= f) bus) := by
  cases hrun : m bus with
  | error stop bus₁ =>
      rw [final_bind_error hrun]
      exact hm
  | ok a bus₁ =>
      rw [final_bind_ok hrun]
      rw [final_of_ok hrun] at hm
      exact trans_of (Stepped consumer) hm (hf a bus₁ hrun)

theorem backlog_handled {count : ℕ} {messages : List (MessageId × PyValue)}
    (hread : readPending consumer count bus = .ok messages bus') :
    Stepped consumer bus' (final (handleAll consumer messages) bus') := by
  refine handleAll_stepped ?_
  have hbus' : bus.redelivered count = bus' :=
    (readPending_final count).symm.trans (final_of_ok hread)
  rw [← hbus']
  exact decodeAll_decodes hread

theorem backlog_stepped (count : ℕ) :
    Stepped consumer bus (final (readPending consumer count >>= handleAll consumer) bus) :=
  Stepped.bind ⟨[.readPending count], rfl⟩ (fun _ _ hread => backlog_handled hread)

theorem fresh_stepped (count : ℕ) :
    Stepped consumer bus (final (readNew consumer count >>= handleAll consumer) bus) := by
  refine Stepped.bind ⟨[.readNew count], rfl⟩ (fun messages bus₁ hread => ?_)
  refine handleAll_stepped ?_
  have hbus₁ : bus.fetched count = bus₁ := (readNew_final count).symm.trans (final_of_ok hread)
  rw [← hbus₁]
  exact decodeAll_decodes hread

/-- However far the loop gets, it only takes steps. -/
theorem runForever_stepped (batches : ℕ) :
    Stepped consumer bus (final (runForever consumer batches) bus) := by
  induction batches generalizing bus with
  | zero => exact refl_of (Stepped consumer) bus
  | succ batches ih =>
      refine Stepped.bind ?_ (fun _ _ _ => ih)
      rw [runBatch_eq]
      exact (backlog_stepped 100).bind (fun _ _ _ => fresh_stepped 10)

theorem recoverPending_stepped : Stepped consumer bus (final (recoverPending consumer) bus) := by
  refine Stepped.bind ⟨[.readPending 100], rfl⟩ (fun messages bus₁ hread => ?_)
  exact (backlog_handled hread).bind (fun _ _ _ => refl_of (Stepped consumer) _)

theorem ConsumerRun.attempt_bus {α : Type} (run : ConsumerRun) (m : Pipeline α) :
    (run.attempt m).bus = final m run.bus := by
  unfold attempt final
  cases m run.bus with
  | ok a bus => rfl
  | error stop bus => rfl

/-- Whatever the process does, and whatever escapes from its loop on the way, the bus
only takes steps. -/
theorem ConsumerRun.bus_stepped (run : ConsumerRun) (steps : List ConsumerStep) :
    Stepped consumer run.bus (steps.foldl (ConsumerRun.step consumer) run).bus := by
  induction steps generalizing run with
  | nil => exact refl_of (Stepped consumer) run.bus
  | cons a rest ih =>
      refine trans_of (Stepped consumer) ?_ (ih (run.step consumer a))
      cases a with
      | publish fields => exact ⟨[.publish fields], rfl⟩
      | wait seconds => exact ⟨[.wait seconds], rfl⟩
      | recover =>
          rw [ConsumerRun.step, attempt_bus]
          exact recoverPending_stepped
      | batch =>
          rw [ConsumerRun.step, attempt_bus, runBatch_eq]
          exact (backlog_stepped 100).bind (fun _ _ _ => fresh_stepped 10)

end Runs

/-! ### An order before a failure -/

/-- A consumer whose adapter sends its order and then raises. -/
def failingConsumer : Consumer :=
  { demoConsumer with
    execute := fun _ _ => { sent := true, result := some (.error (.runtimeError "timeout")) } }

theorem demoConsumer_safe (msg : MessageId) (signal : Signal) (history : History) :
    SendsSafely demoConsumer msg signal history :=
  ⟨fun _ _ => rfl, fun _ _ => ⟨rfl, fun _ => rfl⟩⟩

theorem RedisBus.unexpired_of_all {bus : RedisBus} {key : String}
    (h : bus.markers.entries.all (fun entry => bus.now < entry.2)) : bus.Unexpired key := by
  intro expiry hget
  simpa using List.all_eq_true.mp h _ (Dict.mem_of_lookupIn hget)

/-- Every step is taken before any marker has expired. -/
theorem demoConsumer_guarded {bus : RedisBus} (a : BusStep)
    (h : bus.markers.entries.all (fun entry => bus.now < entry.2)) :
    a.Guarded demoConsumer bus := by
  cases a with
  | handle msg =>
      intro data signal _ _
      exact ⟨demoConsumer_safe msg signal bus.history, fun _ _ => RedisBus.unexpired_of_all h⟩
  | _ => trivial

/-- An entry is published twice, and both messages are handled. -/
def publishedTwice : RedisBus :=
  [.publish demoEntry, .publish demoEntry, .readNew 10, .handle 0, .wait 60].foldl
    (RedisBus.step demoConsumer) {}

theorem publishedTwice_sent_once :
    OnceEach (publishedTwice.step demoConsumer (.handle 1)).history := by
  refine sent_once demoConsumer _ (Reaches.step (Reaches.foldl _ Reaches.start ?_) ?_)
  · exact ⟨trivial, trivial, trivial, demoConsumer_guarded _ rfl, trivial, trivial⟩
  · exact demoConsumer_guarded _ (by decide +kernel)

/-- An entry is published once, and handled twice. -/
def handledTwice : RedisBus :=
  [.publish demoEntry, .readNew 10, .handle 0, .readPending 100, .handle 0].foldl
    (RedisBus.step failingConsumer) {}

theorem not_sent_once_failing :
    ¬ ∀ (consumer : Consumer) (bus : RedisBus),
      Reaches (RedisBus.step consumer) (fun _ _ => True) {} bus → OnceEach bus.history := by
  intro h
  have honce := h failingConsumer handledTwice
    (Reaches.start.foldl _ ⟨trivial, trivial, trivial, trivial, trivial, trivial⟩)
  exact (List.pairwise_cons.mp honce).1 _ List.mem_cons_self ⟨rfl, rfl⟩

end CryptoTrader.SignalBus
