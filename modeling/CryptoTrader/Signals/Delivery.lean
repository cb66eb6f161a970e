import CryptoTrader.Signals.Settlement
import Mathlib.Algebra.Order.BigOperators.Group.Finset

/-!
# Delivery after delivery

A turn of the loop reads messages and handles them one by one.  While it does,
the messages read and not yet handled are in flight; all others are accounted
for.
-/

namespace CryptoTrader.SignalBus

open CryptoTrader.Lib

variable {consumer : Consumer}

/-- Delivered and not acked. -/
structure Waiting (bus : RedisBus) (msg : MessageId) : Prop where
  delivered : msg < bus.delivered
  pending : bus.pending.get? msg ≠ none
  still : Open (bus.history.of msg)

/-- Not delivered yet, or waiting within the limit of deliveries, or settled in
exactly one way and acked. -/
def Accounted (consumer : Consumer) (bus : RedisBus) (msg : MessageId) : Prop :=
  (bus.delivered ≤ msg ∧ bus.pending.get? msg = none ∧ bus.history.of msg = []) ∨
    (Waiting bus msg ∧ (bus.pending.get? msg).getD 1 ≤ consumer.maxDeliveries) ∨
    (msg < bus.delivered ∧ bus.pending.get? msg = none ∧ SettledBy (bus.history.of msg))

/-- Where a message stands depends on nothing else. -/
theorem Accounted.of_eq {bus bus' : RedisBus} {msg : MessageId} (h : Accounted consumer bus msg)
    (hdelivered : bus'.delivered = bus.delivered)
    (hpending : bus'.pending.get? msg = bus.pending.get? msg)
    (hof : bus'.history.of msg = bus.history.of msg) : Accounted consumer bus' msg := by
  unfold Accounted at h ⊢
  rw [hdelivered, hpending, hof]
  rcases h with hnew | ⟨hwaiting, hcount⟩ | hsettled
  · exact Or.inl hnew
  · refine Or.inr (Or.inl ⟨⟨?_, ?_, ?_⟩, hcount⟩)
    · exact hdelivered ▸ hwaiting.delivered
    · exact hpending ▸ hwaiting.pending
    · exact hof ▸ hwaiting.still
  · exact Or.inr (Or.inr hsettled)

/-- The messages being read are waiting, and all others accounted for. -/
def InFlight (consumer : Consumer) (reading : List MessageId) (bus : RedisBus) : Prop :=
  ∀ msg, if msg ∈ reading then Waiting bus msg else Accounted consumer bus msg

/-- How far a message is from being settled. -/
def weight (consumer : Consumer) (bus : RedisBus) (msg : MessageId) : ℕ :=
  if bus.delivered ≤ msg then consumer.maxDeliveries + 2
  else
    match bus.pending.get? msg with
    | none => 0
    | some count => consumer.maxDeliveries + 1 - count

/-- The stream is the same, and no message is farther from being settled. -/
def Nearer (consumer : Consumer) (bus bus' : RedisBus) : Prop :=
  bus'.stream = bus.stream ∧ ∀ msg, weight consumer bus' msg ≤ weight consumer bus msg

instance : Std.Refl (Nearer consumer) where
  refl _ := ⟨rfl, fun _ => le_refl _⟩

instance : IsTrans RedisBus (Nearer consumer) where
  trans _ _ _ h h' := ⟨h'.1.trans h.1, fun msg => (h'.2 msg).trans (h.2 msg)⟩

/-! ## Handling what was read -/

theorem History.of_effects_self (history : History) (msg : MessageId) (effects : List Effect) :
    History.of (history ++ effects.map (fun effect => (msg, effect))) msg =
      history.of msg ++ effects := by
  rw [History.of_append]
  simp [History.of, List.filter_map, Function.comp_def]

theorem History.of_effects_other (history : History) {msg other : MessageId} (h : msg ≠ other)
    (effects : List Effect) :
    History.of (history ++ effects.map (fun effect => (msg, effect))) other = history.of other := by
  rw [History.of_append]
  simp [History.of, List.filter_map, Function.comp_def, h]

section Handled

variable {msg : MessageId} {bus bus' : RedisBus} {effects : List Effect}

/-- Other messages are left as they are. -/
theorem Handled.pending_other (h : Handled consumer msg bus bus' effects) {other : MessageId}
    (hother : msg ≠ other) : bus'.pending.get? other = bus.pending.get? other := by
  rcases h.ending with ⟨-, hpending⟩ | ⟨-, hpending, -⟩
  · rw [hpending, Dict.get?_erase_ne _ hother]
  · rw [hpending]

theorem Handled.nearer (h : Handled consumer msg bus bus' effects) : Nearer consumer bus bus' := by
  refine ⟨h.stream, fun other => ?_⟩
  unfold weight
  rw [h.delivered]
  by_cases hnew : bus.delivered ≤ other
  · rw [if_pos hnew, if_pos hnew]
  · rw [if_neg hnew, if_neg hnew]
    rcases h.ending with ⟨-, hpending⟩ | ⟨-, hpending, -⟩
    · by_cases hself : msg = other
      · subst hself
        rw [hpending, Dict.get?_erase_self]
        exact Nat.zero_le _
      · rw [hpending, Dict.get?_erase_ne _ hself]
    · rw [hpending]

/-- Once handled, a message is accounted for. -/
theorem Handled.inFlight {rest : List MessageId} (h : Handled consumer msg bus bus' effects)
    (hfresh : msg ∉ rest) (hinFlight : InFlight consumer (msg :: rest) bus) :
    InFlight consumer rest bus' := by
  intro other
  have hbefore := hinFlight other
  by_cases hself : msg = other
  · subst hself
    rw [if_pos List.mem_cons_self] at hbefore
    rw [if_neg hfresh]
    have hof : bus'.history.of msg = bus.history.of msg ++ effects := by
      rw [h.history, History.of_effects_self]
    rcases h.ending with ⟨hsettled, hpending⟩ | ⟨hopen, hpending, hcount⟩
    · refine Or.inr (Or.inr ⟨?_, ?_, ?_⟩)
      · rw [h.delivered]
        exact hbefore.delivered
      · rw [hpending, Dict.get?_erase_self]
      · rw [hof]
        exact hsettled.prepend hbefore.still
    · refine Or.inr (Or.inl ⟨⟨?_, ?_, ?_⟩, ?_⟩)
      · rw [h.delivered]
        exact hbefore.delivered
      · rw [hpending]
        exact hbefore.pending
      · rw [hof]
        exact hbefore.still.append hopen
      · rw [hpending]
        exact hcount
  · have hmem : other ∈ msg :: rest ↔ other ∈ rest := by
      simp [List.mem_cons, Ne.symm hself]
    have hof : bus'.history.of other = bus.history.of other := by
      rw [h.history, History.of_effects_other _ hself]
    have hpending := h.pending_other hself
    simp only [hmem] at hbefore
    by_cases hreading : other ∈ rest
    · rw [if_pos hreading] at hbefore ⊢
      exact ⟨h.delivered ▸ hbefore.delivered, hpending ▸ hbefore.pending, hof ▸ hbefore.still⟩
    · rw [if_neg hreading] at hbefore ⊢
      exact hbefore.of_eq h.delivered hpending hof

end Handled

section Loop

variable (hsteady : consumer.Steady)

include hsteady

/-- What was read is handled in order, and nothing raises. -/
theorem handleAll_finishes {messages : List (MessageId × PyValue)} {bus : RedisBus}
    (hreadable : ∀ message ∈ messages, Readable consumer.py message.2)
    (hnodup : (messages.map Prod.fst).Nodup)
    (hinFlight : InFlight consumer (messages.map Prod.fst) bus) :
    wp (handleAll consumer messages)
      (fun _ bus' => InFlight consumer [] bus' ∧ Nearer consumer bus bus' ∧
        bus'.delivered = bus.delivered)
      (fun _ _ => False) bus := by
  induction messages generalizing bus with
  | nil => exact ⟨hinFlight, refl_of _ _, rfl⟩
  | cons message rest ih =>
      obtain ⟨msg, data⟩ := message
      rw [List.map_cons, List.nodup_cons] at hnodup
      unfold handleAll
      rw [wp_bind]
      have hhandle : Finishes consumer msg bus (handle consumer msg data) :=
        handle_finishes hsteady (hreadable _ List.mem_cons_self)
      refine wp_mono hhandle ?_ (fun _ _ h => h)
      rintro _ bus₁ ⟨effects, hhandled⟩
      refine wp_mono (ih (fun other hother => hreadable other (List.mem_cons_of_mem _ hother))
        hnodup.2 (hhandled.inFlight hnodup.1 hinFlight)) ?_ (fun _ _ h => h)
      rintro _ bus' ⟨hdone, hnearer, hdelivered⟩
      exact ⟨hdone, trans_of _ hhandled.nearer hnearer, hdelivered.trans hhandled.delivered⟩

end Loop

/-! ## Reading -/

/-- Every entry of the stream decodes to something readable. -/
def AllReadable (py : Python) (stream : List Entry) : Prop :=
  ∀ fields ∈ stream, ∃ data, decode py.recursionLimit fields = some data ∧ Readable py data

/-- Decoding entries of the stream. -/
theorem decodeAll_finishes {stream : List Entry} {messages : List MessageId} {bus : RedisBus}
    (hreadable : AllReadable consumer.py stream) (hin : ∀ msg ∈ messages, msg < stream.length) :
    wp (decodeAll consumer stream messages)
      (fun decoded bus' => decoded.map Prod.fst = messages ∧
        (∀ message ∈ decoded, Readable consumer.py message.2) ∧ bus' = bus)
      (fun _ _ => False) bus := by
  induction messages with
  | nil => exact ⟨rfl, by simp, rfl⟩
  | cons msg rest ih =>
      have hlt := hin msg List.mem_cons_self
      obtain ⟨data, hdata, hread⟩ := hreadable (stream.getD msg []) (by
        rw [List.getD_eq_getElem?_getD, List.getElem?_eq_getElem hlt, Option.getD_some]
        exact List.getElem_mem hlt)
      unfold decodeAll
      rw [hdata]
      dsimp only
      rw [wp_bind]
      refine wp_mono (ih (fun other hother => hin other (List.mem_cons_of_mem _ hother))) ?_
        (fun _ _ h => h)
      rintro others bus' ⟨hmap, hothers, rfl⟩
      rw [wp_pure]
      refine ⟨by rw [List.map_cons, hmap], ?_, rfl⟩
      intro message hmessage
      rcases List.mem_cons.mp hmessage with rfl | hrest
      · exact hread
      · exact hothers message hrest

/-- Counting a delivery of each of some messages. -/
theorem get?_foldl_modify (messages : List MessageId) (pending : Dict MessageId ℕ)
    (hnodup : messages.Nodup) (msg : MessageId) :
    (messages.foldl (fun pending msg => pending.modify msg (· + 1)) pending).get? msg =
      if msg ∈ messages then (pending.get? msg).map (· + 1) else pending.get? msg := by
  induction messages generalizing pending with
  | nil => simp
  | cons first rest ih =>
      rw [List.nodup_cons] at hnodup
      rw [List.foldl_cons, ih _ hnodup.2]
      by_cases hself : first = msg
      · subst hself
        rw [if_neg hnodup.1, if_pos List.mem_cons_self, Dict.get?_modify_self]
      · have hmem : msg ∈ first :: rest ↔ msg ∈ rest := by simp [Ne.symm hself]
        simp only [hmem, Dict.get?_modify_ne _ _ hself]

/-- A first delivery of each of some messages. -/
theorem get?_foldl_set (messages : List MessageId) (pending : Dict MessageId ℕ)
    (msg : MessageId) :
    (messages.foldl (fun pending msg => pending.set msg 1) pending).get? msg =
      if msg ∈ messages then some 1 else pending.get? msg := by
  induction messages generalizing pending with
  | nil => simp
  | cons first rest ih =>
      rw [List.foldl_cons, ih]
      by_cases hself : first = msg
      · subst hself
        simp
      · have hmem : msg ∈ first :: rest ↔ msg ∈ rest := by simp [Ne.symm hself]
        simp only [hmem, Dict.get?_set_ne _ _ hself]

/-- All messages are accounted for, and all entries of the stream readable. -/
structure Sound (consumer : Consumer) (bus : RedisBus) : Prop where
  accounted : ∀ msg, Accounted consumer bus msg
  within : bus.delivered ≤ bus.stream.length
  readable : AllReadable consumer.py bus.stream

theorem InFlight.accounted {bus : RedisBus} (h : InFlight consumer [] bus) (msg : MessageId) :
    Accounted consumer bus msg := by
  have hmsg := h msg
  rwa [if_neg List.not_mem_nil] at hmsg

/-- What a pending message is known to be. -/
theorem Accounted.waiting {bus : RedisBus} {msg : MessageId} (h : Accounted consumer bus msg)
    (hpending : bus.pending.get? msg ≠ none) :
    Waiting bus msg ∧ (bus.pending.get? msg).getD 1 ≤ consumer.maxDeliveries := by
  rcases h with ⟨-, hnone, -⟩ | hwaiting | ⟨-, hnone, -⟩
  · exact absurd hnone hpending
  · exact hwaiting
  · exact absurd hnone hpending

/-- The messages that `read_pending` reads. -/
def RedisBus.backlog (bus : RedisBus) (count : ℕ) : List MessageId :=
  ((List.range bus.delivered).filter (fun msg => (bus.pending.get? msg).isSome)).take count

/-- The messages that `read_new` reads. -/
def RedisBus.fresh (bus : RedisBus) (count : ℕ) : List MessageId :=
  List.range' bus.delivered (min count (bus.stream.length - bus.delivered))

theorem RedisBus.mem_backlog {bus : RedisBus} {count : ℕ} {msg : MessageId}
    (h : msg ∈ bus.backlog count) : msg < bus.delivered ∧ bus.pending.get? msg ≠ none := by
  have hmem := List.mem_filter.mp (List.mem_of_mem_take h)
  exact ⟨List.mem_range.mp hmem.1, Option.isSome_iff_ne_none.mp hmem.2⟩

theorem RedisBus.nodup_backlog (bus : RedisBus) (count : ℕ) : (bus.backlog count).Nodup :=
  (List.nodup_range.filter _).sublist (List.take_sublist _ _)

/-- The new messages are the next ones. -/
theorem RedisBus.mem_fresh {bus : RedisBus} {count : ℕ} {msg : MessageId} :
    msg ∈ bus.fresh count ↔
      bus.delivered ≤ msg ∧ msg < bus.delivered + (bus.fresh count).length := by
  unfold RedisBus.fresh
  rw [List.mem_range'_1, List.length_range']

theorem RedisBus.fresh_within {bus : RedisBus} (h : bus.delivered ≤ bus.stream.length) (count : ℕ) :
    bus.delivered + (bus.fresh count).length ≤ bus.stream.length := by
  unfold RedisBus.fresh
  rw [List.length_range']
  omega

theorem RedisBus.nodup_fresh (bus : RedisBus) (count : ℕ) : (bus.fresh count).Nodup :=
  List.nodup_range'

/-! ### The backlog -/

/-- The bus once the backlog has been read. -/
def RedisBus.redelivered (bus : RedisBus) (count : ℕ) : RedisBus :=
  { bus with
    pending := (bus.backlog count).foldl (fun pending msg => pending.modify msg (· + 1))
      bus.pending }

section Backlog

variable {bus : RedisBus} (h : Sound consumer bus) (count : ℕ)

theorem RedisBus.get?_redelivered (msg : MessageId) :
    (bus.redelivered count).pending.get? msg =
      if msg ∈ bus.backlog count then (bus.pending.get? msg).map (· + 1)
      else bus.pending.get? msg :=
  get?_foldl_modify (bus.backlog count) bus.pending (bus.nodup_backlog count) msg

include h

/-- What was read is one delivery nearer to the limit. -/
theorem weight_redelivered {msg : MessageId} (hmsg : msg ∈ bus.backlog count) :
    weight consumer (bus.redelivered count) msg < weight consumer bus msg := by
  obtain ⟨hdelivered, hpending⟩ := RedisBus.mem_backlog hmsg
  have hlimit := ((h.accounted msg).waiting hpending).2
  obtain ⟨deliveries, hcount⟩ := Option.ne_none_iff_exists'.mp hpending
  have hafter : (bus.redelivered count).pending.get? msg = some (deliveries + 1) := by
    rw [RedisBus.get?_redelivered, if_pos hmsg, hcount, Option.map_some]
  have hold : ¬ bus.delivered ≤ msg := not_le.mpr hdelivered
  have hold' : ¬ (bus.redelivered count).delivered ≤ msg := hold
  unfold weight
  rw [if_neg hold, if_neg hold', hafter, hcount]
  rw [hcount, Option.getD_some] at hlimit
  dsimp only
  omega

theorem nearer_redelivered : Nearer consumer bus (bus.redelivered count) := by
  refine ⟨rfl, fun msg => ?_⟩
  by_cases hmsg : msg ∈ bus.backlog count
  · exact (weight_redelivered h count hmsg).le
  · have hsame : (bus.redelivered count).pending.get? msg = bus.pending.get? msg := by
      rw [RedisBus.get?_redelivered, if_neg hmsg]
    have hdelivered : (bus.redelivered count).delivered = bus.delivered := rfl
    unfold weight
    rw [hsame, hdelivered]

theorem inFlight_redelivered : InFlight consumer (bus.backlog count) (bus.redelivered count) := by
  intro msg
  by_cases hmsg : msg ∈ bus.backlog count
  · rw [if_pos hmsg]
    obtain ⟨hdelivered, hpending⟩ := RedisBus.mem_backlog hmsg
    have hwaiting := ((h.accounted msg).waiting hpending).1
    refine ⟨hdelivered, ?_, hwaiting.still⟩
    rw [RedisBus.get?_redelivered, if_pos hmsg, ne_eq, Option.map_eq_none_iff]
    exact hpending
  · rw [if_neg hmsg]
    have hsame : (bus.redelivered count).pending.get? msg = bus.pending.get? msg := by
      rw [RedisBus.get?_redelivered, if_neg hmsg]
    exact (h.accounted msg).of_eq rfl hsame rfl

end Backlog

/-! ### New messages -/

/-- The bus once new messages have been read. -/
def RedisBus.fetched (bus : RedisBus) (count : ℕ) : RedisBus :=
  { bus with
    delivered := bus.delivered + (bus.fresh count).length
    pending := (bus.fresh count).foldl (fun pending msg => pending.set msg 1) bus.pending }

section Fresh

variable {bus : RedisBus} (h : Sound consumer bus) (count : ℕ)

theorem RedisBus.get?_fetched (msg : MessageId) :
    (bus.fetched count).pending.get? msg =
      if msg ∈ bus.fresh count then some 1 else bus.pending.get? msg :=
  get?_foldl_set (bus.fresh count) bus.pending msg

theorem weight_fetched {msg : MessageId} (hmsg : msg ∈ bus.fresh count) :
    weight consumer (bus.fetched count) msg < weight consumer bus msg := by
  obtain ⟨hnew, hlt⟩ := RedisBus.mem_fresh.mp hmsg
  have hafter : (bus.fetched count).pending.get? msg = some 1 := by
    rw [RedisBus.get?_fetched, if_pos hmsg]
  have hold' : ¬ (bus.fetched count).delivered ≤ msg := not_le.mpr hlt
  unfold weight
  rw [if_pos hnew, if_neg hold', hafter]
  dsimp only
  omega

theorem RedisBus.delivered_fetched {msg : MessageId} (hmsg : msg ∉ bus.fresh count) :
    (bus.fetched count).delivered ≤ msg ↔ bus.delivered ≤ msg := by
  rw [RedisBus.mem_fresh, not_and, not_lt] at hmsg
  have hdelivered : (bus.fetched count).delivered = bus.delivered + (bus.fresh count).length := rfl
  rw [hdelivered]
  constructor
  · intro hle
    exact le_trans (Nat.le_add_right _ _) hle
  · exact hmsg

theorem nearer_fetched : Nearer consumer bus (bus.fetched count) := by
  refine ⟨rfl, fun msg => ?_⟩
  by_cases hmsg : msg ∈ bus.fresh count
  · exact (weight_fetched count hmsg).le
  · have hsame : (bus.fetched count).pending.get? msg = bus.pending.get? msg := by
      rw [RedisBus.get?_fetched, if_neg hmsg]
    unfold weight
    simp only [hsame, RedisBus.delivered_fetched count hmsg, le_refl]

include h

theorem inFlight_fetched : InFlight consumer (bus.fresh count) (bus.fetched count) := by
  intro msg
  have haccounted := h.accounted msg
  by_cases hmsg : msg ∈ bus.fresh count
  · rw [if_pos hmsg]
    obtain ⟨hnew, hlt⟩ := RedisBus.mem_fresh.mp hmsg
    have hhistory : bus.history.of msg = [] := by
      rcases haccounted with ⟨-, -, hhistory⟩ | ⟨hwaiting, -⟩ | ⟨hdelivered, -, -⟩
      · exact hhistory
      · exact absurd hwaiting.delivered (not_lt.mpr hnew)
      · exact absurd hdelivered (not_lt.mpr hnew)
    refine ⟨hlt, ?_, ?_⟩
    · rw [RedisBus.get?_fetched, if_pos hmsg]
      exact Option.some_ne_none _
    · show Open (bus.history.of msg)
      rw [hhistory]
      exact ⟨rfl, rfl⟩
  · rw [if_neg hmsg]
    have hsame : (bus.fetched count).pending.get? msg = bus.pending.get? msg := by
      rw [RedisBus.get?_fetched, if_neg hmsg]
    have hdelivered := RedisBus.delivered_fetched count hmsg
    unfold Accounted at haccounted ⊢
    rw [hsame, hdelivered, ← not_le, hdelivered, not_le]
    rcases haccounted with hnew | ⟨hwaiting, hcount⟩ | hsettled
    · exact Or.inl hnew
    · refine Or.inr (Or.inl ⟨⟨?_, hsame ▸ hwaiting.pending, hwaiting.still⟩, hcount⟩)
      rw [← not_le, hdelivered, not_le]
      exact hwaiting.delivered
    · exact Or.inr (Or.inr hsettled)

end Fresh

/-! ## Turns of the loop -/

section Turns

variable {bus : RedisBus}

/-- What a read and the handling of it come to. -/
structure Advanced (consumer : Consumer) (read : List MessageId) (bus bus' : RedisBus) : Prop where
  sound : Sound consumer bus'
  nearer : Nearer consumer bus bus'
  strictly : ∀ msg ∈ read, weight consumer bus' msg < weight consumer bus msg

theorem Sound.of_inFlight {bus' : RedisBus} (h : Sound consumer bus)
    (hstream : bus'.stream = bus.stream) (hwithin : bus'.delivered ≤ bus'.stream.length)
    (hinFlight : InFlight consumer [] bus') : Sound consumer bus' where
  accounted := hinFlight.accounted
  within := hwithin
  readable := hstream ▸ h.readable

variable (hsteady : consumer.Steady)

include hsteady

theorem backlog_advances (h : Sound consumer bus) (count : ℕ) :
    wp (do
        let messages ← readPending consumer count
        handleAll consumer messages)
      (fun _ bus' => Advanced consumer (bus.backlog count) bus bus' ∧
        bus'.delivered = bus.delivered)
      (fun _ _ => False) bus := by
  rw [wp_bind]
  show wp (decodeAll consumer bus.stream (bus.backlog count)) _ _ (bus.redelivered count)
  refine wp_mono (decodeAll_finishes h.readable ?_) ?_ (fun _ _ h => h)
  · intro msg hmsg
    exact lt_of_lt_of_le (RedisBus.mem_backlog hmsg).1 h.within
  · rintro messages _ ⟨hmap, hreadable, rfl⟩
    refine wp_mono (handleAll_finishes hsteady hreadable (by rw [hmap]; exact bus.nodup_backlog count)
      (by rw [hmap]; exact inFlight_redelivered h count)) ?_ (fun _ _ h => h)
    rintro _ bus' ⟨hdone, hnearer, hdelivered⟩
    refine ⟨⟨h.of_inFlight hnearer.1 ?_ hdone, trans_of _ (nearer_redelivered h count) hnearer, ?_⟩,
      hdelivered⟩
    · rw [hdelivered, hnearer.1]
      exact h.within
    · intro msg hmsg
      exact lt_of_le_of_lt (hnearer.2 msg) (weight_redelivered h count hmsg)

theorem fresh_advances (h : Sound consumer bus) (count : ℕ) :
    wp (do
        let messages ← readNew consumer count
        handleAll consumer messages)
      (fun _ => Advanced consumer (bus.fresh count) bus) (fun _ _ => False) bus := by
  rw [wp_bind]
  show wp (decodeAll consumer bus.stream (bus.fresh count)) _ _ (bus.fetched count)
  have hwithin := RedisBus.fresh_within h.within count
  refine wp_mono (decodeAll_finishes h.readable ?_) ?_ (fun _ _ h => h)
  · intro msg hmsg
    exact lt_of_lt_of_le (RedisBus.mem_fresh.mp hmsg).2 hwithin
  · rintro messages _ ⟨hmap, hreadable, rfl⟩
    refine wp_mono (handleAll_finishes hsteady hreadable (by rw [hmap]; exact bus.nodup_fresh count)
      (by rw [hmap]; exact inFlight_fetched h count)) ?_ (fun _ _ h => h)
    rintro _ bus' ⟨hdone, hnearer, hdelivered⟩
    refine ⟨h.of_inFlight hnearer.1 ?_ hdone, trans_of _ (nearer_fetched count) hnearer, ?_⟩
    · rw [hdelivered, hnearer.1]
      exact hwithin
    · intro msg hmsg
      exact lt_of_le_of_lt (hnearer.2 msg) (weight_fetched count hmsg)

omit hsteady in
/-- One turn: the backlog, then the new messages. -/
theorem runBatch_eq : runBatch consumer =
    (readPending consumer 100 >>= handleAll consumer) >>= fun _ =>
      readNew consumer 10 >>= handleAll consumer := by
  unfold runBatch
  rw [bind_assoc]

theorem runBatch_advances (h : Sound consumer bus) :
    wp (runBatch consumer)
      (fun _ => Advanced consumer (bus.backlog 100 ++ bus.fresh 10) bus) (fun _ _ => False) bus := by
  rw [runBatch_eq, wp_bind]
  refine wp_mono (backlog_advances hsteady h 100) ?_ (fun _ _ h => h)
  rintro _ bus₁ ⟨hbacklog, hdelivered⟩
  have hfresh : bus₁.fresh 10 = bus.fresh 10 := by
    unfold RedisBus.fresh
    rw [hdelivered, hbacklog.nearer.1]
  refine wp_mono (fresh_advances hsteady hbacklog.sound 10) ?_ (fun _ _ h => h)
  intro _ bus' hnew
  refine ⟨hnew.sound, trans_of _ hbacklog.nearer hnew.nearer, ?_⟩
  intro msg hmsg
  rcases List.mem_append.mp hmsg with hold | hfirst
  · exact lt_of_le_of_lt (hnew.nearer.2 msg) (hbacklog.strictly msg hold)
  · rw [← hfresh] at hfirst
    exact lt_of_lt_of_le (hnew.strictly msg hfirst) (hbacklog.nearer.2 msg)

end Turns

/-! ## Everything is settled in the end -/

/-- Settled in one way, acked, and no longer pending. -/
def Settled (bus : RedisBus) (msg : MessageId) : Prop :=
  bus.pending.get? msg = none ∧ SettledBy (bus.history.of msg)

/-- How far the stream is from being settled. -/
def remaining (consumer : Consumer) (bus : RedisBus) : ℕ :=
  ∑ msg ∈ Finset.range bus.stream.length, weight consumer bus msg

section Ends

variable {bus : RedisBus}

theorem Sound.settled (h : Sound consumer bus) {msg : MessageId}
    (hweight : weight consumer bus msg = 0) : Settled bus msg := by
  unfold weight at hweight
  rcases h.accounted msg with ⟨hnew, -, -⟩ | ⟨hwaiting, hcount⟩ | ⟨-, hpending, hsettled⟩
  · rw [if_pos hnew] at hweight
    exact absurd hweight (Nat.succ_ne_zero _)
  · rw [if_neg (not_le.mpr hwaiting.delivered)] at hweight
    obtain ⟨count, hpending⟩ := Option.ne_none_iff_exists'.mp hwaiting.pending
    rw [hpending] at hweight hcount
    rw [Option.getD_some] at hcount
    dsimp only at hweight
    omega
  · exact ⟨hpending, hsettled⟩

/-- What is not settled is read in the next turn, or something before it is. -/
theorem Sound.reads (h : Sound consumer bus) {msg : MessageId} (hlt : msg < bus.stream.length)
    (hweight : weight consumer bus msg ≠ 0) :
    ∃ first ∈ bus.backlog 100 ++ bus.fresh 10, first < bus.stream.length := by
  by_cases hnew : bus.delivered ≤ msg
  · have hlength : (bus.fresh 10).length = min 10 (bus.stream.length - bus.delivered) :=
      List.length_range'
    have hroom : bus.delivered < bus.stream.length := lt_of_le_of_lt hnew hlt
    refine ⟨bus.delivered, List.mem_append_right _ (RedisBus.mem_fresh.mpr ⟨le_refl _, ?_⟩), hroom⟩
    refine Nat.lt_add_of_pos_right ?_
    rw [hlength]
    exact lt_min (by norm_num) (Nat.sub_pos_of_lt hroom)
  · have hpending : bus.pending.get? msg ≠ none := by
      intro hnone
      unfold weight at hweight
      rw [if_neg hnew, hnone] at hweight
      exact hweight rfl
    have hmem : msg ∈ (List.range bus.delivered).filter
        (fun msg => (bus.pending.get? msg).isSome) :=
      List.mem_filter.mpr ⟨List.mem_range.mpr (not_le.mp hnew),
        Option.isSome_iff_ne_none.mpr hpending⟩
    obtain ⟨first, rest, hfilter⟩ := List.exists_cons_of_ne_nil (List.ne_nil_of_mem hmem)
    have hfirst : first ∈ bus.backlog 100 := by
      unfold RedisBus.backlog
      rw [hfilter]
      exact List.mem_cons_self
    exact ⟨first, List.mem_append_left _ hfirst,
      lt_of_lt_of_le (RedisBus.mem_backlog hfirst).1 h.within⟩

/-- A turn brings the stream nearer to being settled. -/
theorem Advanced.remaining_lt {bus' : RedisBus} (h : Sound consumer bus)
    (hturn : Advanced consumer (bus.backlog 100 ++ bus.fresh 10) bus bus')
    (hleft : remaining consumer bus ≠ 0) : remaining consumer bus' < remaining consumer bus := by
  obtain ⟨msg, hmsg, hweight⟩ := Finset.exists_ne_zero_of_sum_ne_zero hleft
  obtain ⟨first, hread, hlt⟩ := h.reads (Finset.mem_range.mp hmsg) hweight
  unfold remaining
  rw [hturn.nearer.1]
  exact Finset.sum_lt_sum (fun other _ => hturn.nearer.2 other)
    ⟨first, Finset.mem_range.mpr hlt, hturn.strictly first hread⟩

/-- After enough turns everything that was published is settled. -/
theorem runForever_settles (hsteady : consumer.Steady) (h : Sound consumer bus) :
    ∃ batches bus', runForever consumer batches bus = .ok () bus' ∧
      ∀ msg < bus.stream.length, Settled bus' msg := by
  induction hn : remaining consumer bus using Nat.strong_induction_on generalizing bus with
  | _ n ih =>
      by_cases hleft : remaining consumer bus = 0
      · refine ⟨0, bus, rfl, fun msg hmsg => h.settled ?_⟩
        exact Finset.sum_eq_zero_iff.mp hleft msg (Finset.mem_range.mpr hmsg)
      · have hbatch := runBatch_advances hsteady h
        cases hrun : runBatch consumer bus with
        | error stop bus₁ => exact (wp_error hbatch hrun).elim
        | ok _ bus₁ =>
            have hturn := wp_ok hbatch hrun
            obtain ⟨batches, bus', hrest, hsettled⟩ :=
              ih _ (hn ▸ hturn.remaining_lt h hleft) hturn.sound rfl
            refine ⟨batches + 1, bus', ?_, hturn.nearer.1 ▸ hsettled⟩
            unfold runForever
            rw [bind_of_ok hrun]
            exact hrest

end Ends

/-! ## Runs -/

/-- The bus, and what has escaped from the loop. -/
structure ConsumerRun where
  bus : RedisBus := {}
  escaped : List Stop := []

/-- Run part of the loop. -/
def ConsumerRun.attempt {α : Type} (run : ConsumerRun) (m : Pipeline α) : ConsumerRun :=
  match m run.bus with
  | .ok _ bus => { run with bus := bus }
  | .error stop bus => { bus := bus, escaped := run.escaped ++ [stop] }

/-- A message is published, time passes, the consumer starts, or its loop turns. -/
inductive ConsumerStep where
  | publish (fields : Entry)
  | wait (seconds : ℕ)
  | recover
  | batch

def ConsumerRun.step (consumer : Consumer) (run : ConsumerRun) : ConsumerStep → ConsumerRun
  | .publish fields => { run with bus := { run.bus with stream := run.bus.stream ++ [fields] } }
  | .wait seconds => { run with bus := { run.bus with now := run.bus.now + seconds } }
  | .recover => run.attempt (recoverPending consumer)
  | .batch => run.attempt (runBatch consumer)

/-- A message that is published decodes, and can be read. -/
def ConsumerStep.Manageable (py : Python) : ConsumerStep → Prop
  | .publish fields => ∃ data, decode py.recursionLimit fields = some data ∧ Readable py data
  | _ => True

/-- Running a part of the loop that does not raise. -/
theorem ConsumerRun.attempt_of_wp {α : Type} {run : ConsumerRun} {m : Pipeline α}
    {P : RedisBus → Prop} (h : wp m (fun _ => P) (fun _ _ => False) run.bus) :
    P (run.attempt m).bus ∧ (run.attempt m).escaped = run.escaped := by
  unfold attempt
  cases hm : m run.bus with
  | ok a bus => exact ⟨wp_ok h hm, rfl⟩
  | error stop bus => exact (wp_error h hm).elim

theorem ConsumerRun.step_sound (hsteady : consumer.Steady) {run : ConsumerRun} {a : ConsumerStep}
    (h : Sound consumer run.bus) (ha : a.Manageable consumer.py) :
    Sound consumer (run.step consumer a).bus ∧ (run.step consumer a).escaped = run.escaped := by
  cases a with
  | publish fields =>
      refine ⟨⟨fun msg => (h.accounted msg).of_eq rfl rfl rfl, ?_, ?_⟩, rfl⟩
      · exact h.within.trans (by simp [ConsumerRun.step])
      · intro other hother
        rcases List.mem_append.mp hother with hold | hnew
        · exact h.readable other hold
        · rw [List.mem_singleton.mp hnew]
          exact ha
  | wait seconds =>
      exact ⟨⟨fun msg => (h.accounted msg).of_eq rfl rfl rfl, h.within, h.readable⟩, rfl⟩
  | recover =>
      refine ConsumerRun.attempt_of_wp ?_
      have hsplit : recoverPending consumer = readPending consumer 100 >>= fun messages =>
          handleAll consumer messages >>= fun _ => pure messages.length := rfl
      rw [hsplit, wp_bind]
      refine wp_mono ((wp_bind _ _ _ _).mp (backlog_advances hsteady h 100)) ?_ (fun _ _ h => h)
      intro messages bus₁ hhandled
      rw [wp_bind]
      exact wp_mono hhandled (fun _ _ hdone => hdone.1.sound) (fun _ _ h => h)
  | batch =>
      exact ConsumerRun.attempt_of_wp (wp_mono (runBatch_advances hsteady h)
        (fun _ _ hturn => hturn.sound) (fun _ _ h => h))

/-- In a run whose messages can all be read, nothing escapes, every message is
accounted for, and enough turns of the loop settle them all. -/
theorem messages_settled (consumer : Consumer) (run : ConsumerRun) (hsteady : consumer.Steady)
    (h : Reaches (ConsumerRun.step consumer) (fun _ a => a.Manageable consumer.py) {} run) :
    run.escaped = [] ∧ (∀ msg, Accounted consumer run.bus msg) ∧
      ∃ batches bus', runForever consumer batches run.bus = .ok () bus' ∧
        ∀ msg < run.bus.stream.length, Settled bus' msg := by
  have hstart : Sound consumer ({} : ConsumerRun).bus :=
    { accounted := fun msg => Or.inl ⟨Nat.zero_le msg, rfl, rfl⟩
      within := le_refl 0
      readable := fun fields hfields => absurd hfields List.not_mem_nil }
  obtain ⟨hsound, hescaped⟩ : Sound consumer run.bus ∧ run.escaped = [] := by
    induction h with
    | start => exact ⟨hstart, rfl⟩
    | step _ ha ih =>
        obtain ⟨hnext, hsame⟩ := ConsumerRun.step_sound hsteady ih.1 ha
        exact ⟨hnext, hsame.trans ih.2⟩
  exact ⟨hescaped, hsound.accounted, runForever_settles hsteady hsound⟩

/-! ### A signal that is executed, and one that ends the loop -/

/-- A consumer with one adapter, which sends an order. -/
def demoConsumer : Consumer :=
  { py := { str := fun _ => "", float := fun _ => none, recursionLimit := 1000 }
    adapters := ["paper"]
    execute := fun _ _ => { sent := true, result := some (.ok ()) }
    newId := fun _ => "0" }

theorem demoConsumer_steady : demoConsumer.Steady where
  lives _ := rfl
  returns _ _ := Option.some_ne_none _
  answers _ h := by cases h

/-- An entry with the fields of a signal. -/
def demoEntry : Entry :=
  [("strategy_id", "S1"), ("symbol", "SOLUSDT"), ("side", "LONG"), ("quantity", "1"),
    ("signal_id", "7")]

theorem demoEntry_manageable : (ConsumerStep.publish demoEntry).Manageable demoConsumer.py := by
  refine ⟨_, rfl, ?_⟩
  rintro newId time signal h
  cases h
  exact ⟨Option.some_ne_none _, Option.some_ne_none _, rfl, Option.some_ne_none _⟩

theorem demoEntry_settled :
    ∃ batches bus', runForever demoConsumer batches
        (({} : ConsumerRun).step demoConsumer (.publish demoEntry)).bus = .ok () bus' ∧
      Settled bus' 0 := by
  obtain ⟨-, -, batches, bus', hrun, hsettled⟩ := messages_settled demoConsumer
    (({} : ConsumerRun).step demoConsumer (.publish demoEntry)) demoConsumer_steady
    (Reaches.start.step demoEntry_manageable)
  exact ⟨batches, bus', hrun, hsettled 0 Nat.one_pos⟩

/-- A payload whose mode is a list. -/
def listModeEntry : Entry :=
  [("payload", "\x7b\"strategy_id\": \"S1\", \"symbol\": \"SOLUSDT\", \"side\": \"LONG\", " ++
    "\"quantity\": 1, \"signal_id\": \"8\", \"mode\": [\"paper\"]\x7d")]

/-- A mode that cannot be hashed raises past the loop. -/
theorem not_messages_settled_listMode :
    ¬ ∀ (consumer : Consumer) (run : ConsumerRun), consumer.Steady →
      Reaches (ConsumerRun.step consumer) (fun _ _ => True) {} run →
      run.escaped = [] ∧ (∀ msg, Accounted consumer run.bus msg) ∧
        ∃ batches bus', runForever consumer batches run.bus = .ok () bus' ∧
          ∀ msg < run.bus.stream.length, Settled bus' msg := by
  intro h
  have hreaches : Reaches (ConsumerRun.step demoConsumer) (fun _ _ => True) {}
      ((({} : ConsumerRun).step demoConsumer (.publish listModeEntry)).step demoConsumer .batch) :=
    (Reaches.start.step trivial).step trivial
  have hescaped := (h demoConsumer _ demoConsumer_steady hreaches).1
  revert hescaped
  decide +kernel

end CryptoTrader.SignalBus
