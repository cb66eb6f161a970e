import CryptoTrader.Lib.Run
import CryptoTrader.Management.Sync

/-!
# The mirror of external positions

What the history says about one position: the last record received, whether
protection has been requested since it last carried a stop, and what the
execution client has accepted since.  The registry is compared with that.
-/

namespace CryptoTrader.Sync

open CryptoTrader.Lib

/-! ## What is known of one position -/

/-- What the history says about one position.  `requested`, `stop` and `target`
count from the last record that carried a stop or a target; `owed` is a last
attempt that left the position without a stop, and `due` such an attempt that
a later record has not renewed. -/
structure Watch where
  record : Option ExternalPosition := none
  requested : Bool := false
  stop : Option PyFloat := none
  target : Option PyFloat := none
  owed : Bool := false
  due : Bool := false

/-- The last record carries no stop. -/
def Watch.bare (w : Watch) : Bool := w.record.any (fun record => !record.hasStopLoss)

/-- What one more moment makes of it. -/
def Watch.take (w : Watch) : Moment → Watch
  | .received record =>
      let target := if record.hasTakeProfit then none else w.target
      if record.hasStopLoss then { record := some record, target := target }
      else { w with record := some record, target := target, due := w.owed }
  | .required _ => { w with requested := w.requested || w.bare, due := false }
  | .attempted _ orders =>
      { w with
        stop := (acceptedOf .sl orders).or w.stop
        target := (acceptedOf .tp orders).or w.target
        owed := w.bare && (acceptedOf .sl orders).isNone }
  | .dropped _ => {}

def Watch.observe (exchangeId : PyStr) (w : Watch) (moment : Moment) : Watch :=
  if moment.exchangeId = exchangeId then w.take moment else w

def PositionSyncService.watch (s : PositionSyncService) (exchangeId : PyStr) : Watch :=
  s.history.foldl (Watch.observe exchangeId) {}

/-- An entry mirrors a record: it agrees with it, up to a stop and a target that
the client has accepted since the record carried none; without a stop in the
record, protection has been requested; the position is treated as having a stop
only if the record carries one or the client has accepted one; and no attempt
is due. -/
structure Watch.Mirrors (w : Watch) (record pos : ExternalPosition) : Prop where
  side : pos.side = record.side
  qty : pos.qty = record.qty
  entryPrice : pos.entryPrice = record.entryPrice
  leverage : pos.leverage = record.leverage
  stop : pos.stopLoss = record.stopLoss ∨
    ¬ record.hasStopLoss ∧ w.stop.isSome ∧ pos.stopLoss = w.stop
  target : pos.takeProfit = record.takeProfit ∨
    ¬ record.hasTakeProfit ∧ w.target.isSome ∧ pos.takeProfit = w.target
  requested : ¬ record.hasStopLoss → w.requested
  treated : pos.hasStopLoss ∨ pos.syncState = .protected_ → record.hasStopLoss ∨ w.stop.isSome
  renewed : ¬ w.due

/-- Every entry of the registry mirrors the last record received for its id. -/
def PositionSyncService.Mirrored (s : PositionSyncService) : Prop :=
  ∀ exchangeId pos, s.positions.get? exchangeId = some pos →
    ∃ record, (s.watch exchangeId).record = some record ∧
      (s.watch exchangeId).Mirrors record pos

/-! ## When a record is mirrored -/

/-- The callback asks for protection, where there is no stop; what the manager
writes, the client accepts. -/
def ProtectionHandler.serves (pos : ExternalPosition) : ProtectionHandler → Bool
  | .unwired => pos.hasStopLoss
  | .observer _ => true
  | .manager pm => pm.delivers pos

/-- A new position is either complete or comes to a callback that serves it.  A
position that is there keeps its side, its entry price and its leverage, and
comes without a stop only if protection has been requested since it last had
one and no attempt is owed. -/
def PositionSyncService.UpsertOk (s : PositionSyncService) (cb : Callbacks)
    (incoming : ExternalPosition) : Prop :=
  match s.positions.get? incoming.exchangeId with
  | none =>
      if cb.newPositionRaises then incoming.hasStopLoss = true
      else incoming.hasStopLoss ∧ incoming.hasTakeProfit ∨ cb.protectionRequired.serves incoming
  | some existing =>
      incoming.side = existing.side ∧ incoming.entryPrice = existing.entryPrice ∧
        incoming.leverage = existing.leverage ∧
        (¬ incoming.hasStopLoss → (s.watch incoming.exchangeId).requested ∧
          ¬ (s.watch incoming.exchangeId).owed)

instance (s : PositionSyncService) (cb : Callbacks) (incoming : ExternalPosition) :
    Decidable (s.UpsertOk cb incoming) := by
  unfold PositionSyncService.UpsertOk
  split <;> infer_instance

/-- The records of a response are mirrored one after the other; where a callback
raises, no record is left. -/
def PositionSyncService.RowsOk (around : Surroundings) :
    ℕ → List PyValue → PositionSyncService → Prop
  | _, [], _ => True
  | n, raw :: rest, s =>
      match parseRestPosition around.py around.wallet raw with
      | none => RowsOk around (n + 1) rest s
      | some pos =>
          s.UpsertOk (around.callbacks n) pos ∧
          match (s.note (.received pos)).upsert (around.callbacks n) pos with
          | (_, true) => around.records rest = []
          | (after, false) => RowsOk around (n + 1) rest after

instance PositionSyncService.RowsOk.decidable (around : Surroundings) :
    ∀ (n : ℕ) (rows : List PyValue) (s : PositionSyncService), Decidable (RowsOk around n rows s)
  | _, [], _ => isTrue trivial
  | n, raw :: rest, s => by
      have hrest := RowsOk.decidable around (n + 1) rest
      unfold RowsOk
      split
      · exact hrest s
      · refine @instDecidableAnd _ _ inferInstance ?_
        split
        · infer_instance
        · exact hrest _

def PositionSyncService.WsOk (around : Surroundings) (data : PyValue) (s : PositionSyncService) :
    Prop :=
  match parseRestPosition around.py around.wallet data with
  | none => True
  | some pos => PyFloat.le pos.qty (.fin 0) ∨ s.UpsertOk (around.callbacks 0) pos

instance (around : Surroundings) (data : PyValue) (s : PositionSyncService) :
    Decidable (s.WsOk around data) := by
  unfold PositionSyncService.WsOk
  split <;> infer_instance

def PositionSyncService.Ok (s : PositionSyncService) : SyncEvent × Surroundings → Prop
  | (.bootstrap rest, around) | (.reconcile rest, around) =>
      RowsOk around 0 (fetchPositionsRest rest) s
  | (.wsPositionUpdate data, around) => s.WsOk around data

instance (s : PositionSyncService) : ∀ event, Decidable (s.Ok event)
  | (.bootstrap rest, around) | (.reconcile rest, around) =>
      PositionSyncService.RowsOk.decidable around 0 (fetchPositionsRest rest) s
  | (.wsPositionUpdate data, around) => inferInstanceAs (Decidable (s.WsOk around data))

/-! ## The watch -/

section Watch

variable {s : PositionSyncService} {exchangeId : PyStr}

@[simp] theorem PositionSyncService.watch_note (moment : Moment) :
    (s.note moment).watch exchangeId = (s.watch exchangeId).observe exchangeId moment := by
  unfold watch note
  rw [List.foldl_append]
  rfl

@[simp] theorem PositionSyncService.watch_put (pos : ExternalPosition) :
    (s.put pos).watch exchangeId = s.watch exchangeId := rfl

@[simp] theorem PositionSyncService.note_positions (moment : Moment) :
    (s.note moment).positions = s.positions := rfl

@[simp] theorem PositionSyncService.put_positions (pos : ExternalPosition) :
    (s.put pos).positions = s.positions.set pos.exchangeId pos := rfl

@[simp] theorem Watch.observe_self {w : Watch} {moment : Moment} :
    w.observe moment.exchangeId moment = w.take moment := if_pos rfl

/-- What is noted of another position changes nothing. -/
theorem Watch.observe_of_ne {w : Watch} {moment : Moment} (h : moment.exchangeId ≠ exchangeId) :
    w.observe exchangeId moment = w := if_neg h

/-- A request counts only while the last record carries no stop. -/
theorem Watch.take_bare {w : Watch} (moment : Moment) (h : w.requested → w.bare) :
    (w.take moment).requested → (w.take moment).bare := by
  cases moment with
  | received record =>
      by_cases hstop : record.hasStopLoss
      · simp [take, hstop]
      · simp [take, hstop, bare]
  | required id =>
      intro hreq
      rcases (Bool.or_eq_true _ _).mp hreq with hold | hbare
      · exact h hold
      · exact hbare
  | attempted id orders => exact h
  | dropped id =>
      intro hreq
      cases hreq

/-- Protection that has been requested is still without a stop. -/
theorem PositionSyncService.requested_bare (s : PositionSyncService) (exchangeId : PyStr) :
    (s.watch exchangeId).requested → (s.watch exchangeId).bare := by
  unfold watch
  generalize hw : ({} : Watch) = w
  have h : w.requested → w.bare := by
    subst hw
    intro hreq
    cases hreq
  clear hw
  induction s.history generalizing w with
  | nil => exact h
  | cons moment rest ih =>
      refine ih _ ?_
      unfold Watch.observe
      split
      · exact Watch.take_bare moment h
      · exact h

end Watch

/-! ## One record -/

section Upsert

variable {w : Watch} {record existing incoming : ExternalPosition} {nowMs : ℕ}

theorem Watch.take_received_stop (h : incoming.hasStopLoss) :
    w.take (.received incoming) = {
      record := some incoming
      target := if incoming.hasTakeProfit then none else w.target } := by
  simp [take, h]

theorem Watch.take_received_bare (h : ¬ incoming.hasStopLoss) :
    w.take (.received incoming) = { w with
      record := some incoming
      target := if incoming.hasTakeProfit then none else w.target
      due := w.owed } := by
  simp [take, h]

@[simp] theorem Watch.take_received_record : (w.take (.received incoming)).record = some incoming := by
  by_cases h : incoming.hasStopLoss
  · rw [take_received_stop h]
  · rw [take_received_bare h]

/-- The update of an entry. -/
theorem Watch.Mirrors.refresh (h : w.Mirrors record existing) (hrecord : w.record = some record)
    (hbare : w.requested → w.bare) (hside : incoming.side = existing.side)
    (hentry : incoming.entryPrice = existing.entryPrice)
    (hleverage : incoming.leverage = existing.leverage)
    (hreq : ¬ incoming.hasStopLoss → w.requested ∧ ¬ w.owed) :
    (w.take (.received incoming)).Mirrors incoming
      (existing.refresh (incoming.syncedAt nowMs)) where
  side := hside.symm
  qty := rfl
  entryPrice := hentry.symm
  leverage := hleverage.symm
  stop := Or.inl rfl
  target := Or.inl rfl
  requested := by
    intro hs
    rw [take_received_bare hs]
    exact (hreq hs).1
  treated := by
    by_cases hs : incoming.hasStopLoss
    · exact fun _ => Or.inl hs
    · rintro (hset | hsync)
      · exact Or.inl hset
      · have hprotected : existing.syncState = .protected_ := by
          by_cases hnew : existing.syncState = .new
          · simp [ExternalPosition.refresh, hnew] at hsync
          · simpa [ExternalPosition.refresh, hnew] using hsync
        have hmissing : ¬ record.hasStopLoss := by
          have := hbare (hreq hs).1
          simpa [bare, hrecord] using this
        rw [take_received_bare hs]
        exact Or.inr ((h.treated (Or.inr hprotected)).resolve_left hmissing)
  renewed := by
    by_cases hs : incoming.hasStopLoss
    · rw [take_received_stop hs]
      exact Bool.false_ne_true
    · rw [take_received_bare hs]
      exact (hreq hs).2

/-- A new entry that carries a stop. -/
theorem Watch.mirrors_new (hs : incoming.hasStopLoss) :
    (w.take (.received incoming)).Mirrors incoming (incoming.syncedAt nowMs) := by
  rw [take_received_stop hs]
  exact ⟨rfl, rfl, rfl, rfl, Or.inl rfl, Or.inl rfl, fun h => absurd hs h, fun _ => Or.inl hs,
    Bool.false_ne_true⟩

/-- A new entry for which protection has been requested. -/
theorem Watch.mirrors_required (nowMs : ℕ) (exchangeId : PyStr) (hsync : incoming.syncState = .synced) :
    ((w.take (.received incoming)).take (.required exchangeId)).Mirrors incoming
      (incoming.syncedAt nowMs) where
  side := rfl
  qty := rfl
  entryPrice := rfl
  leverage := rfl
  stop := Or.inl rfl
  target := Or.inl rfl
  requested := by
    intro hs
    simp [take, bare, hs]
  treated := by
    rintro (hset | hprotected)
    · exact Or.inl hset
    · exact absurd (hsync.symm.trans hprotected) (by decide)
  renewed := Bool.false_ne_true

/-- A new entry that the protection manager could not look at. -/
theorem Watch.mirrors_skipped (exchangeId : PyStr) (hsync : incoming.syncState = .synced) :
    (((w.take (.received incoming)).take (.required exchangeId)).take (.attempted exchangeId [])).Mirrors incoming
      (incoming.syncedAt nowMs) :=
  have h := w.mirrors_required nowMs exchangeId hsync
  ⟨rfl, rfl, rfl, rfl, Or.inl rfl, Or.inl rfl, h.requested,
    fun ht => (h.treated ht).imp_right (fun hstop => hstop), h.renewed⟩

/-- A new entry that the protection manager has protected. -/
theorem Watch.mirrors_protected (exchangeId : PyStr) (hsync : incoming.syncState = .synced)
    {assessed : ExternalPosition} {orders : List Placement}
    (h : (incoming.syncedAt nowMs).Protected assessed orders) :
    (((w.take (.received incoming)).take (.required exchangeId)).take (.attempted exchangeId orders)).Mirrors
      incoming { assessed with syncState := .protected_ } := by
  obtain ⟨hrest, hkept, hplaced, htarget⟩ := h
  have h := w.mirrors_required nowMs exchangeId hsync
  have hstop : ¬ incoming.hasStopLoss → (acceptedOf .sl orders).or
      ((w.take (.received incoming)).take (.required exchangeId)).stop = acceptedOf .sl orders :=
    fun hs => Option.or_of_isSome (hplaced hs).1
  exact {
    side := (congrArg ExternalPosition.side hrest :)
    qty := (congrArg ExternalPosition.qty hrest :)
    entryPrice := (congrArg ExternalPosition.entryPrice hrest :)
    leverage := (congrArg ExternalPosition.leverage hrest :)
    stop := by
      by_cases hs : incoming.hasStopLoss
      · exact Or.inl (hkept hs)
      · show _ ∨ _ ∧ Option.isSome (Option.or _ _) ∧ _ = Option.or _ _
        rw [hstop hs]
        exact Or.inr ⟨hs, hplaced hs⟩
    target := by
      rcases htarget with hkept | ⟨ht, hsome, haccepted⟩
      · exact Or.inl hkept
      · show _ ∨ _ ∧ Option.isSome (Option.or _ _) ∧ _ = Option.or _ _
        rw [Option.or_of_isSome hsome]
        exact Or.inr ⟨ht, hsome, haccepted⟩
    requested := h.requested
    treated := by
      intro _
      by_cases hs : incoming.hasStopLoss
      · exact Or.inl hs
      · right
        show Option.isSome (Option.or _ _)
        rw [hstop hs]
        exact (hplaced hs).1
    renewed := h.renewed }

variable {s s' : PositionSyncService} {cb : Callbacks}

/-- Nothing happens to the other positions. -/
def PositionSyncService.SameElsewhere (s s' : PositionSyncService) (exchangeId : PyStr) : Prop :=
  ∀ id, exchangeId ≠ id → s'.positions.get? id = s.positions.get? id ∧ s'.watch id = s.watch id

namespace PositionSyncService

theorem sameElsewhere_note (moment : Moment) : s.SameElsewhere (s.note moment) moment.exchangeId := by
  intro id hne
  rw [watch_note, Watch.observe_of_ne hne]
  exact ⟨rfl, rfl⟩

theorem sameElsewhere_put (pos : ExternalPosition) : s.SameElsewhere (s.put pos) pos.exchangeId :=
  fun _ hne => ⟨Dict.get?_set_ne _ _ hne, rfl⟩

theorem SameElsewhere.trans {s'' : PositionSyncService} {exchangeId : PyStr}
    (h : s.SameElsewhere s' exchangeId) (h' : s'.SameElsewhere s'' exchangeId) :
    s.SameElsewhere s'' exchangeId :=
  fun id hne => ⟨(h' id hne).1.trans (h id hne).1, (h' id hne).2.trans (h id hne).2⟩

/-- The entry of one position, if there is one, mirrors its last record. -/
def MirroredAt (s : PositionSyncService) (exchangeId : PyStr) : Prop :=
  ∀ pos, s.positions.get? exchangeId = some pos →
    ∃ record, (s.watch exchangeId).record = some record ∧ (s.watch exchangeId).Mirrors record pos

theorem Mirrored.of_sameElsewhere {exchangeId : PyStr} (h : s.Mirrored)
    (hother : s.SameElsewhere s' exchangeId) (hat : s'.MirroredAt exchangeId) : s'.Mirrored := by
  intro id
  by_cases hid : exchangeId = id
  · exact hid ▸ hat
  · obtain ⟨hget, hwatch⟩ := hother id hid
    rw [hget, hwatch]
    exact h id

/-- The entry that is registered last. -/
theorem mirroredAt_of (record : ExternalPosition) {pos : ExternalPosition} {exchangeId : PyStr}
    (hget : s.positions.get? exchangeId = some pos)
    (hrecord : (s.watch exchangeId).record = some record)
    (h : (s.watch exchangeId).Mirrors record pos) : s.MirroredAt exchangeId := by
  intro pos' hpos'
  cases hget.symm.trans hpos'
  exact ⟨record, hrecord, h⟩

/-- What `_on_protection_required` registers. -/
def settled (pm : ProtectionManager) (pos : ExternalPosition) : ExternalPosition :=
  if (pm.assessAndProtect pos).2.1.error.isSome then (pm.assessAndProtect pos).1
  else { (pm.assessAndProtect pos).1 with syncState := .protected_ }

theorem settled_exchangeId (pm : ProtectionManager) (pos : ExternalPosition) :
    (settled pm pos).exchangeId = pos.exchangeId := by
  unfold settled
  split <;> exact pm.assess_exchangeId pos

theorem requireProtection_manager (pm : ProtectionManager) (pos : ExternalPosition) :
    (s.requireProtection (.manager pm) pos).1 =
      ((s.note (.required pos.exchangeId)).put (settled pm pos)).note
        (.attempted pos.exchangeId (pm.assessAndProtect pos).2.2) := rfl

theorem sameElsewhere_requireProtection (handler : ProtectionHandler) (pos : ExternalPosition) :
    s.SameElsewhere (s.requireProtection handler pos).1 pos.exchangeId := by
  cases handler with
  | unwired => exact fun _ _ => ⟨rfl, rfl⟩
  | observer raises => exact sameElsewhere_note (.required pos.exchangeId)
  | manager pm =>
      rw [requireProtection_manager]
      have hput := sameElsewhere_put (s := s.note (.required pos.exchangeId)) (settled pm pos)
      rw [settled_exchangeId] at hput
      exact ((sameElsewhere_note (.required pos.exchangeId)).trans hput).trans
        (sameElsewhere_note (.attempted pos.exchangeId _))

theorem upsert_known (hget : s.positions.get? incoming.exchangeId = some existing) :
    (s.upsert cb incoming).1 = { s with
      positions :=
        s.positions.set incoming.exchangeId (existing.refresh (incoming.syncedAt cb.nowMs)) } := by
  have hget' : s.positions.get? (incoming.syncedAt cb.nowMs).exchangeId = some existing := hget
  simp only [upsert, hget']
  rfl

theorem upsert_new (hget : s.positions.get? incoming.exchangeId = none) :
    s.upsert cb incoming =
      if cb.newPositionRaises then (s.put (incoming.syncedAt cb.nowMs), true)
      else if ¬ incoming.hasStopLoss ∨ ¬ incoming.hasTakeProfit then
        (s.put (incoming.syncedAt cb.nowMs)).requireProtection cb.protectionRequired
          (incoming.syncedAt cb.nowMs)
      else (s.put (incoming.syncedAt cb.nowMs), false) := by
  have hget' : s.positions.get? (incoming.syncedAt cb.nowMs).exchangeId = none := hget
  simp only [upsert, hget']
  rfl

theorem sameElsewhere_upsert : s.SameElsewhere (s.upsert cb incoming).1 incoming.exchangeId := by
  have hput := sameElsewhere_put (s := s) (incoming.syncedAt cb.nowMs)
  cases hget : s.positions.get? incoming.exchangeId with
  | none =>
      rw [upsert_new hget]
      split
      · exact hput
      · split
        · exact hput.trans (sameElsewhere_requireProtection _ (incoming.syncedAt cb.nowMs))
        · exact hput
  | some existing =>
      rw [upsert_known hget]
      exact fun id hne => ⟨Dict.get?_set_ne _ _ hne, rfl⟩

/-- A new entry that comes to a callback that serves it. -/
theorem mirroredAt_requireProtection {handler : ProtectionHandler} {nowMs : ℕ}
    (hwatch : s.watch incoming.exchangeId = w.take (.received incoming))
    (hsync : incoming.syncState = .synced) (hserves : handler.serves incoming) :
    ((s.put (incoming.syncedAt nowMs)).requireProtection handler
      (incoming.syncedAt nowMs)).1.MirroredAt incoming.exchangeId := by
  cases handler with
  | unwired =>
      refine mirroredAt_of incoming (Dict.get?_set_self _ _ _) ?_ ?_
      · show (s.watch _).record = _
        rw [hwatch, Watch.take_received_record]
      · show (s.watch _).Mirrors _ _
        rw [hwatch]
        exact Watch.mirrors_new hserves
  | observer raises =>
      have hrequired : ((s.put (incoming.syncedAt nowMs)).note
          (.required incoming.exchangeId)).watch incoming.exchangeId =
          (w.take (.received incoming)).take (.required incoming.exchangeId) := by
        rw [watch_note, watch_put, hwatch]
        exact Watch.observe_self
      refine mirroredAt_of incoming (Dict.get?_set_self _ _ _) ?_ ?_
      · exact (congrArg Watch.record hrequired).trans Watch.take_received_record
      · exact hrequired ▸ Watch.mirrors_required _ _ hsync
  | manager pm =>
      rw [requireProtection_manager]
      set orders := (pm.assessAndProtect (incoming.syncedAt nowMs)).2.2 with horders
      have hattempted : ((((s.put (incoming.syncedAt nowMs)).note
          (.required incoming.exchangeId)).put (settled pm (incoming.syncedAt nowMs))).note
          (.attempted incoming.exchangeId orders)).watch incoming.exchangeId =
          ((w.take (.received incoming)).take (.required incoming.exchangeId)).take
            (.attempted incoming.exchangeId orders) := by
        rw [watch_note, watch_put, watch_note, watch_put, hwatch]
        have hrequired : (w.take (.received incoming)).observe incoming.exchangeId
            (.required incoming.exchangeId) = _ := Watch.observe_self
        rw [hrequired]
        exact Watch.observe_self
      have hget : ((s.put (incoming.syncedAt nowMs)).positions.set
          (settled pm (incoming.syncedAt nowMs)).exchangeId
          (settled pm (incoming.syncedAt nowMs))).get? incoming.exchangeId =
            some (settled pm (incoming.syncedAt nowMs)) := by
        rw [settled_exchangeId]
        exact Dict.get?_set_self _ _ _
      refine mirroredAt_of incoming hget ?_ ?_
      · exact (congrArg Watch.record hattempted).trans Watch.take_received_record
      · refine hattempted ▸ ?_
        cases hdf : pm.candles with
        | none =>
            have hassess := ProtectionManager.assess_none (incoming.syncedAt nowMs) hdf
            rw [horders]
            unfold settled
            rw [hassess]
            exact Watch.mirrors_skipped _ hsync
        | some df =>
            obtain ⟨herror, hprotected⟩ :=
              ProtectionManager.protects (incoming.syncedAt nowMs) hdf hserves
            unfold settled
            rw [herror]
            exact Watch.mirrors_protected _ hsync hprotected

/-- A record that is fine is mirrored. -/
theorem Mirrored.upsert (hm : s.Mirrored) (hsync : incoming.syncState = .synced)
    (hok : s.UpsertOk cb incoming) :
    ((s.note (.received incoming)).upsert cb incoming).1.Mirrored := by
  have hreceived : (s.note (.received incoming)).watch incoming.exchangeId =
      (s.watch incoming.exchangeId).take (.received incoming) := by
    rw [watch_note]
    exact Watch.observe_self
  refine hm.of_sameElsewhere ((sameElsewhere_note (.received incoming)).trans sameElsewhere_upsert) ?_
  unfold UpsertOk at hok
  cases hget : s.positions.get? incoming.exchangeId with
  | some existing =>
      rw [hget] at hok
      obtain ⟨hside, hentry, hleverage, hreq⟩ := hok
      obtain ⟨record, hrecord, hmirrors⟩ := hm _ _ hget
      rw [upsert_known (s := s.note (.received incoming)) hget]
      refine mirroredAt_of incoming (Dict.get?_set_self _ _ _) ?_ ?_
      · exact (congrArg Watch.record hreceived).trans Watch.take_received_record
      · show Watch.Mirrors ((s.note (.received incoming)).watch incoming.exchangeId) _ _
        rw [hreceived]
        exact hmirrors.refresh hrecord (s.requested_bare _) hside hentry hleverage hreq
  | none =>
      rw [hget] at hok
      dsimp only at hok
      rw [upsert_new (s := s.note (.received incoming)) hget]
      have hnew : incoming.hasStopLoss →
          ((s.note (.received incoming)).put (incoming.syncedAt cb.nowMs)).MirroredAt
            incoming.exchangeId := by
        intro hs
        refine mirroredAt_of incoming (Dict.get?_set_self _ _ _) ?_ ?_
        · rw [watch_put, hreceived]
          exact Watch.take_received_record
        · rw [watch_put, hreceived]
          exact Watch.mirrors_new hs
      by_cases hraises : cb.newPositionRaises
      · rw [if_pos hraises] at hok ⊢
        exact hnew hok
      · rw [if_neg hraises] at hok ⊢
        by_cases hmissing : ¬ incoming.hasStopLoss ∨ ¬ incoming.hasTakeProfit
        · rw [if_pos hmissing]
          exact mirroredAt_requireProtection hreceived hsync (hok.resolve_left (by tauto))
        · rw [if_neg hmissing]
          exact hnew (by tauto)

end PositionSyncService

end Upsert

/-! ## Whole runs -/

section Runs

variable {s : PositionSyncService} {around : Surroundings}

theorem parse_synced {py : Interpreter} {wallet : Option (PyStr → Bool)} {raw : PyValue}
    {pos : ExternalPosition} (h : parseRestPosition py wallet raw = some pos) :
    pos.syncState = .synced := by
  cases raw with
  | dict fields =>
      simp only [parseRestPosition, bind, Option.bind_eq_some_iff, pure, Option.some.injEq] at h
      obtain ⟨_, _, _, _, _, _, _, _, _, _, _, _, _, _, _, _, rfl⟩ := h
      rfl
  | none => cases h
  | bool b => cases h
  | int n => cases h
  | float x => cases h
  | str s => cases h
  | surrogates points => cases h
  | list xs => cases h

namespace PositionSyncService

theorem Mirrored.upsertRows (rows : List PyValue) : ∀ {n : ℕ} {s : PositionSyncService},
    s.Mirrored → RowsOk around n rows s → (upsertRows around n rows s).1.Mirrored := by
  induction rows with
  | nil => exact fun hm _ => hm
  | cons raw rest ih =>
      intro n s hm hok
      unfold RowsOk at hok
      unfold PositionSyncService.upsertRows
      cases hparse : parseRestPosition around.py around.wallet raw with
      | none =>
          rw [hparse] at hok
          exact ih hm hok
      | some pos =>
          rw [hparse] at hok
          obtain ⟨hupsert, hrest⟩ := hok
          have hafter := hm.upsert (parse_synced hparse) hupsert
          dsimp only
          generalize (s.note (.received pos)).upsert (around.callbacks n) pos = outcome at hrest hafter
          obtain ⟨after, raised⟩ := outcome
          cases raised with
          | false => exact ih hafter hrest
          | true =>
              dsimp only at hrest ⊢
              rw [hrest]
              exact hafter

theorem sameElsewhere_drop (exchangeId : PyStr) : s.SameElsewhere (s.drop exchangeId) exchangeId := by
  intro id hne
  have hdropped : (Moment.dropped exchangeId).exchangeId ≠ id := hne
  refine ⟨Dict.get?_erase_ne _ hne, ?_⟩
  unfold drop
  rw [watch_note, Watch.observe_of_ne hdropped]
  rfl

theorem mirroredAt_drop (exchangeId : PyStr) : (s.drop exchangeId).MirroredAt exchangeId := by
  intro pos hpos
  cases (Dict.get?_erase_self s.positions exchangeId).symm.trans hpos

theorem Mirrored.drop (hm : s.Mirrored) (exchangeId : PyStr) : (s.drop exchangeId).Mirrored :=
  hm.of_sameElsewhere (sameElsewhere_drop exchangeId) (mirroredAt_drop exchangeId)

theorem Mirrored.dropStale (ids : List PyStr) : ∀ {s : PositionSyncService}, s.Mirrored →
    (dropStale around ids s).Mirrored := by
  induction ids with
  | nil => exact fun hm => hm
  | cons exchangeId rest ih =>
      intro s hm
      unfold PositionSyncService.dropStale
      split
      · exact hm.drop exchangeId
      · exact ih (hm.drop exchangeId)

theorem Mirrored.reconcileOnce {rest : Option RestClient} (hm : s.Mirrored)
    (hok : RowsOk around 0 (fetchPositionsRest rest) s) : (s.reconcileOnce around rest).Mirrored := by
  have hrows := Mirrored.upsertRows _ hm hok
  unfold PositionSyncService.reconcileOnce
  dsimp only
  generalize PositionSyncService.upsertRows around 0 (fetchPositionsRest rest) s = outcome at hrows ⊢
  obtain ⟨after, raised⟩ := outcome
  cases raised with
  | false => exact Mirrored.dropStale _ hrows
  | true => exact hrows

theorem Mirrored.onWsPositionUpdate {data : PyValue} (hm : s.Mirrored)
    (hok : s.WsOk around data) : (s.onWsPositionUpdate around data).Mirrored := by
  unfold WsOk at hok
  unfold PositionSyncService.onWsPositionUpdate
  cases hparse : parseRestPosition around.py around.wallet data with
  | none => exact hm
  | some pos =>
      have hnote := sameElsewhere_note (s := s) (.received pos)
      rw [hparse] at hok
      dsimp only at hok ⊢
      by_cases hclosed : PyFloat.le pos.qty (.fin 0)
      · rw [if_pos hclosed]
        cases hget : s.positions.get? pos.exchangeId with
        | some existing =>
            exact hm.of_sameElsewhere (hnote.trans (sameElsewhere_drop pos.exchangeId))
              (mirroredAt_drop pos.exchangeId)
        | none =>
            refine hm.of_sameElsewhere hnote (fun entry hentry => ?_)
            cases hget.symm.trans hentry
      · rw [if_neg hclosed]
        exact hm.upsert (parse_synced hparse) (hok.resolve_left hclosed)

/-- What one event preserves. -/
theorem Mirrored.step {event : SyncEvent × Surroundings} (hm : s.Mirrored) (hok : s.Ok event) :
    (s.step event).Mirrored := by
  obtain ⟨event, around⟩ := event
  cases event with
  | bootstrap rest =>
      cases rest with
      | none => exact hm
      | some client => exact Mirrored.upsertRows _ hm hok
  | reconcile rest => exact hm.reconcileOnce hok
  | wsPositionUpdate data => exact hm.onWsPositionUpdate hok

/-- As long as no entry is given another side, entry price or leverage and none
loses its stop, as every new one is served and no attempt that failed comes up
again, the registry mirrors the last records, and every position is protected. -/
theorem mirrors_and_protects (h : Reaches step Ok {} s) : s.Mirrored :=
  h.invariant (fun _ _ hget => by cases hget) (fun _ _ hm hok => hm.step hok)

/-! ### Runs on fixed records -/

def demoRow (side : String) (qty : ℤ) (stop : PyValue) : PyValue :=
  .dict [("id", .str "p"), ("symbol", .str "BTCUSDT"), ("positionSide", .str side),
    ("positionAmt", .int qty), ("entryPrice", .int 100), ("leverage", .int 10),
    ("stopLossPrice", stop), ("takeProfitPrice", .int 120)]

def demoAround (handler : ProtectionHandler) : Surroundings where
  py := { str := fun _ => "", float := fun _ => none, recursionLimit := 1000, int := fun _ => none }
  wallet := none
  callbacks := fun _ => ⟨0, false, false, handler⟩
  closedRaises := fun _ => false

/-- A manager whose client has `place_stop_market` and accepts. -/
def demoManager : ProtectionManager where
  execution := some { placeStopMarket := some .accepted }
  dataFeed := some ⟨some (.ok (some ⟨20, ⟨.fin 95, "swing_low"⟩, ⟨[.fin 110], "multi_level"⟩⟩))⟩
  dryRun := false

/-- The websocket shows the position of `demoRow` once and again. -/
def demoUpdates (handler : ProtectionHandler) (first second : PyValue) : PositionSyncService :=
  [(.wsPositionUpdate first, demoAround handler), (.wsPositionUpdate second, demoAround handler)].foldl
    step {}

/-- Discovered without a stop, protected, and reported with its stop later. -/
def demoEvents : List (SyncEvent × Surroundings) :=
  [(.bootstrap (some { getPositions := some (.ok [demoRow "LONG" 1 .none]) }),
      demoAround (.manager demoManager)),
    (.wsPositionUpdate (demoRow "LONG" 2 .none), demoAround (.manager demoManager)),
    (.reconcile (some { getPositions := some (.ok [demoRow "LONG" 2 (.int 95)]) }),
      demoAround (.manager demoManager))]

theorem demoEvents_mirrored : (demoEvents.foldl step {}).Mirrored :=
  mirrors_and_protects (Reaches.foldl demoEvents .start (by decide +kernel))

theorem Mirrored.entry (h : s.Mirrored) (exchangeId : PyStr)
    {P : Watch → ExternalPosition → ExternalPosition → Prop}
    (hP : ∀ {w record pos}, Watch.Mirrors w record pos → P w record pos) :
    ∀ pos ∈ s.positions.get? exchangeId, ∀ record ∈ (s.watch exchangeId).record,
      P (s.watch exchangeId) record pos := by
  intro pos hpos record hrecord
  obtain ⟨last, hlast, hmirrors⟩ := h exchangeId pos hpos
  cases hlast.symm.trans hrecord
  exact hP hmirrors

/-- A position that turned short stays long; one that lost its stop is not
protected again; one that the manager met without candles is not met again; and
a dry run leaves a stop that nobody accepted. -/
theorem not_mirrored_demo :
    ¬ (demoUpdates (.observer false) (demoRow "LONG" 1 (.int 90))
        (demoRow "SHORT" 1 (.int 90))).Mirrored ∧
      ¬ (demoUpdates (.observer false) (demoRow "LONG" 1 (.int 90))
        (demoRow "LONG" 1 .none)).Mirrored ∧
      ¬ (demoUpdates (.manager { demoManager with dataFeed := none }) (demoRow "LONG" 1 .none)
        (demoRow "LONG" 1 .none)).Mirrored ∧
      ¬ (step {} (.wsPositionUpdate (demoRow "LONG" 1 .none),
        demoAround (.manager { demoManager with dryRun := true }))).Mirrored := by
  refine ⟨fun h => ?_, fun h => ?_, fun h => ?_, fun h => ?_⟩
  · exact absurd (h.entry (.text "p") (fun hm => hm.side)) (by decide +kernel)
  · exact absurd (h.entry (.text "p") (fun hm => hm.requested)) (by decide +kernel)
  · exact absurd (h.entry (.text "p") (fun hm => hm.renewed)) (by decide +kernel)
  · exact absurd (h.entry (.text "p") (fun hm => hm.treated)) (by decide +kernel)

end PositionSyncService

end Runs

end CryptoTrader.Sync
