import CryptoTrader.Management.Execution
import CryptoTrader.Wallet.Positions

/-!
# A managed stop change

What an approved `modify_stop` leaves in the wallet and at the venue, whatever
the execution client does and wherever another thread closes the position.  The
executor is that of `Management.Executor`; its host is here a wallet position, an
event log and the working stops of the venue, which each call changes.
-/

namespace CryptoTrader

open CryptoTrader.Lib

/-! ## Wallet and venue -/

/-- A position object of the wallet. -/
structure TrackedPosition extends HeldPosition where
  slPrice : PyFloat
  remaining : Decimal
  deriving DecidableEq

/-- A working stop of the venue. -/
structure VenueStop where
  id : String
  quantity : Decimal
  level : PyFloat
  deriving DecidableEq

inductive StopEvent where
  | slAdjusted (level : PyFloat)
  | positionClosed
  deriving DecidableEq

/-- The wallet's position and event log, and the venue's stops for the symbol. -/
structure StopBook where
  position : Option TrackedPosition
  log : List StopEvent
  stops : List VenueStop
  deriving DecidableEq

def StopBook.isOpen (b : StopBook) : Bool := b.position.any (fun pos => pos.isOpen)

/-- How another thread closes the position: whether the wallet keeps the closed
record, and whether the recorded stop is cancelled at the venue. -/
structure Closing where
  keepsRecord : Bool
  cancelsStop : Bool

/-- Remove the stop with an id. -/
def StopBook.cancel (b : StopBook) (id : String) : StopBook :=
  { b with stops := b.stops.filter (fun stop => stop.id ≠ id) }

def StopBook.close (b : StopBook) (closing : Closing) : StopBook :=
  let recorded := (b.position.map (fun pos => pos.stopOrderId)).getD ""
  let b := if closing.cancelsStop then b.cancel recorded else b
  { b with
    position :=
      if closing.keepsRecord then
        b.position.map (fun pos => { pos with isOpen := false, stopOrderId := "" })
      else none
    log := b.log ++ [.positionClosed] }

/-- What the executor meets: the client; the error `_emit_event` raises, if it
does, with whether the event has reached the log by then; the reply to the
cancellation, and whether the venue carries it out; the reply to the placement,
with the `orderId` of an order that is true, and the id of the stop that the
venue has then, if it has; and after how many calls another thread closes the
position. -/
structure StopClient where
  execution : Option ExecutionClient
  emitRaises : Option (PyErr × Bool)
  cancelReply : Except PyErr Bool
  cancels : Bool
  placeReply : Except PyErr (Option String)
  places : Option String
  closes : ℕ → Option Closing

namespace StopClient

variable (c : StopClient)

/-- The id of the order that the placement returns. -/
def orderId : Option String := c.placeReply.toOption.bind id

/-- What a call does.  An open position follows its entry of the reducer, so the
sync after `SL_ADJUSTED` writes the new level and nothing else. -/
def effect (b : StopBook) : ExecutorCall → StopBook
  | .adjustSl _ newSl =>
      { b with
        position := b.position.map (fun pos => { pos with slPrice := newSl })
        log := if c.emitRaises.all Prod.snd then b.log ++ [.slAdjusted newSl] else b.log }
  | .cancelOrder _ id => if c.cancels then b.cancel id else b
  | .placeStopMarket _ _ quantity stopPrice =>
      { b with stops := b.stops ++ (c.places.map (fun id => ⟨id, quantity, stopPrice⟩)).toList }
  | .recordStop _ =>
      { b with
        position := b.position.map (fun pos => { pos with stopOrderId := c.orderId.getD "" }) }
  | _ => b

/-- The position is closed by another thread after the `n`th call, if it is. -/
def disturb (n : ℕ) (b : StopBook) : StopBook :=
  match c.closes n with
  | none => b
  | some closing => b.close closing

/-- The book after some calls, the first of them the `n`th. -/
def afterFrom : ℕ → StopBook → List ExecutorCall → StopBook
  | n, b, [] => c.disturb n b
  | n, b, call :: rest => afterFrom (n + 1) (c.effect (c.disturb n b) call) rest

def after (b : StopBook) (calls : List ExecutorCall) : StopBook := c.afterFrom 0 b calls

/-- The host that the executor sees. -/
def host (symbol : Symbol) (b : StopBook) : Host where
  execution := c.execution
  position calls s :=
    if s = symbol then (c.after b calls).position.map TrackedPosition.toHeldPosition else none
  answer _ call :=
    match call with
    | .adjustSl _ _ =>
        match c.emitRaises with
        | none => .ok true
        | some (e, _) => .error e
    | .cancelOrder _ _ => c.cancelReply
    | .placeStopMarket _ _ _ _ => c.placeReply.map Option.isSome
    | _ => .ok true

/-- `PositionExecutor.apply`: what it returns, and the book at the end. -/
def run (b : StopBook) (dryRun : Bool) (inp : PositionManagementInput) (policy : PolicyDecision) :
    Option (ExecutionOutcome × StopBook) :=
  match PositionExecutor.apply (c.host inp.position.symbol b) dryRun inp policy [] with
  | .ok outcome calls => some (outcome, c.after b calls)
  | .error _ _ => none

end StopClient

/-! ## The wallet behind it -/

/-- A position of the wallet, as the executor sees it. -/
def EnhancedPosition.tracked (pos : EnhancedPosition) : TrackedPosition where
  isOpen := pos.status = .opened
  mode := pos.mode
  stopOrderId := pos.protectiveOrders.sl.getD ""
  slPrice := .fin pos.slPrice
  remaining := pos.remainingQuantity

/-- `_wallet_adjust_sl` on an open position whose level is a number. -/
def Wallet.adjustSl (w : Wallet) (symbol : Symbol) (newSl : Decimal) : Wallet :=
  (w.editPosition symbol (fun pos => { pos with slPrice := newSl })).emit (.slAdjusted symbol newSl)

/-- The adjustment of a position that follows its entry writes the new level
and, but for the mode that the entry names, nothing else. -/
theorem Wallet.AlignedAt.tracked_adjustSl {w : Wallet} {symbol : Symbol} {pos : EnhancedPosition}
    (h : w.AlignedAt symbol) (hpos : w.positions.get? symbol = some pos) (newSl : Decimal) :
    ∃ pos', (w.adjustSl symbol newSl).positions.get? symbol = some pos' ∧
      pos'.tracked = { pos.tracked with mode := pos'.mode, slPrice := .fin newSl } := by
  unfold AlignedAt at h
  rw [hpos] at h
  cases hdata : w.runtime.openPositions.get? symbol with
  | none =>
      rw [hdata] at h
      exact h.elim
  | some data =>
      rw [hdata] at h
      obtain ⟨⟨-, hopen⟩, hfollows⟩ := h
      refine ⟨{ pos with slPrice := newSl }.sync { data with slPrice := newSl }, ?_, ?_⟩
      · unfold adjustSl
        set edited := w.editPosition symbol (fun pos => { pos with slPrice := newSl }) with hedit
        have hposition : edited.positions.get? symbol = some { pos with slPrice := newSl } := by
          rw [hedit, Wallet.editPosition, Dict.get?_modify_self, hpos]
          rfl
        have hentry : (edited.emit (.slAdjusted symbol newSl)).runtime.openPositions.get? symbol =
            some { data with slPrice := newSl } := by
          show (PortfolioState.apply _ _).openPositions.get? symbol = _
          rw [PortfolioState.openPositions_apply]
          show (w.runtime.openPositions.modify symbol _).get? symbol = _
          rw [Dict.get?_modify_self, hdata]
          rfl
        rw [Wallet.positions_emit, hentry, hposition]
        simp [syncPosition, hopen]
      · have hprotective : data.protectiveOrders.getD pos.protectiveOrders = pos.protectiveOrders := by
          cases hp : data.protectiveOrders with
          | none => rfl
          | some p => exact (hfollows.protectiveOrders p hp).symm
        simp [EnhancedPosition.tracked, EnhancedPosition.sync, hprotective, hfollows.quantity]

/-- The stop of a long is moved to 98. -/
theorem demoLong_tracked :
    let w := (Wallet.boot demoInit id {} false).emit (.positionOpened
      ⟨demoSymbol, .long, 100, 10, 100, 100, 0, .swing, 95, 10, 0, [], none, none, none⟩)
    ∃ pos, (w.adjustSl demoSymbol 98).positions.get? demoSymbol = some pos ∧
      pos.tracked.slPrice = .fin 98 := by
  intro w
  have haligned : w.AlignedAt demoSymbol := (Wallet.Aligned.boot demoInit id false demoSymbol).emit _
  have hopen : (w.positions.get? demoSymbol).isSome := by decide +kernel
  obtain ⟨pos, hpos, htracked⟩ := haligned.tracked_adjustSl (Option.some_get hopen).symm 98
  exact ⟨pos, hpos, by rw [htracked]⟩

/-! ## All or nothing -/

/-- The venue holds one working stop, for the remaining quantity and at the new
level, and the wallet's open position has its id and its level. -/
def StopBook.Holds (b : StopBook) (newSl : PyFloat) : Prop :=
  ∃ pos stop, b.position = some pos ∧ pos.isOpen ∧ pos.slPrice = newSl ∧ b.stops = [stop] ∧
    stop.quantity = pos.remaining ∧ stop.level = newSl ∧ stop.id = pos.stopOrderId

/-- The level in the wallet, the event log and the venue's stops are as before. -/
structure StopBook.Same (b b' : StopBook) : Prop where
  slPrice : b'.position.map TrackedPosition.slPrice = b.position.map TrackedPosition.slPrice
  log : b'.log = b.log
  stops : b'.stops = b.stops

def ExecutionOutcome.isError : ExecutionOutcome → Bool
  | .error _ => true
  | _ => false

/-- A stop change is done, or reported as an error and undone, and never leaves
the venue without a stop. -/
structure AllOrNothing (newStopLoss : Option PyFloat) (b b' : StopBook)
    (outcome : ExecutionOutcome) : Prop where
  done : outcome = .ok → ∃ newSl, newStopLoss = some newSl ∧ b'.Holds newSl
  undone : outcome ≠ .ok → outcome.isError ∧ b.Same b'
  kept : b.stops ≠ [] → b'.stops ≠ []

/-! ## When a change is all or nothing -/

namespace StopClient

variable (c : StopClient) (pos : TrackedPosition)

/-- There is an id to cancel and a method to do it. -/
def triesCancel : Bool := pos.stopOrderId ≠ "" && c.execution.any ExecutionClient.cancelOrder

/-- There is a method to place a stop, and the cancellation does not raise. -/
def triesPlace : Bool :=
  c.execution.any ExecutionClient.placeStopMarket && (!c.triesCancel pos || c.cancelReply.isOk)

/-- The calls, if the event is emitted and nobody interferes. -/
def callCount : ℕ :=
  1 + (c.triesCancel pos).toNat + (c.triesPlace pos).toNat +
    (c.triesPlace pos && c.orderId.isSome).toNat

/-- What the cancellation leaves at the venue. -/
def left (stops : List VenueStop) : List VenueStop :=
  if c.triesCancel pos && c.cancels then stops.filter (fun stop => stop.id ≠ pos.stopOrderId)
  else stops

/-- What the placement puts there. -/
def put (quantity : Decimal) (newSl : PyFloat) : List VenueStop :=
  if c.triesPlace pos then (c.places.map (fun id => ⟨id, quantity, newSl⟩)).toList else []

/-- The id the wallet has at the end. -/
def recordedId : String :=
  if c.triesPlace pos then c.orderId.getD pos.stopOrderId else pos.stopOrderId

/-- The event is emitted, nobody closes the position, and of what was and what
is put at the venue there is left one stop, for the remaining quantity, at the
new level, with the id the wallet has. -/
structure Lands (stops : List VenueStop) (quantity : Decimal) (newSl : PyFloat) : Prop where
  emitted : c.emitRaises = none
  alone : ∀ n ≤ c.callCount pos, (c.closes n).isNone
  one : ∃ stop, c.left pos stops ++ c.put pos quantity newSl = [stop] ∧
    stop.quantity = pos.remaining ∧ stop.level = newSl ∧ stop.id = c.recordedId pos

/-- The event is not emitted and does not reach the log, nobody closes the
position, and the wallet had the new level before. -/
structure Fails (newSl : PyFloat) : Prop where
  raises : ∃ e, c.emitRaises = some (e, false)
  alone : ∀ n ≤ 1, (c.closes n).isNone
  level : pos.slPrice = newSl

/-- It is no dry run, there is a new level that differs from that of the
snapshot, and the change lands or fails harmlessly. -/
def Changes (stops : List VenueStop) (inp : PositionManagementInput) (dryRun : Bool)
    (params : ExecutionParams) : Prop :=
  dryRun = false ∧ ∃ newSl, params.newStopLoss = some newSl ∧
    ¬ PyFloat.lt (PyFloat.distance inp.position.stopLoss newSl) (.fin (1 / 10 ^ 8)) ∧
    (c.Lands pos stops inp.position.qty newSl ∨ c.Fails pos newSl)

end StopClient

/-! ## The book along the calls -/

section After

variable {c : StopClient} {b : StopBook} {calls calls' : List ExecutorCall}

theorem StopClient.afterFrom_snoc (calls : List ExecutorCall) (call : ExecutorCall) : ∀ (n : ℕ) (b : StopBook),
    c.afterFrom n b (calls ++ [call]) =
      c.disturb (n + calls.length + 1) (c.effect (c.afterFrom n b calls) call) := by
  induction calls with
  | nil => exact fun n b => rfl
  | cons first rest ih =>
      intro n b
      show c.afterFrom (n + 1) _ (rest ++ [call]) = _
      rw [ih, List.length_cons, show n + 1 + rest.length = n + (rest.length + 1) by omega]
      rfl

theorem StopClient.after_snoc (call : ExecutorCall) :
    c.after b (calls ++ [call]) =
      c.disturb (calls.length + 1) (c.effect (c.after b calls) call) := by
  have h := c.afterFrom_snoc calls call 0 b
  rwa [Nat.zero_add] at h

/-- A close is logged. -/
theorem StopBook.log_close (closing : Closing) :
    (b.close closing).log = b.log ++ [.positionClosed] := by
  unfold close
  cases closing.cancelsStop <;> rfl

theorem StopBook.isOpen_close (closing : Closing) : ¬ (b.close closing).isOpen := by
  unfold isOpen close
  cases closing.keepsRecord with
  | false => simp
  | true =>
      cases closing.cancelsStop <;> cases hpos : b.position <;> simp [cancel, hpos]

theorem StopClient.disturb_alone {n : ℕ} (h : (c.closes n).isNone) : c.disturb n b = b := by
  unfold disturb
  rw [Option.isNone_iff_eq_none.mp h]

theorem StopClient.isOpen_disturb {n : ℕ} : (c.disturb n b).isOpen ↔ (c.closes n).isNone ∧ b.isOpen := by
  unfold disturb
  cases c.closes n with
  | none => simp
  | some closing => simpa using b.isOpen_close closing

@[simp] theorem StopClient.isOpen_effect (call : ExecutorCall) :
    (c.effect b call).isOpen = b.isOpen := by
  unfold StopBook.isOpen
  cases call with
  | adjustSl symbol newSl => simp [effect, Option.any_map]
  | cancelOrder symbol id =>
      show Option.any _ (if c.cancels then b.cancel id else b).position = _
      split <;> rfl
  | recordStop symbol => simp [effect, Option.any_map]
  | _ => rfl

/-- A position that is closed stays so. -/
theorem StopClient.isOpen_of_adds {P : ExecutorCall → Prop} (hadds : Adds P calls calls')
    (h : (c.after b calls').isOpen) : (c.after b calls).isOpen := by
  obtain ⟨more, rfl, -⟩ := hadds
  induction more using List.reverseRecOn with
  | nil => rwa [List.append_nil] at h
  | append_singleton more call ih =>
      rw [← List.append_assoc, after_snoc] at h
      exact ih (by simpa using (isOpen_disturb.mp h).2)

theorem StopClient.closes_of_isOpen (h : (c.after b calls).isOpen) :
    (c.closes calls.length).isNone := by
  cases calls using List.reverseRecOn with
  | nil => exact (isOpen_disturb.mp h).1
  | append_singleton rest call =>
      rw [after_snoc] at h
      rw [List.length_append]
      exact (isOpen_disturb.mp h).1

end After

/-! ## The executor -/

section Run

variable {c : StopClient} {b : StopBook} {pos : TrackedPosition} {inp : PositionManagementInput}
  {newSl : PyFloat} {calls calls' : List ExecutorCall}

theorem StopBook.Holds.isOpen (h : b.Holds newSl) : b.isOpen := by
  obtain ⟨pos, -, hpos, hopen, -⟩ := h
  unfold StopBook.isOpen
  rw [hpos]
  exact hopen

/-- Where the calls end, the venue holds the stop exactly if the change lands. -/
def StopClient.Settles (c : StopClient) (pos : TrackedPosition) (b : StopBook)
    (inp : PositionManagementInput) (newSl : PyFloat) (calls : List ExecutorCall) : Prop :=
  (c.after b calls).Holds newSl ↔ c.Lands pos b.stops inp.position.qty newSl

/-- A position that another thread closes on the way. -/
theorem StopClient.settles_of_closes (hn : calls.length ≤ c.callCount pos)
    (hcloses : ¬ (c.closes calls.length).isNone) (hadds : Adds (fun _ => True) calls calls') :
    c.Settles pos b inp newSl calls' := by
  constructor
  · intro h
    exact absurd (closes_of_isOpen (isOpen_of_adds hadds h.isOpen)) hcloses
  · intro h
    exact absurd (h.alone _ hn) hcloses

theorem StopClient.wp_of_closes {α : Type} {m : Manage α}
    (hm : Moves (Adds (fun _ => True)) m) (hn : calls.length ≤ c.callCount pos)
    (hcloses : ¬ (c.closes calls.length).isNone) :
    wp m (fun _ => c.Settles pos b inp newSl) (fun _ => c.Settles pos b inp newSl) calls :=
  wp_mono (hm calls) (fun _ _ => settles_of_closes hn hcloses) (fun _ _ => settles_of_closes hn hcloses)

/-- Where nobody interferes, the book at the end says whether the change lands. -/
theorem StopClient.settles_of_after (hemit : c.emitRaises = none) (hopen : pos.isOpen)
    (halone : ∀ n ≤ c.callCount pos, (c.closes n).isNone)
    (hpos : (c.after b calls).position =
      some { pos with slPrice := newSl, stopOrderId := c.recordedId pos })
    (hstops : (c.after b calls).stops = c.left pos b.stops ++ c.put pos inp.position.qty newSl) :
    c.Settles pos b inp newSl calls := by
  constructor
  · rintro ⟨pos', stop, hpos', -, -, hone, hquantity, hlevel, hid⟩
    cases hpos.symm.trans hpos'
    exact ⟨hemit, halone, stop, hstops ▸ hone, hquantity, hlevel, hid⟩
  · rintro ⟨-, -, stop, hone, hquantity, hlevel, hid⟩
    exact ⟨_, stop, hpos, hopen, rfl, hstops ▸ hone, hquantity, hlevel, hid⟩

/-- The placement of the new stop, in a book that nobody has touched. -/
theorem StopClient.wp_placeSl {client : ExecutionClient} (hclient : c.execution = some client)
    (hemit : c.emitRaises = none) (hopen : pos.isOpen)
    (hcalls : calls.length = 1 + (c.triesCancel pos).toNat)
    (hreply : c.triesCancel pos → c.cancelReply.isOk)
    (halone : ∀ n ≤ calls.length, (c.closes n).isNone)
    (hafter : c.after b calls = { b with
      position := some { pos with slPrice := newSl }
      log := b.log ++ [.slAdjusted newSl]
      stops := c.left pos b.stops }) (side : String) :
    wp (do
      if client.placeStopMarket then
        let order ← makeCall (c.host inp.position.symbol b)
          (.placeStopMarket inp.position.symbol side inp.position.qty newSl)
        if order then
          let _ ← makeCall (c.host inp.position.symbol b) (.recordStop inp.position.symbol))
      (fun _ => c.Settles pos b inp newSl) (fun _ => c.Settles pos b inp newSl) calls := by
  have htries : c.triesPlace pos = client.placeStopMarket := by
    unfold triesPlace
    cases h : c.triesCancel pos with
    | false => simp [hclient]
    | true => simp [hclient, hreply h]
  by_cases hmethod : client.placeStopMarket
  · rw [hmethod] at htries
    rw [if_pos hmethod, wp_bind, wp_makeCall]
    set placed := calls ++ [.placeStopMarket inp.position.symbol side inp.position.qty newSl]
      with hplaced
    have hlength : placed.length = calls.length + 1 := by simp [hplaced]
    have hcount : c.callCount pos = placed.length + c.orderId.isSome.toNat := by
      simp [callCount, htries, hcalls, hlength]
    have hanswer : (c.host inp.position.symbol b).answer calls
        (.placeStopMarket inp.position.symbol side inp.position.qty newSl) =
          c.placeReply.map Option.isSome := rfl
    rw [hanswer]
    by_cases hcloses : (c.closes placed.length).isNone
    · have haloneP : ∀ n ≤ placed.length, (c.closes n).isNone := by
        intro n hn
        rcases Nat.lt_or_eq_of_le hn with hlt | rfl
        · exact halone n (by omega)
        · exact hcloses
      have hafterP : c.after b placed = { b with
          position := some { pos with slPrice := newSl }
          log := b.log ++ [.slAdjusted newSl]
          stops := c.left pos b.stops ++ c.put pos inp.position.qty newSl } := by
        rw [hplaced, after_snoc, ← hlength, disturb_alone hcloses, hafter]
        simp [effect, put, htries]
      -- without an order id nothing is recorded
      have hunrecorded : c.orderId = none → c.Settles pos b inp newSl placed := by
        intro hid
        refine settles_of_after hemit hopen (fun n hn => haloneP n (by simpa [hcount, hid] using hn))
          ?_ ?_
        · rw [hafterP]
          simp [recordedId, htries, hid]
        · rw [hafterP]
      cases hreplyP : c.placeReply with
      | error e => exact hunrecorded (by simp [orderId, hreplyP, Except.toOption])
      | ok order =>
          cases order with
          | none => exact hunrecorded (by simp [orderId, hreplyP, Except.toOption])
          | some id =>
              have hid : c.orderId = some id := by simp [orderId, hreplyP, Except.toOption]
              show wp (makeCall _ _ >>= fun _ => pure ()) _ _ _
              rw [wp_bind, wp_makeCall]
              show c.Settles pos b inp newSl (placed ++ [.recordStop inp.position.symbol])
              have hlengthR : (placed ++ [ExecutorCall.recordStop inp.position.symbol]).length =
                  placed.length + 1 := by simp
              by_cases hclosesR : (c.closes (placed.length + 1)).isNone
              · refine settles_of_after hemit hopen (fun n hn => ?_) ?_ ?_
                · rcases Nat.lt_or_eq_of_le hn with hlt | rfl
                  · exact haloneP n (by simp [hcount, hid] at hlt; omega)
                  · simpa [hcount, hid] using hclosesR
                · rw [after_snoc, disturb_alone hclosesR, hafterP]
                  simp [effect, recordedId, htries, hid]
                · rw [after_snoc, disturb_alone hclosesR, hafterP]
                  rfl
              · have hnR : (placed ++ [ExecutorCall.recordStop inp.position.symbol]).length ≤
                    c.callCount pos := by simp [hcount, hid]
                exact settles_of_closes hnR (by rwa [hlengthR]) (refl_of _ _)
    · have hn : placed.length ≤ c.callCount pos := by omega
      cases c.placeReply with
      | error e => exact settles_of_closes hn hcloses (refl_of _ _)
      | ok order =>
          refine wp_of_closes ?_ hn hcloses
          split
          · exact Moves.bind (makeCall_adds trivial) (fun _ => Moves.pure _)
          · exact Moves.pure _
  · rw [Bool.not_eq_true] at hmethod
    rw [hmethod] at htries
    have hcount : c.callCount pos = calls.length := by simp [callCount, htries, hcalls]
    rw [if_neg (by simp [hmethod])]
    refine settles_of_after hemit hopen (hcount ▸ halone) ?_ ?_
    · rw [hafter]
      simp [recordedId, htries]
    · rw [hafter]
      simp [put, htries]

/-- The book after the adjustment. -/
theorem StopClient.after_adjust (inp : PositionManagementInput) (newSl : PyFloat)
    (hpos : b.position = some pos) (hemit : c.emitRaises = none)
    (halone : ∀ n ≤ 1, (c.closes n).isNone) :
    c.after b [.adjustSl inp.position.symbol newSl] = { b with
      position := some { pos with slPrice := newSl }
      log := b.log ++ [.slAdjusted newSl] } := by
  show c.disturb 1 (c.effect (c.disturb 0 b) _) = _
  rw [disturb_alone (halone 1 le_rfl), disturb_alone (halone 0 (by omega))]
  simp [effect, hpos, hemit]

/-- The replacement of the stop at the venue. -/
theorem StopClient.wp_replaceSl {client : ExecutionClient} (hclient : c.execution = some client)
    (hpos : b.position = some pos) (hopen : pos.isOpen) (hemit : c.emitRaises = none)
    (halone : ∀ n ≤ 1, (c.closes n).isNone) :
    wp (replaceSl (c.host inp.position.symbol b) client inp.position.symbol newSl inp)
      (fun _ => c.Settles pos b inp newSl) (fun _ => c.Settles pos b inp newSl)
      [.adjustSl inp.position.symbol newSl] := by
  have hafter := after_adjust inp newSl hpos hemit halone
  have hshown : (c.host inp.position.symbol b).position [.adjustSl inp.position.symbol newSl]
      inp.position.symbol = some pos.toHeldPosition := by
    show (if _ = _ then _ else _) = _
    rw [if_pos rfl, hafter]
    rfl
  unfold replaceSl
  rw [wp_bind, wp_getPosition, hshown]
  dsimp only
  by_cases htries : pos.stopOrderId ≠ "" ∧ client.cancelOrder
  · have htriesC : c.triesCancel pos := by simp [triesCancel, hclient, htries]
    rw [if_pos htries, wp_bind, wp_makeCall]
    set cancelled : List ExecutorCall := [.adjustSl inp.position.symbol newSl] ++
      [.cancelOrder inp.position.symbol pos.stopOrderId] with hcancelled
    have hanswer : (c.host inp.position.symbol b).answer [.adjustSl inp.position.symbol newSl]
        (.cancelOrder inp.position.symbol pos.stopOrderId) = c.cancelReply := rfl
    rw [hanswer]
    by_cases hcloses : (c.closes 2).isNone
    · have haloneC : ∀ n ≤ 2, (c.closes n).isNone := by
        intro n hn
        rcases Nat.lt_or_eq_of_le hn with hlt | rfl
        · exact halone n (by omega)
        · exact hcloses
      have hafterC : c.after b cancelled = { b with
          position := some { pos with slPrice := newSl }
          log := b.log ++ [.slAdjusted newSl]
          stops := c.left pos b.stops } := by
        rw [hcancelled, after_snoc]
        show c.disturb 2 _ = _
        rw [disturb_alone hcloses, hafter]
        cases hcancels : c.cancels <;> simp [effect, left, StopBook.cancel, htriesC, hcancels]
      cases hreply : c.cancelReply with
      | error e =>
          have hplace : c.triesPlace pos = false := by
            simp [triesPlace, htriesC, hreply, Except.isOk, Except.toBool]
          refine settles_of_after hemit hopen (fun n hn => haloneC n ?_) ?_ ?_
          · simpa [callCount, htriesC, hplace] using hn
          · rw [hafterC]
            simp [recordedId, hplace]
          · rw [hafterC]
            simp [put, hplace]
      | ok result =>
          refine wp_placeSl hclient hemit hopen ?_ (fun _ => ?_) ?_ hafterC _
          · simp [hcancelled, htriesC]
          · simp [hreply, Except.isOk, Except.toBool]
          · exact haloneC
    · have hn : cancelled.length ≤ c.callCount pos := by
        simp [hcancelled, callCount, htriesC]
        omega
      cases c.cancelReply with
      | error e => exact settles_of_closes hn hcloses (refl_of _ _)
      | ok result =>
          refine wp_of_closes ?_ hn hcloses
          split
          · refine Moves.bind (makeCall_adds trivial) (fun order => ?_)
            split
            · exact Moves.bind (makeCall_adds trivial) (fun _ => Moves.pure _)
            · exact Moves.pure _
          · exact Moves.pure _
  · have htriesC : c.triesCancel pos = false := by
      simpa [triesCancel, hclient] using htries
    rw [if_neg htries]
    refine wp_placeSl hclient hemit hopen ?_ (fun h => ?_) ?_ ?_ _
    · simp [htriesC]
    · rw [htriesC] at h
      cases h
    · exact halone
    · rw [hafter]
      simp [left, htriesC]

/-- What `_modify_stop` does after the adjustment. -/
def replaceAtVenue (host : Host) (symbol : Symbol) (newSl : PyFloat)
    (inp : PositionManagementInput) : Manage ExecutionOutcome :=
  match host.execution with
  | none => pure .ok
  | some client => do
      if ← isLive host symbol then
        exchangeReplaceSl host client symbol newSl inp
      pure .ok

theorem wp_replaceAtVenue {host : Host} {symbol : Symbol} :
    wp (replaceAtVenue host symbol newSl inp)
      (fun outcome calls' => outcome = .ok ∧ Adds (fun _ => True) calls calls')
      (fun _ _ => False) calls := by
  unfold replaceAtVenue
  cases host.execution with
  | none => exact ⟨rfl, refl_of _ _⟩
  | some client =>
      dsimp only
      rw [wp_bind, wp_isLive]
      split
      · rw [wp_bind]
        exact wp_mono (wp_exchangeReplaceSl (fun _ => trivial) (fun _ => trivial) trivial)
          (fun _ _ hadds => ⟨rfl, hadds⟩) (fun _ _ h => h)
      · exact ⟨rfl, refl_of _ _⟩

theorem StopClient.wp_replaceAtVenue (hpos : b.position = some pos) (hopen : pos.isOpen)
    (hlive : pos.mode = .live) (hemit : c.emitRaises = none)
    (halone : ∀ n ≤ 1, (c.closes n).isNone) :
    wp (replaceAtVenue (c.host inp.position.symbol b) inp.position.symbol newSl inp)
      (fun outcome calls => outcome = .ok ∧ c.Settles pos b inp newSl calls)
      (fun _ _ => False) [.adjustSl inp.position.symbol newSl] := by
  unfold replaceAtVenue
  have hafter := after_adjust inp newSl hpos hemit halone
  cases hclient : c.execution with
  | none =>
      have hexecution : (c.host inp.position.symbol b).execution = none := hclient
      rw [hexecution]
      have htries : c.triesCancel pos = false := by simp [triesCancel, hclient]
      have hplace : c.triesPlace pos = false := by simp [triesPlace, hclient]
      refine ⟨rfl, settles_of_after hemit hopen (fun n hn => halone n ?_) ?_ ?_⟩
      · simpa [callCount, htries, hplace] using hn
      · rw [hafter]
        simp [recordedId, hplace]
      · rw [hafter]
        simp [left, put, htries, hplace]
  | some client =>
      have hexecution : (c.host inp.position.symbol b).execution = some client := hclient
      rw [hexecution]
      dsimp only
      have hshown : ((c.host inp.position.symbol b).position
          [.adjustSl inp.position.symbol newSl] inp.position.symbol).any
            (fun pos => pos.mode = .live) := by
        show Option.any _ (if _ = _ then _ else _) = true
        rw [if_pos rfl, hafter]
        simp [hlive]
      rw [wp_bind, wp_isLive, if_pos hshown, wp_bind]
      unfold exchangeReplaceSl
      rw [wp_tryCatch]
      exact wp_mono (wp_replaceSl hclient hpos hopen hemit halone) (fun _ _ h => ⟨rfl, h⟩)
        (fun _ _ h => ⟨rfl, h⟩)

/-! ### The whole change -/

/-- A change that is reported as done. -/
theorem allOrNothing_ok_iff {b' : StopBook} :
    AllOrNothing (some newSl) b b' .ok ↔ b'.Holds newSl := by
  constructor
  · intro h
    obtain ⟨_, ⟨⟩, hholds⟩ := h.done rfl
    exact hholds
  · intro h
    refine ⟨fun _ => ⟨newSl, rfl, h⟩, fun hne => absurd rfl hne, fun _ => ?_⟩
    obtain ⟨-, stop, -, -, -, hone, -⟩ := h
    rw [hone]
    exact List.cons_ne_nil _ _

theorem allOrNothing_error_iff {b' : StopBook} {newStopLoss : Option PyFloat} {message : String} :
    AllOrNothing newStopLoss b b' (.error message) ↔ b.Same b' := by
  constructor
  · intro h
    exact (h.undone (by simp)).2
  · intro h
    refine ⟨fun hok => (by cases hok), fun _ => ⟨rfl, h⟩, fun hstops => ?_⟩
    rwa [h.stops]

/-- A skip is neither. -/
theorem not_allOrNothing_skipped {b' : StopBook} {newStopLoss : Option PyFloat} {reason : String} :
    ¬ AllOrNothing newStopLoss b b' (.skipped reason) := by
  intro h
  cases (h.undone (by simp)).1

/-- Where the adjustment raises, all is as before exactly if the change fails
harmlessly. -/
theorem StopClient.same_iff {e : PyErr} {logged : Bool} (hpos : b.position = some pos)
    (hemit : c.emitRaises = some (e, logged)) (hcloses : (c.closes 0).isNone) :
    b.Same (c.after b [.adjustSl inp.position.symbol newSl]) ↔ c.Fails pos newSl := by
  have hafter : c.after b [.adjustSl inp.position.symbol newSl] = c.disturb 1 { b with
      position := some { pos with slPrice := newSl }
      log := if logged then b.log ++ [.slAdjusted newSl] else b.log } := by
    show c.disturb 1 (c.effect (c.disturb 0 b) _) = _
    rw [disturb_alone hcloses]
    simp [effect, hpos, hemit]
  rw [hafter]
  by_cases hlater : (c.closes 1).isNone
  · rw [disturb_alone hlater]
    constructor
    · rintro ⟨hlevel, hlog, -⟩
      have hlogged : logged = false := by
        cases logged with
        | false => rfl
        | true => simp at hlog
      refine ⟨⟨e, by rw [hemit, hlogged]⟩, fun n hn => ?_, ?_⟩
      · rcases Nat.le_one_iff_eq_zero_or_eq_one.mp hn with rfl | rfl
        · exact hcloses
        · exact hlater
      · simpa [hpos] using hlevel.symm
    · rintro ⟨⟨e', hraises⟩, -, hlevel⟩
      cases hemit.symm.trans hraises
      exact ⟨by simp [hpos, hlevel], rfl, rfl⟩
  · constructor
    · rintro ⟨-, hlog, -⟩
      cases hclosing : c.closes 1 with
      | none => exact absurd (by rw [hclosing]; rfl) hlater
      | some closing =>
          simp only [disturb, hclosing, StopBook.log_close] at hlog
          have hlength := congrArg List.length hlog
          cases logged <;> simp at hlength
    · intro h
      exact absurd (h.alone 1 le_rfl) hlater

/-- The adjustment of an open position. -/
theorem StopClient.wp_walletAdjustSl (hpos : b.position = some pos) (hopen : pos.isOpen)
    (hcloses : (c.closes 0).isNone) {Q : Unit → List ExecutorCall → Prop}
    {E : PyErr → List ExecutorCall → Prop}
    (hraises : ∀ e logged, c.emitRaises = some (e, logged) →
      E e [.adjustSl inp.position.symbol newSl])
    (hemits : c.emitRaises = none → Q () [.adjustSl inp.position.symbol newSl]) :
    wp (walletAdjustSl (c.host inp.position.symbol b) inp.position.symbol newSl) Q E [] := by
  have hshown : (c.host inp.position.symbol b).position [] inp.position.symbol =
      some pos.toHeldPosition := by
    show (if _ = _ then Option.map _ (c.disturb 0 b).position else _) = _
    rw [if_pos rfl, disturb_alone hcloses, hpos]
    rfl
  unfold walletAdjustSl
  rw [wp_bind, wp_getPosition, hshown, if_pos (by exact hopen), wp_bind, wp_makeCall]
  cases hemit : c.emitRaises with
  | none =>
      have hanswer : (c.host inp.position.symbol b).answer []
          (.adjustSl inp.position.symbol newSl) = .ok true := by simp [host, hemit]
      rw [hanswer]
      exact hemits hemit
  | some raised =>
      have hanswer : (c.host inp.position.symbol b).answer []
          (.adjustSl inp.position.symbol newSl) = .error raised.1 := by simp [host, hemit]
      rw [hanswer]
      exact hraises _ _ hemit

/-- The adjustment of a position that another thread has closed. -/
theorem StopClient.wp_walletAdjustSl_closed (hcloses : ¬ (c.closes 0).isNone)
    {Q : Unit → List ExecutorCall → Prop} {E : PyErr → List ExecutorCall → Prop} (h : Q () []) :
    wp (walletAdjustSl (c.host inp.position.symbol b) inp.position.symbol newSl) Q E [] := by
  have hshown : ¬ ((c.host inp.position.symbol b).position [] inp.position.symbol).any
      HeldPosition.isOpen := by
    intro hopen
    have hposition : (c.host inp.position.symbol b).position [] inp.position.symbol =
        (c.after b []).position.map TrackedPosition.toHeldPosition := if_pos rfl
    rw [hposition, Option.any_map] at hopen
    have hafter : (c.after b []).isOpen := hopen
    exact hcloses (closes_of_isOpen hafter)
  unfold walletAdjustSl
  rw [wp_bind, wp_getPosition, if_neg hshown]
  exact h

/-- The change of the stop to a level that differs from that of the snapshot. -/
theorem StopClient.wp_change (hpos : b.position = some pos) (hopen : pos.isOpen)
    (hlive : pos.mode = .live) :
    wp (walletAdjustSl (c.host inp.position.symbol b) inp.position.symbol newSl >>= fun _ =>
        replaceAtVenue (c.host inp.position.symbol b) inp.position.symbol newSl inp)
      (fun outcome calls => AllOrNothing (some newSl) b (c.after b calls) outcome ↔
        c.Lands pos b.stops inp.position.qty newSl ∨ c.Fails pos newSl)
      (fun e calls => AllOrNothing (some newSl) b (c.after b calls) (.error e.pyStr) ↔
        c.Lands pos b.stops inp.position.qty newSl ∨ c.Fails pos newSl) [] := by
  -- where the change cannot fail harmlessly, the venue decides
  have hsettled {outcome : ExecutionOutcome} {calls : List ExecutorCall}
      (hfails : ¬ c.Fails pos newSl) (h : outcome = .ok ∧ c.Settles pos b inp newSl calls) :
      AllOrNothing (some newSl) b (c.after b calls) outcome ↔
        c.Lands pos b.stops inp.position.qty newSl ∨ c.Fails pos newSl := by
    rw [h.1, allOrNothing_ok_iff, or_iff_left hfails]
    exact h.2
  rw [wp_bind]
  by_cases hcloses : (c.closes 0).isNone
  · refine wp_walletAdjustSl hpos hopen hcloses ?_ ?_
    · intro e logged hemit
      have hlands : ¬ c.Lands pos b.stops inp.position.qty newSl := by
        intro h
        cases hemit.symm.trans h.emitted
      rw [allOrNothing_error_iff, or_iff_right hlands]
      exact same_iff hpos hemit hcloses
    · intro hemit
      have hfails : ¬ c.Fails pos newSl := by
        rintro ⟨⟨e, hraises⟩, -, -⟩
        cases hemit.symm.trans hraises
      by_cases hlater : (c.closes 1).isNone
      · have halone : ∀ n ≤ 1, (c.closes n).isNone := by
          intro n hn
          rcases Nat.le_one_iff_eq_zero_or_eq_one.mp hn with rfl | rfl
          · exact hcloses
          · exact hlater
        exact wp_mono (wp_replaceAtVenue hpos hopen hlive hemit halone)
          (fun _ _ h => hsettled hfails h) (fun _ _ h => h.elim)
      · refine wp_mono CryptoTrader.wp_replaceAtVenue (fun _ _ h => hsettled hfails ⟨h.1, ?_⟩)
          (fun _ _ h => h.elim)
        have hn : [ExecutorCall.adjustSl inp.position.symbol newSl].length ≤ c.callCount pos := by
          simp only [List.length_singleton, callCount]
          omega
        exact settles_of_closes hn hlater h.2
  · have hfails : ¬ c.Fails pos newSl := fun h => hcloses (h.alone 0 (by omega))
    refine wp_walletAdjustSl_closed hcloses ?_
    refine wp_mono CryptoTrader.wp_replaceAtVenue (fun _ _ h => hsettled hfails ⟨h.1, ?_⟩)
      (fun _ _ h => h.elim)
    have hn : ([] : List ExecutorCall).length ≤ c.callCount pos := Nat.zero_le _
    exact settles_of_closes hn hcloses h.2

theorem StopClient.wp_modifyStop {params : ExecutionParams} (hpos : b.position = some pos)
    (hopen : pos.isOpen) (hlive : pos.mode = .live) :
    wp (modifyStop (c.host inp.position.symbol b) inp.position.symbol params inp)
      (fun outcome calls => AllOrNothing params.newStopLoss b (c.after b calls) outcome ↔
        c.Changes pos b.stops inp false params)
      (fun e calls => AllOrNothing params.newStopLoss b (c.after b calls) (.error e.pyStr) ↔
        c.Changes pos b.stops inp false params) [] := by
  unfold modifyStop
  cases hstop : params.newStopLoss with
  | none =>
      refine ⟨fun h => absurd h not_allOrNothing_skipped, ?_⟩
      rintro ⟨-, _, hnew, -⟩
      cases hstop.symm.trans hnew
  | some newSl =>
      dsimp only
      by_cases hsame : PyFloat.lt (PyFloat.distance inp.position.stopLoss newSl) (.fin (1 / 10 ^ 8))
      · rw [if_pos hsame]
        refine ⟨fun h => absurd h not_allOrNothing_skipped, ?_⟩
        rintro ⟨-, _, hnew, hdiffers, -⟩
        cases hstop.symm.trans hnew
        exact absurd hsame hdiffers
      · rw [if_neg hsame]
        have hchanges : c.Changes pos b.stops inp false params ↔
            c.Lands pos b.stops inp.position.qty newSl ∨ c.Fails pos newSl := by
          constructor
          · rintro ⟨-, _, hnew, -, h⟩
            cases hstop.symm.trans hnew
            exact h
          · exact fun h => ⟨rfl, newSl, hstop, hsame, h⟩
        rw [hchanges]
        exact wp_change hpos hopen hlive

theorem StopClient.run_ok_iff {dryRun : Bool} {policy : PolicyDecision}
    {P : StopBook → ExecutionOutcome → Prop} :
    (∃ outcome b', c.run b dryRun inp policy = some (outcome, b') ∧ P b' outcome) ↔
      ∃ outcome calls, PositionExecutor.apply (c.host inp.position.symbol b) dryRun inp policy [] =
        .ok outcome calls ∧ P (c.after b calls) outcome := by
  unfold run
  cases PositionExecutor.apply (c.host inp.position.symbol b) dryRun inp policy [] with
  | ok outcome calls => simp
  | error e calls => simp

/-- A client that replaces the stop. -/
def demoClient : StopClient where
  execution := some ⟨true, true, false⟩
  emitRaises := none
  cancelReply := .ok true
  cancels := true
  placeReply := .ok (some "s2")
  places := some "s2"
  closes := fun _ => none

/-- One unit with a stop at 95, under the id that the wallet has. -/
def demoBook (recordedId : String) : StopBook where
  position := some
    { isOpen := true, mode := .live, stopOrderId := recordedId, slPrice := .fin 95, remaining := 1 }
  log := []
  stops := [⟨"s1", 1, .fin 95⟩]

def demoParams : ExecutionParams := { type := "modify_stop", newStopLoss := some (.fin 97) }

def demoPolicy : PolicyDecision where
  approved := true
  action := .tightenSl
  originalAction := .tightenSl
  modifiedParams := some demoParams

/-- What is reported as done leaves one stop. -/
theorem StopClient.not_all_or_nothing (b' : StopBook) {policy : PolicyDecision}
    (hrun : c.run b false inp policy = some (.ok, b')) (hstops : b'.stops.length ≠ 1) :
    ¬ ∃ outcome b'', c.run b false inp policy = some (outcome, b'') ∧
      AllOrNothing (some newSl) b b'' outcome := by
  rintro ⟨outcome, b'', hrun', h⟩
  cases hrun.symm.trans hrun'
  obtain ⟨-, stop, -, -, -, hone, -⟩ := allOrNothing_ok_iff.mp h
  rw [hone] at hstops
  exact hstops rfl

end Run

end CryptoTrader
