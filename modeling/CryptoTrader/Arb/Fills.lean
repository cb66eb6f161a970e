import CryptoTrader.Arb.Runs
import CryptoTrader.Live.Operations

/-!
# The hedge with real fills

The manager books the quantity it asks for.  The live engines round it down to
their own increments, call a market order filled as soon as a poll shows any
fill, and return it then; the venue may fill the rest later, or never, and may
take its fee out of the bought coin.  The spot leg is the engine of `exchanges/coindcx_spot_execution.py`,
here for market orders.
-/

namespace CryptoTrader.Arb

open CryptoTrader.Lib

/-! ## The spot engine -/

/-- `SpotInstrumentSpec`, as far as a market order reads it; the increment is a
power of ten. -/
structure SpotInstrumentSpec where
  quantityIncrement : Decimal
  increment_pos : 0 < quantityIncrement

/-- `SpotInstrumentSpec.round_qty`. -/
def SpotInstrumentSpec.roundQty (spec : SpotInstrumentSpec) (qty : Decimal) : Decimal :=
  roundToIncrement qty spec.quantityIncrement

/-- What `get_order_status` reads of a reply. -/
structure SpotStatusReply where
  status : String
  totalQuantity : Decimal
  remainingQuantity : Decimal
  avgPrice : Decimal

/-- The result of `get_order_status`. -/
structure SpotStatus where
  status : String
  filledQuantity : Decimal
  avgPrice : Decimal

/-- `get_order_status`: a `CoinDCXError` makes the status unknown. -/
def spotOrderStatus : Except PyErr SpotStatusReply → Except PyErr SpotStatus
  | .ok reply =>
      .ok ⟨reply.status.toLower, reply.totalQuantity - reply.remainingQuantity, reply.avgPrice⟩
  | .error (.coinDcxError _ _) => .ok ⟨"unknown", 0, 0⟩
  | .error e => .error e

/-- `attempts` of `_resolve_spot_fill`. -/
def spotFillAttempts : ℕ := 6

/-- The polling loop of `_resolve_spot_fill`; `poll` answers with that many
attempts left after it. -/
def pollSpotFill (order : PlacedOrder) (poll : ℕ → Except PyErr SpotStatusReply) :
    ℕ → Except PyErr PlacedOrder
  | 0 =>
      .error (.coinDcxError
        s!"spot order {order.id} fill unconfirmed — refusing zero-price book")
  | left + 1 => do
      let st ← spotOrderStatus (poll left)
      if 0 < st.filledQuantity ∧ 0 < st.avgPrice then
        pure { order with avgFillPrice := st.avgPrice, filledQuantity := st.filledQuantity }
      else if st.status ∈ ["cancelled", "canceled", "rejected"] then
        .error (.coinDcxError s!"spot order {order.id} terminal '{st.status}' — no fill")
      else pollSpotFill order poll left

/-- `_resolve_spot_fill`. -/
def resolveSpotFill (order : PlacedOrder) (poll : ℕ → Except PyErr SpotStatusReply) :
    Except PyErr PlacedOrder :=
  if 0 < order.avgFillPrice ∧ 0 < order.filledQuantity then pure order
  else if order.id = "" then
    .error (.coinDcxError "spot market order returned no id — cannot confirm fill")
  else pollSpotFill order poll spotFillAttempts

/-- What one `place_order` meets: `assert_live_allowed` and the lookup of the
instrument, the replies, and what the venue has executed by the time the call
ends, with the fee it has taken out of a bought coin. -/
structure SpotCall where
  gate : Except PyErr Unit := .ok ()
  lookup : Except PyErr Unit := .ok ()
  reply : Except PyErr OrderReply
  poll : ℕ → Except PyErr SpotStatusReply
  executed : Decimal
  fee : Decimal := 0

namespace SpotCall

variable (call : SpotCall) (spec : SpotInstrumentSpec) (side : PositionSide) (qty : Decimal)

/-- `place_order` of a market order. -/
def placeOrder : Except PyErr PlacedOrder := do
  call.gate
  call.lookup
  let qty := spec.roundQty qty
  let reply ← call.reply
  resolveSpotFill (parseOrderResponse reply qty) call.poll

/-- Nothing is executed before anything is sent. -/
def traded : Decimal :=
  match call.gate, call.lookup with
  | .ok _, .ok _ => call.executed
  | _, _ => 0

/-- The call, as the manager and the account see it. -/
def outcome : Outcome :=
  { executed := match side with
      | .long => call.traded - call.fee
      | .short => call.traded
    result := (call.placeOrder spec qty).map (fun order => ⟨order.id, order.avgFillPrice⟩) }

end SpotCall

/-! ## The perp engine -/

/-- All the venue will execute on the orders of a trace. -/
def executedIn (trace : List Interaction) : Decimal :=
  ((created trace).map (fun c => c.outcome.executed)).sum

/-- A `place_order` of the futures engine, and how much of it is executed only
after the call has ended. -/
structure PerpCall where
  world : World
  late : Decimal := 0

/-- The call, as the manager and the account see it. -/
def PerpCall.outcome (call : PerpCall) (env : Env) (symbol : Symbol) (side : PositionSide)
    (qty : Decimal) : Outcome :=
  let request : PlaceOrder := { symbol, side, quantity := qty, orderType := .market }
  let executed (s : World) := executedIn s.trace - executedIn call.world.trace - call.late
  match CryptoTrader.placeOrder env request call.world with
  | .ok order s => ⟨executed s, .ok ⟨order.id, order.avgFillPrice⟩⟩
  | .error e s => ⟨executed s, .error e⟩

/-! ## The manager over the live engines -/

/-- The two instruments, and the futures engine's environment. -/
structure LiveSettings where
  symbol : Symbol
  env : Env
  spot : SpotInstrumentSpec

def LiveSettings.perp (settings : LiveSettings) : InstrumentSpec :=
  settings.env.venue.instrument settings.symbol

/-- A tick: its feeds, and what the orders meet that it may send. -/
structure LiveTick where
  feeds : Tick
  perpCall : PositionSide → PerpCall
  spotCall : PositionSide → SpotCall

/-- The tick with the live engines in place. -/
def LiveTick.toTick (settings : LiveSettings) (t : LiveTick) : Tick :=
  { t.feeds with
    place := fun leg side qty =>
      match leg with
      | .perp => (t.perpCall side).outcome settings.env settings.symbol side qty
      | .spot => (t.spotCall side).outcome settings.spot side qty
    crashAt := none }

/-- A tick, an execution after the order's call has ended, or the HALT file being
made or removed. -/
inductive LiveStep where
  | tick (t : LiveTick)
  | late (leg : Leg) (amount : Decimal)
  | setHalt (halt : Bool)

def ArbWorld.liveStep (settings : LiveSettings) (cfg : ArbConfig) (w : ArbWorld) :
    LiveStep → ArbWorld
  | .tick t => w.step cfg (.tick (t.toTick settings))
  | .late leg amount => w.trade leg amount
  | .setHalt halt => w.step cfg (.setHalt halt)

/-! ## Delta-neutral -/

/-- A hedge is of the quantities on record, and neutral up to the coarser
increment; an unwinding leg is held in the quantity the unwind trades; and
without a record both legs are flat. -/
structure ArbWorld.Neutral (settings : LiveSettings) (w : ArbWorld) : Prop where
  hedged : ∀ arb, w.book = some arb → arb.state = .hedged →
    -w.perp = arb.perpQty ∧ w.spot = arb.spotQty ∧
      |-w.perp - w.spot| < max settings.perp.quantityIncrement settings.spot.quantityIncrement
  unwinding : ∀ arb, w.book = some arb →
    (arb.state = .unwindingPerp → -w.perp = arb.perpQty) ∧
      (arb.state = .unwindingSpot → w.perp = 0 ∧ w.spot = arb.spotQty)
  closed : w.book = none → w.perp = 0 ∧ w.spot = 0

/-- The quantity is a multiple of both increments; an order of it that returns has
been executed in full by then, without a fee in the coin, and one that raises
not at all. -/
structure LiveTick.Complete (settings : LiveSettings) (t : LiveTick) (qty : Decimal) : Prop where
  perpMultiple : settings.perp.roundQty qty = qty
  spotMultiple : settings.spot.roundQty qty = qty
  perp : ∀ side,
    let outcome := (t.perpCall side).outcome settings.env settings.symbol side qty
    outcome.executed = match outcome.result with
      | .ok _ => settings.perp.roundQty qty
      | .error _ => 0
  spot : ∀ side,
    let outcome := (t.spotCall side).outcome settings.spot side qty
    outcome.executed = match outcome.result with
      | .ok _ => settings.spot.roundQty qty
      | .error _ => 0

/-- Every order of the step is complete, nothing is executed late, and no entry
without spot is resumed. -/
def ArbWorld.Exact (settings : LiveSettings) (cfg : ArbConfig) (w : ArbWorld) : LiveStep → Prop
  | .tick t =>
      (match w.book with
        | none => ∀ mark, t.feeds.sizeMark = .ok mark → t.Complete settings (sizeLegs cfg mark)
        | some arb => t.Complete settings arb.perpQty) ∧
        w.Resumes cfg (t.toTick settings)
  | .late _ amount => amount = 0
  | .setHalt _ => True

section Neutral

variable {settings : LiveSettings} {cfg : ArbConfig} {w : ArbWorld}

theorem LiveTick.Complete.fillsExactly {t : LiveTick} {qty : Decimal}
    (h : t.Complete settings qty) : (t.toTick settings).FillsExactly qty := by
  intro leg side
  cases leg with
  | perp =>
      have hperp := h.perp side
      rw [h.perpMultiple] at hperp
      exact hperp
  | spot =>
      have hspot := h.spot side
      rw [h.spotMultiple] at hspot
      exact hspot

theorem ArbWorld.Exact.fillsTick {t : LiveTick} (h : w.Exact settings cfg (.tick t)) :
    w.FillsTick cfg (t.toTick settings) := by
  have hcomplete := h.1
  unfold ArbWorld.FillsTick
  cases hbook : w.book with
  | none =>
      rw [hbook] at hcomplete
      exact fun mark hmark => (hcomplete mark hmark).fillsExactly
  | some arb =>
      rw [hbook] at hcomplete
      exact hcomplete.fillsExactly

theorem ArbWorld.trade_zero (w : ArbWorld) (leg : Leg) : w.trade leg 0 = w := by
  unfold ArbWorld.trade
  cases leg with
  | perp => simp
  | spot => simp

theorem ArbWorld.Settled.liveStep (h : w.Settled) {a : LiveStep} (ha : w.Exact settings cfg a) :
    (w.liveStep settings cfg a).Settled := by
  cases a with
  | tick t =>
      have hfills : w.FillsStep cfg (.tick (t.toTick settings)) := ha.fillsTick
      have hunkilled : ArbStep.Uninterrupted (.tick (t.toTick settings)) := rfl
      exact h.step hfills ha.2 (ArbWorld.killedSafely_of_uninterrupted hunkilled)
  | late leg amount =>
      obtain rfl : amount = 0 := ha
      show (w.trade leg 0).Settled
      rw [w.trade_zero leg]
      exact h
  | setHalt halt => exact ⟨h.stored, h.agrees⟩

/-- A record that accounts for the exposure is of a neutral hedge. -/
theorem ArbWorld.Agrees.neutral (h : w.Agrees) : w.Neutral settings := by
  unfold ArbWorld.Agrees at h
  have hexposure : ∀ arb, w.book = some arb → arb.Accounts w.perp w.spot := by
    intro arb harb
    rw [harb] at h
    exact h
  refine ⟨?_, ?_, ?_⟩
  · intro arb harb hstate
    obtain ⟨-, hsame, hhedge⟩ := hexposure arb harb
    rw [hstate] at hhedge
    have hperp : -w.perp = arb.perpQty := by rw [hhedge.1, neg_neg]
    refine ⟨hperp, hhedge.2.trans hsame.symm, ?_⟩
    rw [hperp, hhedge.2, sub_self, abs_zero]
    exact lt_max_of_lt_right settings.spot.increment_pos
  · intro arb harb
    obtain ⟨-, hsame, hleft⟩ := hexposure arb harb
    constructor
    · intro hstate
      rw [hstate] at hleft
      rw [hleft.1, neg_neg]
    · intro hstate
      rw [hstate] at hleft
      exact ⟨hleft.1, hleft.2.trans hsame.symm⟩
  · intro hbook
    rw [hbook] at h
    exact h

end Neutral

/-- As long as every order is complete, nothing is executed late, and no entry
without spot is resumed, every hedge is neutral and of the quantities on record,
and an unwind leaves both legs flat. -/
theorem ArbWorld.hedge_neutral (settings : LiveSettings) (cfg : ArbConfig) (w : ArbWorld)
    (h : Reaches (liveStep settings cfg) (Exact settings cfg) {} w) : w.Neutral settings := by
  have hsettled : w.Settled := h.invariant fresh_settled (fun _ _ hs ha => hs.liveStep ha)
  exact hsettled.agrees.neutral

/-! ### A full fill and a partial one -/

/-- Whole units of the perp, tenths of the spot. -/
def demoSettings : LiveSettings :=
  { symbol := demoSymbol
    env := demoEnv
    spot := { quantityIncrement := 1 / 10, increment_pos := by norm_num } }

/-- A spot order of ten units, of which a poll shows `filled`. -/
def demoSpotCall (filled : Decimal) : SpotCall :=
  { reply := .ok { id := "s1" }
    poll := fun _ => .ok ⟨"partially_filled", 10, 10 - filled, 100⟩
    executed := filled }

def demoLiveTick (filled : Decimal) : LiveTick :=
  { feeds := ArbWorld.demoTick (5 / 10000) [] none
    perpCall := fun _ => { world := demoWorld }
    spotCall := fun _ => demoSpotCall filled }

theorem demoFilled_neutral :
    (({} : ArbWorld).liveStep demoSettings ArbWorld.demoArbConfig
      (.tick (demoLiveTick 10))).Neutral demoSettings := by
  refine ArbWorld.hedge_neutral demoSettings ArbWorld.demoArbConfig _
    (Reaches.start.step ⟨?_, ArbWorld.resumes_of_none _ rfl⟩)
  intro mark hmark
  obtain rfl : (100 : Decimal) = mark := Except.ok.inj hmark
  refine ⟨by decide +kernel, by decide +kernel, ?_, ?_⟩
  · intro side
    cases side with
    | long => decide +kernel
    | short => decide +kernel
  · intro side
    cases side with
    | long => decide +kernel
    | short => decide +kernel

/-- One unit of ten is filled when the poll comes: the record says ten. -/
theorem not_hedge_neutral_partial :
    ¬ ∀ (settings : LiveSettings) (cfg : ArbConfig) (steps : List LiveStep),
      (steps.foldl (ArbWorld.liveStep settings cfg) {}).Neutral settings := by
  intro h
  have hneutral := h demoSettings ArbWorld.demoArbConfig [.tick (demoLiveTick 1)]
  have hend : ((({} : ArbWorld).liveStep demoSettings ArbWorld.demoArbConfig
      (.tick (demoLiveTick 1))).book.map (fun arb => (arb.state, arb.spotQty))) = some (.hedged, 10) ∧
      (({} : ArbWorld).liveStep demoSettings ArbWorld.demoArbConfig (.tick (demoLiveTick 1))).spot = 1 := by
    decide +kernel
  obtain ⟨arb, hbook, harb⟩ := Option.map_eq_some_iff.mp hend.1
  obtain ⟨hstate, hqty⟩ := Prod.mk.inj harb
  have hspot := (hneutral.hedged arb hbook hstate).2.1
  rw [hqty] at hspot
  exact absurd (hend.2.symm.trans hspot) (by norm_num)

end CryptoTrader.Arb
