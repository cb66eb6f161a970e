import CryptoTrader.Exchange.Venue
import CryptoTrader.Lib.Hoare
import CryptoTrader.Wallet.Orders

/-!
# The execution engine

`CoinDCXExecutionEngine` of `exchanges/coindcx_execution.py` and the gate of
`safe_mode.py`.  The functions run in `Live`, which threads the wallet, the
engine's one leverage field, the HALT file and the record of everything
exchanged with the venue, and raises the source's exceptions.

The engine never touches the wallet.
-/

namespace CryptoTrader

open CryptoTrader.Lib

/-- The state of a live bot: the wallet, `engine.leverage`, whether the HALT
file exists, and the record of the exchanges. -/
structure World where
  wallet : Wallet
  engineLeverage : Leverage
  halt : Bool
  trace : List Interaction

/-- What does not change while the bot runs: the venue, `PLACE_ORDER`,
`i_understand_real_money`, the path of the HALT file, and whether the engine
has `create_position_tpsl`. -/
structure Env where
  venue : Venue
  orderExecutionEnabled : Bool := true
  ack : Bool := true
  haltFile : String := "/home/bot/.crypto_trader/HALT"
  tpslEndpoint : Bool := true

abbrev Live := EStateM PyErr World

/-- Ask the venue and note the exchange. -/
def exchange {α : Type} (ask : List Interaction → α) (note : World → α → Interaction) : Live α := do
  let s ← get
  let outcome := ask s.trace
  modify (fun s => { s with trace := s.trace ++ [note s outcome] })
  pure outcome

/-- Return the reply, or raise it. -/
def ofReply {α : Type} : Except PyErr α → Live α
  | .ok a => pure a
  | .error e => throw e

variable (env : Env)

/-! ## safe_mode -/

/-- The reasons why the gate is closed. -/
def Env.blockReasons (halt : Bool) : List String :=
  (if env.orderExecutionEnabled then []
    else ["env PLACE_ORDER=false (read-only live mode — no order execution)"]) ++
  (if env.ack then []
    else ["constructor flag i_understand_real_money not set on CoinDCXExecutionEngine"]) ++
  (if halt then [s!"HALT file present at {env.haltFile}"] else [])

/-- `assert_live_allowed`. -/
def assertLiveAllowed (op symbol : String) : Live Unit := do
  let s ← get
  match env.blockReasons s.halt with
  | [] => pure ()
  | reasons =>
      throw (.liveTradingBlocked
        (s!"BLOCKED live {op} on CoinDCX (symbol={symbol}): " ++ "; ".intercalate reasons))

/-- `trip_halt`. -/
def tripHalt : Live Unit := modify (fun s => { s with halt := true })

/-! ## Account reads -/

/-- `mapper.get_spec`. -/
def getSpec (symbol : Symbol) : Live InstrumentSpec := do
  match ← exchange (fun trace => env.venue.getSpec trace symbol) (fun _ => .getSpec symbol) with
  | none => pure (env.venue.instrument symbol)
  | some e => throw e

/-- A row of `get_positions`. -/
structure VenuePosition where
  symbol : Symbol
  positionId : String
  quantity : Decimal
  deriving DecidableEq

/-- `get_positions`: rows without a position are skipped. -/
def getPositions : Live (List VenuePosition) := do
  let rows ← ofReply (← exchange env.venue.listPositions (fun _ => .listPositions))
  pure ((rows.filter (fun row => row.activePos ≠ 0)).map
    (fun row => ⟨row.symbol, row.positionId, |row.activePos|⟩))

/-- `get_open_orders`. -/
def getOpenOrders (symbol : Symbol) : Live (List OrderRow) := do
  let rows ← ofReply (← exchange env.venue.listOrders (fun _ => .listOrders))
  pure (rows.filter (fun row => row.symbol = symbol))

/-- `get_fills`. -/
def getFills (symbol : Symbol) (days : Nat) : Live (List TradeRow) := do
  let _ ← getSpec env symbol
  ofReply (← exchange (fun trace => env.venue.listTrades trace symbol days)
    (fun _ => .listTrades symbol days))

/-- The result of `get_order_status`. -/
structure OrderState where
  status : String
  filledQuantity : Decimal
  deriving DecidableEq

/-- The quantity the trades of an order add up to. -/
def tradedQuantity (fills : List TradeRow) (orderId : String) : Decimal :=
  ((fills.filter (fun fill => fill.orderId = orderId)).map TradeRow.quantity).sum

/-- `get_order_status`: an order that has left the open-order list with any
trade at all counts as filled. -/
def getOrderStatus (orderId : String) (symbol : Symbol) : Live OrderState := do
  let orders ← getOpenOrders env symbol
  match orders.find? (fun row => row.id = orderId) with
  | some row =>
      pure { status := if row.status = "" then "open" else row.status
             filledQuantity := row.totalQuantity - row.remainingQuantity }
  | none =>
      let fills ← getFills env symbol 7
      let filled := tradedQuantity fills orderId
      if filled > 0 then pure ⟨"filled", filled⟩ else pure ⟨"unknown", 0⟩

/-! ## Placing and cancelling -/

/-- The arguments of `place_order`. -/
structure PlaceOrder where
  symbol : Symbol
  side : PositionSide
  quantity : Decimal
  orderType : OrderType
  triggerPrice : Option Decimal := none
  limitPrice : Option Decimal := none
  leverage : Option Leverage := none

/-- `limit_price or trigger_price`. -/
def PlaceOrder.refPrice (r : PlaceOrder) : Option Decimal :=
  match r.limitPrice with
  | some price => if price = 0 then r.triggerPrice else some price
  | none => r.triggerPrice

/-- The body posted to `orders/create`; `reduce_only` is not part of it. -/
def PlaceOrder.body (r : PlaceOrder) (spec : InstrumentSpec) (engineLeverage : Leverage) :
    OrderBody :=
  { symbol := r.symbol
    side := r.side
    orderType := r.orderType
    totalQuantity := spec.roundQty r.quantity
    leverage := r.leverage.getD engineLeverage
    price := r.limitPrice.map spec.roundPrice
    stopPrice := r.triggerPrice.map spec.roundPrice }

/-- The pre-flight check of `place_order`. -/
def PlaceOrder.preflight (r : PlaceOrder) (spec : InstrumentSpec) : Option String :=
  r.refPrice.bind (fun price =>
    spec.validateOrder (spec.roundQty r.quantity) (spec.roundPrice price))

/-- The `Order` that `place_order` returns, as far as its callers read it. -/
structure PlacedOrder where
  id : String
  quantity : Decimal
  filledQuantity : Decimal
  avgFillPrice : Decimal
  deriving DecidableEq

/-- `_parse_order_response`. -/
def parseOrderResponse (reply : OrderReply) (qty : Decimal) : PlacedOrder :=
  { id := reply.id
    quantity := qty
    filledQuantity := if reply.status.toLower = "filled" then reply.totalQuantity else 0
    avgFillPrice := reply.avgPrice }

/-- `attempts` of `_resolve_market_fill`. -/
def fillAttempts : Nat := 20

/-- Ignore a `CoinDCXError` of a trade lookup. -/
def getFillsOrNone (symbol : Symbol) : Live (List TradeRow) :=
  tryCatch (getFills env symbol 1)
    (fun e => match e with
      | .coinDcxError _ _ => pure []
      | e => throw e)

/-- The polling loop of `_resolve_market_fill`, with the attempts left. -/
def pollMarketFill (order : PlacedOrder) (symbol : Symbol) : Nat → String → Live PlacedOrder
  | 0, lastStatus =>
      throw (.coinDcxError (s!"market order {order.id} fill unconfirmed after {fillAttempts} polls "
        ++ s!"(last status '{lastStatus}') — refusing to book a zero-price position"))
  | attempts + 1, _ => do
      let fills := (← getFillsOrNone env symbol).filter (fun fill => fill.orderId = order.id)
      let filled := (fills.map TradeRow.quantity).sum
      let avg := (fills.map (fun fill => fill.price * fill.quantity)).sum / filled
      if filled > 0 ∧ avg > 0 then
        pure { order with avgFillPrice := avg, filledQuantity := filled }
      else
        let st ← getOrderStatus env order.id symbol
        if st.status ∈ ["cancelled", "canceled", "rejected"] then
          throw (.coinDcxError
            s!"market order {order.id} terminal status '{st.status}' — no fill")
        else pollMarketFill order symbol attempts st.status

/-- `_resolve_market_fill`. -/
def resolveMarketFill (order : PlacedOrder) (symbol : Symbol) : Live PlacedOrder :=
  if order.avgFillPrice > 0 ∧ order.filledQuantity > 0 then pure order
  else if order.id = "" then
    throw (.coinDcxError "market order create returned no order id — cannot confirm fill")
  else pollMarketFill env order symbol fillAttempts "unknown"

/-- `orders/create`. -/
def postOrder (body : OrderBody) : Live OrderReply := do
  let outcome ← exchange (fun trace => env.venue.createOrder trace body)
    (fun s => .createOrder body
      ((s.wallet.getOpenPosition body.symbol).map EnhancedPosition.leverage))
  ofReply outcome.reply

/-- `place_order`. -/
def placeOrder (r : PlaceOrder) : Live PlacedOrder := do
  assertLiveAllowed env "PLACE" r.symbol.name
  let s ← get
  let spec ← getSpec env r.symbol
  match r.preflight spec with
  | some err => throw (.coinDcxError s!"Order rejected pre-flight: {err}")
  | none =>
      let body := r.body spec s.engineLeverage
      let reply ← postOrder env body
      let order := parseOrderResponse reply body.totalQuantity
      if r.orderType = .market then resolveMarketFill env order r.symbol else pure order

/-- A `CoinDCXError` becomes `False`. -/
def succeeds (action : Live Unit) : Live Bool :=
  tryCatch (do action; pure true)
    (fun e => match e with
      | .coinDcxError _ _ => pure false
      | e => throw e)

/-- `cancel_order`. -/
def cancelOrder (orderId : String) : Live Bool := do
  assertLiveAllowed env "CANCEL" orderId
  succeeds (do
    let outcome ← exchange (fun trace => env.venue.cancelOrder trace orderId)
      (fun _ => .cancelOrder orderId)
    ofReply outcome.reply)

/-- `create_position_tpsl`. -/
def createPositionTpsl (request : TpslRequest) : Live Json := do
  assertLiveAllowed env "TPSL" request.symbol.name
  let outcome ← exchange (fun trace => env.venue.createTpsl trace request)
    (fun _ => .createTpsl request)
  ofReply outcome.reply

/-! ## Leverage -/

/-- `set_leverage`. -/
def setLeverage (symbol : Symbol) (leverage : Leverage) : Live Bool := do
  let spec ← getSpec env symbol
  let lev := min leverage spec.maxLeverage
  succeeds (do
    let outcome ← exchange (fun trace => env.venue.updateLeverage trace symbol lev)
      (fun _ => .updateLeverage symbol lev)
    ofReply outcome.reply
    modify (fun s => { s with engineLeverage := lev }))

/-- `fetch_symbol_leverage`: the instrument's cap.  The position list is read
for the margin type only. -/
def fetchSymbolLeverage (symbol : Symbol) : Live (Option Leverage) :=
  tryCatch (do
      let spec ← getSpec env symbol
      let _ ← exchange env.venue.listPositions (fun _ => .listPositions)
      pure (some spec.maxLeverage))
    (fun _ => pure none)

/-! ## What a call adds to the record -/

/-- The state after some more exchanges. -/
def World.extend (s : World) (ext : List Interaction) : World :=
  { s with trace := s.trace ++ ext }

section Extend

variable (s : World) (ext ext' : List Interaction)

@[simp] theorem World.wallet_extend : (s.extend ext).wallet = s.wallet := rfl

@[simp] theorem World.engineLeverage_extend :
    (s.extend ext).engineLeverage = s.engineLeverage := rfl

@[simp] theorem World.halt_extend : (s.extend ext).halt = s.halt := rfl

@[simp] theorem World.trace_extend : (s.extend ext).trace = s.trace ++ ext := rfl

@[simp] theorem World.extend_nil : s.extend [] = s := by
  simp [extend]

@[simp] theorem World.extend_extend : (s.extend ext).extend ext' = s.extend (ext ++ ext') := by
  simp [extend]

end Extend

/-- The requests that change nothing at the venue. -/
def Interaction.isRead : Interaction → Bool
  | .getSpec .. | .listOrders .. | .listTrades .. | .listPositions .. => true
  | _ => false

/-- Only reads were added. -/
def World.Reads (s s' : World) : Prop :=
  ∃ ext, s' = s.extend ext ∧ ∀ i ∈ ext, i.isRead

theorem World.Reads.refl (s : World) : s.Reads s :=
  ⟨[], by simp, by simp⟩

instance : Std.Refl World.Reads := ⟨World.Reads.refl⟩

theorem World.Reads.trans {s₁ s₂ s₃ : World} (h : s₁.Reads s₂) (h' : s₂.Reads s₃) :
    s₁.Reads s₃ := by
  obtain ⟨ext, rfl, hext⟩ := h
  obtain ⟨ext', rfl, hext'⟩ := h'
  refine ⟨ext ++ ext', by simp, ?_⟩
  intro i hi
  rcases List.mem_append.mp hi with hi | hi
  · exact hext i hi
  · exact hext' i hi

instance : IsTrans World World.Reads := ⟨fun _ _ _ => World.Reads.trans⟩

/-- A create call of a record. -/
structure Created where
  body : OrderBody
  held : Option Leverage
  outcome : OrderOutcome

def Interaction.created? : Interaction → Option Created
  | .createOrder body held outcome => some ⟨body, held, outcome⟩
  | _ => none

def created (trace : List Interaction) : List Created := trace.filterMap Interaction.created?

@[simp] theorem created_append (trace trace' : List Interaction) :
    created (trace ++ trace') = created trace ++ created trace' :=
  List.filterMap_append

theorem created_reads {ext : List Interaction} (h : ∀ i ∈ ext, i.isRead) : created ext = [] := by
  refine List.filterMap_eq_nil_iff.mpr ?_
  intro i hi
  have hread := h i hi
  cases i with
  | createOrder body held outcome => simp [Interaction.isRead] at hread
  | _ => rfl

theorem exchange_wp {α : Type} (ask : List Interaction → α) (note : World → α → Interaction)
    (s : World) :
    wp (exchange ask note)
      (fun a s' => a = ask s.trace ∧ s' = s.extend [note s (ask s.trace)]) (fun _ _ => False) s :=
  ⟨rfl, rfl⟩

theorem ofReply_wp {α : Type} (reply : Except PyErr α) (s : World) :
    wp (ofReply reply) (fun a s' => reply = .ok a ∧ s' = s) (fun e s' => reply = .error e ∧ s' = s)
      s := by
  cases reply with
  | ok a => exact ⟨rfl, rfl⟩
  | error e => exact ⟨rfl, rfl⟩

theorem exchange_reads {α : Type} {ask : List Interaction → α} {note : World → α → Interaction}
    (h : ∀ s a, (note s a).isRead) : Moves World.Reads (exchange ask note) := by
  intro s
  refine wp_mono (exchange_wp ask note s) ?_ (fun _ _ h => h.elim)
  rintro a s' ⟨-, rfl⟩
  exact ⟨[note s (ask s.trace)], rfl, by simpa using h s (ask s.trace)⟩

theorem ofReply_reads {α : Type} (reply : Except PyErr α) : Moves World.Reads (ofReply reply) := by
  intro s
  refine wp_mono (ofReply_wp reply s) ?_ ?_
  · rintro a s' ⟨-, rfl⟩
    exact .refl s'
  · rintro e s' ⟨-, rfl⟩
    exact .refl s'

theorem getSpec_reads (symbol : Symbol) : Moves World.Reads (getSpec env symbol) := by
  refine (exchange_reads (by intros; rfl)).bind ?_
  intro failure
  cases failure with
  | none => exact Moves.pure _
  | some e => exact Moves.throw e

/-- The spec that is read is the instrument's. -/
theorem getSpec_wp (symbol : Symbol) (s : World) :
    wp (getSpec env symbol) (fun spec s' => spec = env.venue.instrument symbol ∧ s.Reads s')
      (fun _ s' => s.Reads s') s := by
  have hspec : wp (getSpec env symbol) (fun spec _ => spec = env.venue.instrument symbol)
      (fun _ _ => True) s := by
    unfold getSpec
    rw [wp_bind]
    refine wp_mono (exchange_wp _ _ s) ?_ (fun _ _ h => h.elim)
    rintro failure s' -
    cases failure with
    | none => exact rfl
    | some e => exact trivial
  refine wp_mono (wp_and hspec (getSpec_reads env symbol s)) (fun _ _ h => h) (fun _ _ h => h.2)

theorem fetchSymbolLeverage_wp (symbol : Symbol) (s : World) :
    wp (fetchSymbolLeverage env symbol) (fun _ s' => s.Reads s') (fun _ _ => False) s := by
  have hreads : Moves World.Reads (do
      let spec ← getSpec env symbol
      let _ ← exchange env.venue.listPositions (fun _ => .listPositions)
      pure (some spec.maxLeverage)) :=
    Moves.bind (getSpec_reads env symbol)
      (fun _ => Moves.bind (exchange_reads (by intros; rfl)) (fun _ => Moves.pure _))
  unfold fetchSymbolLeverage
  rw [wp_tryCatch]
  exact wp_mono (hreads s) (fun _ _ h => h) (fun _ _ h => h)

theorem getPositions_reads : Moves World.Reads (getPositions env) := by
  refine (exchange_reads (by intros; rfl)).bind ?_
  intro reply
  exact (ofReply_reads reply).bind (fun _ => Moves.pure _)

theorem getOpenOrders_reads (symbol : Symbol) : Moves World.Reads (getOpenOrders env symbol) := by
  refine (exchange_reads (by intros; rfl)).bind ?_
  intro reply
  exact (ofReply_reads reply).bind (fun _ => Moves.pure _)

theorem getFills_reads (symbol : Symbol) (days : Nat) :
    Moves World.Reads (getFills env symbol days) := by
  refine (getSpec_reads env symbol).bind ?_
  intro _
  exact (exchange_reads (by intros; rfl)).bind ofReply_reads

theorem getOrderStatus_reads (orderId : String) (symbol : Symbol) :
    Moves World.Reads (getOrderStatus env orderId symbol) := by
  refine (getOpenOrders_reads env symbol).bind ?_
  intro orders
  cases orders.find? (fun row => row.id = orderId) with
  | some row => exact Moves.pure _
  | none =>
      refine (getFills_reads env symbol 7).bind ?_
      intro fills
      dsimp only
      split
      · exact Moves.pure _
      · exact Moves.pure _

theorem getFillsOrNone_reads (symbol : Symbol) :
    Moves World.Reads (getFillsOrNone env symbol) := by
  refine Moves.tryCatch (getFills_reads env symbol 1) ?_
  intro e
  cases e with
  | coinDcxError _ _ => exact Moves.pure _
  | _ => exact Moves.throw _

/-- The polling loop reads, and what it returns has a price and a quantity. -/
theorem pollMarketFill_wp (order : PlacedOrder) (symbol : Symbol) (attempts : Nat)
    (lastStatus : String) (s : World) :
    wp (pollMarketFill env order symbol attempts lastStatus)
      (fun filled s' => s.Reads s' ∧ 0 < filled.filledQuantity ∧ 0 < filled.avgFillPrice)
      (fun _ s' => s.Reads s') s := by
  induction attempts generalizing lastStatus s with
  | zero => exact World.Reads.refl s
  | succ attempts ih =>
      unfold pollMarketFill
      rw [wp_bind]
      refine wp_mono (getFillsOrNone_reads env symbol s) ?_ (fun _ _ h => h)
      intro fills s₁ h₁
      rw [wp_ite]
      refine ⟨fun hfilled => ⟨h₁, hfilled.1, hfilled.2⟩, fun _ => ?_⟩
      rw [wp_bind]
      refine wp_mono (getOrderStatus_reads env order.id symbol s₁) ?_ (fun _ _ h => h₁.trans h)
      intro st s₂ h₂
      rw [wp_ite]
      refine ⟨fun _ => h₁.trans h₂, fun _ => ?_⟩
      refine wp_mono (ih st.status s₂) ?_ (fun _ _ h => (h₁.trans h₂).trans h)
      rintro filled s₃ ⟨h₃, hqty, hprice⟩
      exact ⟨(h₁.trans h₂).trans h₃, hqty, hprice⟩

theorem resolveMarketFill_wp (order : PlacedOrder) (symbol : Symbol) (s : World) :
    wp (resolveMarketFill env order symbol)
      (fun filled s' => s.Reads s' ∧ 0 < filled.filledQuantity ∧ 0 < filled.avgFillPrice)
      (fun _ s' => s.Reads s') s := by
  unfold resolveMarketFill
  rw [wp_ite]
  refine ⟨fun h => ⟨.refl s, h.2, h.1⟩, fun _ => ?_⟩
  rw [wp_ite]
  exact ⟨fun _ => .refl s, fun _ => pollMarketFill_wp env order symbol fillAttempts "unknown" s⟩

/-- The create call of a `place_order` from `s`, with what became of it. -/
def PlaceOrder.record (r : PlaceOrder) (s : World) (outcome : OrderOutcome) : Created :=
  { body := r.body (env.venue.instrument r.symbol) s.engineLeverage
    held := (s.wallet.getOpenPosition r.symbol).map EnhancedPosition.leverage
    outcome := outcome }

/-- What a `place_order` from `s` adds: reads, and the create call if it got
that far. -/
structure PlaceOrder.Adds (r : PlaceOrder) (s : World) (ext : List Interaction) : Prop where
  kinds : ∀ i ∈ ext, i.isRead ∨ i.created?.isSome
  creates : created ext = [] ∨ ∃ outcome, created ext = [r.record env s outcome]

theorem PlaceOrder.Adds.of_reads {r : PlaceOrder} {s : World} {ext : List Interaction}
    (h : ∀ i ∈ ext, i.isRead) : r.Adds env s ext :=
  ⟨fun i hi => Or.inl (h i hi), Or.inl (created_reads h)⟩

theorem assertLiveAllowed_wp (op symbol : String) (s : World) :
    wp (assertLiveAllowed env op symbol)
      (fun _ s' => s' = s ∧ env.blockReasons s.halt = [])
      (fun e s' => s' = s ∧ env.blockReasons s.halt ≠ [] ∧ ∃ msg, e = .liveTradingBlocked msg)
      s := by
  unfold assertLiveAllowed
  rw [wp_bind, wp_get]
  cases h : env.blockReasons s.halt with
  | nil => exact ⟨rfl, rfl⟩
  | cons reason reasons => exact ⟨rfl, by simp, _, rfl⟩

/-- `orders/create` adds the one call. -/
theorem postOrder_wp (body : OrderBody) (s : World) :
    let held := (s.wallet.getOpenPosition body.symbol).map EnhancedPosition.leverage
    wp (postOrder env body)
      (fun reply s' => ∃ outcome, s' = s.extend [.createOrder body held outcome] ∧
        outcome.reply = .ok reply)
      (fun _ s' => ∃ outcome, s' = s.extend [.createOrder body held outcome]) s := by
  unfold postOrder
  rw [wp_bind]
  refine wp_mono (exchange_wp _ _ s) ?_ (fun _ _ h => h.elim)
  rintro outcome s₁ ⟨rfl, rfl⟩
  refine wp_mono (ofReply_wp _ _) ?_ ?_
  · rintro reply s₂ ⟨hreply, rfl⟩
    exact ⟨_, rfl, hreply⟩
  · rintro e s₂ ⟨-, rfl⟩
    exact ⟨_, rfl⟩

/-- The reads around a create call. -/
theorem PlaceOrder.Adds.of_create {r : PlaceOrder} {s : World} {before after : List Interaction}
    (outcome : OrderOutcome) (hbefore : ∀ i ∈ before, i.isRead) (hafter : ∀ i ∈ after, i.isRead) :
    let call := Interaction.createOrder (r.record env s outcome).body (r.record env s outcome).held
      outcome
    r.Adds env s (before ++ [call] ++ after) ∧
      created (before ++ [call] ++ after) = [r.record env s outcome] := by
  intro call
  have hcreated : created (before ++ [call] ++ after) = [r.record env s outcome] := by
    rw [created_append, created_append, created_reads hbefore, created_reads hafter]
    rfl
  refine ⟨⟨?_, Or.inr ⟨outcome, hcreated⟩⟩, hcreated⟩
  intro i hi
  simp only [List.mem_append, List.mem_singleton] at hi
  rcases hi with (hi | rfl) | hi
  · exact Or.inl (hbefore i hi)
  · exact Or.inr rfl
  · exact Or.inl (hafter i hi)

/-- `place_order` posts at most one order; when it returns it has posted one,
and a market order comes back with a quantity and a price. -/
theorem placeOrder_wp (r : PlaceOrder) (s : World) :
    wp (placeOrder env r)
      (fun order s' => ∃ ext outcome, s' = s.extend ext ∧ r.Adds env s ext ∧
        created ext = [r.record env s outcome] ∧
        (r.orderType = .market → 0 < order.filledQuantity ∧ 0 < order.avgFillPrice) ∧
        (r.orderType ≠ .market → ∃ reply, outcome.reply = .ok reply ∧ order.id = reply.id))
      (fun _ s' => ∃ ext, s' = s.extend ext ∧ r.Adds env s ext) s := by
  unfold placeOrder
  rw [wp_bind]
  refine wp_mono (assertLiveAllowed_wp env "PLACE" r.symbol.name s) ?_ ?_
  · rintro - s₀ ⟨rfl, -⟩
    rw [wp_bind, wp_get, wp_bind]
    refine wp_mono (getSpec_wp env r.symbol s₀) ?_ ?_
    · rintro spec s₁ ⟨rfl, before, rfl, hbefore⟩
      cases hpre : r.preflight (env.venue.instrument r.symbol) with
      | some err => exact ⟨before, rfl, .of_reads env hbefore⟩
      | none =>
          simp only
          have hnone : ∀ i ∈ ([] : List Interaction), i.isRead := by simp
          rw [wp_bind]
          refine wp_mono (postOrder_wp env _ _) ?_ ?_
          · rintro reply s₂ ⟨outcome, rfl, hreply⟩
            rw [wp_ite]
            constructor
            · -- a market order is polled
              intro hmarket
              refine wp_mono (resolveMarketFill_wp env _ r.symbol _) ?_ ?_
              · rintro order s₃ ⟨⟨after, rfl, hafter⟩, hqty, hprice⟩
                obtain ⟨hadds, hcreated⟩ := PlaceOrder.Adds.of_create env outcome hbefore hafter
                  (r := r) (s := s₀)
                exact ⟨_, outcome, by simp [PlaceOrder.record, PlaceOrder.body], hadds, hcreated,
                  fun _ => ⟨hqty, hprice⟩, fun h => absurd hmarket h⟩
              · rintro e s₃ ⟨after, rfl, hafter⟩
                obtain ⟨hadds, -⟩ := PlaceOrder.Adds.of_create env outcome hbefore hafter
                  (r := r) (s := s₀)
                exact ⟨_, by simp [PlaceOrder.record, PlaceOrder.body], hadds⟩
            · intro hmarket
              obtain ⟨hadds, hcreated⟩ := PlaceOrder.Adds.of_create env outcome hbefore hnone
                (r := r) (s := s₀)
              exact ⟨_, outcome, by simp [PlaceOrder.record, PlaceOrder.body], hadds, hcreated,
                fun h => absurd h hmarket, fun _ => ⟨reply, hreply, rfl⟩⟩
          · rintro e s₂ ⟨outcome, rfl⟩
            obtain ⟨hadds, -⟩ := PlaceOrder.Adds.of_create env outcome hbefore hnone
              (r := r) (s := s₀)
            exact ⟨_, by simp [PlaceOrder.record, PlaceOrder.body], hadds⟩
    · rintro e s₁ ⟨before, rfl, hbefore⟩
      exact ⟨before, rfl, .of_reads env hbefore⟩
  · rintro e s₀ ⟨rfl, -⟩
    exact ⟨[], by simp, .of_reads env (by simp)⟩

end CryptoTrader
