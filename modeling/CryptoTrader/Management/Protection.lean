import CryptoTrader.Lib.PyValue
import CryptoTrader.Wallet.Types

/-!
# Protection of external positions

`ExternalPosition` of `position_management/sync_service.py` and
`ProtectionManager` of `position_management/protection_manager.py`.  The levels
that the calculators make of the candles may be any numbers.
-/

namespace CryptoTrader.Sync

open CryptoTrader.Lib

/-! ## External positions -/

inductive PositionSource where
  | bot
  | manual
  | imported
  deriving DecidableEq

inductive PositionSyncState where
  | new
  | synced
  | protected_
  | activelyManaged
  | reducing
  | exiting
  | closed
  | stale
  | reconcileRequired
  deriving DecidableEq

structure ExternalPosition where
  exchangeId : PyStr
  symbol : PyStr
  side : PositionSide
  qty : PyFloat
  entryPrice : PyFloat
  leverage : ℤ
  ltp : PyFloat
  unrealizedPnl : PyFloat
  stopLoss : Option PyFloat
  takeProfit : Option PyFloat
  source : PositionSource
  syncState : PositionSyncState
  marginUsed : PyFloat
  lastSyncedMs : ℕ := 0
  deriving DecidableEq

/-- A level that is set and positive. -/
def isSet (level : Option PyFloat) : Bool := level.any (PyFloat.lt (.fin 0))

/-- `bool(level)`. -/
def levelTruthy (level : Option PyFloat) : Bool := level.any PyFloat.truthy

def ExternalPosition.hasStopLoss (pos : ExternalPosition) : Bool := isSet pos.stopLoss

def ExternalPosition.hasTakeProfit (pos : ExternalPosition) : Bool := isSet pos.takeProfit

/-! ## The candles -/

structure SLResult where
  price : PyFloat
  style : String

structure TPResult where
  levels : List PyFloat
  style : String

/-- A frame of candles, with what `StopLossCalculator` and
`TakeProfitCalculator` make of it for the position at hand. -/
structure Candles where
  length : ℕ
  slResult : SLResult
  tpResult : TPResult

/-- The feed, with what `get_klines` does, where it has that method. -/
structure DataFeed where
  getKlines : Option (Except String (Option Candles))

/-- `_fetch_candles`. -/
def fetchCandles : Option DataFeed → Option Candles
  | some ⟨some (.ok df)⟩ => df
  | _ => none

/-! ## The execution client -/

/-- What a placement comes to; the venue may refuse an order by its reply. -/
inductive Reply where
  | accepted
  | refused
  | raised (exc : String)
  deriving DecidableEq

/-- The client, with what each method does, where it has it. -/
structure ExecutionClient where
  placeStopLossOrder : Option Reply := none
  placeStopMarket : Option Reply := none
  placeTakeProfitOrder : Option Reply := none
  placeLimitOrder : Option Reply := none

inductive Leg where
  | sl
  | tp
  deriving DecidableEq

def Leg.pyStr : Leg → String
  | .sl => "sl"
  | .tp => "tp"

/-- What the client does with a protective order: the preferred method, or
else the other one. -/
def ExecutionClient.reply (client : ExecutionClient) : Leg → Option Reply
  | .sl => client.placeStopLossOrder.or client.placeStopMarket
  | .tp => client.placeTakeProfitOrder.or client.placeLimitOrder

/-- A reduce-only order that was sent, and what came of it. -/
structure Placement where
  leg : Leg
  symbol : PyStr
  side : String
  quantity : PyFloat
  price : PyFloat
  reply : Reply
  deriving DecidableEq

/-- `result` of `assess_and_protect`. -/
structure ProtectionResult where
  sl : Option PyFloat := none
  tpLevels : List PyFloat := []
  actionsTaken : List String := []
  error : Option String := none

/-- One `try` block of `_place_protection_orders`: the action noted, and the
order sent. -/
def ExecutionClient.place (client : ExecutionClient) (leg : Leg) (pos : ExternalPosition)
    (quantity price : PyFloat) : List String × List Placement :=
  match client.reply leg with
  | none => ([], [])
  | some reply =>
      let sideForClose := if pos.side = .long then "SELL" else "BUY"
      let action := match reply with
        | .raised exc => leg.pyStr ++ "_order_error:" ++ exc
        | _ => leg.pyStr ++ "_order_placed"
      ([action], [⟨leg, pos.symbol, sideForClose, quantity, price, reply⟩])

/-- The stop order of `_place_protection_orders`. -/
def ExecutionClient.placeStop (client : ExecutionClient) (pos : ExternalPosition)
    (result : ProtectionResult) : List String × List Placement :=
  match pos.stopLoss with
  | some stop =>
      if levelTruthy result.sl ∧ stop.truthy then client.place .sl pos pos.qty stop else ([], [])
  | none => ([], [])

/-- The target order of `_place_protection_orders`. -/
def ExecutionClient.placeTarget (client : ExecutionClient) (pos : ExternalPosition)
    (result : ProtectionResult) : List String × List Placement :=
  match result.tpLevels with
  | firstTp :: rest =>
      if levelTruthy pos.takeProfit then
        let tpQty := if rest = [] then pos.qty else PyFloat.scale (1 / 2) pos.qty
        client.place .tp pos tpQty firstTp
      else ([], [])
  | [] => ([], [])

/-- `_place_protection_orders`. -/
def ExecutionClient.placeProtectionOrders (client : ExecutionClient) (pos : ExternalPosition)
    (result : ProtectionResult) : List String × List Placement :=
  let (slActions, slOrders) := client.placeStop pos result
  let (tpActions, tpOrders) := client.placeTarget pos result
  (slActions ++ tpActions, slOrders ++ tpOrders)

/-! ## The protection manager -/

/-- The manager, with its client and its feed as they answer one call. -/
structure ProtectionManager where
  execution : Option ExecutionClient
  dataFeed : Option DataFeed
  dryRun : Bool

/-- The stop, if it is missing. -/
def Candles.calculateStop (df : Candles) (pos : ExternalPosition) :
    ExternalPosition × ProtectionResult :=
  if pos.hasStopLoss then (pos, {})
  else
    ({ pos with stopLoss := some df.slResult.price },
      { sl := some df.slResult.price, actionsTaken := ["sl_calculated:" ++ df.slResult.style] })

/-- The targets, if they are missing and there is a stop to measure them by. -/
def Candles.calculateTarget (df : Candles) (pos : ExternalPosition) (result : ProtectionResult) :
    ExternalPosition × ProtectionResult :=
  if ¬ pos.hasTakeProfit ∧ levelTruthy pos.stopLoss then
    match df.tpResult.levels with
    | firstTp :: rest =>
        ({ pos with takeProfit := some firstTp },
          { result with
            tpLevels := firstTp :: rest
            actionsTaken := result.actionsTaken ++ ["tp_calculated:" ++ df.tpResult.style] })
    | [] => (pos, result)
  else (pos, result)

/-- The candles `assess_and_protect` works with: at least twenty. -/
def ProtectionManager.candles (pm : ProtectionManager) : Option Candles :=
  (fetchCandles pm.dataFeed).filter (fun df => 20 ≤ df.length)

/-- `assess_and_protect`: the position with the levels written into it, the
result, and the orders sent. -/
def ProtectionManager.assessAndProtect (pm : ProtectionManager) (pos : ExternalPosition) :
    ExternalPosition × ProtectionResult × List Placement :=
  match pm.candles with
  | none => (pos, { error := some "insufficient_candle_data" }, [])
  | some df =>
      let (withStop, stopResult) := df.calculateStop pos
      let (withTarget, result) := df.calculateTarget withStop stopResult
      match pm.dryRun, pm.execution with
      | false, some client =>
          let (actions, orders) := client.placeProtectionOrders withTarget result
          (withTarget, { result with actionsTaken := result.actionsTaken ++ actions }, orders)
      | _, _ => (withTarget, result, [])

/-! ## What the manager does -/

/-- The price of the accepted order of a leg, if there is one. -/
def acceptedOf (leg : Leg) (orders : List Placement) : Option PyFloat :=
  (orders.find? (fun order => order.leg = leg ∧ order.reply = .accepted)).map Placement.price

/-- The client is there to accept the order of a leg, and does. -/
def ProtectionManager.accepts (pm : ProtectionManager) (leg : Leg) : Bool :=
  !pm.dryRun && pm.execution.any (fun client => client.reply leg = some .accepted)

/-- Of a position, every level that is written is accepted. -/
def ProtectionManager.delivers (pm : ProtectionManager) (pos : ExternalPosition) : Bool :=
  pm.candles.all (fun df =>
    (pos.hasStopLoss || df.slResult.price.truthy && pm.accepts .sl) &&
      (pos.hasTakeProfit ||
        df.tpResult.levels.head?.all (fun firstTp => firstTp.truthy && pm.accepts .tp)))

section Manager

variable {pm : ProtectionManager} {pos : ExternalPosition} {df : Candles}

theorem ProtectionManager.assess_none (pos : ExternalPosition) (h : pm.candles = none) :
    pm.assessAndProtect pos = (pos, { error := some "insufficient_candle_data" }, []) := by
  simp [assessAndProtect, h]

/-- What becomes of a position that is served: a missing stop is the one the
client accepted, and a target that is written is accepted too. -/
structure ExternalPosition.Protected (pos assessed : ExternalPosition) (orders : List Placement) :
    Prop where
  rest : assessed =
    { pos with stopLoss := assessed.stopLoss, takeProfit := assessed.takeProfit }
  kept : pos.hasStopLoss → assessed.stopLoss = pos.stopLoss
  placed : ¬ pos.hasStopLoss →
    (acceptedOf .sl orders).isSome ∧ assessed.stopLoss = acceptedOf .sl orders
  target : assessed.takeProfit = pos.takeProfit ∨ ¬ pos.hasTakeProfit ∧
    (acceptedOf .tp orders).isSome ∧ assessed.takeProfit = acceptedOf .tp orders

/-- What the calculators write into a position. -/
structure Candles.Writes (df : Candles) (pos written : ExternalPosition)
    (result : ProtectionResult) : Prop where
  rest : written = { pos with stopLoss := written.stopLoss, takeProfit := written.takeProfit }
  error : result.error = none
  kept : pos.hasStopLoss → written.stopLoss = pos.stopLoss
  stop : ¬ pos.hasStopLoss →
    written.stopLoss = some df.slResult.price ∧ result.sl = some df.slResult.price
  target : result.tpLevels = [] ∧ written.takeProfit = pos.takeProfit ∨
    ¬ pos.hasTakeProfit ∧ ∃ firstTp rest, df.tpResult.levels = firstTp :: rest ∧
      result.tpLevels = firstTp :: rest ∧ written.takeProfit = some firstTp

theorem Candles.writes_stop (df : Candles) (pos : ExternalPosition) :
    df.Writes pos (df.calculateStop pos).1 (df.calculateStop pos).2 ∧
      (df.calculateStop pos).2.tpLevels = [] ∧
      (df.calculateStop pos).1.takeProfit = pos.takeProfit := by
  unfold calculateStop
  by_cases h : pos.hasStopLoss
  · rw [if_pos h]
    exact ⟨⟨rfl, rfl, fun _ => rfl, fun hs => absurd h hs, Or.inl ⟨rfl, rfl⟩⟩, rfl, rfl⟩
  · rw [if_neg h]
    exact ⟨⟨rfl, rfl, fun hs => absurd hs h, fun _ => ⟨rfl, rfl⟩, Or.inl ⟨rfl, rfl⟩⟩, rfl, rfl⟩

/-- The position with the levels that are missing, and the result so far. -/
def Candles.calculate (df : Candles) (pos : ExternalPosition) :
    ExternalPosition × ProtectionResult :=
  df.calculateTarget (df.calculateStop pos).1 (df.calculateStop pos).2

theorem Candles.writes : df.Writes pos (df.calculate pos).1 (df.calculate pos).2 := by
  obtain ⟨h, _, htarget⟩ := df.writes_stop pos
  unfold calculate
  generalize df.calculateStop pos = stopped at h htarget ⊢
  unfold calculateTarget
  by_cases hmissing : ¬ stopped.1.hasTakeProfit ∧ levelTruthy stopped.1.stopLoss
  · rw [if_pos hmissing]
    cases hlevels : df.tpResult.levels with
    | nil => exact h
    | cons firstTp rest =>
        have hbare : ¬ pos.hasTakeProfit := by
          have := hmissing.1
          unfold ExternalPosition.hasTakeProfit at this ⊢
          rwa [htarget] at this
        exact ⟨by rw [h.rest], h.error, h.kept, h.stop,
          Or.inr ⟨hbare, firstTp, rest, hlevels, rfl, rfl⟩⟩
  · rw [if_neg hmissing]
    exact h

/-! ### The orders -/

variable {client : ExecutionClient} {leg leg' : Leg}

theorem acceptedOf_append (orders orders' : List Placement) :
    acceptedOf leg (orders ++ orders') = (acceptedOf leg orders).or (acceptedOf leg orders') := by
  unfold acceptedOf
  rw [List.find?_append]
  cases orders.find? _ <;> rfl

/-- An order of one leg is none of the other. -/
theorem ExecutionClient.acceptedOf_place_ne (hne : leg ≠ leg') (quantity price : PyFloat) :
    acceptedOf leg' (client.place leg pos quantity price).2 = none := by
  unfold place acceptedOf
  cases client.reply leg with
  | none => rfl
  | some reply => simp [hne]

/-- The order of a leg that the client accepts. -/
theorem ExecutionClient.acceptedOf_place (h : client.reply leg = some .accepted)
    (quantity price : PyFloat) :
    acceptedOf leg (client.place leg pos quantity price).2 = some price := by
  simp [place, acceptedOf, h]

theorem ExecutionClient.acceptedOf_placeStop_tp {result : ProtectionResult} :
    acceptedOf .tp (client.placeStop pos result).2 = none := by
  unfold placeStop
  cases pos.stopLoss with
  | none => rfl
  | some stop =>
      by_cases h : levelTruthy result.sl ∧ stop.truthy
      · simp only [h, and_self, if_true]
        exact acceptedOf_place_ne (by decide) _ _
      · simp only [h, if_false]
        rfl

theorem ExecutionClient.placeProtectionOrders_orders {result : ProtectionResult} :
    (client.placeProtectionOrders pos result).2 =
      (client.placeStop pos result).2 ++ (client.placeTarget pos result).2 := rfl

/-- The stop that is placed. -/
theorem ExecutionClient.acceptedOf_orders_sl {result : ProtectionResult} {price : PyFloat}
    (hsl : result.sl = some price) (hstop : pos.stopLoss = some price) (htruthy : price.truthy)
    (h : client.reply .sl = some .accepted) :
    acceptedOf .sl (client.placeProtectionOrders pos result).2 = some price := by
  have hplaced : acceptedOf .sl (client.placeStop pos result).2 = some price := by
    simp only [placeStop, hstop, hsl, levelTruthy, Option.any_some, htruthy, and_self, if_true]
    exact acceptedOf_place h _ _
  rw [placeProtectionOrders_orders, acceptedOf_append, hplaced]
  rfl

/-- The target that is placed. -/
theorem ExecutionClient.acceptedOf_orders_tp {result : ProtectionResult} {firstTp : PyFloat}
    {rest : List PyFloat} (hlevels : result.tpLevels = firstTp :: rest)
    (htarget : pos.takeProfit = some firstTp) (htruthy : firstTp.truthy)
    (h : client.reply .tp = some .accepted) :
    acceptedOf .tp (client.placeProtectionOrders pos result).2 = some firstTp := by
  have hplaced : acceptedOf .tp (client.placeTarget pos result).2 = some firstTp := by
    simp only [placeTarget, hlevels, htarget, levelTruthy, Option.any_some, htruthy, if_true]
    exact acceptedOf_place h _ _
  rw [placeProtectionOrders_orders, acceptedOf_append, acceptedOf_placeStop_tp, hplaced]
  rfl

theorem ProtectionManager.assess_position (pos : ExternalPosition) (hdf : pm.candles = some df) :
    (pm.assessAndProtect pos).1 = (df.calculate pos).1 ∧
      (pm.assessAndProtect pos).2.1.error = (df.calculate pos).2.error := by
  simp only [assessAndProtect, hdf]
  split <;> exact ⟨rfl, rfl⟩

theorem ProtectionManager.assess_exchangeId (pm : ProtectionManager) (pos : ExternalPosition) :
    (pm.assessAndProtect pos).1.exchangeId = pos.exchangeId := by
  cases hdf : pm.candles with
  | none => rw [assess_none pos hdf]
  | some df =>
      rw [(assess_position pos hdf).1]
      exact (congrArg ExternalPosition.exchangeId df.writes.rest :)

theorem ProtectionManager.assess_orders (hdf : pm.candles = some df) (hdry : pm.dryRun = false)
    (hclient : pm.execution = some client) :
    (pm.assessAndProtect pos).2.2 =
      (client.placeProtectionOrders (df.calculate pos).1 (df.calculate pos).2).2 := by
  simp only [assessAndProtect, hdf, hdry, hclient]
  rfl

theorem ProtectionManager.of_accepts {leg : Leg} (h : pm.accepts leg) :
    pm.dryRun = false ∧ ∃ client, pm.execution = some client ∧ client.reply leg = some .accepted := by
  unfold accepts at h
  cases hexec : pm.execution with
  | none => simp [hexec] at h
  | some client => simpa [hexec] using h

theorem ProtectionManager.of_delivers (hdf : pm.candles = some df) (h : pm.delivers pos) :
    (¬ pos.hasStopLoss → df.slResult.price.truthy ∧ pm.accepts .sl) ∧
      (¬ pos.hasTakeProfit → ∀ firstTp rest, df.tpResult.levels = firstTp :: rest →
        firstTp.truthy ∧ pm.accepts .tp) := by
  simp only [delivers, hdf, Option.all_some, Bool.and_eq_true, Bool.or_eq_true] at h
  refine ⟨fun hs => h.1.resolve_left hs, fun ht firstTp rest hlevels => ?_⟩
  have hhead := h.2.resolve_left ht
  rwa [hlevels, List.head?_cons, Option.all_some, Bool.and_eq_true] at hhead

theorem ProtectionManager.protects (pos : ExternalPosition) (hdf : pm.candles = some df) (hdelivers : pm.delivers pos) :
    (pm.assessAndProtect pos).2.1.error = none ∧
      pos.Protected (pm.assessAndProtect pos).1 (pm.assessAndProtect pos).2.2 := by
  obtain ⟨hstop, htarget⟩ := of_delivers hdf hdelivers
  have hwrites : df.Writes pos (df.calculate pos).1 (df.calculate pos).2 := df.writes
  obtain ⟨hposition, herror⟩ := assess_position pos hdf
  refine ⟨herror.trans hwrites.error, ?_⟩
  rw [hposition]
  refine ⟨hwrites.rest, hwrites.kept, fun hs => ?_, ?_⟩
  · obtain ⟨htruthy, haccepts⟩ := hstop hs
    obtain ⟨hdry, client, hclient, hreply⟩ := of_accepts haccepts
    obtain ⟨hprice, hsl⟩ := hwrites.stop hs
    rw [assess_orders hdf hdry hclient, ExecutionClient.acceptedOf_orders_sl hsl hprice htruthy hreply]
    exact ⟨rfl, hprice⟩
  · rcases hwrites.target with ⟨_, hkept⟩ | ⟨ht, firstTp, rest, hlevels, hresult, htp⟩
    · exact Or.inl hkept
    · obtain ⟨htruthy, haccepts⟩ := htarget ht firstTp rest hlevels
      obtain ⟨hdry, client, hclient, hreply⟩ := of_accepts haccepts
      rw [assess_orders hdf hdry hclient,
        ExecutionClient.acceptedOf_orders_tp hresult htp htruthy hreply]
      exact Or.inr ⟨ht, rfl, htp⟩

end Manager

end CryptoTrader.Sync
