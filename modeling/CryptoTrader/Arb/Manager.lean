import CryptoTrader.Arb.Book
import CryptoTrader.Exchange.Instrument

/-!
# The funding-arb manager

`FundingArbManager` of `funding_arb_manager.py`: an entry sells the perp and then
buys the spot, an unwind buys the perp back and then sells the spot, and what a
tick leaves half done the next one resolves.
-/

namespace CryptoTrader.Arb

open CryptoTrader.Lib

/-- The configuration; the defaults are those without one. -/
structure ArbConfig where
  enabled : Bool := false
  minFundingToEnter : Decimal := 1 / 10000
  maxEntryBasis : Decimal := 5 / 1000
  notional : Decimal := 0
  qtyStep : Decimal := 1 / 10000
  fundingIntervalMs : ℤ := 28800000
  fundingExitFloor : Decimal := 0
  minFundingToHold : Decimal := 3 / 100000
  maxBasisDrift : Decimal := 6 / 1000

section Manager

variable (cfg : ArbConfig) (tick : Tick)

/-- `_basis`. -/
def basis : ArbM Decimal := do
  let perp ← read tick.basisMark
  let spot ← read tick.basisSpotMark
  if spot ≤ 0 then pure 0 else pure ((perp - spot) / spot)

/-- `_entry_condition`. -/
def entryCondition (fr basis : Decimal) : Bool :=
  cfg.minFundingToEnter ≤ fr ∧ |basis| ≤ cfg.maxEntryBasis

/-- `_size_legs`. -/
def sizeLegs (mark : Decimal) : Decimal :=
  if cfg.notional ≤ 0 ∨ mark ≤ 0 then 0
  else
    let qty := cfg.notional / mark
    if 0 < cfg.qtyStep then (toIntegralDown (qty / cfg.qtyStep) : Decimal) * cfg.qtyStep else qty

/-- `_rollback_perp`. -/
def rollbackPerp (arb : ArbPosition) : ArbM Unit := do
  let arb := { arb with state := .unwindingPerp }
  update tick .rollingBack arb "ARB_LEG_UNWOUND"
  let bought ← catching
    (do
      let _ ← placeOrder tick .rollBackPerp .perp .long arb.perpQty
      pure true)
    (fun _ => do
      tripHalt
      pure false)
  if bought then
    update tick .rolledBack arb "ARB_ENTRY_ROLLED_BACK"
    close tick .rollbackClosed arb "entry_rolled_back" 0
  else pure ()

/-- `_maybe_enter` from the spot leg on. -/
def enterSpot (arb : ArbPosition) : ArbM Unit := do
  let bought ← catching
    (do
      let order ← placeOrder tick .buySpot .spot .long arb.spotQty
      pure (some order))
    (fun _ => pure none)
  match bought with
  | none => rollbackPerp tick arb
  | some order =>
      update tick .opened
        { arb with
          spotEntryPrice := order.avgFillPrice
          spotOrderId := order.id
          state := .hedged } "ARB_OPENED"

/-- `_maybe_enter` from the perp leg on. -/
def enter (arb : ArbPosition) : ArbM Unit := do
  let shorted ← catching
    (do
      let order ← placeOrder tick .shortPerp .perp .short arb.perpQty
      pure (some order))
    (fun _ => pure none)
  match shorted with
  | none => update tick .entryFailed { arb with state := .closed } "ARB_ENTRY_ROLLED_BACK"
  | some order => do
      let arb := { arb with
        perpEntryPrice := order.avgFillPrice
        perpOrderId := order.id
        state := .perpOnly }
      openRecord tick .opening arb
      update tick .perpFilled arb "ARB_PERP_LEG_FILLED"
      enterSpot tick arb

/-- `_maybe_enter`. -/
def maybeEnter : ArbM Unit := do
  let fr ← read tick.fundingRate
  let basis ← basis tick
  if entryCondition cfg fr basis then do
    let mark ← read tick.sizeMark
    let qty := sizeLegs cfg mark
    if qty ≤ 0 then pure ()
    else
      enter tick
        { arbId := tick.arbId
          state := .placingPerp
          perpQty := qty
          spotQty := qty
          entryBasis := basis
          openTime := tick.now
          lastFundingTs := tick.now }
  else pure ()

/-- `_maybe_apply_funding`. -/
def maybeApplyFunding (arb : ArbPosition) (fr : Decimal) : ArbM ArbPosition :=
  if tick.now - arb.lastFundingTs < cfg.fundingIntervalMs then pure arb
  else do
    let mark ← read tick.accrualMark
    recordFunding tick .fundingAccrued arb (arb.perpQty * mark * fr)

/-- `_evaluate_exit`. -/
def evaluateExit (arb : ArbPosition) (fr : Decimal) : ArbM (Option String) :=
  if fr ≤ cfg.fundingExitFloor then pure (some "funding_flip")
  else if fr < cfg.minFundingToHold then pure (some "funding_decay")
  else do
    let basis ← basis tick
    if cfg.maxBasisDrift < |basis - arb.entryBasis| then pure (some "basis_drift") else pure none

/-- `_unwind`, the spot leg. -/
def unwindSpot (arb : ArbPosition) (reason : String) : ArbM Unit := do
  let perpExit ← read tick.exitMark
  let sold ← catching
    (do
      let order ← placeOrder tick .sellSpot .spot .short arb.spotQty
      pure (some order))
    (fun _ => pure none)
  match sold with
  | none => pure ()
  | some order =>
      let spotExit := if order.avgFillPrice = 0 then perpExit else order.avgFillPrice
      let spotPnl := (spotExit - arb.spotEntryPrice) * arb.spotQty
      let perpPnl := (arb.perpEntryPrice - perpExit) * arb.perpQty
      close tick .unwound arb reason (arb.accruedFunding + spotPnl + perpPnl - arb.entryFees)

/-- `_unwind`. -/
def unwind (arb : ArbPosition) (reason : String) : ArbM Unit :=
  if arb.state = .hedged ∨ arb.state = .unwindingPerp then do
    let arb := { arb with state := .unwindingPerp }
    update tick .unwinding arb "ARB_LEG_UNWOUND"
    let bought ← catching
      (do
        let _ ← placeOrder tick .buyBackPerp .perp .long arb.perpQty
        pure true)
      (fun _ => do
        tripHalt
        pure false)
    if bought then
      let arb := { arb with state := .unwindingSpot }
      update tick .perpDone arb "ARB_LEG_UNWOUND"
      unwindSpot tick arb reason
    else pure ()
  else unwindSpot tick arb reason

/-- `_manage`. -/
def manage (arb : ArbPosition) : ArbM Unit := do
  let fr ← read tick.fundingRate
  let arb ← maybeApplyFunding cfg tick arb fr
  match ← evaluateExit cfg tick arb fr with
  | none => pure ()
  | some reason => unwind tick arb reason

/-- `_resolve`. -/
def resolve (arb : ArbPosition) : ArbM Unit :=
  match arb.state with
  | .perpOnly =>
      catching
        (do
          let order ← placeOrder tick .completeSpot .spot .long arb.spotQty
          update tick .completed
            { arb with
              spotEntryPrice := order.avgFillPrice
              spotOrderId := order.id
              state := .hedged } "ARB_OPENED")
        (fun _ => rollbackPerp tick arb)
  | .unwindingPerp | .unwindingSpot =>
      unwind tick arb ((arb.closeReason.filter (· ≠ "")).getD "resume_unwind")
  | .placingPerp => close tick .abandoned arb "abandoned_placing" 0
  | .hedged | .closed => pure ()

/-- `on_signal_tick`. -/
def onSignalTick : ArbM Unit :=
  if ¬ cfg.enabled then pure ()
  else
    catching
      (do
        let w ← get
        match w.book with
        | none => if w.halt then pure () else maybeEnter cfg tick
        | some arb =>
            if w.halt then
              if arb.state = .hedged then unwind tick arb "halt" else pure ()
            else if arb.state = .hedged then manage cfg tick arb
            else resolve tick arb)
      (fun _ => pure ())

end Manager

/-- A tick, the HALT file being made or removed, or a restart between ticks. -/
inductive ArbStep where
  | tick (tick : Tick)
  | setHalt (halt : Bool)
  | restart

/-- One step; a process that was killed is started again. -/
def ArbWorld.step (cfg : ArbConfig) (w : ArbWorld) : ArbStep → ArbWorld
  | .tick tick =>
      match onSignalTick cfg tick w with
      | .error .crashed w' => w'.restart
      | .error (.raised _) w' | .ok _ w' => w'
  | .setHalt halt => { w with halt := halt }
  | .restart => w.restart

end CryptoTrader.Arb
