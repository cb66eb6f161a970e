import CryptoTrader.Wallet.Orders

/-!
# Trading operations

The bookings of `open_position`, `partial_close` and `close_position` (what
the source does under its lock once the fill is known), and the operations
built from them when no live execution engine is attached: there phase 1, the
venue call and the protective orders vanish.
-/

namespace CryptoTrader

open CryptoTrader.Lib

/-- How an entry order is executed in paper mode. -/
inductive EntryOrderStyle where
  | market
  | makerLimit
  deriving DecidableEq, Repr

/-- The `setup` dictionary of an entry. -/
structure Setup where
  side : PositionSide
  playbook : Playbook
  entryPrice : Decimal
  slPrice : Decimal
  tpLevels : List TpLevel := []
  tpPrice : Option Decimal := none
  entryOrderStyle : EntryOrderStyle := .market
  fillChunks : Int := 1
  candleCloseTime : Option Nat := none
  timeStopHours : Int := 18
  spreadBps : Decimal := defaultSpreadBps
  slippageBps : Decimal := defaultSlippageBps
  deriving DecidableEq, Repr

/-- `tp_levels`, or the single level made of `tp_price`. -/
def Setup.levels (setup : Setup) : List TpLevel :=
  match setup.tpLevels, setup.tpPrice with
  | [], some price => [{ price := price, pct := 1, hit := false, label := "TP" }]
  | levels, _ => levels

/-- `external_fill`: a fill obtained from the venue. -/
structure ExternalFill where
  price : Decimal
  fee : Decimal := 0
  orderId : String := ""
  clientOrderId : String := ""
  isMaker : Bool := false
  filledQuantity : Option Decimal := none
  deriving DecidableEq, Repr

/-! ## Opening -/

/-- Quantity, notional and margin of a new position. -/
structure Sizing where
  quantity : Decimal
  notional : Decimal
  margin : Decimal
  deriving DecidableEq, Repr

/-- The head of phase 2 of `open_position`: eligibility and size.  `liveQty`
is the quantity already sent to the venue. -/
def Wallet.sizeOpen (w : Wallet) (symbol : Symbol) (setup : Setup)
    (customMargin customQuantity liveQty : Option Decimal) : Except PyErr (Option Sizing) :=
  let lev : Decimal := (w.getLeverage symbol : ℕ)
  let entry := setup.entryPrice
  if !(w.canOpen symbol).1 then .ok none
  else
    match liveQty with
    | some qty =>
        let margin := qty * entry / lev
        if margin > w.availableBalance then .ok none else .ok (some ⟨qty, qty * entry, margin⟩)
    | none =>
        let margin := customMargin.getD (w.availableBalance * w.cfg.equityUtilization)
        if margin ≤ 0 then .ok none
        else
          match customQuantity.filter (0 < ·) with
          | some qty =>
              let margin := qty * entry / lev
              if margin > w.availableBalance then .ok none
              else .ok (some ⟨qty, qty * entry, margin⟩)
          | none =>
              if entry = 0 then .error .divisionByZero
              else .ok (some ⟨margin * lev / entry, margin * lev, margin⟩)

/-- How `open_position` executes its order: the execution price and the fee,
or `none` when the paper collar rejects the fill. -/
def Wallet.executeEntry (w : Wallet) (order : Order) (symbol : Symbol) (setup : Setup)
    (qty markPrice : Decimal) (externalFill : Option ExternalFill) :
    Option (Decimal × Decimal) × Wallet :=
  let entry := setup.entryPrice
  match externalFill with
  | some fill => (some (fill.price, fill.fee), w.recordFill order qty fill.price fill.fee 1)
  | none =>
      match setup.entryOrderStyle with
      | .makerLimit =>
          let fee := w.calculateFee (entry * qty) false
          (some (entry, fee), w.recordFill order qty entry fee 1)
      | .market =>
          let price := w.executionPrice markPrice setup.side true setup.spreadBps setup.slippageBps
          if w.cfg.paperCollarPct > 0 ∧ entry > 0 ∧ |price - entry| / entry > w.cfg.paperCollarPct
          then (none, w.emit (.orderRejected order.id (some symbol) "PAPER_COLLAR"))
          else
            let (fee, w) :=
              w.executeOrderInChunks order qty price w.takerFeeRate setup.fillChunks
            (some (price, fee), w)

/-- The position object `open_position` builds, before TDS. -/
def Wallet.newPosition (w : Wallet) (symbol : Symbol) (setup : Setup) (size : Sizing)
    (executionPrice feeOpen markPrice : Decimal) : EnhancedPosition :=
  EnhancedPosition.updatePnl
    { symbol := symbol
      side := setup.side
      playbook := setup.playbook
      entryPrice := executionPrice
      originalQuantity := size.quantity
      remainingQuantity := size.quantity
      notional := size.notional
      marginUsed := size.margin
      leverage := w.getLeverage symbol
      openTime := setup.candleCloseTime.getD w.nowMs
      slPrice := setup.slPrice
      tpLevels := setup.levels
      timeStopHours := setup.timeStopHours
      feesPaid := feeOpen
      mode := if w.liveExecution then .live else .paper } markPrice

/-- The position object of an opening carries the opening fee and no TDS. -/
theorem Wallet.newPosition_frame (w : Wallet) (symbol : Symbol) (setup : Setup) (size : Sizing)
    (price fee markPrice : Decimal) :
    let pos := w.newPosition symbol setup size price fee markPrice
    pos.status = .opened ∧ pos.symbol = symbol ∧ pos.side = setup.side ∧
      pos.entryPrice = price ∧ pos.feesPaid = fee ∧ pos.tdsPaid = 0 ∧
      pos.slPrice = setup.slPrice ∧ pos.leverage = w.getLeverage symbol := by
  obtain ⟨hsymbol, hside, hentry, -, hstatus, hfees, htds, hsl, hlev, -⟩ :=
    EnhancedPosition.updatePnl_frame
      { symbol := symbol
        side := setup.side
        playbook := setup.playbook
        entryPrice := price
        originalQuantity := size.quantity
        remainingQuantity := size.quantity
        notional := size.notional
        marginUsed := size.margin
        leverage := w.getLeverage symbol
        openTime := setup.candleCloseTime.getD w.nowMs
        slPrice := setup.slPrice
        tpLevels := setup.levels
        timeStopHours := setup.timeStopHours
        feesPaid := fee
        mode := if w.liveExecution then .live else .paper } markPrice
  exact ⟨hstatus, hsymbol, hside, hentry, hfees, htds, hsl, hlev⟩

/-- The payload of the `POSITION_OPENED` event of a new position. -/
def EnhancedPosition.openPayload (pos : EnhancedPosition) (setup : Setup) (size : Sizing)
    (fee : Decimal) : OpenPayload :=
  { symbol := pos.symbol
    side := pos.side
    entryPrice := setup.entryPrice
    quantity := size.quantity
    margin := size.margin
    executionPrice := pos.entryPrice
    fee := fee
    playbook := pos.playbook
    slPrice := pos.slPrice
    leverage := pos.leverage
    openTime := pos.openTime
    tpLevels := setup.levels
    mode := some pos.mode
    source := none
    openedExternally := none }

/-- Charge TDS on a sell leg; nothing is emitted when there is none due. -/
def Wallet.chargeTds (w : Wallet) (amount : Decimal) (reason : String) (symbol : Symbol) : Wallet :=
  if 0 < amount then w.emit (.tdsCharged amount reason symbol) else w

/-- Phase 2 of `open_position` from the position object on, up to the
`POSITION_OPENED` event. -/
def Wallet.bookPosition (w : Wallet) (symbol : Symbol) (setup : Setup) (size : Sizing)
    (executionPrice feeOpen markPrice : Decimal) : EnhancedPosition × Wallet :=
  let pos := w.newPosition symbol setup size executionPrice feeOpen markPrice
  let w := w.tick.emit (.feeCharged feeOpen "OPEN_FEE" symbol)
  let tdsOpen := w.calculateTds (setup.side = .short) (executionPrice * size.quantity)
  let pos := if 0 < tdsOpen then { pos with tdsPaid := pos.tdsPaid + tdsOpen } else pos
  let w := w.chargeTds tdsOpen "OPEN_TDS" symbol
  let w := (w.setPosition symbol pos).syncUnrealizedTotal.emit
    (.positionOpened (pos.openPayload setup size feeOpen))
  ((w.positions.get? symbol).getD pos, w)

/-- Phase 2 of `open_position`, up to the protective orders. -/
def Wallet.bookOpen (w : Wallet) (symbol : Symbol) (setup : Setup) (markPrice : Decimal)
    (customMargin customQuantity : Option Decimal) (externalFill : Option ExternalFill)
    (liveQty : Option Decimal) : Except PyErr (Option EnhancedPosition) × Wallet :=
  match w.sizeOpen symbol setup customMargin customQuantity liveQty with
  | .error e => (.error e, w)
  | .ok none => (.ok none, w)
  | .ok (some size) =>
      let (order, w) := w.createOrder symbol setup.side size.quantity
      match w.executeEntry order symbol setup size.quantity markPrice externalFill with
      | (none, w) => (.ok none, w)
      | (some (price, fee), w) =>
          let (pos, w) := w.bookPosition symbol setup size price fee markPrice
          (.ok (some pos), w)

/-- `open_position` in paper mode. -/
def Wallet.openPosition (w : Wallet) (symbol : Symbol) (setup : Setup) (markPrice : Decimal)
    (customMargin customQuantity : Option Decimal) (externalFill : Option ExternalFill) :
    Except PyErr (Option EnhancedPosition) × Wallet :=
  match w.bookOpen symbol setup markPrice customMargin customQuantity externalFill none with
  | (.ok (some pos), w) => (.ok (some pos), w.save)
  | (result, w) => (result, w)

/-- The arguments of `adopt_venue_position`. -/
structure AdoptRequest where
  symbol : Symbol
  side : PositionSide
  quantity : Decimal
  entryPrice : Decimal
  leverage : Option Leverage := none
  slPct : Decimal := 2 / 100
  markPrice : Option Decimal := none

/-- The position object of an adoption. -/
def Wallet.adoptedPosition (w : Wallet) (r : AdoptRequest) : EnhancedPosition :=
  let lev := r.leverage.getD (w.getLeverage r.symbol)
  let notional := r.quantity * r.entryPrice
  let pos : EnhancedPosition :=
    { symbol := r.symbol
      side := r.side
      playbook := .intraday
      entryPrice := r.entryPrice
      originalQuantity := r.quantity
      remainingQuantity := r.quantity
      notional := notional
      marginUsed := notional / (lev : ℕ)
      leverage := lev
      openTime := w.nowMs
      slPrice :=
        match r.side with
        | .long => r.entryPrice * (1 - r.slPct)
        | .short => r.entryPrice * (1 + r.slPct)
      tpLevels := []
      mode := .live
      source := .manual
      openedExternally := true }
  match r.markPrice with
  | none => pos
  | some mark => if 0 < mark then pos.updatePnl mark else pos

/-- The payload of the `POSITION_ADOPTED` event. -/
def EnhancedPosition.adoptPayload (pos : EnhancedPosition) (r : AdoptRequest) : OpenPayload :=
  { symbol := r.symbol
    side := r.side
    entryPrice := r.entryPrice
    quantity := r.quantity
    margin := r.quantity * r.entryPrice / (pos.leverage : ℕ)
    executionPrice := r.entryPrice
    fee := 0
    playbook := .intraday
    slPrice := pos.slPrice
    leverage := pos.leverage
    openTime := pos.openTime
    tpLevels := []
    mode := some .live
    source := some .manual
    openedExternally := some true }

/-- `adopt_venue_position` up to the protective orders. -/
def Wallet.bookAdoption (w : Wallet) (r : AdoptRequest) : Option EnhancedPosition × Wallet :=
  if (w.getOpenPosition r.symbol).isSome then (none, w)
  else if r.quantity ≤ 0 ∨ r.entryPrice ≤ 0 then (none, w)
  else
    let pos := w.adoptedPosition r
    let w := (w.tick.setPosition r.symbol pos).syncUnrealizedTotal.emit
      (.positionAdopted (pos.adoptPayload r))
    (some ((w.positions.get? r.symbol).getD pos), w)

/-- `adopt_venue_position` in paper mode. -/
def Wallet.adoptVenuePosition (w : Wallet) (r : AdoptRequest) :
    Option EnhancedPosition × Wallet :=
  match w.bookAdoption r with
  | (some pos, w) => (some pos, w.save)
  | (none, w) => (none, w)

/-! ## Closing -/

/-- Exit price: the venue's, or the simulated one. -/
def Wallet.exitPrice (w : Wallet) (side : PositionSide) (markPrice : Decimal)
    (externalFill : Option ExternalFill) : Decimal :=
  match externalFill with
  | some fill => fill.price
  | none => w.executionPrice markPrice side false defaultSpreadBps defaultSlippageBps

/-- The payload of the `POSITION_CLOSED` or `LIQUIDATION` event that books
`pos`, marked at `closePrice`. -/
def EnhancedPosition.closePayload (pos : EnhancedPosition) (symbol : Symbol)
    (closePrice fee : Decimal) (reason : String) : ClosePayload :=
  { symbol := symbol
    side := pos.side
    closePrice := closePrice
    fee := fee
    reason := reason
    remainingPnl := (pos.updatePnl closePrice).unrealizedPnl }

/-- The position record `close_position` appends to the history. -/
def EnhancedPosition.closed (pos : EnhancedPosition) (closePrice fee tds : Decimal)
    (reason : String) (closeTime : Nat) : EnhancedPosition :=
  let pos := pos.updatePnl closePrice
  { pos with
    feesPaid := pos.feesPaid + fee
    tdsPaid := if 0 < tds then pos.tdsPaid + tds else pos.tdsPaid
    partialRealizedPnl := pos.partialRealizedPnl + pos.unrealizedPnl
    unrealizedPnl := 0
    status := .closed
    closeTime := some closeTime
    closePrice := some closePrice
    closeReason := some reason }

/-- Phase 2 of `close_position`. -/
def Wallet.bookClose (w : Wallet) (symbol : Symbol) (markPrice : Decimal) (reason : String)
    (externalFill : Option ExternalFill) : Option EnhancedPosition × Wallet :=
  match w.getOpenPosition symbol with
  | none => (none, w)
  | some pos =>
      let price := w.exitPrice pos.side markPrice externalFill
      let fee := w.calculateFee (price * pos.remainingQuantity) true
      let tds := w.calculateTds (pos.side = .long) (price * pos.remainingQuantity)
      let w := w.emit (.positionClosed (pos.closePayload symbol price fee reason))
      let w := w.chargeTds tds "CLOSE_TDS" symbol
      let record := pos.closed price fee tds reason w.nowMs
      (some record, (w.tick.appendHistory record).save)

/-- `close_position` in paper mode. -/
def Wallet.closePosition (w : Wallet) (symbol : Symbol) (markPrice : Decimal) (reason : String)
    (externalFill : Option ExternalFill) : Option EnhancedPosition × Wallet :=
  w.bookClose symbol markPrice reason externalFill

/-- The payload of the `POSITION_PARTIALLY_CLOSED` event. -/
def EnhancedPosition.partialPayload (pos : EnhancedPosition) (symbol : Symbol)
    (price fee pct : Decimal) (reason : String) (tpLabel : Option String) : PartialPayload :=
  { symbol := symbol
    reason := reason
    pct := pct
    price := price
    pnl := pos.side.gain pos.entryPrice price * (pos.remainingQuantity * pct)
    fee := fee
    closedQty := pos.remainingQuantity * pct
    tpLabel := tpLabel }

/-- Phase 2 of `partial_close` up to the test for a full close: the booked PnL
of the slice, or `none` when nothing was booked. -/
def Wallet.bookPartial (w : Wallet) (symbol : Symbol) (markPrice pct : Decimal) (reason : String)
    (tpLabel : Option String) (externalFill : Option ExternalFill) : Option Decimal × Wallet :=
  match w.getOpenPosition symbol with
  | none => (none, w)
  | some pos =>
      let price := w.exitPrice pos.side markPrice externalFill
      let qty := pos.remainingQuantity * pct
      if qty ≤ 0 then (none, w)
      else
        let fee := w.calculateFee (price * qty) true
        let tds := w.calculateTds (pos.side = .long) (price * qty)
        let p := pos.partialPayload symbol price fee pct reason tpLabel
        let w := w.emit (.positionPartiallyClosed p)
        let w := w.editPosition symbol (fun pos =>
          { pos with
            feesPaid := pos.feesPaid + fee
            partialRealizedPnl := pos.partialRealizedPnl + (p.pnl - fee)
            tdsPaid := if 0 < tds then pos.tdsPaid + tds else pos.tdsPaid })
        (some p.pnl, w.chargeTds tds "PARTIAL_TDS" symbol)

/-- What `partial_close` returns: the PnL of the slice, or, when the rest was
dust, the result of the full close it chains into. -/
inductive PartialResult where
  | slice (pnl : Decimal)
  | full (pos : Option EnhancedPosition)
  deriving DecidableEq

/-- Whether the rest of the position is dust after a partial close. -/
def Wallet.isDust (w : Wallet) (symbol : Symbol) : Bool :=
  (w.getOpenPosition symbol).any (fun pos => pos.remainingQuantity ≤ 1 / 10000)

/-- `partial_close` in paper mode. -/
def Wallet.partialClose (w : Wallet) (symbol : Symbol) (markPrice pct : Decimal)
    (reason : String) (tpLabel : Option String) (externalFill : Option ExternalFill) :
    PartialResult × Wallet :=
  match w.bookPartial symbol markPrice pct reason tpLabel externalFill with
  | (none, w) => (.slice 0, w)
  | (some pnl, w) =>
      if w.isDust symbol then
        let (pos, w) := w.closePosition symbol markPrice "FULL_VIA_PARTIALS" none
        (.full pos, w)
      else (.slice pnl, w.save)

/-- `_liquidate_position` in paper mode. -/
def Wallet.liquidatePosition (w : Wallet) (symbol : Symbol) (markPrice : Decimal) : Wallet :=
  match w.getOpenPosition symbol with
  | none => w
  | some pos =>
      let w := w.emit (.liquidation (pos.closePayload symbol markPrice 0 "LIQUIDATION"))
      let record :=
        { pos.updatePnl markPrice with
          unrealizedPnl := 0
          status := .closed
          closeTime := some w.nowMs
          closePrice := some markPrice
          closeReason := some "LIQUIDATION" }
      (w.tick.appendHistory record).save

/-! ## Stops and funding -/

/-- `adjust_sl_price`. -/
def Wallet.adjustSlPrice (w : Wallet) (symbol : Symbol) (newSlPrice : Decimal) : Wallet :=
  (w.emit (.slAdjusted symbol newSlPrice)).save

/-- `activate_trailing_stop`. -/
def Wallet.activateTrailingStop (w : Wallet) (symbol : Symbol) : Wallet :=
  (w.emit (.trailingStopActivated symbol)).save

/-- Whether two decimals count as equal in `assert_runtime_matches_replay`. -/
def near (a b : Decimal) : Bool := |a - b| < 1 / 10000

/-- The comparisons of `assert_runtime_matches_replay`. -/
def Wallet.matchesReplay (w : Wallet) (replayed : PortfolioState) : Bool :=
  let runtimeOpen := w.positions.entries.filter (fun (_, pos) => pos.status = .opened)
  near w.walletBalance replayed.walletBalance &&
  near w.realizedPnlTotal replayed.realizedPnlTotal &&
  runtimeOpen.length = replayed.openPositions.size &&
  replayed.openPositions.entries.all (fun (symbol, replayPos) =>
    (w.getOpenPosition symbol).any (fun runPos =>
      near runPos.entryPrice replayPos.entryPrice &&
      near runPos.remainingQuantity replayPos.quantity &&
      near runPos.slPrice replayPos.slPrice &&
      runPos.trailingActive = replayPos.trailingActive)) &&
  w.runtime.orders.size = replayed.orders.size &&
  replayed.orders.entries.all (fun (orderId, replayOrder) =>
    (w.runtime.orders.get? orderId).any (fun runOrder =>
      runOrder.status = replayOrder.status &&
      near runOrder.quantity replayOrder.quantity &&
      near runOrder.filledQuantity replayOrder.filledQuantity)) &&
  w.runtime.fills.length = replayed.fills.length &&
  (w.runtime.fills.zip replayed.fills).all (fun (runFill, replayFill) =>
    runFill.orderId = replayFill.orderId &&
    near runFill.quantity replayFill.quantity &&
    near runFill.fee replayFill.fee)

/-- `assert_runtime_matches_replay`. -/
def Wallet.assertRuntimeMatchesReplay (w : Wallet) : Except PyErr Unit :=
  match w.stores.replayPortfolioState w.cfg.initialBalance with
  | none => .error (.valueError "Out-of-order event stream detected")
  | some replayed =>
      if w.matchesReplay replayed then .ok ()
      else .error (.assertionError "runtime does not match replay")

/-- Direction of a funding payment: longs pay a positive rate. -/
def PositionSide.fundingDirection : PositionSide → Decimal
  | .long => -1
  | .short => 1

/-- The amount a position receives (or pays, when negative). -/
def EnhancedPosition.fundingAmount (pos : EnhancedPosition) (fundingRate : Decimal) : Decimal :=
  pos.remainingQuantity * pos.entryPrice * fundingRate * pos.side.fundingDirection

/-- `apply_funding`.  It ends with the replay assertion, which can raise after
everything has been booked. -/
def Wallet.applyFunding (w : Wallet) (symbol : Symbol) (fundingRate : Decimal) :
    Except PyErr Decimal × Wallet :=
  match w.getOpenPosition symbol with
  | none => (.ok 0, w)
  | some pos =>
      let notional := pos.remainingQuantity * pos.entryPrice
      let amount := pos.fundingAmount fundingRate
      let w := { w with walletBalance := w.walletBalance + amount }.setPosition symbol
        { pos with
          fundingPaid := pos.fundingPaid + amount
          partialRealizedPnl := pos.partialRealizedPnl + amount }
      let w := (w.emit (.fundingApplied symbol fundingRate notional amount)).save
      (w.assertRuntimeMatchesReplay.map (fun _ => amount), w)

/-! ## Their durable steps -/

section TradingSteps

variable {u : Wallet} (w : Wallet) (symbol : Symbol) (markPrice : Decimal)

variable {w}

theorem Wallet.Steps.chargeTds (h : Wallet.Steps u w) (amount : Decimal) (reason : String) :
    Wallet.Steps u (w.chargeTds amount reason symbol) := by
  unfold Wallet.chargeTds
  split
  · exact h.emit _
  · exact h

theorem Wallet.eventsApplied_chargeTds_pos (amount : Decimal) (reason : String)
    (hw : 0 < w.runtime.eventsApplied) :
    0 < (w.chargeTds amount reason symbol).runtime.eventsApplied :=
  Nat.lt_of_lt_of_le hw ((Steps.refl w).chargeTds symbol amount reason).eventsApplied_le

theorem Wallet.Steps.executeEntry (h : Wallet.Steps u w) (order : Order) (setup : Setup)
    (qty : Decimal) (externalFill : Option ExternalFill) :
    Wallet.Steps u (w.executeEntry order symbol setup qty markPrice externalFill).2 := by
  unfold Wallet.executeEntry
  split
  · exact h.recordFill order _ _ _ 1
  · split
    · exact h.recordFill order _ _ _ 1
    · simp only
      split
      · exact h.emit _
      · exact h.executeOrderInChunks order _ _ _ _

theorem Wallet.Steps.bookPosition (h : Wallet.Steps u w) (setup : Setup) (size : Sizing)
    (executionPrice feeOpen : Decimal) :
    Wallet.Steps u (w.bookPosition symbol setup size executionPrice feeOpen markPrice).2 := by
  have hfee := h.tick.emit (.feeCharged feeOpen "OPEN_FEE" symbol)
  exact ((hfee.chargeTds symbol _ "OPEN_TDS").setPosition symbol _).syncUnrealizedTotal.emit _

/-- `bookOpen` is made of durable steps, and a position it returns was
announced by an event. -/
theorem Wallet.Steps.bookOpen (h : Wallet.Steps u w) (setup : Setup)
    (customMargin customQuantity : Option Decimal) (externalFill : Option ExternalFill)
    (liveQty : Option Decimal) :
    let r := w.bookOpen symbol setup markPrice customMargin customQuantity externalFill liveQty
    Wallet.Steps u r.2 ∧ (∀ pos, r.1 = .ok (some pos) → 0 < r.2.runtime.eventsApplied) := by
  unfold Wallet.bookOpen
  cases hsize : w.sizeOpen symbol setup customMargin customQuantity liveQty with
  | error e => exact ⟨h, fun pos hr => by simp at hr⟩
  | ok size? =>
      cases size? with
      | none => exact ⟨h, fun pos hr => by simp at hr⟩
      | some size =>
          have horder : Wallet.Steps u (w.createOrder symbol setup.side size.quantity).2 :=
            h.createOrderWithType _
          have hentry := horder.executeEntry symbol markPrice
            (w.createOrder symbol setup.side size.quantity).1 setup size.quantity externalFill
          simp only
          revert hentry
          generalize (w.createOrder symbol setup.side size.quantity).2.executeEntry
            (w.createOrder symbol setup.side size.quantity).1 symbol setup size.quantity markPrice
            externalFill = entry
          obtain ⟨filled?, v⟩ := entry
          intro hentry
          cases filled? with
          | none => exact ⟨hentry, fun pos hr => by simp at hr⟩
          | some filled =>
              exact ⟨hentry.bookPosition symbol markPrice setup size filled.1 filled.2,
                fun _ _ => Wallet.eventsApplied_emit_pos _ _⟩

theorem Wallet.openPosition_steps (w : Wallet) (setup : Setup)
    (customMargin customQuantity : Option Decimal) (externalFill : Option ExternalFill) :
    Wallet.Steps w
      (w.openPosition symbol setup markPrice customMargin customQuantity externalFill).2 := by
  obtain ⟨hsteps, hpos⟩ := (Steps.refl w).bookOpen symbol markPrice setup customMargin
    customQuantity externalFill none
  unfold openPosition
  split
  · next pos v heq =>
      rw [heq] at hsteps hpos
      exact hsteps.save (hpos pos rfl)
  · next heq =>
      simp only [heq] at hsteps
      exact hsteps

theorem Wallet.Steps.bookAdoption (h : Wallet.Steps u w) (r : AdoptRequest) :
    let res := w.bookAdoption r
    Wallet.Steps u res.2 ∧ (∀ pos, res.1 = some pos → 0 < res.2.runtime.eventsApplied) := by
  unfold Wallet.bookAdoption
  split
  · exact ⟨h, fun pos hr => by simp at hr⟩
  · split
    · exact ⟨h, fun pos hr => by simp at hr⟩
    · exact ⟨(h.tick.setPosition r.symbol _).syncUnrealizedTotal.emit _,
        fun _ _ => Wallet.eventsApplied_emit_pos _ _⟩

theorem Wallet.adoptVenuePosition_steps (w : Wallet) (r : AdoptRequest) :
    Wallet.Steps w (w.adoptVenuePosition r).2 := by
  obtain ⟨hsteps, hpos⟩ := (Steps.refl w).bookAdoption r
  unfold adoptVenuePosition
  split
  · next pos v heq =>
      rw [heq] at hsteps hpos
      exact hsteps.save (hpos pos rfl)
  · next heq =>
      simp only [heq] at hsteps
      exact hsteps

theorem Wallet.Steps.bookClose (h : Wallet.Steps u w) (reason : String)
    (externalFill : Option ExternalFill) :
    Wallet.Steps u (w.bookClose symbol markPrice reason externalFill).2 := by
  unfold Wallet.bookClose
  split
  · exact h
  · next pos _ =>
      simp only
      refine Wallet.Steps.save (((h.emit _).chargeTds symbol _ "CLOSE_TDS").tick.appendHistory _) ?_
      exact Wallet.eventsApplied_chargeTds_pos symbol _ _ (Wallet.eventsApplied_emit_pos _ _)

/-- `bookPartial` is made of durable steps, and a slice it returns was
announced by an event. -/
theorem Wallet.Steps.bookPartial (h : Wallet.Steps u w) (pct : Decimal) (reason : String)
    (tpLabel : Option String) (externalFill : Option ExternalFill) :
    let r := w.bookPartial symbol markPrice pct reason tpLabel externalFill
    Wallet.Steps u r.2 ∧ (∀ pnl, r.1 = some pnl → 0 < r.2.runtime.eventsApplied) := by
  unfold Wallet.bookPartial
  split
  · exact ⟨h, fun pnl hr => by simp at hr⟩
  · next pos _ =>
      simp only
      split
      · exact ⟨h, fun pnl hr => by simp at hr⟩
      · exact ⟨((h.emit _).editPosition symbol _).chargeTds symbol _ "PARTIAL_TDS", fun _ _ =>
          Wallet.eventsApplied_chargeTds_pos symbol _ _ (Wallet.eventsApplied_emit_pos _ _)⟩

theorem Wallet.partialClose_steps (w : Wallet) (pct : Decimal) (reason : String)
    (tpLabel : Option String) (externalFill : Option ExternalFill) :
    Wallet.Steps w
      (w.partialClose symbol markPrice pct reason tpLabel externalFill).2 := by
  obtain ⟨hsteps, hpos⟩ := (Steps.refl w).bookPartial symbol markPrice pct reason tpLabel
    externalFill
  unfold partialClose
  split
  · next heq =>
      rw [heq] at hsteps
      exact hsteps
  · next pnl v heq =>
      rw [heq] at hsteps hpos
      split
      · exact hsteps.bookClose symbol markPrice "FULL_VIA_PARTIALS" none
      · exact hsteps.save (hpos pnl rfl)

theorem Wallet.liquidatePosition_steps (w : Wallet) :
    Wallet.Steps w (w.liquidatePosition symbol markPrice) := by
  unfold liquidatePosition
  split
  · exact .refl w
  · exact (((Steps.refl w).emit _).tick.appendHistory _).save (Wallet.eventsApplied_emit_pos _ _)

theorem Wallet.adjustSlPrice_steps (w : Wallet) (newSlPrice : Decimal) :
    Wallet.Steps w (w.adjustSlPrice symbol newSlPrice) :=
  ((Steps.refl w).emit _).save (Wallet.eventsApplied_emit_pos _ _)

theorem Wallet.activateTrailingStop_steps (w : Wallet) :
    Wallet.Steps w (w.activateTrailingStop symbol) :=
  ((Steps.refl w).emit _).save (Wallet.eventsApplied_emit_pos _ _)

/-- The balance `apply_funding` writes ahead of its event is overwritten by
the event, which does not read it. -/
theorem Wallet.applyFunding_steps (w : Wallet) (fundingRate : Decimal) :
    Wallet.Steps w (w.applyFunding symbol fundingRate).2 := by
  unfold applyFunding
  split
  · exact .refl w
  · next pos _ =>
      simp only
      refine Steps.save ?_ (Wallet.eventsApplied_emit_pos _ _)
      exact ((Steps.refl w).setPosition symbol _).emit
        (.fundingApplied symbol fundingRate (pos.remainingQuantity * pos.entryPrice)
          (pos.fundingAmount fundingRate))

end TradingSteps

end CryptoTrader
