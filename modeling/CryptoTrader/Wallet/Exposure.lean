import CryptoTrader.Wallet.Fills
import CryptoTrader.Wallet.Slices

/-!
# What a pending order does to the exposure

`evaluate_pending_orders` records the fill of an order that triggers, charges
its fee and leaves the positions alone.  So what a fill is to mean for the
position on its symbol holds of an evaluation only when nothing is filled.
-/

namespace CryptoTrader

open CryptoTrader.Lib

/-- The signed quantity held on a symbol. -/
def Wallet.exposure (w : Wallet) (symbol : Symbol) : Decimal :=
  match w.getOpenPosition symbol with
  | none => 0
  | some pos => pos.side.sign * pos.remainingQuantity

/-- The gain of the part of the position that a fill closes. -/
def Wallet.closedPnl (w : Wallet) (symbol : Symbol) (p : FillPayload) : Decimal :=
  match w.getOpenPosition symbol with
  | none => 0
  | some pos =>
      if pos.side = p.side then 0
      else pos.side.gain pos.entryPrice p.fillPrice * min p.quantity pos.remainingQuantity

/-- A mark at least as good as a price for a side that trades, and one at least
as bad. -/
def PositionSide.atLeastAsGood (side : PositionSide) (markPrice price : Decimal) : Prop :=
  0 ≤ side.gain markPrice price

def PositionSide.atLeastAsBad (side : PositionSide) (markPrice price : Decimal) : Prop :=
  side.gain markPrice price ≤ 0

/-- The mark warrants a fill of the order: a limit or a take-profit at a price
as good, a stop at one as bad. -/
def OrderData.Warranted (order : OrderData) (markPrice : Decimal) : Prop :=
  match order.orderType with
  | .market => True
  | .limit => ∃ limit, order.limitPrice = some limit ∧ order.side.atLeastAsGood markPrice limit
  | .takeProfit => ∃ trigger, order.triggerPrice = some trigger ∧
      order.side.atLeastAsGood markPrice trigger
  | .stopMarket => ∃ trigger, order.triggerPrice = some trigger ∧
      order.side.atLeastAsBad markPrice trigger

/-- A trigger that fires is warranted but for a take-profit, which fires on the
far side of its price, as a stop does. -/
theorem OrderData.warranted_iff {order : OrderData} {markPrice : Decimal}
    (h : order.shouldTrigger markPrice) :
    order.Warranted markPrice ↔
      (order.orderType = .takeProfit → order.triggerPrice = some markPrice) := by
  unfold shouldTrigger at h
  unfold Warranted PositionSide.atLeastAsGood PositionSide.atLeastAsBad
  cases htype : order.orderType with
  | market => simp
  | limit =>
      cases hlimit : order.limitPrice with
      | none => simp [htype, hlimit] at h
      | some limit => cases hside : order.side <;> simpa [htype, hlimit, hside, PositionSide.gain] using h
  | stopMarket =>
      cases htrigger : order.triggerPrice with
      | none => simp [htype, htrigger] at h
      | some trigger =>
          cases hside : order.side <;> simpa [htype, htrigger, hside, PositionSide.gain] using h
  | takeProfit =>
      cases htrigger : order.triggerPrice with
      | none => simp [htype, htrigger] at h
      | some trigger =>
          cases hside : order.side with
          | long =>
              have hle : trigger ≤ markPrice := by simpa [htype, htrigger, hside] using h
              have hat : trigger = markPrice ↔ markPrice ≤ trigger :=
                ⟨fun heq => heq.ge, fun hge => le_antisymm hle hge⟩
              simp [PositionSide.gain, hat]
          | short =>
              have hle : markPrice ≤ trigger := by simpa [htype, htrigger, hside] using h
              have hat : trigger = markPrice ↔ trigger ≤ markPrice :=
                ⟨fun heq => heq.le, fun hge => le_antisymm hge hle⟩
              simp [PositionSide.gain, hat]

/-- What the fill of an order is to mean. -/
structure Wallet.FillMeans (w w' : Wallet) (order : OrderData) (markPrice : Decimal)
    (p : FillPayload) : Prop where
  exposure : w'.exposure order.symbol = w.exposure order.symbol + order.side.sign * p.quantity
  reduceOnly : order.reduceOnly →
    |w'.exposure order.symbol| ≤ |w.exposure order.symbol| ∧
      0 ≤ w.exposure order.symbol * w'.exposure order.symbol
  booked : w'.realizedPnlTotal = w.realizedPnlTotal + w.closedPnl order.symbol p - p.fee
  warranted : order.Warranted markPrice

/-- Every fill of the turn of an order means what it is to mean. -/
def Wallet.TurnMeans (symbol : Symbol) (markPrice : Decimal) (w : Wallet) (order : Order) : Prop :=
  let w' := w.evaluateOrder symbol markPrice order
  ∀ p ∈ w.fillsOf w', Wallet.FillMeans w w' (w.currentOrder order) markPrice p

/-- The order fills when it is tried: its trigger fires, it is not turned down as
reduce-only, and some of it is open. -/
structure Wallet.Fillable (symbol : Symbol) (markPrice : Decimal) (w : Wallet) (order : Order) :
    Prop where
  triggers : (w.currentOrder order).shouldTrigger markPrice
  reduces : (w.currentOrder order).reduceOnly → ∃ pos, w.getOpenPosition symbol = some pos ∧
    pos.side ≠ (w.currentOrder order).side
  rest : (w.currentOrder order).filledQuantity < (w.currentOrder order).quantity

/-- The order fills at its turn: it is pending on the symbol, has not expired and
fills when it is tried. -/
structure Wallet.Due (symbol : Symbol) (markPrice : Decimal) (w : Wallet) (order : Order) : Prop
    extends Wallet.Fillable symbol markPrice w order where
  here : (w.currentOrder order).symbol = symbol
  pending : (w.currentOrder order).status = .pending
  live : ∀ t, (w.currentOrder order).expiresAt = some t → t ≠ 0 → w.nowMs < t

section Turn

variable {symbol : Symbol} {markPrice : Decimal} {order : Order}

theorem Wallet.fillsOf_of_eq {w w' : Wallet} (h : w'.runtime.fills = w.runtime.fills) :
    w.fillsOf w' = [] := by
  simp [fillsOf, h]

/-- A single chunk is the whole rest. -/
theorem Wallet.fills_executeOrderInChunks_one (w : Wallet) (total fillPrice feeRate : Decimal) :
    (w.executeOrderInChunks order total fillPrice feeRate 1).2.runtime.fills =
      w.runtime.fills ++ [(w.currentOrder order).fillPayload order.id total fillPrice
        (|total * fillPrice| * feeRate) 1] := by
  simp [executeOrderInChunks, executeChunks, recordFill_eq, PortfolioState.apply,
    PortfolioState.applyPayload, PortfolioState.credit, Wallet.event]

theorem Wallet.Fillable.fills {w : Wallet} (h : w.Fillable symbol markPrice order) :
    ∃ p, p.quantity = (w.currentOrder order).quantity - (w.currentOrder order).filledQuantity ∧
      (w.tryTrigger symbol markPrice order).runtime.fills = w.runtime.fills ++ [p] := by
  have hpos : 0 < (w.currentOrder order).quantity - (w.currentOrder order).filledQuantity :=
    sub_pos.mpr h.rest
  have hheld : ((w.currentOrder order).reduceOnly && (w.getOpenPosition symbol).isNone) = false := by
    by_cases hreduce : (w.currentOrder order).reduceOnly
    · obtain ⟨pos, hpos, -⟩ := h.reduces hreduce
      simp [hpos]
    · simp [hreduce]
  have hside : ((w.currentOrder order).reduceOnly && (w.getOpenPosition symbol).any
      (fun pos => pos.side = (w.currentOrder order).side)) = false := by
    by_cases hreduce : (w.currentOrder order).reduceOnly
    · obtain ⟨pos, hpos, hne⟩ := h.reduces hreduce
      simp [hpos, hne]
    · simp [hreduce]
  have htry : w.tryTrigger symbol markPrice order =
      (w.executeOrderInChunks order
        ((w.currentOrder order).quantity - (w.currentOrder order).filledQuantity)
        (w.executionPrice markPrice (w.currentOrder order).side true defaultSpreadBps
          defaultSlippageBps) w.takerFeeRate 1).2 := by
    unfold tryTrigger
    simp only [h.triggers, hheld, hside, Bool.not_true, Bool.false_eq_true, if_false,
      max_eq_right hpos.le, if_pos hpos]
  rw [htry]
  exact ⟨_, rfl, fills_executeOrderInChunks_one w _ _ _⟩

/-- Trying an order that is not fillable fills nothing. -/
theorem Wallet.fills_tryTrigger_of_not {w : Wallet} (h : ¬ w.Fillable symbol markPrice order) :
    (w.tryTrigger symbol markPrice order).runtime.fills = w.runtime.fills := by
  unfold tryTrigger
  dsimp only
  split_ifs with htrigger hflat hside hrest
  · rfl
  · rfl
  · rfl
  · refine absurd ⟨by simpa using htrigger, fun hreduce => ?_, ?_⟩ h
    · cases hpos : w.getOpenPosition symbol with
      | none => simp [hreduce, hpos] at hflat
      | some pos => exact ⟨pos, rfl, by simpa [hreduce, hpos] using hside⟩
    · rw [lt_max_iff, sub_pos] at hrest
      exact hrest.resolve_left (lt_irrefl _)
  · rfl

/-- The clock is no part of what is tried. -/
theorem Wallet.fillable_tick {w : Wallet} :
    w.tick.Fillable symbol markPrice order ↔ w.Fillable symbol markPrice order :=
  ⟨fun h => ⟨h.triggers, h.reduces, h.rest⟩, fun h => ⟨h.triggers, h.reduces, h.rest⟩⟩

theorem Wallet.Due.fills {w : Wallet} (h : w.Due symbol markPrice order) :
    ∃ p, p.quantity = (w.currentOrder order).quantity - (w.currentOrder order).filledQuantity ∧
      (w.evaluateOrder symbol markPrice order).runtime.fills = w.runtime.fills ++ [p] := by
  unfold evaluateOrder
  dsimp only
  rw [if_neg (by simp [h.here, h.pending])]
  cases hexpires : (w.currentOrder order).expiresAt.filter (· ≠ 0) with
  | none => exact h.toFillable.fills
  | some t =>
      obtain ⟨ht, hne⟩ := Option.filter_eq_some_iff.mp hexpires
      dsimp only
      rw [if_neg (not_le.mpr (h.live t ht (by simpa using hne)))]
      exact (fillable_tick.mpr h.toFillable).fills

/-- The turn of any other fills nothing. -/
theorem Wallet.fills_evaluateOrder_of_not {w : Wallet} (h : ¬ w.Due symbol markPrice order) :
    (w.evaluateOrder symbol markPrice order).runtime.fills = w.runtime.fills := by
  unfold evaluateOrder
  dsimp only
  split_ifs with hother
  · rfl
  · push Not at hother
    cases hexpires : (w.currentOrder order).expiresAt.filter (· ≠ 0) with
    | none =>
        refine fills_tryTrigger_of_not (fun hfill => h ⟨hfill, hother.1, hother.2, ?_⟩)
        intro t ht hne
        rw [ht, Option.filter_some, if_pos (by simpa using hne)] at hexpires
        cases hexpires
    | some t =>
        dsimp only
        split_ifs with hexpired
        · rfl
        · refine fills_tryTrigger_of_not (fun hfill => h ⟨fillable_tick.mp hfill, hother.1,
            hother.2, ?_⟩)
          intro t' ht' hne
          rw [ht', Option.filter_some, if_pos (by simpa using hne)] at hexpires
          obtain rfl := Option.some.inj hexpires
          exact not_le.mp hexpired

end Turn

/-! ## The exposure -/

/-- Positions worth the same are the same exposure. -/
theorem Wallet.exposure_congr {w w' : Wallet} {symbol : Symbol}
    (h : SameWorth (w.getOpenPosition symbol) (w'.getOpenPosition symbol)) :
    w'.exposure symbol = w.exposure symbol := by
  unfold exposure
  cases hpos : w.getOpenPosition symbol with
  | none =>
      rw [hpos] at h
      cases hpos' : w'.getOpenPosition symbol with
      | none => rfl
      | some pos' => rw [hpos'] at h; cases h
  | some pos =>
      obtain ⟨pos', hpos', hsame⟩ := h.exists hpos
      rw [hpos']
      simp [hsame.side, hsame.remainingQuantity]

/-- The turn of an order moves no exposure. -/
theorem Wallet.exposure_evaluateOrder {w : Wallet} (h : w.Aligned) (symbol s : Symbol)
    (markPrice : Decimal) (order : Order) :
    (w.evaluateOrder symbol markPrice order).exposure s = w.exposure s := by
  have hkeeps : Wallet.KeepsWorth none w (w.evaluateOrder symbol markPrice order) :=
    (Wallet.KeepsWorth.refl h).evaluateOrder symbol markPrice order
  exact exposure_congr (hkeeps.positions s (by simp))

/-- At its turn an order does what it is to do exactly if it is not filled. -/
theorem Wallet.turnMeans_iff {w : Wallet} (h : w.Aligned) (symbol : Symbol) (markPrice : Decimal)
    (order : Order) : w.TurnMeans symbol markPrice order ↔ ¬ w.Due symbol markPrice order := by
  unfold TurnMeans
  constructor
  · intro hmeans hdue
    obtain ⟨p, hquantity, hfills⟩ := hdue.fills
    have hp : p ∈ w.fillsOf (w.evaluateOrder symbol markPrice order) := by
      simp [fillsOf, hfills]
    have hmoved := (hmeans p hp).exposure
    rw [exposure_evaluateOrder h, hquantity] at hmoved
    have hrest : 0 < (w.currentOrder order).quantity - (w.currentOrder order).filledQuantity :=
      sub_pos.mpr hdue.rest
    have hzero : (w.currentOrder order).side.sign *
        ((w.currentOrder order).quantity - (w.currentOrder order).filledQuantity) = 0 := by
      linarith
    rcases mul_eq_zero.mp hzero with hsign | hnone
    · revert hsign
      cases (w.currentOrder order).side <;> simp [PositionSide.sign]
    · exact absurd hnone hrest.ne'
  · intro hnot w' p hp
    rw [fillsOf_of_eq (fills_evaluateOrder_of_not hnot)] at hp
    cases hp

/-! ## Runs -/

theorem TradeBook.wallet_foldl (ops : List PaperOp) (b : TradeBook) :
    (ops.foldl TradeBook.step b).wallet = ops.foldl PaperOp.run b.wallet := by
  induction ops generalizing b with
  | nil => rfl
  | cons op rest ih =>
      rw [List.foldl_cons, List.foldl_cons, ih]
      have hstep : (b.step op).wallet = op.run b.wallet := by
        unfold step
        cases op.trade? <;> rfl
      rw [hstep]

/-- The positions of a paper wallet are the reducer's, whatever it has done. -/
theorem Wallet.aligned_run (init : WalletInit) (clock : Nat → Nat) (redisUp : Bool)
    (ops : List PaperOp) : (ops.foldl PaperOp.run (Wallet.boot init clock {} redisUp)).Aligned := by
  have hconsistent : (ops.foldl TradeBook.step (.start init clock redisUp)).Consistent := by
    generalize hstart : TradeBook.start init clock redisUp = b
    have hb : b.Consistent := hstart ▸ TradeBook.consistent_start init clock redisUp
    clear hstart
    induction ops generalizing b with
    | nil => exact hb
    | cons op rest ih => exact ih (b.step op) (hb.step op).1
  have haligned := hconsistent.aligned
  rwa [TradeBook.wallet_foldl] at haligned

/-- Every order an evaluation fills does to the exposure what it is to do. -/
def Wallet.EvaluationMeans (symbol : Symbol) (markPrice : Decimal) (w : Wallet) : Prop :=
  w.halted = false →
    AllOk (Wallet.evaluateOrder symbol markPrice) (Wallet.TurnMeans symbol markPrice) w w.orderList

/-- Nothing is filled: the wallet is halted, or no order is due at its turn. -/
def Wallet.NothingDue (symbol : Symbol) (markPrice : Decimal) (w : Wallet) : Prop :=
  w.halted = false → AllOk (Wallet.evaluateOrder symbol markPrice)
    (fun w order => ¬ w.Due symbol markPrice order) w w.orderList

/-- **After any run of a paper wallet, `evaluate_pending_orders` gives every
order it fills the effect it is to have exactly if it fills none.** -/
theorem Wallet.evaluationMeans_iff (init : WalletInit) (clock : Nat → Nat) (redisUp : Bool)
    (ops : List PaperOp) (symbol : Symbol) (markPrice : Decimal) :
    let w := ops.foldl PaperOp.run (Wallet.boot init clock {} redisUp)
    w.EvaluationMeans symbol markPrice ↔ w.NothingDue symbol markPrice := by
  intro w
  have hturns : AllOk (Wallet.evaluateOrder symbol markPrice) (Wallet.TurnMeans symbol markPrice) w
      w.orderList ↔ AllOk (Wallet.evaluateOrder symbol markPrice)
        (fun w order => ¬ w.Due symbol markPrice order) w w.orderList :=
    AllOk.congr w.orderList (fun v order _ hv => turnMeans_iff hv symbol markPrice order)
      (fun v order _ hv _ =>
        ((Wallet.KeepsWorth.refl hv : Wallet.KeepsWorth none v v).evaluateOrder symbol markPrice
          order).aligned)
      (Wallet.aligned_run init clock redisUp ops)
  unfold EvaluationMeans NothingDue
  rw [hturns]

/-- A take-profit on the exit side of a long of ten units, two units of it: the
mark is far below its price, it is filled all the same, and the position keeps
its ten units. -/
def demoTakeProfit : List PaperOp :=
  demoBought 10 ++ [.call (.placePendingOrder
    { symbol := demoSymbol, side := .short, quantity := 2, orderType := .takeProfit,
      reduceOnly := true, triggerPrice := some 110 })]

theorem Wallet.evaluation_not_means :
    ¬ (demoTakeProfit.foldl PaperOp.run
      (Wallet.boot demoInit (fun n => n) {} false)).EvaluationMeans demoSymbol 100 := by
  intro h
  have hturns := h (by decide +kernel)
  have hmoved : AllOk (Wallet.evaluateOrder demoSymbol 100)
      (fun w order => ∀ p ∈ w.fillsOf (w.evaluateOrder demoSymbol 100 order),
        (w.evaluateOrder demoSymbol 100 order).exposure (w.currentOrder order).symbol =
          w.exposure (w.currentOrder order).symbol + (w.currentOrder order).side.sign * p.quantity)
      _ _ :=
    @AllOk.of_inv _ _ _ _ _ (fun _ => True) _
      (fun _ _ _ _ hturn => ⟨fun p hp => (hturn p hp).exposure, trivial⟩) _ trivial hturns
  revert hmoved
  decide +kernel

end CryptoTrader
