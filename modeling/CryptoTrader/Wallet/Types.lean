import CryptoTrader.Lib.Dict
import Mathlib.Algebra.Order.Field.Rat
import Mathlib.Data.PNat.Notation
import Mathlib.Data.PNat.Basic

/-!
# The wallet's data model

The records of `wallet/_wallet.py`: sides, order states, the portfolio the
reducer rebuilds from events, the events themselves and the runtime
position.  A Python `Decimal` is a rational number and a millisecond clock
reading a natural number.  Where the source looks a key up in a `dict` with
a default, the field is an `Option` and the default stays with the reader.
-/

namespace CryptoTrader

open CryptoTrader.Lib

/-- `decimal.Decimal`, without the rounding of the 28-digit context. -/
abbrev Decimal := Rat

/-- A trading symbol.  The empty string is none: the source reads it as "use
the wallet's own symbol" and its reducer drops events that carry it. -/
structure Symbol where
  name : String
  nonempty : name ≠ ""
  deriving DecidableEq, Repr

/-- A leverage multiple.  The source divides by it wherever it books a
position, so zero is excluded by the type. -/
abbrev Leverage := ℕ+

/-- `10` is a leverage. -/
instance ten_neZero : NeZero (10 : ℕ) := ⟨by decide⟩

inductive PositionSide where
  | long
  | short
  deriving DecidableEq, Repr

/-- `str(PositionSide.…)`. -/
def PositionSide.pyStr : PositionSide → String
  | .long => "PositionSide.LONG"
  | .short => "PositionSide.SHORT"

/-- The side whose market order reduces a position. -/
def PositionSide.exitSide : PositionSide → PositionSide
  | .long => .short
  | .short => .long

/-- `+1` for a long and `-1` for a short. -/
def PositionSide.sign : PositionSide → Decimal
  | .long => 1
  | .short => -1

inductive Playbook where
  | intraday
  | swing
  deriving DecidableEq, Repr

inductive Mode where
  | paper
  | live
  deriving DecidableEq, Repr

/-- Origin of a position: opened by a strategy signal, or found on the venue. -/
inductive Source where
  | bot
  | manual
  deriving DecidableEq, Repr

inductive OrderStatus where
  | new
  | pending
  | filled
  | partiallyFilled
  | cancelled
  | rejected
  | expired
  deriving DecidableEq, Repr

inductive OrderType where
  | market
  | limit
  | stopMarket
  | takeProfit
  deriving DecidableEq, Repr

inductive Severity where
  | info
  | warning
  | critical
  | fatal
  deriving DecidableEq, Repr

/-- One take-profit level of a setup or a position. -/
structure TpLevel where
  price : Decimal
  pct : Decimal
  hit : Bool
  label : String
  deriving DecidableEq, Repr

/-- Ids of the resting protective orders, `{"sl": id, "tp": id}`. -/
structure ProtectiveOrders where
  sl : Option String
  tp : Option String
  deriving DecidableEq, Repr

/-- `{}`. -/
def ProtectiveOrders.none : ProtectiveOrders := ⟨Option.none, Option.none⟩

/-- `bool(protective_orders)`. -/
def ProtectiveOrders.any (p : ProtectiveOrders) : Bool := p.sl.isSome || p.tp.isSome

/-! ## Portfolio state of the reducer -/

/-- An entry of `PortfolioState.orders`. -/
structure OrderData where
  symbol : Symbol
  side : PositionSide
  quantity : Decimal
  filledQuantity : Decimal
  remainingQuantity : Decimal
  avgFillPrice : Decimal
  status : OrderStatus
  orderType : OrderType
  reduceOnly : Bool
  triggerPrice : Option Decimal
  limitPrice : Option Decimal
  expiresAt : Option Nat
  deriving DecidableEq

/-- An entry of `PortfolioState.open_positions`.  A state read back from a
snapshot lacks the keys from `protectiveOrders` to `openedExternally`; a
position no `_save_state` has seen lacks the last two. -/
structure PositionData where
  entryPrice : Decimal
  quantity : Decimal
  margin : Decimal
  side : PositionSide
  playbook : Playbook
  slPrice : Decimal
  leverage : Leverage
  openTime : Nat
  tpLevels : List TpLevel
  trailingActive : Bool
  protectiveOrders : Option ProtectiveOrders
  mode : Option Mode
  source : Option Source
  openedExternally : Option Bool
  highestPrice : Option Decimal
  peakPnlPct : Option Decimal
  deriving DecidableEq

/-- Payload of `ORDER_FILLED` (status filled) and `ORDER_PARTIALLY_FILLED`. -/
structure FillPayload where
  orderId : String
  symbol : Symbol
  side : PositionSide
  quantity : Decimal
  fillPrice : Decimal
  fee : Decimal
  status : OrderStatus
  sequence : Nat
  deriving DecidableEq

/-- What an invariant rule reports about a violation. -/
inductive ViolationContext where
  | equity (expected actual diff : Decimal)
  | sumFills (orderId : String) (sumFills orderQty : Decimal)
  | overFilled (orderId : String) (filledQuantity orderQty : Decimal)
  | orderRemaining (orderId : String) (remaining : Decimal)
  | positionRemaining (symbol : Symbol) (positionRemaining : Decimal)
  | availableMargin (availableMargin : Decimal)
  | reduceOnlyWithoutPosition (symbol : Symbol) (reason : String) (orders : List String)
  | reduceOnlySide (symbol : Symbol) (orderId reason : String)
  | reduceOnlyTotal (symbol : Symbol) (reason : String) (totalReduceQty positionQty : Decimal)
      (orders : List String)
  deriving DecidableEq

/-- Payload of `INVARIANT_VIOLATION`. -/
structure Violation where
  ruleName : String
  severity : Severity
  context : ViolationContext
  deriving DecidableEq

structure PortfolioState where
  walletBalance : Decimal := 0
  realizedPnlTotal : Decimal := 0
  openPositions : Dict Symbol PositionData := Dict.empty
  orders : Dict String OrderData := Dict.empty
  fills : List FillPayload := []
  fundingTotal : Decimal := 0
  violations : List Violation := []
  lastTs : Nat := 0
  eventsApplied : Nat := 0
  deriving DecidableEq

/-! ## Events -/

/-- Payload of `ORDER_CREATED`. -/
structure OrderPayload where
  orderId : String
  symbol : Symbol
  side : PositionSide
  quantity : Decimal
  status : OrderStatus
  orderType : OrderType
  reduceOnly : Bool
  triggerPrice : Option Decimal
  limitPrice : Option Decimal
  expiresAt : Option Nat
  deriving DecidableEq

/-- Payload of `POSITION_OPENED` and `POSITION_ADOPTED`. -/
structure OpenPayload where
  symbol : Symbol
  side : PositionSide
  entryPrice : Decimal
  quantity : Decimal
  margin : Decimal
  executionPrice : Decimal
  fee : Decimal
  playbook : Playbook
  slPrice : Decimal
  leverage : Leverage
  openTime : Nat
  tpLevels : List TpLevel
  mode : Option Mode
  source : Option Source
  openedExternally : Option Bool
  deriving DecidableEq

/-- Payload of `POSITION_PARTIALLY_CLOSED`. -/
structure PartialPayload where
  symbol : Symbol
  reason : String
  pct : Decimal
  price : Decimal
  pnl : Decimal
  fee : Decimal
  closedQty : Decimal
  tpLabel : Option String
  deriving DecidableEq

/-- Payload of `POSITION_CLOSED` and `LIQUIDATION`. -/
structure ClosePayload where
  symbol : Symbol
  side : PositionSide
  closePrice : Decimal
  fee : Decimal
  reason : String
  remainingPnl : Decimal
  deriving DecidableEq

/-- An event's type together with its payload. -/
inductive Payload where
  | walletInitialized (initialBalance : Decimal)
  | orderCreated (p : OrderPayload)
  | orderFilled (p : FillPayload)
  | orderCancelled (orderId reason : String)
  | orderRejected (orderId : String) (symbol : Option Symbol) (reason : String)
  | orderExpired (orderId : String)
  | positionOpened (p : OpenPayload)
  | positionAdopted (p : OpenPayload)
  | positionPartiallyClosed (p : PartialPayload)
  | slAdjusted (symbol : Symbol) (slPrice : Decimal)
  | trailingStopActivated (symbol : Symbol)
  | positionClosed (p : ClosePayload)
  | liquidation (p : ClosePayload)
  | fundingApplied (symbol : Symbol) (rate notional amount : Decimal)
  | feeCharged (amount : Decimal) (reason : String) (symbol : Symbol)
  | tdsCharged (amount : Decimal) (reason : String) (symbol : Symbol)
  | protectiveOrdersPlaced (symbol : Symbol) (placed : ProtectiveOrders)
  | protectiveOrdersCancelled (symbol : Symbol)
  | invariantViolation (v : Violation)
  | leverageAdjusted (symbol : Symbol) (oldLeverage newLeverage : Leverage)
  deriving DecidableEq

/-- A row of the event log. -/
structure Event where
  ts : Nat
  symbol : Symbol
  namespace_ : String
  payload : Payload
  deriving DecidableEq

/-- The exceptions the modelled code raises.  A `coinDcxError` has the status of
the response when there was one.  `requestError` is any other exception of the
HTTP client: a timeout, a lost connection, an open circuit breaker.
`databaseError` is one of the database driver. -/
inductive PyErr where
  | divisionByZero
  | valueError (msg : String)
  | runtimeError (msg : String)
  | assertionError (msg : String)
  | coinDcxError (msg : String) (status : Option Nat := none)
  | liveTradingBlocked (msg : String)
  | requestError (msg : String)
  | databaseError (msg : String)
  | typeError (msg : String)
  | attributeError (msg : String)
  | overflowError (msg : String)
  deriving DecidableEq, Repr

/-- `str(e)`. -/
def PyErr.pyStr : PyErr → String
  | .divisionByZero => "[<class 'decimal.DivisionByZero'>]"
  | .valueError msg => msg
  | .runtimeError msg => msg
  | .assertionError msg => msg
  | .coinDcxError msg _ => msg
  | .liveTradingBlocked msg => msg
  | .requestError msg => msg
  | .databaseError msg => msg
  | .typeError msg => msg
  | .attributeError msg => msg
  | .overflowError msg => msg

/-! ## Runtime position -/

inductive PositionStatus where
  | opened
  | closed
  deriving DecidableEq, Repr

/-- `EnhancedPosition`, less the trailing watermarks that no wallet
operation reads. -/
structure EnhancedPosition where
  symbol : Symbol
  side : PositionSide
  playbook : Playbook
  entryPrice : Decimal
  originalQuantity : Decimal
  remainingQuantity : Decimal
  notional : Decimal
  marginUsed : Decimal
  leverage : Leverage
  openTime : Nat
  slPrice : Decimal
  tpLevels : List TpLevel
  trailingActive : Bool := false
  timeStopHours : Int := 18
  unrealizedPnl : Decimal := 0
  partialRealizedPnl : Decimal := 0
  status : PositionStatus := .opened
  closeTime : Option Nat := none
  closePrice : Option Decimal := none
  closeReason : Option String := none
  highestPrice : Decimal := entryPrice
  peakPnlPct : Decimal := 0
  feesPaid : Decimal := 0
  fundingPaid : Decimal := 0
  tdsPaid : Decimal := 0
  protectiveOrders : ProtectiveOrders := .none
  mode : Mode := .paper
  source : Source := .bot
  openedExternally : Bool := false
  deriving DecidableEq

/-- Profit per unit of a position on `side` entered at `entry`, at `price`. -/
def PositionSide.gain (side : PositionSide) (entry price : Decimal) : Decimal :=
  match side with
  | .long => price - entry
  | .short => entry - price

theorem PositionSide.gain_eq (side : PositionSide) (entry price : Decimal) :
    side.gain entry price = side.sign * (price - entry) := by
  cases side
  · simp [gain, sign]
  · simp [gain, sign]

/-- `EnhancedPosition.update_pnl`: a closed position and a mark that is not
positive leave everything as it was, the old unrealized PnL included. -/
def EnhancedPosition.updatePnl (pos : EnhancedPosition) (markPrice : Decimal) :
    EnhancedPosition :=
  if pos.status ≠ .opened ∨ markPrice ≤ 0 then pos
  else
    let notional := pos.remainingQuantity * markPrice
    let unrealizedPnl := pos.side.gain pos.entryPrice markPrice * pos.remainingQuantity
    let highestPrice :=
      match pos.side with
      | .long => if markPrice > pos.highestPrice then markPrice else pos.highestPrice
      | .short => if markPrice < pos.highestPrice then markPrice else pos.highestPrice
    let currentPnlPct := unrealizedPnl / (pos.entryPrice * pos.remainingQuantity)
    let peakPnlPct :=
      if pos.entryPrice > 0 ∧ pos.remainingQuantity > 0 ∧ currentPnlPct > pos.peakPnlPct
      then currentPnlPct else pos.peakPnlPct
    { pos with
      notional := notional
      marginUsed := notional / (pos.leverage : ℕ)
      unrealizedPnl := unrealizedPnl
      highestPrice := highestPrice
      peakPnlPct := peakPnlPct }

section UpdatePnl

variable (pos : EnhancedPosition) (markPrice : Decimal)

/-- `update_pnl` touches the mark-dependent fields only. -/
theorem EnhancedPosition.updatePnl_frame :
    let pos' := pos.updatePnl markPrice
    pos'.symbol = pos.symbol ∧ pos'.side = pos.side ∧ pos'.entryPrice = pos.entryPrice ∧
      pos'.remainingQuantity = pos.remainingQuantity ∧ pos'.status = pos.status ∧
      pos'.feesPaid = pos.feesPaid ∧ pos'.tdsPaid = pos.tdsPaid ∧
      pos'.slPrice = pos.slPrice ∧ pos'.leverage = pos.leverage ∧
      pos'.protectiveOrders = pos.protectiveOrders := by
  unfold updatePnl
  split <;> simp

/-- On an open position and a positive mark the unrealized PnL is exact. -/
theorem EnhancedPosition.updatePnl_unrealizedPnl (hopen : pos.status = .opened)
    (hmark : 0 < markPrice) :
    (pos.updatePnl markPrice).unrealizedPnl =
      pos.side.gain pos.entryPrice markPrice * pos.remainingQuantity := by
  have hguard : ¬ (pos.status ≠ .opened ∨ markPrice ≤ 0) := by
    rintro (h | h)
    · exact h hopen
    · exact absurd hmark (not_lt.mpr h)
  rw [updatePnl, if_neg hguard]

/-- A mark that is not positive leaves the position alone. -/
theorem EnhancedPosition.updatePnl_of_nonpos (hmark : markPrice ≤ 0) :
    pos.updatePnl markPrice = pos := by
  rw [updatePnl, if_pos (Or.inr hmark)]

end UpdatePnl

end CryptoTrader
