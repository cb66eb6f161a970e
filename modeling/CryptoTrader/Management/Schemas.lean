import CryptoTrader.Lib.PyValue
import CryptoTrader.Wallet.Types

/-!
# The contracts of position management

The records of `position_management/schemas.py`, as far as the policy guard and
the executor read them.  The state of a position, of the wallet and of the
market are numbers; the parameters of a decision are floats, because a language
model can write `NaN` and `Infinity`.
-/

namespace CryptoTrader

open CryptoTrader.Lib

inductive PositionActionType where
  | keepOpen
  | tightenSl
  | loosenSl
  | moveSlToBreakeven
  | trailSl
  | takePartialProfit
  | fullExit
  | scaleIn
  | scaleOut
  | reverseAndReopen
  | holdAndMonitor
  | pauseManagement
  deriving DecidableEq, Repr

/-- `str(action.value)`. -/
def PositionActionType.value : PositionActionType → String
  | .keepOpen => "KEEP_OPEN"
  | .tightenSl => "TIGHTEN_SL"
  | .loosenSl => "LOOSEN_SL"
  | .moveSlToBreakeven => "MOVE_SL_TO_BREAKEVEN"
  | .trailSl => "TRAIL_SL"
  | .takePartialProfit => "TAKE_PARTIAL_PROFIT"
  | .fullExit => "FULL_EXIT"
  | .scaleIn => "SCALE_IN"
  | .scaleOut => "SCALE_OUT"
  | .reverseAndReopen => "REVERSE_AND_REOPEN"
  | .holdAndMonitor => "HOLD_AND_MONITOR"
  | .pauseManagement => "PAUSE_MANAGEMENT"

def PositionActionType.all : List PositionActionType :=
  [.keepOpen, .tightenSl, .loosenSl, .moveSlToBreakeven, .trailSl, .takePartialProfit, .fullExit,
    .scaleIn, .scaleOut, .reverseAndReopen, .holdAndMonitor, .pauseManagement]

/-- `PositionActionType(s)`; nothing where it raises. -/
def PositionActionType.ofValue (s : String) : Option PositionActionType :=
  PositionActionType.all.find? (fun action => action.value = s)

/-! ## State -/

structure PositionSnapshot where
  symbol : Symbol
  side : PositionSide
  qty : Decimal
  entryPrice : Decimal
  ltp : Decimal
  unrealizedPnl : Decimal
  stopLoss : Decimal
  rMultiple : Decimal := 0
  atrPct : Decimal := 0
  isStale : Bool := false

structure MarketContext where
  isStale : Bool := false

structure WalletContext where
  equity : Decimal := 0
  freeCapital : Decimal := 0

structure PortfolioContext where
  maxTotalRisk : Decimal := 0
  currentTotalRisk : Decimal := 0

structure PositionConstraints where
  allowScaleIn : Bool := false
  allowAverageDown : Bool := false
  allowLoosenSl : Bool := false
  trailAtrMultiplier : Decimal := 15 / 10

structure PositionManagementInput where
  position : PositionSnapshot
  market : MarketContext := {}
  wallet : WalletContext := {}
  portfolio : PortfolioContext := {}
  constraints : PositionConstraints := {}

/-- Neither feed is to be acted on. -/
def PositionManagementInput.stale (inp : PositionManagementInput) : Bool :=
  inp.position.isStale || inp.market.isStale

/-! ## Decisions -/

structure ExecutionParams where
  type : String
  newStopLoss : Option PyFloat := none
  newTakeProfit : Option PyFloat := none
  exitQtyPct : Option PyFloat := none
  scaleQtyPct : Option PyFloat := none
  trailDistancePct : Option PyFloat := none
  deriving DecidableEq

/-- `ExecutionParams(type="keep")`. -/
def ExecutionParams.keep : ExecutionParams := { type := "keep" }

structure PositionManagementDecision where
  action : PositionActionType
  confidence : Decimal
  execution : ExecutionParams := .keep
  fallback : PositionActionType := .holdAndMonitor
  deriving DecidableEq

structure PolicyDecision where
  approved : Bool
  action : PositionActionType
  originalAction : PositionActionType
  rejectionReason : Option String := none
  modifiedParams : Option ExecutionParams := none
  hardRuleTriggered : Option String := none
  deriving DecidableEq

/-- Actions that are for tightening the stop. -/
def PositionActionType.tightens : PositionActionType → Bool
  | .tightenSl | .trailSl | .moveSlToBreakeven => true
  | _ => false

/-- Actions that are for the stop. -/
def PositionActionType.modifiesSl : PositionActionType → Bool
  | .loosenSl => true
  | action => action.tightens

/-- Actions that are for leaving the position, in part or in full. -/
def PositionActionType.exits : PositionActionType → Bool
  | .takePartialProfit | .fullExit | .scaleOut | .reverseAndReopen => true
  | _ => false

/-- Actions that ask for nothing to be done. -/
def PositionActionType.passive : PositionActionType → Bool
  | .keepOpen | .holdAndMonitor | .pauseManagement => true
  | _ => false

end CryptoTrader
