import CryptoTrader.Exchange.Instrument

/-!
# The venue

What is exchanged with CoinDCX.  A `Venue` answers each request as a function
of everything exchanged before, so a statement about all venues is a statement
about every behaviour.  Next to the reply, which is all the code reads, an
outcome tells what the venue really did: a create call can time out after the
order was taken, and a reply can claim what did not happen.

A reply is the body after the reads the source makes of it; a body on which
one of these reads raises is an error reply.  The body of `create_tpsl`, whose
shape the source tests, stays a JSON value.
-/

namespace CryptoTrader

/-- A parsed JSON body.  The keys of an object are distinct. -/
inductive Json where
  | null
  | bool (b : Bool)
  | num (q : Decimal)
  | str (s : String)
  | arr (xs : List Json)
  | obj (fields : List (String × Json))

/-- `d.get(key)`; `None` for a missing key and for a value that is no dict. -/
def Json.get (json : Json) (key : String) : Json :=
  match json with
  | .obj fields => ((fields.find? (fun field => field.1 = key)).map Prod.snd).getD .null
  | _ => .null

/-- `isinstance(v, dict)`. -/
def Json.isDict : Json → Bool
  | .obj _ => true
  | _ => false

/-- `v is False`. -/
def Json.isFalse : Json → Bool
  | .bool b => !b
  | _ => false

/-- `bool(v)`. -/
def Json.truthy : Json → Bool
  | .null => false
  | .bool b => b
  | .num q => q ≠ 0
  | .str s => s ≠ ""
  | .arr xs => !xs.isEmpty
  | .obj fields => !fields.isEmpty

mutual

/-- `repr(v)`, less the escapes inside strings. -/
def Json.pyRepr : Json → String
  | .null => "None"
  | .bool b => if b then "True" else "False"
  | .num q => toString q
  | .str s => "'" ++ s ++ "'"
  | .arr xs => "[" ++ ", ".intercalate (Json.pyReprs xs) ++ "]"
  | .obj fields => "\x7b" ++ ", ".intercalate (Json.pyReprFields fields) ++ "\x7d"

def Json.pyReprs : List Json → List String
  | [] => []
  | x :: xs => Json.pyRepr x :: Json.pyReprs xs

def Json.pyReprFields : List (String × Json) → List String
  | [] => []
  | (key, value) :: fields =>
      ("'" ++ key ++ "': " ++ Json.pyRepr value) :: Json.pyReprFields fields

end

/-- `str(v)`. -/
def Json.pyStr : Json → String
  | .str s => s
  | json => json.pyRepr

/-! ## Requests and replies -/

/-- The body of `orders/create`. -/
structure OrderBody where
  symbol : Symbol
  side : PositionSide
  orderType : OrderType
  totalQuantity : Decimal
  leverage : Leverage
  price : Option Decimal
  stopPrice : Option Decimal
  deriving DecidableEq

/-- What `_parse_order_response` reads. -/
structure OrderReply where
  id : String
  status : String := "open"
  totalQuantity : Decimal := 0
  avgPrice : Decimal := 0
  deriving DecidableEq

/-- What became of a create call.  `executed` is all the venue will ever
execute on the order. -/
structure OrderOutcome where
  accepted : Bool
  executed : Decimal
  reply : Except PyErr OrderReply

/-- What became of a cancel: whether an order was taken off the book. -/
structure CancelOutcome where
  removed : Bool
  reply : Except PyErr Unit

/-- An entry of the open-order list. -/
structure OrderRow where
  id : String
  symbol : Symbol
  status : String
  totalQuantity : Decimal
  remainingQuantity : Decimal
  deriving DecidableEq

/-- An entry of the trade list. -/
structure TradeRow where
  orderId : String
  price : Decimal
  quantity : Decimal
  deriving DecidableEq

/-- A row of the position list; `activePos` is signed. -/
structure PositionRow where
  symbol : Symbol
  positionId : String
  activePos : Decimal
  deriving DecidableEq

/-- The body of `positions/create_tpsl`, with the symbol the position id was
looked up for. -/
structure TpslRequest where
  positionId : String
  symbol : Symbol
  stopLoss : Decimal
  takeProfit : Option Decimal
  deriving DecidableEq

/-- What became of a `create_tpsl`: the id under which each leg rests, if the
venue took it. -/
structure TpslOutcome where
  stopId : Option String
  targetId : Option String
  reply : Except PyErr Json

/-- What became of a leverage update: whether the venue changed it. -/
structure LeverageOutcome where
  applied : Bool
  reply : Except PyErr Unit

/-- One exchange with the venue.  `held` notes the leverage of the position
the wallet held on the symbol when the order was sent. -/
inductive Interaction where
  | getSpec (symbol : Symbol) (failure : Option PyErr)
  | createOrder (order : OrderBody) (held : Option Leverage) (outcome : OrderOutcome)
  | cancelOrder (orderId : String) (outcome : CancelOutcome)
  | listOrders (reply : Except PyErr (List OrderRow))
  | listTrades (symbol : Symbol) (days : Nat) (reply : Except PyErr (List TradeRow))
  | listPositions (reply : Except PyErr (List PositionRow))
  | createTpsl (request : TpslRequest) (outcome : TpslOutcome)
  | updateLeverage (symbol : Symbol) (leverage : Leverage) (outcome : LeverageOutcome)

/-- A venue: its instruments, and its answers. -/
structure Venue where
  instrument : Symbol → InstrumentSpec
  initialLeverage : Symbol → Leverage
  getSpec : List Interaction → Symbol → Option PyErr
  createOrder : List Interaction → OrderBody → OrderOutcome
  cancelOrder : List Interaction → String → CancelOutcome
  listOrders : List Interaction → Except PyErr (List OrderRow)
  listTrades : List Interaction → Symbol → Nat → Except PyErr (List TradeRow)
  listPositions : List Interaction → Except PyErr (List PositionRow)
  createTpsl : List Interaction → TpslRequest → TpslOutcome
  updateLeverage : List Interaction → Symbol → Leverage → LeverageOutcome

end CryptoTrader
