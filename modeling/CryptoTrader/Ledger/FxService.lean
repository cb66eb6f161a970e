import CryptoTrader.Engine.OrderSize
import CryptoTrader.Ledger.Service
import CryptoTrader.Lib.PyValue

/-!
# The FX rate service

`FXService` of `ledger/fx_service.py`, with the table of rates it and `convert`
write.  A world also keeps every entry a rate was ever read from, and when: the
service does not look at these.
-/

namespace CryptoTrader.Fx

open CryptoTrader.Lib

/-- An `FxRate` from INR to USDT. -/
structure FxRate where
  bid : PyFloat
  ask : PyFloat
  mid : PyFloat
  capturedAt : ℤ
  deriving DecidableEq

def FxRate.isStale (rate : FxRate) (now maxAgeMs : ℤ) : Bool := maxAgeMs < now - rate.capturedAt

/-- The service on a database; its spread is a share of the price. -/
structure FXService where
  backend : Backend
  maxAgeMs : ℤ := 90000
  spread : ℚ := 1 / 1000
  /-- `Decimal(str(v))`; nothing where it raises. -/
  decimal : PyValue → Option PyFloat
  spread_nonneg : 0 ≤ spread := by norm_num
  spread_le_one : spread ≤ 1 := by norm_num

/-! ## The ticker -/

/-- The entry of a pair. -/
abbrev Entry := List (String × PyValue)

/-- `entry.get(key)`. -/
def field (entry : Entry) (key : String) : PyValue := (PyValue.lookup entry key).getD .none

/-- `PAIR`. -/
def pair : String := "USDTINR"

def isPair : PyValue → Bool
  | .str s => s = pair
  | _ => false

/-- The pair's entry; nothing where looking for it, or reading it, raises. -/
def findEntry : PyValue → Option Entry
  | .list tickers =>
      tickers.findSome? (fun t =>
        match t with
        | .dict entry => if isPair (field entry "market") then some entry else none
        | _ => none)
  | .dict tickers =>
      match field tickers pair with
      | .dict entry => some entry
      | _ => none
  | _ => none

namespace FXService

variable (svc : FXService)

/-- The first of some fields that is not empty, as a decimal, and else `0`. -/
def price (entry : Entry) (keys : List String) : Option PyFloat :=
  svc.decimal (((keys.map (field entry)).find? PyValue.truthy).getD (.int 0))

/-- `x <= 0`; comparing `nan` raises. -/
def notPositive : PyFloat → Option Bool
  | .nan => none
  | x => some (x.le (.fin 0))

/-- `bid` and `ask` on either side of a price. -/
def around (midPrice : ℚ) : PyFloat × PyFloat :=
  let half := decimalContext.round (decimalContext.round (midPrice * svc.spread) / 2)
  (.fin (decimalContext.round (midPrice - half)), .fin (decimalContext.round (midPrice + half)))

/-- The sides made of the last price; half of an infinite one cannot be taken off
it. -/
def synthesise : PyFloat → Option (PyFloat × PyFloat)
  | .fin last => some (svc.around (if 0 < last then last else 85))
  | .negInf => some (svc.around 85)
  | _ => none

/-- `bid` and `ask` of an entry. -/
def sides (entry : Entry) : Option (PyFloat × PyFloat) := do
  let bid ← svc.price entry ["bid", "last_price"]
  let ask ← svc.price entry ["ask", "last_price"]
  let last ← svc.price entry ["last_price", "last"]
  let missing ← if ← notPositive bid then some true else notPositive ask
  if missing then svc.synthesise last else some (bid, ask)

/-- `(bid + ask) / 2` of positive sides. -/
def midOf : PyFloat → PyFloat → PyFloat
  | .fin bid, .fin ask => .fin (decimalContext.round (decimalContext.round (bid + ask) / 2))
  | _, _ => .posInf

/-- `_fetch_from_coindcx`, with the entry it read; no tickers are a request that
failed. -/
def fetchFromCoindcx (tickers : Option PyValue) (now : ℤ) : Option (Entry × FxRate) := do
  let entry ← findEntry (← tickers)
  let (bid, ask) ← svc.sides entry
  some (entry, { bid, ask, mid := midOf bid ask, capturedAt := now })

/-! ## The table -/

/-- What a column stores for a number; nothing where it raises. -/
def column : PyFloat → Option PyFloat
  | .fin x => (svc.backend.column x).toOption.map .fin
  | x => if svc.backend = .sqlite then some x else none

/-- The row of a rate. -/
def row (rate : FxRate) : Option FxRate := do
  let bid ← svc.column rate.bid
  let ask ← svc.column rate.ask
  let mid ← svc.column rate.mid
  some { bid, ask, mid, capturedAt := rate.capturedAt }

end FXService

/-- An entry the venue reported. -/
structure Report where
  time : ℤ
  entry : Entry

/-- The cache, the table `fx_rates`, and the reports so far. -/
structure World where
  cache : Option FxRate := none
  rows : List FxRate := []
  reports : List Report := []

/-- The clock as a call reads it: at first, for the rate it fetches, and at last. -/
structure Clock where
  before : ℤ
  fetched : ℤ
  after : ℤ

/-- What a refresh meets: the tickers, and whether the table can be written. -/
structure Response where
  tickers : Option PyValue
  persists : Bool

namespace FXService

variable (svc : FXService) (w : World)

/-- The rates of the newest rows; which of them the query returns is not fixed. -/
def newest : List FxRate :=
  w.rows.filter (fun rate => w.rows.all (fun other => other.capturedAt ≤ rate.capturedAt))

/-- `_persist`. -/
def persist (rate : FxRate) (persists : Bool) : World :=
  { w with rows := w.rows ++ if persists then (svc.row rate).toList else [] }

/-- `_refresh`; nothing where it raises. -/
def refresh (now : ℤ) (resp : Response) : Option World :=
  (svc.fetchFromCoindcx resp.tickers now).map (fun (entry, rate) =>
    svc.persist
      { w with cache := some rate, reports := w.reports ++ [⟨now, entry⟩] } rate resp.persists)

/-- The end of `get_rate`; nothing where it raises. -/
def checked (allowStale : Bool) (now : ℤ) : Option FxRate :=
  w.cache.filter (fun rate => allowStale ∨ ¬ rate.isStale now svc.maxAgeMs)

/-- `get_rate`: what it returns, if it does not raise, and the world after it. -/
def getRate (allowStale : Bool) (clock : Clock) (resp : Response) : Option FxRate × World :=
  if w.cache.all (fun rate => rate.isStale clock.before svc.maxAgeMs) then
    match svc.refresh w clock.fetched resp with
    | some w' => (svc.checked w' allowStale clock.after, w')
    | none => (w.cache.filter (fun _ => allowStale), w)
  else (svc.checked w allowStale clock.after, w)

/-- `get_latest_persisted`; the index stands for the query's choice, and one out of
range for its failure. -/
def getLatestPersisted (maxAgeMs now : ℤ) (choice : ℕ) : Option FxRate :=
  ((newest w)[choice]?).filter (fun rate => ¬ rate.isStale now maxAgeMs)

/-- `warm_start`. -/
def warmStart (now : ℤ) (choice : ℕ) : World :=
  match getLatestPersisted w 300000 now choice with
  | some rate => { w with cache := some rate }
  | none => w

/-- The rate of a conversion, which `convert` writes to the table. -/
def convertAt (clock : Clock) (resp : Response) (saves : Bool) : World :=
  match svc.getRate w false clock resp with
  | (some rate, w') => svc.persist w' rate saves
  | (none, w') => w'

end FXService

/-! ## Runs -/

/-- What happens to a service: `ask`, `bid`, `mid` and the two conversions are
`getRate false`; a restart begins with an empty cache. -/
inductive Event where
  | getRate (allowStale : Bool) (clock : Clock) (resp : Response)
  | forceRefresh (now : ℤ) (resp : Response)
  | warmStart (now : ℤ) (choice : ℕ)
  | convert (clock : Clock) (resp : Response) (saves : Bool)
  | restart

def FXService.step (svc : FXService) (w : World) : Event → World
  | .getRate allowStale clock resp => (svc.getRate w allowStale clock resp).2
  | .forceRefresh now resp => (svc.refresh w now resp).getD w
  | .warmStart now choice => FXService.warmStart w now choice
  | .convert clock resp saves => svc.convertAt w clock resp saves
  | .restart => { w with cache := none }

def FXService.run (svc : FXService) (events : List Event) : World := events.foldl svc.step {}

end CryptoTrader.Fx
