import CryptoTrader.Lib.PyValue
import CryptoTrader.Lib.Run

/-!
# The price feed and its readers

`BinanceWebSocketFeed`, `WebSocketPositionManager._monitor_loop` and the price
selection of `_execute_entry` (`ws_client.py`, `engine_ws.py`).  The feed's
thread, the monitor's thread and the entry path take their steps one after
another in any order; a step of a reader is what it does under one lock, or
between two locks.

Beside the feed's own fields, the model keeps the messages each price on record
was computed from, with the time and the connection they were received in.
-/

namespace CryptoTrader.PriceFeed

open CryptoTrader.Lib

/-! ## Messages -/

/-- A message of the combined stream.  A field is what `float` or `int` makes of
it, `none` where the conversion raises. -/
inductive Message where
  | markPrice (p i r : Option PyFloat) (T : Option ℤ)
  | bookTicker (b B a A : Option PyFloat)
  | aggTrade (p q : Option PyFloat)
  /-- candles, the day's statistics, and what no handler takes -/
  | other
  /-- what `json.loads` or the test for the stream's name raises on -/
  | malformed

/-- No conversion of the message's handler raises. -/
def Message.Complete : Message → Prop
  | .markPrice p i r T => p.isSome ∧ i.isSome ∧ r.isSome ∧ T.isSome
  | .bookTicker b B a A => b.isSome ∧ B.isSome ∧ a.isSome ∧ A.isSome
  | .aggTrade p q => p.isSome ∧ q.isSome
  | .other | .malformed => True

/-- `price > 0`. -/
def positive (price : PyFloat) : Bool := PyFloat.lt (.fin 0) price

/-- `(best_ask + best_bid) / 2`. -/
def mid (bid ask : PyFloat) : PyFloat := PyFloat.scale (1 / 2) (PyFloat.add ask bid)

/-! ## The feed -/

/-- The fields of `WSMarketData` that the prices and their ages depend on. -/
structure WSMarketData where
  markPrice : PyFloat := .fin 0
  bestBid : PyFloat := .fin 0
  bestAsk : PyFloat := .fin 0
  lastPrice : PyFloat := .fin 0
  lastUpdateMs : ℤ := 0
  isConnected : Bool := false
  connectedAtMs : ℤ := 0
  lastPriceTimeMs : ℤ := 0
  bookTickerTimeMs : ℤ := 0
  markPriceTimeMs : ℤ := 0

namespace WSMarketData

variable (data : WSMarketData) (now : ℤ)

/-- `_on_open`. -/
def onOpen : WSMarketData := { data with isConnected := true, connectedAtMs := now }

/-- `_on_close`: best bid and ask stay. -/
def onClose : WSMarketData :=
  { data with
    isConnected := false
    lastPrice := .fin 0
    markPrice := .fin 0
    lastPriceTimeMs := 0
    bookTickerTimeMs := 0
    markPriceTimeMs := 0 }

/-- `_handle_mark_price`; a conversion that raises ends it where it stands. -/
def handleMarkPrice (p i r : Option PyFloat) (T : Option ℤ) : WSMarketData :=
  match p with
  | none => data
  | some price =>
      if positive price then
        if i.isSome && r.isSome && T.isSome then
          { data with markPrice := price, markPriceTimeMs := now }
        else { data with markPrice := price }
      else data

/-- A missing last or mark price is initialised from the book ticker. -/
def seed (bid ask : PyFloat) : WSMarketData :=
  if positive bid && positive ask then
    let seeded := if data.lastPrice = .fin 0 then
      { data with lastPrice := mid bid ask, lastPriceTimeMs := now } else data
    if data.markPrice = .fin 0 then
      { seeded with markPrice := mid bid ask, markPriceTimeMs := now } else seeded
  else data

/-- `_handle_book_ticker`; a conversion that raises ends it where it stands. -/
def handleBookTicker (b B a A : Option PyFloat) : WSMarketData :=
  match b, B, a, A with
  | none, _, _, _ => data
  | some bid, none, _, _ | some bid, some _, none, _ => { data with bestBid := bid }
  | some bid, some _, some ask, none => { data with bestBid := bid, bestAsk := ask }
  | some bid, some _, some ask, some _ =>
      seed { data with bestBid := bid, bestAsk := ask, bookTickerTimeMs := now } now bid ask

/-- `_handle_agg_trade`; a conversion that raises ends it where it stands. -/
def handleAggTrade (p q : Option PyFloat) : WSMarketData :=
  match p with
  | none => data
  | some price =>
      if positive price then
        if q.isSome then { data with lastPrice := price, lastPriceTimeMs := now }
        else { data with lastPrice := price }
      else data

/-- `_on_message` with `_route_message`. -/
def onMessage (m : Message) : WSMarketData :=
  let received := { data with lastUpdateMs := now }
  match m with
  | .markPrice p i r T => received.handleMarkPrice now p i r T
  | .bookTicker b B a A => received.handleBookTicker now b B a A
  | .aggTrade p q => received.handleAggTrade now p q
  | .other => received
  | .malformed => data

/-- `get_mid_price`. -/
def getMidPrice : PyFloat :=
  if positive data.bestAsk && positive data.bestBid then mid data.bestBid data.bestAsk
  else data.markPrice

/-- `get_ltp`. -/
def getLtp : PyFloat :=
  if positive data.lastPrice && now - data.lastPriceTimeMs < 10000 then data.lastPrice
  else if positive data.getMidPrice && now - data.bookTickerTimeMs < 10000 then data.getMidPrice
  else if positive data.markPrice && now - data.markPriceTimeMs < 10000 then data.markPrice
  else if positive data.lastPrice then data.lastPrice
  else if positive data.getMidPrice then data.getMidPrice
  else data.markPrice

/-- `_GRACE_MS`. -/
def graceMs : ℤ := 20000

/-- `is_connected`. -/
def connected : Bool :=
  data.isConnected &&
    ((data.lastUpdateMs ≠ 0 && now - data.lastUpdateMs < graceMs) ||
      (data.connectedAtMs ≠ 0 && now - data.connectedAtMs < graceMs))

/-- `data_age_ms`. -/
def dataAgeMs : Option ℤ :=
  let ts := max (max data.lastPriceTimeMs data.bookTickerTimeMs) data.markPriceTimeMs
  if ts ≤ 0 then none else some (now - ts)

/-- `is_fresh`. -/
def isFresh (maxAgeMs : ℤ) : Bool :=
  match data.dataAgeMs now with
  | none => false
  | some age => age ≤ maxAgeMs

end WSMarketData

/-! ## Where a price comes from -/

/-- A message as it was received: when, and after how many disconnects. -/
structure Arrival where
  message : Message
  time : ℤ
  closes : ℕ

/-- A price is the one these messages give. -/
inductive Computed : PyFloat → List Arrival → Prop where
  | trade {price : PyFloat} {q : Option PyFloat} {arrival : Arrival}
      (h : arrival.message = .aggTrade (some price) q) : Computed price [arrival]
  | mark {price : PyFloat} {i r : Option PyFloat} {T : Option ℤ} {arrival : Arrival}
      (h : arrival.message = .markPrice (some price) i r T) : Computed price [arrival]
  | mid {bid ask : PyFloat} {B a b' B' A A' : Option PyFloat} {bidArrival askArrival : Arrival}
      (hbid : bidArrival.message = .bookTicker (some bid) B a A)
      (hask : askArrival.message = .bookTicker b' B' (some ask) A') :
      Computed (PriceFeed.mid bid ask) [bidArrival, askArrival]

/-- The prices the feed keeps. -/
inductive Source where
  | trade
  | quotes
  | mark

namespace WSMarketData

variable (data : WSMarketData) (now : ℤ)

def priceOf : Source → PyFloat
  | .trade => data.lastPrice
  | .quotes => mid data.bestBid data.bestAsk
  | .mark => data.markPrice

/-- The time the feed keeps for a price. -/
def timeOf : Source → ℤ
  | .trade => data.lastPriceTimeMs
  | .quotes => data.bookTickerTimeMs
  | .mark => data.markPriceTimeMs

/-- The price `get_mid_price` picks. -/
def midSource : Source :=
  if positive data.bestAsk && positive data.bestBid then .quotes else .mark

/-- The price `get_ltp` picks. -/
def ltpSource : Source :=
  if positive data.lastPrice && now - data.lastPriceTimeMs < 10000 then .trade
  else if positive data.getMidPrice && now - data.bookTickerTimeMs < 10000 then data.midSource
  else if positive data.markPrice && now - data.markPriceTimeMs < 10000 then .mark
  else if positive data.lastPrice then .trade
  else if positive data.getMidPrice then data.midSource
  else .mark

/-- Quotes are picked only when both are positive. -/
theorem positive_of_midSource (h : data.midSource = .quotes) :
    positive data.bestBid = true ∧ positive data.bestAsk = true := by
  unfold midSource at h
  split at h
  · simp_all
  · cases h

theorem positive_of_ltpSource (h : data.ltpSource now = .quotes) :
    positive data.bestBid = true ∧ positive data.bestAsk = true := by
  unfold ltpSource at h
  split_ifs at h <;> exact data.positive_of_midSource h

end WSMarketData

/-- The messages the feed's prices were computed from. -/
structure Provenance where
  bid : Option Arrival := none
  ask : Option Arrival := none
  last : List Arrival := []
  mark : List Arrival := []

namespace Provenance

/-- The messages of a price. -/
def of (p : Provenance) : Source → List Arrival
  | .trade => p.last
  | .quotes => p.bid.toList ++ p.ask.toList
  | .mark => p.mark

/-- What a disconnect resets is no longer computed from a message. -/
def onClose (p : Provenance) : Provenance := { p with last := [], mark := [] }

/-- A handler that assigns a price computes it from the message it handles. -/
def onMessage (p : Provenance) (data : WSMarketData) (arrival : Arrival) : Provenance :=
  match arrival.message with
  | .markPrice (some price) _ _ _ =>
      if positive price then { p with mark := [arrival] } else p
  | .bookTicker b B a A =>
      let bid := if b.isSome then some arrival else p.bid
      let ask := if b.isSome && B.isSome && a.isSome then some arrival else p.ask
      let seeds : Bool := b.any positive && B.isSome && a.any positive && A.isSome
      { bid, ask
        last := if seeds && data.lastPrice = .fin 0 then [arrival, arrival] else p.last
        mark := if seeds && data.markPrice = .fin 0 then [arrival, arrival] else p.mark }
  | .aggTrade (some price) _ =>
      if positive price then { p with last := [arrival] } else p
  | _ => p

end Provenance

/-! ## The readers -/

/-- A price a reader took from the feed, with the messages it was computed from,
the time the feed kept for it and the disconnects so far. -/
structure Reading where
  price : PyFloat
  arrivals : List Arrival
  timeMs : ℤ
  closes : ℕ

/-- What one iteration of `_monitor_loop` holds. -/
inductive Monitor where
  | top
  | connected
  | ltp (ltp : Reading)
  | both (ltp mid : Reading)
  /-- past the test for stale prices -/
  | passed (ltp mid : Reading)

/-- What a call of `_execute_entry` holds. -/
inductive Entry where
  | idle
  | fresh
  | ltp (ltp : Reading)
  | both (ltp mid : Reading)
  /-- past the test of the prices, before the basis guard -/
  | priced (mid : Reading)

/-- Prices handed to `_check_exits`, or used by `_execute_entry`. -/
structure Use where
  prices : List Reading
  time : ℤ
  closes : ℕ
  staleMs : ℤ

structure Desk where
  now : ℤ
  /-- how often `_on_close` ran -/
  closes : ℕ := 0
  data : WSMarketData := {}
  sources : Provenance := {}
  monitor : Monitor := .top
  entry : Entry := .idle
  uses : List Use := []

/-- The staleness budgets of the position manager and of the engine. -/
structure Budgets where
  feedStaleMs : ℤ
  entryStaleMs : ℤ

inductive Event where
  | tick (ms : ℕ)
  | message (m : Message)
  | opened
  | closed
  /-- the monitor's next step; the wallet holds a position, or not -/
  | monitor (position : Bool)
  /-- the next step of an entry; the basis guard allows it, or not -/
  | entry (allowed : Bool)

namespace Desk

variable (b : Budgets) (s : Desk)

def read (source : Source) : Reading :=
  { price := s.data.priceOf source
    arrivals := s.sources.of source
    timeMs := s.data.timeOf source
    closes := s.closes }

/-- Where a step of `_monitor_loop` leads.  The health check runs between the
readings and the test for stale prices. -/
def monitorNext : Monitor :=
  match s.monitor with
  | .top => if s.data.connected s.now then .connected else .top
  | .connected => .ltp (s.read (s.data.ltpSource s.now))
  | .ltp ltp => .both ltp (s.read s.data.midSource)
  | .both ltp mid =>
      if PyFloat.le ltp.price (.fin 0) then .top
      else if !s.data.isFresh s.now b.feedStaleMs || PyFloat.le mid.price (.fin 0) then .top
      else .passed ltp mid
  | .passed _ _ => .top

/-- Where a step of `_execute_entry` leads, from the staleness veto to the entry
price. -/
def entryNext : Entry :=
  match s.entry with
  | .idle => if s.data.isFresh s.now b.entryStaleMs then .fresh else .idle
  | .fresh => .ltp (s.read (s.data.ltpSource s.now))
  | .ltp ltp => .both ltp (s.read s.data.midSource)
  | .both ltp mid =>
      if PyFloat.le ltp.price (.fin 0) || PyFloat.le mid.price (.fin 0) then .idle
      else .priced mid
  | .priced _ => .idle

/-- The use a reader's step makes of the prices it holds. -/
def usesOf : Event → List Use
  | .monitor position =>
      match s.monitor with
      | .passed ltp mid =>
          -- `_check_exits(pos, data, ltp, mid)`
          if position then [⟨[ltp, mid], s.now, s.closes, b.feedStaleMs⟩] else []
      | _ => []
  | .entry allowed =>
      match s.entry with
      | .both ltp mid =>
          if PyFloat.le ltp.price (.fin 0) || PyFloat.le mid.price (.fin 0) then []
          else [⟨[ltp, mid], s.now, s.closes, b.entryStaleMs⟩]
      | .priced mid =>
          -- `entry_price = mid`
          if allowed then [⟨[mid], s.now, s.closes, b.entryStaleMs⟩] else []
      | _ => []
  | _ => []

def step (e : Event) : Desk :=
  match e with
  | .tick ms => { s with now := s.now + ms }
  | .message m =>
      { s with
        data := s.data.onMessage s.now m
        sources := s.sources.onMessage s.data { message := m, time := s.now, closes := s.closes } }
  | .opened => { s with data := s.data.onOpen s.now }
  | .closed =>
      { s with closes := s.closes + 1, data := s.data.onClose, sources := s.sources.onClose }
  | .monitor _ => { s with monitor := s.monitorNext b, uses := s.usesOf b e ++ s.uses }
  | .entry _ => { s with entry := s.entryNext b, uses := s.usesOf b e ++ s.uses }

end Desk

/-! ## Fresh prices -/

/-- A price of messages received within the budget and since the last
disconnect. -/
def Reading.Fresh (r : Reading) (now : ℤ) (closes : ℕ) (staleMs : ℤ) : Prop :=
  Computed r.price r.arrivals ∧
    ∀ arrival ∈ r.arrivals, now - arrival.time ≤ staleMs ∧ arrival.closes = closes

/-- The time the feed keeps for the price itself is set and within the budget,
and there was no disconnect since the price was taken. -/
def Reading.Timely (r : Reading) (now : ℤ) (closes : ℕ) (staleMs : ℤ) : Prop :=
  r.timeMs ≠ 0 ∧ now - r.timeMs ≤ staleMs ∧ r.closes = closes

def Use.Fresh (u : Use) : Prop := ∀ r ∈ u.prices, r.Fresh u.time u.closes u.staleMs

def Use.Timely (u : Use) : Prop := ∀ r ∈ u.prices, r.Timely u.time u.closes u.staleMs

/-- Each use of the step is timely. -/
def Desk.Timely (b : Budgets) (s : Desk) (e : Event) : Prop := ∀ u ∈ s.usesOf b e, u.Timely

instance (r : Reading) (now : ℤ) (closes : ℕ) (staleMs : ℤ) :
    Decidable (r.Timely now closes staleMs) :=
  inferInstanceAs (Decidable (_ ∧ _))

instance (u : Use) : Decidable u.Timely :=
  inferInstanceAs (Decidable (∀ r ∈ u.prices, r.Timely u.time u.closes u.staleMs))

instance (b : Budgets) (s : Desk) (e : Event) : Decidable (Desk.Timely b s e) :=
  inferInstanceAs (Decidable (∀ u ∈ s.usesOf b e, u.Timely))

theorem Desk.uses_step (b : Budgets) (s : Desk) (e : Event) :
    (s.step b e).uses = s.usesOf b e ++ s.uses := by
  cases e <;> rfl

/-! ## What the feed's prices are computed from -/

/-- The messages on record are those of the feed's prices, and no older than
the times the feed keeps. -/
structure Tracked (data : WSMarketData) (p : Provenance) (now : ℤ) (closes : ℕ) : Prop where
  last : data.lastPrice ≠ .fin 0 → Computed data.lastPrice p.last
  mark : data.markPrice ≠ .fin 0 → Computed data.markPrice p.mark
  bid : data.bestBid ≠ .fin 0 →
    ∃ arrival B a A, p.bid = some arrival ∧ arrival.message = .bookTicker (some data.bestBid) B a A
  ask : data.bestAsk ≠ .fin 0 →
    ∃ arrival b B A, p.ask = some arrival ∧ arrival.message = .bookTicker b B (some data.bestAsk) A
  kept : ∀ source, data.timeOf source ≤ now
  stamped : ∀ source, ∀ arrival ∈ p.of source, arrival.closes ≤ closes ∧
    (data.timeOf source ≠ 0 → data.timeOf source ≤ arrival.time ∧ arrival.closes = closes)

/-- The time the feed keeps for a price is that of its messages, if they were
received since the last disconnect. -/
def Exact (data : WSMarketData) (p : Provenance) (closes : ℕ) : Prop :=
  ∀ source, ∀ arrival ∈ p.of source, arrival.closes = closes →
    data.timeOf source = arrival.time ∧ arrival.time ≠ 0

section Feed

variable {data : WSMarketData} {p : Provenance} {now : ℤ} {closes : ℕ}

theorem Tracked.start (hnow : 0 ≤ now) : Tracked {} {} now 0 where
  last h := absurd rfl h
  mark h := absurd rfl h
  bid h := absurd rfl h
  ask h := absurd rfl h
  kept source := by cases source <;> exact hnow
  stamped source := by cases source <;> simp [Provenance.of]

theorem Tracked.later (h : Tracked data p now closes) (ms : ℕ) :
    Tracked data p (now + ms) closes :=
  { h with kept := fun source => (h.kept source).trans (by omega) }

theorem Tracked.onOpen (h : Tracked data p now closes) : Tracked (data.onOpen now) p now closes where
  last := h.last
  mark := h.mark
  bid := h.bid
  ask := h.ask
  kept source := by cases source <;> [exact h.kept .trade; exact h.kept .quotes; exact h.kept .mark]
  stamped source := by
    cases source <;> [exact h.stamped .trade; exact h.stamped .quotes; exact h.stamped .mark]

/-- A disconnect leaves the quotes, without a time. -/
theorem Tracked.onClose (h : Tracked data p now closes) (hnow : 0 ≤ now) :
    Tracked data.onClose p.onClose now (closes + 1) where
  last h := absurd rfl h
  mark h := absurd rfl h
  bid := h.bid
  ask := h.ask
  kept source := by cases source <;> exact hnow
  stamped source arrival harrival := by
    cases source with
    | trade | mark => cases harrival
    | quotes => exact ⟨(h.stamped .quotes arrival harrival).1.trans (Nat.le_succ _), fun h => absurd rfl h⟩

theorem Exact.onClose (h : Tracked data p now closes) : Exact data.onClose p.onClose (closes + 1) := by
  intro source arrival harrival hcloses
  cases source with
  | trade | mark => cases harrival
  | quotes =>
      have hle : arrival.closes ≤ closes := (h.stamped .quotes arrival harrival).1
      omega

/-- Nothing but the time of the last message changes. -/
theorem Tracked.received (h : Tracked data p now closes) :
    Tracked { data with lastUpdateMs := now } p now closes where
  last := h.last
  mark := h.mark
  bid := h.bid
  ask := h.ask
  kept source := by cases source <;> [exact h.kept .trade; exact h.kept .quotes; exact h.kept .mark]
  stamped source := by
    cases source <;> [exact h.stamped .trade; exact h.stamped .quotes; exact h.stamped .mark]

/-- The last price is assigned, with the time or without. -/
theorem Tracked.setLast (h : Tracked data p now closes) {price : PyFloat} {arrivals : List Arrival}
    {time : ℤ} (hprice : Computed price arrivals)
    (harrivals : ∀ arrival ∈ arrivals, arrival.time = now ∧ arrival.closes = closes)
    (htime : time = now ∨ time = data.lastPriceTimeMs) :
    Tracked { data with lastPrice := price, lastPriceTimeMs := time } { p with last := arrivals }
      now closes := by
  have hle : time ≤ now := by
    rcases htime with rfl | rfl
    · exact le_refl time
    · exact h.kept .trade
  refine ⟨fun _ => hprice, h.mark, h.bid, h.ask, fun source => ?_, fun source => ?_⟩
  · cases source <;> [exact hle; exact h.kept .quotes; exact h.kept .mark]
  · cases source with
    | trade =>
        intro arrival harrival
        obtain ⟨htime, hcloses⟩ := harrivals arrival harrival
        exact ⟨hcloses.le, fun _ => ⟨hle.trans htime.ge, hcloses⟩⟩
    | quotes => exact h.stamped .quotes
    | mark => exact h.stamped .mark

/-- The mark price is assigned, with the time or without. -/
theorem Tracked.setMark (h : Tracked data p now closes) {price : PyFloat} {arrivals : List Arrival}
    {time : ℤ} (hprice : Computed price arrivals)
    (harrivals : ∀ arrival ∈ arrivals, arrival.time = now ∧ arrival.closes = closes)
    (htime : time = now ∨ time = data.markPriceTimeMs) :
    Tracked { data with markPrice := price, markPriceTimeMs := time } { p with mark := arrivals }
      now closes := by
  have hle : time ≤ now := by
    rcases htime with rfl | rfl
    · exact le_refl time
    · exact h.kept .mark
  refine ⟨h.last, fun _ => hprice, h.bid, h.ask, fun source => ?_, fun source => ?_⟩
  · cases source <;> [exact h.kept .trade; exact h.kept .quotes; exact hle]
  · cases source with
    | trade => exact h.stamped .trade
    | quotes => exact h.stamped .quotes
    | mark =>
        intro arrival harrival
        obtain ⟨htime, hcloses⟩ := harrivals arrival harrival
        exact ⟨hcloses.le, fun _ => ⟨hle.trans htime.ge, hcloses⟩⟩

/-- The bid is assigned. -/
theorem Tracked.setBid (h : Tracked data p now closes) (bid : PyFloat) (B a A : Option PyFloat) :
    Tracked { data with bestBid := bid }
      { p with bid := some ⟨.bookTicker (some bid) B a A, now, closes⟩ } now closes := by
  refine ⟨h.last, h.mark, fun _ => ⟨_, B, a, A, rfl, rfl⟩, h.ask, h.kept, fun source => ?_⟩
  cases source with
  | trade => exact h.stamped .trade
  | mark => exact h.stamped .mark
  | quotes =>
      intro arrival harrival
      rcases List.mem_cons.mp harrival with rfl | hask
      · exact ⟨le_refl closes, fun _ => ⟨h.kept .quotes, rfl⟩⟩
      · exact h.stamped .quotes arrival (List.mem_append_right _ hask)

/-- Bid and ask are assigned, with the time or without. -/
theorem Tracked.setQuotes (h : Tracked data p now closes) (bid ask : PyFloat) (B A : Option PyFloat)
    {time : ℤ} (htime : time = now ∨ time = data.bookTickerTimeMs) :
    Tracked { data with bestBid := bid, bestAsk := ask, bookTickerTimeMs := time }
      { p with
        bid := some ⟨.bookTicker (some bid) B (some ask) A, now, closes⟩
        ask := some ⟨.bookTicker (some bid) B (some ask) A, now, closes⟩ } now closes := by
  have hle : time ≤ now := by
    rcases htime with rfl | rfl
    · exact le_refl time
    · exact h.kept .quotes
  refine ⟨h.last, h.mark, fun _ => ⟨_, B, some ask, A, rfl, rfl⟩, fun _ => ⟨_, some bid, B, A, rfl, rfl⟩,
    fun source => ?_, fun source => ?_⟩
  · cases source <;> [exact h.kept .trade; exact hle; exact h.kept .mark]
  · cases source with
    | trade => exact h.stamped .trade
    | mark => exact h.stamped .mark
    | quotes =>
        intro arrival harrival
        have harrival : arrival = ⟨.bookTicker (some bid) B (some ask) A, now, closes⟩ := by
          simpa [Provenance.of] using harrival
        subst harrival
        exact ⟨le_refl closes, fun _ => ⟨hle, rfl⟩⟩

theorem Tracked.handleMarkPrice (h : Tracked data p now closes) (price i r : Option PyFloat)
    (T : Option ℤ) :
    Tracked (data.handleMarkPrice now price i r T)
      (p.onMessage data ⟨.markPrice price i r T, now, closes⟩) now closes := by
  cases price with
  | none => exact h
  | some price =>
      by_cases hpos : positive price = true
      · have hnew : ∀ arrival ∈ [(⟨.markPrice (some price) i r T, now, closes⟩ : Arrival)],
            arrival.time = now ∧ arrival.closes = closes := by simp
        simp only [WSMarketData.handleMarkPrice, Provenance.onMessage, if_pos hpos]
        split_ifs
        · exact h.setMark (.mark rfl) hnew (Or.inl rfl)
        · exact h.setMark (.mark rfl) hnew (Or.inr rfl)
      · simpa [WSMarketData.handleMarkPrice, Provenance.onMessage, hpos] using h

theorem Tracked.handleAggTrade (h : Tracked data p now closes) (price q : Option PyFloat) :
    Tracked (data.handleAggTrade now price q)
      (p.onMessage data ⟨.aggTrade price q, now, closes⟩) now closes := by
  cases price with
  | none => exact h
  | some price =>
      by_cases hpos : positive price = true
      · have hnew : ∀ arrival ∈ [(⟨.aggTrade (some price) q, now, closes⟩ : Arrival)],
            arrival.time = now ∧ arrival.closes = closes := by simp
        simp only [WSMarketData.handleAggTrade, Provenance.onMessage, if_pos hpos]
        split_ifs
        · exact h.setLast (.trade rfl) hnew (Or.inl rfl)
        · exact h.setLast (.trade rfl) hnew (Or.inr rfl)
      · simpa [WSMarketData.handleAggTrade, Provenance.onMessage, hpos] using h

/-- What the book ticker initialises is computed from its own message. -/
theorem Tracked.seed (h : Tracked data p now closes) {bid ask : PyFloat} {B A : Option PyFloat} :
    let arrival : Arrival := ⟨.bookTicker (some bid) B (some ask) A, now, closes⟩
    let seeds := positive bid && positive ask
    Tracked (data.seed now bid ask)
      { p with
        last := if seeds && data.lastPrice = .fin 0 then [arrival, arrival] else p.last
        mark := if seeds && data.markPrice = .fin 0 then [arrival, arrival] else p.mark }
      now closes := by
  intro arrival seeds
  have hmid : Computed (mid bid ask) [arrival, arrival] := .mid rfl rfl
  have hnew : ∀ x ∈ [arrival, arrival], x.time = now ∧ x.closes = closes := by simp [arrival]
  unfold WSMarketData.seed
  by_cases hseeds : seeds = true
  · rw [if_pos hseeds]
    by_cases hlast : data.lastPrice = .fin 0 <;> by_cases hmark : data.markPrice = .fin 0
    · simpa [hseeds, hlast, hmark] using (h.setLast hmid hnew (Or.inl rfl)).setMark hmid hnew (Or.inl rfl)
    · simpa [hseeds, hlast, hmark] using h.setLast hmid hnew (Or.inl rfl)
    · simpa [hseeds, hlast, hmark] using h.setMark hmid hnew (Or.inl rfl)
    · simpa [hseeds, hlast, hmark] using h
  · rw [if_neg hseeds]
    simpa [hseeds] using h

theorem Tracked.handleBookTicker (h : Tracked data p now closes) (b B a A : Option PyFloat) :
    Tracked (data.handleBookTicker now b B a A)
      (p.onMessage data ⟨.bookTicker b B a A, now, closes⟩) now closes := by
  cases b with
  | none => simpa [WSMarketData.handleBookTicker, Provenance.onMessage] using h
  | some bid =>
      cases B with
      | none => simpa [WSMarketData.handleBookTicker, Provenance.onMessage] using h.setBid bid none a A
      | some B =>
          cases a with
          | none =>
              simpa [WSMarketData.handleBookTicker, Provenance.onMessage] using
                h.setBid bid (some B) none A
          | some ask =>
              cases A with
              | none =>
                  simpa [WSMarketData.handleBookTicker, Provenance.onMessage] using
                    h.setQuotes bid ask (some B) none (Or.inr rfl)
              | some A =>
                  simpa [WSMarketData.handleBookTicker, Provenance.onMessage] using
                    (h.setQuotes bid ask (some B) (some A) (Or.inl rfl)).seed

theorem Tracked.onMessage (h : Tracked data p now closes) (m : Message) :
    Tracked (data.onMessage now m) (p.onMessage data ⟨m, now, closes⟩) now closes := by
  cases m with
  | markPrice price i r T => exact h.received.handleMarkPrice price i r T
  | bookTicker b B a A => exact h.received.handleBookTicker b B a A
  | aggTrade price q => exact h.received.handleAggTrade price q
  | other => exact h.received
  | malformed => exact h

/-! ### Messages whose conversions all succeed -/

theorem Exact.setLast (h : Exact data p closes) (hnow : now ≠ 0) (price : PyFloat)
    {arrivals : List Arrival} (harrivals : ∀ arrival ∈ arrivals, arrival.time = now) :
    Exact { data with lastPrice := price, lastPriceTimeMs := now } { p with last := arrivals }
      closes := by
  intro source arrival harrival hcloses
  cases source with
  | trade =>
      have htime : arrival.time = now := harrivals arrival harrival
      exact ⟨htime.symm, htime ▸ hnow⟩
  | quotes => exact h .quotes arrival harrival hcloses
  | mark => exact h .mark arrival harrival hcloses

theorem Exact.setMark (h : Exact data p closes) (hnow : now ≠ 0) (price : PyFloat)
    {arrivals : List Arrival} (harrivals : ∀ arrival ∈ arrivals, arrival.time = now) :
    Exact { data with markPrice := price, markPriceTimeMs := now } { p with mark := arrivals }
      closes := by
  intro source arrival harrival hcloses
  cases source with
  | trade => exact h .trade arrival harrival hcloses
  | quotes => exact h .quotes arrival harrival hcloses
  | mark =>
      have htime : arrival.time = now := harrivals arrival harrival
      exact ⟨htime.symm, htime ▸ hnow⟩

theorem Exact.setQuotes (h : Exact data p closes) (hnow : now ≠ 0) (bid ask : PyFloat)
    (m : Message) :
    Exact { data with bestBid := bid, bestAsk := ask, bookTickerTimeMs := now }
      { p with bid := some ⟨m, now, closes⟩, ask := some ⟨m, now, closes⟩ } closes := by
  intro source arrival harrival hcloses
  cases source with
  | trade => exact h .trade arrival harrival hcloses
  | quotes =>
      have harrival : arrival = ⟨m, now, closes⟩ := by simpa [Provenance.of] using harrival
      subst harrival
      exact ⟨rfl, hnow⟩
  | mark => exact h .mark arrival harrival hcloses

theorem Exact.seed (h : Exact data p closes) (hnow : now ≠ 0) (bid ask : PyFloat)
    {arrival : Arrival} (harrival : arrival.time = now) :
    let seeds := positive bid && positive ask
    Exact (data.seed now bid ask)
      { p with
        last := if seeds && data.lastPrice = .fin 0 then [arrival, arrival] else p.last
        mark := if seeds && data.markPrice = .fin 0 then [arrival, arrival] else p.mark }
      closes := by
  intro seeds
  have hnew : ∀ x ∈ [arrival, arrival], x.time = now := by simp [harrival]
  unfold WSMarketData.seed
  by_cases hseeds : seeds = true
  · rw [if_pos hseeds]
    by_cases hlast : data.lastPrice = .fin 0 <;> by_cases hmark : data.markPrice = .fin 0
    · simpa [hseeds, hlast, hmark] using (h.setLast hnow _ hnew).setMark hnow _ hnew
    · simpa [hseeds, hlast, hmark] using h.setLast hnow _ hnew
    · simpa [hseeds, hlast, hmark] using h.setMark hnow _ hnew
    · simpa [hseeds, hlast, hmark] using h
  · rw [if_neg hseeds]
    simpa [hseeds] using h

theorem Exact.received (h : Exact data p closes) :
    Exact { data with lastUpdateMs := now } p closes := by
  intro source
  cases source <;> [exact h .trade; exact h .quotes; exact h .mark]

theorem Exact.onOpen (h : Exact data p closes) : Exact (data.onOpen now) p closes := by
  intro source
  cases source <;> [exact h .trade; exact h .quotes; exact h .mark]

theorem Exact.onMessage (h : Exact data p closes) (hnow : now ≠ 0) {m : Message} (hm : m.Complete) :
    Exact (data.onMessage now m) (p.onMessage data ⟨m, now, closes⟩) closes := by
  cases m with
  | markPrice price i r T =>
      obtain ⟨hprice, hrest⟩ := hm
      obtain ⟨price, rfl⟩ := Option.isSome_iff_exists.mp hprice
      by_cases hpos : positive price = true
      · simpa [WSMarketData.onMessage, WSMarketData.handleMarkPrice, Provenance.onMessage, hpos,
          hrest] using h.received.setMark hnow price (by simp)
      · simpa [WSMarketData.onMessage, WSMarketData.handleMarkPrice, Provenance.onMessage, hpos]
          using h.received
  | bookTicker b B a A =>
      obtain ⟨hb, hB, ha, hA⟩ := hm
      obtain ⟨bid, rfl⟩ := Option.isSome_iff_exists.mp hb
      obtain ⟨B, rfl⟩ := Option.isSome_iff_exists.mp hB
      obtain ⟨ask, rfl⟩ := Option.isSome_iff_exists.mp ha
      obtain ⟨A, rfl⟩ := Option.isSome_iff_exists.mp hA
      simpa [WSMarketData.onMessage, WSMarketData.handleBookTicker, Provenance.onMessage] using
        (h.received.setQuotes hnow bid ask (.bookTicker (some bid) (some B) (some ask) (some A))).seed
          hnow bid ask rfl
  | aggTrade price q =>
      obtain ⟨hprice, hq⟩ := hm
      obtain ⟨price, rfl⟩ := Option.isSome_iff_exists.mp hprice
      by_cases hpos : positive price = true
      · simpa [WSMarketData.onMessage, WSMarketData.handleAggTrade, Provenance.onMessage, hpos,
          hq] using h.received.setLast hnow price (by simp)
      · simpa [WSMarketData.onMessage, WSMarketData.handleAggTrade, Provenance.onMessage, hpos]
          using h.received
  | other => exact h.received
  | malformed => exact h

end Feed

/-! ## What the readers hold -/

/-- What a reading says of itself, at the disconnects so far. -/
structure Reading.Sound (r : Reading) (closes : ℕ) : Prop where
  counted : r.closes ≤ closes
  computed : r.price ≠ .fin 0 → Computed r.price r.arrivals
  stamped : ∀ arrival ∈ r.arrivals, arrival.closes ≤ r.closes ∧
    (r.timeMs ≠ 0 → r.timeMs ≤ arrival.time ∧ arrival.closes = r.closes)

def Reading.Exact (r : Reading) : Prop :=
  ∀ arrival ∈ r.arrivals, arrival.closes = r.closes → r.timeMs = arrival.time ∧ arrival.time ≠ 0

theorem Computed.ne_nil {price : PyFloat} {arrivals : List Arrival} (h : Computed price arrivals) :
    arrivals ≠ [] := by
  cases h <;> simp

section Readings

variable {r : Reading} {now staleMs : ℤ} {closes : ℕ}

theorem Reading.Sound.later (h : r.Sound closes) : r.Sound (closes + 1) :=
  { h with counted := h.counted.trans (Nat.le_succ closes) }

theorem Reading.Sound.fresh (h : r.Sound closes) (hprice : r.price ≠ .fin 0)
    (htimely : r.Timely now closes staleMs) : r.Fresh now closes staleMs := by
  obtain ⟨hset, hage, hcloses⟩ := htimely
  refine ⟨h.computed hprice, fun arrival harrival => ?_⟩
  obtain ⟨-, hstamped⟩ := h.stamped arrival harrival
  obtain ⟨hle, hsame⟩ := hstamped hset
  exact ⟨by omega, hsame.trans hcloses⟩

theorem Reading.Exact.timely (h : r.Exact) (hsound : r.Sound closes)
    (hfresh : r.Fresh now closes staleMs) : r.Timely now closes staleMs := by
  obtain ⟨hcomputed, hrecent⟩ := hfresh
  obtain ⟨arrival, harrival⟩ := List.exists_mem_of_ne_nil _ hcomputed.ne_nil
  obtain ⟨hage, hcloses⟩ := hrecent arrival harrival
  have hle : arrival.closes ≤ r.closes := (hsound.stamped arrival harrival).1
  have hsame : r.closes = closes := le_antisymm hsound.counted (hcloses ▸ hle)
  obtain ⟨htime, hset⟩ := h arrival harrival (hcloses.trans hsame.symm)
  exact ⟨htime ▸ hset, htime ▸ hage, hsame⟩

end Readings

theorem ne_zero_of_positive {price : PyFloat} (h : positive price = true) : price ≠ .fin 0 := by
  rintro rfl
  simp [positive] at h

theorem ne_zero_of_not_le {price : PyFloat} (h : PyFloat.le price (.fin 0) ≠ true) :
    price ≠ .fin 0 := by
  rintro rfl
  simp at h

/-- A price is taken with the messages it was computed from.  Quotes are taken
only when both are positive. -/
theorem Tracked.read {s : Desk} (h : Tracked s.data s.sources s.now s.closes) {source : Source}
    (hquotes : source = .quotes →
      positive s.data.bestBid = true ∧ positive s.data.bestAsk = true) :
    (s.read source).Sound s.closes where
  counted := le_refl s.closes
  stamped := h.stamped source
  computed hprice := by
    cases source with
    | trade => exact h.last hprice
    | mark => exact h.mark hprice
    | quotes =>
        obtain ⟨hbid, hask⟩ := hquotes rfl
        obtain ⟨x, B, a, A, hx, hxbid⟩ := h.bid (ne_zero_of_positive hbid)
        obtain ⟨y, b, B', A', hy, hyask⟩ := h.ask (ne_zero_of_positive hask)
        have hof : s.sources.of .quotes = [x, y] := by simp [Provenance.of, hx, hy]
        show Computed _ (s.sources.of .quotes)
        rw [hof]
        exact .mid hxbid hyask

theorem Exact.read {s : Desk} (h : Exact s.data s.sources s.closes) (source : Source) :
    (s.read source).Exact := h source

def Monitor.held : Monitor → List Reading
  | .top | .connected => []
  | .ltp r => [r]
  | .both r r' | .passed r r' => [r, r']

def Entry.held : Entry → List Reading
  | .idle | .fresh => []
  | .ltp r => [r]
  | .both r r' => [r, r']
  | .priced r => [r]

/-- The prices that passed the readers' tests are not zero. -/
def Monitor.Tested : Monitor → Prop
  | .passed r r' => r.price ≠ .fin 0 ∧ r'.price ≠ .fin 0
  | _ => True

def Entry.Tested : Entry → Prop
  | .priced r => r.price ≠ .fin 0
  | _ => True

def Desk.held (s : Desk) : List Reading := s.monitor.held ++ s.entry.held

structure Desk.Sound (s : Desk) : Prop where
  now : 0 < s.now
  feed : Tracked s.data s.sources s.now s.closes
  held : ∀ r ∈ s.held, r.Sound s.closes
  monitor : s.monitor.Tested
  entry : s.entry.Tested

structure Desk.Exact (s : Desk) : Prop where
  feed : PriceFeed.Exact s.data s.sources s.closes
  held : ∀ r ∈ s.held, r.Exact

section Steps

variable {b : Budgets} {s : Desk}

/-- A use is of prices held, none of them zero. -/
theorem Desk.Sound.usesOf (h : s.Sound) {e : Event} {u : Use} (hu : u ∈ s.usesOf b e) :
    u.time = s.now ∧ u.closes = s.closes ∧ ∀ r ∈ u.prices, r ∈ s.held ∧ r.price ≠ .fin 0 := by
  cases e with
  | tick | message | opened | closed => cases hu
  | monitor position =>
      cases hm : s.monitor with
      | top | connected | ltp | both => simp [Desk.usesOf, hm] at hu
      | passed ltp mid =>
          have htested := h.monitor
          rw [hm] at htested
          cases position with
          | false => simp [Desk.usesOf, hm] at hu
          | true =>
              simp only [Desk.usesOf, hm, if_true, List.mem_singleton] at hu
              subst hu
              refine ⟨rfl, rfl, ?_⟩
              simpa [Desk.held, hm, Monitor.held, Monitor.Tested] using htested
  | entry allowed =>
      cases he : s.entry with
      | idle | fresh | ltp => simp [Desk.usesOf, he] at hu
      | both ltp mid =>
          simp only [Desk.usesOf, he] at hu
          split_ifs at hu with hle
          · cases hu
          · simp only [List.mem_singleton] at hu
            subst hu
            obtain ⟨hltp, hmid⟩ := not_or.mp (fun hor => hle ((Bool.or_eq_true _ _).mpr hor))
            refine ⟨rfl, rfl, ?_⟩
            simp [Desk.held, he, Entry.held, ne_zero_of_not_le hltp, ne_zero_of_not_le hmid]
      | priced mid =>
          have htested := h.entry
          rw [he] at htested
          cases allowed with
          | false => simp [Desk.usesOf, he] at hu
          | true =>
              simp only [Desk.usesOf, he, if_true, List.mem_singleton] at hu
              subst hu
              refine ⟨rfl, rfl, ?_⟩
              simpa [Desk.held, he, Entry.held, Entry.Tested] using htested

/-- A timely use is of fresh prices. -/
theorem Desk.Sound.fresh (h : s.Sound) {e : Event} {u : Use} (hu : u ∈ s.usesOf b e)
    (htimely : u.Timely) : u.Fresh := by
  obtain ⟨htime, hcloses, hprices⟩ := h.usesOf hu
  intro r hr
  obtain ⟨hheld, hprice⟩ := hprices r hr
  rw [hcloses]
  exact (h.held r hheld).fresh hprice (hcloses ▸ htimely r hr)

/-- A use of fresh prices is timely, when the feed's times are exact. -/
theorem Desk.Exact.timely (h : s.Exact) (hsound : s.Sound) {e : Event} {u : Use}
    (hu : u ∈ s.usesOf b e) (hfresh : u.Fresh) : u.Timely := by
  obtain ⟨htime, hcloses, hprices⟩ := hsound.usesOf hu
  intro r hr
  obtain ⟨hheld, -⟩ := hprices r hr
  rw [hcloses]
  exact (h.held r hheld).timely (hsound.held r hheld) (hcloses ▸ hfresh r hr)

end Steps

/-! ## Steps and runs -/

section Runs

variable {b : Budgets} {s : Desk}

/-- What a reader holds after a step: what it held, or a price just taken. -/
def Desk.Taken (s : Desk) (before after : List Reading) : Prop :=
  ∀ r ∈ after, r ∈ before ∨ r = s.read (s.data.ltpSource s.now) ∨ r = s.read s.data.midSource

theorem Desk.taken_monitorNext : s.Taken s.monitor.held (s.monitorNext b).held := by
  unfold Desk.Taken Desk.monitorNext
  cases s.monitor with
  | top =>
      dsimp only
      split <;> simp [Monitor.held]
  | connected | ltp | passed => simp [Monitor.held]
  | both =>
      dsimp only
      split_ifs <;> simp [Monitor.held]

theorem Desk.taken_entryNext : s.Taken s.entry.held (s.entryNext b).held := by
  unfold Desk.Taken Desk.entryNext
  cases s.entry with
  | idle =>
      dsimp only
      split <;> simp [Entry.held]
  | fresh | ltp | priced => simp [Entry.held]
  | both =>
      dsimp only
      split_ifs <;> simp [Entry.held]

theorem Desk.tested_monitorNext : (s.monitorNext b).Tested := by
  unfold Desk.monitorNext
  cases s.monitor with
  | top =>
      dsimp only
      split <;> trivial
  | connected | ltp | passed => trivial
  | both ltp mid =>
      dsimp only
      split_ifs with hltp hmid
      · trivial
      · trivial
      · rw [Bool.or_eq_true, not_or] at hmid
        exact ⟨ne_zero_of_not_le hltp, ne_zero_of_not_le hmid.2⟩

theorem Desk.tested_entryNext : (s.entryNext b).Tested := by
  unfold Desk.entryNext
  cases s.entry with
  | idle =>
      dsimp only
      split <;> trivial
  | fresh | ltp | priced => trivial
  | both ltp mid =>
      dsimp only
      split_ifs with hle
      · trivial
      · rw [Bool.or_eq_true, not_or] at hle
        exact ne_zero_of_not_le hle.2

theorem Desk.Sound.start {now : ℤ} (hnow : 0 < now) : Desk.Sound { now } where
  now := hnow
  feed := Tracked.start hnow.le
  held := by simp [Desk.held, Monitor.held, Entry.held]
  monitor := trivial
  entry := trivial

theorem Desk.Exact.start (now : ℤ) : Desk.Exact { now } where
  feed source := by cases source <;> simp [Provenance.of]
  held := by simp [Desk.held, Monitor.held, Entry.held]

/-- A price that a reader takes is sound. -/
theorem Desk.Sound.taken (h : s.Sound) {before after : List Reading}
    (hbefore : ∀ r ∈ before, r.Sound s.closes) (htaken : s.Taken before after) :
    ∀ r ∈ after, r.Sound s.closes := by
  intro r hr
  rcases htaken r hr with hheld | rfl | rfl
  · exact hbefore r hheld
  · exact h.feed.read (s.data.positive_of_ltpSource s.now)
  · exact h.feed.read s.data.positive_of_midSource

theorem Desk.Exact.taken (h : s.Exact) {before after : List Reading}
    (hbefore : ∀ r ∈ before, r.Exact) (htaken : s.Taken before after) :
    ∀ r ∈ after, r.Exact := by
  intro r hr
  rcases htaken r hr with hheld | rfl | rfl
  · exact hbefore r hheld
  · exact h.feed.read _
  · exact h.feed.read _

theorem Desk.Sound.step (h : s.Sound) (e : Event) : (s.step b e).Sound := by
  obtain ⟨hmonitor, hentry⟩ := List.forall_mem_append.mp h.held
  cases e with
  | tick ms =>
      have hnow : 0 < s.now + ms := by
        have := h.now
        omega
      exact ⟨hnow, h.feed.later ms, h.held, h.monitor, h.entry⟩
  | message m => exact ⟨h.now, h.feed.onMessage m, h.held, h.monitor, h.entry⟩
  | opened => exact ⟨h.now, h.feed.onOpen, h.held, h.monitor, h.entry⟩
  | closed =>
      exact ⟨h.now, h.feed.onClose h.now.le, fun r hr => (h.held r hr).later, h.monitor, h.entry⟩
  | monitor position =>
      refine ⟨h.now, h.feed, ?_, Desk.tested_monitorNext, h.entry⟩
      exact List.forall_mem_append.mpr ⟨h.taken hmonitor Desk.taken_monitorNext, hentry⟩
  | entry allowed =>
      refine ⟨h.now, h.feed, ?_, h.monitor, Desk.tested_entryNext⟩
      exact List.forall_mem_append.mpr ⟨hmonitor, h.taken hentry Desk.taken_entryNext⟩

/-- No conversion of a message raises. -/
def Event.Complete : Event → Prop
  | .message m => m.Complete
  | _ => True

theorem Desk.Exact.step (h : s.Exact) (hsound : s.Sound) {e : Event} (he : e.Complete) :
    (s.step b e).Exact := by
  obtain ⟨hmonitor, hentry⟩ := List.forall_mem_append.mp h.held
  cases e with
  | tick ms => exact ⟨h.feed, h.held⟩
  | message m => exact ⟨h.feed.onMessage hsound.now.ne' he, h.held⟩
  | opened => exact ⟨h.feed.onOpen, h.held⟩
  | closed => exact ⟨Exact.onClose hsound.feed, h.held⟩
  | monitor position =>
      exact ⟨h.feed, List.forall_mem_append.mpr ⟨h.taken hmonitor Desk.taken_monitorNext, hentry⟩⟩
  | entry allowed =>
      exact ⟨h.feed, List.forall_mem_append.mpr ⟨hmonitor, h.taken hentry Desk.taken_entryNext⟩⟩

/-- The run of a list of events. -/
def Desk.run (b : Budgets) (s : Desk) (events : List Event) : Desk := events.foldl (Desk.step b) s

/-- Uses are only added. -/
theorem Desk.uses_run (events : List Event) {u : Use} (hu : u ∈ s.uses) : u ∈ (s.run b events).uses := by
  induction events generalizing s with
  | nil => exact hu
  | cons e rest ih =>
      refine ih ?_
      rw [Desk.uses_step]
      exact List.mem_append_right _ hu

theorem Desk.Sound.run_fresh (h : s.Sound) {events : List Event} (hfresh : ∀ u ∈ s.uses, u.Fresh)
    (hok : AllOk (Desk.step b) (Desk.Timely b) s events) : ∀ u ∈ (s.run b events).uses, u.Fresh := by
  induction events generalizing s with
  | nil => exact hfresh
  | cons e rest ih =>
      refine ih (h.step e) ?_ hok.2
      rw [Desk.uses_step]
      exact List.forall_mem_append.mpr ⟨fun u hu => h.fresh hu (hok.1 u hu), hfresh⟩

theorem Desk.Exact.run_timely (h : s.Exact) (hsound : s.Sound) {events : List Event}
    (hcomplete : ∀ e ∈ events, e.Complete) (hfresh : ∀ u ∈ (s.run b events).uses, u.Fresh) :
    AllOk (Desk.step b) (Desk.Timely b) s events := by
  induction events generalizing s with
  | nil => trivial
  | cons e rest ih =>
      obtain ⟨he, hrest⟩ := List.forall_mem_cons.mp hcomplete
      refine ⟨fun u hu => h.timely hsound hu (hfresh u ?_), ih (h.step hsound he) (hsound.step e) hrest hfresh⟩
      refine Desk.uses_run rest ?_
      rw [Desk.uses_step]
      exact List.mem_append_left _ hu

end Runs

/-- In a run, prices are fresh whenever they are used if each use is timely.
When no message's handler raises, they are fresh only then. -/
theorem prices_fresh (b : Budgets) {now : ℤ} (hnow : 0 < now) (events : List Event) :
    (AllOk (Desk.step b) (Desk.Timely b) { now } events →
      ∀ u ∈ (Desk.run b { now } events).uses, u.Fresh) ∧
    ((∀ e ∈ events, e.Complete) → (∀ u ∈ (Desk.run b { now } events).uses, u.Fresh) →
      AllOk (Desk.step b) (Desk.Timely b) { now } events) :=
  ⟨(Desk.Sound.start hnow).run_fresh (by simp),
    (Desk.Exact.start now).run_timely (Desk.Sound.start hnow)⟩

/-! ## Silent streams and reconnects -/

def demoBudgets : Budgets := { feedStaleMs := 15000, entryStaleMs := 15000 }

def demoQuotes (bid ask : ℚ) : Event :=
  .message (.bookTicker (some (.fin bid)) (some (.fin 1)) (some (.fin ask)) (some (.fin 1)))

def demoTrade (price : ℚ) : Event := .message (.aggTrade (some (.fin price)) (some (.fin 1)))

/-- One iteration of the monitor while a position is open. -/
def demoCheck : List Event := List.replicate 5 (.monitor true)

/-- One entry. -/
def demoEnter : List Event := List.replicate 5 (.entry true)

theorem prices_fresh_demo :
    AllOk (Desk.step demoBudgets) (Desk.Timely demoBudgets) { now := 1000000 }
        ([.opened, demoQuotes 100 101, .tick 4000, demoTrade 100] ++ demoCheck ++ demoEnter) ∧
      ∀ u ∈ (Desk.run demoBudgets { now := 1000000 }
        ([.opened, demoQuotes 100 101, .tick 4000, demoTrade 100] ++ demoCheck ++ demoEnter)).uses,
        u.Fresh :=
  ⟨by decide +kernel, (prices_fresh demoBudgets (by decide) _).1 (by decide +kernel)⟩

example : (Desk.run demoBudgets { now := 1000000 }
    ([.opened, demoQuotes 100 101, .tick 4000, demoTrade 100] ++ demoCheck ++ demoEnter)).uses.length
      = 3 := by
  decide +kernel

/-- The quotes of before a disconnect. -/
def demoReconnect : List Event :=
  [.opened, demoQuotes 100 101, .closed, .tick 60000, .opened, demoTrade 90] ++ demoCheck

/-- Quotes an hour old, on an open connection. -/
def demoSilent : List Event :=
  [.opened, demoQuotes 100 101, .tick 3600000, demoTrade 90] ++ demoEnter

/-- The mid price of a position's exits is that of before the disconnect, and an
entry's is an hour old: a trade makes the feed fresh. -/
theorem demo_not_fresh :
    (¬ ∀ u ∈ (Desk.run demoBudgets { now := 1000000 } demoReconnect).uses, u.Fresh) ∧
      ¬ ∀ u ∈ (Desk.run demoBudgets { now := 1000000 } demoSilent).uses, u.Fresh := by
  constructor
  · intro h
    have hcloses : ∀ u ∈ (Desk.run demoBudgets { now := 1000000 } demoReconnect).uses,
        ∀ r ∈ u.prices, ∀ arrival ∈ r.arrivals, arrival.closes = u.closes :=
      fun u hu r hr arrival harrival => ((h u hu r hr).2 arrival harrival).2
    exact absurd hcloses (by decide +kernel)
  · intro h
    have hrecent : ∀ u ∈ (Desk.run demoBudgets { now := 1000000 } demoSilent).uses,
        ∀ r ∈ u.prices, ∀ arrival ∈ r.arrivals, u.time - arrival.time ≤ u.staleMs :=
      fun u hu r hr arrival harrival => ((h u hu r hr).2 arrival harrival).1
    exact absurd hrecent (by decide +kernel)

end CryptoTrader.PriceFeed
