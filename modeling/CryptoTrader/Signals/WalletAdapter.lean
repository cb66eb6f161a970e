import CryptoTrader.Engine.Entry
import CryptoTrader.Live.Entry
import CryptoTrader.Management.Assessor
import CryptoTrader.Signals.Pipeline
import CryptoTrader.Wallet.Equity

/-!
# The wallet's adapter

`WalletSignalAdapter` of `execution/signal_bus.py`.  It reads an entry off a signal, obtains a
fill where the wallet trades, has the wallet book it and announces the position.  An entry can be
turned away at each of these stages, which raises nothing.
-/

namespace CryptoTrader.SignalBus

open CryptoTrader.Lib

/-! ## Reading the signal -/

/-- What reading a signal comes to: a value, an exception, or nothing where it holds a number that
is not finite or no text where the wallet needs one. -/
abbrev Reading := ExceptT PyErr Option

/-- What raises is kept until it is asked for. -/
def Reading.deferred {α : Type} (reading : Reading α) : Reading (Except PyErr α) :=
  ExceptT.mk (reading.run.map Except.ok)

/-- A value of which the wallet has no counterpart. -/
def Reading.unheld {α : Type} : Reading α := ExceptT.mk none

def Reading.ofExcept {α : Type} (result : Except PyErr α) : Reading α := ExceptT.mk (some result)

/-- `WalletSignalAdapter`, with the execution engine of its wallet and how often a maker order is
polled until a timeout. -/
structure WalletSignalAdapter where
  py : Python
  engine : Option EngineApi := none
  defaultSlPct : Decimal := 7 / 1000
  defaultTpPct : Decimal := 1 / 100
  eventBus : Bool := false
  polls : Decimal → ℕ := fun _ => 16

/-- What `execute` reads of a signal.  The options of the maker order are read when one is to be
placed. -/
structure EntryRequest where
  symbol : Symbol
  setup : Setup
  entryPrice_pos : 0 < setup.entryPrice
  quantity : Decimal
  maker : Except PyErr MakerLimit
  metadata : PyValue

namespace WalletSignalAdapter

variable (adapter : WalletSignalAdapter)

/-- `float(v)`, where it is finite. -/
def decimal (v : PyValue) : Reading Decimal :=
  match pyFloat adapter.py v with
  | .error e => throw e
  | .ok (.fin x) => pure x
  | .ok _ => Reading.unheld

/-- `meta.get(key, default)`. -/
def metaGet (metadata : PyValue) (key : String) (default : PyValue := .none) : Reading PyValue :=
  Reading.ofExcept (getField metadata key default)

/-- The side: whatever is no `LONG` or `BUY` is short. -/
def side (signal : Signal) : PositionSide :=
  if (pyStr adapter.py signal.side).toUpper ∈ ["LONG", "BUY"] then .long else .short

/-- A price some way in favour of a side, or against it. -/
def offsetPrice (side : PositionSide) (entry pct : Decimal) : Decimal :=
  match side with
  | .long => entry * (1 + pct)
  | .short => entry * (1 - pct)

/-- The entry price: that of the signal, or the one of the metadata. -/
def entryPrice (signal : Signal) (metadata : PyValue) :
    Reading { entry : Decimal // 0 < entry } := do
  let price ← adapter.decimal signal.price
  let entry ←
    if price ≠ 0 then pure price
    else do
      let listed ← metaGet metadata "entry_price" (.int 0)
      adapter.decimal (listed.orElse (.int 0))
  if h : entry ≤ 0 then
    let id := pyStr adapter.py signal.signalId
    throw (.valueError s!"signal {id} has no usable price")
  else pure ⟨entry, not_le.mp h⟩

/-- The price under a key of the metadata, or the default where there is none. -/
def priceOr (metadata : PyValue) (key : String) (default : Decimal) : Reading Decimal := do
  match ← metaGet metadata key with
  | .none => pure default
  | listed => adapter.decimal listed

/-- The hours of the time stop, 18 where none are given. -/
def timeStopHours (metadata : PyValue) : Reading ℤ := do
  match ← metaGet metadata "time_stop_hours" with
  | .none => pure 18
  | .int hours => pure hours
  | .float (.fin hours) => if hours.den = 1 then pure hours.num else Reading.unheld
  | _ => Reading.unheld

/-- One of `tp_levels`; without a price it is left out. -/
def targetLevel (target : PyValue) : Reading (Option TpLevel) := do
  let price ← metaGet target "price"
  if price.truthy then do
    let price ← adapter.decimal price
    let pct ← metaGet target "pct" (.float (.fin 1))
    let pct ← adapter.decimal pct
    match ← metaGet target "label" (.str "TP") with
    | .str label => pure (some { price := price, pct := pct, hit := false, label := label })
    | _ => Reading.unheld
  else pure none

/-- The targets that a list comprehension goes through. -/
def targets : PyValue → Reading (List PyValue)
  | .list targets => pure targets
  | .dict fields => pure (fields.map (fun field => .str field.1))
  | .str text => pure (text.toList.map (fun c => .str c.toString))
  | .surrogates points => pure (points.map (fun point => .surrogates [point]))
  | v =>
      let type := v.typeName
      throw (.typeError s!"'{type}' object is not iterable")

/-- The scale-out targets, or the single one. -/
def takeProfits (metadata : PyValue) (side : PositionSide) (entry : Decimal) :
    Reading (List TpLevel × Option Decimal) := do
  let listed ← metaGet metadata "tp_levels"
  if listed.truthy then do
    let levels ← (← targets listed).mapM adapter.targetLevel
    pure (levels.reduceOption, none)
  else do
    let price ← adapter.priceOr metadata "tp_price" (offsetPrice side entry adapter.defaultTpPct)
    pure ([], some price)

/-- `entry_order_style`. -/
def orderStyle (metadata : PyValue) : Reading EntryOrderStyle := do
  let style ← metaGet metadata "entry_order_style" (.str "market")
  pure (if (pyStr adapter.py style).toLower = "maker_limit" then .makerLimit else .market)

/-- The options of the maker order. -/
def makerLimit (metadata : PyValue) : Reading MakerLimit := do
  let timeout ← adapter.decimal (← metaGet metadata "maker_limit_timeout_s" (.float (.fin 8)))
  let offsetBps ← adapter.decimal (← metaGet metadata "maker_limit_offset_bps" (.float (.fin 1)))
  let fallback ← metaGet metadata "maker_limit_fallback" (.str "market")
  pure { offsetBps := offsetBps, fallback := pyStr adapter.py fallback,
         polls := adapter.polls timeout }

/-- The symbol, where it is a text. -/
def symbolOf : PyValue → Reading Symbol
  | .str name => if h : name ≠ "" then pure ⟨name, h⟩ else Reading.unheld
  | _ => Reading.unheld

/-- `execute`, up to the guard. -/
def request (signal : Signal) : Reading EntryRequest := do
  let metadata := signal.metadata.orElse (.dict [])
  let side := adapter.side signal
  let ⟨entry, hentry⟩ ← adapter.entryPrice signal metadata
  let sl ← adapter.priceOr metadata "sl_price" (offsetPrice side entry (-adapter.defaultSlPct))
  let hours ← timeStopHours metadata
  let (levels, tp) ← adapter.takeProfits metadata side entry
  let style ← adapter.orderStyle metadata
  let quantity ← adapter.decimal signal.quantity
  let maker ← (adapter.makerLimit metadata).deferred
  let symbol ← symbolOf signal.symbol
  pure
    { symbol := symbol
      setup :=
        { side := side
          playbook := .intraday
          entryPrice := entry
          slPrice := sl
          tpLevels := levels
          tpPrice := tp
          entryOrderStyle := style
          timeStopHours := hours }
      entryPrice_pos := hentry
      quantity := quantity
      maker := maker
      metadata := metadata }

/-! ## Executing it -/

variable (env : Env) (r : EntryRequest)

/-- The guard of the venue's minimum; a failed read is logged and ignored. -/
def belowMinimum : Live Bool :=
  if adapter.engine.any EngineApi.mapper then do
    match ← attempt (getSpec env r.symbol) with
    | .error _ => pure false
    | .ok spec => pure (spec.belowMinimum r.setup.entryPrice r.quantity)
  else pure false

/-- The quantity to open, with the fill of the maker order where there is one; nothing where the
entry is too small or the order stays unfilled. -/
def acquire : Live (Option (Decimal × Option ExternalFill)) := do
  if ← adapter.belowMinimum env r then pure none
  else do
    let s ← get
    if r.setup.entryOrderStyle = .makerLimit ∧ s.wallet.liveExecution then do
      let options ← ofReply r.maker
      match ← acquireLiveEntryFill env r.symbol r.setup.side r.quantity r.setup.entryPrice
          options with
      | none => pure none
      | some entry => pure (some (entry.filledQuantity.getD r.quantity, some entry.fill))
    else pure (some (r.quantity, none))

/-- A number of the event that is published. -/
def eventNumber (key : String) : Except PyErr PyFloat := do
  let listed ← getField r.metadata key (.int 0)
  pyFloat adapter.py (listed.orElse (.int 0))

/-- The `TradeOpenedEvent`; publishing it raises nothing. -/
def announcement : Except PyErr Unit := do
  let _ ← adapter.eventNumber r "tech_score"
  let _ ← adapter.eventNumber r "funding_rate"
  let _ ← adapter.eventNumber r "oi_delta"
  pure ()

/-- `execute`, from the guard on. -/
def execute : Live Unit := do
  match ← adapter.acquire env r with
  | none => pure ()
  | some (quantity, fill) => do
      let pos ← openPosition env .none r.symbol r.setup r.setup.entryPrice none (some quantity) fill
      if pos.isSome && adapter.eventBus then ofReply (adapter.announcement r) else pure ()

/-! ## The phases of the opening -/

/-- A fill to be booked, with the quantity that was asked for and the one that went to the venue
in `open_position`. -/
structure EntryOrder where
  quantity : Decimal
  fill : Option ExternalFill
  sent : Option Decimal

/-- The first phase of `open_position`. -/
def placeEntry (quantity : Decimal) (fill : Option ExternalFill) : Live (Option EntryOrder) := do
  let s ← get
  if fill.isNone ∧ s.wallet.liveExecution then do
    match ← ofReply (s.wallet.openPlan r.symbol r.setup none (some quantity)) with
    | none => pure none
    | some sent => do
        let fill ← venueFill env r.symbol r.setup.side sent "entry"
        pure (some ⟨quantity, some fill, some sent⟩)
  else pure (some ⟨quantity, fill, none⟩)

/-- All that comes before an entry is booked. -/
def order : Live (Option EntryOrder) := do
  match ← adapter.acquire env r with
  | none => pure none
  | some (quantity, fill) => placeEntry env r quantity fill

/-- What follows. -/
def conclude : Option EntryOrder → Live Unit
  | none => pure ()
  | some o => do
      let pos ← openBook env r.symbol r.setup r.setup.entryPrice none (some o.quantity) o.fill
        o.sent
      if pos.isSome && adapter.eventBus then ofReply (adapter.announcement r) else pure ()

theorem openPosition_eq (quantity : Decimal) (fill : Option ExternalFill) :
    openPosition env .none r.symbol r.setup r.setup.entryPrice none (some quantity) fill = (do
      match ← placeEntry env r quantity fill with
      | none => pure none
      | some o =>
          openBook env r.symbol r.setup r.setup.entryPrice none (some o.quantity) o.fill
            o.sent) := by
  unfold openPosition placeEntry
  rw [bind_assoc]
  refine bind_congr (fun s => ?_)
  by_cases hlive : fill.isNone ∧ s.wallet.liveExecution
  · rw [if_pos hlive, if_pos hlive, bind_assoc]
    refine bind_congr (fun plan => ?_)
    cases plan with
    | none => rfl
    | some sent =>
        show (venueFill env r.symbol r.setup.side sent "entry" >>= _) = _
        dsimp only
        rw [bind_assoc]
        rfl
  · rw [if_neg hlive, if_neg hlive]
    rfl

theorem execute_eq : adapter.execute env r = adapter.order env r >>= adapter.conclude env r := by
  unfold execute order
  rw [bind_assoc]
  refine bind_congr (fun acquired => ?_)
  cases acquired with
  | none => rfl
  | some entry =>
      obtain ⟨quantity, fill⟩ := entry
      dsimp only
      rw [openPosition_eq, bind_assoc]
      refine bind_congr (fun placed => ?_)
      cases placed with
      | none => rfl
      | some o => rfl

end WalletSignalAdapter

/-! ## What is booked -/

/-- An event that a position was opened. -/
def announcesOpen : Payload → Bool
  | .positionOpened _ => true
  | _ => false

/-- The wallet has opened a position between the two states. -/
def opens (s s' : World) : Bool := (s.wallet.appended s'.wallet).any announcesOpen

/-- The wallet has logged more since, and no opening. -/
structure Unopened (symbol : Symbol) (w w' : Wallet) : Prop where
  only : Wallet.OnlyAt symbol w w'
  unopened : ∀ p ∈ w.appended w', announcesOpen p = false

section Unopened

variable {symbol : Symbol} {w w' w'' : Wallet}

theorem Unopened.refl (h : w.Aligned) : Unopened symbol w w :=
  ⟨.refl h, by simp⟩

theorem Unopened.trans (h : Unopened symbol w w') (h' : Unopened symbol w' w'') :
    Unopened symbol w w'' := by
  refine ⟨h.only.trans h'.only, ?_⟩
  obtain ⟨new, hnew⟩ := h.only.log
  obtain ⟨new', hnew'⟩ := h'.only.log
  have hfirst := h.unopened
  have hrest := h'.unopened
  unfold Wallet.appended at hfirst hrest ⊢
  rw [← hnew, List.drop_left] at hfirst
  rw [← hnew', List.drop_left] at hrest
  rw [← hnew', ← hnew, List.append_assoc, List.drop_left, List.map_append]
  intro p hp
  rcases List.mem_append.mp hp with hp | hp
  · exact hfirst p hp
  · exact hrest p hp

theorem Unopened.same (h : Unopened symbol w w') (honly : Wallet.OnlyAt symbol w' w'')
    (hlog : w''.log = w'.log) : Unopened symbol w w'' :=
  h.trans ⟨honly, by simp [Wallet.appended, hlog]⟩

theorem Unopened.stable (symbol : Symbol) (w : Wallet) :
    Wallet.Stable symbol (Unopened symbol w) := by
  refine ⟨fun _ h => h.only.aligned, fun v h => ?_, fun v h => ?_, fun v f payload h hpayload => ?_⟩
  · exact h.same (Wallet.OnlyAt.refl h.only.aligned).tick rfl
  · exact h.same (Wallet.OnlyAt.refl h.only.aligned).save (Wallet.log_save v)
  · have hquiet : announcesOpen payload = false ∧ payload.target? = some symbol := by
      rcases hpayload with rfl | ⟨placed, rfl⟩
      · exact ⟨rfl, rfl⟩
      · exact ⟨rfl, rfl⟩
    refine h.trans ⟨?_, fun p hp => ?_⟩
    · refine (Wallet.OnlyAt.refl h.only.aligned).editEmit ?_ hquiet.2
      exact fun _ hopen => hopen
    · obtain ⟨e, he, rfl⟩ := Wallet.mem_appended_of_log (w := v) (Wallet.log_emit _ payload) hp
      rw [List.mem_singleton.mp he]
      exact hquiet.1

end Unopened

/-- What the wallet asks of an entry when it books it. -/
structure WalletSignalAdapter.EntryOrder.Admitted (o : WalletSignalAdapter.EntryOrder)
    (r : EntryRequest) (w : Wallet) : Prop where
  eligible : (w.canOpen r.symbol).1
  sent : ∀ sent ∈ o.sent,
    sent * r.setup.entryPrice / (w.getLeverage r.symbol : ℕ) ≤ w.availableBalance
  unsent : o.sent = none → 0 < w.availableBalance * w.cfg.equityUtilization ∧
    (0 < o.quantity →
      o.quantity * r.setup.entryPrice / (w.getLeverage r.symbol : ℕ) ≤ w.availableBalance)
  collar : o.fill = none → r.setup.entryOrderStyle = .market → 0 < w.cfg.paperCollarPct →
    |w.executionPrice r.setup.entryPrice r.setup.side true r.setup.spreadBps r.setup.slippageBps -
      r.setup.entryPrice| / r.setup.entryPrice ≤ w.cfg.paperCollarPct

section Booking

variable {r : EntryRequest} {o : WalletSignalAdapter.EntryOrder} {w : Wallet}

instance : Decidable (o.Admitted r w) :=
  decidable_of_iff
    ((w.canOpen r.symbol).1 ∧
      (∀ sent ∈ o.sent,
        sent * r.setup.entryPrice / (w.getLeverage r.symbol : ℕ) ≤ w.availableBalance) ∧
      (o.sent = none → 0 < w.availableBalance * w.cfg.equityUtilization ∧
        (0 < o.quantity →
          o.quantity * r.setup.entryPrice / (w.getLeverage r.symbol : ℕ) ≤ w.availableBalance)) ∧
      (o.fill = none → r.setup.entryOrderStyle = .market → 0 < w.cfg.paperCollarPct →
        |w.executionPrice r.setup.entryPrice r.setup.side true r.setup.spreadBps
            r.setup.slippageBps - r.setup.entryPrice| / r.setup.entryPrice ≤
          w.cfg.paperCollarPct))
    ⟨fun h => ⟨h.1, h.2.1, h.2.2.1, h.2.2.2⟩, fun h => ⟨h.eligible, h.sent, h.unsent, h.collar⟩⟩

theorem WalletSignalAdapter.EntryOrder.Admitted.sized (h : o.Admitted r w) :
    ∃ size, w.sizeOpen r.symbol r.setup none (some o.quantity) o.sent = .ok (some size) := by
  cases hsent : o.sent with
  | some sent =>
      exact ⟨_, (Wallet.sizeOpen_sent w _ _ _ _ sent).trans
        (if_pos ⟨h.eligible, h.sent sent hsent⟩)⟩
  | none =>
      obtain ⟨hmargin, hquantity⟩ := h.unsent hsent
      unfold Wallet.sizeOpen
      rw [h.eligible]
      simp only [Bool.not_true, Bool.false_eq_true, if_false]
      dsimp only [Option.getD_none]
      rw [if_neg (not_le.mpr hmargin)]
      by_cases hpos : 0 < o.quantity
      · rw [Option.filter_some_pos (by simpa using hpos)]
        exact ⟨_, if_neg (not_lt.mpr (hquantity hpos))⟩
      · rw [Option.filter_some_neg (by simpa using hpos)]
        exact ⟨_, if_neg r.entryPrice_pos.ne'⟩

/-- The order that is created leaves the settings alone. -/
theorem WalletSignalAdapter.EntryOrder.Admitted.executed (h : o.Admitted r w) {v : Wallet}
    (hcfg : v.cfg = w.cfg) (created : Order) (quantity : Decimal) :
    ∃ price fee v', v.executeEntry created r.symbol r.setup quantity r.setup.entryPrice o.fill =
      (some (price, fee), v') := by
  unfold Wallet.executeEntry
  cases hfill : o.fill with
  | some fill => exact ⟨_, _, _, rfl⟩
  | none =>
      cases hstyle : r.setup.entryOrderStyle with
      | makerLimit => exact ⟨_, _, _, rfl⟩
      | market =>
          have hcollar := h.collar hfill hstyle
          have hprice : v.executionPrice r.setup.entryPrice r.setup.side true r.setup.spreadBps
              r.setup.slippageBps = w.executionPrice r.setup.entryPrice r.setup.side true
                r.setup.spreadBps r.setup.slippageBps := by
            unfold Wallet.executionPrice
            rw [hcfg]
          dsimp only
          rw [hprice, hcfg, if_neg (fun hrejected => ?_)]
          · exact ⟨_, _, _, rfl⟩
          · exact absurd hrejected.2.2 (not_lt.mpr (hcollar hrejected.1))

/-- What is admitted is booked, and announced in the log. -/
theorem WalletSignalAdapter.EntryOrder.Admitted.booked (haligned : w.Aligned)
    (h : o.Admitted r w) :
    ∃ pos w', w.bookOpen r.symbol r.setup r.setup.entryPrice none (some o.quantity) o.fill o.sent =
        (.ok (some pos), w') ∧ w'.Aligned ∧ pos.symbol = r.symbol ∧ w.log <+: w'.log ∧
      (w.appended w').any announcesOpen = true := by
  obtain ⟨size, hsize⟩ := h.sized
  obtain ⟨created, w₁, hcreated⟩ : ∃ created w₁,
      w.createOrder r.symbol r.setup.side size.quantity = (created, w₁) := ⟨_, _, rfl⟩
  have hw₁ : w₁ = (w.createOrder r.symbol r.setup.side size.quantity).2 := by rw [hcreated]
  have hcfg : w₁.cfg = w.cfg := by
    rw [hw₁]
    rfl
  obtain ⟨price, fee, w₂, hexecuted⟩ := h.executed hcfg created size.quantity
  have hbook : w.bookOpen r.symbol r.setup r.setup.entryPrice none (some o.quantity) o.fill o.sent =
      (.ok (some (w₂.bookPosition r.symbol r.setup size price fee r.setup.entryPrice).1),
        (w₂.bookPosition r.symbol r.setup size price fee r.setup.entryPrice).2) := by
    unfold Wallet.bookOpen
    rw [hsize]
    simp only [hcreated, hexecuted]
  obtain ⟨hannounced, -⟩ := Wallet.bookOpen_announced haligned r.symbol r.setup r.setup.entryPrice
    none (some o.quantity) o.fill o.sent
  rw [hbook] at hannounced
  obtain ⟨hworth, -, _, _, -, hbooks⟩ := hannounced _ rfl
  have hsteps : Wallet.Steps w w₂ := by
    have horder : Wallet.Steps w w₁ := hw₁ ▸ (Wallet.Steps.refl w).createOrderWithType _
    have hentry := horder.executeEntry r.symbol r.setup.entryPrice created r.setup size.quantity
      o.fill
    rwa [hexecuted] at hentry
  refine ⟨_, _, hbook, hworth.aligned, hbooks.symbol, ?_, ?_⟩
  · obtain ⟨new, hnew⟩ :=
      (hsteps.bookPosition r.symbol r.setup.entryPrice r.setup size price fee).log_extends
    exact ⟨new, hnew.symm⟩
  · refine List.any_eq_true.mpr ⟨.positionOpened _, Wallet.Steps.mem_appended ?_ _ (.refl _), rfl⟩
    exact (((hsteps.tick.emit _).chargeTds _ _ _).setPosition _ _).syncUnrealizedTotal

end Booking

/-! ## What an entry comes to -/

namespace WalletSignalAdapter

variable (adapter : WalletSignalAdapter) (env : Env) (r : EntryRequest)

/-- An entry that is not turned away without an exception: the fill is obtained or refused with
one, the wallet admits it, a required stop is placed, and the event can be built. -/
structure Regular (s : World) : Prop where
  ordered : ∀ s', adapter.order env r s ≠ .ok none s'
  admitted : ∀ o s', adapter.order env r s = .ok (some o) s' → o.Admitted r s'.wallet
  stopped : ∀ o s', adapter.order env r s = .ok (some o) s' → ∀ pos w',
    s'.wallet.bookOpen r.symbol r.setup r.setup.entryPrice none (some o.quantity) o.fill o.sent =
      (.ok (some pos), w') →
    ∀ msg s'', attemptProtective env pos { s' with wallet := w' } ≠ .ok (.failed msg) s''
  announced : ∀ o s', adapter.order env r s = .ok (some o) s' → adapter.eventBus →
    adapter.announcement r = .ok ()

variable {adapter env r} {s : World}

section Unopened

variable (w : Wallet)

theorem acquire_unopened :
    Moves (World.Keeps (Unopened r.symbol w)) (adapter.acquire env r) := by
  have hbelow : Moves (World.Keeps (Unopened r.symbol w)) (adapter.belowMinimum env r) := by
    unfold belowMinimum
    split
    · have hread : Moves (World.Keeps (Unopened r.symbol w)) (getSpec env r.symbol) :=
        (getSpec_reads env r.symbol).mono (fun _ _ h => h.keeps _)
      refine hread.attempt.bind (fun reply => ?_)
      cases reply with
      | error e => exact Moves.pure _
      | ok spec => exact Moves.pure _
    · exact Moves.pure _
  refine hbelow.bind (fun below => ?_)
  cases below with
  | true => exact Moves.pure _
  | false =>
      refine Moves.get.bind (fun s => ?_)
      split
      · refine Moves.bind ?_ (fun options => ?_)
        · cases r.maker with
          | ok options => exact Moves.pure _
          | error e => exact Moves.throw _
        · refine (acquireLiveEntryFill_keeps env (Unopened.stable r.symbol w) _ _ _ _).bind
            (fun entry => ?_)
          cases entry with
          | none => exact Moves.pure _
          | some entry => exact Moves.pure _
      · exact Moves.pure _

theorem order_unopened : Moves (World.Keeps (Unopened r.symbol w)) (adapter.order env r) := by
  refine (acquire_unopened w).bind (fun acquired => ?_)
  cases acquired with
  | none => exact Moves.pure _
  | some entry =>
      obtain ⟨quantity, fill⟩ := entry
      refine Moves.get.bind (fun s => ?_)
      split
      · refine Moves.bind ?_ (fun plan => ?_)
        · cases s.wallet.openPlan r.symbol r.setup none (some quantity) with
          | ok plan => exact Moves.pure _
          | error e => exact Moves.throw _
        · cases plan with
          | none => exact Moves.pure _
          | some sent =>
              refine (venueFill_keeps env (Unopened.stable r.symbol w) _ _ _).bind (fun fill => ?_)
              exact Moves.pure _
      · exact Moves.pure _

end Unopened

/-- What is logged when nothing was opened. -/
theorem not_opens_of_unopened {s' : World} (h : Unopened r.symbol s.wallet s'.wallet) :
    opens s s' = false := by
  unfold opens
  rw [List.any_eq_false]
  intro p hp
  rw [h.unopened p hp]
  exact Bool.false_ne_true

/-- An opening that is logged in between. -/
theorem opens_of_between {s' s'' : World} {w : Wallet} (hbefore : s.wallet.log <+: s'.wallet.log)
    (hbooked : s'.wallet.log <+: w.log) (hafter : w.log <+: s''.wallet.log)
    (h : (s'.wallet.appended w).any announcesOpen = true) : opens s s'' = true := by
  obtain ⟨old, hold⟩ := hbefore
  obtain ⟨new, hnew⟩ := hbooked
  obtain ⟨rest, hrest⟩ := hafter
  unfold opens
  unfold Wallet.appended at h ⊢
  rw [← hnew, List.drop_left] at h
  rw [← hrest, ← hnew, ← hold, List.append_assoc, List.append_assoc, List.drop_left,
    List.map_append, List.map_append, List.any_append, List.any_append, h, Bool.true_or,
    Bool.or_true]

/-- An entry that is admitted, whose stop is placed and whose event can be built, is opened, and
nothing raises. -/
theorem conclude_opens {s' : World} {o : EntryOrder} (hbefore : s.wallet.log <+: s'.wallet.log)
    (haligned : s'.wallet.Aligned) (hadmitted : o.Admitted r s'.wallet)
    (hstopped : ∀ pos w', s'.wallet.bookOpen r.symbol r.setup r.setup.entryPrice none
        (some o.quantity) o.fill o.sent = (.ok (some pos), w') →
      ∀ msg s'', attemptProtective env pos { s' with wallet := w' } ≠ .ok (.failed msg) s'')
    (hannounced : adapter.eventBus → adapter.announcement r = .ok ()) :
    wp (adapter.conclude env r (some o)) (fun _ s'' => opens s s'' = true) (fun _ _ => False)
      s' := by
  obtain ⟨pos, w', hbook, haligned', hsymbol, hlog, hopened⟩ := hadmitted.booked haligned
  have hstable := Unopened.stable r.symbol w'
  unfold conclude openBook ofReply
  rw [wp_bind, wp_bind, wp_onWallet, hbook]
  dsimp only
  rw [wp_bind, wp_pure]
  dsimp only
  rw [wp_bind, placeProtectiveOrders_eq, wp_bind]
  refine wp_mono (wp_and (wp_and (attemptProtective_wp env pos _) (wp_run _ _))
    (World.wp_of_keeps (attemptProtective_keeps env (Unopened r.symbol w') pos)
      (.refl haligned'))) ?_ (fun _ _ h => h.1.1.elim)
  rintro result s₁ ⟨⟨-, hattempt⟩, hs₁⟩
  cases result with
  | failed msg => exact absurd hattempt (hstopped pos w' hbook msg s₁)
  | placed orders =>
      have hrecorded : wp (recordProtective pos orders) (fun _ s₂ => Unopened r.symbol w' s₂.wallet)
          (fun _ _ => False) s₁ := by
        unfold recordProtective
        rw [wp_ite, wp_modifyWallet, wp_pure, hsymbol]
        exact ⟨fun _ => hstable.dress _ _ _ hs₁ (Or.inr ⟨orders, rfl⟩), fun _ => hs₁⟩
      refine wp_mono hrecorded ?_ (fun _ _ h => h)
      intro _ s₂ hs₂
      rw [wp_bind, wp_modifyWallet, wp_bind, wp_current, wp_pure]
      have hopens : opens s { s₂ with wallet := s₂.wallet.save } = true :=
        opens_of_between hbefore hlog (hstable.save _ hs₂).only.log hopened
      cases hbus : adapter.eventBus with
      | false => exact hopens
      | true =>
          rw [hannounced hbus]
          exact hopens

/-- Without an engine and in paper mode the quantity is that of the signal. -/
theorem order_paper (env : Env) (r : EntryRequest) (hengine : adapter.engine = none)
    (hpaper : s.wallet.liveExecution = false) :
    adapter.order env r s = .ok (some ⟨r.quantity, none, none⟩) s := by
  have hbelow : adapter.belowMinimum env r s = .ok false s := by
    unfold belowMinimum
    rw [hengine, if_neg (by decide)]
    rfl
  have hacquire : adapter.acquire env r s = .ok (some (r.quantity, none)) s := by
    unfold acquire
    rw [bind_of_ok hbelow, if_neg Bool.false_ne_true,
      bind_of_ok (show (get : Live World) s = .ok s s from rfl), hpaper,
      if_neg (fun h => Bool.false_ne_true h.2)]
    rfl
  unfold order
  rw [bind_of_ok hacquire]
  dsimp only
  unfold placeEntry
  rw [bind_of_ok (show (get : Live World) s = .ok s s from rfl), hpaper,
    if_neg (fun h => Bool.false_ne_true h.2)]
  rfl

/-- In paper mode an entry is regular once the wallet admits it and the event can be built. -/
theorem Regular.paper (hengine : adapter.engine = none) (hpaper : s.wallet.liveExecution = false)
    (haligned : s.wallet.Aligned)
    (hadmitted : EntryOrder.Admitted ⟨r.quantity, none, none⟩ r s.wallet)
    (hannounced : adapter.eventBus → adapter.announcement r = .ok ()) :
    adapter.Regular env r s := by
  have horder := order_paper env r hengine hpaper
  refine ⟨fun s' h => ?_, fun o s' h => ?_, fun o s' h pos w' hbook msg s'' hfailed => ?_,
    fun _ _ _ => hannounced⟩
  · rw [horder] at h
    cases h
  · rw [horder] at h
    cases h
    exact hadmitted
  · rw [horder] at h
    cases h
    have hlive := attemptProtective_failed env hfailed
    obtain ⟨hannounces, -⟩ := Wallet.bookOpen_announced haligned r.symbol r.setup r.setup.entryPrice
      none (some r.quantity) none none
    rw [hbook] at hannounces
    obtain ⟨hworth, -⟩ := hannounces pos rfl
    have hsame : w'.liveExecution = false := hworth.settings.liveExecution.trans hpaper
    exact Bool.false_ne_true (hsame.symm.trans hlive)

/-- **A regular entry is opened or raises before.** -/
theorem execute_tells (haligned : s.wallet.Aligned) (h : adapter.Regular env r s) :
    wp (adapter.execute env r) (fun _ s' => opens s s' = true) (fun _ s' => opens s s' = false)
      s := by
  have hkeeps : Moves (World.Keeps (Unopened r.symbol s.wallet)) (adapter.order env r) :=
    order_unopened s.wallet
  have hunopened := World.wp_of_keeps hkeeps (Unopened.refl haligned)
  rw [execute_eq, wp_bind]
  refine wp_mono (wp_and hunopened (wp_run _ _)) ?_ (fun _ s' h => not_opens_of_unopened h.1)
  rintro placed s' ⟨hs', horder⟩
  cases placed with
  | none => exact absurd horder (h.ordered s')
  | some o =>
      refine wp_mono (conclude_opens hs'.only.log hs'.only.aligned (h.admitted o s' horder)
        (h.stopped o s' horder) (h.announced o s' horder)) (fun _ _ h => h) (fun _ _ h => h.elim)

end WalletSignalAdapter

end CryptoTrader.SignalBus
