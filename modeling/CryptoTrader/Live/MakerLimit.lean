import CryptoTrader.Live.Frames

/-!
# The maker-limit entry

`acquire_live_entry_fill` of `wallet/_wallet.py`: a passive limit order just
inside the spread, polled until a deadline, cancelled when it has not filled,
and then either replaced by a market order or given up.
-/

namespace CryptoTrader

open CryptoTrader.Lib

/-- The keyword arguments; `polls` is how often the loop runs before the
deadline. -/
structure MakerLimit where
  offsetBps : Decimal := 1
  fallback : String := "market"
  polls : Nat
  deriving DecidableEq

/-- The fill for `open_position`, with the quantity of a partial one. -/
structure EntryFill where
  fill : ExternalFill
  filledQuantity : Option Decimal := none
  deriving DecidableEq

/-- Just inside the spread. -/
def PositionSide.postPrice (side : PositionSide) (limitPrice offsetBps : Decimal) : Decimal :=
  match side with
  | .long => limitPrice * (1 - offsetBps / 10000)
  | .short => limitPrice * (1 + offsetBps / 10000)

/-- How the polling loop ends: on a full fill, or with the quantity last read. -/
inductive PollEnd where
  | full
  | stopped (filled : Decimal)
  deriving DecidableEq

/-- A status read that counts as a full fill. -/
def OrderState.saysFull (st : OrderState) (qty : Decimal) : Bool :=
  st.status.toLower = "filled" || qty ≤ st.filledQuantity

/-- A status read that ends the polling. -/
def OrderState.saysGone (st : OrderState) : Bool :=
  st.status.toLower ∈ ["cancelled", "canceled", "rejected"]

variable (env : Env)

/-- The polling loop, with the polls left; a failed read is skipped. -/
def pollMaker (orderId : String) (symbol : Symbol) (qty : Decimal) :
    Nat → Decimal → Live PollEnd
  | 0, filled => pure (.stopped filled)
  | polls + 1, filled => do
      match ← attempt (getOrderStatus env orderId symbol) with
      | .error _ => pollMaker orderId symbol qty polls filled
      | .ok st =>
          if st.saysFull qty then pure .full
          else if st.saysGone then pure (.stopped st.filledQuantity)
          else pollMaker orderId symbol qty polls st.filledQuantity

/-- `_maker_limit_fallback`. -/
def makerLimitFallback (symbol : Symbol) (side : PositionSide) (qty : Decimal)
    (fallback : String) : Live (Option EntryFill) :=
  if fallback.toLower = "market" then do
    let fill ← venueFill env symbol side qty "entry"
    pure (some ⟨fill, none⟩)
  else pure none

/-- The limit order. -/
def makerOrder (symbol : Symbol) (side : PositionSide) (qty postPrice : Decimal) :
    Live PlacedOrder := do
  modifyWallet Wallet.tick
  let s ← get
  placeOrder env
    { symbol := symbol
      side := side
      quantity := qty
      orderType := .limit
      limitPrice := some postPrice
      leverage := some (s.wallet.getLeverage symbol) }

/-- What the order has filled, once it was cancelled and read again; neither
need succeed. -/
def settleMaker (orderId : String) (symbol : Symbol) (filled : Decimal) : Live Decimal := do
  let _ ← attempt (cancelOrder env orderId)
  match ← attempt (getOrderStatus env orderId symbol) with
  | .error _ => pure filled
  | .ok st => pure st.filledQuantity

/-- The fill a maker order of `qty` is booked at. -/
def makerFill (qty postPrice : Decimal) (orderId : String) : Live ExternalFill := do
  let s ← get
  pure
    { price := postPrice
      fee := s.wallet.calculateFee (postPrice * qty) false
      orderId := orderId }

/-- What follows the polling. -/
def concludeMaker (symbol : Symbol) (side : PositionSide) (qty postPrice : Decimal)
    (fallback orderId : String) : PollEnd → Live (Option EntryFill)
  | .full => do
      let fill ← makerFill qty postPrice orderId
      pure (some ⟨fill, none⟩)
  | .stopped filled => do
      let filled ← settleMaker env orderId symbol filled
      if qty ≤ filled then do
        let fill ← makerFill qty postPrice orderId
        pure (some ⟨fill, none⟩)
      else if 0 < filled then do
        let fill ← makerFill filled postPrice orderId
        pure (some ⟨fill, some filled⟩)
      else makerLimitFallback env symbol side qty fallback

/-- `acquire_live_entry_fill`. -/
def acquireLiveEntryFill (symbol : Symbol) (side : PositionSide) (qty limitPrice : Decimal)
    (options : MakerLimit) : Live (Option EntryFill) := do
  let s ← get
  if s.wallet.liveExecution then do
    let postPrice := side.postPrice limitPrice options.offsetBps
    match ← attempt (makerOrder env symbol side qty postPrice) with
    | .error _ => makerLimitFallback env symbol side qty options.fallback
    | .ok order => do
        let result ← pollMaker env order.id symbol qty options.polls 0
        concludeMaker env symbol side qty postPrice options.fallback order.id result
  else pure none

/-! ## The wallet during the entry -/

section Keeps

variable {symbol : Symbol} {I : Wallet → Prop} (hI : Wallet.Stable symbol I)
include hI

theorem makerOrder_keeps (side : PositionSide) (qty postPrice : Decimal) :
    Moves (World.Keeps I) (makerOrder env symbol side qty postPrice) := by
  refine (modifyWallet_keeps hI.tick).bind (fun _ => Moves.get.bind (fun s => ?_))
  intro s'
  refine wp_mono (placeOrder_wp env _ s') ?_ ?_
  · rintro order s'' ⟨ext, outcome, rfl, -⟩ h
    exact h
  · rintro e s'' ⟨ext, rfl, -⟩ h
    exact h

omit hI in
theorem getOrderStatus_keeps (I : Wallet → Prop) (orderId : String) (symbol : Symbol) :
    Moves (World.Keeps I) (getOrderStatus env orderId symbol) :=
  (getOrderStatus_reads env orderId symbol).mono (fun _ _ h => h.keeps I)

omit hI in
theorem pollMaker_keeps (I : Wallet → Prop) (orderId : String) (symbol : Symbol) (qty : Decimal)
    (polls : Nat) (filled : Decimal) :
    Moves (World.Keeps I) (pollMaker env orderId symbol qty polls filled) := by
  induction polls generalizing filled with
  | zero => exact Moves.pure _
  | succ polls ih =>
      refine (getOrderStatus_keeps env I orderId symbol).attempt.bind (fun result => ?_)
      cases result with
      | error e => exact ih filled
      | ok st =>
          dsimp only
          split
          · exact Moves.pure _
          · split
            · exact Moves.pure _
            · exact ih _

omit hI in
theorem settleMaker_keeps (I : Wallet → Prop) (orderId : String) (symbol : Symbol)
    (filled : Decimal) : Moves (World.Keeps I) (settleMaker env orderId symbol filled) := by
  refine Moves.bind (Moves.attempt ?_) (fun _ => ?_)
  · intro s
    refine wp_mono (cancelOrder_wp env orderId s) ?_ ?_
    · rintro _ s' ⟨ext, rfl, -⟩ h
      exact h
    · rintro _ s' ⟨ext, rfl, -⟩ h
      exact h
  · refine (getOrderStatus_keeps env I orderId symbol).attempt.bind (fun result => ?_)
    cases result with
    | error e => exact Moves.pure _
    | ok st => exact Moves.pure _

theorem makerLimitFallback_keeps (side : PositionSide) (qty : Decimal) (fallback : String) :
    Moves (World.Keeps I) (makerLimitFallback env symbol side qty fallback) := by
  unfold makerLimitFallback
  split
  · exact (venueFill_keeps env hI side qty "entry").bind (fun _ => Moves.pure _)
  · exact Moves.pure _

/-- The call leaves the wallet alone but for the clock. -/
theorem acquireLiveEntryFill_keeps (side : PositionSide) (qty limitPrice : Decimal)
    (options : MakerLimit) :
    Moves (World.Keeps I) (acquireLiveEntryFill env symbol side qty limitPrice options) := by
  have hfill (qty postPrice : Decimal) (orderId : String) :
      Moves (World.Keeps I) (makerFill qty postPrice orderId) :=
    Moves.get.bind (fun _ => Moves.pure _)
  unfold acquireLiveEntryFill
  refine Moves.get.bind (fun s => ?_)
  split
  · refine (makerOrder_keeps env hI side qty _).attempt.bind (fun placed => ?_)
    cases placed with
    | error e => exact makerLimitFallback_keeps env hI side qty _
    | ok order =>
        refine (pollMaker_keeps env I order.id symbol qty options.polls 0).bind (fun result => ?_)
        unfold concludeMaker
        cases result with
        | full => exact (hfill _ _ _).bind (fun _ => Moves.pure _)
        | stopped filled =>
            refine (settleMaker_keeps env I order.id symbol filled).bind (fun filled => ?_)
            split
            · exact (hfill _ _ _).bind (fun _ => Moves.pure _)
            · split
              · exact (hfill _ _ _).bind (fun _ => Moves.pure _)
              · exact makerLimitFallback_keeps env hI side qty _
  · exact Moves.pure _

end Keeps

end CryptoTrader
