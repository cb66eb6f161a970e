import CryptoTrader.Live.MakerLimit

/-!
# What a maker-limit entry executes

Whether the quantity that `acquire_live_entry_fill` tells `open_position` to
book is the quantity the venue executes.  Its second
stage books the last reading of the limit order, or sends a market order for
the whole quantity.
-/

namespace CryptoTrader

open CryptoTrader.Lib

/-! ## Executed quantities -/

/-- What the venue executes on a created order. -/
def Created.filled (c : Created) : Decimal := if c.outcome.accepted then c.outcome.executed else 0

/-- What the venue executes on the orders of a record. -/
def executedQuantity (trace : List Interaction) : Decimal :=
  ((created trace).map Created.filled).sum

/-- What it executes on the orders created between two states. -/
def World.executedTo (s s' : World) : Decimal := executedQuantity s'.trace - executedQuantity s.trace

theorem World.executedTo_self (s : World) : s.executedTo s = 0 := sub_self _

/-! ## The two stages -/

/-- What the call goes by once it is done with the limit order. -/
inductive MakerReading where
  | full (orderId : String)
  | part (orderId : String) (filled : Decimal)
  | nothing
  deriving DecidableEq

/-- A settled quantity as a reading. -/
def MakerReading.ofFilled (qty : Decimal) (orderId : String) (filled : Decimal) : MakerReading :=
  if qty ≤ filled then .full orderId
  else if 0 < filled then .part orderId filled
  else .nothing

variable (env : Env)

/-- The stage of the limit order. -/
def readMaker (symbol : Symbol) (side : PositionSide) (qty postPrice : Decimal) (polls : Nat) :
    Live MakerReading := do
  match ← attempt (makerOrder env symbol side qty postPrice) with
  | .error _ => pure .nothing
  | .ok order => do
      match ← pollMaker env order.id symbol qty polls 0 with
      | .full => pure (.full order.id)
      | .stopped filled => do
          let filled ← settleMaker env order.id symbol filled
          pure (.ofFilled qty order.id filled)

/-- The stage of the booking, or of the fallback. -/
def bookReading (symbol : Symbol) (side : PositionSide) (qty postPrice : Decimal)
    (fallback : String) : MakerReading → Live (Option EntryFill)
  | .full orderId => do
      let fill ← makerFill qty postPrice orderId
      pure (some ⟨fill, none⟩)
  | .part orderId filled => do
      let fill ← makerFill filled postPrice orderId
      pure (some ⟨fill, some filled⟩)
  | .nothing => makerLimitFallback env symbol side qty fallback

/-- The live call is its two stages. -/
theorem acquireLiveEntryFill_eq {symbol : Symbol} {side : PositionSide} {qty limitPrice : Decimal}
    {options : MakerLimit} {s : World} (hlive : s.wallet.liveExecution) :
    acquireLiveEntryFill env symbol side qty limitPrice options s =
      (readMaker env symbol side qty (side.postPrice limitPrice options.offsetBps) options.polls >>=
        bookReading env symbol side qty (side.postPrice limitPrice options.offsetBps)
          options.fallback) s := by
  unfold acquireLiveEntryFill readMaker
  rw [bind_of_ok (show (get : Live World) s = .ok s s from rfl), if_pos hlive, bind_assoc]
  refine congrFun (bind_congr (fun placed => ?_)) s
  cases placed with
  | error e => rfl
  | ok order =>
      dsimp only
      rw [bind_assoc]
      refine bind_congr (fun result => ?_)
      cases result with
      | full => rfl
      | stopped filled =>
          unfold concludeMaker
          dsimp only
          rw [bind_assoc]
          refine bind_congr (fun filled => ?_)
          rw [pure_bind]
          unfold MakerReading.ofFilled
          by_cases hfull : qty ≤ filled
          · rw [if_pos hfull, if_pos hfull]
            rfl
          · rw [if_neg hfull, if_neg hfull]
            by_cases hpart : 0 < filled
            · rw [if_pos hpart, if_pos hpart]
              rfl
            · rw [if_neg hpart, if_neg hpart]
              rfl

/-! ## The reading of the limit order -/

/-- A partial reading is less than the whole. -/
def MakerReading.Partial (qty : Decimal) : MakerReading → Prop
  | .part _ filled => 0 < filled ∧ filled < qty
  | _ => True

theorem MakerReading.ofFilled_partial (qty : Decimal) (orderId : String) (filled : Decimal) :
    (MakerReading.ofFilled qty orderId filled).Partial qty := by
  unfold MakerReading.ofFilled
  by_cases hfull : qty ≤ filled
  · rw [if_pos hfull]
    trivial
  · rw [if_neg hfull]
    by_cases hpart : 0 < filled
    · rw [if_pos hpart]
      exact ⟨hpart, not_le.mp hfull⟩
    · rw [if_neg hpart]
      trivial

/-- What the polls and the cancel add to the record creates no order. -/
def World.CreatesNone (s s' : World) : Prop := ∃ ext, s' = s.extend ext ∧ created ext = []

instance : Std.Refl World.CreatesNone := ⟨fun s => ⟨[], by simp, rfl⟩⟩

instance : IsTrans World World.CreatesNone := by
  refine ⟨?_⟩
  rintro s _ _ ⟨ext, rfl, hext⟩ ⟨ext', rfl, hext'⟩
  exact ⟨ext ++ ext', by simp, by rw [created_append, hext, hext', List.append_nil]⟩

theorem World.Reads.createsNone {s s' : World} (h : s.Reads s') : s.CreatesNone s' := by
  obtain ⟨ext, rfl, hext⟩ := h
  exact ⟨ext, rfl, created_reads hext⟩

theorem cancelOrder_createsNone (orderId : String) :
    Moves World.CreatesNone (cancelOrder env orderId) := by
  have hcancels (ext : List Interaction) (h : ∀ i ∈ ext, i.cancels [orderId]) : created ext = [] := by
    refine List.filterMap_eq_nil_iff.mpr (fun i hi => ?_)
    have hcancel := h i hi
    cases i with
    | cancelOrder _ _ => rfl
    | _ => cases hcancel
  intro s
  refine wp_mono (cancelOrder_wp env orderId s) ?_ ?_
  · rintro _ s' ⟨ext, rfl, hext⟩
    exact ⟨ext, rfl, hcancels ext hext⟩
  · rintro _ s' ⟨ext, rfl, hext⟩
    exact ⟨ext, rfl, hcancels ext hext⟩

/-- The polls. -/
theorem pollMaker_wp (orderId : String) (symbol : Symbol) (qty : Decimal) (polls : Nat)
    (filled : Decimal) (s : World) :
    wp (pollMaker env orderId symbol qty polls filled) (fun _ s' => s.CreatesNone s')
      (fun _ _ => False) s := by
  induction polls generalizing filled s with
  | zero => exact refl_of World.CreatesNone s
  | succ polls ih =>
      have hread := (getOrderStatus_reads env orderId symbol).mono (fun _ _ h => h.createsNone) s
      have hrest (s₁ : World) (h : s.CreatesNone s₁) (filled : Decimal) :
          wp (pollMaker env orderId symbol qty polls filled) (fun _ s' => s.CreatesNone s')
            (fun _ _ => False) s₁ :=
        wp_mono (ih filled s₁) (fun _ _ h' => trans_of World.CreatesNone h h') (fun _ _ h => h)
      unfold pollMaker
      rw [wp_bind, wp_attempt]
      refine wp_mono hread ?_ ?_
      · intro st s₁ h
        dsimp only
        rw [wp_ite, wp_ite]
        exact ⟨fun _ => h, fun _ => ⟨fun _ => h, fun _ => hrest s₁ h _⟩⟩
      · intro e s₁ h
        exact hrest s₁ h _

theorem settleMaker_wp (orderId : String) (symbol : Symbol) (filled : Decimal) (s : World) :
    wp (settleMaker env orderId symbol filled) (fun _ s' => s.CreatesNone s') (fun _ _ => False)
      s := by
  have hread (s₁ : World) := (getOrderStatus_reads env orderId symbol).mono
    (fun _ _ h => h.createsNone) s₁
  unfold settleMaker
  rw [wp_bind, wp_attempt]
  refine wp_mono (cancelOrder_createsNone env orderId s) (fun _ s₁ h => ?_) (fun _ s₁ h => ?_)
  · rw [wp_bind, wp_attempt]
    exact wp_mono (hread s₁) (fun _ _ h' => trans_of World.CreatesNone h h')
      (fun _ _ h' => trans_of World.CreatesNone h h')
  · rw [wp_bind, wp_attempt]
    exact wp_mono (hread s₁) (fun _ _ h' => trans_of World.CreatesNone h h')
      (fun _ _ h' => trans_of World.CreatesNone h h')

/-- The limit order the call sends. -/
def Wallet.makerRequest (w : Wallet) (symbol : Symbol) (side : PositionSide)
    (qty postPrice : Decimal) : PlaceOrder :=
  { symbol := symbol
    side := side
    quantity := qty
    orderType := .limit
    limitPrice := some postPrice
    leverage := some (w.getLeverage symbol) }

/-- The first stage creates the limit order or none, and never raises. -/
theorem readMaker_wp (symbol : Symbol) (side : PositionSide) (qty postPrice : Decimal)
    (polls : Nat) (s : World) :
    wp (readMaker env symbol side qty postPrice polls)
      (fun reading s' => reading.Partial qty ∧ ∃ ext, s' = s.ticked.extend ext ∧
        (created ext = [] ∨ ∃ outcome, created ext =
          [(s.wallet.makerRequest symbol side qty postPrice).record env s.ticked outcome]))
      (fun _ _ => False) s := by
  set r := s.wallet.makerRequest symbol side qty postPrice
  have hadded {ext : List Interaction} (hcreates : created ext = [] ∨ ∃ outcome, created ext =
      [r.record env s.ticked outcome]) {s' : World} (h : (s.ticked.extend ext).CreatesNone s') :
      ∃ ext', s' = s.ticked.extend ext' ∧ (created ext' = [] ∨ ∃ outcome, created ext' =
        [r.record env s.ticked outcome]) := by
    obtain ⟨after, rfl, hafter⟩ := h
    refine ⟨ext ++ after, by simp, ?_⟩
    rw [created_append, hafter, List.append_nil]
    exact hcreates
  unfold readMaker makerOrder
  rw [wp_bind, wp_attempt, wp_bind, wp_modifyWallet, wp_bind, wp_get]
  refine wp_mono (placeOrder_wp env r s.ticked) ?_ ?_
  · rintro order _ ⟨ext, outcome, rfl, -, hcreated, -⟩
    have hcreates : created ext = [] ∨ ∃ outcome, created ext = [r.record env s.ticked outcome] :=
      Or.inr ⟨outcome, hcreated⟩
    dsimp only
    rw [wp_bind]
    refine wp_mono (pollMaker_wp env order.id symbol qty polls 0 _) ?_ (fun _ _ h => h)
    intro result s₁ h₁
    cases result with
    | full => exact ⟨trivial, hadded hcreates h₁⟩
    | stopped filled =>
        dsimp only
        rw [wp_bind]
        refine wp_mono (settleMaker_wp env order.id symbol filled s₁) ?_ (fun _ _ h => h)
        intro filled s₂ h₂
        exact ⟨MakerReading.ofFilled_partial qty order.id filled,
          hadded hcreates (trans_of World.CreatesNone h₁ h₂)⟩
  · rintro e _ ⟨ext, rfl, hadds⟩
    exact ⟨trivial, ext, rfl, hadds.creates⟩

/-! ## Exact acquisition -/

/-- The quantity that is booked for what the call returns. -/
def EntryFill.booked (entry : Option EntryFill) (qty : Decimal) : Decimal :=
  entry.elim 0 (fun entry => entry.filledQuantity.getD qty)

/-- The venue executes no more than the requested quantity on behalf of the
call, and what is booked if the call returns. -/
def AcquiresExactly (symbol : Symbol) (side : PositionSide) (qty limitPrice : Decimal)
    (options : MakerLimit) (s : World) : Prop :=
  match acquireLiveEntryFill env symbol side qty limitPrice options s with
  | .ok entry s' => s.executedTo s' = EntryFill.booked entry qty ∧ s.executedTo s' ≤ qty
  | .error _ s' => s.executedTo s' ≤ qty

/-- The reading is what the venue executes on the limit order, `limit`; with
nothing read, a market order in its place executes the rest of the quantity. -/
def MakerReading.Truthful (symbol : Symbol) (side : PositionSide) (qty : Decimal)
    (fallback : String) (limit : Decimal) (s : World) : MakerReading → Prop
  | .full _ => limit = qty
  | .part _ filled => limit = filled
  | .nothing =>
      if fallback.toLower = "market" then
        match venueFill env symbol side qty "entry" s with
        | .ok _ s' => s.executedTo s' = qty - limit
        | .error _ s' => s.executedTo s' ≤ qty - limit
      else limit = 0

section Exact

variable {symbol : Symbol} {side : PositionSide} {qty postPrice : Decimal} {fallback : String}
  {s s₁ : World}

/-- The second stage from a reading that took the venue `limit` to execute. -/
theorem bookReading_exact_iff (hqty : 0 ≤ qty) {reading : MakerReading}
    (hslice : reading.Partial qty) :
    (match bookReading env symbol side qty postPrice fallback reading s₁ with
      | .ok entry s' => s.executedTo s' = EntryFill.booked entry qty ∧ s.executedTo s' ≤ qty
      | .error _ s' => s.executedTo s' ≤ qty) ↔
      reading.Truthful env symbol side qty fallback (s.executedTo s₁) s₁ := by
  cases reading with
  | full orderId =>
      show s.executedTo s₁ = qty ∧ s.executedTo s₁ ≤ qty ↔ s.executedTo s₁ = qty
      exact ⟨fun h => h.1, fun h => ⟨h, h.le⟩⟩
  | part orderId filled =>
      show s.executedTo s₁ = filled ∧ s.executedTo s₁ ≤ qty ↔ s.executedTo s₁ = filled
      exact ⟨fun h => h.1, fun h => ⟨h, h.le.trans hslice.2.le⟩⟩
  | nothing =>
      unfold bookReading makerLimitFallback MakerReading.Truthful
      by_cases hmarket : fallback.toLower = "market"
      · simp only [if_pos hmarket]
        have hsplit (s' : World) : s.executedTo s' = s.executedTo s₁ + s₁.executedTo s' := by
          unfold World.executedTo
          ring
        cases hfill : venueFill env symbol side qty "entry" s₁ with
        | ok fill s' =>
            rw [bind_of_ok hfill]
            show s.executedTo s' = qty ∧ s.executedTo s' ≤ qty ↔ s₁.executedTo s' = qty - _
            rw [hsplit s']
            constructor
            · intro h
              linarith [h.1]
            · intro h
              constructor
              · linarith
              · linarith
        | error e s' =>
            rw [bind_of_error hfill]
            show s.executedTo s' ≤ qty ↔ s₁.executedTo s' ≤ qty - _
            rw [hsplit s', le_sub_iff_add_le']
      · simp only [if_neg hmarket]
        show s.executedTo s₁ = 0 ∧ s.executedTo s₁ ≤ qty ↔ s.executedTo s₁ = 0
        exact ⟨fun h => h.1, fun h => ⟨h, h.le.trans hqty⟩⟩

end Exact

/-! ### An order that fills and one that fills in part -/

/-- A venue where the limit order executes `executed` of its units, and then is
no longer open. -/
def makerEnv (executed : Decimal) : Env :=
  { venue :=
      { fairVenue 1 with
        createOrder := fun trace _ => ⟨true, executed, .ok ⟨s!"o{trace.length}", "open", 0, 0⟩⟩
        listTrades := fun _ _ _ => .ok [⟨"o1", 100, executed⟩] } }

/-- Ten units. -/
def demoAcquisition (executed : Decimal) : Prop :=
  AcquiresExactly (makerEnv executed) demoSymbol .long 10 100 ⟨1, "market", 3⟩ demoWorld

end CryptoTrader
