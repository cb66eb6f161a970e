import CryptoTrader.Live.Acquisition
import CryptoTrader.Live.Equity

/-!
# What precedes a 4xx

`_is_benign_entry_rejection` takes a `CoinDCXError` with a 4xx status for the
venue's refusal of the order.  Such an error comes out of an entry in one of
two ways: the create call of the market order was answered with it, or one of
the reads around that call was.  Nothing that follows the booking raises one.
-/

namespace CryptoTrader

open CryptoTrader.Lib

/-- `_is_benign_entry_rejection`. -/
def PyErr.isBenignEntryRejection : PyErr → Bool
  | .coinDcxError _ (some sc) => 400 ≤ sc && sc < 500 && sc ≠ 429
  | _ => false

/-- A read that was answered with the error. -/
def Interaction.failsWith (e : PyErr) : Interaction → Prop
  | .getSpec _ failure => failure = some e
  | .listOrders reply => reply = .error e
  | .listTrades _ _ reply => reply = .error e
  | _ => False

/-- Only reads were added, and one of them was answered with the error. -/
def World.FailingReads (e : PyErr) (s s' : World) : Prop :=
  ∃ ext, s' = s.extend ext ∧ (∀ i ∈ ext, i.isRead) ∧ ∃ i ∈ ext, i.failsWith e

theorem World.Reads.failing {e : PyErr} {s s₁ s' : World} (h : s.Reads s₁)
    (h' : s₁.FailingReads e s') : s.FailingReads e s' := by
  obtain ⟨ext, rfl, hext⟩ := h
  obtain ⟨ext', rfl, hext', i, hi, hfails⟩ := h'
  refine ⟨ext ++ ext', by simp, fun j hj => ?_, i, List.mem_append_right ext hi, hfails⟩
  rcases List.mem_append.mp hj with hj | hj
  · exact hext j hj
  · exact hext' j hj

variable (env : Env)

/-! ## Reads -/

theorem exchange_raises {α β : Type} {ask : List Interaction → α} {note : World → α → Interaction}
    {f : α → Live β} {s : World} (hread : ∀ s a, (note s a).isRead)
    (hraises : ∀ s a, wp (f a) (fun _ s' => s' = s) (fun e s' => s' = s ∧ ∀ t, (note t a).failsWith e) s) :
    wp (exchange ask note >>= f) (fun _ s' => s.Reads s') (fun e s' => s.FailingReads e s') s := by
  rw [wp_bind]
  refine wp_mono (exchange_wp ask note s) ?_ (fun _ _ h => h.elim)
  rintro a s₁ ⟨rfl, rfl⟩
  refine wp_mono (hraises _ _) ?_ ?_
  · rintro _ s' rfl
    exact ⟨_, rfl, by simpa using hread s _⟩
  · rintro e s' ⟨rfl, hfails⟩
    exact ⟨_, rfl, by simpa using hread s _, _, List.mem_singleton_self _, hfails s⟩

theorem getSpec_raises (symbol : Symbol) (s : World) :
    wp (getSpec env symbol) (fun _ s' => s.Reads s') (fun e s' => s.FailingReads e s') s := by
  refine exchange_raises (fun _ _ => rfl) (fun s failure => ?_)
  cases failure with
  | none => exact rfl
  | some e => exact ⟨rfl, fun _ => rfl⟩

theorem getOpenOrders_raises (symbol : Symbol) (s : World) :
    wp (getOpenOrders env symbol) (fun _ s' => s.Reads s') (fun e s' => s.FailingReads e s') s := by
  refine exchange_raises (fun _ _ => rfl) (fun s reply => ?_)
  rw [wp_bind]
  refine wp_mono (ofReply_wp reply s) ?_ ?_
  · rintro _ s' ⟨-, rfl⟩
    exact rfl
  · rintro e s' ⟨hreply, rfl⟩
    exact ⟨rfl, fun _ => hreply⟩

theorem getFills_raises (symbol : Symbol) (days : Nat) (s : World) :
    wp (getFills env symbol days) (fun _ s' => s.Reads s') (fun e s' => s.FailingReads e s') s := by
  unfold getFills
  rw [wp_bind]
  refine wp_mono (getSpec_raises env symbol s) ?_ (fun _ _ h => h)
  intro _ s₁ h₁
  refine wp_mono (exchange_raises (s := s₁) (fun _ _ => rfl) (fun s reply => ?_)) ?_ ?_
  · refine wp_mono (ofReply_wp reply s) ?_ ?_
    · rintro _ s' ⟨-, rfl⟩
      exact rfl
    · rintro e s' ⟨hreply, rfl⟩
      exact ⟨rfl, fun _ => hreply⟩
  · exact fun _ _ h => h₁.trans h
  · exact fun _ _ h => h₁.failing h

theorem getOrderStatus_raises (orderId : String) (symbol : Symbol) (s : World) :
    wp (getOrderStatus env orderId symbol) (fun _ s' => s.Reads s')
      (fun e s' => s.FailingReads e s') s := by
  unfold getOrderStatus
  rw [wp_bind]
  refine wp_mono (getOpenOrders_raises env symbol s) ?_ (fun _ _ h => h)
  intro orders s₁ h₁
  cases orders.find? (fun row => row.id = orderId) with
  | some row => exact h₁
  | none =>
      dsimp only
      rw [wp_bind]
      refine wp_mono (getFills_raises env symbol 7 s₁) ?_ (fun _ _ h => h₁.failing h)
      intro fills s₂ h₂
      rw [wp_ite]
      exact ⟨fun _ => h₁.trans h₂, fun _ => h₁.trans h₂⟩

/-! ## Placing orders -/

theorem pollMarketFill_raises (order : PlacedOrder) (symbol : Symbol) (attempts : Nat)
    (lastStatus : String) (s : World) :
    wp (pollMarketFill env order symbol attempts lastStatus) (fun _ _ => True)
      (fun e s' => e.isBenignEntryRejection → s.FailingReads e s') s := by
  induction attempts generalizing lastStatus s with
  | zero =>
      intro h
      cases h
  | succ attempts ih =>
      unfold pollMarketFill
      rw [wp_bind]
      -- a failed trade lookup is ignored, when it is the venue's error
      have hfills : wp (getFillsOrNone env symbol) (fun _ s' => s.Reads s')
          (fun e _ => ¬ e.isBenignEntryRejection) s := by
        unfold getFillsOrNone
        rw [wp_tryCatch]
        refine wp_mono (getFills_reads env symbol 1 s) (fun _ _ h => h) ?_
        intro e s' h
        cases e with
        | coinDcxError _ _ => exact h
        | _ => exact Bool.false_ne_true
      refine wp_mono hfills ?_ (fun _ _ h hbenign => absurd hbenign h)
      intro fills s₁ h₁
      dsimp only
      rw [wp_ite]
      refine ⟨fun _ => trivial, fun _ => ?_⟩
      rw [wp_bind]
      refine wp_mono (getOrderStatus_raises env order.id symbol s₁) ?_ ?_
      · intro st s₂ h₂
        rw [wp_ite]
        constructor
        · intro _ hbenign
          cases hbenign
        · intro _
          exact wp_mono (ih st.status s₂) (fun _ _ h => h)
            (fun _ _ h hbenign => (h₁.trans h₂).failing (h hbenign))
      · exact fun _ _ h _ => h₁.failing h

/-- A `place_order` from `s` ended in `s'` with a 4xx: before its create call,
with that call's reply, or with a read that followed it. -/
def PlaceOrder.Rejected (r : PlaceOrder) (s : World) (e : PyErr) (s' : World) : Prop :=
  ∃ ext, s' = s.extend ext ∧ (created ext = [] ∨ ∃ outcome, created ext = [r.record env s outcome] ∧
    (outcome.reply = .error e ∨
      (∃ reply, outcome.reply = .ok reply) ∧ ∃ i ∈ ext, i.failsWith e))

theorem placeOrder_raises (r : PlaceOrder) (s : World) :
    wp (placeOrder env r) (fun _ _ => True)
      (fun e s' => e.isBenignEntryRejection → r.Rejected env s e s') s := by
  unfold placeOrder
  rw [wp_bind]
  refine wp_mono (assertLiveAllowed_wp env "PLACE" r.symbol.name s) ?_ ?_
  · rintro - s₀ ⟨rfl, -⟩
    rw [wp_bind, wp_get, wp_bind]
    refine wp_mono (getSpec_wp env r.symbol s₀) ?_ ?_
    · rintro spec s₁ ⟨rfl, before, rfl, hbefore⟩
      cases r.preflight (env.venue.instrument r.symbol) with
      | some err =>
          intro hbenign
          cases hbenign
      | none =>
          dsimp only
          set body := r.body (env.venue.instrument r.symbol) s₀.engineLeverage
          set held := (s₀.wallet.getOpenPosition r.symbol).map EnhancedPosition.leverage
          unfold postOrder
          rw [wp_bind, wp_bind]
          refine wp_mono (exchange_wp _ _ _) ?_ (fun _ _ h => h.elim)
          rintro outcome s₂ ⟨houtcome, rfl⟩
          rw [← houtcome]
          have hcreated (after : List Interaction) (hafter : ∀ i ∈ after, i.isRead) :
              created (before ++ [Interaction.createOrder body held outcome] ++ after) =
                [r.record env s₀ outcome] :=
            (PlaceOrder.Adds.of_create env outcome hbefore hafter).2
          refine wp_mono (ofReply_wp _ _) ?_ ?_
          · rintro reply s₂ ⟨hreply, rfl⟩
            rw [wp_ite]
            refine ⟨fun _ => ?_, fun _ => trivial⟩
            unfold resolveMarketFill
            rw [wp_ite]
            refine ⟨fun _ => trivial, fun _ => ?_⟩
            rw [wp_ite]
            constructor
            · intro _ hbenign
              cases hbenign
            · intro _
              refine wp_mono (pollMarketFill_raises env _ _ _ _ _) (fun _ _ h => h) ?_
              intro e s₃ hraises hbenign
              obtain ⟨after, rfl, hafter, i, hi, hfails⟩ := hraises hbenign
              refine ⟨before ++ [.createOrder body held outcome] ++ after,
                by simp [body, held, PlaceOrder.body], Or.inr ⟨outcome, hcreated after hafter,
                  Or.inr ⟨⟨reply, hreply⟩, i, List.mem_append_right _ hi, hfails⟩⟩⟩
          · rintro e s₂ ⟨hreply, rfl⟩ hbenign
            refine ⟨before ++ [.createOrder body held outcome], by simp [body, held, PlaceOrder.body],
              Or.inr ⟨outcome, ?_, Or.inl hreply⟩⟩
            simpa using hcreated [] (by simp)
    · rintro e s₁ ⟨before, rfl, hbefore⟩ hbenign
      exact ⟨before, rfl, Or.inl (created_reads hbefore)⟩
  · rintro e s₀ ⟨rfl, -, msg, rfl⟩ hbenign
    cases hbenign

/-- `_venue_fill` raises a 4xx only as its order does. -/
theorem venueFill_raises (symbol : Symbol) (side : PositionSide) (quantity : Decimal)
    (intent : String) (s : World) :
    wp (venueFill env symbol side quantity intent) (fun _ _ => True)
      (fun e s' => e.isBenignEntryRejection →
        placeOrder env (s.wallet.marketOrder symbol side quantity) s.ticked = .error e s') s := by
  unfold venueFill venueOrder
  rw [wp_bind, wp_bind, wp_modifyWallet, wp_bind, wp_get]
  refine wp_mono (wp_run (placeOrder env (s.wallet.marketOrder symbol side quantity)) s.ticked) ?_
    (fun _ _ h _ => h)
  intro order s₁ _
  unfold fillOf
  rw [wp_bind, wp_get, wp_ite]
  constructor
  · intro _ hbenign
    cases hbenign
  · intro _
    trivial

/-- What its order raises, it raises. -/
theorem venueFill_of_error {symbol : Symbol} {side : PositionSide} {quantity : Decimal}
    {intent : String} {s s' : World} {e : PyErr}
    (h : placeOrder env (s.wallet.marketOrder symbol side quantity) s.ticked = .error e s') :
    venueFill env symbol side quantity intent s = .error e s' := by
  have horder : venueOrder env symbol side quantity s = .error e s' := h
  unfold venueFill
  exact bind_of_error horder _

/-! ## Opening -/

/-- Phase 1 and the booking raise for a division by zero only. -/
theorem Wallet.openPlan_error {w : Wallet} {symbol : Symbol} {setup : Setup}
    {customMargin customQuantity : Option Decimal} {e : PyErr}
    (h : w.openPlan symbol setup customMargin customQuantity = .error e) : e = .divisionByZero := by
  unfold Wallet.openPlan at h
  by_cases hcan : (!(w.canOpen symbol).1) = true
  · rw [if_pos hcan] at h
    cases h
  · rw [if_neg hcan] at h
    cases hasked : customQuantity.filter (fun q => decide (0 < q)) with
    | some qty =>
        rw [hasked] at h
        cases h
    | none =>
        rw [hasked] at h
        dsimp only at h
        split_ifs at h
        all_goals cases h
        rfl

theorem Wallet.bookOpen_error {w : Wallet} {symbol : Symbol} {setup : Setup} {markPrice : Decimal}
    {customMargin customQuantity liveQty : Option Decimal} {fill : Option ExternalFill} {e : PyErr}
    (h : (w.bookOpen symbol setup markPrice customMargin customQuantity fill liveQty).1 = .error e) :
    e = .divisionByZero := by
  have hsize {e : PyErr} (h : w.sizeOpen symbol setup customMargin customQuantity liveQty =
      .error e) : e = .divisionByZero := by
    unfold Wallet.sizeOpen at h
    by_cases hcan : (!(w.canOpen symbol).1) = true
    · simp only [if_pos hcan] at h
      cases h
    · simp only [if_neg hcan] at h
      cases liveQty with
      | some qty =>
          dsimp only at h
          split_ifs at h
      | none =>
          cases hasked : customQuantity.filter (fun q => decide (0 < q)) with
          | some qty =>
              rw [hasked] at h
              dsimp only at h
              split_ifs at h
          | none =>
              rw [hasked] at h
              dsimp only at h
              split_ifs at h
              all_goals cases h
              rfl
  unfold Wallet.bookOpen at h
  cases hsized : w.sizeOpen symbol setup customMargin customQuantity liveQty with
  | error e' =>
      rw [hsized] at h
      cases h
      exact hsize hsized
  | ok size? =>
      rw [hsized] at h
      cases size? with
      | none => cases h
      | some size =>
          dsimp only at h
          split at h
          all_goals cases h

theorem protectEntry_raises (pos? : Option EnhancedPosition) (s : World) :
    wp (protectEntry env pos?) (fun _ _ => True) (fun e _ => ¬ e.isBenignEntryRejection) s := by
  cases pos? with
  | none => trivial
  | some pos =>
      unfold protectEntry
      rw [wp_bind, placeProtectiveOrders_eq, wp_bind]
      refine wp_mono (attemptProtective_wp env pos s) ?_ (fun _ _ h => h.elim)
      intro result s₁ _
      cases result with
      | placed orders =>
          show wp (recordProtective pos orders) _ _ s₁
          unfold recordProtective
          rw [wp_ite]
          exact ⟨fun _ => trivial, fun _ => trivial⟩
      | failed msg =>
          refine wp_mono (requiredStopFailed_raises env pos msg s₁) (fun _ _ h => h.elim) ?_
          rintro e _ ⟨text, rfl⟩
          exact Bool.false_ne_true

/-- `open_position` raises a 4xx only from the market order it sends in live
mode. -/
theorem openPosition_raises (symbol : Symbol) (setup : Setup) (markPrice : Decimal)
    (customMargin customQuantity : Option Decimal) (externalFill : Option ExternalFill) (s : World) :
    wp (openPosition env .none symbol setup markPrice customMargin customQuantity externalFill)
      (fun _ _ => True)
      (fun e s' => e.isBenignEntryRejection → (externalFill = none ∧ s.wallet.liveExecution) ∧
        ∃ qty, s.wallet.openPlan symbol setup customMargin customQuantity = .ok (some qty) ∧
          placeOrder env (s.wallet.marketOrder symbol setup.side qty) s.ticked = .error e s') s := by
  have hdivision {P : Prop} (h : PyErr.divisionByZero.isBenignEntryRejection = true) : P := by
    cases h
  have hbook (fill : Option ExternalFill) (liveQty : Option Decimal) (s₁ : World)
      (P : PyErr → World → Prop) :
      wp (onWallet (fun w =>
          w.bookOpen symbol setup markPrice customMargin customQuantity fill liveQty) >>= ofReply)
        (fun _ _ => True) (fun e s' => e.isBenignEntryRejection → P e s') s₁ := by
    rw [wp_bind, wp_onWallet]
    refine wp_mono (ofReply_wp _ _) (fun _ _ _ => trivial) ?_
    rintro e s' ⟨herror, -⟩
    rw [Wallet.bookOpen_error herror]
    exact hdivision
  rw [openPosition_eq, wp_bind]
  have hprotect (pos? : Option EnhancedPosition) (s₁ : World) (P : PyErr → World → Prop) :
      wp (protectEntry env pos?) (fun _ _ => True)
        (fun e s' => e.isBenignEntryRejection → P e s') s₁ :=
    wp_mono (protectEntry_raises env pos? s₁) (fun _ _ h => h) (fun _ _ h hbenign => absurd hbenign h)
  have hentry : wp (bookEntry env symbol setup markPrice customMargin customQuantity externalFill)
      (fun _ _ => True)
      (fun e s' => e.isBenignEntryRejection → (externalFill = none ∧ s.wallet.liveExecution) ∧
        ∃ qty, s.wallet.openPlan symbol setup customMargin customQuantity = .ok (some qty) ∧
          placeOrder env (s.wallet.marketOrder symbol setup.side qty) s.ticked = .error e s') s := by
    unfold bookEntry
    rw [wp_bind, wp_get, wp_ite]
    constructor
    · rintro ⟨hnone, hlive⟩
      rw [wp_bind]
      refine wp_mono (ofReply_wp _ _) ?_ ?_
      · rintro qty? s₁ ⟨hplan, rfl⟩
        cases qty? with
        | none => trivial
        | some qty =>
            dsimp only
            rw [wp_bind]
            refine wp_mono (venueFill_raises env symbol setup.side qty "entry" s₁) ?_ ?_
            · exact fun fill s₂ _ => hbook (some fill) (some qty) s₂ _
            · exact fun e s₂ h hbenign =>
                ⟨⟨Option.isNone_iff_eq_none.mp hnone, hlive⟩, qty, hplan, h hbenign⟩
      · rintro e s₁ ⟨herror, -⟩
        rw [Wallet.openPlan_error herror]
        exact hdivision
    · intro _
      exact hbook externalFill none s _
  exact wp_mono hentry (fun pos? s₁ _ => hprotect pos? s₁ _) (fun _ _ h => h)

/-- What the order raises, `open_position` raises. -/
theorem openPosition_of_error {symbol : Symbol} {setup : Setup} {markPrice qty : Decimal}
    {customMargin customQuantity : Option Decimal} {s s' : World} {e : PyErr}
    (hlive : s.wallet.liveExecution)
    (hplan : s.wallet.openPlan symbol setup customMargin customQuantity = .ok (some qty))
    (h : placeOrder env (s.wallet.marketOrder symbol setup.side qty) s.ticked = .error e s') :
    openPosition env .none symbol setup markPrice customMargin customQuantity none s =
      .error e s' := by
  have hreply : ofReply (s.wallet.openPlan symbol setup customMargin customQuantity) s =
      .ok (some qty) s := by
    rw [hplan]
    rfl
  have hentry : bookEntry env symbol setup markPrice customMargin customQuantity none s =
      .error e s' := by
    unfold bookEntry
    rw [bind_of_ok (show (get : Live World) s = .ok s s from rfl), if_pos ⟨rfl, hlive⟩,
      bind_of_ok hreply]
    exact bind_of_error (venueFill_of_error env h) _
  rw [openPosition_eq]
  exact bind_of_error hentry _

/-- `acquire_live_entry_fill` raises a 4xx only from the market order in place of
the limit order. -/
theorem acquireLiveEntryFill_raises (symbol : Symbol) (side : PositionSide)
    (qty limitPrice : Decimal) (options : MakerLimit) (s : World) :
    wp (acquireLiveEntryFill env symbol side qty limitPrice options) (fun _ _ => True)
      (fun e s' => e.isBenignEntryRejection →
        (s.wallet.liveExecution ∧ options.fallback.toLower = "market") ∧ ∃ s₁,
          readMaker env symbol side qty (side.postPrice limitPrice options.offsetBps) options.polls
            s = .ok .nothing s₁ ∧
          placeOrder env (s₁.wallet.marketOrder symbol side qty) s₁.ticked = .error e s') s := by
  set postPrice := side.postPrice limitPrice options.offsetBps
  by_cases hlive : s.wallet.liveExecution
  · unfold wp
    rw [acquireLiveEntryFill_eq env hlive]
    have hread := readMaker_wp env symbol side qty postPrice options.polls s
    show wp (readMaker env symbol side qty postPrice options.polls >>= _) _ _ s
    rw [wp_bind]
    unfold wp
    cases hrun : readMaker env symbol side qty postPrice options.polls s with
    | error e s₁ => exact (wp_error hread hrun).elim
    | ok reading s₁ =>
        cases reading with
        | full orderId => trivial
        | part orderId filled => trivial
        | nothing =>
            show wp (makerLimitFallback env symbol side qty options.fallback) _ _ s₁
            unfold makerLimitFallback
            rw [wp_ite]
            refine ⟨fun hmarket => ?_, fun _ => trivial⟩
            rw [wp_bind]
            exact wp_mono (venueFill_raises env symbol side qty "entry" s₁) (fun _ _ _ => trivial)
              (fun e s' h hbenign => ⟨⟨hlive, hmarket⟩, s₁, rfl, h hbenign⟩)
  · unfold acquireLiveEntryFill
    rw [wp_bind, wp_get, if_neg hlive]
    trivial

/-- What the market order in place of the limit order raises, it raises. -/
theorem acquireLiveEntryFill_of_error {symbol : Symbol} {side : PositionSide}
    {qty limitPrice : Decimal} {options : MakerLimit} {s s₁ s' : World} {e : PyErr}
    (hlive : s.wallet.liveExecution) (hmarket : options.fallback.toLower = "market")
    (hread : readMaker env symbol side qty (side.postPrice limitPrice options.offsetBps)
      options.polls s = .ok .nothing s₁)
    (h : placeOrder env (s₁.wallet.marketOrder symbol side qty) s₁.ticked = .error e s') :
    acquireLiveEntryFill env symbol side qty limitPrice options s = .error e s' := by
  rw [acquireLiveEntryFill_eq env hlive, bind_of_ok hread]
  show makerLimitFallback env symbol side qty options.fallback s₁ = .error e s'
  unfold makerLimitFallback
  rw [if_pos hmarket]
  exact bind_of_error (venueFill_of_error env h) _

end CryptoTrader
