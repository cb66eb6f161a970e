import CryptoTrader.Live.Entry
import CryptoTrader.Live.Frames
import CryptoTrader.Wallet.Equity

/-!
# The cached unrealized PnL over runs

Whether `unrealized_pnl_total` is the PnL of the open positions at their last
marks, after any run of wallet operations, with or without an engine.  A close,
a partial close and the early returns of `update_positions` do not sum the cache
up, so the PnL of what they take off stays in it.
-/

namespace CryptoTrader

open CryptoTrader.Lib

variable (env : Env)

/-- The computation raises. -/
def Raises {α : Type} (m : Live α) (s : World) : Prop := ∃ e s', m s = .error e s'

theorem wp_raises {α : Type} {m : Live α} {Q : α → World → Prop} {E : PyErr → World → Prop}
    {s : World} (h : wp m Q E s) :
    wp m (fun a s' => ¬ Raises m s ∧ Q a s') (fun e s' => Raises m s ∧ E e s') s := by
  unfold wp at h ⊢
  cases hrun : m s with
  | ok a s' =>
      rw [hrun] at h
      refine ⟨?_, h⟩
      rintro ⟨e, s'', hraised⟩
      rw [hrun] at hraised
      cases hraised
  | error e s' =>
      rw [hrun] at h
      exact ⟨⟨e, s', hrun⟩, h⟩

/-! ## What a position carries -/

/-- All positions carry their PnL; the one on `symbol` carries `carried`, and
the cache counts it with `cached`. -/
structure Wallet.Carrying (marks : Marks) (symbol : Symbol) (cached carried : Decimal)
    (w : Wallet) : Prop where
  but : w.ValuedBut marks symbol cached
  current : w.CurrentAt marks symbol
  carried : w.unrealizedOn symbol = carried

/-- A property that survives whatever leaves all values alone is stable. -/
theorem Wallet.Stable.of_keepsWorth {symbol : Symbol} {I : Wallet → Prop}
    (haligned : ∀ w, I w → w.Aligned)
    (hkeeps : ∀ w w', I w → Wallet.KeepsWorth none w w' → I w') : Wallet.Stable symbol I := by
  refine ⟨haligned, fun w hw => ?_, fun w hw => ?_, fun w f payload hw hpayload => ?_⟩
  · exact hkeeps w _ hw (Wallet.KeepsWorth.refl (haligned w hw)).tick
  · exact hkeeps w _ hw (Wallet.KeepsWorth.refl (haligned w hw)).save
  · have hrefl : Wallet.KeepsWorth none w w := Wallet.KeepsWorth.refl (haligned w hw)
    refine hkeeps w _ hw ?_
    rcases hpayload with rfl | ⟨placed, rfl⟩
    · exact hrefl.dress f rfl rfl
    · exact hrefl.dress f rfl rfl

section Carrying

variable {marks : Marks} {symbol : Symbol} {cached carried : Decimal} {w w' : Wallet}

theorem Wallet.Valued.carrying (h : w.Valued marks) (symbol : Symbol) :
    w.Carrying marks symbol (w.unrealizedOn symbol) (w.unrealizedOn symbol) :=
  ⟨h.but symbol, h.current symbol, rfl⟩

theorem Wallet.Carrying.valued (h : w.Carrying marks symbol cached carried)
    (heq : cached = carried) : w.Valued marks :=
  h.but.valued h.current (heq.trans h.carried.symm)

theorem Wallet.Carrying.keepsWorth (h : w.Carrying marks symbol cached carried)
    (hkeeps : Wallet.KeepsWorth none w w') : w'.Carrying marks symbol cached carried := by
  have hsame := hkeeps.positions symbol (by simp)
  exact ⟨h.but.keepsWorth (hkeeps.weaken _), hsame.currentAt h.current,
    hsame.unrealizedOn.symm.trans h.carried⟩

/-- With nothing on the symbol nothing is carried there. -/
theorem Wallet.ValuedBut.carrying_of_flat (h : w.ValuedBut marks symbol cached)
    (hflat : w.getOpenPosition symbol = none) : w.Carrying marks symbol cached 0 := by
  refine ⟨h, fun pos hpos => ?_, Wallet.unrealizedOn_of_flat hflat⟩
  rw [hflat] at hpos
  cases hpos

theorem Wallet.Valued.stable (marks : Marks) (symbol : Symbol) :
    Wallet.Stable symbol (Wallet.Valued marks) :=
  .of_keepsWorth (fun _ h => h.aligned) (fun _ _ h hkeeps => h.keepsWorth symbol hkeeps)

theorem Wallet.ValuedBut.stable (marks : Marks) (symbol : Symbol) (cached : Decimal) :
    Wallet.Stable symbol (Wallet.ValuedBut marks symbol cached) :=
  .of_keepsWorth (fun _ h => h.aligned) (fun _ _ h hkeeps => h.keepsWorth (hkeeps.weaken _))

theorem Wallet.Carrying.stable (marks : Marks) (symbol : Symbol) (cached carried : Decimal) :
    Wallet.Stable symbol (Wallet.Carrying marks symbol cached carried) :=
  .of_keepsWorth (fun _ h => h.but.aligned) (fun _ _ h hkeeps => h.keepsWorth hkeeps)

theorem Wallet.ValuedBut.bookClose (h : w.ValuedBut marks symbol cached) (markPrice : Decimal)
    (reason : String) (fill : Option ExternalFill) :
    (w.bookClose symbol markPrice reason fill).2.Carrying marks symbol cached 0 :=
  (h.keepsWorth ((Wallet.KeepsWorth.refl h.aligned).bookClose markPrice reason fill)).carrying_of_flat
    (Wallet.bookClose_flattens h.aligned markPrice reason fill)

theorem Wallet.ValuedBut.closedUnder (marks : Marks) (symbol : Symbol) (cached : Decimal) :
    Wallet.ClosedUnder symbol (Wallet.ValuedBut marks symbol cached) :=
  fun _ markPrice reason fill h => (h.bookClose markPrice reason fill).but

/-- A position that carries nothing can be closed. -/
theorem Wallet.Carrying.closedUnder (marks : Marks) (symbol : Symbol) (cached : Decimal) :
    Wallet.ClosedUnder symbol (Wallet.Carrying marks symbol cached 0) :=
  fun _ markPrice reason fill h => h.but.bookClose markPrice reason fill

/-- And closed in part. -/
theorem Wallet.Carrying.bookPartial (h : w.Carrying marks symbol cached 0)
    (markPrice pct : Decimal) (reason : String) (tpLabel : Option String)
    (fill : Option ExternalFill) :
    (w.bookPartial symbol markPrice pct reason tpLabel fill).2.Carrying marks symbol cached 0 := by
  obtain ⟨hcurrent, hzero⟩ :=
    Wallet.bookPartial_idle h.but.aligned h.current h.carried markPrice pct reason tpLabel fill
  have hkeeps : Wallet.KeepsWorth (some symbol) w w := Wallet.KeepsWorth.refl h.but.aligned
  exact ⟨h.but.keepsWorth (hkeeps.bookPartial markPrice pct reason tpLabel fill), hcurrent, hzero⟩

end Carrying

/-! ## Closing -/

section Closing

variable {marks : Marks} {symbol : Symbol} {cached carried : Decimal} {s : World}

/-- A close takes the position off and leaves the cache; when it raises it has
booked nothing. -/
theorem closePosition_carrying (hs : s.wallet.Carrying marks symbol cached carried)
    (markPrice : Decimal) (reason : String) (fill : Option ExternalFill) :
    wp (closePosition env .none symbol markPrice reason fill)
      (fun _ s' => s'.wallet.Carrying marks symbol cached 0)
      (fun _ s' => s'.wallet.Carrying marks symbol cached carried) s := by
  refine wp_mono (closePosition_books env (Wallet.Carrying.stable marks symbol cached carried)
    markPrice reason fill hs) ?_ (fun _ _ h => h)
  rintro - s' ⟨w, fill', hw, hs'⟩
  rw [hs']
  exact hw.but.bookClose markPrice reason fill'

theorem liquidatePosition_carrying (hs : s.wallet.Carrying marks symbol cached carried)
    (markPrice : Decimal) :
    wp (liquidatePosition env symbol markPrice)
      (fun _ s' => s'.wallet.Carrying marks symbol cached 0) (fun _ _ => False) s := by
  refine wp_mono (liquidatePosition_books env (Wallet.Carrying.stable marks symbol cached carried)
    markPrice hs) ?_ (fun _ _ h => h)
  rintro - s' ⟨w, hw, hs'⟩
  rw [hs']
  refine (hw.but.keepsWorth ?_).carrying_of_flat (Wallet.liquidatePosition_flattens markPrice)
  exact (Wallet.KeepsWorth.refl hw.but.aligned).liquidatePosition markPrice

/-- A close keeps the values when the position carries nothing, or when it
raises. -/
theorem closePosition_valued (h : s.wallet.Valued marks) (markPrice : Decimal) (reason : String)
    (fill : Option ExternalFill)
    (hclean : s.wallet.unrealizedOn symbol = 0 ∨
      Raises (closePosition env .none symbol markPrice reason fill) s) :
    (final (closePosition env .none symbol markPrice reason fill) s).wallet.Valued marks := by
  have hwp := closePosition_carrying env (h.carrying symbol) markPrice reason fill
  rcases hclean with hzero | ⟨e, s', hrun⟩
  · rw [hzero] at hwp
    exact (wp_final (P := fun s' => s'.wallet.Valued marks) _).mp
      (wp_mono hwp (fun _ _ h => h.valued rfl) (fun _ _ h => h.valued rfl))
  · have hs' := wp_error hwp hrun
    unfold final
    rw [hrun]
    exact hs'.valued rfl

end Closing

/-! ## Opening and adopting -/

section Placing

variable {marks : Marks} {symbol : Symbol} {s : World} {pos : EnhancedPosition}
  (hpos : s.wallet.getOpenPosition symbol = some pos) (hbare : pos.protectiveOrders = .none)
include hpos hbare

/-- A stop that cannot be placed while the venue still holds the position leaves
the wallet alone, but for the clock. -/
theorem requiredStopFailed_held {α : Type} {I : Wallet → Prop} (hI : Wallet.Stable symbol I)
    (hs : I s.wallet) (hlive : s.wallet.liveExecution)
    (hheld : ¬ FlatReported env symbol { s with halt := true }) (msg : String) :
    wp (requiredStopFailed env pos msg : Live α) (fun _ _ => False) (fun _ s' => I s'.wallet) s := by
  have hsymbol := hI.symbol_eq hs hpos
  have haligned := hI.aligned _ hs
  unfold requiredStopFailed tripHalt
  rw [wp_bind, wp_modify, wp_bind, wp_current, wp_bind, wp_tryCatch]
  have hcurrent : ({ s with halt := true } : World).wallet.positions.get? pos.symbol = some pos := by
    rw [hsymbol]
    exact (Wallet.getOpenPosition_eq_some.mp hpos).1
  rw [hcurrent, Option.getD_some, hsymbol]
  have hended := closePosition_halted env (s := { s with halt := true }) haligned hlive hpos hbare
    rfl pos.emergencyPrice "REQUIRED_SL_FAILED"
  have hbooks := closePosition_books env hI pos.emergencyPrice "REQUIRED_SL_FAILED" none
    (s := { s with halt := true }) hs
  refine wp_mono (wp_and hended hbooks) ?_ (fun _ _ h => h.2)
  rintro - s' ⟨⟨-, -, -, -, -, hkept⟩, w, fill, hw, hs'⟩
  -- a close that booked would have taken the position off
  have hflat : (w.bookClose symbol pos.emergencyPrice "REQUIRED_SL_FAILED"
      fill).2.getOpenPosition symbol = none :=
    Wallet.bookClose_flattens (hI.aligned w hw) pos.emergencyPrice "REQUIRED_SL_FAILED" fill
  rw [← hs', hkept hheld, hpos] at hflat
  cases hflat

/-- Protecting a new position keeps the values if its required stop is not lost,
or the position carries nothing. -/
theorem placeProtectiveOrders_valued (h : s.wallet.Valued marks)
    (hclean : Entry.LosesStop env pos s → pos.unrealizedPnl = 0) :
    wp (placeProtectiveOrders env pos) (fun _ s' => s'.wallet.Valued marks)
      (fun _ s' => s'.wallet.Valued marks) s := by
  have hstable := Wallet.Valued.stable marks symbol
  have hsymbol := hstable.symbol_eq h hpos
  have hattempt := attemptProtective_wp env pos s
  rw [placeProtectiveOrders_eq, wp_bind]
  unfold wp
  cases hrun : attemptProtective env pos s with
  | error e s₁ => exact (wp_error hattempt hrun).elim
  | ok result s₁ =>
      obtain ⟨ext, rfl, -⟩ := wp_ok hattempt hrun
      show wp (concludeProtective env pos result) _ _ (s.extend ext)
      cases result with
      | placed orders =>
          exact World.wp_of_keeps (recordProtective_keeps hstable hsymbol orders) h
      | failed msg =>
          have hlive := attemptProtective_failed env hrun
          by_cases hflat : FlatReported env symbol { s.extend ext with halt := true }
          · have hzero : s.wallet.unrealizedOn symbol = 0 := by
              rw [Wallet.unrealizedOn_of_open hpos]
              exact hclean ⟨msg, _, hrun, by rwa [hsymbol]⟩
            have hcarrying := h.carrying symbol
            rw [hzero] at hcarrying
            refine wp_mono (World.wp_of_keeps (s := s.extend ext) (requiredStopFailed_keeps env
              (Wallet.Carrying.stable marks symbol 0 0)
              (Wallet.Carrying.closedUnder marks symbol 0) hsymbol msg) hcarrying) ?_ ?_
            · exact fun _ _ h => h.valued rfl
            · exact fun _ _ h => h.valued rfl
          · refine wp_mono (requiredStopFailed_held env (s := s.extend ext) hpos hbare hstable h
              hlive hflat msg) (fun _ _ h => h.elim) (fun _ _ h => h)

end Placing

/-- The marks once a position was put in on a flat symbol, or could have been. -/
def Marks.opening (marks : Marks) (w : Wallet) (symbol : Symbol) (mark : Option Decimal) : Marks :=
  if (w.getOpenPosition symbol).isSome then marks else Function.update marks symbol mark

theorem Wallet.Valued.opening {marks : Marks} {w : Wallet} (h : w.Valued marks) (symbol : Symbol)
    (mark : Option Decimal) : w.Valued (marks.opening w symbol mark) := by
  unfold Marks.opening
  by_cases hheld : (w.getOpenPosition symbol).isSome
  · rwa [if_pos hheld]
  · rw [if_neg hheld]
    exact h.remark (Option.not_isSome_iff_eq_none.mp hheld) mark

/-- The end of `open_position` and of `adopt_venue_position`. -/
def protectEntry : Option EnhancedPosition → Live (Option EnhancedPosition)
  | none => pure none
  | some pos => do
      placeProtectiveOrders env pos
      modifyWallet Wallet.save
      let pos ← current pos
      pure (some pos)

/-- `open_position` up to the protective orders. -/
def bookEntry (symbol : Symbol) (setup : Setup) (markPrice : Decimal)
    (customMargin customQuantity : Option Decimal) (externalFill : Option ExternalFill) :
    Live (Option EnhancedPosition) := do
  let s ← get
  if externalFill.isNone ∧ s.wallet.liveExecution then
    match ← ofReply (s.wallet.openPlan symbol setup customMargin customQuantity) with
    | none => pure none
    | some qty => do
        let fill ← venueFill env symbol setup.side qty "entry"
        let booked ← onWallet (fun w =>
          w.bookOpen symbol setup markPrice customMargin customQuantity (some fill) (some qty))
        ofReply booked
  else do
    let booked ← onWallet (fun w =>
      w.bookOpen symbol setup markPrice customMargin customQuantity externalFill none)
    ofReply booked

theorem openBook_eq (symbol : Symbol) (setup : Setup) (markPrice : Decimal)
    (customMargin customQuantity : Option Decimal) (fill : Option ExternalFill)
    (liveQty : Option Decimal) :
    openBook env symbol setup markPrice customMargin customQuantity fill liveQty =
      (onWallet (fun w =>
        w.bookOpen symbol setup markPrice customMargin customQuantity fill liveQty) >>= ofReply) >>=
          protectEntry env := by
  rw [bind_assoc]
  unfold openBook
  refine bind_congr (fun booked => bind_congr (fun pos? => ?_))
  cases pos? with
  | none => rfl
  | some pos => rfl

theorem openPosition_eq (symbol : Symbol) (setup : Setup) (markPrice : Decimal)
    (customMargin customQuantity : Option Decimal) (externalFill : Option ExternalFill) :
    openPosition env .none symbol setup markPrice customMargin customQuantity externalFill =
      bookEntry env symbol setup markPrice customMargin customQuantity externalFill >>=
        protectEntry env := by
  unfold openPosition bookEntry
  rw [bind_assoc]
  refine bind_congr (fun s => ?_)
  by_cases hlive : externalFill.isNone ∧ s.wallet.liveExecution
  · rw [if_pos hlive, if_pos hlive, bind_assoc]
    refine bind_congr (fun qty? => ?_)
    cases qty? with
    | none => rfl
    | some qty =>
        dsimp only
        simp only [openBook_eq, bind_assoc]
        rfl
  · rw [if_neg hlive, if_neg hlive]
    exact openBook_eq env symbol setup markPrice customMargin customQuantity externalFill none

theorem adoptVenuePosition_eq (r : AdoptRequest) :
    adoptVenuePosition env r = onWallet (fun w => w.bookAdoption r) >>= protectEntry env := by
  unfold adoptVenuePosition
  refine bind_congr (fun pos? => ?_)
  cases pos? with
  | none => rfl
  | some pos => rfl

section Opening

variable {marks : Marks} {s : World}

theorem protectEntry_valued {symbol : Symbol} {pos : EnhancedPosition}
    (hpos : s.wallet.getOpenPosition symbol = some pos) (hbare : pos.protectiveOrders = .none)
    (h : s.wallet.Valued marks) (hclean : Entry.LosesStop env pos s → pos.unrealizedPnl = 0) :
    wp (protectEntry env (some pos)) (fun _ s' => s'.wallet.Valued marks)
      (fun _ s' => s'.wallet.Valued marks) s := by
  have hstable := Wallet.Valued.stable marks symbol
  unfold protectEntry
  rw [wp_bind]
  refine wp_mono (placeProtectiveOrders_valued env hpos hbare h hclean) ?_ (fun _ _ h => h)
  intro _ s₁ h₁
  refine World.wp_of_keeps ?_ h₁
  refine (modifyWallet_keeps hstable.save).bind (fun _ => ?_)
  exact (current_keeps _ pos).bind (fun _ => Moves.pure _)

/-- A position put in and ready to be protected. -/
def World.Bare (s : World) (symbol : Symbol) (pos : EnhancedPosition) : Prop :=
  s.wallet.getOpenPosition symbol = some pos ∧ pos.protectiveOrders = .none

/-- What booking an entry comes to: a new position that carries its PnL at the
mark, or nothing of value. -/
theorem onWallet_bookOpen_wp (h : s.wallet.Valued marks) (symbol : Symbol) (setup : Setup)
    (markPrice : Decimal) (customMargin customQuantity : Option Decimal)
    (fill : Option ExternalFill) (liveQty : Option Decimal) :
    let marks' := marks.opening s.wallet symbol (markAfter markPrice none)
    wp (onWallet (fun w =>
        w.bookOpen symbol setup markPrice customMargin customQuantity fill liveQty) >>= ofReply)
      (fun pos? s' => s'.wallet.Valued marks' ∧ ∀ pos, pos? = some pos → s'.Bare symbol pos)
      (fun _ s' => s'.wallet.Valued marks') s := by
  intro marks'
  have hannounced := Wallet.bookOpen_announced h.aligned symbol setup markPrice customMargin
    customQuantity fill liveQty
  rw [wp_bind, wp_onWallet]
  by_cases hcan : (s.wallet.canOpen symbol).1
  · have hmarks : marks' = Function.update marks symbol (markAfter markPrice none) := by
      show marks.opening _ _ _ = _
      rw [Marks.opening, s.wallet.flat_of_canOpen hcan]
      rfl
    revert hannounced
    generalize s.wallet.bookOpen symbol setup markPrice customMargin customQuantity fill liveQty =
      booked
    obtain ⟨result, w'⟩ := booked
    rintro ⟨hbooked, hrest⟩
    have hsame (hnone : ∀ pos, result ≠ .ok (some pos)) : w'.Valued marks' :=
      (h.opening symbol _).keepsWorth symbol (hrest hnone)
    refine wp_mono (ofReply_wp _ _) ?_ ?_
    · rintro pos? s' ⟨hresult, rfl⟩
      cases pos? with
      | none =>
          refine ⟨hsame (fun pos heq => ?_), fun pos heq => by cases heq⟩
          rw [heq] at hresult
          cases hresult
      | some pos =>
          obtain ⟨hnew, hpos, _, _, -, hbooks⟩ := hbooked pos hresult
          refine ⟨?_, ?_⟩
          · rw [hmarks]
            exact h.announced hnew
          · rintro _ ⟨⟩
            exact ⟨hpos, hbooks.protectiveOrders⟩
    · rintro e s' ⟨hresult, rfl⟩
      refine hsame (fun pos heq => ?_)
      rw [heq] at hresult
      cases hresult
  · have hbook : s.wallet.bookOpen symbol setup markPrice customMargin customQuantity fill liveQty =
        (.ok none, s.wallet) := by
      unfold Wallet.bookOpen Wallet.sizeOpen
      simp only [hcan]
      rfl
    rw [hbook]
    exact ⟨h.opening symbol _, fun pos heq => by cases heq⟩

theorem bookEntry_wp (h : s.wallet.Valued marks) (symbol : Symbol) (setup : Setup)
    (markPrice : Decimal) (customMargin customQuantity : Option Decimal)
    (externalFill : Option ExternalFill) :
    let marks' := marks.opening s.wallet symbol (markAfter markPrice none)
    wp (bookEntry env symbol setup markPrice customMargin customQuantity externalFill)
      (fun pos? s' => s'.wallet.Valued marks' ∧ ∀ pos, pos? = some pos → s'.Bare symbol pos)
      (fun _ s' => s'.wallet.Valued marks') s := by
  intro marks'
  unfold bookEntry
  rw [wp_bind, wp_get, wp_ite]
  constructor
  · intro _
    rw [wp_bind]
    refine wp_mono (ofReply_wp _ _) ?_ ?_
    · rintro qty? s' ⟨-, rfl⟩
      cases qty? with
      | none => exact ⟨h.opening symbol _, fun pos heq => by cases heq⟩
      | some qty =>
          dsimp only
          rw [wp_bind]
          refine wp_mono (venueFill_wallet env symbol setup.side qty "entry" s') ?_ ?_
          · intro fill s₁ hs₁
            have hticked : s₁.wallet.Valued marks := by
              rw [hs₁]
              exact h.keepsWorth symbol (Wallet.KeepsWorth.refl h.aligned).tick
            have hopening : marks' = marks.opening s₁.wallet symbol (markAfter markPrice none) := by
              rw [hs₁]
              rfl
            rw [hopening]
            exact onWallet_bookOpen_wp hticked symbol setup markPrice customMargin customQuantity
              (some fill) (some qty)
          · intro e s₁ hs₁
            rw [hs₁]
            exact (h.opening symbol _).keepsWorth symbol (Wallet.KeepsWorth.refl h.aligned).tick
    · rintro e s' ⟨-, rfl⟩
      exact h.opening symbol _
  · intro _
    exact onWallet_bookOpen_wp h symbol setup markPrice customMargin customQuantity externalFill none

/-- Booking a position with `m` and then protecting it. -/
theorem protected_valued {m : Live (Option EnhancedPosition)} {symbol : Symbol}
    (hm : wp m (fun pos? s' => s'.wallet.Valued marks ∧ ∀ pos, pos? = some pos → s'.Bare symbol pos)
      (fun _ s' => s'.wallet.Valued marks) s)
    (hclean : ∀ pos s₁, m s = .ok (some pos) s₁ →
      Entry.LosesStop env pos s₁ → pos.unrealizedPnl = 0) :
    (final (m >>= protectEntry env) s).wallet.Valued marks := by
  cases hrun : m s with
  | error e s₁ =>
      have hs₁ := wp_error hm hrun
      rw [final_bind_error hrun]
      unfold final
      rw [hrun]
      exact hs₁
  | ok pos? s₁ =>
      obtain ⟨hs₁, hbare⟩ := wp_ok hm hrun
      rw [final_bind_ok hrun]
      cases pos? with
      | none => exact hs₁
      | some pos =>
          obtain ⟨hpos, hnone⟩ := hbare pos rfl
          exact (wp_final (P := fun s' : World => s'.wallet.Valued marks) _).mp
            (protectEntry_valued env hpos hnone hs₁ (hclean pos s₁ hrun))

theorem onWallet_bookAdoption_wp (h : s.wallet.Valued marks) (r : AdoptRequest) :
    let marks' := marks.opening s.wallet r.symbol (r.markPrice.bind (fun m => markAfter m none))
    wp (onWallet (fun w => w.bookAdoption r))
      (fun pos? s' => s'.wallet.Valued marks' ∧ ∀ pos, pos? = some pos → s'.Bare r.symbol pos)
      (fun _ s' => s'.wallet.Valued marks') s := by
  intro marks'
  obtain ⟨hannounced, -⟩ := Wallet.bookAdoption_announced h.aligned r
  rw [wp_onWallet]
  rcases Wallet.bookAdoption_spec h.aligned r with hnone | ⟨pos, w', hsome, -, hflat, hpos, hbooks⟩
  · rw [hnone]
    exact ⟨h.opening r.symbol _, fun pos heq => by cases heq⟩
  · rw [hsome] at hannounced ⊢
    refine ⟨?_, ?_⟩
    · show w'.Valued (marks.opening _ _ _)
      rw [Marks.opening, hflat]
      exact h.announced (hannounced pos rfl)
    · rintro _ ⟨⟩
      exact ⟨hpos, hbooks.protectiveOrders⟩

end Opening

/-! ## Partial closes -/

/-- `partial_close` up to the booking: the fill, and whether protective orders
had been resting; nothing when there is no position. -/
def partialFill (symbol : Symbol) (pct : Decimal) (externalFill : Option ExternalFill) :
    Live (Option (Option ExternalFill × Bool)) := do
  let s ← get
  if externalFill.isNone ∧ s.wallet.liveExecution then
    match ← partialPlan env symbol pct with
    | none => pure none
    | some plan => do
        let fill ← exitFill env symbol plan.side plan.order "exit-partial"
        pure (some (fill, plan.hadProtective))
  else pure (some (externalFill, false))

/-- `partial_close` from the booking on. -/
def partialFinish (symbol : Symbol) (markPrice pct : Decimal) (reason : String)
    (tpLabel : Option String) : Option (Option ExternalFill × Bool) → Live PartialResult
  | none => pure (.slice 0)
  | some (fill, hadProtective) =>
      partialBook env symbol markPrice pct reason tpLabel fill hadProtective

theorem partialClose_eq (symbol : Symbol) (markPrice pct : Decimal) (reason : String)
    (tpLabel : Option String) (externalFill : Option ExternalFill) :
    partialClose env .none symbol markPrice pct reason tpLabel externalFill =
      partialFill env symbol pct externalFill >>=
        partialFinish env symbol markPrice pct reason tpLabel := by
  unfold partialClose partialFill
  rw [bind_assoc]
  refine bind_congr (fun s => ?_)
  by_cases hlive : externalFill.isNone ∧ s.wallet.liveExecution
  · rw [if_pos hlive, if_pos hlive, bind_assoc]
    refine bind_congr (fun plan? => ?_)
    cases plan? with
    | none => rfl
    | some plan =>
        dsimp only
        rw [bind_assoc]
        rfl
  · rw [if_neg hlive, if_neg hlive]
    rfl

section Partial

variable {symbol : Symbol} {I : Wallet → Prop} {s : World} (markPrice pct : Decimal)
  (reason : String) (tpLabel : Option String) (externalFill : Option ExternalFill)

theorem partialFill_keeps (hI : Wallet.Stable symbol I) :
    Moves (World.Keeps I) (partialFill env symbol pct externalFill) := by
  unfold partialFill
  refine Moves.get.bind (fun s => ?_)
  split
  · refine (partialPlan_keeps env hI pct).bind (fun plan? => ?_)
    cases plan? with
    | none => exact Moves.pure _
    | some plan => exact (exitFill_keeps env hI _ _ _).bind (fun _ => Moves.pure _)
  · exact Moves.pure _

/-- When the exit order raises, nothing is booked. -/
theorem partialClose_raised (hI : Wallet.Stable symbol I) (hs : I s.wallet)
    (hraises : Raises (partialFill env symbol pct externalFill) s) :
    Raises (partialClose env .none symbol markPrice pct reason tpLabel externalFill) s ∧
      I (final (partialClose env .none symbol markPrice pct reason tpLabel externalFill) s).wallet := by
  obtain ⟨e, s', hrun⟩ := hraises
  have hs' := wp_error (World.wp_of_keeps (partialFill_keeps env pct externalFill hI) hs) hrun
  rw [partialClose_eq]
  refine ⟨⟨e, s', bind_of_error hrun _⟩, ?_⟩
  rw [final_bind_error hrun]
  unfold final
  rw [hrun]
  exact hs'

/-- The share of what is open on the symbol is not positive. -/
def Wallet.NothingToTake (symbol : Symbol) (pct : Decimal) (w : Wallet) : Prop :=
  ∀ pos, w.getOpenPosition symbol = some pos → pos.remainingQuantity * pct ≤ 0

theorem Wallet.NothingToTake.keepsWorth {w w' : Wallet} (h : w.NothingToTake symbol pct)
    (hkeeps : Wallet.KeepsWorth none w w') : w'.NothingToTake symbol pct := by
  intro pos' hpos'
  obtain ⟨pos, hpos, hsame⟩ := (hkeeps.positions symbol (by simp)).of_some hpos'
  rw [hsame.remainingQuantity]
  exact h pos hpos

theorem Wallet.NothingToTake.bookPartial {w : Wallet} (h : w.NothingToTake symbol pct)
    (fill : Option ExternalFill) :
    w.bookPartial symbol markPrice pct reason tpLabel fill = (none, w) := by
  unfold Wallet.bookPartial
  cases hpos : w.getOpenPosition symbol with
  | none => rfl
  | some pos =>
      simp only
      rw [if_pos (h pos hpos)]

/-- With nothing to take no order goes out. -/
theorem partialFill_nothing (hI : Wallet.Stable symbol I) (hs : I s.wallet)
    (hnothing : s.wallet.NothingToTake symbol pct) :
    wp (partialFill env symbol pct externalFill) (fun _ s' => I s'.wallet) (fun _ _ => False) s := by
  unfold partialFill
  rw [wp_bind, wp_get, wp_ite]
  refine ⟨fun hlive => ?_, fun _ => hs⟩
  rw [wp_bind]
  cases hpos : s.wallet.getOpenPosition symbol with
  | none =>
      unfold wp
      rw [partialPlan_flat env hpos]
      exact hs
  | some pos =>
      refine wp_mono (wp_and (partialPlan_wp env (hI.aligned _ hs) hlive.2 hpos pct)
        (World.wp_of_keeps (partialPlan_keeps env hI pct) hs)) ?_ (fun _ _ h => h.1)
      rintro plan s' ⟨⟨-, rfl⟩, hs'⟩
      have horder : PartialPlan.order
          ⟨pos.side.exitSide, pos.remainingQuantity * pct, pos.protectiveOrders.any⟩ = none :=
        if_neg (not_lt.mpr (hnothing pos hpos))
      dsimp only
      rw [horder]
      exact hs'

theorem partialClose_nothing {marks : Marks} {cached carried : Decimal}
    (hs : s.wallet.Carrying marks symbol cached carried)
    (hnothing : s.wallet.NothingToTake symbol pct) :
    wp (partialClose env .none symbol markPrice pct reason tpLabel externalFill)
      (fun _ s' => s'.wallet.Carrying marks symbol cached carried) (fun _ _ => False) s := by
  set I : Wallet → Prop := fun w =>
    w.Carrying marks symbol cached carried ∧ w.NothingToTake symbol pct with hIdef
  have hI : Wallet.Stable symbol I :=
    .of_keepsWorth (fun _ h => h.1.but.aligned)
      (fun _ _ h hkeeps => ⟨h.1.keepsWorth hkeeps, h.2.keepsWorth pct hkeeps⟩)
  rw [partialClose_eq, wp_bind]
  refine wp_mono (partialFill_nothing env pct externalFill hI ⟨hs, hnothing⟩ hnothing) ?_
    (fun _ _ h => h)
  intro fill? s' hs'
  cases fill? with
  | none => exact hs'.1
  | some fill =>
      unfold partialFinish partialBook
      dsimp only
      rw [wp_bind, wp_onWallet, hs'.2.bookPartial]
      exact hs'.1

/-- A partial close that reports a full one has taken the position off. -/
theorem partialClose_full {marks : Marks} {cached : Decimal}
    (hs : s.wallet.ValuedBut marks symbol cached) :
    wp (partialClose env .none symbol markPrice pct reason tpLabel externalFill)
      (fun result s' => s'.wallet.ValuedBut marks symbol cached ∧
        ∀ pos, result = .full pos → s'.wallet.getOpenPosition symbol = none)
      (fun _ s' => s'.wallet.ValuedBut marks symbol cached) s := by
  have hI := Wallet.ValuedBut.stable marks symbol cached
  have hclose := Wallet.ValuedBut.closedUnder marks symbol cached
  rw [partialClose_eq, wp_bind]
  refine wp_mono (World.wp_of_keeps (partialFill_keeps env pct externalFill hI) hs) ?_
    (fun _ _ h => h)
  intro fill? s' hs'
  cases fill? with
  | none => exact ⟨hs', fun pos heq => by cases heq⟩
  | some fill =>
      unfold partialFinish partialBook
      dsimp only
      rw [wp_bind, wp_onWallet]
      have hbooked := hs'.keepsWorth
        ((Wallet.KeepsWorth.refl hs'.aligned).bookPartial markPrice pct reason tpLabel fill.1)
      revert hbooked
      generalize s'.wallet.bookPartial symbol markPrice pct reason tpLabel fill.1 = booked
      obtain ⟨pnl?, w'⟩ := booked
      intro hbooked
      cases pnl? with
      | none => exact ⟨hbooked, fun pos heq => by cases heq⟩
      | some pnl =>
          dsimp only
          rw [wp_bind, wp_get, wp_ite]
          constructor
          · intro _
            rw [wp_bind]
            refine wp_mono (closePosition_books env hI markPrice "FULL_VIA_PARTIALS" none
              (s := { s' with wallet := w' }) hbooked) ?_ (fun _ _ h => h)
            rintro pos s₁ ⟨w₁, fill', hw₁, hs₁⟩
            refine ⟨?_, fun _ _ => ?_⟩
            · rw [hs₁]
              exact hclose w₁ _ _ fill' hw₁
            · rw [hs₁]
              exact Wallet.bookClose_flattens hw₁.aligned _ _ fill'
          · intro _
            have hsave : Moves (World.Keeps (Wallet.ValuedBut marks symbol cached))
                (modifyWallet Wallet.save) := modifyWallet_keeps hI.save
            have hslice (s₁ : World) (hs₁ : s₁.wallet.ValuedBut marks symbol cached) :
                wp (do
                    modifyWallet Wallet.save
                    pure (PartialResult.slice pnl) : Live PartialResult)
                  (fun result s' => s'.wallet.ValuedBut marks symbol cached ∧
                    ∀ pos, result = .full pos → s'.wallet.getOpenPosition symbol = none)
                  (fun _ s' => s'.wallet.ValuedBut marks symbol cached) s₁ := by
              rw [wp_bind]
              refine wp_mono (World.wp_of_keeps hsave hs₁) ?_ (fun _ _ h => h)
              exact fun _ _ h => ⟨h, fun pos heq => by cases heq⟩
            cases fill.2 with
            | false => exact hslice _ hbooked
            | true =>
                show wp (restoreProtective env symbol >>= _) _ _ _
                rw [wp_bind]
                exact wp_mono (World.wp_of_keeps (restoreProtective_keeps env hI hclose)
                  (s := { s' with wallet := w' }) hbooked) (fun _ s₁ h => hslice s₁ h)
                  (fun _ _ h => h)

theorem partialClose_worthless {marks : Marks} {cached : Decimal}
    (hs : s.wallet.Carrying marks symbol cached 0) :
    wp (partialClose env .none symbol markPrice pct reason tpLabel externalFill)
      (fun _ s' => s'.wallet.Carrying marks symbol cached 0)
      (fun _ s' => s'.wallet.Carrying marks symbol cached 0) s :=
  World.wp_of_keeps (partialClose_keeps env (Wallet.Carrying.stable marks symbol cached 0)
    (Wallet.Carrying.closedUnder marks symbol cached) markPrice pct reason tpLabel externalFill
    (fun _ fill h => h.bookPartial markPrice pct reason tpLabel fill)) hs

end Partial

/-- The rest after a partial close is worth what the position carries: it
carries nothing, nothing is taken, or the exit order raises. -/
def PartialClean (symbol : Symbol) (pct : Decimal) (externalFill : Option ExternalFill)
    (s : World) : Prop :=
  s.wallet.unrealizedOn symbol = 0 ∨ s.wallet.NothingToTake symbol pct ∨
    Raises (partialFill env symbol pct externalFill) s

theorem partialClose_valued {marks : Marks} {symbol : Symbol} {s : World}
    (h : s.wallet.Valued marks) (markPrice pct : Decimal) (reason : String)
    (tpLabel : Option String) (externalFill : Option ExternalFill)
    (hclean : PartialClean env symbol pct externalFill s) :
    (final (partialClose env .none symbol markPrice pct reason tpLabel externalFill)
      s).wallet.Valued marks := by
  have hcarrying := h.carrying symbol
  rcases hclean with hzero | hnothing | hraises
  · rw [hzero] at hcarrying
    exact (wp_final (P := fun s' : World => s'.wallet.Valued marks) _).mp
      (wp_mono (partialClose_worthless env markPrice pct reason tpLabel externalFill hcarrying)
        (fun _ _ h => h.valued rfl) (fun _ _ h => h.valued rfl))
  · exact (wp_final (P := fun s' : World => s'.wallet.Valued marks) _).mp
      (wp_mono (partialClose_nothing env markPrice pct reason tpLabel externalFill hcarrying hnothing)
        (fun _ _ h => h.valued rfl) (fun _ _ h => h.elim))
  · exact (partialClose_raised env markPrice pct reason tpLabel externalFill
      (Wallet.Valued.stable marks symbol) h hraises).2

/-! ## Marking -/

/-- The marks once a position was marked. -/
def Marks.marking (marks : Marks) (w : Wallet) (symbol : Symbol) (markPrice : Decimal) : Marks :=
  if (w.getOpenPosition symbol).isSome then
    Function.update marks symbol (markAfter markPrice (marks symbol))
  else marks

/-- The position of `symbol` marked, and the cache not yet. -/
def World.marked (s : World) (symbol : Symbol) (markPrice : Decimal) : World :=
  { s with wallet := s.wallet.editPosition symbol (fun pos => pos.updatePnl markPrice) }

/-- The position taken part of at a target is left with what its rest is worth,
and the cache with it: nothing is taken; the order raises and the mark has not
moved the PnL; the position carries nothing, and nothing was cached for it
should it raise; or the rest is closed as well. -/
def TakeProfitClean (symbol : Symbol) (markPrice : Decimal) (pos marked : EnhancedPosition)
    (tp : TpLevel) (s₁ : World) : Prop :=
  let close := partialClose env .none symbol markPrice tp.pct s!"{tp.label} HIT" (some tp.label) none
  s₁.wallet.NothingToTake symbol tp.pct ∨
    (Raises (partialFill env symbol tp.pct none) s₁ ∧ marked.unrealizedPnl = pos.unrealizedPnl) ∨
    (marked.unrealizedPnl = 0 ∧ (Raises close s₁ → pos.unrealizedPnl = 0)) ∨
    ∃ closed s', close s₁ = .ok (.full closed) s'

/-- The exit that a mark leads to, if it leads to one, does not leave the cache
stale: an early return only when nothing was cached for the position, a raising
one only when the mark has not moved the PnL. -/
def UpdateClean (rules : ExitRules) (symbol : Symbol) (u : MarkUpdate) (s : World) : Prop :=
  ∀ pos, s.wallet.getOpenPosition symbol = some pos →
    let marked := pos.updatePnl u.markPrice
    let s₁ := s.marked symbol u.markPrice
    match s.wallet.forcedExit rules marked u with
    | some .liquidation => pos.unrealizedPnl = 0
    | some (.close reason) =>
        let close := closePosition env .none symbol u.markPrice reason none
        (Raises close s₁ → marked.unrealizedPnl = pos.unrealizedPnl) ∧
          (¬ Raises close s₁ → pos.unrealizedPnl = 0)
    | none =>
        match s.wallet.playbookExit rules marked u with
        | none => True
        | some (.close reason) =>
            Raises (closePosition env .none symbol u.markPrice reason none) s₁ →
              marked.unrealizedPnl = pos.unrealizedPnl
        | some (.takeProfit tp) => TakeProfitClean env symbol u.markPrice pos marked tp s₁

section Marking

variable {marks : Marks} {symbol : Symbol} {s : World}

/-- A marked position carries its PnL at the new mark, and the cache counts it
at the old one. -/
theorem Wallet.Valued.marked {w : Wallet} (h : w.Valued marks) {pos : EnhancedPosition}
    (hpos : w.getOpenPosition symbol = some pos) (markPrice : Decimal) :
    (w.editPosition symbol (fun pos => pos.updatePnl markPrice)).Carrying
      (marks.marking w symbol markPrice) symbol pos.unrealizedPnl
      (pos.updatePnl markPrice).unrealizedPnl := by
  have hopened : w.OpenAt symbol := (h.aligned symbol).openAt
  have hput : (w.editPosition symbol (fun pos => pos.updatePnl markPrice)).getOpenPosition symbol =
      some (pos.updatePnl markPrice) := by
    rw [(hopened.editPosition symbol (fun _ hopen => hopen.updatePnl markPrice)).getOpenPosition_eq, Wallet.editPosition,
      Dict.get?_modify_self, (Wallet.getOpenPosition_eq_some.mp hpos).1]
    rfl
  have hkeeps : Wallet.KeepsWorth (some symbol) w
      (w.editPosition symbol (fun pos => pos.updatePnl markPrice)) := by
    refine ⟨fun s => (h.aligned s).editPosition symbol
      (fun _ hopen => hopen.updatePnl markPrice) (fun _ _ hf => hf.updatePnl markPrice), rfl,
      ⟨rfl, rfl, rfl, rfl⟩, fun s hs => ?_⟩
    have hne : symbol ≠ s := fun heq => hs (congrArg some heq)
    unfold Wallet.getOpenPosition Wallet.editPosition
    rw [Dict.get?_modify, if_neg hne]
    exact .refl _
  have hbut := h.but symbol
  rw [Wallet.unrealizedOn_of_open hpos] at hbut
  have hmarks : marks.marking w symbol markPrice =
      Function.update marks symbol (markAfter markPrice (marks symbol)) := by
    unfold Marks.marking
    rw [hpos]
    rfl
  rw [hmarks]
  refine ⟨(hbut.keepsWorth hkeeps).remark _, ?_, Wallet.unrealizedOn_of_open hput⟩
  intro pos' hpos'
  rw [hput] at hpos'
  cases hpos'
  rw [Function.update_self]
  exact EnhancedPosition.updatePnl_pnlAt (Wallet.getOpenPosition_eq_some.mp hpos).2
    (h.current symbol pos hpos) markPrice

theorem Wallet.Valued.sync {w : Wallet} (h : w.Valued marks) :
    w.syncUnrealizedTotal.Valued marks :=
  ⟨h.aligned, h.current, rfl⟩

/-- What follows a partial close at a target. -/
theorem afterTakeProfit_wp {cached carried : Decimal}
    (h : s.wallet.Carrying marks symbol cached carried) (tp : TpLevel) (entryPrice : Decimal) :
    wp (if tp.label = "TP1" then adjustSlPrice symbol entryPrice
        else if tp.label = "TP2" then modifyWallet (fun w => w.activateTrailingStop symbol)
        else pure ())
      (fun _ s' => s'.wallet.Carrying marks symbol cached carried) (fun _ _ => False) s := by
  have hrefl : Wallet.KeepsWorth none s.wallet s.wallet := Wallet.KeepsWorth.refl h.but.aligned
  rw [wp_ite]
  refine ⟨fun _ => h.keepsWorth (hrefl.adjustSlPrice symbol entryPrice), fun _ => ?_⟩
  rw [wp_ite]
  exact ⟨fun _ => h.keepsWorth (hrefl.activateTrailingStop symbol), fun _ => h⟩

theorem takeProfit_wp {pos marked : EnhancedPosition} {markPrice : Decimal} {tp : TpLevel}
    (h : s.wallet.Carrying marks symbol pos.unrealizedPnl marked.unrealizedPnl)
    (hclean : TakeProfitClean env symbol markPrice pos marked tp s) (entryPrice : Decimal) :
    wp (takePlaybookExit env symbol markPrice entryPrice (.takeProfit tp))
      (fun _ s' => s'.wallet.syncUnrealizedTotal.Valued marks)
      (fun _ s' => s'.wallet.Valued marks) s := by
  have hpartial : wp
      (partialClose env .none symbol markPrice tp.pct s!"{tp.label} HIT" (some tp.label) none)
      (fun _ s' => ∃ carried, s'.wallet.Carrying marks symbol pos.unrealizedPnl carried)
      (fun _ s' => s'.wallet.Valued marks) s := by
    rcases hclean with hnothing | ⟨hraises, heq⟩ | ⟨hzero, hraised⟩ | ⟨closed, s', hrun⟩
    · exact wp_mono (partialClose_nothing env markPrice tp.pct _ _ none h hnothing)
        (fun _ _ h => ⟨_, h⟩) (fun _ _ h => h.elim)
    · obtain ⟨⟨e, s', hrun⟩, hs'⟩ := partialClose_raised env markPrice tp.pct
        s!"{tp.label} HIT" (some tp.label) none
        (Wallet.Carrying.stable marks symbol pos.unrealizedPnl marked.unrealizedPnl) h hraises
      unfold final at hs'
      unfold wp
      rw [hrun] at hs' ⊢
      exact hs'.valued heq.symm
    · rw [hzero] at h
      refine wp_mono (wp_raises (partialClose_worthless env markPrice tp.pct _ _ none h)) ?_ ?_
      · exact fun _ _ h => ⟨_, h.2⟩
      · exact fun _ _ h => h.2.valued (hraised h.1)
    · obtain ⟨hs', hflat⟩ := wp_ok (partialClose_full env markPrice tp.pct _ _ none h.but) hrun
      unfold wp
      rw [hrun]
      exact ⟨_, hs'.carrying_of_flat (hflat closed rfl)⟩
  unfold takePlaybookExit
  rw [wp_bind]
  refine wp_mono hpartial ?_ (fun _ _ h => h)
  rintro - s' ⟨carried, hs'⟩
  exact wp_mono (afterTakeProfit_wp hs' tp entryPrice) (fun _ _ h => h.but.sync h.current)
    (fun _ _ h => h.elim)

/-- The exits that return at once. -/
theorem takeForcedExit_wp {cached carried : Decimal} (u : MarkUpdate) (exit : ForcedExit)
    (h : s.wallet.Carrying marks symbol cached carried)
    (hclean : match exit with
      | .liquidation => cached = 0
      | .close reason =>
          (Raises (closePosition env .none symbol u.markPrice reason none) s → carried = cached) ∧
          (¬ Raises (closePosition env .none symbol u.markPrice reason none) s → cached = 0)) :
    wp (takeForcedExit env symbol u.markPrice exit) (fun _ s' => s'.wallet.Valued marks)
      (fun _ s' => s'.wallet.Valued marks) s := by
  cases exit with
  | liquidation =>
      exact wp_mono (liquidatePosition_carrying env h u.markPrice) (fun _ _ h => h.valued hclean)
        (fun _ _ h => h.elim)
  | close reason =>
      unfold takeForcedExit
      rw [wp_bind]
      refine wp_mono (wp_raises (closePosition_carrying env h u.markPrice reason none)) ?_ ?_
      · exact fun _ _ h => h.2.valued (hclean.2 h.1)
      · exact fun _ _ h => h.2.valued (hclean.1 h.1).symm

theorem updatePositions_valued (rules : ExitRules) (u : MarkUpdate) (h : s.wallet.Valued marks)
    (hclean : UpdateClean env rules symbol u s) :
    (final (updatePositions env rules symbol u) s).wallet.Valued
      (marks.marking s.wallet symbol u.markPrice) := by
  refine (wp_final (P := fun s' : World => s'.wallet.Valued
    (marks.marking s.wallet symbol u.markPrice)) _).mp ?_
  unfold updatePositions
  rw [wp_bind, wp_get]
  cases hpos : s.wallet.getOpenPosition symbol with
  | none =>
      dsimp only
      rw [wp_modifyWallet]
      have hsame : marks.marking s.wallet symbol u.markPrice = marks := by
        unfold Marks.marking
        rw [hpos]
        rfl
      rw [hsame]
      exact h.sync
  | some pos =>
      have hcarrying := h.marked hpos u.markPrice
      have hclean := hclean pos hpos
      generalize marks.marking s.wallet symbol u.markPrice = marks' at hcarrying ⊢
      dsimp only
      rw [wp_bind, wp_modifyWallet]
      change (s.marked symbol u.markPrice).wallet.Carrying _ _ _ _ at hcarrying
      change wp _ _ _ (s.marked symbol u.markPrice)
      dsimp only at hclean
      cases hforced : s.wallet.forcedExit rules (pos.updatePnl u.markPrice) u with
      | some exit =>
          rw [hforced] at hclean
          refine takeForcedExit_wp env u exit hcarrying ?_
          cases exit with
          | liquidation => exact hclean
          | close reason => exact hclean
      | none =>
          rw [hforced] at hclean
          cases hplaybook : s.wallet.playbookExit rules (pos.updatePnl u.markPrice) u with
          | none => exact hcarrying.but.sync hcarrying.current
          | some exit =>
              rw [hplaybook] at hclean
              dsimp only
              rw [wp_bind]
              cases exit with
              | close reason =>
                  unfold takePlaybookExit
                  rw [wp_bind]
                  refine wp_mono (wp_raises (closePosition_carrying env hcarrying u.markPrice reason
                    none)) ?_ ?_
                  · exact fun _ _ h => h.2.but.sync h.2.current
                  · exact fun _ _ h => h.2.valued (hclean h.1).symm
              | takeProfit tp =>
                  exact wp_mono (takeProfit_wp env hcarrying hclean _) (fun _ _ h => h)
                    (fun _ _ h => h)

end Marking

/-! ## Runs -/

/-- A call of a public operation of the wallet. -/
inductive WalletCall where
  | openPosition (symbol : Symbol) (setup : Setup) (markPrice : Decimal)
      (customMargin customQuantity : Option Decimal) (externalFill : Option ExternalFill)
  | adoptVenuePosition (r : AdoptRequest)
  | partialClose (symbol : Symbol) (markPrice pct : Decimal) (reason : String)
      (tpLabel : Option String) (externalFill : Option ExternalFill)
  | closePosition (symbol : Symbol) (markPrice : Decimal) (reason : String)
      (externalFill : Option ExternalFill)
  | updatePositions (symbol : Symbol) (u : MarkUpdate)
  | applyFunding (symbol : Symbol) (fundingRate : Decimal)
  | adjustSlPrice (symbol : Symbol) (newSlPrice : Decimal)
  | activateTrailingStop (symbol : Symbol)
  | placePendingOrder (r : OrderRequest)
  | evaluatePendingOrders (symbol : Symbol) (markPrice : Decimal)
  | cancelOrder (orderId reason : String)

/-- The call; what it returns does not matter here. -/
def WalletCall.run (rules : ExitRules) : WalletCall → Live Unit
  | .openPosition symbol setup markPrice customMargin customQuantity externalFill => do
      let _ ← CryptoTrader.openPosition env .none symbol setup markPrice customMargin customQuantity
        externalFill
      pure ()
  | .adoptVenuePosition r => do
      let _ ← CryptoTrader.adoptVenuePosition env r
      pure ()
  | .partialClose symbol markPrice pct reason tpLabel externalFill => do
      let _ ← CryptoTrader.partialClose env .none symbol markPrice pct reason tpLabel externalFill
      pure ()
  | .closePosition symbol markPrice reason externalFill => do
      let _ ← CryptoTrader.closePosition env .none symbol markPrice reason externalFill
      pure ()
  | .updatePositions symbol u => CryptoTrader.updatePositions env rules symbol u
  | .applyFunding symbol fundingRate =>
      modifyWallet (fun w => (w.applyFunding symbol fundingRate).2)
  | .adjustSlPrice symbol newSlPrice => CryptoTrader.adjustSlPrice symbol newSlPrice
  | .activateTrailingStop symbol => modifyWallet (fun w => w.activateTrailingStop symbol)
  | .placePendingOrder r => modifyWallet (fun w => (w.placePendingOrder r).2)
  | .evaluatePendingOrders symbol markPrice =>
      modifyWallet (fun w => w.evaluatePendingOrders symbol markPrice)
  | .cancelOrder orderId reason => modifyWallet (fun w => (w.cancelOrder orderId reason).2)

/-- The last marks after the call. -/
def WalletCall.marks (w : Wallet) (marks : Marks) : WalletCall → Marks
  | .openPosition symbol _ markPrice _ _ _ => marks.opening w symbol (markAfter markPrice none)
  | .adoptVenuePosition r =>
      marks.opening w r.symbol (r.markPrice.bind (fun m => markAfter m none))
  | .updatePositions symbol u => marks.marking w symbol u.markPrice
  | _ => marks

/-- The world, and the last mark of each open position. -/
structure MarkedWorld where
  world : World
  marks : Marks

/-- One call. -/
def MarkedWorld.step (rules : ExitRules) (m : MarkedWorld) (c : WalletCall) : MarkedWorld :=
  ⟨final (c.run env rules) m.world, c.marks m.world.wallet m.marks⟩

/-- The call does not take PnL off a position, or leave it on one, that stays in
or out of the cache. -/
def WalletCall.Clean (rules : ExitRules) (m : MarkedWorld) : WalletCall → Prop
  | .openPosition symbol setup markPrice customMargin customQuantity externalFill =>
      ∀ pos s₁, bookEntry env symbol setup markPrice customMargin customQuantity externalFill
          m.world = .ok (some pos) s₁ →
        Entry.LosesStop env pos s₁ → pos.unrealizedPnl = 0
  | .adoptVenuePosition r =>
      ∀ pos s₁, onWallet (fun w => w.bookAdoption r) m.world = .ok (some pos) s₁ →
        Entry.LosesStop env pos s₁ → pos.unrealizedPnl = 0
  | .partialClose symbol _ pct _ _ externalFill => PartialClean env symbol pct externalFill m.world
  | .closePosition symbol markPrice reason externalFill =>
      m.world.wallet.unrealizedOn symbol = 0 ∨
        Raises (CryptoTrader.closePosition env .none symbol markPrice reason externalFill) m.world
  | .updatePositions symbol u => UpdateClean env rules symbol u m.world
  | _ => True

/-- Dropping what a computation returns drops nothing of what it did. -/
theorem final_discard {α : Type} (m : Live α) (s : World) :
    final (m >>= fun _ => pure ()) s = final m s := by
  cases hrun : m s with
  | ok a s' =>
      rw [final_bind_ok hrun, final_of_ok hrun]
      rfl
  | error e s' => rw [final_bind_error hrun]

section Runs

variable {rules : ExitRules} {m m₀ : MarkedWorld}

theorem MarkedWorld.step_valued (h : m.world.wallet.Valued m.marks) (c : WalletCall)
    (hclean : c.Clean env rules m) :
    (m.step env rules c).world.wallet.Valued (m.step env rules c).marks := by
  have hrefl : Wallet.KeepsWorth none m.world.wallet m.world.wallet :=
    Wallet.KeepsWorth.refl h.aligned
  unfold step
  cases c with
  | openPosition symbol setup markPrice customMargin customQuantity externalFill =>
      unfold WalletCall.run WalletCall.marks
      dsimp only
      rw [final_discard, openPosition_eq]
      exact protected_valued env (bookEntry_wp env h symbol setup markPrice customMargin
        customQuantity externalFill) hclean
  | adoptVenuePosition r =>
      unfold WalletCall.run WalletCall.marks
      dsimp only
      rw [final_discard, adoptVenuePosition_eq]
      exact protected_valued env (onWallet_bookAdoption_wp h r) hclean
  | partialClose symbol markPrice pct reason tpLabel externalFill =>
      unfold WalletCall.run WalletCall.marks
      dsimp only
      rw [final_discard]
      exact partialClose_valued env h markPrice pct reason tpLabel externalFill hclean
  | closePosition symbol markPrice reason externalFill =>
      unfold WalletCall.run WalletCall.marks
      dsimp only
      rw [final_discard]
      exact closePosition_valued env h markPrice reason externalFill hclean
  | updatePositions symbol u => exact updatePositions_valued env rules u h hclean
  | applyFunding symbol fundingRate =>
      exact h.keepsWorth symbol (hrefl.applyFunding symbol fundingRate)
  | adjustSlPrice symbol newSlPrice =>
      exact h.keepsWorth symbol (hrefl.adjustSlPrice symbol newSlPrice)
  | activateTrailingStop symbol => exact h.keepsWorth symbol (hrefl.activateTrailingStop symbol)
  | placePendingOrder r => exact h.keepsWorth r.symbol (hrefl.placePendingOrder r)
  | evaluatePendingOrders symbol markPrice =>
      exact h.keepsWorth symbol (hrefl.evaluatePendingOrders symbol markPrice)
  | cancelOrder orderId reason =>
      exact h.keepsWorth m.world.wallet.cfg.symbol (hrefl.cancelOrder orderId reason)

/-- In a run of clean calls `unrealized_pnl_total` is always the PnL of the open
positions at their last marks. -/
theorem MarkedWorld.equityExact_of_clean
    (h : Reaches (MarkedWorld.step env rules) (fun m c => c.Clean env rules m) m₀ m)
    (hstart : m₀.world.wallet.Valued m₀.marks) : m.world.wallet.EquityExact m.marks :=
  Wallet.Valued.equityExact
    (h.invariant hstart (fun _ c hm hc => MarkedWorld.step_valued env hm c hc))

end Runs

/-- A wallet created over empty stores has nothing to value. -/
theorem Wallet.boot_valued (init : WalletInit) (clock : Nat → Nat) (redisUp : Bool)
    (marks : Marks) : (Wallet.boot init clock {} redisUp).Valued marks := by
  have haligned := Wallet.Aligned.boot init clock redisUp
  rw [Wallet.boot_empty] at haligned ⊢
  exact Wallet.Valued.fresh haligned (fun _ => rfl) rfl rfl marks

/-! ### A run that keeps the cache and one that does not -/

/-- A paper wallet, nothing marked. -/
def paperWorld : MarkedWorld :=
  { world := { demoWorld with wallet := Wallet.boot demoInit id {} false }
    marks := fun _ => none }

def demoOpen : WalletCall := .openPosition demoSymbol demoSetup 100 none (some 10) none

def demoMark (markPrice : Decimal) : WalletCall :=
  .updatePositions demoSymbol { markPrice := markPrice, candleCloseTime := 0 }

/-- In paper mode no stop is lost. -/
theorem demoOpen_clean : demoOpen.Clean demoEnv {} paperWorld := by
  intro pos s₁ hrun hlost
  obtain ⟨msg, s', hfailed, -⟩ := hlost
  have hlive := attemptProtective_failed demoEnv hfailed
  have hends : ends (bookEntry demoEnv demoSymbol demoSetup 100 none (some 10) none)
      paperWorld.world (fun _ s => !s.wallet.liveExecution) := by decide +kernel
  obtain ⟨r, s, hrun', hpaper⟩ := exists_of_ends hends
  rw [hrun] at hrun'
  cases hrun'
  rw [hlive] at hpaper
  cases hpaper

/-- A mark that leads to no exit. -/
theorem demoMark_clean :
    (demoMark 101).Clean demoEnv {} (paperWorld.step demoEnv {} demoOpen) := by
  intro pos hpos
  have hno : ((paperWorld.step demoEnv {} demoOpen).world.wallet.getOpenPosition demoSymbol).all
      (fun pos =>
        let w := (paperWorld.step demoEnv {} demoOpen).world.wallet
        let u : MarkUpdate := { markPrice := 101, candleCloseTime := 0 }
        (w.forcedExit {} (pos.updatePnl 101) u).isNone &&
          (w.playbookExit {} (pos.updatePnl 101) u).isNone) = true := by
    decide +kernel
  rw [hpos] at hno
  simp only [Option.all_some, Bool.and_eq_true, Option.isNone_iff_eq_none] at hno
  dsimp only
  rw [hno.1, hno.2]
  trivial

/-- Opened and marked, the position is in the cache at its mark. -/
theorem MarkedWorld.equityExact_demo :
    ((paperWorld.step demoEnv {} demoOpen).step demoEnv {} (demoMark 101)).world.wallet.EquityExact
      ((paperWorld.step demoEnv {} demoOpen).step demoEnv {} (demoMark 101)).marks :=
  MarkedWorld.equityExact_of_clean demoEnv ((Reaches.start.step demoOpen_clean).step demoMark_clean)
    (Wallet.boot_valued demoInit id false _)

/-- A position marked at 101 and then closed stays in the cache. -/
theorem MarkedWorld.not_equityExact_closed :
    ¬ ∀ (env : Env) (rules : ExitRules) (init : WalletInit) (clock : Nat → Nat) (s : World)
        (calls : List WalletCall), s.wallet = Wallet.boot init clock {} false →
        let m := calls.foldl (MarkedWorld.step env rules) ⟨s, fun _ => none⟩
        m.world.wallet.EquityExact m.marks := by
  intro h
  have hexact := h demoEnv {} demoInit id paperWorld.world
    [demoOpen, demoMark 101, .closePosition demoSymbol 101 "MANUAL" none] rfl
  revert hexact
  decide +kernel

end CryptoTrader
