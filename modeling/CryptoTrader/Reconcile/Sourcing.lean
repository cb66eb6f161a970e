import CryptoTrader.Live.Durable
import CryptoTrader.Reconcile.Positions

/-!
# Reconcilers and the event log

A reconciler that finds another quantity or another balance at the venue writes
it into the wallet, and the quantity into the reducer state, without an event.
Whatever else it does goes through events.
-/

namespace CryptoTrader

open CryptoTrader.Lib

/-! ## Values in force -/

/-- The balance and the quantities that the wallet shows are those that later
events build on and that a restart from the log comes to. -/
structure Wallet.InForce (w : Wallet) : Prop where
  balance : ∀ payload, (∀ b, payload ≠ .walletInitialized b) →
    (w.emit payload).walletBalance = w.walletBalance + payload.cash
  quantity : ∀ payload symbol, payload.revalues? ≠ some symbol →
    ((w.emit payload).positions.get? symbol).map EnhancedPosition.remainingQuantity =
      (w.positions.get? symbol).map EnhancedPosition.remainingQuantity
  replayed : ∃ st, w.stores.replayPortfolioState w.cfg.initialBalance = some st ∧
    st.walletBalance = w.walletBalance ∧
    ∀ symbol, (st.openPositions.get? symbol).map PositionData.quantity =
      (w.positions.get? symbol).map EnhancedPosition.remainingQuantity

section InForce

variable {w : Wallet}

theorem Wallet.AlignedAt.quantity_eq {s : Symbol} (h : w.AlignedAt s) :
    (w.positions.get? s).map EnhancedPosition.remainingQuantity =
      (w.runtime.openPositions.get? s).map PositionData.quantity := by
  unfold AlignedAt at h
  cases hpos : w.positions.get? s with
  | none =>
      rw [hpos] at h
      cases hdata : w.runtime.openPositions.get? s with
      | none => rfl
      | some data =>
          rw [hdata] at h
          exact h.elim
  | some pos =>
      rw [hpos] at h
      cases hdata : w.runtime.openPositions.get? s with
      | none =>
          rw [hdata] at h
          exact h.elim
      | some data =>
          rw [hdata] at h
          exact congrArg some h.2.quantity

/-- The quantities of states that look alike. -/
theorem PortfolioState.quantity_of_view {s t : PortfolioState} (h : s.view = t.view)
    (symbol : Symbol) :
    (s.openPositions.get? symbol).map PositionData.quantity =
      (t.openPositions.get? symbol).map PositionData.quantity := by
  have hpositions : s.openPositions.mapVal (fun _ pos => pos.view) =
      t.openPositions.mapVal (fun _ pos => pos.view) :=
    congrArg PortfolioView.openPositions h
  have hview := congrArg (fun d => (Dict.get? d symbol).map PositionView.quantity) hpositions
  simpa [Dict.get?_mapVal, Function.comp_def, PositionData.view] using hview

/-- The size of an entry does not change with an event of another symbol. -/
theorem PositionData.SameSize.quantity_eq {a b : Option PositionData}
    (h : Option.Rel PositionData.SameSize a b) :
    b.map PositionData.quantity = a.map PositionData.quantity := by
  cases h with
  | none => rfl
  | some hsize => exact congrArg some hsize.1

/-- A coherent wallet in parity whose positions are aligned shows what is in
force. -/
theorem Wallet.InParity.inForce (h : w.InParity) (hcoherent : w.Coherent)
    (haligned : w.Aligned) : w.InForce := by
  refine ⟨fun payload hpayload => ?_, fun payload symbol hother => ?_, ?_⟩
  · rw [w.cash_emit payload hpayload, hcoherent.walletBalance]
  · have hsize := PortfolioState.sameSize_apply w.runtime (w.event payload) hother
    rw [((haligned symbol).emit payload).quantity_eq, (haligned symbol).quantity_eq,
      Wallet.runtime_emit]
    exact PositionData.SameSize.quantity_eq hsize
  · obtain ⟨st, hst, hview⟩ := Option.map_eq_some_iff.mp h
    refine ⟨st, hst, ?_, fun symbol => ?_⟩
    · rw [hcoherent.walletBalance]
      exact congrArg PortfolioView.walletBalance hview
    · rw [(haligned symbol).quantity_eq]
      exact PortfolioState.quantity_of_view hview symbol

/-- A balance that was set without an event is lost with the next one. -/
theorem Wallet.not_inForce_of_balance (h : w.walletBalance ≠ w.runtime.walletBalance) :
    ¬ w.InForce := by
  intro hforce
  have hnext := hforce.balance (.feeCharged 0 "" ⟨"GLOBAL", by decide⟩) (by simp)
  rw [w.cash_emit _ (by simp)] at hnext
  exact h (add_right_cancel hnext).symm

/-- A quantity that was set without an event is not that of the replay. -/
theorem Wallet.InParity.not_alignQuantity (h : w.InParity) {symbol : Symbol} {data : PositionData}
    (hdata : w.runtime.openPositions.get? symbol = some data) {qty : Decimal}
    (hqty : data.quantity ≠ qty) : ¬ (w.alignQuantity symbol qty).InParity := by
  intro haligned
  have hview : some (w.alignQuantity symbol qty).runtime.view = some w.runtime.view :=
    haligned.symm.trans h
  have hquantity := PortfolioState.quantity_of_view (Option.some.inj hview) symbol
  rw [Wallet.alignQuantity, Dict.get?_modify_self, hdata] at hquantity
  exact hqty (Option.some.inj hquantity).symm

end InForce

/-! ## What goes through events -/

section Durable

variable (env : Env) (r : Reconciler) {u : Wallet}

theorem cancelOrder_keeps (I : Wallet → Prop) (orderId : String) :
    Moves (World.Keeps I) (cancelOrder env orderId) := by
  intro s
  refine wp_mono (cancelOrder_wp env orderId s) ?_ ?_
  · rintro - s' ⟨ext, rfl, -⟩ h
    exact h
  · rintro - s' ⟨ext, rfl, -⟩ h
    exact h

/-- Taking over a leverage touches neither the log nor the positions. -/
theorem takeLeverage_durable (symbol : Symbol) (leverage : Leverage) :
    Moves (World.Keeps (Wallet.DurableFrom u)) (modify (fun s =>
      { s with
        wallet := s.wallet.syncedLeverage symbol leverage
        engineLeverage := leverage }) : Live Unit) :=
  fun _ h => h.volatile ⟨rfl, rfl, Nat.le_refl _, rfl, rfl, rfl, rfl, rfl⟩ rfl

theorem syncLeverageFromVenue_durable (symbol : Symbol) :
    Moves (World.Keeps (Wallet.DurableFrom u)) (syncLeverageFromVenue env symbol) := by
  unfold syncLeverageFromVenue
  refine Moves.get.bind (fun s => ?_)
  split
  · have hfetch : Moves (World.Keeps (Wallet.DurableFrom u)) (fetchSymbolLeverage env symbol) :=
      fun s => wp_mono (fetchSymbolLeverage_wp env symbol s) (fun _ _ h => h.keeps _)
        (fun _ _ h => h.elim)
    refine hfetch.bind (fun found => ?_)
    cases found with
    | none => exact Moves.pure ()
    | some leverage => exact takeLeverage_durable symbol leverage
  · exact Moves.pure ()

theorem syncLeverage_durable (snap : AccountSnapshot) (symbol : Option Symbol) :
    Moves (World.Keeps (Wallet.DurableFrom u)) (syncLeverage env snap symbol) := by
  have hfold {f : Wallet → Symbol × VenueHolding → Wallet}
      (hf : ∀ w entry, Wallet.DurableFrom u w → Wallet.DurableFrom u (f w entry))
      (entries : List (Symbol × VenueHolding)) (w : Wallet) (h : Wallet.DurableFrom u w) :
      Wallet.DurableFrom u (entries.foldl f w) := by
    induction entries generalizing w with
    | nil => exact h
    | cons entry rest ih =>
        rw [List.foldl_cons]
        exact ih _ (hf w entry h)
  unfold syncLeverage
  refine Moves.get.bind (fun s => ?_)
  split
  · cases symbol with
    | some symbol =>
        dsimp only
        unfold syncSymbolLeverage
        cases snap.positions.get? symbol with
        | none => exact syncLeverageFromVenue_durable env symbol
        | some row =>
            dsimp only
            cases row.leverage with
            | none => exact Moves.pure ()
            | some leverage => exact takeLeverage_durable symbol leverage
    | none =>
        refine (modifyWallet_keeps (hfold ?_ snap.positions.entries)).bind
          (fun _ => syncLeverageFromVenue_durable env _)
        intro w entry h
        cases entry.2.leverage with
        | none => exact h
        | some leverage =>
            exact h.volatile ⟨rfl, rfl, Nat.le_refl _, rfl, rfl, rfl, rfl, rfl⟩ rfl
  · exact Moves.pure ()

theorem collect_moves {α : Type} {R : World → World → Prop} [Std.Refl R] [IsTrans World R]
    {find : α → Live (Option Mismatch)} (l : List α) (h : ∀ a ∈ l, Moves R (find a)) :
    Moves R (collect find l) := by
  induction l with
  | nil => exact Moves.pure []
  | cons a rest ih =>
      unfold collect
      refine (h a List.mem_cons_self).bind (fun found => ?_)
      exact (ih (fun b hb => h b (List.mem_cons_of_mem a hb))).bind (fun _ => Moves.pure _)

theorem adopt_durable (sym : Symbol) (row : VenueHolding) :
    Moves (World.Keeps (Wallet.DurableFrom u)) (adopt env sym row) := by
  unfold adopt
  refine Moves.tryCatch ?_ (fun _ => Moves.pure false)
  exact (adoptVenuePosition_durable env _).bind (fun _ => Moves.pure _)

theorem findMissingPositions_durable (internal : Dict Symbol InternalHolding)
    (venue : Dict Symbol VenueHolding) :
    Moves (World.Keeps (Wallet.DurableFrom u)) (findMissingPositions env r internal venue) := by
  refine collect_moves venue.entries (fun entry _ => ?_)
  unfold missingPosition
  dsimp only
  split
  · exact Moves.pure none
  · split
    · exact (adopt_durable env entry.1 entry.2).bind (fun _ => Moves.pure _)
    · exact Moves.pure _

theorem placeProtective_durable (pos : EnhancedPosition) :
    Moves (World.Keeps (Wallet.DurableFrom u)) (placeProtective env pos) := by
  have hstable := Wallet.DurableFrom.stable u pos.symbol
  have hclosed := Wallet.DurableFrom.closedUnder u pos.symbol
  unfold placeProtective
  refine (attemptProtective_keeps env _ pos).bind (fun attempted => ?_)
  cases attempted with
  | placed orders => exact (recordProtective_keeps hstable rfl orders).bind (fun _ => Moves.pure _)
  | failed msg => exact requiredStopFailed_keeps env hstable hclosed rfl msg

theorem syncProtectiveStops_durable (venue : Dict Symbol VenueHolding) (openIds : List String) :
    Moves (World.Keeps (Wallet.DurableFrom u)) (syncProtectiveStops env venue openIds) := by
  have hstop (sym : Symbol) :
      Moves (World.Keeps (Wallet.DurableFrom u)) (syncStop env venue openIds sym) := by
    unfold syncStop
    refine Moves.get.bind (fun s => ?_)
    cases s.wallet.positions.get? sym with
    | none => exact Moves.pure _
    | some pos =>
        dsimp only
        split
        · split
          · exact (placeProtective_durable env pos).bind (fun _ => Moves.pure _)
          · exact Moves.pure _
        · exact Moves.pure _
  have hloop (syms : List Symbol) :
      Moves (World.Keeps (Wallet.DurableFrom u)) (syncStops env venue openIds syms) := by
    induction syms with
    | nil => exact Moves.pure _
    | cons sym rest ih =>
        unfold syncStops
        exact (hstop sym).bind (fun _ => ih.bind (fun _ => Moves.pure _))
  unfold syncProtectiveStops
  refine Moves.get.bind (fun s => ?_)
  split
  · exact hloop _
  · exact Moves.pure _

theorem reconcileProtectiveOrders_durable (snap : AccountSnapshot)
    (venue : Dict Symbol VenueHolding) :
    Moves (World.Keeps (Wallet.DurableFrom u)) (reconcileProtectiveOrders env snap venue) := by
  unfold reconcileProtectiveOrders
  refine (syncProtectiveStops_durable env venue _).bind (fun found => Moves.get.bind (fun s => ?_))
  refine Moves.bind ?_ (fun _ => Moves.pure _)
  refine collect_moves snap.openOrders (fun order _ => ?_)
  unfold cancelOrphan
  cases order.symbol with
  | none => exact Moves.pure none
  | some sym =>
      dsimp only
      split
      · exact Moves.pure none
      · exact ((cancelOrder_keeps env _ _).tryCatch (fun _ => Moves.pure _)).bind
          (fun _ => Moves.pure _)

theorem cancelAllOrders_keeps (I : Wallet → Prop) (symbol : Option Symbol) :
    Moves (World.Keeps I) (cancelAllOrders env symbol) := by
  have hlist (rows : List OrderRow) : Moves (World.Keeps I) (cancelListed env rows) := by
    induction rows with
    | nil => exact Moves.pure ()
    | cons row rest ih =>
        unfold cancelListed
        dsimp only
        split
        · exact (cancelOrder_keeps env I _).bind (fun _ => ih)
        · exact ih
  have hread : Moves (World.Keeps I) (exchange env.venue.listOrders (fun _ => .listOrders)) :=
    (exchange_reads (by intros; rfl)).mono (fun _ _ h => h.keeps I)
  unfold cancelAllOrders
  exact hread.bind (fun reply => (ofReply_keeps I reply).bind (fun rows => hlist _))

end Durable

/-! ## What does not -/

/-- `reconcile` writes a quantity of the venue into the wallet. -/
def Reconciler.corrects (r : Reconciler) (w : Wallet) (snap : AccountSnapshot)
    (symbol : Option Symbol) : Bool :=
  r.adoptVenue && (w.scopedPositions symbol).entries.any (fun entry =>
    ((snap.scoped symbol).get? entry.1).any (fun row => r.drifts entry.2.quantity row.quantity))

/-- `reconcile_symbol` writes the balance of the venue into the wallet. -/
def SymbolReading.correctsBalance (reading : SymbolReading) (w : Wallet) : Bool :=
  reading.balance.any (fun balance => w.liveExecution && 1 / 100 < |w.walletBalance - balance|)

/-- `reconcile_symbol` writes the quantity of the venue into the wallet. -/
def SymbolReading.correctsQuantity (reading : SymbolReading) (w : Wallet) (symbol : Symbol) : Bool :=
  match reading.positions with
  | .error _ => false
  | .ok positions =>
      let exQty := ((exchangePosition positions symbol).map VenueHolding.quantity).getD 0
      (w.liveOpenPosition symbol).any (fun pos =>
        sizeCheck w.liveExecution symbol exQty pos.remainingQuantity = .align)

section Corrections

variable (env : Env) (r : Reconciler) {u : Wallet} {s : World}

/-- Drifts that are only reported. -/
theorem findQuantityDrifts_keeps (I : Wallet → Prop) {internal : Dict Symbol InternalHolding}
    {venue : Dict Symbol VenueHolding}
    (h : r.adoptVenue → ∀ entry ∈ internal.entries, ∀ row, venue.get? entry.1 = some row →
      ¬ r.drifts entry.2.quantity row.quantity) :
    Moves (World.Keeps I) (findQuantityDrifts r internal venue) := by
  refine collect_moves internal.entries (fun entry hentry => ?_)
  unfold quantityDrift
  cases hrow : venue.get? entry.1 with
  | none => exact Moves.pure none
  | some row =>
      dsimp only
      split
      · next hdrifts =>
          refine Moves.get.bind (fun s => ?_)
          split
          · next hadopt => exact absurd hdrifts (h hadopt.1 entry hentry row hrow)
          · exact Moves.pure _
      · exact Moves.pure none

/-- A comparison that corrects nothing. -/
theorem compare_durable {snap : AccountSnapshot} {symbol : Option Symbol}
    (hs : Wallet.DurableFrom u s.wallet) (h : ¬ r.corrects s.wallet snap symbol) :
    wp (compare env r snap symbol) (fun _ s' => Wallet.DurableFrom u s'.wallet)
      (fun _ s' => Wallet.DurableFrom u s'.wallet) s := by
  have hnone : r.adoptVenue → ∀ entry ∈ (s.wallet.scopedPositions symbol).entries, ∀ row,
      (snap.scoped symbol).get? entry.1 = some row →
        ¬ r.drifts entry.2.quantity row.quantity := by
    intro hadopt entry hentry row hrow hdrifts
    refine h ?_
    unfold Reconciler.corrects
    rw [hadopt, Bool.true_and, List.any_eq_true]
    exact ⟨entry, hentry, by rw [hrow]; exact hdrifts⟩
  unfold compare findPositionMismatches
  rw [bind_assoc, wp_bind]
  refine wp_mono (wp_and (syncLeverage_wp env snap symbol s)
    (World.wp_of_keeps (syncLeverage_durable env snap symbol) hs)) ?_ (fun _ _ h => h.2)
  rintro - s₁ ⟨hsame, hs₁⟩
  rw [bind_assoc, wp_bind, wp_get, hsame.scopedPositions symbol]
  refine World.wp_of_keeps ?_ hs₁
  refine Moves.bind ?_ (fun _ =>
    (reconcileProtectiveOrders_durable env snap _).bind (fun _ => Moves.pure _))
  unfold comparePositions
  exact (findQuantityDrifts_keeps r _ hnone).bind (fun _ =>
    (findMissingPositions_durable env r _ _).bind (fun _ => Moves.pure _))

theorem reconcile_durable {snap : AccountSnapshot} {symbol : Option Symbol}
    (hs : Wallet.DurableFrom u s.wallet) (h : ¬ r.corrects s.wallet snap symbol) :
    wp (reconcile env r (some snap) symbol) (fun _ s' => Wallet.DurableFrom u s'.wallet)
      (fun _ s' => Wallet.DurableFrom u s'.wallet) s := by
  unfold reconcile
  dsimp only
  rw [wp_bind]
  refine wp_mono (compare_durable env r hs h) ?_ (fun _ _ h => h)
  intro found s₁ hs₁
  refine World.wp_of_keeps ?_ hs₁
  split
  · exact Moves.pure _
  · split
    · exact ((cancelAllOrders_keeps env _ symbol).tryCatch (fun _ => Moves.pure ())).bind
        (fun _ => Moves.pure _)
    · exact Moves.pure _

theorem recreateStop_durable (symbol : Symbol) (exQty : Decimal) (orders : List VenueOrder) :
    Moves (World.Keeps (Wallet.DurableFrom u)) (recreateStop env symbol exQty orders) := by
  unfold recreateStop
  refine Moves.get.bind (fun s => ?_)
  cases s.wallet.liveOpenPosition symbol with
  | none => exact Moves.pure none
  | some pos =>
      dsimp only
      split
      · refine ((placeProtective_durable env pos).tryCatch (fun _ => Moves.pure _)).bind
          (fun placed => ?_)
        split
        · exact Moves.pure _
        · exact Moves.pure _
      · exact Moves.pure none

theorem cancelOrphaned_keeps (I : Wallet → Prop) (exQty : Decimal) (orders : List VenueOrder) :
    Moves (World.Keeps I) (cancelOrphaned env exQty orders) := by
  unfold cancelOrphaned
  split
  · induction orders with
    | nil => exact Moves.pure ()
    | cons order rest ih =>
        unfold cancelLeftovers
        dsimp only
        split
        · exact ((cancelOrder_keeps env I _).tryCatch (fun _ => Moves.pure _)).bind (fun _ => ih)
        · exact ih
  · exact Moves.pure ()

/-- A size that agrees, or is only reported. -/
theorem reconcileSize_keeps (I : Wallet → Prop) {symbol : Symbol} {exQty : Decimal}
    (h : ∀ pos, s.wallet.liveOpenPosition symbol = some pos →
      sizeCheck s.wallet.liveExecution symbol exQty pos.remainingQuantity ≠ .align)
    (hs : I s.wallet) :
    wp (reconcileSize symbol exQty) (fun _ s' => I s'.wallet) (fun _ s' => I s'.wallet) s := by
  unfold reconcileSize
  rw [wp_bind, wp_get]
  dsimp only
  cases hpos : s.wallet.liveOpenPosition symbol with
  | none =>
      cases sizeCheck s.wallet.liveExecution symbol exQty _ with
      | agreed => exact hs
      | halt reason => exact hs
      | align => exact hs
  | some pos =>
      cases hcheck : sizeCheck s.wallet.liveExecution symbol exQty
          (((some pos).map EnhancedPosition.remainingQuantity).getD 0) with
      | agreed => exact hs
      | halt reason => exact hs
      | align => exact absurd hcheck (h pos hpos)

/-- A balance that is taken over is lost with the next event. -/
theorem syncBalance_lost (h : s.wallet.Coherent) {balance : Decimal}
    (hfar : s.wallet.liveExecution ∧ 1 / 100 < |s.wallet.walletBalance - balance|) :
    ¬ (final (syncBalance (some balance)) s).wallet.InForce := by
  have hset : (final (syncBalance (some balance)) s).wallet =
      { s.wallet with walletBalance := balance } := if_pos hfar
  rw [hset]
  refine Wallet.not_inForce_of_balance (fun heq => ?_)
  have hsame : s.wallet.walletBalance = balance := h.walletBalance.trans heq.symm
  rw [hsame, sub_self, abs_zero] at hfar
  norm_num at hfar

/-- A balance that is close enough stays. -/
theorem syncBalance_same {balance : Option Decimal}
    (h : ¬ balance.any (fun balance =>
      s.wallet.liveExecution && 1 / 100 < |s.wallet.walletBalance - balance|)) :
    syncBalance balance s = .ok () s := by
  cases balance with
  | none => rfl
  | some balance =>
      have hnear : ¬ (s.wallet.liveExecution ∧ 1 / 100 < |s.wallet.walletBalance - balance|) := by
        simpa using h
      exact congrArg (fun w => EStateM.Result.ok () { s with wallet := w }) (if_neg hnear)

theorem syncPositionLeverage_durable (symbol : Symbol) (exPos : Option VenueHolding) :
    Moves (World.Keeps (Wallet.DurableFrom u)) (syncPositionLeverage env symbol exPos) := by
  unfold syncPositionLeverage
  refine Moves.get.bind (fun s => ?_)
  split
  · cases exPos.bind VenueHolding.leverage with
    | none => exact syncLeverageFromVenue_durable env symbol
    | some leverage => exact takeLeverage_durable symbol leverage
  · exact Moves.pure ()

theorem reconcileSymbol_durable {reading : SymbolReading} {symbol : Symbol}
    (hs : Wallet.DurableFrom u s.wallet) (hbalance : ¬ reading.correctsBalance s.wallet)
    (hquantity : ¬ reading.correctsQuantity s.wallet symbol) :
    wp (reconcileSymbol env reading symbol) (fun _ s' => Wallet.DurableFrom u s'.wallet)
      (fun _ s' => Wallet.DurableFrom u s'.wallet) s := by
  unfold reconcileSymbol reconcileSymbolBody
  rw [wp_tryCatch]
  suffices hbody : wp (reconcileSymbolBody env reading symbol)
      (fun _ s' => Wallet.DurableFrom u s'.wallet) (fun _ s' => Wallet.DurableFrom u s'.wallet) s from
    wp_mono hbody (fun _ _ h => h) (fun _ _ h => h)
  unfold reconcileSymbolBody wp
  rw [bind_of_ok (syncBalance_same hbalance)]
  change wp _ _ _ s
  cases hrows : reading.positions with
  | error e => exact hs
  | ok rows =>
      rw [SymbolReading.correctsQuantity, hrows] at hquantity
      show wp (pure rows >>= _) _ _ s
      rw [wp_bind, wp_pure, wp_bind]
      refine wp_mono (wp_and (syncPositionLeverage_wp env symbol (exchangePosition rows symbol) s)
        (World.wp_of_keeps (syncPositionLeverage_durable env symbol _) hs)) ?_ (fun _ _ h => h.2)
      rintro - s₁ ⟨hsame, hs₁⟩
      have hpos : s₁.wallet.liveOpenPosition symbol = s.wallet.liveOpenPosition symbol := by
        unfold Wallet.liveOpenPosition Wallet.getOpenPosition
        rw [hsame.positions]
      rw [wp_bind]
      refine wp_mono (reconcileSize_keeps (Wallet.DurableFrom u) ?_ hs₁) ?_ (fun _ _ h => h)
      · intro pos hopen halign
        rw [hpos] at hopen
        rw [hsame.live] at halign
        rw [hopen] at hquantity
        exact hquantity (by simpa using halign)
      · intro verdict s₂ hs₂
        refine World.wp_of_keeps ?_ hs₂
        cases verdict with
        | some reason => exact Moves.pure _
        | none =>
            exact (cancelOrphaned_keeps env _ _ _).bind
              (fun _ => recreateStop_durable env symbol _ _)

end Corrections

/-! ## Runs -/

/-- What a bot does with its wallet: a call, or a pass of a reconciler. -/
inductive BotStep where
  | call (c : WalletCall)
  | reconcile (r : Reconciler) (snap : Option AccountSnapshot) (symbol : Option Symbol)
  | reconcileSymbol (reading : SymbolReading) (symbol : Symbol)

variable (env : Env) (rules : ExitRules)

def BotStep.run : BotStep → Live Unit
  | .call c => c.run env rules
  | .reconcile r snap symbol => do
      let _ ← CryptoTrader.reconcile env r snap symbol
      pure ()
  | .reconcileSymbol reading symbol => do
      let _ ← CryptoTrader.reconcileSymbol env reading symbol
      pure ()

/-- The step writes a value of the venue into the wallet. -/
def BotStep.corrects (w : Wallet) : BotStep → Bool
  | .call _ => false
  | .reconcile _ none _ => false
  | .reconcile r (some snap) symbol => r.corrects w snap symbol
  | .reconcileSymbol reading symbol =>
      reading.correctsBalance w || reading.correctsQuantity w symbol

/-- The world after the step. -/
def World.after (s : World) (step : BotStep) : World := final (step.run env rules) s

/-- The step corrects nothing and appends no harmful repeat. -/
def BotStep.Sourced (s : World) (step : BotStep) : Prop :=
  step.corrects s.wallet = false ∧ s.wallet.AppendsHarmlessly (s.after env rules step).wallet

instance (s : World) (step : BotStep) : Decidable (step.Sourced env rules s) := by
  unfold BotStep.Sourced
  infer_instance

theorem World.final_wallet {α : Type} {I : Wallet → Prop} {m : Live α} {s : World}
    (h : wp m (fun _ s' => I s'.wallet) (fun _ s' => I s'.wallet) s) : I (final m s).wallet :=
  (wp_final (P := fun s' : World => I s'.wallet) m).mp h

/-- A step that corrects nothing is made of durable steps. -/
theorem BotStep.after_durable {u : Wallet} {s : World} (hs : Wallet.DurableFrom u s.wallet)
    {step : BotStep} (h : step.corrects s.wallet = false) :
    Wallet.DurableFrom u (s.after env rules step).wallet := by
  cases step with
  | call c =>
      exact World.final_wallet (World.wp_of_keeps (c.run_durable env rules) hs)
  | reconcile r snap symbol =>
      unfold World.after BotStep.run
      rw [final_discard]
      refine World.final_wallet ?_
      cases snap with
      | none => exact hs
      | some snap => exact reconcile_durable env r hs (Bool.eq_false_iff.mp h)
  | reconcileSymbol reading symbol =>
      unfold World.after BotStep.run
      rw [final_discard]
      obtain ⟨hbalance, hquantity⟩ := Bool.or_eq_false_iff.mp h
      exact World.final_wallet (reconcileSymbol_durable env hs (Bool.eq_false_iff.mp hbalance)
        (Bool.eq_false_iff.mp hquantity))

/-- What a run keeps. -/
structure Wallet.SourcedInv (w : Wallet) : Prop extends w.ParityInv where
  applied : 0 < w.runtime.eventsApplied
  aligned : w.Aligned

theorem Wallet.SourcedInv.after {s : World} (h : s.wallet.SourcedInv) {step : BotStep}
    (hstep : step.Sourced env rules s) : (s.after env rules step).wallet.SourcedInv := by
  have hdurable := step.after_durable env rules
    (⟨Wallet.Steps.refl s.wallet, h.applied, h.aligned⟩ : Wallet.DurableFrom s.wallet s.wallet)
    hstep.1
  exact ⟨h.toParityInv.steps hdurable.steps hstep.2, hdurable.started, hdurable.aligned⟩

/-- A fresh wallet, with an engine attached or without. -/
theorem Wallet.SourcedInv.boot (init : WalletInit) {clock : Nat → Nat} (hclock : Monotone clock)
    (redisUp live : Bool) :
    ({ Wallet.boot init clock {} redisUp with liveExecution := live }).SourcedInv := by
  have hstep : Wallet.Steps (Wallet.boot init clock {} redisUp)
      { Wallet.boot init clock {} redisUp with liveExecution := live } :=
    (Wallet.Steps.refl _).volatile ⟨rfl, rfl, Nat.le_refl _, rfl, rfl, rfl, rfl, rfl⟩
  have hparity := Wallet.ParityInv.boot init hclock redisUp
  refine ⟨hparity.steps hstep ?_, ?_, Wallet.Aligned.boot init clock redisUp⟩
  · have hlog : ({ Wallet.boot init clock {} redisUp with liveExecution := live } : Wallet).log =
        (Wallet.boot init clock {} redisUp).log := rfl
    rw [Wallet.AppendsHarmlessly, hlog, List.drop_length]
    trivial
  · show 0 < (Wallet.boot init clock {} redisUp).runtime.eventsApplied
    rw [Wallet.boot_empty]
    exact Wallet.eventsApplied_emit_pos _ _

/-- In every run of calls and reconciliations, as long as no step corrects
anything or appends a harmful repeat, the runtime matches the replay after
each step, and what the wallet shows is in force. -/
theorem reconciled_inForce (init : WalletInit) (clock : Nat → Nat) (hclock : Monotone clock)
    (redisUp live : Bool) (s₀ s : World)
    (hboot : s₀.wallet = { Wallet.boot init clock {} redisUp with liveExecution := live })
    (hrun : Reaches (World.after env rules) (fun s step => step.Sourced env rules s) s₀ s) :
    s.wallet.InParity ∧ s.wallet.InForce := by
  have hstart : s₀.wallet.SourcedInv := by
    rw [hboot]
    exact .boot init hclock redisUp live
  have hinv : s.wallet.SourcedInv := by
    induction hrun with
    | start => exact hstart
    | step _ hok ih => exact ih.after env rules hok
  have hparity := hinv.tracks.inParity hinv.started hinv.harmless
  exact ⟨hparity, hparity.inForce hinv.tracks.toCoherent hinv.aligned⟩

/-! ### A run that corrects nothing and one that does -/

/-- What the venue shows of a long at 100. -/
def demoReading (qty : Decimal) : SymbolReading :=
  { balance := none
    positions := .ok [(demoSymbol, ⟨.long, qty, 100, none⟩)]
    orders := [⟨"s1", "STOP_MARKET", true⟩] }

/-- Both reconcilers agree with the wallet on its position of ten units. -/
def demoAgreed : List BotStep :=
  [ .call (.adoptVenuePosition demoAdoption),
    .reconcileSymbol (demoReading 10) demoSymbol,
    .reconcile { adoptVenue := true }
      (some ⟨Dict.empty.set demoSymbol ⟨.long, 10, 100, none⟩, []⟩) none ]

theorem demoAgreed_inForce :
    (demoAgreed.foldl (World.after demoEnv {}) demoWorld).wallet.InParity ∧
      (demoAgreed.foldl (World.after demoEnv {}) demoWorld).wallet.InForce :=
  reconciled_inForce demoEnv {} demoInit id monotone_id false true demoWorld _ rfl
    (Reaches.foldl _ .start ⟨by decide +kernel, by decide +kernel, by decide +kernel, trivial⟩)

theorem demoWorld_balance_lost :
    ¬ (final (syncBalance (some 900)) demoWorld).wallet.InForce :=
  syncBalance_lost ⟨by decide +kernel, by decide +kernel⟩ ⟨rfl, by decide +kernel⟩

/-- The venue holds eight of the ten units: the wallet takes the eight over, the
replay still has ten. -/
theorem not_reconciled_inForce_aligned :
    ¬ ∀ (env : Env) (rules : ExitRules) (init : WalletInit) (clock : Nat → Nat), StrictMono clock →
        ∀ (redisUp live : Bool) (s₀ : World) (steps : List BotStep),
          s₀.wallet = { Wallet.boot init clock {} redisUp with liveExecution := live } →
          let s := steps.foldl (World.after env rules) s₀
          s.wallet.InParity ∧ s.wallet.InForce := by
  intro h
  have hrun := h demoEnv {} demoInit id strictMono_id false true demoWorld
    [.call (.adoptVenuePosition demoAdoption), .reconcileSymbol (demoReading 8) demoSymbol] rfl
  have hparity := hrun.1
  revert hparity
  decide +kernel

end CryptoTrader
