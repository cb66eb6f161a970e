import CryptoTrader.Reconcile.Books
import CryptoTrader.Reconcile.SymbolReconciler
import CryptoTrader.Reconcile.Worker

/-!
# Which position mismatches are reported

The three reconcilers compare the quantities of two books, each with a
tolerance of its own, and never their sides.
-/

namespace CryptoTrader

open CryptoTrader.Lib

/-! ## The reconciler -/

section Reconciler

variable (env : Env) (r : Reconciler)

/-- The wallet's side of the comparison. -/
def Wallet.liveBook (w : Wallet) (symbol : Option Symbol) : Book Symbol := fun sym =>
  ((w.scopedPositions symbol).get? sym).map (fun p => ⟨p.side, p.quantity⟩)

/-- The venue's side of the comparison. -/
def AccountSnapshot.book (snap : AccountSnapshot) (symbol : Option Symbol) : Book Symbol := fun sym =>
  ((snap.scoped symbol).get? sym).map (fun p => ⟨p.side, p.quantity⟩)

/-- The comparison that `Reconciler` makes. -/
def Reconciler.comparison : RelativeComparison := ⟨r.qtyTolerance, false⟩

/-- No position mismatch is reported exactly when the books agree. -/
def Reconciler.Discerning (snap : AccountSnapshot) (symbol : Option Symbol) (s : World) : Prop :=
  ∃ mismatches s', findPositionMismatches env r snap symbol s = .ok mismatches s' ∧
    (mismatches = [] ↔
      ∀ sym, Agree r.comparison.Within (s.wallet.liveBook symbol sym) (snap.book symbol sym))

variable {internal : Dict Symbol InternalHolding} {venue : Dict Symbol VenueHolding}

theorem findGhostPositions_eq_nil_iff : findGhostPositions internal venue = [] ↔
    ∀ sym ipos, internal.get? sym = some ipos → venue.get? sym ≠ none := by
  unfold findGhostPositions
  rw [List.filterMap_eq_nil_iff]
  constructor
  · intro h sym ipos hget hnone
    have hentry := h (sym, ipos) ((internal.mem_entries_iff).mpr hget)
    simp [hnone] at hentry
  · rintro h ⟨sym, ipos⟩ hmem
    obtain ⟨row, hrow⟩ := Option.ne_none_iff_exists'.mp (h sym ipos (internal.get?_of_mem hmem))
    simp [hrow]

theorem quantityDrift_wp (sym : Symbol) (ipos : InternalHolding) (s : World) :
    wp (quantityDrift r venue sym ipos)
      (fun found _ => found = none ↔
        ∀ row, venue.get? sym = some row → ¬ r.drifts ipos.quantity row.quantity)
      (fun _ _ => False) s := by
  unfold quantityDrift
  cases hvenue : venue.get? sym with
  | none => simp
  | some row =>
      dsimp only
      by_cases hdrifts : r.drifts ipos.quantity row.quantity
      · rw [if_pos hdrifts, wp_bind, wp_get, wp_ite]
        refine ⟨fun _ => ?_, fun _ => ?_⟩
        · rw [wp_bind]
          show _ ↔ _
          simp [hdrifts]
        · rw [wp_pure]
          simp [hdrifts]
      · rw [if_neg hdrifts, wp_pure]
        simp [hdrifts]

theorem missingPosition_wp (sym : Symbol) (row : VenueHolding) (s : World) :
    wp (missingPosition env r internal sym row)
      (fun found _ => found = none ↔ (internal.get? sym).isSome ∨ row.quantity ≤ 0)
      (fun _ _ => False) s := by
  unfold missingPosition
  dsimp only
  by_cases hknown : (internal.get? sym).isSome ∨ row.quantity ≤ 0
  · rw [if_pos hknown, wp_pure]
    simp [hknown]
  · rw [if_neg hknown]
    by_cases hadopt : r.adoptVenue
    · rw [if_pos hadopt, wp_bind]
      have hnever : wp (adopt env sym row) (fun _ _ => True) (fun _ _ => False) s := by
        unfold adopt
        rw [wp_tryCatch]
        refine wp_mono (wp_run _ s) (fun _ _ _ => trivial) (fun _ _ _ => ?_)
        rw [wp_pure]
        trivial
      refine wp_mono hnever (fun adopted s₁ _ => ?_) (fun _ _ h => h)
      rw [wp_pure]
      simp [hknown]
    · rw [if_neg hadopt, wp_pure]
      simp [hknown]

/-- A pass that finds nothing found nothing anywhere. -/
theorem collect_wp {α : Type} {find : α → Live (Option Mismatch)} {P : α → Prop}
    (h : ∀ a s, wp (find a) (fun found _ => found = none ↔ P a) (fun _ _ => False) s)
    (l : List α) (s : World) :
    wp (collect find l) (fun found _ => found = [] ↔ ∀ a ∈ l, P a) (fun _ _ => False) s := by
  induction l generalizing s with
  | nil =>
      unfold collect
      simp
  | cons a rest ih =>
      unfold collect
      rw [wp_bind]
      refine wp_mono (h a s) ?_ (fun _ _ h => h)
      intro found s₁ hfound
      rw [wp_bind]
      refine wp_mono (ih s₁) ?_ (fun _ _ h => h)
      intro others s₂ hothers
      rw [wp_pure, List.append_eq_nil_iff, Option.toList_eq_nil_iff, hfound, hothers,
        List.forall_mem_cons]

theorem Reconciler.drifts_iff (p q : Holding) :
    r.drifts p.quantity q.quantity ↔ r.comparison.Reports (some p) (some q) := by
  show _ ↔ 0 < p.quantity ∧ r.qtyTolerance < |p.quantity - q.quantity| / p.quantity
  simp [Reconciler.drifts]

/-- The comparison of two books finds what is reported of some symbol. -/
theorem comparePositions_wp (s : World) :
    wp (comparePositions env r internal venue)
      (fun found _ => found = [] ↔ ∀ sym, ¬ r.comparison.Reports
        ((internal.get? sym).map (fun p => ⟨p.side, p.quantity⟩))
        ((venue.get? sym).map (fun p => ⟨p.side, p.quantity⟩)))
      (fun _ _ => False) s := by
  unfold comparePositions findQuantityDrifts findMissingPositions
  rw [wp_bind]
  refine wp_mono (collect_wp (fun entry s => quantityDrift_wp r entry.1 entry.2 s)
    internal.entries s) ?_ (fun _ _ h => h)
  intro drifts s₁ hdrifts
  rw [wp_bind]
  refine wp_mono (collect_wp (fun entry s => missingPosition_wp env r entry.1 entry.2 s)
    venue.entries s₁) ?_ (fun _ _ h => h)
  intro missing s₂ hmissing
  rw [wp_pure, List.append_eq_nil_iff, List.append_eq_nil_iff, findGhostPositions_eq_nil_iff,
    hdrifts, hmissing]
  constructor
  · rintro ⟨⟨hghost, hdrift⟩, hmiss⟩ sym hreports
    cases hi : internal.get? sym with
    | none =>
        cases hv : venue.get? sym with
        | none =>
            rw [hi, hv] at hreports
            exact hreports
        | some row =>
            rw [hi, hv] at hreports
            rcases hmiss (sym, row) (venue.mem_entries_iff.mpr hv) with hknown | hflat
            · simp [hi] at hknown
            · rcases hreports with hcounts | hpos
              · exact absurd hcounts Bool.false_ne_true
              · exact absurd hpos (not_lt.mpr hflat)
    | some ipos =>
        obtain ⟨row, hv⟩ := Option.ne_none_iff_exists'.mp (hghost sym ipos hi)
        rw [hi, hv] at hreports
        refine hdrift (sym, ipos) (internal.mem_entries_iff.mpr hi) row hv ?_
        exact (r.drifts_iff ⟨ipos.side, ipos.quantity⟩ ⟨row.side, row.quantity⟩).mpr hreports
  · intro h
    refine ⟨⟨?_, ?_⟩, ?_⟩
    · intro sym ipos hi hv
      have hsym := h sym
      rw [hi, hv] at hsym
      exact hsym trivial
    · rintro ⟨sym, ipos⟩ hmem row hv hdrifts
      have hsym := h sym
      rw [internal.get?_of_mem hmem, hv] at hsym
      exact hsym ((r.drifts_iff ⟨ipos.side, ipos.quantity⟩ ⟨row.side, row.quantity⟩).mp hdrifts)
    · rintro ⟨sym, row⟩ hmem
      have hsym := h sym
      rw [venue.get?_of_mem hmem] at hsym
      cases hi : internal.get? sym with
      | some ipos => exact Or.inl rfl
      | none =>
          rw [hi] at hsym
          refine Or.inr (not_lt.mp (fun hpos => hsym (Or.inr hpos)))

/-- What is compared does not change. -/
structure World.SamePositions (s s' : World) : Prop where
  positions : s'.wallet.positions = s.wallet.positions
  live : s'.wallet.liveExecution = s.wallet.liveExecution

instance : Std.Refl World.SamePositions where
  refl _ := ⟨rfl, rfl⟩

instance : IsTrans World World.SamePositions where
  trans _ _ _ h h' := ⟨h'.positions.trans h.positions, h'.live.trans h.live⟩

theorem World.SamePositions.scopedPositions {s s' : World} (h : s.SamePositions s')
    (symbol : Option Symbol) :
    s'.wallet.scopedPositions symbol = s.wallet.scopedPositions symbol := by
  unfold Wallet.scopedPositions Wallet.internalPositions
  rw [h.positions]

/-- Taking over a leverage. -/
theorem takeLeverage_wp (symbol : Symbol) (leverage : Leverage) (s : World) :
    wp (modify (fun s =>
        { s with
          wallet := s.wallet.syncedLeverage symbol leverage
          engineLeverage := leverage }) : Live Unit)
      (fun _ => s.SamePositions) (fun _ _ => False) s := ⟨rfl, rfl⟩

theorem syncLeverageFromVenue_wp (symbol : Symbol) (s : World) :
    wp (syncLeverageFromVenue env symbol) (fun _ => s.SamePositions) (fun _ _ => False) s := by
  unfold syncLeverageFromVenue
  rw [wp_bind, wp_get, wp_ite]
  refine ⟨fun _ => ?_, fun _ => refl_of World.SamePositions s⟩
  rw [wp_bind]
  refine wp_mono (fetchSymbolLeverage_wp env symbol s) ?_ (fun _ _ h => h)
  rintro found s₁ ⟨ext, rfl, -⟩
  have hsame : s.SamePositions (s.extend ext) := ⟨rfl, rfl⟩
  cases found with
  | none => exact hsame
  | some leverage =>
      dsimp only
      exact wp_mono (takeLeverage_wp symbol leverage (s.extend ext))
        (fun _ _ hnext => trans_of World.SamePositions hsame hnext) (fun _ _ h => h)

theorem syncLeverage_wp (snap : AccountSnapshot) (symbol : Option Symbol) (s : World) :
    wp (syncLeverage env snap symbol) (fun _ => s.SamePositions) (fun _ _ => False) s := by
  unfold syncLeverage
  rw [wp_bind, wp_get, wp_ite]
  refine ⟨fun _ => ?_, fun _ => refl_of World.SamePositions s⟩
  cases symbol with
  | some symbol =>
      dsimp only
      unfold syncSymbolLeverage
      cases snap.positions.get? symbol with
      | none => exact syncLeverageFromVenue_wp env symbol s
      | some row =>
          dsimp only
          cases row.leverage with
          | none => exact refl_of World.SamePositions s
          | some leverage => exact takeLeverage_wp symbol leverage s
  | none =>
      have hfold {f : Wallet → Symbol × VenueHolding → Wallet}
          (hf : ∀ w entry, (f w entry).positions = w.positions ∧
            (f w entry).liveExecution = w.liveExecution)
          (entries : List (Symbol × VenueHolding)) (w : Wallet) :
          (entries.foldl f w).positions = w.positions ∧
            (entries.foldl f w).liveExecution = w.liveExecution := by
        induction entries generalizing w with
        | nil => exact ⟨rfl, rfl⟩
        | cons entry rest ih =>
            rw [List.foldl_cons]
            exact ⟨(ih _).1.trans (hf w entry).1, (ih _).2.trans (hf w entry).2⟩
      dsimp only
      rw [wp_bind]
      show wp (syncLeverageFromVenue env s.wallet.cfg.symbol) _ _ _
      refine wp_mono (syncLeverageFromVenue_wp env _ _) ?_ (fun _ _ h => h)
      intro _ s' hsame
      refine ⟨hsame.positions.trans (hfold ?_ snap.positions.entries s.wallet).1,
        hsame.live.trans (hfold ?_ snap.positions.entries s.wallet).2⟩
      all_goals
        intro w entry
        cases entry.2.leverage with
        | none => exact ⟨rfl, rfl⟩
        | some leverage => exact ⟨rfl, rfl⟩

/-- `Reconciler` is right about two books exactly when it sees a difference of
quantities, or what it overlooks and what it reports without need are both
none, or both some. -/
theorem Reconciler.discerning_iff (snap : AccountSnapshot) (symbol : Option Symbol) (s : World) :
    r.Discerning env snap symbol s ↔
      (∃ sym, r.comparison.Seen (s.wallet.liveBook symbol sym) (snap.book symbol sym)) ∨
        ((∃ sym, r.comparison.Overlooked (s.wallet.liveBook symbol sym) (snap.book symbol sym)) ↔
          ∃ sym, r.comparison.Overreported (s.wallet.liveBook symbol sym)
            (snap.book symbol sym)) := by
  have hcompare : wp (findPositionMismatches env r snap symbol)
      (fun found _ => found = [] ↔ ∀ sym, ¬ r.comparison.Reports (s.wallet.liveBook symbol sym)
        (snap.book symbol sym)) (fun _ _ => False) s := by
    unfold findPositionMismatches
    rw [wp_bind]
    refine wp_mono (syncLeverage_wp env snap symbol s) ?_ (fun _ _ h => h)
    intro _ s₁ hsame
    rw [wp_bind, wp_get]
    rw [hsame.scopedPositions symbol]
    exact comparePositions_wp env r s₁
  unfold Reconciler.Discerning
  rw [← (r.comparison.classified (s.wallet.liveBook symbol) (snap.book symbol)).discerns_iff]
  refine exists_ok_iff (wp_mono hcompare ?_ (fun _ _ h => h))
  intro found _ hfound
  rw [hfound]
  exact Iff.rfl

/-! ### The mismatches of a whole comparison -/

/-- What is found in a collection is what is found of its items. -/
theorem collect_all {α : Type} {find : α → Live (Option Mismatch)} {P : Mismatch → Prop}
    (h : ∀ a s, wp (find a) (fun found _ => ∀ m ∈ found, P m) (fun _ _ => True) s)
    (l : List α) (s : World) :
    wp (collect find l) (fun found _ => ∀ m ∈ found, P m) (fun _ _ => True) s := by
  induction l generalizing s with
  | nil =>
      unfold collect
      simp
  | cons a rest ih =>
      unfold collect
      rw [wp_bind]
      refine wp_mono (h a s) ?_ (fun _ _ h => h)
      intro found s₁ hfound
      rw [wp_bind]
      refine wp_mono (ih s₁) ?_ (fun _ _ h => h)
      intro others s₂ hothers
      rw [wp_pure]
      intro m hm
      rcases List.mem_append.mp hm with hm | hm
      · exact hfound m (Option.mem_toList.mp hm)
      · exact hothers m hm

/-- Whatever a computation does, what follows has the property. -/
theorem wp_after {α β : Type} {m : Live α} {f : α → Live β} {Q : β → World → Prop} {s : World}
    (h : ∀ a s₁, wp (f a) Q (fun _ _ => True) s₁) : wp (m >>= f) Q (fun _ _ => True) s := by
  rw [wp_bind]
  exact wp_mono (wp_run m s) (fun a s₁ _ => h a s₁) (fun _ _ _ => trivial)

/-- A property of the one mismatch there may be. -/
theorem forall_mem_some {P : Mismatch → Prop} {found : Mismatch} (h : P found) :
    ∀ m ∈ some found, P m := fun _ hm => Option.some.inj hm ▸ h

theorem quantityDrift_kind (sym : Symbol) (ipos : InternalHolding) (s : World) :
    wp (quantityDrift r venue sym ipos) (fun found _ => ∀ m ∈ found, m.kind.isPosition)
      (fun _ _ => True) s := by
  unfold quantityDrift
  cases venue.get? sym with
  | none => simp
  | some row =>
      dsimp only
      rw [wp_ite]
      refine ⟨fun _ => wp_after (fun _ _ => ?_), fun _ => by simp⟩
      rw [wp_ite]
      refine ⟨fun _ => wp_after (fun _ _ => ?_), fun _ => ?_⟩
      · exact forall_mem_some rfl
      · exact forall_mem_some rfl

theorem missingPosition_kind (sym : Symbol) (row : VenueHolding) (s : World) :
    wp (missingPosition env r internal sym row) (fun found _ => ∀ m ∈ found, m.kind.isPosition)
      (fun _ _ => True) s := by
  unfold missingPosition
  rw [wp_ite]
  refine ⟨fun _ => by simp, fun _ => ?_⟩
  rw [wp_ite]
  refine ⟨fun _ => wp_after (fun _ _ => ?_), fun _ => ?_⟩
  · exact forall_mem_some rfl
  · exact forall_mem_some rfl

theorem comparePositions_kind (s : World) :
    wp (comparePositions env r internal venue)
      (fun found _ => ∀ m ∈ found, m.kind.isPosition) (fun _ _ => True) s := by
  have hdrift (entry : Symbol × InternalHolding) (s : World) :
      wp (quantityDrift r venue entry.1 entry.2) (fun found _ => ∀ m ∈ found, m.kind.isPosition)
        (fun _ _ => True) s := quantityDrift_kind r entry.1 entry.2 s
  have hmissing (entry : Symbol × VenueHolding) (s : World) :
      wp (missingPosition env r internal entry.1 entry.2)
        (fun found _ => ∀ m ∈ found, m.kind.isPosition) (fun _ _ => True) s :=
    missingPosition_kind env r entry.1 entry.2 s
  unfold comparePositions findQuantityDrifts findMissingPositions
  rw [wp_bind]
  refine wp_mono (collect_all hdrift internal.entries s) ?_ (fun _ _ h => h)
  intro drifts s₁ hdrifts
  rw [wp_bind]
  refine wp_mono (collect_all hmissing venue.entries s₁) ?_ (fun _ _ h => h)
  intro missing s₂ hmissing
  rw [wp_pure]
  intro m hm
  rw [List.mem_append, List.mem_append] at hm
  rcases hm with (hghost | hdrift) | hmiss
  · obtain ⟨entry, -, hentry⟩ := List.mem_filterMap.mp hghost
    cases hvenue : venue.get? entry.1 with
    | some row => simp [hvenue] at hentry
    | none =>
        simp only [hvenue, Option.some.injEq] at hentry
        rw [← hentry]
        rfl
  · exact hdrifts m hdrift
  · exact hmissing m hmiss

theorem cancelOrphan_kind (internalSyms : List Symbol) (trackedIds : List String)
    (order : OpenOrder) (s : World) :
    wp (cancelOrphan env internalSyms trackedIds order)
      (fun found _ => ∀ m ∈ found, ¬ m.kind.isPosition) (fun _ _ => True) s := by
  unfold cancelOrphan
  cases order.symbol with
  | none => simp
  | some sym =>
      dsimp only
      rw [wp_ite]
      refine ⟨fun _ => by simp, fun _ => wp_after (fun _ _ => ?_)⟩
      exact forall_mem_some Bool.false_ne_true

theorem syncStop_kind (openIds : List String) (sym : Symbol) (s : World) :
    wp (syncStop env venue openIds sym)
      (fun found _ => ∀ m ∈ found.2, ¬ m.kind.isPosition) (fun _ _ => True) s := by
  unfold syncStop
  refine wp_after (fun s' s₁ => ?_)
  cases s'.wallet.positions.get? sym with
  | none => simp
  | some pos =>
      dsimp only
      rw [wp_ite]
      refine ⟨fun _ => ?_, fun _ => by simp⟩
      rw [wp_ite]
      refine ⟨fun _ => wp_after (fun _ _ => ?_), fun _ => by simp⟩
      exact forall_mem_some Bool.false_ne_true

theorem syncProtectiveStops_kind (openIds : List String) (s : World) :
    wp (syncProtectiveStops env venue openIds)
      (fun found _ => ∀ m ∈ found.2, ¬ m.kind.isPosition) (fun _ _ => True) s := by
  have hloop (syms : List Symbol) (s : World) : wp (syncStops env venue openIds syms)
      (fun found _ => ∀ m ∈ found.2, ¬ m.kind.isPosition) (fun _ _ => True) s := by
    induction syms generalizing s with
    | nil =>
        unfold syncStops
        simp
    | cons sym rest ih =>
        unfold syncStops
        rw [wp_bind]
        refine wp_mono (syncStop_kind env openIds sym s) ?_ (fun _ _ h => h)
        intro found s₁ hfound
        rw [wp_bind]
        refine wp_mono (ih s₁) ?_ (fun _ _ h => h)
        intro others s₂ hothers
        rw [wp_pure]
        intro m hm
        rcases List.mem_append.mp hm with hm | hm
        · exact hfound m (Option.mem_toList.mp hm)
        · exact hothers m hm
  unfold syncProtectiveStops
  rw [wp_bind, wp_get, wp_ite]
  exact ⟨fun _ => hloop _ s, fun _ => by simp⟩

theorem reconcileProtectiveOrders_kind (snap : AccountSnapshot) (s : World) :
    wp (reconcileProtectiveOrders env snap venue)
      (fun found _ => ∀ m ∈ found, ¬ m.kind.isPosition) (fun _ _ => True) s := by
  unfold reconcileProtectiveOrders
  rw [wp_bind]
  refine wp_mono (syncProtectiveStops_kind env snap.openIds s) ?_ (fun _ _ h => h)
  intro stops s₁ hfound
  refine wp_after (fun s' s₂ => ?_)
  rw [wp_bind]
  refine wp_mono (collect_all (cancelOrphan_kind env _ _) _ s₂) ?_ (fun _ _ h => h)
  intro orphans s₃ horphans
  rw [wp_pure]
  intro m hm
  rcases List.mem_append.mp hm with hm | hm
  · exact hfound m hm
  · exact horphans m hm

end Reconciler

/-! ## The per-symbol reconciler -/

section SymbolReconciler

variable (env : Env)

/-- The wallet's side of the comparison. -/
def Wallet.liveHolding (w : Wallet) (symbol : Symbol) : Option Holding :=
  (w.liveOpenPosition symbol).map (fun pos => ⟨pos.side, pos.remainingQuantity⟩)

/-- The venue's side of the comparison. -/
def exchangeHolding (rows : List (Symbol × VenueHolding)) (symbol : Symbol) : Option Holding :=
  (exchangePosition rows symbol).map (fun row => ⟨row.side, row.quantity⟩)

/-- The comparison that `reconcile_symbol` makes. -/
def sizeComparison (live : Bool) : AbsoluteComparison := ⟨1 / 10000, !live⟩

/-- No position mismatch is reported exactly when the positions agree. -/
def SymbolDiscerning (balance : Option Decimal) (rows : List (Symbol × VenueHolding))
    (orders : List VenueOrder) (symbol : Symbol) (s : World) : Prop :=
  ∃ verdict s', reconcileSymbol env ⟨balance, .ok rows, orders⟩ symbol s = .ok verdict s' ∧
    ((∀ reason ∈ verdict, ¬ reason.isPosition) ↔
      Agree (sizeComparison s.wallet.liveExecution).Within (exchangeHolding rows symbol)
        (s.wallet.liveHolding symbol))

/-- The kill switch is tripped for what the comparison reports. -/
theorem sizeCheck_cases (live : Bool) (symbol : Symbol) (base other : Option Holding) :
    (∃ reason, sizeCheck live symbol (quantityOf base) (quantityOf other) = .halt reason ∧
        reason.isPosition ∧ (sizeComparison live).Reports base other) ∨
      ((∀ reason, sizeCheck live symbol (quantityOf base) (quantityOf other) ≠ .halt reason) ∧
        ¬ (sizeComparison live).Reports base other) := by
  have hwithin : (sizeComparison live).Within (quantityOf base) (quantityOf other) ↔
      ¬ 1 / 10000 < |quantityOf base - quantityOf other| := not_lt.symm
  unfold AbsoluteComparison.Reports AbsoluteComparison.Alone sizeCheck
  rw [hwithin, not_not]
  by_cases hdiffer : 1 / 10000 < |quantityOf base - quantityOf other|
  · rw [if_pos hdiffer]
    by_cases hphantom : 0 < quantityOf base ∧ quantityOf other = 0
    · rw [if_pos hphantom]
      exact Or.inl ⟨_, rfl, rfl, hdiffer, Or.inl (Or.inl hphantom)⟩
    · rw [if_neg hphantom]
      by_cases hmissing : 0 < quantityOf other ∧ quantityOf base = 0
      · rw [if_pos hmissing]
        exact Or.inl ⟨_, rfl, rfl, hdiffer, Or.inl (Or.inr hmissing.symm)⟩
      · rw [if_neg hmissing]
        cases live with
        | false => exact Or.inl ⟨_, rfl, rfl, hdiffer, Or.inr rfl⟩
        | true =>
            refine Or.inr ⟨fun _ => SizeCheck.noConfusion, ?_⟩
            rintro ⟨-, (hleft | hright) | hhalts⟩
            · exact hphantom hleft
            · exact hmissing hright.symm
            · exact Bool.false_ne_true hhalts
  · rw [if_neg hdiffer]
    exact Or.inr ⟨fun _ => SizeCheck.noConfusion, fun h => hdiffer h.1⟩

theorem reconcileSize_wp (symbol : Symbol) (exPos : Option VenueHolding) (s : World) :
    let reports := (sizeComparison s.wallet.liveExecution).Reports
      (exPos.map (fun row => ⟨row.side, row.quantity⟩)) (s.wallet.liveHolding symbol)
    wp (reconcileSize symbol ((exPos.map VenueHolding.quantity).getD 0))
      (fun verdict _ => (∀ reason ∈ verdict, reason.isPosition ∧ reports) ∧ (verdict = none → ¬ reports))
      (fun _ _ => ¬ reports) s := by
  intro reports
  have hbase : quantityOf (exPos.map (fun row => ⟨row.side, row.quantity⟩)) =
      (exPos.map VenueHolding.quantity).getD 0 := by
    cases exPos with
    | none => rfl
    | some row => rfl
  have hother : quantityOf (s.wallet.liveHolding symbol) =
      ((s.wallet.liveOpenPosition symbol).map EnhancedPosition.remainingQuantity).getD 0 := by
    unfold Wallet.liveHolding
    cases s.wallet.liveOpenPosition symbol with
    | none => rfl
    | some pos => rfl
  have hcases := sizeCheck_cases s.wallet.liveExecution symbol
    (exPos.map (fun row => ⟨row.side, row.quantity⟩)) (s.wallet.liveHolding symbol)
  rw [hbase, hother] at hcases
  unfold reconcileSize
  rw [wp_bind, wp_get]
  dsimp only
  rcases hcases with ⟨reason, hcheck, hposition, hreports⟩ | ⟨hsilent, hreports⟩
  · rw [hcheck]
    dsimp only
    rw [wp_pure]
    exact ⟨fun _ hmem => Option.some.inj hmem ▸ ⟨hposition, hreports⟩,
      fun hnone => absurd hnone (Option.some_ne_none _)⟩
  · have hquiet : (∀ reason ∈ (none : Option HaltReason), reason.isPosition ∧ reports) ∧
        ((none : Option HaltReason) = none → ¬ reports) :=
      ⟨fun _ hmem => absurd hmem (Option.not_mem_none _), fun _ => hreports⟩
    cases hcheck : sizeCheck s.wallet.liveExecution symbol
        ((exPos.map VenueHolding.quantity).getD 0)
        (((s.wallet.liveOpenPosition symbol).map EnhancedPosition.remainingQuantity).getD 0) with
    | agreed => exact hquiet
    | halt reason => exact absurd hcheck (hsilent reason)
    | align =>
        dsimp only
        cases s.wallet.liveOpenPosition symbol with
        | none => exact hreports
        | some pos => exact hquiet

theorem syncBalance_wp (balance : Option Decimal) (s : World) :
    wp (syncBalance balance) (fun _ => s.SamePositions) (fun _ _ => False) s := by
  unfold syncBalance modifyWallet
  rw [wp_modify]
  cases balance with
  | none => exact refl_of World.SamePositions s
  | some balance =>
      by_cases hfar : s.wallet.liveExecution ∧ 1 / 100 < |s.wallet.walletBalance - balance|
      · simp only [if_pos hfar]
        exact ⟨rfl, rfl⟩
      · simp only [if_neg hfar]
        exact refl_of World.SamePositions s

theorem syncPositionLeverage_wp (symbol : Symbol) (exPos : Option VenueHolding) (s : World) :
    wp (syncPositionLeverage env symbol exPos) (fun _ => s.SamePositions) (fun _ _ => False) s := by
  unfold syncPositionLeverage
  rw [wp_bind, wp_get, wp_ite]
  refine ⟨fun _ => ?_, fun _ => refl_of World.SamePositions s⟩
  cases exPos.bind VenueHolding.leverage with
  | none => exact syncLeverageFromVenue_wp env symbol s
  | some leverage => exact takeLeverage_wp symbol leverage s

/-- Putting a stop back reports no position. -/
theorem recreateStop_wp (symbol : Symbol) (exQty : Decimal) (orders : List VenueOrder) (s : World) :
    wp (recreateStop env symbol exQty orders)
      (fun verdict _ => ∀ reason ∈ verdict, ¬ reason.isPosition) (fun _ _ => True) s := by
  unfold recreateStop
  refine wp_after (fun s' s₁ => ?_)
  cases s'.wallet.liveOpenPosition symbol with
  | none => simp
  | some pos =>
      dsimp only
      rw [wp_ite]
      refine ⟨fun _ => wp_after (fun placed s₂ => ?_), fun _ => by simp⟩
      rw [wp_ite]
      refine ⟨fun _ => by simp, fun _ => ?_⟩
      rw [wp_pure]
      intro reason hreason
      rw [← Option.some.inj hreason]
      exact Bool.false_ne_true

/-- The positions of `reconcile_symbol` are compared as a comparison with an
absolute tolerance does. -/
theorem reconcileSymbol_wp (balance : Option Decimal) (rows : List (Symbol × VenueHolding))
    (orders : List VenueOrder) (symbol : Symbol) (s : World) :
    wp (reconcileSymbol env ⟨balance, .ok rows, orders⟩ symbol)
      (fun verdict _ => (∀ reason ∈ verdict, ¬ reason.isPosition) ↔
        ¬ (sizeComparison s.wallet.liveExecution).Reports (exchangeHolding rows symbol)
          (s.wallet.liveHolding symbol))
      (fun _ _ => False) s := by
  have hraised (h : ¬ (sizeComparison s.wallet.liveExecution).Reports (exchangeHolding rows symbol)
      (s.wallet.liveHolding symbol)) (verdict : Option HaltReason)
      (hverdict : ∀ reason ∈ verdict, ¬ reason.isPosition) :
      (∀ reason ∈ verdict, ¬ reason.isPosition) ↔
        ¬ (sizeComparison s.wallet.liveExecution).Reports (exchangeHolding rows symbol)
          (s.wallet.liveHolding symbol) := iff_of_true hverdict h
  unfold reconcileSymbol reconcileSymbolBody
  rw [wp_tryCatch, wp_bind]
  refine wp_mono (syncBalance_wp balance s) ?_ (fun _ _ h => h.elim)
  intro _ s₁ hsame₁
  rw [wp_bind]
  show wp (pure rows) _ _ s₁
  rw [wp_pure, wp_bind]
  refine wp_mono (syncPositionLeverage_wp env symbol (exchangePosition rows symbol) s₁) ?_
    (fun _ _ h => h.elim)
  intro _ s₂ hsame₂
  have hsame := trans_of World.SamePositions hsame₁ hsame₂
  have hholding : s₂.wallet.liveHolding symbol = s.wallet.liveHolding symbol := by
    unfold Wallet.liveHolding Wallet.liveOpenPosition Wallet.getOpenPosition
    rw [hsame.positions]
  have hsize := reconcileSize_wp symbol (exchangePosition rows symbol) s₂
  rw [hholding, hsame.live] at hsize
  rw [wp_bind]
  refine wp_mono hsize ?_ (fun _ s₃ hsilent => ?_)
  · rintro verdict s₃ ⟨hhalts, hnone⟩
    cases verdict with
    | some reason =>
        obtain ⟨hposition, hreports⟩ := hhalts reason rfl
        exact iff_of_false (fun h => h reason rfl hposition) (not_not.mpr hreports)
    | none =>
        have hsilent := hnone rfl
        have hrest : wp (do
            cancelOrphaned env (((exchangePosition rows symbol).map VenueHolding.quantity).getD 0)
              orders
            recreateStop env symbol
              (((exchangePosition rows symbol).map VenueHolding.quantity).getD 0) orders)
            (fun verdict _ => ∀ reason ∈ verdict, ¬ reason.isPosition) (fun _ _ => True) s₃ :=
          wp_after (fun _ _ => recreateStop_wp env symbol _ orders _)
        refine wp_mono hrest (fun verdict _ hverdict => hraised hsilent verdict hverdict) ?_
        intro _ _ _
        rw [wp_pure]
        exact hraised hsilent none (fun _ h => absurd h (Option.not_mem_none _))
  · rw [wp_pure]
    exact hraised hsilent none (fun _ h => absurd h (Option.not_mem_none _))

/-- The per-symbol reconciler is right about a position exactly when it neither
overlooks a difference nor reports one without need. -/
theorem symbolDiscerning_iff (balance : Option Decimal) (rows : List (Symbol × VenueHolding))
    (orders : List VenueOrder) (symbol : Symbol) (s : World) :
    SymbolDiscerning env balance rows orders symbol s ↔
      ¬ (sizeComparison s.wallet.liveExecution).Overlooked (exchangeHolding rows symbol)
          (s.wallet.liveHolding symbol) ∧
        ¬ (sizeComparison s.wallet.liveExecution).Overreported (exchangeHolding rows symbol)
          (s.wallet.liveHolding symbol) := by
  rw [← (AbsoluteComparison.classified (sizeComparison s.wallet.liveExecution)
    (fun _ : Unit => exchangeHolding rows symbol)
    (fun _ => s.wallet.liveHolding symbol)).right_iff ()]
  refine exists_ok_iff (wp_mono (reconcileSymbol_wp env balance rows orders symbol s) ?_
    (fun _ _ h => h))
  intro verdict _ hverdict
  rw [hverdict]

end SymbolReconciler

/-! ## The worker -/

section Worker

variable (worker : ReconciliationWorker)

/-- The exchange's side of the comparison. -/
def exchangeBook (rows : List ExchangeRow) : Book String := fun sym =>
  ((exchangePositions rows).get? sym).map (fun p => ⟨p.side, |p.qty|⟩)

/-- The ledger's side of the comparison. -/
def localBook (opened : List LedgerPosition) : Book String := fun sym =>
  ((localPositions opened).get? sym).map (fun p => ⟨p.side, p.qty⟩)

/-- The comparison that the worker makes. -/
def ReconciliationWorker.comparison : RelativeComparison := ⟨worker.positionQtyTolerance, true⟩

/-- No position mismatch is reported exactly when the books agree. -/
def ReconciliationWorker.Discerning (opened : List LedgerPosition) (rows : List ExchangeRow) :
    Prop :=
  (∀ result ∈ worker.checkPositions opened rows, result.status = .ok) ↔
    ∀ sym, Agree worker.comparison.Within (exchangeBook rows sym) (localBook opened sym)

/-- Only rows with a quantity are kept. -/
theorem qty_ne_zero_of_exchangePositions {rows : List ExchangeRow} {sym : String}
    {p : ExchangePosition} (h : (exchangePositions rows).get? sym = some p) : p.qty ≠ 0 := by
  have hfold (rows : List ExchangeRow) (positions : Dict String ExchangePosition)
      (hpositions : ∀ sym p, positions.get? sym = some p → p.qty ≠ 0) :
      ∀ sym p, (rows.foldl (fun positions p =>
        if p.symbol ≠ "" ∧ 0 < |p.quantity| then positions.set p.symbol p.position
        else positions) positions).get? sym = some p → p.qty ≠ 0 := by
    induction rows generalizing positions with
    | nil => exact hpositions
    | cons row rest ih =>
        rw [List.foldl_cons]
        refine ih _ ?_
        by_cases hkept : row.symbol ≠ "" ∧ 0 < |row.quantity|
        · rw [if_pos hkept]
          intro sym p hget
          by_cases hsym : row.symbol = sym
          · rw [hsym, Dict.get?_set_self, Option.some.injEq] at hget
            rw [← hget]
            exact abs_pos.mp hkept.2
          · rw [Dict.get?_set_ne _ _ hsym] at hget
            exact hpositions sym p hget
        · rw [if_neg hkept]
          exact hpositions
  exact hfold rows Dict.empty (fun _ _ h => by cases h) sym p h

/-- The result for a position of the exchange. -/
theorem checkExchange_ok_iff {rows : List ExchangeRow} (opened : List LedgerPosition)
    {sym : String} {p : ExchangePosition} (h : (exchangePositions rows).get? sym = some p) :
    (worker.checkExchange (localPositions opened) sym p).status = .ok ↔
      ¬ worker.comparison.Reports (exchangeBook rows sym) (localBook opened sym) := by
  have hqty := qty_ne_zero_of_exchangePositions h
  unfold ReconciliationWorker.checkExchange exchangeBook localBook
  rw [h]
  cases hlocal : (localPositions opened).get? sym with
  | none => exact iff_of_false (fun h => by cases h) (not_not.mpr trivial)
  | some pos =>
      show (if (if p.qty ≠ 0 then |pos.qty - (|p.qty|)| / |p.qty| else 0) ≤
          worker.positionQtyTolerance then CheckStatus.ok else CheckStatus.drift) = .ok ↔
        ¬ (0 < |p.qty| ∧ worker.positionQtyTolerance < |(|p.qty|) - pos.qty| / |p.qty|)
      rw [if_pos hqty, abs_sub_comm, and_iff_right (abs_pos.mpr hqty), not_lt]
      by_cases hwithin : |(|p.qty|) - pos.qty| / |p.qty| ≤ worker.positionQtyTolerance
      · simp [hwithin]
      · simp [hwithin]

/-- The check finds what is reported of some symbol. -/
theorem checkPositions_ok_iff (opened : List LedgerPosition) (rows : List ExchangeRow) :
    (∀ result ∈ worker.checkPositions opened rows, result.status = .ok) ↔
      ∀ sym, ¬ worker.comparison.Reports (exchangeBook rows sym) (localBook opened sym) := by
  have hempty (results : List PositionResult) (fallback : PositionResult)
      (hfallback : fallback.status = .ok) :
      (∀ result ∈ (if results = [] then [fallback] else results), result.status = .ok) ↔
        ∀ result ∈ results, result.status = .ok := by
    by_cases hnil : results = []
    · simp [hnil, hfallback]
    · simp [hnil]
  unfold ReconciliationWorker.checkPositions
  rw [hempty _ _ rfl, List.forall_mem_append]
  constructor
  · rintro ⟨hexchange, hghost⟩ sym hreports
    cases hex : (exchangePositions rows).get? sym with
    | some p =>
        have hmem := (exchangePositions rows).mem_entries_iff.mpr hex
        exact (checkExchange_ok_iff worker opened hex).mp
          (hexchange _ (List.mem_map_of_mem hmem)) hreports
    | none =>
        cases hlocal : (localPositions opened).get? sym with
        | none =>
            unfold exchangeBook localBook at hreports
            rw [hex, hlocal] at hreports
            exact hreports
        | some pos =>
            have hmem := (localPositions opened).mem_entries_iff.mpr hlocal
            obtain ⟨result, hresult, hdrift⟩ : ∃ result, ReconciliationWorker.checkGhost
                (exchangePositions rows) sym pos = some result ∧ result.status = .drift := by
              unfold ReconciliationWorker.checkGhost
              rw [hex]
              exact ⟨_, rfl, rfl⟩
            have hok := hghost result (List.mem_filterMap.mpr ⟨(sym, pos), hmem, hresult⟩)
            rw [hdrift] at hok
            cases hok
  · intro h
    refine ⟨?_, ?_⟩
    · intro result hresult
      obtain ⟨⟨sym, p⟩, hmem, rfl⟩ := List.mem_map.mp hresult
      exact (checkExchange_ok_iff worker opened ((exchangePositions rows).get?_of_mem hmem)).mpr
        (h sym)
    · intro result hresult
      obtain ⟨⟨sym, pos⟩, hmem, hghost⟩ := List.mem_filterMap.mp hresult
      have hlocal := (localPositions opened).get?_of_mem hmem
      cases hex : (exchangePositions rows).get? sym with
      | some p => simp [ReconciliationWorker.checkGhost, hex] at hghost
      | none =>
          have hsym := h sym
          unfold exchangeBook localBook at hsym
          rw [hex, hlocal] at hsym
          exact absurd (Or.inl rfl) hsym

/-- The worker is right about two books exactly when it sees a difference of
quantities, or what it overlooks and what it reports without need are both
none, or both some. -/
theorem ReconciliationWorker.discerning_iff (opened : List LedgerPosition)
    (rows : List ExchangeRow) :
    worker.Discerning opened rows ↔
      (∃ sym, worker.comparison.Seen (exchangeBook rows sym) (localBook opened sym)) ∨
        ((∃ sym, worker.comparison.Overlooked (exchangeBook rows sym) (localBook opened sym)) ↔
          ∃ sym, worker.comparison.Overreported (exchangeBook rows sym) (localBook opened sym)) := by
  rw [← (worker.comparison.classified (exchangeBook rows) (localBook opened)).discerns_iff]
  unfold ReconciliationWorker.Discerning
  rw [checkPositions_ok_iff]
  exact Iff.rfl

end Worker

/-! ## The three together -/

/-- A live long of two units. -/
def longWorld : World :=
  { demoWorld with
    wallet := (demoWorld.wallet.bookAdoption { demoAdoption with quantity := 2 }).2 }

/-- A short of two units on the venue. -/
def shortHolding : VenueHolding := ⟨.short, 2, 100, none⟩

def shortSnapshot : AccountSnapshot :=
  { positions := Dict.empty.set demoSymbol shortHolding
    openOrders := [] }

def demoWorker : ReconciliationWorker := { engine := { userId := "default" } }

/-- The ledger's long, and the exchange's short. -/
def longPosition : LedgerPosition :=
  { positionUid := "p1", userId := "default", venue := "binance", symbol := "BTCUSDT", side := .long,
    qty := 2, entryPriceAvg := 100, leverage := 5, openedAt := 0, updatedAt := 0 }

def shortRow : ExchangeRow := { symbol := "BTCUSDT", qty := some 2, side := some .short }

theorem shortRow_ok : ∀ result ∈ demoWorker.checkPositions [longPosition] [shortRow], result.status = .ok := by
  decide +kernel

end CryptoTrader
