import CryptoTrader.Live.Equity
import CryptoTrader.Wallet.Discipline
import CryptoTrader.Wallet.Reset

/-!
# Exit discipline over a price path

What holds of a position that `update_positions` leaves open, along any path of
marks, partial closes, adjusted stops and restarts.  A mark first tries the
exits that go by the PnL, and these scale with the quantity, so they hold of
whatever is left.  The stop is only tried when no target is taken on the same
tick, and the best price so far only survives a restart as of the last save.
-/

namespace CryptoTrader

open CryptoTrader.Lib

/-! ## Stops -/

/-- The level a little past a stop. -/
def ExitRules.backupLevel (rules : ExitRules) (side : PositionSide) (stop : Decimal) : Decimal :=
  let buf : Decimal := (rules.softwareSlBackupBps : Decimal) / 10000
  match side with
  | .long => stop * (1 - buf)
  | .short => stop * (1 + buf)

/-- The mark is clear of a stop and, with an engine, of the level past it. -/
def PositionSide.Clears (side : PositionSide) (rules : ExitRules) (live : Bool)
    (stop markPrice : Decimal) : Prop :=
  side.stopsAt markPrice stop = false ∧
    (live → side.stopsAt markPrice (rules.backupLevel side stop) = false)

/-- Then it is clear of the level that the software monitor acts on. -/
theorem PositionSide.Clears.softwareSlLevel {w : Wallet} {rules : ExitRules}
    {pos : EnhancedPosition} {live : Bool} {markPrice : Decimal}
    (h : pos.side.Clears rules live pos.slPrice markPrice) (hlive : w.liveExecution = live) :
    pos.side.stopsAt markPrice (w.softwareSlLevel rules pos) = false := by
  unfold Wallet.softwareSlLevel
  dsimp only
  split
  · next hrests =>
      have hengine : live = true := by
        rw [Bool.and_eq_true, hlive] at hrests
        exact hrests.1
      exact h.2 hengine
  · exact h.1

/-- What the software monitor acts on is not reached. -/
def Wallet.ClearsStop (w : Wallet) (rules : ExitRules) (symbol : Symbol) (markPrice : Decimal) :
    Prop :=
  ∀ pos, w.getOpenPosition symbol = some pos →
    pos.side.stopsAt markPrice (w.softwareSlLevel rules pos) = false

/-! ## Discipline -/

/-- What a mark must find of a position that stays open: the mark is on the safe
side of the software stop, the position is within its limits, and it has not
given back a quarter of a best move of 2% or more. -/
structure EnhancedPosition.Disciplined (pos : EnhancedPosition) (rules : ExitRules) (w : Wallet)
    (best : Option Decimal) (markPrice : Decimal) : Prop where
  stop : pos.side.stopsAt markPrice (w.softwareSlLevel rules pos) = false
  limits : w.WithinLimits rules pos markPrice
  trail : ∀ b, best = some b → ¬ (2 / 100 ≤ b ∧ pos.movePct markPrice ≤ 75 / 100 * b)

/-- The terms of a position that a mark leaves alone. -/
structure PositionTerms.Held (t : PositionTerms) (rules : ExitRules) (ratio : Decimal)
    (best : Option Decimal) (markPrice : Decimal) : Prop where
  limits : t.WithinLimits rules ratio markPrice
  peak : t.HoldsPeak markPrice
  remembers : t.Remembers best

section Held

variable {t : PositionTerms} {rules : ExitRules} {ratio markPrice : Decimal}
  {best : Option Decimal}

/-- Neither a slice nor another stop matters. -/
theorem PositionTerms.Remembers.congr (h : t.Remembers best) (quantity slPrice : Decimal) :
    { t with quantity, slPrice }.Remembers best :=
  ⟨h.entryPrice, h.peak, h.highest⟩

theorem PositionTerms.Held.congr (h : t.Held rules ratio best markPrice)
    (quantity slPrice : Decimal) : { t with quantity, slPrice }.Held rules ratio best markPrice :=
  ⟨⟨h.limits.solvent, h.limits.loss, h.limits.windfall⟩, fun hrisen => h.peak hrisen,
    h.remembers.congr quantity slPrice⟩

end Held

/-- The position on the symbol, if there is one, is held, and the mark is clear of
its stop. -/
structure Wallet.Settled (w : Wallet) (rules : ExitRules) (symbol : Symbol) (live : Bool)
    (ratio : Decimal) (best : Option Decimal) (markPrice : Decimal) : Prop where
  held : w.OnTerms symbol live ratio
    (fun t => t.Held rules ratio best markPrice ∧ 0 < t.quantity)
  stop : w.ClearsStop rules symbol markPrice

section Settled

variable {w : Wallet} {rules : ExitRules} {symbol : Symbol} {live : Bool}
  {ratio markPrice : Decimal} {best : Option Decimal}

theorem Wallet.Settled.of_clear (h : w.OnTerms symbol live ratio (fun t =>
    (t.Held rules ratio best markPrice ∧ t.side.Clears rules live t.slPrice markPrice) ∧
      0 < t.quantity)) :
    w.Settled rules symbol live ratio best markPrice :=
  ⟨h.mono (fun _ ht => ⟨ht.1.1, ht.2⟩),
    fun pos hpos => (h.terms pos hpos).1.2.softwareSlLevel h.live⟩

theorem Wallet.Settled.sync (h : w.Settled rules symbol live ratio best markPrice) :
    w.syncUnrealizedTotal.Settled rules symbol live ratio best markPrice :=
  ⟨h.held.syncUnrealizedTotal, h.stop⟩

theorem Wallet.Settled.disciplined (h : w.Settled rules symbol live ratio best markPrice)
    (hmark : 0 < markPrice) {pos : EnhancedPosition} (hpos : w.getOpenPosition symbol = some pos) :
    pos.Disciplined rules w best markPrice := by
  obtain ⟨hheld, hquantity⟩ := h.held.terms pos hpos
  have hopen : pos.status = .opened := (Wallet.getOpenPosition_eq_some.mp hpos).2
  refine ⟨h.stop pos hpos, ?_, fun b hb htrail => ?_⟩
  · refine (Wallet.withinLimits_iff hopen hmark w rules hquantity.le).mpr ⟨hquantity, ?_⟩
    rw [h.held.ratio]
    exact hheld.limits
  · exact absurd htrail.2 (not_le.mpr (hheld.peak.move hheld.remembers hb htrail.1))

end Settled

/-! ## Closing -/

variable (env : Env)

section Closing

variable {symbol : Symbol} {live : Bool} {ratio : Decimal} {P Q R : PositionTerms → Prop} {s : World}

theorem Wallet.OnTerms.stable (symbol : Symbol) (live : Bool) (ratio : Decimal)
    (P : PositionTerms → Prop) :
    Wallet.Stable symbol (Wallet.OnTerms symbol live ratio P) :=
  ⟨fun _ h => h.aligned, fun _ h => h.tick, fun _ h => h.save,
    fun _ f _ h hpayload => h.dress f hpayload⟩

theorem Wallet.OnTerms.closedUnder (symbol : Symbol) (live : Bool) (ratio : Decimal)
    (P : PositionTerms → Prop) :
    Wallet.ClosedUnder symbol (Wallet.OnTerms symbol live ratio P) :=
  fun _ markPrice reason fill h => h.bookClose markPrice reason fill

theorem closePosition_terms (hs : s.wallet.OnTerms symbol live ratio P) (markPrice : Decimal)
    (reason : String) (fill : Option ExternalFill) :
    wp (closePosition env .none symbol markPrice reason fill)
      (fun _ s' => s'.wallet.OnTerms symbol live ratio Q)
      (fun _ s' => s'.wallet.OnTerms symbol live ratio P) s := by
  refine wp_mono (closePosition_books env (Wallet.OnTerms.stable symbol live ratio P)
    markPrice reason fill hs) ?_ (fun _ _ h => h)
  rintro - s' ⟨w, fill', hw, hs'⟩
  rw [hs']
  exact hw.bookClose markPrice reason fill'

theorem liquidatePosition_terms (hs : s.wallet.OnTerms symbol live ratio P) (markPrice : Decimal) :
    wp (liquidatePosition env symbol markPrice)
      (fun _ s' => s'.wallet.OnTerms symbol live ratio Q) (fun _ _ => False) s := by
  refine wp_mono (liquidatePosition_books env (Wallet.OnTerms.stable symbol live ratio P)
    markPrice hs) ?_ (fun _ _ h => h)
  rintro - s' ⟨w, hw, hs'⟩
  rw [hs']
  exact hw.liquidatePosition markPrice

/-- A slice of nothing changes nothing. -/
theorem Wallet.bookPartial_none {w : Wallet} {markPrice pct : Decimal} {reason : String}
    {tpLabel : Option String} {fill : Option ExternalFill}
    (h : (w.bookPartial symbol markPrice pct reason tpLabel fill).1 = none) :
    (w.bookPartial symbol markPrice pct reason tpLabel fill).2 = w := by
  unfold Wallet.bookPartial at h ⊢
  cases hpos : w.getOpenPosition symbol with
  | none => rfl
  | some pos =>
      rw [hpos] at h
      dsimp only at h ⊢
      split at h
      · next hnothing => rw [if_pos hnothing]
      · cases h

/-- A slice of less than everything leaves something. -/
theorem Wallet.OnTerms.bookPartial_pos {w : Wallet}
    (h : w.OnTerms symbol live ratio (fun t => P t ∧ 0 < t.quantity))
    (hfree : ∀ t quantity, P t → P { t with quantity }) (markPrice : Decimal) {pct : Decimal}
    (hpct : pct < 1) (reason : String) (tpLabel : Option String) (fill : Option ExternalFill) :
    (w.bookPartial symbol markPrice pct reason tpLabel fill).2.OnTerms symbol live ratio
      (fun t => P t ∧ 0 < t.quantity) := by
  have hslice := (h.mono (fun _ ht => ht.1)).bookPartial hfree markPrice pct reason tpLabel fill
  refine { hslice with terms := fun pos' hpos' => ⟨hslice.terms pos' hpos', ?_⟩ }
  cases hpos : w.getOpenPosition symbol with
  | none =>
      unfold Wallet.bookPartial at hpos'
      rw [hpos] at hpos'
      rw [hpos] at hpos'
      cases hpos'
  | some pos =>
      have hquantity : 0 < pos.remainingQuantity := (h.terms pos hpos).2
      by_cases htaken : 0 < pos.remainingQuantity * pct
      · obtain ⟨-, -, -, pos₁, hpos₁, hreduced⟩ := Wallet.bookPartial_spec symbol markPrice reason
          fill h.aligned hpos pct tpLabel htaken
        rw [hpos'] at hpos₁
        obtain rfl := Option.some.inj hpos₁
        show 0 < pos'.remainingQuantity
        rw [hreduced.remainingQuantity]
        refine lt_max_of_lt_right (sub_pos.mpr ?_)
        exact mul_lt_of_lt_one_right hquantity hpct
      · have hsame : w.bookPartial symbol markPrice pct reason tpLabel fill = (none, w) := by
          unfold Wallet.bookPartial
          rw [hpos]
          exact if_pos (not_lt.mp htaken)
        rw [hsame, hpos] at hpos'
        obtain rfl := Option.some.inj hpos'
        exact hquantity

/-- A partial close leaves something, or nothing is open; when it raises, what
the slice left stands. -/
theorem partialClose_terms {markPrice pct : Decimal} {reason : String} {tpLabel : Option String}
    {fill : Option ExternalFill}
    (hs : s.wallet.OnTerms symbol live ratio (fun t => P t ∧ 0 < t.quantity))
    (hbook : ∀ (w : Wallet) fill, w.OnTerms symbol live ratio (fun t => P t ∧ 0 < t.quantity) →
      (w.bookPartial symbol markPrice pct reason tpLabel fill).2.OnTerms symbol live ratio R)
    (hPR : ∀ t, P t → 0 < t.quantity → R t) :
    wp (partialClose env .none symbol markPrice pct reason tpLabel fill)
      (fun _ s' => s'.wallet.OnTerms symbol live ratio (fun t => R t ∧ 0 < t.quantity))
      (fun _ s' => s'.wallet.OnTerms symbol live ratio R) s := by
  have hstable (T : PositionTerms → Prop) := Wallet.OnTerms.stable symbol live ratio T
  rw [partialClose_eq, wp_bind]
  refine wp_mono (World.wp_of_keeps (partialFill_keeps env pct fill (hstable _)) hs) ?_
    (fun _ _ h => h.mono (fun t ht => hPR t ht.1 ht.2))
  intro fill? s' hs'
  cases fill? with
  | none => exact hs'.mono (fun t ht => ⟨hPR t ht.1 ht.2, ht.2⟩)
  | some fill =>
      have hnone : (s'.wallet.bookPartial symbol markPrice pct reason tpLabel fill.1).1 = none →
          (s'.wallet.bookPartial symbol markPrice pct reason tpLabel fill.1).2 = s'.wallet :=
        Wallet.bookPartial_none
      have hbooked := hbook s'.wallet fill.1 hs'
      unfold partialFinish partialBook
      dsimp only
      rw [wp_bind, wp_onWallet]
      revert hnone hbooked
      generalize s'.wallet.bookPartial symbol markPrice pct reason tpLabel fill.1 = booked
      obtain ⟨pnl?, w'⟩ := booked
      intro hnone hbooked
      cases pnl? with
      | none =>
          obtain rfl : w' = s'.wallet := hnone rfl
          exact hs'.mono (fun t ht => ⟨hPR t ht.1 ht.2, ht.2⟩)
      | some pnl =>
          dsimp only
          rw [wp_bind, wp_get, wp_ite]
          constructor
          · intro _
            rw [wp_bind]
            exact closePosition_terms env (s := { s' with wallet := w' }) hbooked markPrice
              "FULL_VIA_PARTIALS" none
          · intro hdust
            -- what is not dust is something
            have hrest : w'.OnTerms symbol live ratio (fun t => R t ∧ 0 < t.quantity) := by
              refine { hbooked with terms := fun pos hpos => ⟨hbooked.terms pos hpos, ?_⟩ }
              have hlarge : ¬ pos.remainingQuantity ≤ 1 / 10000 := by
                intro hle
                refine hdust ?_
                show (w'.getOpenPosition symbol).any _ = true
                rw [hpos, Option.any_some, decide_eq_true_eq]
                exact hle
              exact lt_trans (by norm_num) (not_le.mp hlarge)
            have hsave (s₁ : World)
                (hs₁ : s₁.wallet.OnTerms symbol live ratio (fun t => R t ∧ 0 < t.quantity)) :
                wp (do
                    modifyWallet Wallet.save
                    pure (PartialResult.slice pnl) : Live PartialResult)
                  (fun _ s' => s'.wallet.OnTerms symbol live ratio (fun t => R t ∧ 0 < t.quantity))
                  (fun _ s' => s'.wallet.OnTerms symbol live ratio R) s₁ := by
              rw [wp_bind, wp_modifyWallet]
              exact hs₁.save
            cases fill.2 with
            | false => exact hsave { s' with wallet := w' } hrest
            | true =>
                show wp (restoreProtective env symbol >>= _) _ _ _
                rw [wp_bind]
                exact wp_mono (World.wp_of_keeps (restoreProtective_keeps env (hstable _)
                  (Wallet.OnTerms.closedUnder symbol live ratio _))
                  (s := { s' with wallet := w' }) hrest) (fun _ s₁ h => hsave s₁ h)
                  (fun _ _ h => h.mono (fun t ht => ht.1))

end Closing

/-! ## Marking -/

/-- An exit that a mark leads to leaves a position open only where it may stay.
That is, when the venue refuses the order of a close the position keeps within
its limits and the mark is clear of its stop; so is a mark that takes a target,
and the order of a slice is not refused once all of the position is booked.  At
TP1 the stop moves to the entry, which only the level past it may reach. -/
def MarkOk (rules : ExitRules) (symbol : Symbol) (u : MarkUpdate) (s : World) : Prop :=
  0 < u.markPrice ∧ ∀ pos, s.wallet.getOpenPosition symbol = some pos →
    let marked := pos.updatePnl u.markPrice
    let s₁ := s.marked symbol u.markPrice
    let refuses (reason : String) :=
      Raises (closePosition env .none symbol u.markPrice reason none) s₁
    let clears (stop : Decimal) :=
      pos.side.Clears rules s.wallet.liveExecution stop u.markPrice
    match s.wallet.forcedExit rules marked u with
    | some .liquidation => True
    | some (.close reason) => refuses reason →
        s.wallet.WithinLimits rules pos u.markPrice ∧ marked.fallsFromPeak = false ∧
          clears pos.slPrice
    | none =>
        match s.wallet.playbookExit rules marked u with
        | none => True
        | some (.close reason) => refuses reason → clears pos.slPrice
        | some (.takeProfit tp) =>
            let slice := partialClose env .none symbol u.markPrice tp.pct s!"{tp.label} HIT"
              (some tp.label) none
            (Raises slice s₁ → clears pos.slPrice ∧
              (tp.pct < 1 ∨ Raises (partialFill env symbol tp.pct none) s₁)) ∧
            (¬ Raises slice s₁ →
              if tp.label = "TP1" then
                s.wallet.liveExecution → pos.side.stopsAt u.markPrice
                  (rules.backupLevel pos.side pos.entryPrice) = false
              else clears pos.slPrice)

/-- The best move since the path began, once a mark was seen. -/
def Wallet.bestAfter (w : Wallet) (symbol : Symbol) (best : Option Decimal)
    (markPrice : Decimal) : Option Decimal :=
  match w.getOpenPosition symbol with
  | none => best
  | some pos => bestMove best (pos.movePct markPrice)

section Marking

variable {rules : ExitRules} {symbol : Symbol} {live : Bool} {ratio markPrice : Decimal}
  {best : Option Decimal} {s : World} {pos : EnhancedPosition}

/-- The terms of a marked position. -/
theorem EnhancedPosition.terms_updatePnl (pos : EnhancedPosition) (markPrice : Decimal) :
    (pos.updatePnl markPrice).terms =
      { pos.terms with
        highestPrice := (pos.updatePnl markPrice).highestPrice
        peakPnlPct := (pos.updatePnl markPrice).peakPnlPct } := by
  obtain ⟨-, hside, hentry, hquantity, -, -, -, hstop, hleverage, -⟩ :=
    pos.updatePnl_frame markPrice
  simp only [EnhancedPosition.terms, hside, hentry, hquantity, hstop, hleverage]

/-- A position that is marked within its limits is held. -/
theorem EnhancedPosition.held_updatePnl {w : Wallet} (hopen : pos.status = .opened)
    (hmark : 0 < markPrice) (hquantity : 0 ≤ pos.remainingQuantity)
    (hlimits : w.WithinLimits rules pos markPrice)
    (hpeak : (pos.updatePnl markPrice).fallsFromPeak = false) (hbest : pos.terms.Remembers best) :
    (pos.updatePnl markPrice).terms.Held rules w.maintenanceMarginRatio
        (bestMove best (pos.movePct markPrice)) markPrice ∧
      0 < (pos.updatePnl markPrice).terms.quantity := by
  obtain ⟨hpos, hunit⟩ := (Wallet.withinLimits_iff hopen hmark w rules hquantity).mp hlimits
  refine ⟨⟨?_, ?_, remembers_updatePnl hopen hmark hbest hpos⟩, ?_⟩
  · rw [terms_updatePnl]
    exact ⟨hunit.solvent, hunit.loss, hunit.windfall⟩
  · exact (fallsFromPeak_updatePnl hopen hmark hpos).mp hpeak
  · rw [terms_updatePnl]
    exact hpos

/-- What a mark leaves of a position. -/
theorem Wallet.OnTerms.marked {P : PositionTerms → Prop} (h : s.wallet.OnTerms symbol live ratio P)
    (hpos : s.wallet.getOpenPosition symbol = some pos) (markPrice : Decimal) :
    (s.marked symbol markPrice).wallet.OnTerms symbol live ratio
      (fun t => t = (pos.updatePnl markPrice).terms) := by
  refine h.markPosition markPrice (fun pos' hpos' _ => ?_)
  rw [hpos] at hpos'
  obtain rfl := Option.some.inj hpos'
  rfl

theorem Wallet.getOpenPosition_marked (hpos : s.wallet.getOpenPosition symbol = some pos)
    (markPrice : Decimal) :
    (s.marked symbol markPrice).wallet.getOpenPosition symbol = some (pos.updatePnl markPrice) := by
  show (s.wallet.editPosition symbol _).getOpenPosition symbol = _
  rw [Wallet.getOpenPosition_editPosition symbol
    (fun pos => (pos.updatePnl_frame markPrice).2.2.2.2.1), hpos]
  rfl

/-- A target on the winning side that is reached is past the entry. -/
theorem PositionSide.clears_entry {side : PositionSide} {entryPrice target : Decimal}
    (htarget : 0 < side.gain entryPrice target) (hreached : side.reaches markPrice target = true) :
    side.stopsAt markPrice entryPrice = false := by
  cases side with
  | long =>
      have hle : target ≤ markPrice := of_decide_eq_true hreached
      exact decide_eq_false (not_le.mpr (lt_of_lt_of_le (sub_pos.mp htarget) hle))
  | short =>
      have hle : markPrice ≤ target := of_decide_eq_true hreached
      exact decide_eq_false (not_le.mpr (lt_of_le_of_lt hle (sub_pos.mp htarget)))

end Marking

/-- The terms but for the quantity, of which something is left. -/
def PositionTerms.Rest (t₀ t : PositionTerms) : Prop :=
  (∃ quantity, t = { t₀ with quantity }) ∧ 0 < t.quantity

section Taking

variable {rules : ExitRules} {symbol : Symbol} {live : Bool} {ratio markPrice : Decimal}
  {best : Option Decimal} {s : World} {t : PositionTerms}

/-- What is left of a position that is held is held. -/
theorem Wallet.OnTerms.settled {w : Wallet} (h : w.OnTerms symbol live ratio t.Rest)
    (hheld : t.Held rules ratio best markPrice)
    (hclear : t.side.Clears rules live t.slPrice markPrice) :
    w.Settled rules symbol live ratio best markPrice := by
  refine .of_clear (h.mono ?_)
  rintro t' ⟨⟨quantity, rfl⟩, hpos⟩
  exact ⟨⟨hheld.congr quantity t.slPrice, hclear⟩, hpos⟩

theorem takeSlice_terms {pct : Decimal} {reason : String} {tpLabel : Option String}
    (hs : s.wallet.OnTerms symbol live ratio t.Rest)
    (hrefused : Raises (partialClose env .none symbol markPrice pct reason tpLabel none) s →
      pct < 1 ∨ Raises (partialFill env symbol pct none) s) :
    wp (partialClose env .none symbol markPrice pct reason tpLabel none)
      (fun _ s' => ¬ Raises (partialClose env .none symbol markPrice pct reason tpLabel none) s ∧
        s'.wallet.OnTerms symbol live ratio t.Rest)
      (fun _ s' => Raises (partialClose env .none symbol markPrice pct reason tpLabel none) s ∧
        s'.wallet.OnTerms symbol live ratio t.Rest) s := by
  have hfree : ∀ t' quantity, (∃ q, t' = { t with quantity := q }) →
      ∃ q, ({ t' with quantity } : PositionTerms) = { t with quantity := q } := by
    rintro t' quantity ⟨q, rfl⟩
    exact ⟨quantity, rfl⟩
  by_cases hraises : Raises (partialClose env .none symbol markPrice pct reason tpLabel none) s
  · rcases hrefused hraises with hpct | hfill
    · refine wp_mono (wp_raises (partialClose_terms env hs
        (fun w fill hw => hw.bookPartial_pos hfree markPrice hpct reason tpLabel fill)
        (fun t' ht' hpos => ⟨ht', hpos⟩))) ?_ (fun _ _ h => h)
      exact fun _ _ h => ⟨h.1, h.2.mono (fun _ ht => ht.1)⟩
    · obtain ⟨-, hkept⟩ := partialClose_raised env markPrice pct reason tpLabel none
        (Wallet.OnTerms.stable symbol live ratio t.Rest) hs hfill
      exact wp_raises ((wp_final _).mpr hkept)
  · refine wp_mono (wp_raises (partialClose_terms env hs
      (fun w fill hw => (hw.mono (fun _ ht => ht.1)).bookPartial hfree markPrice pct reason
        tpLabel fill) (fun t' ht' _ => ht'))) (fun _ _ h => h) ?_
    exact fun _ _ h => absurd h.1 hraises

theorem takeProfit_settled {tp : TpLevel} (hs : s.wallet.OnTerms symbol live ratio t.Rest)
    (hheld : t.Held rules ratio best markPrice)
    (hrefused : Raises (partialClose env .none symbol markPrice tp.pct s!"{tp.label} HIT"
        (some tp.label) none) s →
      t.side.Clears rules live t.slPrice markPrice ∧
        (tp.pct < 1 ∨ Raises (partialFill env symbol tp.pct none) s))
    (htaken : ¬ Raises (partialClose env .none symbol markPrice tp.pct s!"{tp.label} HIT"
        (some tp.label) none) s →
      t.side.Clears rules live (if tp.label = "TP1" then t.entryPrice else t.slPrice) markPrice) :
    wp (takePlaybookExit env symbol markPrice t.entryPrice (.takeProfit tp))
      (fun _ s' => s'.wallet.Settled rules symbol live ratio best markPrice)
      (fun _ s' => s'.wallet.Settled rules symbol live ratio best markPrice) s := by
  unfold takePlaybookExit
  rw [wp_bind]
  refine wp_mono (takeSlice_terms env hs (fun h => (hrefused h).2)) ?_ ?_
  · rintro - s' ⟨hreturns, hs'⟩
    have hclear := htaken hreturns
    rw [wp_ite]
    constructor
    · intro hfirst
      rw [if_pos hfirst] at hclear
      -- the stop moves to the entry
      refine .of_clear ((hs'.adjustSlPrice t.entryPrice).mono ?_)
      rintro t' ⟨hstop, slPrice, ⟨quantity, heq⟩, hpos⟩
      have hrebuilt : t' = { t with quantity, slPrice := t.entryPrice } := by
        have hback : t' = { { t' with slPrice } with slPrice := t.entryPrice } := by
          rw [← hstop]
        rw [hback, heq]
      rw [hrebuilt]
      rw [hrebuilt] at hpos
      exact ⟨⟨hheld.congr quantity t.entryPrice, hclear⟩, hpos⟩
    · intro hlater
      rw [if_neg hlater] at hclear
      rw [wp_ite]
      constructor
      · intro _
        exact hs'.activateTrailingStop.settled hheld hclear
      · intro _
        exact hs'.settled hheld hclear
  · rintro - s' ⟨hraises, hs'⟩
    exact hs'.settled hheld (hrefused hraises).1

/-- A close takes the position off, or is refused and leaves it as it is. -/
theorem close_settled (hs : s.wallet.OnTerms symbol live ratio (fun t' => t' = t))
    (markPrice : Decimal) (reason : String)
    (hrefused : Raises (closePosition env .none symbol markPrice reason none) s →
      (t.Held rules ratio best markPrice ∧ t.side.Clears rules live t.slPrice markPrice) ∧
        0 < t.quantity) :
    wp (closePosition env .none symbol markPrice reason none)
      (fun _ s' => s'.wallet.Settled rules symbol live ratio best markPrice)
      (fun _ s' => s'.wallet.Settled rules symbol live ratio best markPrice) s := by
  refine wp_mono (wp_raises (closePosition_terms env hs markPrice reason none))
    (fun _ s' h => Wallet.Settled.of_clear h.2) ?_
  rintro - s' ⟨hraises, hs'⟩
  refine .of_clear (hs'.mono ?_)
  rintro t' rfl
  exact hrefused hraises

end Taking

section Updating

variable {rules : ExitRules} {symbol : Symbol} {live : Bool} {ratio : Decimal}
  {best : Option Decimal} {s : World}

theorem updatePositions_settled (u : MarkUpdate)
    (hs : s.wallet.OnTerms symbol live ratio (fun t => t.Remembers best))
    (hok : MarkOk env rules symbol u s) :
    (final (updatePositions env rules symbol u) s).wallet.Settled rules symbol live ratio
      (s.wallet.bestAfter symbol best u.markPrice) u.markPrice := by
  obtain ⟨hmark, hexit⟩ := hok
  refine (wp_final (P := fun s' : World => s'.wallet.Settled rules symbol live ratio
    (s.wallet.bestAfter symbol best u.markPrice) u.markPrice) _).mp ?_
  unfold updatePositions Wallet.bestAfter
  rw [wp_bind, wp_get]
  cases hpos : s.wallet.getOpenPosition symbol with
  | none =>
      dsimp only
      rw [wp_modifyWallet]
      exact (Wallet.Settled.of_clear
        (Wallet.OnTerms.of_flat hs.aligned hs.live hs.ratio hpos)).sync
  | some pos =>
      have hopen : pos.status = .opened := (Wallet.getOpenPosition_eq_some.mp hpos).2
      have hexit := hexit pos hpos
      have hmarked := hs.marked hpos u.markPrice
      have hheld (hlimits : s.wallet.WithinLimits rules pos u.markPrice)
          (hpeak : (pos.updatePnl u.markPrice).fallsFromPeak = false) :
          (pos.updatePnl u.markPrice).terms.Held rules ratio
              (bestMove best (pos.movePct u.markPrice)) u.markPrice ∧
            0 < (pos.updatePnl u.markPrice).terms.quantity :=
        hs.ratio ▸ EnhancedPosition.held_updatePnl hopen hmark (hs.quantity pos hpos) hlimits hpeak
          (hs.terms pos hpos)
      obtain ⟨-, hside, hentry, -, -, -, -, hstop, -, -⟩ := pos.updatePnl_frame u.markPrice
      have hclears (stop : Decimal) : (pos.updatePnl u.markPrice).side.Clears rules live stop
          u.markPrice ↔ (pos.updatePnl u.markPrice).side.Clears rules s.wallet.liveExecution stop
            u.markPrice := by
        rw [hs.live]
      rw [← hstop, ← hentry, ← hside] at hexit
      dsimp only at hexit ⊢
      rw [wp_bind, wp_modifyWallet]
      change wp _ _ _ (s.marked symbol u.markPrice)
      cases hforced : s.wallet.forcedExit rules (pos.updatePnl u.markPrice) u with
      | some exit =>
          rw [hforced] at hexit
          cases exit with
          | liquidation =>
              exact wp_mono (liquidatePosition_terms env hmarked u.markPrice)
                (fun _ _ h => Wallet.Settled.of_clear h) (fun _ _ h => h.elim)
          | close reason =>
              unfold takeForcedExit
              rw [wp_bind]
              refine wp_mono (close_settled env hmarked u.markPrice reason (fun hraises => ?_))
                (fun _ _ h => h) (fun _ _ h => h)
              obtain ⟨hlimits, hpeak, hclear⟩ := hexit hraises
              obtain ⟨hholds, hpositive⟩ := hheld hlimits hpeak
              exact ⟨⟨hholds, (hclears _).mpr hclear⟩, hpositive⟩
      | none =>
          obtain ⟨hlimits, hpeak⟩ := Wallet.withinLimits_of_forcedExit hforced
          obtain ⟨hholds, hpositive⟩ := hheld hlimits hpeak
          have hrest : (s.marked symbol u.markPrice).wallet.OnTerms symbol live ratio
              (pos.updatePnl u.markPrice).terms.Rest := by
            refine hmarked.mono ?_
            rintro t rfl
            exact ⟨⟨_, rfl⟩, hpositive⟩
          rw [hforced] at hexit
          dsimp only at hexit ⊢
          cases hplaybook : s.wallet.playbookExit rules (pos.updatePnl u.markPrice) u with
          | none =>
              refine Wallet.Settled.sync ⟨hmarked.mono ?_, fun pos' hpos' => ?_⟩
              · rintro t rfl
                exact ⟨hholds, hpositive⟩
              · rw [Wallet.getOpenPosition_marked hpos] at hpos'
                obtain rfl := Option.some.inj hpos'
                exact Wallet.clears_of_playbookExit hplaybook
          | some exit =>
              rw [hplaybook] at hexit
              dsimp only
              rw [wp_bind]
              cases exit with
              | close reason =>
                  unfold takePlaybookExit
                  rw [wp_bind]
                  refine wp_mono (close_settled env hmarked u.markPrice reason (fun hraises => ?_))
                    (fun _ _ h => h.sync) (fun _ _ h => h)
                  exact ⟨⟨hholds, (hclears _).mpr (hexit hraises)⟩, hpositive⟩
              | takeProfit tp =>
                  obtain ⟨hmem, hreached⟩ := Wallet.target_of_playbookExit hplaybook
                  have hbeyond := hmarked.targets _ (Wallet.getOpenPosition_marked hpos u.markPrice)
                    tp hmem
                  have htake : wp (takePlaybookExit env symbol u.markPrice
                        (pos.updatePnl u.markPrice).entryPrice (.takeProfit tp))
                      (fun _ s' => s'.wallet.Settled rules symbol live ratio
                        (bestMove best (pos.movePct u.markPrice)) u.markPrice)
                      (fun _ s' => s'.wallet.Settled rules symbol live ratio
                        (bestMove best (pos.movePct u.markPrice)) u.markPrice)
                      (s.marked symbol u.markPrice) := by
                    refine takeProfit_settled (t := (pos.updatePnl u.markPrice).terms) env hrest
                      hholds (fun hraises => ?_) (fun hreturns => ?_)
                    · obtain ⟨hclear, hleft⟩ := hexit.1 hraises
                      exact ⟨(hclears _).mpr hclear, hleft⟩
                    · have hclear := hexit.2 hreturns
                      by_cases hfirst : tp.label = "TP1"
                      · rw [if_pos hfirst] at hclear ⊢
                        rw [hs.live] at hclear
                        exact ⟨PositionSide.clears_entry hbeyond hreached, hclear⟩
                      · rw [if_neg hfirst] at hclear ⊢
                        exact (hclears _).mpr hclear
                  exact wp_mono htake (fun _ _ h => h.sync) (fun _ _ h => h)

end Updating

/-! ## Restarts -/

/-- The snapshot that `_load_state` goes by, and the reducer state it arrives at. -/
def Stores.loads (cfg : WalletConfig) (redisUp : Bool) (s : Stores) :
    Option (Snapshot × PortfolioState) :=
  match if cfg.redisAttached && redisUp then s.redis else none with
  | some cached => some (cached, cached.reducerState)
  | none =>
      match s.latestSnapshot with
      | some (ts, snap) => some (snap, s.replayDelta ts snap)
      | none => s.stateFile.map (fun state => (state, state.reducerState))

/-- The open positions of a snapshot, filed under their symbols. -/
def Snapshot.Filed (snap : Snapshot) : Prop :=
  ∀ symbol pos, (snap.positions.filterVal EnhancedPosition.isOpen).get? symbol = some pos →
    pos.symbol = symbol

/-- The position that loading puts together from a snapshot and its reducer
state. -/
def Snapshot.restored (snap : Snapshot) (state : PortfolioState) (symbol : Symbol) :
    Option EnhancedPosition :=
  (state.openPositions.get? symbol).map (fun data =>
    syncPosition ((snap.positions.filterVal EnhancedPosition.isOpen).get? symbol) false symbol data)

/-- What is restored on the symbol is the position there is, with its best price
and its peak. -/
def Wallet.RestoredAs (w : Wallet) (snap : Snapshot) (state : PortfolioState) (symbol : Symbol) :
    Prop :=
  ∀ pos', snap.restored state symbol = some pos' → ∃ pos, w.getOpenPosition symbol = some pos ∧
    pos'.terms = pos.terms ∧ ∀ tp ∈ pos'.tpLevels, ∃ tp' ∈ pos.tpLevels, tp.price = tp'.price

/-- A restart finds what there is. -/
def RestartOk (init : WalletInit) (redisUp : Bool) (symbol : Symbol) (w : Wallet) : Prop :=
  ∀ snap state, w.stores.loads init.cfg redisUp = some (snap, state) →
    snap.Filed ∧ w.RestoredAs snap state symbol

section Restarting

variable {init : WalletInit} {clock : Nat → Nat} {stores : Stores} {redisUp : Bool}

/-- The wallet that loading leaves. -/
theorem Wallet.loadState_loads :
    (Wallet.blank init clock stores).loadState redisUp = Wallet.blank init clock stores ∧
        stores.loads init.cfg redisUp = none ∨
      ∃ snap state, stores.loads init.cfg redisUp = some (snap, state) ∧
        ((Wallet.blank init clock stores).loadState redisUp).runtime = state ∧
        ((Wallet.blank init clock stores).loadState redisUp).positions =
          state.openPositions.mapVal (fun symbol data => syncPosition
            ((snap.positions.filterVal EnhancedPosition.isOpen).get? symbol) false symbol data) := by
  have hcfg : (Wallet.blank init clock stores).cfg = init.cfg := rfl
  have hstores : (Wallet.blank init clock stores).stores = stores := rfl
  unfold Wallet.loadState Stores.loads
  rw [hcfg, hstores]
  cases hredis : (if init.cfg.redisAttached && redisUp then stores.redis else none) with
  | some cached => exact Or.inr ⟨cached, _, rfl, rfl, rfl⟩
  | none =>
      dsimp only
      cases hlatest : stores.latestSnapshot with
      | some row =>
          obtain ⟨ts, snap⟩ := row
          rw [Wallet.loadFromDbSnapshotAndReplay_eq (w := Wallet.blank init clock stores) hlatest]
          exact Or.inr ⟨snap, _, rfl, rfl, rfl⟩
      | none =>
          have hload : (Wallet.blank init clock stores).loadFromDbSnapshotAndReplay = none := by
            unfold Wallet.loadFromDbSnapshotAndReplay
            rw [hstores, hlatest]
          rw [hload]
          dsimp only
          cases hfile : stores.stateFile with
          | some state => exact Or.inr ⟨state, _, rfl, rfl, rfl⟩
          | none => exact Or.inl ⟨rfl, rfl⟩

/-- No target of the entry is lost. -/
theorem tpLevels_syncPosition {existing : Option EnhancedPosition} {symbol : Symbol}
    (hopen : ∀ pos, existing = some pos → pos.OpenOn symbol) (live : Bool) {data : PositionData}
    {tp : TpLevel} (htp : tp ∈ data.tpLevels) :
    tp ∈ (syncPosition existing live symbol data).tpLevels := by
  cases existing with
  | none =>
      have hsome : ¬ (data.tpLevels = [] ∧ data.playbook = .intraday) :=
        fun h => List.ne_nil_of_mem htp h.1
      show tp ∈ (data.toPosition symbol live).tpLevels
      unfold PositionData.toPosition
      dsimp only
      rw [if_neg hsome]
      exact htp
  | some pos =>
      simp only [syncPosition, (hopen pos rfl).2]
      exact htp

/-- What is restored as it was keeps the property of the terms. -/
theorem Wallet.OnTerms.of_restored {w w' : Wallet} {symbol : Symbol} {live : Bool} {ratio : Decimal}
    {P : PositionTerms → Prop} {snap : Snapshot} {state : PortfolioState}
    (h : w.OnTerms symbol live ratio P) (hfiled : snap.Filed)
    (hrestored : w.RestoredAs snap state symbol) (hruntime : w'.runtime = state)
    (hpositions : w'.positions = state.openPositions.mapVal (fun symbol data => syncPosition
      ((snap.positions.filterVal EnhancedPosition.isOpen).get? symbol) false symbol data)) :
    w'.OnTerms symbol w'.liveExecution w'.maintenanceMarginRatio P := by
  have hopen : ∀ s pos, (snap.positions.filterVal EnhancedPosition.isOpen).get? s = some pos →
      pos.OpenOn s := fun s pos hpos =>
    ⟨hfiled s pos hpos, of_decide_eq_true ((Dict.get?_filterVal_eq_some _ _).mp hpos).2⟩
  have hafter : ∀ pos', w'.getOpenPosition symbol = some pos' →
      snap.restored state symbol = some pos' := by
    intro pos' hpos'
    have hget := (Wallet.getOpenPosition_eq_some.mp hpos').1
    rw [hpositions, Dict.get?_mapVal] at hget
    exact hget
  refine ⟨fun s => Wallet.aligned_sync (hopen s) (by rw [hpositions, hruntime]), rfl, rfl,
    fun pos' hpos' => ?_, fun pos' hpos' => ?_, fun pos' hpos' => ?_, fun pos' hpos' data hdata => ?_⟩
  · obtain ⟨pos, hpos, hterms, -⟩ := hrestored pos' (hafter pos' hpos')
    rw [hterms]
    exact h.terms pos hpos
  · obtain ⟨pos, hpos, hterms, -⟩ := hrestored pos' (hafter pos' hpos')
    have hquantity : pos'.remainingQuantity = pos.remainingQuantity :=
      congrArg PositionTerms.quantity hterms
    rw [hquantity]
    exact h.quantity pos hpos
  · obtain ⟨pos, hpos, hterms, hlevels⟩ := hrestored pos' (hafter pos' hpos')
    rw [hterms]
    exact (h.targets pos hpos).congr rfl rfl hlevels
  · obtain ⟨pos, hpos, hterms, hlevels⟩ := hrestored pos' (hafter pos' hpos')
    rw [hruntime] at hdata
    have hbuilt : pos' = syncPosition
        ((snap.positions.filterVal EnhancedPosition.isOpen).get? symbol) false symbol data := by
      have hget := hafter pos' hpos'
      unfold Snapshot.restored at hget
      rw [hdata] at hget
      exact (Option.some.inj hget).symm
    rw [hterms]
    refine (h.targets pos hpos).congr rfl rfl (fun tp htp => hlevels tp ?_)
    rw [hbuilt]
    exact tpLevels_syncPosition (hopen symbol) false htp

/-- A restart that finds what there is keeps the property of the terms. -/
theorem Wallet.OnTerms.restart {w : Wallet} {symbol : Symbol} {live : Bool} {ratio : Decimal}
    {P : PositionTerms → Prop} (h : w.OnTerms symbol live ratio P)
    (hok : RestartOk init redisUp symbol w) (clock : Nat → Nat) (live' : Bool) :
    ∃ ratio', ({ Wallet.boot init clock w.stores redisUp with
      liveExecution := live' } : Wallet).OnTerms symbol live' ratio' P := by
  have hloaded : ∃ live₀ ratio', ((Wallet.blank init clock w.stores).loadState redisUp).OnTerms
      symbol live₀ ratio' P := by
    have hcases := @Wallet.loadState_loads init clock w.stores redisUp
    rcases hcases with ⟨hblank, -⟩ | ⟨snap, state, hloads, hruntime, hpositions⟩
    · rw [hblank]
      exact ⟨_, _, .of_flat (fun _ => trivial) rfl rfl rfl⟩
    · obtain ⟨hfiled, hrestored⟩ := hok snap state hloads
      exact ⟨_, _, .of_restored h hfiled hrestored hruntime hpositions⟩
  obtain ⟨live₀, ratio', hloaded⟩ := hloaded
  have hboot : (Wallet.boot init clock w.stores redisUp).OnTerms symbol live₀ ratio' P := by
    unfold Wallet.boot Wallet.bootstrap
    split
    · exact hloaded.emit_other (by simp [Payload.target?])
    · exact hloaded
  exact ⟨ratio', hboot.aligned, rfl, hboot.ratio, hboot.terms, hboot.quantity, hboot.targets,
    hboot.entry⟩

end Restarting

/-! ## Paths -/

/-- The world, and the best move that the marks of the path made. -/
structure PathState where
  world : World
  best : Option Decimal

/-- What happens on a path: a mark, a partial close, an adjusted stop, or a
restart from what the stores hold. -/
inductive PathStep where
  | mark (u : MarkUpdate)
  | partialClose (markPrice pct : Decimal) (reason : String) (tpLabel : Option String)
      (fill : Option ExternalFill)
  | adjustSl (newSlPrice : Decimal)
  | restart (clock : Nat → Nat) (redisUp live : Bool)

section Paths

variable (rules : ExitRules) (init : WalletInit) (symbol : Symbol)

def PathState.step (p : PathState) : PathStep → PathState
  | .mark u =>
      { world := final (updatePositions env rules symbol u) p.world
        best := p.world.wallet.bestAfter symbol p.best u.markPrice }
  | .partialClose markPrice pct reason tpLabel fill =>
      { p with
        world := final (CryptoTrader.partialClose env .none symbol markPrice pct reason tpLabel fill)
          p.world }
  | .adjustSl newSlPrice => { p with world := final (adjustSlPrice symbol newSlPrice) p.world }
  | .restart clock redisUp live =>
      let w := Wallet.boot init clock p.world.wallet.stores redisUp
      { p with world := { p.world with wallet := { w with liveExecution := live } } }

/-- An exit is not missed, and a restart does not set the peak back. -/
def PathStep.Ok (p : PathState) : PathStep → Prop
  | .mark u => MarkOk env rules symbol u p.world
  | .restart _ redisUp _ => RestartOk init redisUp symbol p.world.wallet
  | _ => True

/-- A mark leaves the position disciplined, if it leaves it open; a partial close
leaves the best price and the peak. -/
def PathStep.Fine (p : PathState) (step : PathStep) : Prop :=
  let p' := p.step env rules init symbol step
  match step with
  | .mark u => ∀ pos, p'.world.wallet.getOpenPosition symbol = some pos →
      pos.Disciplined rules p'.world.wallet p'.best u.markPrice
  | .partialClose _ _ _ _ _ => ∀ pos pos', p.world.wallet.getOpenPosition symbol = some pos →
      p'.world.wallet.getOpenPosition symbol = some pos' →
        pos'.highestPrice = pos.highestPrice ∧ pos'.peakPnlPct = pos.peakPnlPct
  | _ => True

/-- The position on the symbol, if there is one, remembers the best move. -/
def PathState.Inv (p : PathState) : Prop :=
  ∃ live ratio, p.world.wallet.OnTerms symbol live ratio (fun t => t.Remembers p.best)

end Paths

section Paths

variable {rules : ExitRules} {init : WalletInit} {symbol : Symbol} {p : PathState}

/-- A partial close leaves every property of the terms but the quantity. -/
theorem partialClose_terms_keeps {live : Bool} {ratio : Decimal} {P : PositionTerms → Prop}
    {s : World} (hs : s.wallet.OnTerms symbol live ratio P)
    (hfree : ∀ t quantity, P t → P { t with quantity }) (markPrice pct : Decimal) (reason : String)
    (tpLabel : Option String) (fill : Option ExternalFill) :
    (final (partialClose env .none symbol markPrice pct reason tpLabel fill)
      s).wallet.OnTerms symbol live ratio P :=
  (wp_final (P := fun s' : World => s'.wallet.OnTerms symbol live ratio P) _).mp
    (World.wp_of_keeps (partialClose_keeps env (Wallet.OnTerms.stable symbol live ratio P)
      (Wallet.OnTerms.closedUnder symbol live ratio P) markPrice pct reason tpLabel fill
      (fun _ fill h => h.bookPartial hfree markPrice pct reason tpLabel fill)) hs)

/-- One step keeps the memory of the best move, and is fine if nothing is missed. -/
theorem PathState.Inv.step (h : p.Inv symbol) (step : PathStep)
    (hok : step.Ok env rules init symbol p) :
    (p.step env rules init symbol step).Inv symbol ∧ step.Fine env rules init symbol p := by
  obtain ⟨live, ratio, hterms⟩ := h
  cases step with
  | mark u =>
      have hsettled := updatePositions_settled env u hterms hok
      refine ⟨⟨live, ratio, hsettled.held.mono (fun _ ht => ht.1.remembers)⟩, ?_⟩
      exact fun pos hpos => hsettled.disciplined hok.1 hpos
  | partialClose markPrice pct reason tpLabel fill =>
      refine ⟨⟨live, ratio, ?_⟩, fun pos pos' hpos hpos' => ?_⟩
      · exact partialClose_terms_keeps env hterms
          (fun t quantity ht => ht.congr quantity t.slPrice) markPrice pct reason tpLabel fill
      · have hpeaks : p.world.wallet.OnTerms symbol live ratio (fun t =>
            t.highestPrice = pos.highestPrice ∧ t.peakPnlPct = pos.peakPnlPct) := by
          refine { hterms with terms := fun pos₁ hpos₁ => ?_ }
          rw [hpos] at hpos₁
          obtain rfl := Option.some.inj hpos₁
          exact ⟨rfl, rfl⟩
        exact (partialClose_terms_keeps env hpeaks (fun _ _ ht => ht) markPrice pct reason tpLabel
          fill).terms pos' hpos'
  | adjustSl newSlPrice =>
      refine ⟨⟨live, ratio, (hterms.adjustSlPrice newSlPrice).mono ?_⟩, trivial⟩
      rintro t ⟨-, slPrice, ht⟩
      exact ht.congr t.quantity t.slPrice
  | restart clock redisUp live' =>
      obtain ⟨ratio', hrestarted⟩ := hterms.restart hok clock live'
      exact ⟨⟨live', ratio', hrestarted⟩, trivial⟩

/-- **Along every path on which no exit is missed and no restart sets the peak
back, a position that a mark leaves open is disciplined.** -/
theorem exits_disciplined {s : World} {live : Bool} {ratio : Decimal}
    (hstart : s.wallet.OnTerms symbol live ratio (fun t => 0 < t.entryPrice)) (path : List PathStep)
    (hok : AllOk (PathState.step env rules init symbol) (PathStep.Ok env rules init symbol)
      ⟨s, none⟩ path) :
    AllOk (PathState.step env rules init symbol) (PathStep.Fine env rules init symbol)
      ⟨s, none⟩ path := by
  have hinv : PathState.Inv symbol ⟨s, none⟩ :=
    ⟨live, ratio, hstart.mono (fun _ ht => ⟨ht, by simp, by simp⟩)⟩
  exact AllOk.of_inv path
    (fun (p : PathState) step _ (hp : p.Inv symbol) hok => (hp.step env step hok).symm) hinv hok

end Paths

/-! ### A path that is disciplined and one that is not -/

/-- A mark that leads to no exit misses none. -/
theorem markOk_of_quiet {rules : ExitRules} {symbol : Symbol} {u : MarkUpdate} {s : World}
    (hmark : 0 < u.markPrice)
    (hquiet : (s.wallet.getOpenPosition symbol).all (fun pos =>
      (s.wallet.forcedExit rules (pos.updatePnl u.markPrice) u).isNone &&
        (s.wallet.playbookExit rules (pos.updatePnl u.markPrice) u).isNone) = true) :
    MarkOk env rules symbol u s := by
  refine ⟨hmark, fun pos hpos => ?_⟩
  rw [hpos, Option.all_some, Bool.and_eq_true, Option.isNone_iff_eq_none,
    Option.isNone_iff_eq_none] at hquiet
  dsimp only
  rw [hquiet.1, hquiet.2]
  trivial

/-- Ten units bought on paper, with a stop at 95. -/
def demoHolding : World := (paperWorld.step demoEnv {} demoOpen).world

def demoTick (markPrice : Decimal) : PathStep :=
  .mark { markPrice := markPrice, candleCloseTime := 0 }

/-- Its stop is on the losing side, and it has no targets. -/
theorem demoHolding_terms :
    demoHolding.wallet.OnTerms demoSymbol false demoInit.maintenanceMarginRatio (fun t =>
      0 < t.entryPrice ∧ 0 < t.quantity ∧ t.side.gain t.entryPrice t.slPrice < 0) := by
  have hvalued := MarkedWorld.step_valued demoEnv (Wallet.boot_valued demoInit id false _) demoOpen
    demoOpen_clean
  have hterms : (demoHolding.wallet.getOpenPosition demoSymbol).all (fun pos =>
      decide (0 < pos.entryPrice) && decide (0 < pos.remainingQuantity) &&
        decide (pos.side.gain pos.entryPrice pos.slPrice < 0) && pos.tpLevels.isEmpty) = true := by
    decide +kernel
  have hentry : (demoHolding.wallet.runtime.openPositions.get? demoSymbol).all
      (fun data => data.tpLevels.isEmpty) = true := by
    decide +kernel
  refine ⟨hvalued.aligned, by decide +kernel, by decide +kernel, fun pos hpos => ?_,
    fun pos hpos => ?_, fun pos hpos => ?_, fun pos hpos data hdata => ?_⟩
  all_goals
    rw [hpos] at hterms
    simp only [Option.all_some, Bool.and_eq_true, decide_eq_true_eq, List.isEmpty_iff] at hterms
  · exact ⟨hterms.1.1.1, hterms.1.1.2, hterms.1.2⟩
  · exact hterms.1.1.2.le
  · intro tp htp
    rw [hterms.2] at htp
    cases htp
  · intro tp htp
    rw [hdata, Option.all_some, List.isEmpty_iff] at hentry
    rw [hentry] at htp
    cases htp

/-- Up 3%, half of it sold, the stop moved up. -/
theorem exits_disciplined_demo :
    AllOk (PathState.step demoEnv {} demoInit demoSymbol)
      (PathStep.Fine demoEnv {} demoInit demoSymbol) ⟨demoHolding, none⟩
      [demoTick 103, .partialClose 103 (1 / 2) "TRIM" none none, .adjustSl 101, demoTick 103] :=
  exits_disciplined demoEnv (demoHolding_terms.mono (fun _ ht => ht.1)) _
    ⟨markOk_of_quiet demoEnv (by decide +kernel) (by decide +kernel), trivial, trivial,
      markOk_of_quiet demoEnv (by decide +kernel) (by decide +kernel), trivial⟩

/-- Up 3% and restarted, the position stays open when a third of that is lost. -/
theorem exits_not_disciplined :
    ¬ ∀ (env : Env) (rules : ExitRules) (init : WalletInit) (symbol : Symbol) (s : World)
        (live : Bool) (ratio : Decimal) (path : List PathStep),
        s.wallet.OnTerms symbol live ratio (fun t =>
          0 < t.entryPrice ∧ 0 < t.quantity ∧ t.side.gain t.entryPrice t.slPrice < 0) →
        (∀ u, .mark u ∈ path → 0 < u.markPrice) →
          AllOk (PathState.step env rules init symbol) (PathStep.Fine env rules init symbol)
            ⟨s, none⟩ path := by
  intro h
  have hfine := h demoEnv {} demoInit demoSymbol demoHolding false demoInit.maintenanceMarginRatio
    [demoTick 103, .restart id false false, demoTick 102] demoHolding_terms ?_
  · have hlast : PathStep.Fine demoEnv {} demoInit demoSymbol
        (((⟨demoHolding, none⟩ : PathState).step demoEnv {} demoInit demoSymbol
          (demoTick 103)).step demoEnv {} demoInit demoSymbol (.restart id false false))
        (demoTick 102) := hfine.2.2.1
    let p := (((⟨demoHolding, none⟩ : PathState).step demoEnv {} demoInit demoSymbol
      (demoTick 103)).step demoEnv {} demoInit demoSymbol (.restart id false false)).step
        demoEnv {} demoInit demoSymbol (demoTick 102)
    have hfallen : (p.world.wallet.getOpenPosition demoSymbol).any (fun pos =>
        p.best.any (fun b => decide (2 / 100 ≤ b) && decide (pos.movePct 102 ≤ 75 / 100 * b))) =
          true := by
      decide +kernel
    obtain ⟨pos, hpos, hbest⟩ := (Option.any_eq_true _ _).mp hfallen
    obtain ⟨b, hb, htrail⟩ := (Option.any_eq_true _ _).mp hbest
    rw [Bool.and_eq_true, decide_eq_true_eq, decide_eq_true_eq] at htrail
    exact (hlast pos hpos).trail b hb htrail
  · intro u hu
    simp only [demoTick, List.mem_cons, PathStep.mark.injEq, List.not_mem_nil, or_false,
      reduceCtorEq, false_or] at hu
    rcases hu with rfl | rfl <;> decide +kernel

end CryptoTrader
