import CryptoTrader.Arb.Exposure

/-!
# Every tick keeps the book

What each function of the manager leaves behind, whether it returns, raises, or
the process is killed in it.
-/

namespace CryptoTrader.Arb

open CryptoTrader.Lib

/-- No executed order is waiting for its snapshot here. -/
def Place.Safe : Place → Prop
  | .opening _ | .opened _ | .rolledBack _ | .rollbackClosed _ | .perpDone _ | .unwound _
  | .completed _ => False
  | _ => True

/-- How a tick may end early: settled, or killed, and recoverable if the place was
safe. -/
def Tick.Lands (tick : Tick) : Stop → ArbWorld → Prop
  | .raised _, w => w.Settled
  | .crashed, w => ∃ place, tick.crashAt = some place ∧ (place.Safe → w.Recoverable)

section Functions

variable {cfg : ArbConfig} {tick : Tick} {w : ArbWorld} {arb old : ArbPosition}
  {record book : Option ArbPosition}

theorem Tick.lands_crashed {place : Place} (hcrash : tick.crashAt = some place)
    (h : place.Safe → w.Recoverable) : tick.Lands .crashed w :=
  ⟨place, hcrash, h⟩

/-- The legs of an arb are of one positive size. -/
def ArbPosition.Sized (arb : ArbPosition) : Prop := 0 < arb.perpQty ∧ arb.spotQty = arb.perpQty

theorem ArbPosition.Sized.spot (h : arb.Sized) (hfills : tick.FillsExactly arb.perpQty) :
    tick.FillsExactly arb.spotQty := by
  rw [h.2]
  exact hfills

/-- A rollback starts from a naked short that is on record. -/
theorem rollbackPerp_settles (hfills : tick.FillsExactly arb.perpQty) (hsized : arb.Sized)
    (h : w.At (some old) book (-arb.perpQty) 0) (hid : old.arbId = arb.arbId)
    (hold : old.Accounts (-arb.perpQty) 0) :
    wp (rollbackPerp tick arb) (fun _ w' => w'.Settled) tick.Lands w := by
  have hids : ∀ o, some old = some o → o.arbId = arb.arbId := by
    intro o ho
    rw [← Option.some.inj ho, hid]
  unfold rollbackPerp
  rw [wp_bind]
  refine wp_update _ _ h hids ?_ ?_
  · intro write w₁ hcrash h₁
    exact Tick.lands_crashed hcrash (fun _ => h₁.recoverable hold)
  · intro w₁ h₁
    have hunwinding : Accounts ({ arb with state := .unwindingPerp } : ArbPosition).open?
        (-arb.perpQty) 0 := ⟨hsized.1, hsized.2, rfl, Or.inl rfl⟩
    rw [wp_bind, wp_catching, wp_bind]
    refine wp_placeOrder hfills _ _ _ ?_ ?_ ?_
    · intro hcrash
      exact Tick.lands_crashed hcrash (fun _ => h₁.recoverable hunwinding)
    · intro order fills _
      have h₂ := h₁.trade_perp (PositionSide.long.sign * arb.perpQty) fills
      have hflat : -arb.perpQty + PositionSide.long.sign * arb.perpQty = 0 := by
        simp [PositionSide.sign]
      rw [hflat] at h₂
      rw [wp_pure, if_pos rfl, wp_bind]
      refine wp_update _ _ h₂ (fun o ho => by rw [← Option.some.inj ho]) ?_ ?_
      · intro write w₃ hcrash _
        exact Tick.lands_crashed hcrash (fun hsafe => hsafe.elim)
      · intro w₃ h₃
        refine wp_close _ _ _ h₃ (fun o ho => by rw [← Option.some.inj ho]) ?_ ?_
        · intro write w₄ hcrash _
          exact Tick.lands_crashed hcrash (fun hsafe => hsafe.elim)
        · intro w₄ h₄
          exact h₄.settled ⟨rfl, rfl⟩
    · intro e _
      have h₂ : ({ w₁ with halt := true } : ArbWorld).At _ _ (-arb.perpQty) 0 :=
        ⟨h₁.stored, h₁.book_eq, h₁.perp_eq, h₁.spot_eq⟩
      exact h₂.settled hunwinding

/-- The spot leg of an entry, with the short on record. -/
theorem enterSpot_settles (hfills : tick.FillsExactly arb.perpQty) (hsized : arb.Sized)
    (hstate : arb.state = .perpOnly) (h : w.At (some arb) book (-arb.perpQty) 0) :
    wp (enterSpot tick arb) (fun _ w' => w'.Settled) tick.Lands w := by
  have honly : arb.Accounts (-arb.perpQty) 0 := by
    refine ⟨hsized.1, hsized.2, ?_⟩
    rw [hstate]
    exact ⟨rfl, rfl⟩
  unfold enterSpot
  rw [wp_bind, wp_catching, wp_bind]
  refine wp_placeOrder (hsized.spot hfills) _ _ _ ?_ ?_ ?_
  · intro hcrash
    exact Tick.lands_crashed hcrash (fun _ => h.recoverable honly)
  · intro order fills _
    have h₁ := h.trade_spot (PositionSide.long.sign * arb.spotQty) fills
    rw [wp_pure]
    refine wp_update _ _ h₁ (fun o ho => by rw [← Option.some.inj ho]) ?_ ?_
    · intro write w₂ hcrash _
      exact Tick.lands_crashed hcrash (fun hsafe => hsafe.elim)
    · intro w₂ h₂
      refine h₂.settled ⟨hsized.1, hsized.2, rfl, ?_⟩
      rw [hsized.2]
      simp [PositionSide.sign]
  · intro e _
    exact rollbackPerp_settles hfills hsized h rfl honly

/-- The perp leg of an entry, from flat. -/
theorem enter_settles (hfills : tick.FillsExactly arb.perpQty) (hsized : arb.Sized)
    (h : w.At none none 0 0) :
    wp (enter tick arb) (fun _ w' => w'.Settled) tick.Lands w := by
  have hids : ∀ (arb o : ArbPosition), (none : Option ArbPosition) = some o → o.arbId = arb.arbId := by
    intro arb o ho
    cases ho
  unfold enter
  rw [wp_bind, wp_catching, wp_bind]
  refine wp_placeOrder hfills _ _ _ ?_ ?_ ?_
  · intro hcrash
    exact Tick.lands_crashed hcrash (fun _ => h.recoverable ⟨rfl, rfl⟩)
  · intro order fills _
    have h₁ := h.trade_perp (PositionSide.short.sign * arb.perpQty) fills
    have hshort : 0 + PositionSide.short.sign * arb.perpQty = -arb.perpQty := by
      simp [PositionSide.sign]
    rw [hshort] at h₁
    rw [wp_pure]
    dsimp only
    rw [wp_bind]
    refine wp_openRecord _ h₁ (by simp) (hids _) ?_ ?_
    · intro write w₂ hcrash _
      exact Tick.lands_crashed hcrash (fun hsafe => hsafe.elim)
    · intro w₂ h₂
      rw [wp_bind]
      refine wp_update _ _ h₂ (fun o ho => by rw [← Option.some.inj ho]) ?_ ?_
      · intro write w₃ hcrash h₃
        exact Tick.lands_crashed hcrash
          (fun _ => h₃.recoverable ⟨hsized.1, hsized.2, rfl, rfl⟩)
      · intro w₃ h₃
        exact enterSpot_settles hfills ⟨hsized.1, hsized.2⟩ rfl h₃
  · intro e _
    rw [wp_pure]
    refine wp_update _ _ h (hids _) ?_ ?_
    · intro write w₁ hcrash h₁
      exact Tick.lands_crashed hcrash (fun _ => h₁.recoverable ⟨rfl, rfl⟩)
    · intro w₁ h₁
      exact h₁.settled ⟨rfl, rfl⟩

/-- The feeds change nothing. -/
theorem wp_basis {Q : Decimal → ArbWorld → Prop} {E : Stop → ArbWorld → Prop}
    (hok : ∀ value, Q value w) (herror : ∀ e, E (.raised e) w) : wp (basis tick) Q E w := by
  unfold basis
  rw [wp_bind]
  refine wp_read _ (fun perp _ => ?_) (fun e _ => herror e)
  rw [wp_bind]
  refine wp_read _ (fun spot _ => ?_) (fun e _ => herror e)
  rw [wp_ite]
  exact ⟨fun _ => hok _, fun _ => hok _⟩

theorem maybeEnter_settles
    (hfills : ∀ mark, tick.sizeMark = .ok mark → tick.FillsExactly (sizeLegs cfg mark))
    (h : w.At none none 0 0) :
    wp (maybeEnter cfg tick) (fun _ w' => w'.Settled) tick.Lands w := by
  have hsettled : w.Settled := h.settled ⟨rfl, rfl⟩
  unfold maybeEnter
  rw [wp_bind]
  refine wp_read _ (fun fr _ => ?_) (fun _ _ => hsettled)
  rw [wp_bind]
  refine wp_basis (fun basis => ?_) (fun _ => hsettled)
  rw [wp_ite]
  refine ⟨fun _ => ?_, fun _ => hsettled⟩
  rw [wp_bind]
  refine wp_read _ (fun mark hmark => ?_) (fun _ _ => hsettled)
  rw [wp_ite]
  refine ⟨fun _ => hsettled, fun hqty => ?_⟩
  exact enter_settles (hfills mark hmark) ⟨not_le.mp hqty, rfl⟩ h

/-! ## Unwinding -/

/-- Selling the spot ends the arb. -/
theorem unwindSpot_settles (hfills : tick.FillsExactly arb.perpQty) (hsized : arb.Sized)
    (hstate : arb.state = .unwindingSpot) (h : w.At (some arb) (some arb) 0 arb.perpQty)
    (reason : String) : wp (unwindSpot tick arb reason) (fun _ w' => w'.Settled) tick.Lands w := by
  have haccounts : arb.Accounts 0 arb.perpQty := by
    refine ⟨hsized.1, hsized.2, ?_⟩
    rw [hstate]
    exact ⟨rfl, rfl⟩
  unfold unwindSpot
  rw [wp_bind]
  refine wp_read _ (fun perpExit _ => ?_) (fun _ _ => h.settled haccounts)
  rw [wp_bind, wp_catching, wp_bind]
  refine wp_placeOrder (hsized.spot hfills) _ _ _ ?_ ?_ ?_
  · intro hcrash
    exact Tick.lands_crashed hcrash (fun _ => h.recoverable haccounts)
  · intro order fills _
    have h₁ := h.trade_spot (PositionSide.short.sign * arb.spotQty) fills
    have hflat : arb.perpQty + PositionSide.short.sign * arb.spotQty = 0 := by
      rw [hsized.2]
      simp [PositionSide.sign]
    rw [hflat] at h₁
    rw [wp_pure]
    refine wp_close _ _ _ h₁ (fun o ho => by rw [← Option.some.inj ho]) ?_ ?_
    · intro write w₂ hcrash _
      exact Tick.lands_crashed hcrash (fun hsafe => hsafe.elim)
    · intro w₂ h₂
      exact h₂.settled ⟨rfl, rfl⟩
  · intro e _
    exact h.settled haccounts

/-- A record that may be unwound: not one of an entry without spot, unless its
perp cannot be bought back. -/
def Tick.Unwinds (tick : Tick) (arb : ArbPosition) (spot : Decimal) : Prop :=
  arb.state = .unwindingPerp → spot = 0 →
    ∃ e, (tick.place .perp .long arb.perpQty).result = .error e

theorem unwind_settles (hfills : tick.FillsExactly arb.perpQty) {perp spot : Decimal}
    (h : w.At (some arb) (some arb) perp spot) (haccounts : arb.Accounts perp spot)
    (hstate : arb.state ≠ .perpOnly) (hunwinds : tick.Unwinds arb spot) (reason : String) :
    wp (unwind tick arb reason) (fun _ w' => w'.Settled) tick.Lands w := by
  obtain ⟨hpos, hsame, hexposure⟩ := haccounts
  have hids : ∀ (a o : ArbPosition), a.arbId = arb.arbId → some arb = some o → o.arbId = a.arbId := by
    intro a o ha ho
    rw [← Option.some.inj ho, ha]
  unfold unwind
  rw [wp_ite]
  constructor
  · intro hperp
    have hshort : perp = -arb.perpQty := by
      rcases hperp with hs | hs
      · rw [hs] at hexposure
        exact hexposure.1
      · rw [hs] at hexposure
        exact hexposure.1
    have hheld : spot = 0 ∨ spot = arb.perpQty := by
      rcases hperp with hs | hs
      · rw [hs] at hexposure
        exact Or.inr hexposure.2
      · rw [hs] at hexposure
        exact hexposure.2
    have hunwinding : Accounts ({ arb with state := .unwindingPerp } : ArbPosition).open? perp spot :=
      ⟨hpos, hsame, hshort, hheld⟩
    rw [wp_bind]
    refine wp_update _ _ h (fun o ho => hids _ o rfl ho) ?_ ?_
    · intro write w₁ hcrash h₁
      exact Tick.lands_crashed hcrash (fun _ => h₁.recoverable ⟨hpos, hsame, hexposure⟩)
    · intro w₁ h₁
      rw [wp_bind, wp_catching, wp_bind]
      refine wp_placeOrder hfills _ _ _ ?_ ?_ ?_
      · intro hcrash
        exact Tick.lands_crashed hcrash (fun _ => h₁.recoverable hunwinding)
      · intro order fills hbought
        -- the buy-back returned, so the record was of a hedge
        have hspot : spot = arb.perpQty := by
          refine hheld.resolve_left (fun hnone => ?_)
          rcases hperp with hs | hs
          · rw [hs] at hexposure
            exact absurd (hexposure.2.symm.trans hnone) hpos.ne'
          · obtain ⟨e, herror⟩ := hunwinds hs hnone
            cases hbought.symm.trans herror
        have h₂ := h₁.trade_perp (PositionSide.long.sign * arb.perpQty) fills
        have hflat : perp + PositionSide.long.sign * arb.perpQty = 0 := by
          rw [hshort]
          simp [PositionSide.sign]
        rw [hflat, hspot] at h₂
        rw [wp_pure, if_pos rfl, wp_bind]
        refine wp_update _ _ h₂ (fun o ho => by rw [← Option.some.inj ho]) ?_ ?_
        · intro write w₃ hcrash _
          exact Tick.lands_crashed hcrash (fun hsafe => hsafe.elim)
        · intro w₃ h₃
          have hsized : ArbPosition.Sized { arb with state := .unwindingSpot } := ⟨hpos, hsame⟩
          have hfills : tick.FillsExactly
              ({ arb with state := .unwindingSpot } : ArbPosition).perpQty := hfills
          exact unwindSpot_settles hfills hsized rfl h₃ reason
      · intro e _
        have h₂ : ({ w₁ with halt := true } : ArbWorld).At _ _ perp spot :=
          ⟨h₁.stored, h₁.book_eq, h₁.perp_eq, h₁.spot_eq⟩
        exact h₂.settled hunwinding
  · intro hother
    push Not at hother
    have hspot : arb.state = .unwindingSpot := by
      cases hs : arb.state with
      | perpOnly => exact absurd hs hstate
      | hedged => exact absurd hs hother.1
      | unwindingPerp => exact absurd hs hother.2
      | unwindingSpot => rfl
      | placingPerp =>
          rw [hs] at hexposure
          exact hexposure.elim
      | closed =>
          rw [hs] at hexposure
          exact hexposure.elim
    rw [hspot] at hexposure
    rw [hexposure.1, hexposure.2] at h
    exact unwindSpot_settles hfills ⟨hpos, hsame⟩ hspot h reason

/-! ## A whole tick -/

/-- Funding is booked on a record that stays what it is. -/
theorem maybeApplyFunding_keeps {perp spot : Decimal} (h : w.At (some arb) (some arb) perp spot)
    (haccounts : arb.Accounts perp spot) (hstate : arb.state = .hedged) (fr : Decimal) :
    wp (maybeApplyFunding cfg tick arb fr)
      (fun a w' => a.state = .hedged ∧ a.perpQty = arb.perpQty ∧ a.Accounts perp spot ∧
        w'.At (some a) (some a) perp spot) tick.Lands w := by
  unfold maybeApplyFunding
  rw [wp_ite]
  refine ⟨fun _ => ⟨hstate, rfl, haccounts, h⟩, fun _ => ?_⟩
  rw [wp_bind]
  refine wp_read _ (fun mark _ => ?_) (fun _ _ => h.settled haccounts)
  unfold recordFunding
  dsimp only
  rw [wp_bind]
  refine wp_update _ _ h (fun o ho => by rw [← Option.some.inj ho]) ?_ ?_
  · intro write w₁ hcrash h₁
    exact Tick.lands_crashed hcrash (fun _ => h₁.recoverable haccounts)
  · intro w₁ h₁
    rw [ArbPosition.open?_of_ne (by simp [hstate])] at h₁
    exact ⟨hstate, rfl, haccounts, h₁⟩

theorem wp_evaluateExit {Q : Option String → ArbWorld → Prop} {E : Stop → ArbWorld → Prop}
    (fr : Decimal) (hok : ∀ reason, Q reason w) (herror : ∀ e, E (.raised e) w) :
    wp (evaluateExit cfg tick arb fr) Q E w := by
  unfold evaluateExit
  rw [wp_ite]
  refine ⟨fun _ => hok _, fun _ => ?_⟩
  rw [wp_ite]
  refine ⟨fun _ => hok _, fun _ => ?_⟩
  rw [wp_bind]
  refine wp_basis (fun basis => ?_) herror
  rw [wp_ite]
  exact ⟨fun _ => hok _, fun _ => hok _⟩

theorem manage_settles (hfills : tick.FillsExactly arb.perpQty) {perp spot : Decimal}
    (h : w.At (some arb) (some arb) perp spot) (haccounts : arb.Accounts perp spot)
    (hstate : arb.state = .hedged) :
    wp (manage cfg tick arb) (fun _ w' => w'.Settled) tick.Lands w := by
  unfold manage
  rw [wp_bind]
  refine wp_read _ (fun fr _ => ?_) (fun _ _ => h.settled haccounts)
  rw [wp_bind]
  refine wp_mono (maybeApplyFunding_keeps h haccounts hstate fr) ?_ (fun _ _ h => h)
  rintro a w₁ ⟨hhedged, hqty, haccounts₁, h₁⟩
  rw [← hqty] at hfills
  rw [wp_bind]
  refine wp_evaluateExit fr (fun reason => ?_) (fun _ => h₁.settled haccounts₁)
  cases reason with
  | none => exact h₁.settled haccounts₁
  | some reason =>
      exact unwind_settles hfills h₁ haccounts₁ (by simp [hhedged])
        (fun hs => by simp [hhedged] at hs) reason

/-- A record in the middle of its life is completed or unwound. -/
theorem resolve_settles (hfills : tick.FillsExactly arb.perpQty) {perp spot : Decimal}
    (h : w.At (some arb) (some arb) perp spot) (haccounts : arb.Accounts perp spot)
    (hunwinds : tick.Unwinds arb spot) :
    wp (resolve tick arb) (fun _ w' => w'.Settled) tick.Lands w := by
  have hsized : arb.Sized := ⟨haccounts.1, haccounts.2.1⟩
  unfold resolve
  cases hstate : arb.state with
  | perpOnly =>
      have hexposure := haccounts.2.2
      rw [hstate] at hexposure
      obtain ⟨rfl, rfl⟩ := hexposure
      dsimp only
      rw [wp_catching, wp_bind]
      refine wp_placeOrder (hsized.spot hfills) _ _ _ ?_ ?_ ?_
      · intro hcrash
        exact Tick.lands_crashed hcrash (fun _ => h.recoverable haccounts)
      · intro order fills _
        have h₁ := h.trade_spot (PositionSide.long.sign * arb.spotQty) fills
        refine wp_update _ _ h₁ (fun o ho => by rw [← Option.some.inj ho]) ?_ ?_
        · intro write w₂ hcrash _
          exact Tick.lands_crashed hcrash (fun hsafe => hsafe.elim)
        · intro w₂ h₂
          refine h₂.settled ⟨hsized.1, hsized.2, rfl, ?_⟩
          rw [hsized.2]
          simp [PositionSide.sign]
      · intro e _
        exact rollbackPerp_settles hfills hsized h rfl haccounts
  | unwindingPerp => exact unwind_settles hfills h haccounts (by simp [hstate]) hunwinds _
  | unwindingSpot => exact unwind_settles hfills h haccounts (by simp [hstate]) hunwinds _
  | hedged => exact h.settled haccounts
  | placingPerp =>
      have hexposure := haccounts.2.2
      rw [hstate] at hexposure
      exact hexposure.elim
  | closed => exact h.settled haccounts

/-- The tick does not go on unwinding the record of an entry that bought no spot,
unless it cannot buy the perp back. -/
def ArbWorld.Resumes (cfg : ArbConfig) (w : ArbWorld) (tick : Tick) : Prop :=
  cfg.enabled = true → w.halt = false → ∀ arb, w.book = some arb → tick.Unwinds arb w.spot

/-- The quantity a tick may trade is filled exactly: that of the record, or the one
it enters with. -/
def ArbWorld.FillsTick (cfg : ArbConfig) (w : ArbWorld) (tick : Tick) : Prop :=
  match w.book with
  | none => ∀ mark, tick.sizeMark = .ok mark → tick.FillsExactly (sizeLegs cfg mark)
  | some arb => tick.FillsExactly arb.perpQty

theorem Tick.FullFills.fillsTick (h : tick.FullFills) : w.FillsTick cfg tick := by
  unfold ArbWorld.FillsTick
  cases w.book with
  | none => exact fun mark _ => h _
  | some arb => exact h _

theorem onSignalTick_settles (hfills : w.FillsTick cfg tick) (h : w.Settled)
    (hresumes : w.Resumes cfg tick) :
    wp (onSignalTick cfg tick) (fun _ w' => w'.Settled) tick.Lands w := by
  have hat := h.at
  have hagrees := h.agrees
  unfold ArbWorld.Agrees at hagrees
  unfold ArbWorld.FillsTick at hfills
  unfold onSignalTick
  rw [wp_ite]
  refine ⟨fun _ => h, fun henabled => ?_⟩
  rw [not_not] at henabled
  rw [wp_catching, wp_bind, wp_get]
  refine wp_mono (Q := fun _ w' => w'.Settled) (E := tick.Lands) ?_ (fun _ _ h => h) ?_
  · cases hbook : w.book with
    | none =>
        rw [hbook] at hat hagrees hfills
        rw [hagrees.1, hagrees.2] at hat
        dsimp only
        rw [wp_ite]
        exact ⟨fun _ => h, fun _ => maybeEnter_settles hfills hat⟩
    | some arb =>
        rw [hbook] at hat hagrees hfills
        dsimp only at hfills ⊢
        rw [wp_ite]
        constructor
        · intro hhalt
          rw [wp_ite]
          refine ⟨fun hhedged => ?_, fun _ => h⟩
          exact unwind_settles hfills hat hagrees (by simp [hhedged])
            (fun hs => by simp [hhedged] at hs) _
        · intro hrunning
          rw [wp_ite]
          refine ⟨fun hhedged => manage_settles hfills hat hagrees hhedged, fun _ => ?_⟩
          exact resolve_settles hfills hat hagrees
            (hresumes henabled (by simpa using hrunning) arb hbook)
  · intro stop w' h'
    cases stop with
    | raised e => exact h'
    | crashed => exact h'

end Functions

end CryptoTrader.Arb
