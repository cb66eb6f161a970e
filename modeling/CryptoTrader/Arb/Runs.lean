import CryptoTrader.Arb.Hedge

/-!
# Runs of the funding-arb manager

Ticks, the HALT file being made and removed, and restarts.  A run that is never
killed keeps the book in agreement with the venues exactly as long as no tick
goes on unwinding the record of an entry that bought no spot; one that is killed
also has to be killed at a safe place.
-/

namespace CryptoTrader.Arb

open CryptoTrader.Lib

/-- Venue orders are filled in full or not at all. -/
def ArbStep.Fills : ArbStep → Prop
  | .tick t => t.FullFills
  | _ => True

/-- The process is not killed in the step. -/
def ArbStep.Uninterrupted : ArbStep → Prop
  | .tick t => t.crashAt = none
  | _ => True

namespace ArbWorld

/-- No tick goes on unwinding a record without spot and buys the perp back. -/
def Resuming (cfg : ArbConfig) (w : ArbWorld) : ArbStep → Prop
  | .tick tick => w.Resumes cfg tick
  | _ => True

/-- The process is not killed between an executed order and its snapshot. -/
def KilledSafely (cfg : ArbConfig) (w : ArbWorld) : ArbStep → Prop
  | .tick tick =>
      ∀ place, tick.crashAt = some place → (∃ w', onSignalTick cfg tick w = .error .crashed w') →
        place.Safe
  | _ => True

/-- What the step trades is filled exactly. -/
def FillsStep (cfg : ArbConfig) (w : ArbWorld) : ArbStep → Prop
  | .tick tick => w.FillsTick cfg tick
  | _ => True

section Steps

variable {cfg : ArbConfig} {w : ArbWorld}

theorem fillsStep_of_fills {a : ArbStep} (h : a.Fills) : w.FillsStep cfg a := by
  cases a with
  | tick tick => exact Tick.FullFills.fillsTick h
  | setHalt halt => trivial
  | restart => trivial

theorem Settled.restart (h : w.Settled) : w.restart.Settled :=
  Recoverable.restart ⟨w.book, h.stored, h.agrees⟩

/-- A step that resumes no empty hedge, and is killed safely if at all, settles. -/
theorem Settled.step (h : w.Settled) {a : ArbStep} (hfills : w.FillsStep cfg a)
    (hresuming : w.Resuming cfg a) (hkilled : w.KilledSafely cfg a) : (w.step cfg a).Settled := by
  cases a with
  | tick tick =>
      have hends := onSignalTick_settles hfills h hresuming
      simp only [ArbWorld.step]
      cases hrun : onSignalTick cfg tick w with
      | ok _ w' => exact wp_ok hends hrun
      | error stop w' =>
          cases stop with
          | raised e => exact wp_error hends hrun
          | crashed =>
              obtain ⟨place, hplace, hsafe⟩ := wp_error hends hrun
              exact (hsafe (hkilled place hplace ⟨w', hrun⟩)).restart
  | setHalt halt => exact ⟨h.stored, h.agrees⟩
  | restart => exact h.restart

theorem killedSafely_of_uninterrupted {a : ArbStep} (h : a.Uninterrupted) :
    w.KilledSafely cfg a := by
  cases a with
  | tick tick =>
      intro place hplace
      cases hplace.symm.trans h
  | setHalt halt => trivial
  | restart => trivial

/-! ## The resumed entry -/

/-- Selling spot that is not held, or leaving it on record, is wrong either way. -/
theorem unwindSpot_disagrees {tick : Tick} (hfull : tick.FullFills) (hkilled : tick.crashAt = none)
    {arb : ArbPosition} (hsized : arb.Sized) (hstate : arb.state = .unwindingSpot)
    (h : w.At (some arb) (some arb) 0 0) (reason : String) :
    wp (unwindSpot tick arb reason) (fun _ w' => ¬ w'.Agrees)
      (fun stop w' => (∃ e, stop = .raised e) ∧ ¬ w'.Agrees) w := by
  have hwrong : ¬ w.Agrees := by
    unfold Agrees
    rw [h.book_eq, h.perp_eq, h.spot_eq]
    rintro ⟨hpos, -, hexposure⟩
    rw [hstate] at hexposure
    exact hpos.ne hexposure.2
  unfold unwindSpot
  rw [wp_bind]
  refine wp_read _ (fun perpExit _ => ?_) (fun e _ => ⟨⟨e, rfl⟩, hwrong⟩)
  rw [wp_bind, wp_catching, wp_bind]
  refine wp_placeOrder (hfull _) _ _ _ ?_ ?_ ?_
  · intro hcrash
    cases hcrash.symm.trans hkilled
  · intro order fills _
    have h₁ := h.trade_spot (PositionSide.short.sign * arb.spotQty) fills
    rw [wp_pure]
    refine wp_close _ _ _ h₁ (fun o ho => by rw [← Option.some.inj ho]) ?_ ?_
    · intro write w₂ hcrash _
      cases hcrash.symm.trans hkilled
    · intro w₂ h₂
      unfold Agrees
      rw [h₂.book_eq, h₂.perp_eq, h₂.spot_eq]
      rintro ⟨-, hsold⟩
      rw [hsized.2] at hsold
      exact hsized.1.ne' (by simpa [PositionSide.sign] using hsold)
  · intro e _
    exact hwrong

/-- A tick that resumes an entry without spot, and buys the perp back. -/
theorem resumed_disagrees {tick : Tick} (hfull : tick.FullFills) (hkilled : tick.crashAt = none)
    (h : w.Settled) (hresumes : ¬ w.Resumes cfg tick) : ¬ (w.step cfg (.tick tick)).Agrees := by
  unfold Resumes Tick.Unwinds at hresumes
  push Not at hresumes
  obtain ⟨henabled, hrunning, arb, hbook, hstate, hspot, hbought⟩ := hresumes
  have hat := h.at
  have hagrees := h.agrees
  unfold Agrees at hagrees
  rw [hbook] at hat hagrees
  obtain ⟨hpos, hsame, hexposure⟩ := hagrees
  rw [hstate] at hexposure
  rw [hexposure.1, hspot] at hat
  have hends : wp (onSignalTick cfg tick) (fun _ w' => ¬ w'.Agrees)
      (fun stop w' => (∃ e, stop = .raised e) ∧ ¬ w'.Agrees) w := by
    unfold onSignalTick
    rw [if_neg (not_not.mpr henabled), wp_catching, wp_bind, wp_get]
    simp only [hbook, hrunning, hstate, Bool.false_eq_true, if_false, reduceCtorEq]
    refine wp_mono (Q := fun _ w' => ¬ w'.Agrees)
      (E := fun stop w' => (∃ e, stop = .raised e) ∧ ¬ w'.Agrees) ?_ (fun _ _ h => h) ?_
    · unfold resolve
      rw [hstate]
      unfold unwind
      rw [if_pos (Or.inr hstate), wp_bind]
      refine wp_update _ _ hat (fun o ho => by rw [← Option.some.inj ho]) ?_ ?_
      · intro write w₁ hcrash _
        cases hcrash.symm.trans hkilled
      · intro w₁ h₁
        rw [wp_bind, wp_catching, wp_bind]
        refine wp_placeOrder (hfull _) _ _ _ ?_ ?_ ?_
        · intro hcrash
          cases hcrash.symm.trans hkilled
        · intro order fills _
          have h₂ := h₁.trade_perp (PositionSide.long.sign * arb.perpQty) fills
          have hflat : -arb.perpQty + PositionSide.long.sign * arb.perpQty = 0 := by
            simp [PositionSide.sign]
          rw [hflat] at h₂
          rw [wp_pure, if_pos rfl, wp_bind]
          refine wp_update _ _ h₂ (fun o ho => by rw [← Option.some.inj ho]) ?_ ?_
          · intro write w₃ hcrash _
            cases hcrash.symm.trans hkilled
          · intro w₃ h₃
            have hsized : ArbPosition.Sized { arb with state := .unwindingSpot } := ⟨hpos, hsame⟩
            exact unwindSpot_disagrees hfull hkilled hsized rfl h₃ _
        · intro e herror
          exact absurd herror (hbought e)
    · intro stop w' h'
      obtain ⟨⟨e, rfl⟩, hwrong⟩ := h'
      exact hwrong
  simp only [ArbWorld.step]
  cases hrun : onSignalTick cfg tick w with
  | ok _ w' => exact wp_ok hends hrun
  | error stop w' =>
      obtain ⟨⟨e, rfl⟩, hwrong⟩ := wp_error hends hrun
      exact hwrong

theorem Settled.agrees_step_iff (h : w.Settled) {a : ArbStep} (hfills : a.Fills)
    (huninterrupted : a.Uninterrupted) : (w.step cfg a).Agrees ↔ w.Resuming cfg a := by
  constructor
  · intro hagrees
    cases a with
    | tick tick =>
        by_contra hresumes
        exact resumed_disagrees hfills huninterrupted h hresumes hagrees
    | setHalt halt => trivial
    | restart => trivial
  · intro hresuming
    exact (h.step (fillsStep_of_fills hfills) hresuming
      (killedSafely_of_uninterrupted huninterrupted)).agrees

end Steps

/-- The book is empty, and so are both accounts. -/
theorem fresh_settled : ({} : ArbWorld).Settled where
  stored :=
    { live := fun _ h => (by cases h)
      rows := fun _ _ _ => by simp }
  agrees := ⟨rfl, rfl⟩

/-- In a run that is never killed, the book agrees with the venues after every
step exactly if no tick goes on unwinding the record of an entry that bought no
spot and gets its perp back. -/
theorem book_agrees_iff (cfg : ArbConfig) (steps : List ArbStep)
    (hsteps : ∀ a ∈ steps, a.Fills ∧ a.Uninterrupted) :
    AllOk (step cfg) (fun w a => (w.step cfg a).Agrees) {} steps ↔
      AllOk (step cfg) (Resuming cfg) {} steps := by
  have hiff : ∀ w, ∀ a ∈ steps, Settled w → ((w.step cfg a).Agrees ↔ w.Resuming cfg a) :=
    fun w a ha h => h.agrees_step_iff (hsteps a ha).1 (hsteps a ha).2
  have hkeep : ∀ w, ∀ a ∈ steps, Settled w → (w.step cfg a).Agrees → (w.step cfg a).Settled := by
    intro w a ha h hagrees
    exact h.step (fillsStep_of_fills (hsteps a ha).1) ((hiff w a ha h).mp hagrees)
      (killedSafely_of_uninterrupted (hsteps a ha).2)
  exact AllOk.congr steps hiff hkeep fresh_settled

/-! ### Two ticks that enter and leave, and an entry that is resumed -/

/-- Venues that fill at 100 and reject the orders listed. -/
def demoVenues (rejected : List (Leg × PositionSide)) (leg : Leg) (side : PositionSide)
    (qty : Decimal) : Outcome :=
  if (leg, side) ∈ rejected then ⟨0, .error (.runtimeError "rejected")⟩ else ⟨qty, .ok ⟨"o1", 100⟩⟩

/-- A tick at a mark of 100. -/
def demoTick (fundingRate : Decimal) (rejected : List (Leg × PositionSide))
    (crashAt : Option Place) : Tick :=
  { fundingRate := .ok fundingRate
    basisMark := .ok 100
    basisSpotMark := .ok 100
    sizeMark := .ok 100
    accrualMark := .ok 100
    exitMark := .ok 100
    now := 0
    bookNow := 0
    arbId := "arb-1"
    place := demoVenues rejected
    crashAt := crashAt }

theorem demoTick_fullFills (fundingRate : Decimal) (rejected : List (Leg × PositionSide))
    (crashAt : Option Place) : (demoTick fundingRate rejected crashAt).FullFills := by
  intro qty leg side
  simp only [demoTick, demoVenues]
  split
  · rfl
  · rfl

def demoArbConfig : ArbConfig := { enabled := true, notional := 1000 }

/-- A record in a known state that is not an unwinding perp may be resumed. -/
theorem resumes_of_state {cfg : ArbConfig} {w : ArbWorld} (state : ArbState) (tick : Tick)
    (hbook : w.book.map ArbPosition.state = some state) (hstate : state ≠ .unwindingPerp) :
    w.Resumes cfg tick := by
  intro _ _ arb harb hunwinding
  rw [harb, Option.map_some, hunwinding] at hbook
  exact absurd (Option.some.inj hbook).symm hstate

theorem resumes_of_none {cfg : ArbConfig} {w : ArbWorld} (tick : Tick) (hbook : w.book = none) :
    w.Resumes cfg tick := by
  intro _ _ arb harb
  cases hbook.symm.trans harb

/-- Enter at a high funding rate, unwind at a low one. -/
theorem demoRoundTrip_agrees :
    AllOk (step demoArbConfig) (fun w a => (w.step demoArbConfig a).Agrees) {}
      [.tick (demoTick (5 / 10000) [] none), .tick (demoTick 0 [] none)] := by
  refine (book_agrees_iff demoArbConfig _ ?_).mpr
    ⟨resumes_of_none _ rfl, resumes_of_state .hedged _ (by decide +kernel) (by decide), trivial⟩
  simp only [List.forall_mem_cons]
  exact ⟨⟨demoTick_fullFills _ _ _, rfl⟩, ⟨demoTick_fullFills _ _ _, rfl⟩, by simp⟩

/-- The spot leg and the rollback fail, HALT is cleared, and the next tick buys the
perp back and sells spot that nobody has. -/
def demoResumed : List ArbStep :=
  [.tick (demoTick (5 / 10000) [(.spot, .long), (.perp, .long)] none), .setHalt false,
    .tick (demoTick (5 / 10000) [] none)]

theorem not_book_agrees_resumed :
    ¬ ∀ (cfg : ArbConfig) (steps : List ArbStep), (∀ a ∈ steps, a.Fills ∧ a.Uninterrupted) →
      AllOk (step cfg) (fun w a => (w.step cfg a).Agrees) {} steps := by
  intro h
  have hsteps : ∀ a ∈ demoResumed, a.Fills ∧ a.Uninterrupted := by
    simp only [demoResumed, List.forall_mem_cons]
    exact ⟨⟨demoTick_fullFills _ _ _, rfl⟩, ⟨trivial, trivial⟩, ⟨demoTick_fullFills _ _ _, rfl⟩,
      by simp⟩
  have hagrees : (demoResumed.foldl (step demoArbConfig) {}).Agrees :=
    (h demoArbConfig demoResumed hsteps).2.2.1
  have hend : (demoResumed.foldl (step demoArbConfig) {}).book = none ∧
      (demoResumed.foldl (step demoArbConfig) {}).spot = -10 := by decide +kernel
  unfold Agrees at hagrees
  rw [hend.1] at hagrees
  exact absurd (hend.2.symm.trans hagrees.2) (by norm_num)

/-! ## Crashes -/

/-- Killed anywhere but between an executed order and its snapshot, in a tick that
resumes no entry without spot. -/
def Survives (cfg : ArbConfig) (w : ArbWorld) (a : ArbStep) : Prop :=
  a.Fills ∧ w.Resuming cfg a ∧ w.KilledSafely cfg a

/-- The manager knows of the arb that has an exposure, each of its orders has been
executed once at most, and without an arb both legs are flat. -/
structure Recovers (w : ArbWorld) : Prop where
  known : w.perp ≠ 0 ∨ w.spot ≠ 0 → w.book.isSome
  once : ∀ arb, w.book = some arb →
    (w.perp = 0 ∨ w.perp = -arb.perpQty) ∧ (w.spot = 0 ∨ w.spot = arb.spotQty)
  flat : w.book = none → w.perp = 0 ∧ w.spot = 0

theorem Agrees.recovers {w : ArbWorld} (h : w.Agrees) : w.Recovers := by
  unfold Agrees at h
  cases hbook : w.book with
  | none =>
      rw [hbook] at h
      refine ⟨?_, ?_, fun _ => h⟩
      · rintro (hperp | hspot)
        · exact absurd h.1 hperp
        · exact absurd h.2 hspot
      · intro arb ha
        cases hbook.symm.trans ha
  | some arb =>
      rw [hbook] at h
      obtain ⟨-, hsame, hexposure⟩ := h
      have hknown : w.book.isSome := by rw [hbook, Option.isSome_some]
      refine ⟨fun _ => hknown, ?_, fun hnone => by simp [hnone] at hknown⟩
      intro a ha
      obtain rfl := Option.some.inj (hbook.symm.trans ha)
      rw [hsame]
      cases hstate : arb.state with
      | perpOnly =>
          rw [hstate] at hexposure
          exact ⟨Or.inr hexposure.1, Or.inl hexposure.2⟩
      | hedged =>
          rw [hstate] at hexposure
          exact ⟨Or.inr hexposure.1, Or.inr hexposure.2⟩
      | unwindingPerp =>
          rw [hstate] at hexposure
          exact ⟨Or.inr hexposure.1, hexposure.2⟩
      | unwindingSpot =>
          rw [hstate] at hexposure
          exact ⟨Or.inl hexposure.1, Or.inr hexposure.2⟩
      | placingPerp =>
          rw [hstate] at hexposure
          exact hexposure.elim
      | closed =>
          rw [hstate] at hexposure
          exact hexposure.elim

/-- A manager that has been restarted as often as one likes, each time from a safe
place, knows what is open and repeats no order. -/
theorem crash_recovers (cfg : ArbConfig) (w : ArbWorld)
    (h : Reaches (step cfg) (Survives cfg) {} w) : w.Recovers := by
  have hsettled : w.Settled :=
    h.invariant fresh_settled (fun _ _ hs ha => hs.step (fillsStep_of_fills ha.1) ha.2.1 ha.2.2)
  exact hsettled.agrees.recovers

/-- Killed before the spot order is sent: the restarted manager completes the
hedge. -/
theorem demoKilled_recovers :
    (([.tick (demoTick (5 / 10000) [] (some .buySpot)), .tick (demoTick (5 / 10000) [] none)] :
      List ArbStep).foldl (step demoArbConfig) {}).Recovers := by
  refine crash_recovers demoArbConfig _ (Reaches.start.foldl _ ⟨⟨?_, ?_, ?_⟩, ⟨?_, ?_, ?_⟩, trivial⟩)
  · exact demoTick_fullFills _ _ _
  · exact resumes_of_none _ rfl
  · intro place hplace _
    obtain rfl := Option.some.inj hplace
    trivial
  · exact demoTick_fullFills _ _ _
  · exact resumes_of_state .perpOnly _ (by decide +kernel) (by decide)
  · intro place hplace
    cases hplace

/-- Killed between the short and its record. -/
def demoForgotten : List ArbStep := [.tick (demoTick (5 / 10000) [] (some (.opening .emit)))]

theorem not_crash_recovers_opening :
    ¬ ∀ (cfg : ArbConfig) (steps : List ArbStep), (∀ a ∈ steps, a.Fills) →
      (steps.foldl (step cfg) {}).Recovers := by
  intro h
  have hsteps : ∀ a ∈ demoForgotten, a.Fills := by
    simp only [demoForgotten, List.forall_mem_cons]
    exact ⟨demoTick_fullFills _ _ _, by simp⟩
  have hend : (demoForgotten.foldl (step demoArbConfig) {}).book = none ∧
      (demoForgotten.foldl (step demoArbConfig) {}).perp = -10 := by decide +kernel
  have hflat := ((h demoArbConfig demoForgotten hsteps).flat hend.1).1
  exact absurd (hend.2.symm.trans hflat) (by norm_num)

end ArbWorld

end CryptoTrader.Arb
