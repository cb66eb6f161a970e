import CryptoTrader.Lib.Run
import CryptoTrader.Management.PolicyGuard

/-!
# Managed stops

What becomes of the stop when an action that is to tighten it is approved.  The
guard judges by the distance from the entry, which is the right way round only
while the stop lies on the losing side of the entry.
-/

namespace CryptoTrader

open CryptoTrader.Lib

/-- The stop that a decision leads to: that of the modified parameters, or its
own. -/
def PolicyDecision.newStop (policy : PolicyDecision) (decision : PositionManagementDecision) :
    Option PyFloat :=
  (policy.modifiedParams.getD decision.execution).newStopLoss

/-- The stop is no looser than the current one, if there is one, and the market
has not reached it. -/
def PositionSnapshot.HoldsAt (pos : PositionSnapshot) (stop : PyFloat) : Prop :=
  match pos.side with
  | .long => (pos.stopLoss ≠ 0 → PyFloat.le (.fin pos.stopLoss) stop) ∧
      PyFloat.lt stop (.fin pos.ltp)
  | .short => (pos.stopLoss ≠ 0 → PyFloat.le stop (.fin pos.stopLoss)) ∧
      PyFloat.lt (.fin pos.ltp) stop

/-- The current stop has been moved past the entry, into profit. -/
def PositionSnapshot.stopInProfit (pos : PositionSnapshot) : Prop :=
  match pos.side with
  | .long => pos.entryPrice < pos.stopLoss
  | .short => pos.stopLoss < pos.entryPrice

/-- The clamps put a proposed stop where it may go. -/
def PositionSnapshot.CanTighten (pos : PositionSnapshot) (newStop : PyFloat) : Prop :=
  if pos.fartherThanStop (pos.snapStop newStop) then ¬ pos.reaches (.fin pos.stopLoss)
  else newStop ≠ .nan ∧ (pos.reaches newStop → 0 < pos.ltp) ∧
    (pos.stopLoss = 0 ∨ ¬ pos.stopInProfit ∨ pos.snapStop newStop = .fin pos.stopLoss)

section Clamp

variable {pos : PositionSnapshot} {newStop : PyFloat} {action : PositionActionType}

/-- The current stop holds as long as the market has not reached it. -/
theorem PositionSnapshot.holdsAt_current :
    pos.HoldsAt (.fin pos.stopLoss) ↔ ¬ pos.reaches (.fin pos.stopLoss) := by
  unfold HoldsAt reaches
  cases pos.side with
  | long => simp
  | short => simp

/-- A number no farther from the entry than the stop. -/
theorem PositionSnapshot.not_farther_fin {c : Decimal} :
    ¬ pos.fartherThanStop (.fin c) ↔ |pos.entryPrice - c| ≤ |pos.entryPrice - pos.stopLoss| := by
  unfold fartherThanStop
  rw [PyFloat.distance_fin, PyFloat.lt_fin, not_lt]

/-- An infinite stop is farther from the entry than any other. -/
theorem PositionSnapshot.farther_of_infinite (hnan : newStop ≠ .nan)
    (hfin : ∀ c, newStop ≠ .fin c) : pos.fartherThanStop newStop := by
  unfold fartherThanStop
  cases newStop with
  | nan => exact absurd rfl hnan
  | fin c => exact absurd rfl (hfin c)
  | posInf => rfl
  | negInf => rfl

/-- Whether the market is short of the snapped stop. -/
theorem PositionSnapshot.snapStop_short_of_market {c : Decimal} (hsnap : pos.snapStop newStop = .fin c) :
    ¬ pos.reaches (.fin c) ↔ (pos.reaches newStop → 0 < pos.ltp) := by
  unfold snapStop at hsnap
  by_cases hreached : pos.reaches newStop
  · rw [if_pos hreached] at hsnap
    unfold reaches
    cases hside : pos.side with
    | long =>
        rw [hside] at hsnap
        cases hsnap
        simp only [PyFloat.le_fin, not_le]
        constructor
        · intro h _
          linarith
        · intro h
          have hltp := h (by unfold reaches at hreached; rwa [hside] at hreached)
          linarith
    | short =>
        rw [hside] at hsnap
        cases hsnap
        simp only [PyFloat.le_fin, not_le]
        constructor
        · intro h _
          linarith
        · intro h
          have hltp := h (by unfold reaches at hreached; rwa [hside] at hreached)
          linarith
  · rw [if_neg hreached] at hsnap
    subst hsnap
    exact ⟨fun _ h => absurd h hreached, fun _ => hreached⟩

/-- A stop no farther from the entry than the current one is no looser than it,
unless the current one is in profit. -/
theorem PositionSnapshot.no_looser_iff {c : Decimal} (hclose : ¬ pos.fartherThanStop (.fin c)) :
    (match pos.side with
      | .long => pos.stopLoss ≤ c
      | .short => c ≤ pos.stopLoss) ↔ ¬ pos.stopInProfit ∨ c = pos.stopLoss := by
  rw [not_farther_fin] at hclose
  have hbounds := abs_le.mp hclose
  unfold stopInProfit
  cases pos.side with
  | long =>
      dsimp only
      by_cases hprofit : pos.entryPrice < pos.stopLoss
      · rw [abs_of_neg (by linarith)] at hbounds
        constructor
        · intro h
          exact Or.inr (by linarith [hbounds.1])
        · rintro (h | h)
          · exact absurd hprofit h
          · exact h.ge
      · rw [abs_of_nonneg (by linarith [not_lt.mp hprofit])] at hbounds
        exact ⟨fun _ => Or.inl hprofit, fun _ => by linarith [hbounds.2]⟩
  | short =>
      dsimp only
      by_cases hprofit : pos.stopLoss < pos.entryPrice
      · rw [abs_of_pos (by linarith)] at hbounds
        constructor
        · intro h
          exact Or.inr (by linarith [hbounds.2])
        · rintro (h | h)
          · exact absurd hprofit h
          · exact h.le
      · rw [abs_of_nonpos (by linarith [not_lt.mp hprofit])] at hbounds
        exact ⟨fun _ => Or.inl hprofit, fun _ => by linarith [hbounds.1]⟩

/-- When a finite stop holds. -/
theorem PositionSnapshot.holdsAt_fin {c : Decimal} :
    pos.HoldsAt (.fin c) ↔
      (pos.stopLoss = 0 ∨ match pos.side with
        | .long => pos.stopLoss ≤ c
        | .short => c ≤ pos.stopLoss) ∧ ¬ pos.reaches (.fin c) := by
  unfold HoldsAt reaches
  cases pos.side with
  | long =>
      simp only [PyFloat.le_fin, PyFloat.lt_fin, not_le]
      rw [or_iff_not_imp_left]
  | short =>
      simp only [PyFloat.le_fin, PyFloat.lt_fin, not_le]
      rw [or_iff_not_imp_left]

/-- The clamps on a tightening action leave the stop where it may be exactly
when they can. -/
theorem PositionSnapshot.clampStop_holdsAt_iff (haction : action.tightens) :
    pos.HoldsAt (pos.clampStop action newStop) ↔ pos.CanTighten newStop := by
  unfold clampStop CanTighten
  by_cases hfarther : pos.fartherThanStop (pos.snapStop newStop)
  · simp only [haction, hfarther, and_self, if_true]
    exact holdsAt_current
  · simp only [hfarther, and_false, if_false, Bool.false_eq_true]
    by_cases hnan : newStop = .nan
    · -- nan passes through both clamps
      subst hnan
      have hsnap : pos.snapStop .nan = .nan := by
        unfold snapStop reaches
        cases pos.side with
        | long => rfl
        | short => rfl
      rw [hsnap]
      refine ⟨fun h => ?_, fun h => absurd rfl h.1⟩
      unfold HoldsAt at h
      cases hside : pos.side with
      | long =>
          rw [hside] at h
          cases h.2
      | short =>
          rw [hside] at h
          cases h.2
    · have hsnapnan : pos.snapStop newStop ≠ .nan := by
        unfold snapStop
        split
        · cases pos.side with
          | long => exact PyFloat.noConfusion
          | short => exact PyFloat.noConfusion
        · exact hnan
      obtain ⟨c, hsnap⟩ : ∃ c, pos.snapStop newStop = .fin c := by
        by_contra hinfinite
        exact hfarther (farther_of_infinite hsnapnan (fun c h => hinfinite ⟨c, h⟩))
      rw [hsnap] at hfarther ⊢
      rw [holdsAt_fin, no_looser_iff hfarther, snapStop_short_of_market hsnap]
      have hsame : PyFloat.fin c = .fin pos.stopLoss ↔ c = pos.stopLoss := by simp
      rw [hsame, and_comm]
      exact ⟨fun h => ⟨hnan, h⟩, fun h => h.2⟩

end Clamp

/-! ## Approved actions -/

section Approved

variable {inp : PositionManagementInput} {decision : PositionManagementDecision}
  {policy : PolicyDecision}

/-- An approval leads to the clamped stop, whether or not the clamps changed
anything. -/
theorem PolicyDecision.newStop_approved (h : PolicyGuard.validate inp decision = .ok policy)
    (happroved : policy.approved) (haction : decision.action ≠ .fullExit) :
    policy.newStop decision =
      decision.execution.newStopLoss.map (inp.position.clampStop decision.action) := by
  obtain ⟨-, -, hparams⟩ := PolicyGuard.validate_approved h happroved haction
  unfold PolicyDecision.newStop
  rw [hparams]
  by_cases hchanged : clampParams inp decision ≠ decision.execution
  · rw [if_pos hchanged]
    rfl
  · rw [if_neg hchanged, Option.getD_none]
    exact congrArg ExecutionParams.newStopLoss (not_not.mp hchanged).symm

end Approved

/-! ## Sequences of approved actions -/

/-- The position with its stop moved. -/
def PositionManagementInput.atStop (inp : PositionManagementInput) (stop : Decimal) :
    PositionManagementInput :=
  { inp with position := { inp.position with stopLoss := stop } }

/-- One round of management: what is seen of the position, and the decision. -/
structure Round where
  inp : PositionManagementInput
  decision : PositionManagementDecision

/-- The stop after a round that found it at `stop`: an approved action that
tightens moves it. -/
def Round.moveStop (stop : Decimal) (round : Round) : Decimal :=
  match PolicyGuard.validate (round.inp.atStop stop) round.decision with
  | .error _ => stop
  | .ok policy =>
      if policy.approved ∧ round.decision.action.tightens then
        match policy.newStop round.decision with
        | some (.fin newStop) => newStop
        | _ => stop
      else stop

/-- The round is one of a position on `side`, with a price, and tightening it can
do no harm. -/
def Round.Sound (side : PositionSide) (stop : Decimal) (round : Round) : Prop :=
  round.inp.position.side = side ∧ 0 < round.inp.position.ltp ∧
    ∀ newStop, round.decision.execution.newStopLoss = some newStop →
      (round.inp.atStop stop).position.CanTighten newStop

/-- `stop` is no looser than `stop₀`. -/
def PositionSide.NoLooser (side : PositionSide) (stop₀ stop : Decimal) : Prop :=
  match side with
  | .long => stop₀ ≤ stop
  | .short => stop ≤ stop₀

theorem PositionSide.NoLooser.refl (side : PositionSide) (stop : Decimal) :
    side.NoLooser stop stop := by
  cases side with
  | long => exact le_refl stop
  | short => exact le_refl stop

theorem PositionSide.NoLooser.trans {side : PositionSide} {stop₀ stop₁ stop₂ : Decimal}
    (h : side.NoLooser stop₀ stop₁) (h' : side.NoLooser stop₁ stop₂) :
    side.NoLooser stop₀ stop₂ := by
  cases side with
  | long => exact le_trans h h'
  | short => exact le_trans h' h

theorem Round.moveStop_noLooser {side : PositionSide} {stop : Decimal} {round : Round}
    (hstop : 0 < stop) (h : round.Sound side stop) :
    0 < round.moveStop stop ∧ side.NoLooser stop (round.moveStop stop) := by
  have hstays : 0 < stop ∧ side.NoLooser stop stop := ⟨hstop, .refl side stop⟩
  obtain ⟨hside, hltp, hcan⟩ := h
  unfold moveStop
  cases hvalidate : PolicyGuard.validate (round.inp.atStop stop) round.decision with
  | error e => exact hstays
  | ok policy =>
      dsimp only
      by_cases hmoves : policy.approved ∧ round.decision.action.tightens
      · rw [if_pos hmoves]
        have haction : round.decision.action ≠ .fullExit := by
          intro hexit
          rw [hexit] at hmoves
          exact absurd hmoves.2 (by decide)
        rw [PolicyDecision.newStop_approved hvalidate hmoves.1 haction]
        cases hproposed : round.decision.execution.newStopLoss with
        | none => exact hstays
        | some proposed =>
            rw [Option.map_some]
            have hholds := (PositionSnapshot.clampStop_holdsAt_iff hmoves.2).mpr
              (hcan proposed hproposed)
            cases hclamped : (round.inp.atStop stop).position.clampStop round.decision.action
                proposed with
            | fin newStop =>
                dsimp only
                rw [hclamped, PositionSnapshot.holdsAt_fin] at hholds
                unfold PositionSnapshot.reaches at hholds
                have hsame : (round.inp.atStop stop).position.side = side := hside
                rw [hsame] at hholds
                obtain ⟨hnone | hnoLooser, hmarket⟩ := hholds
                · exact absurd hnone hstop.ne'
                · cases side with
                  | long => exact ⟨lt_of_lt_of_le hstop hnoLooser, hnoLooser⟩
                  | short =>
                      simp only [PyFloat.le_fin, not_le] at hmarket
                      exact ⟨lt_trans hltp hmarket, hnoLooser⟩
            | nan => exact hstays
            | posInf => exact hstays
            | negInf => exact hstays
      · rw [if_neg hmoves]
        exact hstays

/-- An approved tightening puts the stop where it may go if and only if the
clamps can; and in a sequence of rounds in which they can, the stop never
loosens. -/
theorem managedStops_tighten_iff (inp : PositionManagementInput)
    (decision : PositionManagementDecision) (policy : PolicyDecision)
    (hvalidate : PolicyGuard.validate inp decision = .ok policy) (happroved : policy.approved)
    (haction : decision.action.tightens) :
    ((∃ stop, policy.newStop decision = some stop ∧ inp.position.HoldsAt stop) ↔
      ∃ proposed, decision.execution.newStopLoss = some proposed ∧
        inp.position.CanTighten proposed) ∧
    ∀ (side : PositionSide) (stop₀ stop : Decimal), 0 < stop₀ →
      Reaches Round.moveStop (fun stop round => round.Sound side stop) stop₀ stop →
      side.NoLooser stop₀ stop := by
  constructor
  · have hother : decision.action ≠ .fullExit := by
      intro hexit
      rw [hexit] at haction
      exact absurd haction (by decide)
    rw [PolicyDecision.newStop_approved hvalidate happroved hother]
    cases decision.execution.newStopLoss with
    | none => simp
    | some proposed =>
        simp only [Option.map_some, Option.some.injEq, exists_eq_left']
        exact PositionSnapshot.clampStop_holdsAt_iff haction
  · intro side stop₀ stop hstart hreaches
    have hinv : 0 < stop ∧ side.NoLooser stop₀ stop := by
      induction hreaches with
      | start => exact ⟨hstart, .refl side stop₀⟩
      | step _ hsound ih =>
          obtain ⟨hpos, hnoLooser⟩ := Round.moveStop_noLooser ih.1 hsound
          exact ⟨hpos, ih.2.trans hnoLooser⟩
    exact hinv.2

/-! ### A stop on either side of the entry -/

/-- A long from 100, at 110. -/
def demoPosition (stop : Decimal) : PositionManagementInput :=
  { position :=
      { symbol := ⟨"BTCUSDT", by decide⟩
        side := .long
        qty := 1
        entryPrice := 100
        ltp := 110
        unrealizedPnl := 10
        stopLoss := stop } }

def demoTightening (newStop : Decimal) : PositionManagementDecision :=
  { action := .tightenSl
    confidence := 1
    execution := { type := "modify_stop", newStopLoss := some (.fin newStop) } }

/-- From a loss of 5 to one of 2, and then to break-even. -/
theorem demoTightening_holds :
    (∃ stop, PolicyDecision.newStop
        { approved := true, action := .tightenSl, originalAction := .tightenSl }
        (demoTightening 98) = some stop ∧ (demoPosition 95).position.HoldsAt stop) ∧
      PositionSide.long.NoLooser 95 (Round.moveStop (Round.moveStop 95
        ⟨demoPosition 95, demoTightening 98⟩) ⟨demoPosition 95, demoTightening 100⟩) := by
  have hprice : (0 : Decimal) < 110 := by decide
  have hcan {stop newStop : Decimal}
      (hclose : ¬ (demoPosition stop).position.fartherThanStop
        ((demoPosition stop).position.snapStop (.fin newStop)))
      (hloss : ¬ (demoPosition stop).position.stopInProfit) :
      (demoPosition stop).position.CanTighten (.fin newStop) := by
    unfold PositionSnapshot.CanTighten
    rw [if_neg hclose]
    exact ⟨PyFloat.noConfusion, fun _ => hprice, Or.inr (Or.inl hloss)⟩
  have hsound {stop newStop : Decimal}
      (h : (demoPosition stop).position.CanTighten (.fin newStop)) :
      (⟨demoPosition 95, demoTightening newStop⟩ : Round).Sound .long stop := by
    refine ⟨rfl, hprice, ?_⟩
    rintro _ ⟨⟩
    exact h
  have hfirst : (demoPosition 95).position.CanTighten (.fin 98) := hcan (by decide +kernel)
    (show ¬ (100 : Decimal) < 95 by decide)
  have hmoved : Round.moveStop 95 ⟨demoPosition 95, demoTightening 98⟩ = 98 := by decide +kernel
  have hsecond : (demoPosition 98).position.CanTighten (.fin 100) := hcan (by decide +kernel)
    (show ¬ (100 : Decimal) < 98 by decide)
  obtain ⟨hiff, hruns⟩ := managedStops_tighten_iff (demoPosition 95) (demoTightening 98)
    { approved := true, action := .tightenSl, originalAction := .tightenSl } (by decide +kernel)
    rfl rfl
  refine ⟨hiff.mpr ⟨_, rfl, hfirst⟩, hruns .long 95 _ (by decide)
    ((Reaches.start.step (hsound hfirst)).step ?_)⟩
  rw [hmoved]
  exact hsound hsecond

/-- With the stop at 105 in profit, 102 is nearer to the entry and passes for
tighter. -/
theorem not_managedStops_tighten_inProfit :
    ¬ ∀ (inp : PositionManagementInput) (decision : PositionManagementDecision)
        (policy : PolicyDecision),
      PolicyGuard.validate inp decision = .ok policy → policy.approved →
      decision.action.tightens →
      ∃ stop, policy.newStop decision = some stop ∧ inp.position.HoldsAt stop := by
  intro h
  obtain ⟨stop, hstop, hholds⟩ := h (demoPosition 105) (demoTightening 102)
    { approved := true, action := .tightenSl, originalAction := .tightenSl } (by decide +kernel)
    rfl rfl
  cases hstop
  have hlooser := hholds.1 (by decide)
  revert hlooser
  decide

end CryptoTrader
