import CryptoTrader.Lib.Run
import CryptoTrader.Wallet.Boot
import Mathlib.Algebra.Order.Ring.Rat
import Mathlib.Logic.Function.Basic
import Mathlib.Tactic.Linarith

/-!
# When positions are reassessed

The triggers, the queue and the loop of `ReassessmentLoop`.  The loop's thread takes
one step at a time, and anything may happen between two of them.  The state also
records every evaluation that was started.
-/

namespace CryptoTrader

open CryptoTrader.Lib

inductive Trigger where
  | tick
  | candle
  | fill
  | shock
  | scheduled
  | manual
  deriving DecidableEq

/-- A shock or a fill overrides the debounce. -/
def Trigger.urgent : Trigger → Bool
  | .shock | .fill => true
  | _ => false

/-- An evaluation that was started; those of the queue belong to a batch. -/
structure Evaluation where
  symbol : Symbol
  time : ℚ
  trigger : Trigger
  price : ℚ
  batch : Option ℕ
  deriving DecidableEq

/-- Where the loop is: between two rounds, in a batch it took off the queue, or in a
sweep. -/
inductive LoopPhase where
  | asleep
  | forced (rest : List (Symbol × Trigger))
  | swept (rest : List Symbol)

/-- The thresholds and intervals, in seconds. -/
structure ReassessmentLoop where
  scheduledIntervalS : ℚ := 60
  minReassessIntervalS : ℚ := 5
  tickThresholdPct : ℚ := 1 / 100
  shockThresholdPct : ℚ := 3 / 100
  tickThresholdPct_pos : 0 < tickThresholdPct := by norm_num

structure LoopState where
  clock : ℚ := 0
  lastEval : Symbol → Option ℚ := fun _ => none
  lastPrices : Symbol → Option ℚ := fun _ => none
  forceQueue : List (Symbol × Trigger) := []
  scheduledLast : ℚ := 0
  phase : LoopPhase := .asleep
  batch : ℕ := 0
  evaluations : List Evaluation := []

/-- `abs(ltp - last) / last`; nothing changes from a price of zero. -/
def changePct (last ltp : ℚ) : ℚ := if last = 0 then 0 else |ltp - last| / last

namespace ReassessmentLoop

variable (loop : ReassessmentLoop)

/-- The trigger of a tick, if it has one. -/
def tickTrigger (last ltp : ℚ) : Option Trigger :=
  if loop.shockThresholdPct ≤ changePct last ltp then some .shock
  else if loop.tickThresholdPct ≤ changePct last ltp then some .tick
  else none

/-- `force_reassess`. -/
def forceReassess (s : LoopState) (symbol : Symbol) (trigger : Trigger) : LoopState :=
  { s with forceQueue := s.forceQueue ++ [(symbol, trigger)] }

/-- `on_tick`. -/
def onTick (s : LoopState) (symbol : Symbol) (ltp : ℚ) : LoopState :=
  let last := (s.lastPrices symbol).getD ltp
  let s := { s with lastPrices := Function.update s.lastPrices symbol (some ltp) }
  match loop.tickTrigger last ltp with
  | some trigger => forceReassess s symbol trigger
  | none => s

/-- `_evaluate_symbol`, as far as the start of an evaluation. -/
def evaluateSymbol (s : LoopState) (symbol : Symbol) (trigger : Trigger) (batch : Option ℕ) :
    LoopState :=
  let last := (s.lastEval symbol).getD 0
  -- only what was taken off the queue bypasses the debounce
  if batch = none ∧ s.clock - last < loop.minReassessIntervalS then s
  else
    match s.lastPrices symbol with
    | none => s
    | some ltp =>
        { s with
          lastEval := Function.update s.lastEval symbol (some s.clock)
          evaluations := s.evaluations ++ [⟨symbol, s.clock, trigger, ltp, batch⟩] }

/-- The next step of `_loop`; `positions` are the open ones. -/
def loopStep (s : LoopState) (positions : List Symbol) : LoopState :=
  match s.phase with
  | .asleep => { s with phase := .forced s.forceQueue, forceQueue := [], batch := s.batch + 1 }
  | .forced ((symbol, trigger) :: rest) =>
      { loop.evaluateSymbol s symbol trigger (some s.batch) with phase := .forced rest }
  | .forced [] =>
      if loop.scheduledIntervalS ≤ s.clock - s.scheduledLast then
        { s with scheduledLast := s.clock, phase := .swept positions }
      else { s with phase := .asleep }
  | .swept (symbol :: rest) =>
      { loop.evaluateSymbol s symbol .scheduled none with phase := .swept rest }
  | .swept [] => { s with phase := .asleep }

end ReassessmentLoop

/-- What happens to the loop. -/
inductive LoopAction where
  | onTick (symbol : Symbol) (ltp : ℚ)
  | onCandleClose (symbol : Symbol)
  | onFill (symbol : Symbol)
  | forceReassess (symbol : Symbol) (trigger : Trigger)
  | loopStep (positions : List Symbol)

/-- An action, some time after the one before it. -/
structure LoopEvent where
  elapsed : ℚ
  action : LoopAction
  elapsed_nonneg : 0 ≤ elapsed := by norm_num

namespace ReassessmentLoop

variable (loop : ReassessmentLoop)

def act (s : LoopState) : LoopAction → LoopState
  | .onTick symbol ltp => loop.onTick s symbol ltp
  | .onCandleClose symbol => forceReassess s symbol .candle
  | .onFill symbol => forceReassess s symbol .fill
  | .forceReassess symbol trigger => forceReassess s symbol trigger
  | .loopStep positions => loop.loopStep s positions

def step (s : LoopState) (e : LoopEvent) : LoopState :=
  loop.act { s with clock := s.clock + e.elapsed } e.action

/-! ## What the triggers are for -/

/-- A later evaluation of the same symbol comes within the interval only for a shock or
a fill, and for neither of them twice in a batch. -/
def Apart (e e' : Evaluation) : Prop :=
  e.symbol = e'.symbol →
    (e'.time - e.time < loop.minReassessIntervalS → e'.trigger.urgent) ∧
      (e'.trigger.urgent → e.trigger = e'.trigger → e.batch = e'.batch → e.batch = none)

end ReassessmentLoop

namespace LoopState

variable (s : LoopState) (symbol : Symbol)

/-- The last evaluation of a symbol. -/
def lastOf : Option Evaluation := (s.evaluations.filter (fun e => e.symbol = symbol)).getLast?

/-- What the loop has yet to evaluate, whatever the debounce. -/
def awaiting : List (Symbol × Trigger) :=
  match s.phase with
  | .forced rest => rest ++ s.forceQueue
  | _ => s.forceQueue

/-- An evaluation of the symbol is queued. -/
def Queued : Prop := ∃ trigger, (symbol, trigger) ∈ s.awaiting

end LoopState

namespace ReassessmentLoop

variable (loop : ReassessmentLoop)

/-- If the price is a threshold or more away from that of the symbol's last evaluation,
another one is queued. -/
def Follows (s : LoopState) (symbol : Symbol) : Prop :=
  ∀ e ltp, s.lastOf symbol = some e → s.lastPrices symbol = some ltp →
    loop.tickThresholdPct ≤ changePct e.price ltp → s.Queued symbol

/-- Evaluations keep apart, and follow the prices. -/
structure Right (s : LoopState) : Prop where
  apart : s.evaluations.Pairwise loop.Apart
  follows : ∀ symbol, loop.Follows s symbol

/-- The next evaluation of the queue is not too early. -/
def InTime (s : LoopState) (symbol : Symbol) (trigger : Trigger) : Prop :=
  (s.lastPrices symbol).isSome → ∀ e ∈ s.evaluations, e.symbol = symbol →
    if trigger.urgent then e.trigger = trigger → e.batch ≠ some s.batch
    else loop.minReassessIntervalS ≤ s.clock - e.time

/-- A tick that takes the price away from that of the last evaluation finds one queued,
or is a trigger itself; and what comes off the queue is in time. -/
def KeepsAt (s : LoopState) : LoopAction → Prop
  | .onTick symbol ltp =>
      ∀ e, s.lastOf symbol = some e → loop.tickThresholdPct ≤ changePct e.price ltp →
        s.Queued symbol ∨ (loop.tickTrigger ((s.lastPrices symbol).getD ltp) ltp).isSome
  | .loopStep _ =>
      match s.phase with
      | .forced ((symbol, trigger) :: _) => loop.InTime s symbol trigger
      | _ => True
  | _ => True

def Keeps (s : LoopState) (e : LoopEvent) : Prop :=
  loop.KeepsAt { s with clock := s.clock + e.elapsed } e.action

/-! ## One evaluation -/

/-- Evaluations are in the past, and none is after the time noted for its symbol. -/
def Timed (s : LoopState) : Prop :=
  ∀ e ∈ s.evaluations, e.time ≤ s.clock ∧ ∃ t, s.lastEval e.symbol = some t ∧ e.time ≤ t

/-- The state once an evaluation has been started at a price. -/
def started (s : LoopState) (symbol : Symbol) (trigger : Trigger) (ltp : ℚ) (batch : Option ℕ) :
    LoopState :=
  { s with
    lastEval := Function.update s.lastEval symbol (some s.clock)
    evaluations := s.evaluations ++ [⟨symbol, s.clock, trigger, ltp, batch⟩] }

@[simp] theorem changePct_self (ltp : ℚ) : changePct ltp ltp = 0 := by simp [changePct]

section Evaluations

variable {loop : ReassessmentLoop} {s : LoopState} {symbol other : Symbol} {trigger : Trigger}
  {ltp : ℚ} {batch : Option ℕ}

theorem lastOf_started : (started s symbol trigger ltp batch).lastOf symbol =
    some ⟨symbol, s.clock, trigger, ltp, batch⟩ := by
  simp [started, LoopState.lastOf, List.filter_append]

theorem lastOf_started_of_ne (h : symbol ≠ other) :
    (started s symbol trigger ltp batch).lastOf other = s.lastOf other := by
  simp [started, LoopState.lastOf, List.filter_append, h]

theorem Timed.started (h : Timed s) : Timed (started s symbol trigger ltp batch) := by
  intro e he
  simp only [ReassessmentLoop.started, List.mem_append, List.mem_singleton] at he ⊢
  rcases he with hold | rfl
  · obtain ⟨hpast, t, ht, hle⟩ := h e hold
    refine ⟨hpast, ?_⟩
    by_cases hsame : e.symbol = symbol
    · exact ⟨s.clock, by rw [hsame, Function.update_self], hpast⟩
    · exact ⟨t, by rw [Function.update_of_ne hsame, ht], hle⟩
  · exact ⟨le_refl _, s.clock, Function.update_self .., le_refl _⟩

/-- After an evaluation the price has not moved. -/
theorem follows_started (hsymbol : s.lastPrices symbol = some ltp)
    (h : ∀ other, symbol ≠ other → loop.Follows s other) :
    ∀ other, loop.Follows (started s symbol trigger ltp batch) other := by
  intro other e price hlast hprice hmoved
  by_cases hsame : symbol = other
  · subst hsame
    rw [lastOf_started, Option.some.injEq] at hlast
    have hprice' : s.lastPrices symbol = some price := hprice
    rw [hsymbol, Option.some.injEq] at hprice'
    rw [← hlast, ← hprice', changePct_self] at hmoved
    exact absurd hmoved (not_le.mpr loop.tickThresholdPct_pos)
  · rw [lastOf_started_of_ne hsame] at hlast
    exact h other hsame e price hlast hprice hmoved

/-- Evaluations keep apart if the new one does from the others of its symbol. -/
theorem apart_started_iff (h : s.evaluations.Pairwise loop.Apart) :
    (started s symbol trigger ltp batch).evaluations.Pairwise loop.Apart ↔
      ∀ e ∈ s.evaluations, loop.Apart e ⟨symbol, s.clock, trigger, ltp, batch⟩ := by
  simp [started, List.pairwise_append, h]

theorem apart_of_debounced (htimed : Timed s)
    (hlate : loop.minReassessIntervalS ≤ s.clock - (s.lastEval symbol).getD 0) :
    ∀ e ∈ s.evaluations, loop.Apart e ⟨symbol, s.clock, .scheduled, ltp, none⟩ := by
  intro e he hsame
  have hsymbol : e.symbol = symbol := hsame
  obtain ⟨-, t, ht, hle⟩ := htimed e he
  rw [← hsymbol, ht, Option.getD_some] at hlate
  constructor
  · intro hearly
    exact absurd hearly (not_lt.mpr (hlate.trans (by linarith)))
  · intro hurgent
    cases hurgent

/-- What comes off the queue keeps apart if it is in time. -/
theorem apart_forced_iff (hprice : s.lastPrices symbol = some ltp) :
    (∀ e ∈ s.evaluations, loop.Apart e ⟨symbol, s.clock, trigger, ltp, some s.batch⟩) ↔
      loop.InTime s symbol trigger := by
  have heach : ∀ e : Evaluation, loop.Apart e ⟨symbol, s.clock, trigger, ltp, some s.batch⟩ ↔
      (e.symbol = symbol → if trigger.urgent then e.trigger = trigger → e.batch ≠ some s.batch
        else loop.minReassessIntervalS ≤ s.clock - e.time) := by
    intro e
    unfold Apart
    refine imp_congr_right (fun _ => ?_)
    cases hurgent : trigger.urgent with
    | true =>
        simp only [if_true, implies_true, true_and, true_implies]
        refine imp_congr_right (fun _ => ?_)
        constructor
        · intro h hbatch
          simp [h hbatch] at hbatch
        · intro h hbatch
          exact absurd hbatch h
    | false => simp
  unfold InTime
  simp only [hprice, Option.isSome_some, true_implies]
  exact forall_congr' (fun e => imp_congr_right (fun _ => heach e))

end Evaluations

/-! ## One action -/

section Actions

variable {loop : ReassessmentLoop} {s : LoopState} {symbol : Symbol}

theorem awaiting_forceReassess (trigger : Trigger) :
    (forceReassess s symbol trigger).awaiting = s.awaiting ++ [(symbol, trigger)] := by
  unfold forceReassess LoopState.awaiting
  cases s.phase <;> simp

theorem queued_forceReassess_iff {other : Symbol} (trigger : Trigger) :
    (forceReassess s symbol trigger).Queued other ↔ s.Queued other ∨ other = symbol := by
  unfold LoopState.Queued
  rw [awaiting_forceReassess]
  simp [exists_or]

theorem Right.forceReassess (h : loop.Right s) (trigger : Trigger) :
    loop.Right (forceReassess s symbol trigger) := by
  refine ⟨h.apart, fun other e ltp hlast hprice hmoved => ?_⟩
  exact (queued_forceReassess_iff trigger).mpr (Or.inl (h.follows other e ltp hlast hprice hmoved))

/-- The state when a tick has been noted. -/
def noted (s : LoopState) (symbol : Symbol) (ltp : ℚ) : LoopState :=
  { s with lastPrices := Function.update s.lastPrices symbol (some ltp) }

theorem onTick_eq (ltp : ℚ) : loop.onTick s symbol ltp =
    match loop.tickTrigger ((s.lastPrices symbol).getD ltp) ltp with
    | some trigger => forceReassess (noted s symbol ltp) symbol trigger
    | none => noted s symbol ltp := rfl

theorem queued_onTick_iff {other : Symbol} {ltp : ℚ} :
    (loop.onTick s symbol ltp).Queued other ↔ s.Queued other ∨ (other = symbol ∧
      (loop.tickTrigger ((s.lastPrices symbol).getD ltp) ltp).isSome) := by
  have hnoted : (noted s symbol ltp).Queued other ↔ s.Queued other := Iff.rfl
  rw [onTick_eq, ← hnoted]
  cases loop.tickTrigger ((s.lastPrices symbol).getD ltp) ltp with
  | none => simp
  | some trigger => simpa using queued_forceReassess_iff trigger

theorem onTick_frame (ltp : ℚ) :
    (loop.onTick s symbol ltp).evaluations = s.evaluations ∧
      (loop.onTick s symbol ltp).lastEval = s.lastEval ∧
      (loop.onTick s symbol ltp).clock = s.clock ∧
      (loop.onTick s symbol ltp).lastPrices =
        Function.update s.lastPrices symbol (some ltp) := by
  rw [onTick_eq]
  cases loop.tickTrigger ((s.lastPrices symbol).getD ltp) ltp <;> exact ⟨rfl, rfl, rfl, rfl⟩

theorem right_onTick_iff (h : loop.Right s) (ltp : ℚ) :
    loop.Right (loop.onTick s symbol ltp) ↔ loop.KeepsAt s (.onTick symbol ltp) := by
  obtain ⟨hevaluations, -, -, hprices⟩ := @onTick_frame loop s symbol ltp
  have hlast : ∀ other, (loop.onTick s symbol ltp).lastOf other = s.lastOf other := by
    intro other
    unfold LoopState.lastOf
    rw [hevaluations]
  constructor
  · intro hright e he hmoved
    have hqueued := hright.follows symbol e ltp ((hlast symbol).trans he)
      (by rw [hprices, Function.update_self]) hmoved
    exact (queued_onTick_iff.mp hqueued).imp_right (fun hboth => hboth.2)
  · intro hkeeps
    refine ⟨by rw [hevaluations]; exact h.apart, fun other e price he hprice hmoved => ?_⟩
    rw [hlast] at he
    rw [hprices] at hprice
    refine queued_onTick_iff.mpr ?_
    by_cases hsame : other = symbol
    · subst hsame
      rw [Function.update_self, Option.some.injEq] at hprice
      rw [← hprice] at hmoved
      exact (hkeeps e he hmoved).imp_right (fun htrigger => ⟨rfl, htrigger⟩)
    · rw [Function.update_of_ne hsame] at hprice
      exact Or.inl (h.follows other e price he hprice hmoved)

/-- An evaluation is started, or nothing happens: within the debounce, or without a
price. -/
theorem evaluateSymbol_cases (trigger : Trigger) (batch : Option ℕ) :
    (∃ ltp, s.lastPrices symbol = some ltp ∧
      (batch = none → loop.minReassessIntervalS ≤ s.clock - (s.lastEval symbol).getD 0) ∧
      loop.evaluateSymbol s symbol trigger batch = started s symbol trigger ltp batch) ∨
    ((batch ≠ none → s.lastPrices symbol = none) ∧
      loop.evaluateSymbol s symbol trigger batch = s) := by
  unfold evaluateSymbol
  dsimp only
  by_cases hdebounced : batch = none ∧
      s.clock - (s.lastEval symbol).getD 0 < loop.minReassessIntervalS
  · rw [if_pos hdebounced]
    exact Or.inr ⟨fun hforced => absurd hdebounced.1 hforced, rfl⟩
  · rw [if_neg hdebounced]
    cases hprice : s.lastPrices symbol with
    | none => exact Or.inr ⟨fun _ => rfl, rfl⟩
    | some ltp =>
        refine Or.inl ⟨ltp, rfl, fun hnone => ?_, rfl⟩
        by_contra hearly
        exact hdebounced ⟨hnone, not_le.mp hearly⟩

theorem Timed.evaluateSymbol (h : Timed s) (trigger : Trigger) (batch : Option ℕ) :
    Timed (loop.evaluateSymbol s symbol trigger batch) := by
  obtain ⟨ltp, -, -, heq⟩ | ⟨-, heq⟩ := @evaluateSymbol_cases loop s symbol trigger batch
  · rw [heq]
    exact h.started
  · rw [heq]
    exact h

theorem Timed.act (h : Timed s) (a : LoopAction) : Timed (loop.act s a) := by
  cases a with
  | onTick symbol ltp =>
      obtain ⟨hevaluations, hlastEval, hclock, -⟩ := @onTick_frame loop s symbol ltp
      intro e he
      have hold := h e (hevaluations ▸ he)
      rw [← hlastEval, ← hclock] at hold
      exact hold
  | onCandleClose symbol => exact h
  | onFill symbol => exact h
  | forceReassess symbol trigger => exact h
  | loopStep positions =>
      show Timed (loop.loopStep s positions)
      unfold loopStep
      cases s.phase with
      | asleep => exact h
      | forced rest =>
          cases rest with
          | nil =>
              dsimp only
              split_ifs <;> exact h
          | cons head rest => exact h.evaluateSymbol head.2 (some s.batch)
      | swept rest =>
          cases rest with
          | nil => exact h
          | cons symbol rest => exact h.evaluateSymbol .scheduled none

/-- What only depends on what is still awaited. -/
theorem Right.of_awaiting {s' : LoopState} (h : loop.Right s)
    (hevaluations : s'.evaluations = s.evaluations) (hprices : s'.lastPrices = s.lastPrices)
    (hqueued : ∀ symbol, (s.lastPrices symbol).isSome → s.Queued symbol → s'.Queued symbol) :
    loop.Right s' := by
  refine ⟨by rw [hevaluations]; exact h.apart, fun symbol e ltp he hprice hmoved => ?_⟩
  have he' : s.lastOf symbol = some e := by
    rw [← he]
    unfold LoopState.lastOf
    rw [hevaluations]
  rw [hprices] at hprice
  exact hqueued symbol (by rw [hprice]; rfl) (h.follows symbol e ltp he' hprice hmoved)

/-- The part of a batch that is left awaits evaluation after its first entry. -/
theorem queued_rest {first : Symbol × Trigger} {rest : List (Symbol × Trigger)} {other : Symbol}
    (hphase : s.phase = .forced (first :: rest)) (hne : first.1 ≠ other) (h : s.Queued other) :
    ({ s with phase := .forced rest } : LoopState).Queued other := by
  obtain ⟨trigger, hmem⟩ := h
  simp only [LoopState.awaiting, hphase, List.cons_append, List.mem_cons] at hmem
  rcases hmem with hfirst | hrest
  · exact absurd (congrArg Prod.fst hfirst).symm hne
  · exact ⟨trigger, hrest⟩

theorem right_loopStep_iff (htimed : Timed s) (h : loop.Right s) (positions : List Symbol) :
    loop.Right (loop.loopStep s positions) ↔ loop.KeepsAt s (.loopStep positions) := by
  unfold loopStep KeepsAt
  cases hphase : s.phase with
  | asleep =>
      refine iff_of_true (h.of_awaiting rfl rfl (fun symbol _ hqueued => ?_)) trivial
      obtain ⟨trigger, hmem⟩ := hqueued
      refine ⟨trigger, ?_⟩
      simpa [LoopState.awaiting, hphase] using hmem
  | forced rest =>
      cases rest with
      | nil =>
          have hqueued : ∀ symbol, s.Queued symbol → ∃ trigger, (symbol, trigger) ∈ s.forceQueue := by
            intro symbol hqueued
            simpa [LoopState.Queued, LoopState.awaiting, hphase] using hqueued
          dsimp only
          split_ifs
          · exact iff_of_true (h.of_awaiting rfl rfl (fun symbol _ => hqueued symbol)) trivial
          · exact iff_of_true (h.of_awaiting rfl rfl (fun symbol _ => hqueued symbol)) trivial
      | cons first rest =>
          obtain ⟨symbol, trigger⟩ := first
          obtain ⟨ltp, hprice, -, heq⟩ | ⟨hnone, heq⟩ :=
            @evaluateSymbol_cases loop s symbol trigger (some s.batch)
          · -- an evaluation: it has to keep apart from the earlier ones
            dsimp only
            rw [heq, ← apart_forced_iff hprice, ← apart_started_iff h.apart]
            constructor
            · exact fun hright => hright.apart
            · intro hapart
              refine ⟨hapart, follows_started hprice (s := { s with phase := .forced rest }) ?_⟩
              intro other hne e price he hprice' hmoved
              exact queued_rest hphase hne (h.follows other e price he hprice' hmoved)
          · -- a symbol without a price
            have hunpriced := hnone (by simp)
            dsimp only
            rw [heq]
            refine iff_of_true (h.of_awaiting rfl rfl (fun other hpriced hqueued => ?_)) ?_
            · have hne : symbol ≠ other := by
                intro hsame
                rw [← hsame, hunpriced] at hpriced
                cases hpriced
              exact queued_rest hphase hne hqueued
            · intro hpriced
              rw [hunpriced] at hpriced
              cases hpriced
  | swept rest =>
      cases rest with
      | nil =>
          refine iff_of_true (h.of_awaiting rfl rfl (fun symbol _ hqueued => ?_)) trivial
          simpa [LoopState.Queued, LoopState.awaiting, hphase] using hqueued
      | cons symbol rest =>
          have hqueued : ∀ other, s.Queued other →
              ({ s with phase := .swept rest } : LoopState).Queued other := by
            intro other hqueued
            simpa [LoopState.Queued, LoopState.awaiting, hphase] using hqueued
          obtain ⟨ltp, hprice, hlate, heq⟩ | ⟨-, heq⟩ :=
            @evaluateSymbol_cases loop s symbol .scheduled none
          · dsimp only
            rw [heq]
            refine iff_of_true ⟨?_, ?_⟩ trivial
            · exact (apart_started_iff h.apart).mpr (apart_of_debounced htimed (hlate rfl))
            · refine follows_started hprice (s := { s with phase := .swept rest }) ?_
              intro other hne e price he hprice' hmoved
              exact hqueued other (h.follows other e price he hprice' hmoved)
          · dsimp only
            rw [heq]
            exact iff_of_true (h.of_awaiting rfl rfl (fun other _ => hqueued other)) trivial

end Actions

/-! ## Runs -/

theorem step_iff {s : LoopState} (htimed : Timed s) (h : loop.Right s) (e : LoopEvent) :
    Timed (loop.step s e) ∧ (loop.Right (loop.step s e) ↔ loop.Keeps s e) := by
  have htimed' : Timed { s with clock := s.clock + e.elapsed } := by
    intro evaluation hmem
    obtain ⟨hpast, hnoted⟩ := htimed evaluation hmem
    exact ⟨hpast.trans (le_add_of_nonneg_right e.elapsed_nonneg), hnoted⟩
  have h' : loop.Right { s with clock := s.clock + e.elapsed } := ⟨h.apart, h.follows⟩
  refine ⟨htimed'.act e.action, ?_⟩
  unfold step Keeps
  cases e.action with
  | onTick symbol ltp => exact right_onTick_iff h' ltp
  | onCandleClose symbol => exact iff_of_true (h'.forceReassess .candle) trivial
  | onFill symbol => exact iff_of_true (h'.forceReassess .fill) trivial
  | forceReassess symbol trigger => exact iff_of_true (h'.forceReassess trigger) trivial
  | loopStep positions => exact right_loopStep_iff htimed' h' positions

/-- Evaluations keep apart and follow the prices throughout a run exactly if every
event of it keeps them so. -/
theorem reassessed_iff (events : List LoopEvent) :
    (∀ before, before <+: events → loop.Right (before.foldl loop.step {})) ↔
      AllOk loop.step loop.Keeps {} events := by
  have htimed : Timed {} := fun e he => by cases he
  have hright : loop.Right {} := ⟨List.Pairwise.nil, fun symbol e ltp he => by cases he⟩
  have hstep : ∀ (s : LoopState) (e : LoopEvent), Timed s → loop.Right s →
      Timed (loop.step s e) ∧ (loop.Right (loop.step s e) ↔ loop.Keeps s e) :=
    fun s e htimed h => loop.step_iff htimed h e
  exact AllOk.kept_iff hstep events htimed hright

/-! ### A burst of ticks -/

/-- Two ticks that each move the price by a threshold, and the batch they are in. -/
def burst : List LoopEvent :=
  [{ elapsed := 0, action := .onTick demoSymbol 100 },
    { elapsed := 0, action := .onTick demoSymbol 101 },
    { elapsed := 0, action := .onTick demoSymbol 103 },
    { elapsed := 0, action := .loopStep [] },
    { elapsed := 0, action := .loopStep [] },
    { elapsed := 0, action := .loopStep [] }]

theorem burst_reassessed_twice :
    ¬ ∀ (loop : ReassessmentLoop) (events : List LoopEvent),
      loop.Right (events.foldl loop.step {}) := by
  intro h
  have hapart := (h {} burst).apart
  have hevaluations : (burst.foldl (step {}) {}).evaluations =
      [⟨demoSymbol, 0, .tick, 103, some 1⟩, ⟨demoSymbol, 0, .tick, 103, some 1⟩] := by
    decide +kernel
  rw [hevaluations, List.pairwise_pair] at hapart
  have hurgent := (hapart rfl).1 (by decide +kernel)
  cases hurgent

end ReassessmentLoop

end CryptoTrader
