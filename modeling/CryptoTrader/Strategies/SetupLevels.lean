import CryptoTrader.Backtest.MtfAlignment
import CryptoTrader.Strategies.SmcPipeline
import CryptoTrader.Strategies.Supertrend

/-!
# The levels of a setup

What is asked of the levels of a setup, and when those that the playbooks for sweeps,
for aligned timeframes and for Supertrend2 return are so.  They keep a stop off the
entry, but nothing keeps it, or a short's target, above zero.
-/

namespace CryptoTrader

open CryptoTrader.Lib

/-- The levels of a setup, its score and its size multiplier. -/
structure SetupLevels where
  side : PositionSide
  entry : ℚ
  stop : ℚ
  target : Option ℚ
  score : PyFloat
  sizeMultiplier : Option ℚ := none

/-- The stop is positive and loses, the target is positive and wins, the score is in
the unit interval and the size multiplier is not negative. -/
structure SetupLevels.WellFormed (s : SetupLevels) : Prop where
  stop_pos : 0 < s.stop
  stop_loses : s.side.gain s.entry s.stop < 0
  target_wins : ∀ target, s.target = some target → 0 < target ∧ 0 < s.side.gain s.entry target
  score_unit : ∃ q, s.score = .fin q ∧ 0 ≤ q ∧ q ≤ 1
  size_nonneg : ∀ multiplier, s.sizeMultiplier = some multiplier → 0 ≤ multiplier

/-- All prices of a candle are positive. -/
structure Backtest.Candle.Positive (c : Backtest.Candle) : Prop where
  open_ : 0 < c.open_
  high : 0 < c.high
  low : 0 < c.low
  close : 0 < c.close

theorem Backtest.row_mem {df : List Backtest.Candle} {k : ℕ} (h : k < df.length) :
    Backtest.row df k ∈ df := by
  rw [Backtest.row, List.getD_eq_getElem?_getD, List.getElem?_eq_getElem h]
  exact List.getElem_mem h

theorem Structure.bar_mem {df : List Structure.Candle} {k : ℕ} (h : k < df.length) :
    Structure.bar df k ∈ df := by
  rw [Structure.bar, List.getD_eq_getElem?_getD, List.getElem?_eq_getElem h]
  exact List.getElem_mem h

/-! ## A stop and a target at a distance -/

/-- A price that much on the losing side of the entry. -/
def PositionSide.stopAt (side : PositionSide) (entry risk : ℚ) : ℚ :=
  match side with
  | .long => entry - risk
  | .short => entry + risk

/-- A price that much on the winning side. -/
def PositionSide.targetAt (side : PositionSide) (entry reward : ℚ) : ℚ :=
  match side with
  | .long => entry + reward
  | .short => entry - reward

/-- Neither a long's stop nor a short's target reaches zero. -/
def PositionSide.Clear (side : PositionSide) (entry risk reward : ℚ) : Prop :=
  match side with
  | .long => risk < entry
  | .short => reward < entry

/-- Levels at positive distances are well formed if the lower one is above zero. -/
theorem SetupLevels.wellFormed_iff {side : PositionSide} {entry risk reward score : ℚ}
    (hentry : 0 < entry) (hrisk : 0 < risk) (hreward : 0 < reward) (hscore : 0 ≤ score ∧ score ≤ 1) :
    SetupLevels.WellFormed
        { side, entry, stop := side.stopAt entry risk, target := some (side.targetAt entry reward),
          score := .fin score } ↔
      side.Clear entry risk reward := by
  constructor
  · intro h
    have hstop := h.stop_pos
    have htarget := (h.target_wins _ rfl).1
    cases side with
    | long => exact sub_pos.mp hstop
    | short => exact sub_pos.mp htarget
  · intro hclear
    refine ⟨?_, ?_, ?_, ⟨score, rfl, hscore⟩, fun multiplier hmultiplier => by cases hmultiplier⟩
    · cases side with
      | long => exact sub_pos.mpr hclear
      | short => exact add_pos hentry hrisk
    · cases side <;> simp [PositionSide.gain, PositionSide.stopAt, hrisk]
    · rintro _ ⟨⟩
      cases side with
      | long => exact ⟨add_pos hentry hreward, by simpa [PositionSide.gain, PositionSide.targetAt]⟩
      | short => exact ⟨sub_pos.mpr hclear, by simpa [PositionSide.gain, PositionSide.targetAt]⟩

/-- Without any risk nothing reaches zero. -/
theorem PositionSide.clear_of_nonpos {side : PositionSide} {entry risk multiple : ℚ}
    (hentry : 0 < entry) (hmultiple : 0 < multiple) (hrisk : risk ≤ 0) :
    side.Clear entry risk (multiple * risk) := by
  cases side with
  | long => exact lt_of_le_of_lt hrisk hentry
  | short => exact lt_of_le_of_lt (mul_nonpos_of_nonneg_of_nonpos hmultiple.le hrisk) hentry

/-- Levels that are set only where the risk is positive. -/
theorem SetupLevels.wellFormed_multiple_iff {side : PositionSide} {entry risk multiple score : ℚ}
    (hentry : 0 < entry) (hmultiple : 0 < multiple) (hscore : 0 ≤ score ∧ score ≤ 1) :
    (¬ risk ≤ 0 → SetupLevels.WellFormed
        { side, entry, stop := side.stopAt entry risk,
          target := some (side.targetAt entry (multiple * risk)), score := .fin score }) ↔
      side.Clear entry risk (multiple * risk) := by
  by_cases hrisk : risk ≤ 0
  · exact iff_of_true (fun h => absurd hrisk h) (PositionSide.clear_of_nonpos hentry hmultiple hrisk)
  · rw [forall_prop_of_true hrisk]
    exact wellFormed_iff hentry (not_le.mp hrisk) (mul_pos hmultiple (not_le.mp hrisk)) hscore

/-- What is asked of a setup behind a guard. -/
theorem forall_guarded_iff {α : Type*} {P : α → Prop} {guard : Prop} [Decidable guard] {setup : α} :
    (∀ s, (if guard then none else some setup) = some s → P s) ↔ (¬ guard → P setup) := by
  by_cases hguard : guard <;> simp [hguard]

/-- A distance with a floor that is a share of the entry. -/
theorem max_lt_entry_iff {entry distance share : ℚ} (hentry : 0 < entry) :
    max distance (entry * share) < entry ↔ distance < entry ∧ share < 1 := by
  have hshare : entry * share < entry ↔ share < 1 := by
    constructor
    · intro h
      by_contra hge
      exact absurd h (not_lt.mpr (le_mul_of_one_le_right hentry.le (not_lt.mp hge)))
    · exact fun h => mul_lt_of_lt_one_right hentry h
  rw [max_lt_iff, hshare]

theorem mul_max_lt_entry_iff {entry distance share factor : ℚ} (hentry : 0 < entry)
    (hfactor : 0 < factor) :
    factor * max distance (entry * share) < entry ↔
      factor * distance < entry ∧ factor * share < 1 := by
  have hmul : factor * max distance (entry * share) =
      max (factor * distance) (entry * (factor * share)) := by
    rw [mul_max_of_nonneg _ _ hfactor.le, mul_left_comm]
  rw [hmul, max_lt_entry_iff hentry]

/-! ## The liquidity sweep -/

/-- The levels of a setup. -/
def SweepSetup.levels (s : SweepSetup) : SetupLevels :=
  { side := s.side, entry := s.entry, stop := s.sl, target := some s.tp, score := .fin s.score }

namespace LiquiditySweep

open CryptoTrader.Structure

variable (pb : LiquiditySweep) (df : List Structure.Candle)
  (dfHtf : Option (List Backtest.Candle))

/-- The distance of the swept wick, with its buffer. -/
def wickDistance (side : PositionSide) (entry atr swept : ℚ) : ℚ :=
  match side with
  | .long => entry - (min swept entry - pb.slBufferAtr * atr)
  | .short => max swept entry + pb.slBufferAtr * atr - entry

/-- The buffer does not use up the price below a long's wick, nor does the multiple of a
short's risk; and the same for the floor of the risk. -/
def Room (side : PositionSide) (entry atr swept : ℚ) : Prop :=
  match side with
  | .long => pb.slBufferAtr * atr < min swept entry ∧ pb.minStopFrac < 1
  | .short => pb.tpR * pb.wickDistance .short entry atr swept < entry ∧ pb.tpR * pb.minStopFrac < 1

/-- There is room at a sweep that is acted on. -/
def Roomy : Prop :=
  pb.minBars ≤ df.length → ∀ sweep, pb.freshSweep (analyze df pb.swingWindow) = some sweep →
    let side := sweep.event.type.side
    (if pb.useHtfFilter then htfBias dfHtf else none) ≠ some side.exitSide →
      let entry := (bar df (df.length - 1)).close
      pb.Room side entry (pb.atr df entry) sweep.event.sweptPrice

variable {pb df dfHtf} {side : PositionSide} {entry atr swept : ℚ}

theorem risk_eq : pb.risk side entry atr swept =
    max (pb.wickDistance side entry atr swept) (entry * pb.minStopFrac) := by
  unfold risk wickDistance
  cases side <;> exact (max_def_lt _ _).symm

theorem tpR_pos : 0 < pb.tpR := lt_of_lt_of_le (by norm_num) pb.tpR_ge

theorem room_iff (hentry : 0 < entry) : pb.Room side entry atr swept ↔
    side.Clear entry (pb.risk side entry atr swept) (pb.tpR * pb.risk side entry atr swept) := by
  rw [risk_eq]
  cases side with
  | long =>
      have hwick : pb.slBufferAtr * atr < min swept entry ↔
          pb.wickDistance .long entry atr swept < entry := by
        show _ ↔ entry - (min swept entry - pb.slBufferAtr * atr) < entry
        constructor
        · intro h
          linarith
        · intro h
          linarith
      exact (and_congr_left' hwick).trans (max_lt_entry_iff hentry).symm
  | short => exact (mul_max_lt_entry_iff hentry tpR_pos).symm

/-- The setups of the playbook are well formed exactly where there is room. -/
theorem evaluate_wellFormed_iff (hpos : ∀ c ∈ df, c.toCandle.Positive) :
    (∀ setup, pb.evaluate df dfHtf = some setup → setup.levels.WellFormed) ↔
      pb.Roomy df dfHtf := by
  unfold evaluate Roomy
  by_cases hshort : df.length < pb.minBars
  · simp [hshort, not_le.mpr hshort]
  · rw [if_neg hshort, forall_prop_of_true (not_lt.mp hshort)]
    cases hsweep : pb.freshSweep (analyze df pb.swingWindow) with
    | none => simp
    | some sweep =>
        simp only [Option.some.injEq, forall_eq']
        by_cases hblocked : (if pb.useHtfFilter then htfBias dfHtf else none) =
            some sweep.event.type.side.exitSide
        · simp [hblocked]
        · rw [if_neg hblocked, forall_prop_of_true hblocked]
          have hbars : 30 ≤ pb.minBars := le_max_right _ _
          have hlast : df.length - 1 < df.length := by omega
          have hentry := (hpos _ (bar_mem hlast)).close
          rw [forall_guarded_iff, room_iff hentry]
          exact SetupLevels.wellFormed_multiple_iff hentry tpR_pos (by norm_num)

end LiquiditySweep

/-! ## Aligned timeframes -/

namespace Backtest

/-- The levels of a signal; the score is a constant. -/
def Signal.levels (s : Signal) : SetupLevels :=
  { side := s.side, entry := s.entry, stop := s.sl, target := some s.tp, score := .fin (3 / 4) }

namespace MtfAlignment

variable (pb : MtfAlignment) (df : List Backtest.Candle) (frames : Frames)

/-- The distance of the swing. -/
def swingDistance (side : PositionSide) : ℚ :=
  let i := df.length - 1
  let entry := (row df i).close
  match side with
  | .long => entry - npMin (slice (lows df) (i - pb.swingLookback + 1) (i + 1))
  | .short => npMax (slice (highs df) (i - pb.swingLookback + 1) (i + 1)) - entry

/-- The floor of a long's risk is less than the price, and the multiple of a short's risk
too. -/
def Room (side : PositionSide) : Prop :=
  match side with
  | .long => pb.minStopFrac < 1
  | .short =>
      pb.tpR * pb.swingDistance df .short < (row df (df.length - 1)).close ∧
        pb.tpR * pb.minStopFrac < 1

/-- There is room where the frames and the last bar call for a setup. -/
def Roomy : Prop :=
  pb.minBars ≤ df.length → ∀ side, pb.bias (row df (df.length - 1)).close frames = some side →
    pb.Triggers df (df.length - 1) side → pb.Room df side

variable {pb df frames} {side : PositionSide}

theorem mtf_tpR_pos : 0 < pb.tpR := lt_of_lt_of_le (by norm_num) pb.tpR_ge

theorem mtf_risk_eq : pb.risk df (df.length - 1) side =
    max (pb.swingDistance df side) ((row df (df.length - 1)).close * pb.minStopFrac) := by
  cases side <;> rfl

/-- The least of positive prices is positive. -/
theorem npMin_pos {l : List ℚ} (hne : l ≠ []) (hpos : ∀ x ∈ l, 0 < x) : 0 < npMin l := by
  unfold npMin
  cases hmin : l.min? with
  | none => exact absurd (List.min?_eq_none_iff.mp hmin) hne
  | some least => exact hpos least (List.min?_mem hmin)

/-- A long's swing is above zero. -/
theorem swingDistance_lt (hpos : ∀ c ∈ df, c.Positive) (hbars : pb.minBars ≤ df.length) :
    pb.swingDistance df .long < (row df (df.length - 1)).close := by
  have hswing := pb.swingLookback_ge
  have hmin : pb.swingLookback + 2 ≤ pb.minBars :=
    (le_max_right _ _).trans (le_max_left _ _)
  have hleast : 0 < npMin (slice (lows df) (df.length - 1 - pb.swingLookback + 1)
      (df.length - 1 + 1)) := by
    refine npMin_pos ?_ ?_
    · intro hnil
      have hlength := congrArg List.length hnil
      simp [slice, lows] at hlength
      omega
    · intro x hx
      have hmem : x ∈ lows df := List.mem_of_mem_take (List.mem_of_mem_drop hx)
      obtain ⟨c, hc, rfl⟩ := List.mem_map.mp hmem
      exact (hpos c hc).low
  exact sub_lt_self _ hleast

theorem mtf_room_iff (hpos : ∀ c ∈ df, c.Positive) (hbars : pb.minBars ≤ df.length)
    (hentry : 0 < (row df (df.length - 1)).close) : pb.Room df side ↔
      side.Clear (row df (df.length - 1)).close (pb.risk df (df.length - 1) side)
        (pb.tpR * pb.risk df (df.length - 1) side) := by
  rw [mtf_risk_eq]
  cases side with
  | long =>
      refine Iff.trans ?_ (max_lt_entry_iff hentry).symm
      exact (and_iff_right (swingDistance_lt hpos hbars)).symm
  | short => exact (mul_max_lt_entry_iff hentry mtf_tpR_pos).symm

/-- The setups of the playbook are well formed exactly where there is room. -/
theorem mtf_wellFormed_iff (hpos : ∀ c ∈ df, c.Positive) :
    (∀ s, pb.evaluate df frames = some s → s.levels.WellFormed) ↔ pb.Roomy df frames := by
  unfold evaluate Roomy
  by_cases hshort : df.length < pb.minBars
  · simp [hshort, not_le.mpr hshort]
  · have hbars := not_lt.mp hshort
    rw [if_neg hshort, forall_prop_of_true hbars]
    dsimp only
    cases hbias : pb.bias (row df (df.length - 1)).close frames with
    | none => simp
    | some side =>
        simp only [Option.some.injEq, forall_eq']
        by_cases htriggers : pb.Triggers df (df.length - 1) side
        · have hmin : 30 ≤ pb.minBars := (le_max_right _ _).trans (le_max_right _ _)
          have hlast : df.length - 1 < df.length := by omega
          have hentry := (hpos _ (row_mem hlast)).close
          rw [forall_prop_of_true htriggers, mtf_room_iff hpos hbars hentry]
          simp only [htriggers.1, htriggers.2, Bool.not_true, Bool.false_eq_true, if_false]
          have hlevels : (pb.signal df (df.length - 1) side).levels =
              { side, entry := (row df (df.length - 1)).close
                stop := side.stopAt (row df (df.length - 1)).close
                  (pb.risk df (df.length - 1) side)
                target := some (side.targetAt (row df (df.length - 1)).close
                  (pb.tpR * pb.risk df (df.length - 1) side))
                score := .fin (3 / 4) } := by
            cases side <;> rfl
          rw [forall_guarded_iff, hlevels]
          exact SetupLevels.wellFormed_multiple_iff hentry mtf_tpR_pos (by norm_num)
        · refine iff_of_true ?_ (fun h => absurd h htriggers)
          unfold Triggers at htriggers
          by_cases hbreakout : pb.breakout df (df.length - 1) side = true
          · have hengulfs : engulfs df (df.length - 1) side = false := by
              simpa [hbreakout] using htriggers
            simp [hbreakout, hengulfs]
          · simp [hbreakout]

end MtfAlignment

end Backtest

/-! ## Supertrend2 -/

/-- The levels of a setup; the score is a constant. -/
def SupertrendSetup.levels (s : SupertrendSetup) : SetupLevels :=
  { side := s.side, entry := s.entryPrice, stop := s.slPrice, target := s.tpPrice, score := .fin 1 }

namespace PlaybookSupertrend2

variable (pb : PlaybookSupertrend2) (df : List Backtest.Candle) (side : PositionSide)

/-- The stop before the guard that puts it on the losing side. -/
def rawStop : ℚ :=
  let currSt := ((pb.bands df).map Band.st).getD (df.length - 1) 0
  let entryPrice := currClose df
  let atr := (wilderAtr pb.effectiveAtrLen df).getLastD 0
  match pb.slMode, side with
  | .supertrend, _ => currSt
  | .atr, .long => entryPrice - atr * pb.slAtrMult
  | .atr, .short => entryPrice + atr * pb.slAtrMult
  | .fixedPct, .long => entryPrice * (1 - pb.slPct / 100)
  | .fixedPct, .short => entryPrice * (1 + pb.slPct / 100)

/-- A long's stop is above zero in its mode, and a short's target is less than the whole
price away. -/
def Room : Prop :=
  match side with
  | .long =>
      match pb.slMode with
      | .supertrend => 0 < ((pb.bands df).map Band.st).getD (df.length - 1) 0
      | .atr => (wilderAtr pb.effectiveAtrLen df).getLastD 0 * pb.slAtrMult < currClose df
      | .fixedPct => pb.slPct < 100
  | .short => pb.useTp → 0 < pb.tp1Pct → pb.tp1Pct < 100

variable {pb df side}

/-- A percentage of a positive price. -/
theorem percent_pos_iff {entry pct : ℚ} (hentry : 0 < entry) :
    0 < entry * (1 - pct / 100) ↔ pct < 100 := by
  rw [mul_pos_iff_of_pos_left hentry]
  constructor
  · intro h
    linarith
  · intro h
    linarith

theorem rawStop_pos_iff (hentry : 0 < currClose df) :
    0 < pb.rawStop df .long ↔ pb.Room df .long := by
  unfold rawStop Room
  cases pb.slMode with
  | supertrend => exact Iff.rfl
  | atr => exact sub_pos
  | fixedPct => exact percent_pos_iff hentry

/-- The guarded stop loses; it is positive for a short, and for a long if it was before
the guard. -/
theorem setup_stop (hentry : 0 < currClose df) :
    side.gain (currClose df) (pb.setup df side).slPrice < 0 ∧
      (0 < (pb.setup df side).slPrice ↔ side = .long → 0 < pb.rawStop df .long) := by
  cases side with
  | long =>
      show (if currClose df ≤ pb.rawStop df .long then currClose df * (99 / 100)
          else pb.rawStop df .long) - currClose df < 0 ∧
        (0 < (if currClose df ≤ pb.rawStop df .long then currClose df * (99 / 100)
          else pb.rawStop df .long) ↔ _)
      by_cases hwrong : currClose df ≤ pb.rawStop df .long
      · rw [if_pos hwrong]
        refine ⟨by linarith, iff_of_true (by linarith) (fun _ => lt_of_lt_of_le hentry hwrong)⟩
      · rw [if_neg hwrong]
        exact ⟨by linarith [not_le.mp hwrong], by simp⟩
  | short =>
      show currClose df - (if pb.rawStop df .short ≤ currClose df then currClose df * (101 / 100)
          else pb.rawStop df .short) < 0 ∧
        (0 < (if pb.rawStop df .short ≤ currClose df then currClose df * (101 / 100)
          else pb.rawStop df .short) ↔ _)
      by_cases hwrong : pb.rawStop df .short ≤ currClose df
      · rw [if_pos hwrong]
        exact ⟨by linarith, iff_of_true (by linarith) (fun h => by cases h)⟩
      · rw [if_neg hwrong]
        have hbeyond := not_le.mp hwrong
        exact ⟨by linarith, iff_of_true (by linarith) (fun h => by cases h)⟩

/-- The target, where there is one. -/
theorem setup_target (hentry : 0 < currClose df) :
    (∀ target, (pb.setup df side).tpPrice = some target →
        0 < target ∧ 0 < side.gain (currClose df) target) ↔
      (side = .short → pb.useTp → 0 < pb.tp1Pct → pb.tp1Pct < 100) := by
  have htarget : (pb.setup df side).tpPrice =
      if pb.useTp && 0 < pb.tp1Pct then
        some (match side with
          | .long => currClose df * (1 + pb.tp1Pct / 100)
          | .short => currClose df * (1 - pb.tp1Pct / 100))
      else none := rfl
  by_cases hused : pb.useTp = true ∧ 0 < pb.tp1Pct
  · have hcond : (pb.useTp && decide (0 < pb.tp1Pct)) = true := by simp [hused.1, hused.2]
    have hmove : 0 < currClose df * (pb.tp1Pct / 100) :=
      mul_pos hentry (div_pos hused.2 (by norm_num))
    rw [htarget, if_pos hcond]
    simp only [Option.some.injEq, forall_eq', hused.1, hused.2, forall_const]
    cases side with
    | long =>
        refine iff_of_true ⟨?_, ?_⟩ (fun h => by cases h)
        · rw [mul_add, mul_one]
          exact add_pos hentry hmove
        · show 0 < currClose df * (1 + pb.tp1Pct / 100) - currClose df
          linarith
    | short =>
        have hwins : 0 < currClose df - currClose df * (1 - pb.tp1Pct / 100) := by linarith
        rw [percent_pos_iff hentry]
        constructor
        · exact fun h _ => h.1
        · exact fun h => ⟨h rfl, hwins⟩
  · have hcond : (pb.useTp && decide (0 < pb.tp1Pct)) = false := by
      simpa using hused
    rw [htarget, if_neg (by simp [hcond])]
    refine iff_of_true (fun _ h => by cases h) (fun _ htp hpos => absurd ⟨htp, hpos⟩ hused)

theorem setup_wellFormed_iff (hentry : 0 < currClose df) :
    (pb.setup df side).levels.WellFormed ↔ pb.Room df side := by
  obtain ⟨hloses, hstop⟩ := @setup_stop pb df side hentry
  have htarget := @setup_target pb df side hentry
  constructor
  · intro h
    cases side with
    | long => exact (rawStop_pos_iff hentry).mp (hstop.mp h.stop_pos rfl)
    | short => exact htarget.mp h.target_wins rfl
  · intro hroom
    refine ⟨hstop.mpr ?_, hloses, htarget.mpr ?_, ⟨1, rfl, by norm_num⟩,
      fun multiplier h => by cases h⟩
    · rintro rfl
      exact (rawStop_pos_iff hentry).mpr hroom
    · rintro rfl
      exact hroom

end PlaybookSupertrend2

end CryptoTrader
