import CryptoTrader.Backtest.Replay

/-!
# Multi-timeframe alignment

`PlaybookMTFAlignment.evaluate` and the decision of `run_backtest_mta`.  Both
ask the macro frames for a direction and the entry frame for a breakout with an
engulfing candle.  The playbook is handed the closed bars and counts those; the
backtest computes each moving average once over the whole frame and looks it up
at the last closed bar.
-/

namespace CryptoTrader.Backtest

open CryptoTrader.Lib

/-- `macro_bias`: `+1` is long, `-1` short and `0` none. -/
def macroBias (entryClose : ℚ) (htfEmas : List (Option ℚ)) (minFrames : ℕ) :
    Option PositionSide :=
  let present := htfEmas.reduceOption
  if present.length < minFrames then none
  else if present.all (fun e => e < entryClose) then some .long
  else if present.all (fun e => entryClose < e) then some .short
  else none

/-- `_bullish_engulf`. -/
def bullishEngulf (o2 c2 o1 c1 : ℚ) : Bool := c2 < o2 && o1 < c1 && o2 < c1 && o1 < c2

/-- `_bearish_engulf`. -/
def bearishEngulf (o2 c2 o1 c1 : ℚ) : Bool := o2 < c2 && c1 < o1 && c1 < o2 && c2 < o1

/-- `PlaybookMTFAlignment`, within the bounds its constructor enforces. -/
structure MtfAlignment where
  macroTfs : List String := ["1h", "4h", "1d"]
  emaLen : ℕ := 50
  minMacroFrames : ℕ := 2
  breakLookback : ℕ := 5
  swingLookback : ℕ := 6
  tpR : ℚ := 3
  atrPeriod : ℕ := 14
  minStopFrac : ℚ := 55 / 10000
  maxHoldHours : ℕ := 24
  emaLen_ge : 2 ≤ emaLen := by decide
  minMacroFrames_pos : 0 < minMacroFrames := by decide
  breakLookback_pos : 0 < breakLookback := by decide
  swingLookback_ge : 2 ≤ swingLookback := by decide
  tpR_ge : 1 / 2 ≤ tpR := by norm_num
  atrPeriod_ge : 2 ≤ atrPeriod := by decide
  minStopFrac_nonneg : 0 ≤ minStopFrac := by norm_num
  maxHoldHours_pos : 0 < maxHoldHours := by decide

namespace MtfAlignment

variable (pb : MtfAlignment)

/-- `_min_bars`. -/
def minBars : ℕ :=
  max (max (pb.breakLookback + 2) (pb.swingLookback + 2)) (max (pb.atrPeriod + 2) 30)

/-! ## The rules on the entry frame -/

section Rules

variable (df : List Candle) (i : ℕ) (side : PositionSide)

/-- The close of bar `i` breaks the extreme of the bars before it. -/
def breakout : Bool :=
  match side with
  | .long => npMax (slice (highs df) (i - pb.breakLookback) i) < (row df i).close
  | .short => (row df i).close < npMin (slice (lows df) (i - pb.breakLookback) i)

/-- Bar `i` engulfs the one before it. -/
def engulfs : Bool :=
  let before := row df (i - 1)
  let bar := row df i
  match side with
  | .long => bullishEngulf before.open_ before.close bar.open_ bar.close
  | .short => bearishEngulf before.open_ before.close bar.open_ bar.close

/-- The distance of the stop from the entry. -/
def risk : ℚ :=
  let entry := (row df i).close
  match side with
  | .long =>
      max (entry - npMin (slice (lows df) (i - pb.swingLookback + 1) (i + 1)))
        (entry * pb.minStopFrac)
  | .short =>
      max (npMax (slice (highs df) (i - pb.swingLookback + 1) (i + 1)) - entry)
        (entry * pb.minStopFrac)

/-- Entry, stop and target at bar `i`. -/
def signal : Signal :=
  let entry := (row df i).close
  let risk := pb.risk df i side
  match side with
  | .long => { side := side, entry := entry, sl := entry - risk, tp := entry + pb.tpR * risk }
  | .short => { side := side, entry := entry, sl := entry + risk, tp := entry - pb.tpR * risk }

@[simp] theorem side_signal : (pb.signal df i side).side = side := by
  cases side <;> rfl

/-- Breakout and engulfing candle together. -/
def Triggers : Prop := pb.breakout df i side ∧ engulfs df i side

instance : Decidable (pb.Triggers df i side) := inferInstanceAs (Decidable (_ ∧ _))

end Rules

/-! ## The playbook -/

/-- The moving average of a macro frame that is long enough. -/
def ema (hdf : Option Frame) : Option ℚ :=
  match hdf with
  | none => none
  | some hdf =>
      if hdf.bars.length < pb.emaLen + 2 then none
      else (computeEma (closes hdf.bars) pb.emaLen).getLast?

/-- The direction of the macro frames. -/
def bias (entryClose : ℚ) (frames : Frames) : Option PositionSide :=
  macroBias entryClose (pb.macroTfs.map (fun tf => pb.ema (frames.get? tf))) pb.minMacroFrames

/-- `evaluate`. -/
def evaluate (df : List Candle) (frames : Frames) : Option Signal :=
  if df.length < pb.minBars then none
  else
    let i := df.length - 1
    match pb.bias (row df i).close frames with
    | none => none
    | some side =>
        if !pb.breakout df i side then none
        else if !engulfs df i side then none
        else if pb.risk df i side ≤ 0 then none
        else some (pb.signal df i side)

/-! ## The backtest -/

/-- An entry of `ema_cols`: the moving average at the last bar of the frame that
has closed by the end of each entry bar. -/
def emaColumn (df : List Candle) (hdf : Option Frame) : Option (List ℚ) :=
  match hdf with
  | none => none
  | some hdf =>
      if hdf.bars.length < pb.emaLen + 2 then none
      else
        let hEma := computeEma (closes hdf.bars) pb.emaLen
        some (df.map (fun bar => hEma.getD (hdf.alignedIndex bar.closeTime) 0))

/-- The decision of `run_backtest_mta` at bar `i`. -/
def backtestSignal (df : List Candle) (frames : Frames) (i : ℕ) : Option Signal :=
  let emas := pb.macroTfs.map (fun tf =>
    (pb.emaColumn df (frames.get? tf)).map (fun col => col.getD i 0))
  match macroBias (row df i).close emas pb.minMacroFrames with
  | none => none
  | some side =>
      if !pb.breakout df i side then none
      else if !engulfs df i side then none
      else some (pb.signal df i side)

/-- The replay of `run_backtest_mta`. -/
def replay (m : FillModel) (df : List Candle) (frames : Frames) : Replay Unit where
  bars := df.length
  start := pb.minBars
  decide := fun _ i =>
    match pb.backtestSignal df frames i with
    | none => ((), .skip)
    | some s =>
        ((), .enter
          { idx := i, side := s.side, price := s.entry, sl := s.sl, tp := some s.tp,
            risk := pb.risk df i s.side })
  exitOn := fun e j => e.exitOn m (row df j) false j
  forward := by
    intro s i e h
    split at h
    · cases h
    · cases h
      exact Nat.le_refl _
  dated := dated_exitOn m df

/-- `run_backtest_mta`. -/
def runBacktestMta (m : FillModel) (df : List Candle) (frames : Frames) : List Round :=
  if df.length < pb.minBars + 2 then [] else (pb.replay m df frames).run ()

/-! ## The two decisions -/

section Compare

variable (df : List Candle) (frames : Frames) {i : ℕ} (side : PositionSide)

/-- The moving average the backtest counts at `t` for a frame that is long
enough in the end. -/
def earlyEma (hdf : Option Frame) (t : ℤ) : Option ℚ :=
  match hdf with
  | none => none
  | some hdf =>
      if hdf.bars.length < pb.emaLen + 2 then none
      else some (ewm pb.emaLen (closes (hdf.alignedBars t)))

/-- The direction with the frames counted early. -/
def earlyBias (entryClose : ℚ) (t : ℤ) : Option PositionSide :=
  macroBias entryClose (pb.macroTfs.map (fun tf => pb.earlyEma (frames.get? tf) t))
    pb.minMacroFrames

/-- At bar `i` either nothing triggers, or counting frames early does not change
whether the macro frames point that way, and the stop is off the entry. -/
def WarmupHarmless (i : ℕ) : Prop :=
  let bar := row df i
  ∀ side, pb.Triggers df i side →
    (pb.earlyBias frames bar.close bar.closeTime = some side ↔
      pb.bias bar.close (frames.closedBy bar.closeTime) = some side ∧ 0 < pb.risk df i side)

theorem getD_emaColumn (hdf : Option Frame) (hi : i < df.length) :
    (pb.emaColumn df hdf).map (fun col => col.getD i 0) =
      pb.earlyEma hdf (row df i).closeTime := by
  unfold emaColumn earlyEma
  cases hdf with
  | none => rfl
  | some f =>
      simp only
      split
      · rfl
      · next hlen =>
          have hbars : f.bars ≠ [] := by
            intro hnil
            rw [hnil, List.length_nil] at hlen
            omega
          have hindex : f.alignedIndex (row df i).closeTime < (closes f.bars).length := by
            rw [closes, List.length_map]
            exact f.alignedIndex_lt _ hbars
          rw [Option.map_some, getD_map_row _ df hi, getD_computeEma _ _ hindex, ← closes_take,
            f.take_alignedIndex]

/-- Once a frame has the bars it needs, it is counted as the playbook does. -/
theorem earlyEma_eq_ema {f : Frame} {t : ℤ} (h : pb.emaLen + 2 ≤ (f.closedBy t).bars.length) :
    pb.earlyEma (some f) t = pb.ema (some (f.closedBy t)) := by
  have hlen := f.closedBy_length_le t
  have hbars : (f.closedBy t).bars ≠ [] := by
    intro hnil
    rw [hnil, List.length_nil] at h
    omega
  have hcloses : closes (f.closedBy t).bars ≠ [] := by
    simpa [closes] using hbars
  unfold earlyEma ema
  simp only
  rw [if_neg (by omega), if_neg (by omega), Frame.alignedBars, if_neg hbars, computeEma,
    getLast?_expanding _ _ hcloses]

/-- A frame that is too short in the end is counted by neither. -/
theorem earlyEma_of_short {f : Frame} (t : ℤ) (h : f.bars.length < pb.emaLen + 2) :
    pb.earlyEma (some f) t = none ∧ pb.ema (some (f.closedBy t)) = none := by
  have hlen := f.closedBy_length_le t
  unfold earlyEma ema
  exact ⟨if_pos h, if_pos (by omega)⟩

/-- With no frame on its way there is nothing to count early. -/
theorem earlyBias_eq_bias (entryClose : ℚ) (t : ℤ)
    (h : ∀ tf ∈ pb.macroTfs, ∀ f ∈ frames.get? tf,
      f.bars.length < pb.emaLen + 2 ∨ pb.emaLen + 2 ≤ (f.closedBy t).bars.length) :
    pb.earlyBias frames entryClose t = pb.bias entryClose (frames.closedBy t) := by
  unfold earlyBias bias
  congr 1
  refine List.map_congr_left (fun tf htf => ?_)
  unfold Frames.closedBy
  rw [Dict.get?_mapVal]
  cases hf : frames.get? tf with
  | none => rfl
  | some f =>
      rcases h tf htf f hf with hshort | hready
      · obtain ⟨hearly, hema⟩ := pb.earlyEma_of_short t hshort
        exact hearly.trans hema.symm
      · exact pb.earlyEma_eq_ema hready

/-- At a positive price with a positive floor the stop is off the entry. -/
theorem risk_pos (i : ℕ) (hclose : 0 < (row df i).close) (hfloor : 0 < pb.minStopFrac) :
    0 < pb.risk df i side := by
  have hmin : 0 < (row df i).close * pb.minStopFrac := mul_pos hclose hfloor
  unfold risk
  cases side with
  | long => exact lt_max_of_lt_right hmin
  | short => exact lt_max_of_lt_right hmin

theorem breakout_take (i : ℕ) : pb.breakout (df.take (i + 1)) i side = pb.breakout df i side := by
  unfold breakout
  rw [highs_take, lows_take, slice_take _ (Nat.le_succ i), slice_take _ (Nat.le_succ i),
    row_take df (Nat.lt_succ_self i)]

theorem engulfs_take (i : ℕ) : engulfs (df.take (i + 1)) i side = engulfs df i side := by
  unfold engulfs
  rw [row_take df (Nat.lt_succ_self i), row_take df (Nat.lt_succ_of_le (Nat.sub_le i 1))]

theorem risk_take (i : ℕ) : pb.risk (df.take (i + 1)) i side = pb.risk df i side := by
  unfold risk
  rw [highs_take, lows_take, slice_take _ (Nat.le_refl _), slice_take _ (Nat.le_refl _),
    row_take df (Nat.lt_succ_self i)]

theorem signal_take (i : ℕ) : pb.signal (df.take (i + 1)) i side = pb.signal df i side := by
  unfold signal
  rw [risk_take, row_take df (Nat.lt_succ_self i)]

/-- Direction, breakout and engulfing candle, one after the other. -/
theorem gated_eq_some {bias : Option PositionSide} {b e : PositionSide → Bool}
    {rest : PositionSide → Option Signal} {s : Signal} :
    (match bias with
      | none => none
      | some side => if !b side then none else if !e side then none else rest side) = some s ↔
      ∃ side, bias = some side ∧ (b side ∧ e side) ∧ rest side = some s := by
  cases bias with
  | none => simp
  | some side =>
      by_cases hb : b side
      · by_cases he : e side
        · simp [hb, he]
        · simp [hb, he]
      · simp [hb]

/-- When the backtest signals. -/
theorem backtestSignal_eq_some (hi : i < df.length) {s : Signal} :
    pb.backtestSignal df frames i = some s ↔
      ∃ side, pb.earlyBias frames (row df i).close (row df i).closeTime = some side ∧
        pb.Triggers df i side ∧ pb.signal df i side = s := by
  unfold backtestSignal
  simp only [pb.getD_emaColumn df _ hi]
  rw [gated_eq_some]
  simp only [Option.some.injEq]
  rfl

/-- When the playbook signals on the bars up to `i`. -/
theorem evaluate_take_eq_some (hstart : pb.minBars ≤ i) (hi : i < df.length) (frames : Frames)
    {s : Signal} :
    pb.evaluate (df.take (i + 1)) frames = some s ↔
      ∃ side, pb.bias (row df i).close frames = some side ∧ pb.Triggers df i side ∧
        0 < pb.risk df i side ∧ pb.signal df i side = s := by
  have hlen : (df.take (i + 1)).length = i + 1 := by
    rw [List.length_take]
    omega
  unfold evaluate
  rw [if_neg (by omega)]
  simp only [hlen, Nat.add_sub_cancel, row_take df (Nat.lt_succ_self i), breakout_take,
    engulfs_take, risk_take, signal_take]
  rw [gated_eq_some]
  have hrest : ∀ side, (if pb.risk df i side ≤ 0 then none else some (pb.signal df i side)) = some s ↔
      0 < pb.risk df i side ∧ pb.signal df i side = s := by
    intro side
    by_cases hrisk : pb.risk df i side ≤ 0
    · simp [hrisk, not_lt.mpr hrisk]
    · simp [hrisk, not_le.mp hrisk]
  simp only [hrest]
  rfl

/-- The backtest decides as the playbook does on the closed bars exactly when
counting frames early is harmless. -/
theorem backtestSignal_eq_iff (hstart : pb.minBars ≤ i) (hi : i < df.length) :
    pb.backtestSignal df frames i =
        pb.evaluate (df.take (i + 1)) (frames.closedBy (row df i).closeTime) ↔
      pb.WarmupHarmless df frames i := by
  constructor
  · intro heq side htriggers
    have hside : ∀ side', pb.signal df i side' = pb.signal df i side → side' = side := fun side' h => by
      rw [← pb.side_signal df i side', h, side_signal]
    have hsome : pb.backtestSignal df frames i = some (pb.signal df i side) ↔
        pb.evaluate (df.take (i + 1)) (frames.closedBy (row df i).closeTime) =
          some (pb.signal df i side) := by
      rw [heq]
    rw [pb.backtestSignal_eq_some df frames hi, pb.evaluate_take_eq_some df hstart hi] at hsome
    constructor
    · intro hearly
      obtain ⟨side', hbias, -, hrisk, hs⟩ := hsome.mp ⟨side, hearly, htriggers, rfl⟩
      obtain rfl := hside side' hs
      exact ⟨hbias, hrisk⟩
    · rintro ⟨hbias, hrisk⟩
      obtain ⟨side', hearly, -, hs⟩ := hsome.mpr ⟨side, hbias, htriggers, hrisk, rfl⟩
      obtain rfl := hside side' hs
      exact hearly
  · intro hwarm
    apply Option.ext
    intro s
    rw [pb.backtestSignal_eq_some df frames hi, pb.evaluate_take_eq_some df hstart hi]
    refine exists_congr (fun side => ?_)
    constructor
    · rintro ⟨hearly, htriggers, hs⟩
      obtain ⟨hbias, hrisk⟩ := (hwarm side htriggers).mp hearly
      exact ⟨hbias, htriggers, hrisk, hs⟩
    · rintro ⟨hbias, htriggers, hrisk, hs⟩
      exact ⟨(hwarm side htriggers).mpr ⟨hbias, hrisk⟩, htriggers, hs⟩

end Compare

end MtfAlignment

end CryptoTrader.Backtest
