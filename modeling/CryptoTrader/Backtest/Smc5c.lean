import CryptoTrader.Backtest.Replay

/-!
# The five-condition strategy

`PlaybookSMC5C.evaluate` and the decision of `run_backtest_smc5c`.  They share
the rules for the trend, the break of structure and the gap.  The backtest has
guards of its own on the frames, and cuts its windows out of columns it has
computed once.
-/

namespace CryptoTrader.Backtest

open CryptoTrader.Lib

/-! ## Shared rules -/

/-- `trend_dir`: `+1` is long, `-1` short and `0` none. -/
def trendDir (htfClose : List ℚ) (fast slow : ℕ) : Option PositionSide :=
  if htfClose.length < slow + 2 then none
  else
    match (computeEma htfClose fast).getLast?, (computeEma htfClose slow).getLast? with
    | some ef, some es => if ef = es then none else if es < ef then some .long else some .short
    | _, _ => none

/-- `bos_dir`. -/
def bosDir (df1h : List Candle) (lookback : ℕ) : Option PositionSide :=
  if df1h.length < lookback + 2 then none
  else
    let n := df1h.length
    let hi := npMax (slice (highs df1h) (n - lookback - 1) (n - 1))
    let lo := npMin (slice (lows df1h) (n - lookback - 1) (n - 1))
    let c := (row df1h (n - 1)).close
    if hi < c then some .long else if c < lo then some .short else none

/-- `fvg_recent`: whether there is a gap in the direction among the last bars. -/
def fvgRecent (df15m : List Candle) (window : ℕ) (side : PositionSide) : Bool :=
  if df15m.length < 3 then false
  else
    let start := max 2 (df15m.length - window)
    (List.range' start (df15m.length - start)).any (fun j =>
      let bull := (row df15m (j - 2)).high < (row df15m j).low
      match side with
      | .long => bull
      | .short => !bull && (row df15m j).high < (row df15m (j - 2)).low)

/-- `PlaybookSMC5C`, within the bounds its constructor enforces. -/
structure Smc5c where
  emaFast : ℕ := 50
  emaSlow : ℕ := 200
  bosLookback : ℕ := 5
  fvgWindow : ℕ := 10
  atrPeriod : ℕ := 14
  volWindow : ℕ := 200
  atrPctile : ℚ := 60
  volPctile : ℚ := 70
  tpPct : ℚ := 10 / 1000
  slPct : ℚ := 5 / 1000
  maxHoldHours : ℕ := 4
  emaFast_ge : 2 ≤ emaFast := by decide
  emaSlow_gt : emaFast < emaSlow := by decide
  bosLookback_pos : 0 < bosLookback := by decide
  fvgWindow_pos : 0 < fvgWindow := by decide
  atrPeriod_ge : 2 ≤ atrPeriod := by decide
  volWindow_ge : 20 ≤ volWindow := by decide
  atrPctile_mem : 0 ≤ atrPctile ∧ atrPctile ≤ 100 := by norm_num
  volPctile_mem : 0 ≤ volPctile ∧ volPctile ≤ 100 := by norm_num
  tpPct_ge : 1 / 10000 ≤ tpPct := by norm_num
  slPct_ge : 1 / 10000 ≤ slPct := by norm_num
  maxHoldHours_pos : 0 < maxHoldHours := by decide

namespace Smc5c

variable (pb : Smc5c)

/-- Entry, stop and target at a close. -/
def signal (entry : ℚ) (side : PositionSide) : Signal :=
  match side with
  | .long =>
      { side := side, entry := entry, sl := entry * (1 - pb.slPct), tp := entry * (1 + pb.tpPct) }
  | .short =>
      { side := side, entry := entry, sl := entry * (1 + pb.slPct), tp := entry * (1 - pb.tpPct) }

/-! ## The playbook -/

/-- `_min_bars`. -/
def minBars : ℕ := max (max (pb.atrPeriod + 2) (pb.volWindow + 2)) 30

/-- The last value of a series is past the percentile of its last values. -/
def isHigh (series : List ℚ) (q : ℚ) : Bool :=
  let window := series.drop (series.length - pb.volWindow)
  5 ≤ series.length && percentile window q < series.getLastD 0

/-- The rows of a frame, none when it is missing. -/
def barsOf (frames : Frames) (tf : String) : List Candle :=
  ((frames.get? tf).map Frame.bars).getD []

/-- `evaluate`; a missing frame fails its rule as an empty one does. -/
def evaluate (df : List Candle) (frames : Frames) : Option Signal :=
  if df.length < pb.minBars then none
  else
    match trendDir (closes (barsOf frames "4h")) pb.emaFast pb.emaSlow with
    | none => none
    | some side =>
        if bosDir (barsOf frames "1h") pb.bosLookback ≠ some side then none
        else if !fvgRecent (barsOf frames "15m") pb.fvgWindow side then none
        else if !pb.isHigh (computeAtr df pb.atrPeriod).reduceOption pb.atrPctile then none
        else if !pb.isHigh (volumes df) pb.volPctile then none
        else some (pb.signal (row df (df.length - 1)).close side)

/-! ## The backtest -/

/-- `win`. -/
def win : ℕ := max (max (pb.atrPeriod + 2) (pb.volWindow + 2)) 60

/-- `htf_idx`: a frame with its aligned index, unless it is missing or short. -/
def htfIdx (frames : Frames) (tf : String) : Option Frame :=
  (frames.get? tf).filter (fun hdf => 5 ≤ hdf.bars.length)

/-- The window of a column that ends at bar `i`, without the missing values. -/
def windowAt (column : List (Option ℚ)) (i : ℕ) : List ℚ :=
  (slice column (i - pb.volWindow + 1) (i + 1)).reduceOption

/-- Conditions 4 and 5 at bar `i`. -/
def activeAt (df : List Candle) (i : ℕ) : Bool :=
  let atr := computeAtr df pb.atrPeriod
  let a := pb.windowAt atr i
  let vw := slice (volumes df) (i - pb.volWindow + 1) (i + 1)
  (5 ≤ a.length && (atr.getD i none).all (fun x => percentile a pb.atrPctile < x)) &&
    (5 ≤ vw.length && percentile vw pb.volPctile < (row df i).volume)

/-- The decision of `run_backtest_smc5c` at bar `i`; `none` is the `break` of a
run without a 4h frame. -/
def backtestSignal (df : List Candle) (frames : Frames) (i : ℕ) : Option (Option Signal) :=
  let t := (row df i).closeTime
  match htfIdx frames "4h" with
  | none => none
  | some hdf4 =>
      let k4 := hdf4.alignedIndex t
      if k4 < pb.emaSlow + 2 then some none
      else
        match trendDir ((closes hdf4.bars).take (k4 + 1)) pb.emaFast pb.emaSlow with
        | none => some none
        | some side =>
            match htfIdx frames "1h" with
            | none => some none
            | some hdf1 =>
                if bosDir (hdf1.bars.take (hdf1.alignedIndex t + 1)) pb.bosLookback ≠ some side
                then some none
                else
                  match htfIdx frames "15m" with
                  | none => some none
                  | some hdf15 =>
                      if !fvgRecent (hdf15.bars.take (hdf15.alignedIndex t + 1)) pb.fvgWindow side
                      then some none
                      else if !pb.activeAt df i then some none
                      else some (some (pb.signal (row df i).close side))

/-- The replay of `run_backtest_smc5c`. -/
def replay (m : FillModel) (df : List Candle) (frames : Frames) : Replay Unit where
  bars := df.length
  start := pb.win
  decide := fun _ i =>
    match pb.backtestSignal df frames i with
    | none => ((), .stop)
    | some none => ((), .skip)
    | some (some s) =>
        ((), .enter
          { idx := i, side := s.side, price := s.entry, sl := s.sl, tp := some s.tp,
            risk := |s.entry - s.sl| })
  exitOn := fun e j => e.exitOn m (row df j) false j
  forward := by
    intro s i e h
    split at h
    · cases h
    · cases h
    · cases h
      exact Nat.le_refl _
  dated := dated_exitOn m df

/-- `run_backtest_smc5c`. -/
def runBacktestSmc5c (m : FillModel) (df : List Candle) (frames : Frames) : List Round :=
  if df.length < pb.win + 2 then [] else (pb.replay m df frames).run ()

/-! ## The two decisions -/

section Compare

variable (df : List Candle) (frames : Frames) {i : ℕ} (side : PositionSide)

/-- The window of the engine is the end of the column without missing values. -/
theorem windowAt_eq (period : ℕ) (hwin : pb.win ≤ i) (hi : i < df.length) :
    let series := (computeAtr (df.take (i + 1)) period).reduceOption
    pb.windowAt (computeAtr df period) i = series.drop (series.length - pb.volWindow) := by
  intro series
  have hvol : pb.volWindow + 2 ≤ i := by
    unfold win at hwin
    omega
  obtain ⟨a, values, hcolumn⟩ := computeAtr_eq (df.take (i + 1)) period
  have hlen : (computeAtr (df.take (i + 1)) period).length = i + 1 := by
    rw [length_computeAtr, List.length_take]
    omega
  have hdrop := reduceOption_drop a values (i - pb.volWindow + 1)
  simp only [← hcolumn, hlen] at hdrop
  unfold windowAt slice
  rw [← computeAtr_take, hdrop]
  congr 2
  omega

/-- The ATR rule of the engine is the playbook's. -/
theorem atr_rule (hwin : pb.win ≤ i) (hi : i < df.length) :
    let a := pb.windowAt (computeAtr df pb.atrPeriod) i
    (5 ≤ a.length && ((computeAtr df pb.atrPeriod).getD i none).all
        (fun x => percentile a pb.atrPctile < x)) =
      pb.isHigh (computeAtr (df.take (i + 1)) pb.atrPeriod).reduceOption pb.atrPctile := by
  intro a
  have ha := pb.windowAt_eq df pb.atrPeriod hwin hi
  set series := (computeAtr (df.take (i + 1)) pb.atrPeriod).reduceOption with hseries
  have hvol := pb.volWindow_ge
  have hlen : a.length = series.length - (series.length - pb.volWindow) := by
    rw [show a = _ from ha, List.length_drop]
  unfold isHigh
  by_cases hfive : 5 ≤ series.length
  · obtain ⟨k, values, hcolumn⟩ := computeAtr_eq (df.take (i + 1)) pb.atrPeriod
    have hne : series ≠ [] := by
      intro hnil
      rw [hnil, List.length_nil] at hfive
      omega
    have hlast := getLast?_of_values k values (0 : ℚ) (by rw [← hcolumn]; exact hne)
    rw [← hcolumn, ← hseries, computeAtr_take, List.getLast?_eq_getElem?, List.length_take,
      length_computeAtr, Nat.min_eq_left (by omega), Nat.add_sub_cancel,
      List.getElem?_take_of_lt (Nat.lt_succ_self i)] at hlast
    have hleft : 5 ≤ a.length := by omega
    rw [List.getD_eq_getElem?_getD, hlast, ← show a = _ from ha, Option.getD_some, Option.all_some]
    simp only [hfive, hleft]
  · have hleft : ¬ 5 ≤ a.length := by omega
    simp [hfive, hleft]

/-- The volume rule of the engine is the playbook's. -/
theorem volume_rule (hwin : pb.win ≤ i) (hi : i < df.length) :
    let vw := slice (volumes df) (i - pb.volWindow + 1) (i + 1)
    (5 ≤ vw.length && percentile vw pb.volPctile < (row df i).volume) =
      pb.isHigh (volumes (df.take (i + 1))) pb.volPctile := by
  intro vw
  have hvol : 20 ≤ pb.volWindow ∧ pb.volWindow + 2 ≤ i := by
    refine ⟨pb.volWindow_ge, ?_⟩
    unfold win at hwin
    omega
  have hlen : (volumes (df.take (i + 1))).length = i + 1 := by
    rw [volumes, List.length_map, List.length_take]
    omega
  have hwindow : (volumes (df.take (i + 1))).drop (i + 1 - pb.volWindow) = vw := by
    unfold vw slice
    rw [volumes_take]
    congr 1
    omega
  have hlast : (volumes (df.take (i + 1))).getLastD 0 = (row df i).volume := by
    rw [List.getLastD_eq_getLast?, List.getLast?_eq_getElem?, hlen, volumes, List.getElem?_map,
      Nat.add_sub_cancel, List.getElem?_take_of_lt (Nat.lt_succ_self i), List.getElem?_eq_getElem hi]
    simp [row, List.getD, hi]
  have hvw : 5 ≤ vw.length := by
    rw [← hwindow, List.length_drop, hlen]
    omega
  unfold isHigh
  have hfive : 5 ≤ i + 1 := by omega
  simp only [hlen, hwindow, hlast, hvw, hfive]

/-- A rule that fails on two rows or less does not notice the bar that stands in
for those of a frame none of which has closed. -/
theorem rule_alignedBars {β : Type} (rule : List Candle → β) (fails : β)
    (hshort : ∀ bars : List Candle, bars.length < 3 → rule bars = fails) (f : Frame) (t : ℤ) :
    rule (f.alignedBars t) = rule (f.closedBy t).bars := by
  unfold Frame.alignedBars
  split
  · next hnone =>
      rw [hnone, hshort [] (by decide), hshort]
      rw [List.length_take]
      omega
  · rfl

theorem not_bosDir_of_short (bars : List Candle) (h : bars.length < 3) :
    ¬ bosDir bars pb.bosLookback = some side := by
  have hpos := pb.bosLookback_pos
  rw [bosDir, if_pos (by omega)]
  exact fun h => nomatch h

theorem not_fvgRecent_of_short (bars : List Candle) (h : bars.length < 3) :
    ¬ fvgRecent bars pb.fvgWindow side := by
  rw [fvgRecent, if_pos h]
  exact Bool.false_ne_true

/-- The rows of a frame at `t`. -/
theorem barsOf_closedBy (tf : String) (t : ℤ) :
    barsOf (frames.closedBy t) tf =
      ((frames.get? tf).map (fun f => (f.closedBy t).bars)).getD [] := by
  unfold barsOf Frames.closedBy
  rw [Dict.get?_mapVal, Option.map_map]
  rfl

/-- The five rules at bar `i` on the closed bars. -/
structure Rules (i : ℕ) (side : PositionSide) : Prop where
  trend : trendDir (closes (barsOf (frames.closedBy (row df i).closeTime) "4h")) pb.emaFast
    pb.emaSlow = some side
  bos : bosDir (barsOf (frames.closedBy (row df i).closeTime) "1h") pb.bosLookback = some side
  fvg : fvgRecent (barsOf (frames.closedBy (row df i).closeTime) "15m") pb.fvgWindow side
  atr : pb.isHigh (computeAtr (df.take (i + 1)) pb.atrPeriod).reduceOption pb.atrPctile
  volume : pb.isHigh (volumes (df.take (i + 1))) pb.volPctile

/-- The guards of the engine that the playbook does not have. -/
structure Guards (i : ℕ) : Prop where
  slow : (barsOf (frames.closedBy (row df i).closeTime) "4h").length ≠ pb.emaSlow + 2
  hourly : 5 ≤ (barsOf frames "1h").length
  quarterly : 5 ≤ (barsOf frames "15m").length

theorem evaluate_take_eq_some (hwin : pb.win ≤ i) (hi : i < df.length) {s : Signal} :
    pb.evaluate (df.take (i + 1)) (frames.closedBy (row df i).closeTime) = some s ↔
      ∃ side, pb.Rules df frames i side ∧ pb.signal (row df i).close side = s := by
  have hlen : (df.take (i + 1)).length = i + 1 := by
    rw [List.length_take]
    omega
  have hmin : ¬ (df.take (i + 1)).length < pb.minBars := by
    unfold win at hwin
    unfold minBars
    omega
  unfold evaluate
  rw [if_neg hmin, hlen, Nat.add_sub_cancel, row_take df (Nat.lt_succ_self i)]
  constructor
  · intro h
    split at h
    · cases h
    · next side htrend =>
        split_ifs at h with hbos hfvg hatr hvol
        refine ⟨side, ⟨htrend, not_not.mp hbos, by simpa using hfvg, by simpa using hatr,
          by simpa using hvol⟩, Option.some.inj h⟩
  · rintro ⟨side, hrules, hs⟩
    simp [hrules.trend, hrules.bos, hrules.fvg, hrules.atr, hrules.volume, hs]

theorem htfIdx_eq_some {tf : String} {f : Frame} :
    htfIdx frames tf = some f ↔ frames.get? tf = some f ∧ 5 ≤ f.bars.length := by
  unfold htfIdx
  rw [Option.filter_eq_some_iff, decide_eq_true_eq]

/-- A leg of the engine: the frame is long enough in the end, and the rule holds
of the bars closed. -/
theorem leg_iff (tf : String) (t : ℤ) (rule : List Candle → Prop)
    (hshort : ∀ bars : List Candle, bars.length < 3 → ¬ rule bars) :
    (∃ f, htfIdx frames tf = some f ∧ rule (f.bars.take (f.alignedIndex t + 1))) ↔
      5 ≤ (barsOf frames tf).length ∧ rule (barsOf (frames.closedBy t) tf) := by
  have haligned : ∀ f : Frame, rule (f.bars.take (f.alignedIndex t + 1)) = rule (f.closedBy t).bars :=
    fun f => by
      rw [f.take_alignedIndex t]
      exact rule_alignedBars rule False (fun bars h => eq_false (hshort bars h)) f t
  simp only [haligned, htfIdx_eq_some, barsOf_closedBy]
  unfold barsOf
  cases frames.get? tf with
  | none => simp
  | some f => simp

/-- The first leg of the engine, by its index: a bar more than the averages need
must have closed. -/
theorem trend_leg_iff (t : ℤ) :
    (∃ f, htfIdx frames "4h" = some f ∧ ¬ f.alignedIndex t < pb.emaSlow + 2 ∧
        trendDir ((closes f.bars).take (f.alignedIndex t + 1)) pb.emaFast pb.emaSlow = some side) ↔
      trendDir (closes (barsOf (frames.closedBy t) "4h")) pb.emaFast pb.emaSlow = some side ∧
        (barsOf (frames.closedBy t) "4h").length ≠ pb.emaSlow + 2 := by
  have hslow : 3 ≤ pb.emaSlow := by
    have hfast := pb.emaFast_ge
    have hgt := pb.emaSlow_gt
    omega
  have hneeds : ∀ series : List ℚ, trendDir series pb.emaFast pb.emaSlow = some side →
      pb.emaSlow + 2 ≤ series.length := by
    intro series h
    unfold trendDir at h
    split at h
    · cases h
    · next hlen => omega
  simp only [htfIdx_eq_some, barsOf_closedBy]
  cases frames.get? "4h" with
  | none =>
      constructor
      · rintro ⟨f, ⟨h, -⟩, -⟩
        cases h
      · rintro ⟨h, -⟩
        have hlen := hneeds _ h
        simp [closes] at hlen
  | some f =>
      have hle := f.closedBy_length_le t
      have hindex := f.alignedIndex_eq t
      have htake : pb.emaSlow + 2 ≤ (f.closedBy t).bars.length →
          (closes f.bars).take (f.alignedIndex t + 1) = closes (f.closedBy t).bars := by
        intro hlen
        have hne : (f.closedBy t).bars ≠ [] := by
          intro hnil
          rw [hnil, List.length_nil] at hlen
          omega
        rw [← closes_take, f.take_alignedIndex, Frame.alignedBars, if_neg hne]
      simp only [Option.map_some, Option.getD_some, Option.some.injEq]
      constructor
      · rintro ⟨f', ⟨rfl, -⟩, hk, htrend⟩
        rw [htake (by omega)] at htrend
        exact ⟨htrend, by omega⟩
      · rintro ⟨htrend, hne⟩
        have hlen := hneeds _ htrend
        rw [closes, List.length_map] at hlen
        exact ⟨f, ⟨rfl, by omega⟩, by omega, htake hlen ▸ htrend⟩

theorem backtestSignal_eq_some (hwin : pb.win ≤ i) (hi : i < df.length) {s : Signal} :
    pb.backtestSignal df frames i = some (some s) ↔
      ∃ side, pb.Rules df frames i side ∧ pb.Guards df frames i ∧
        pb.signal (row df i).close side = s := by
  have hactive : pb.activeAt df i ↔
      pb.isHigh (computeAtr (df.take (i + 1)) pb.atrPeriod).reduceOption pb.atrPctile ∧
        pb.isHigh (volumes (df.take (i + 1))) pb.volPctile := by
    unfold activeAt
    simp only [pb.atr_rule df hwin hi, pb.volume_rule df hwin hi, Bool.and_eq_true]
  have hbos := fun side => leg_iff frames "1h" (row df i).closeTime
    (fun bars => bosDir bars pb.bosLookback = some side) (pb.not_bosDir_of_short side)
  have hfvg := fun side => leg_iff frames "15m" (row df i).closeTime
    (fun bars => fvgRecent bars pb.fvgWindow side) (pb.not_fvgRecent_of_short side)
  constructor
  · intro h
    unfold backtestSignal at h
    simp only at h
    split at h
    · cases h
    next f4 h4 =>
    split at h
    · cases h
    next hk =>
    split at h
    · cases h
    next side htrend =>
    split at h
    · cases h
    next f1 h1 =>
    split at h
    · cases h
    next hb =>
    split at h
    · cases h
    next f15 h15 =>
    split at h
    · cases h
    next hf =>
    split at h
    · cases h
    next ha =>
    have ⟨htrend, hslow⟩ := (pb.trend_leg_iff frames side _).mp ⟨f4, h4, hk, htrend⟩
    have ⟨hhourly, hb⟩ := (hbos side).mp ⟨f1, h1, not_not.mp hb⟩
    have ⟨hquarterly, hf⟩ := (hfvg side).mp ⟨f15, h15, by simpa using hf⟩
    have ⟨hatr, hvol⟩ := hactive.mp (by simpa using ha)
    exact ⟨side, ⟨htrend, hb, hf, hatr, hvol⟩, ⟨hslow, hhourly, hquarterly⟩,
      Option.some.inj (Option.some.inj h)⟩
  · rintro ⟨side, hrules, hguards, hs⟩
    obtain ⟨f4, h4, hk, htrend⟩ := (pb.trend_leg_iff frames side _).mpr ⟨hrules.trend, hguards.slow⟩
    obtain ⟨f1, h1, hb⟩ := (hbos side).mpr ⟨hguards.hourly, hrules.bos⟩
    obtain ⟨f15, h15, hf⟩ := (hfvg side).mpr ⟨hguards.quarterly, hrules.fvg⟩
    have ha := hactive.mpr ⟨hrules.atr, hrules.volume⟩
    unfold backtestSignal
    simp [h4, hk, htrend, h1, hb, h15, hf, ha, hs]

/-- At bar `i` a rule fails or the guards of the engine hold. -/
def GuardsHarmless (i : ℕ) : Prop := ∀ side, pb.Rules df frames i side → pb.Guards df frames i

/-- The engine decides as the playbook does on the closed bars exactly when its
guards are harmless. -/
theorem backtestSignal_eq_iff (hwin : pb.win ≤ i) (hi : i < df.length) :
    (pb.backtestSignal df frames i).join =
        pb.evaluate (df.take (i + 1)) (frames.closedBy (row df i).closeTime) ↔
      pb.GuardsHarmless df frames i := by
  constructor
  · intro heq side hrules
    have hsome := (pb.evaluate_take_eq_some df frames hwin hi).mpr ⟨side, hrules, rfl⟩
    rw [← heq, Option.join_eq_some_iff] at hsome
    obtain ⟨-, -, hguards, -⟩ := (pb.backtestSignal_eq_some df frames hwin hi).mp hsome
    exact hguards
  · intro hharmless
    apply Option.ext
    intro s
    rw [Option.join_eq_some_iff, pb.backtestSignal_eq_some df frames hwin hi,
      pb.evaluate_take_eq_some df frames hwin hi]
    constructor
    · rintro ⟨side, hrules, -, hs⟩
      exact ⟨side, hrules, hs⟩
    · rintro ⟨side, hrules, hs⟩
      exact ⟨side, hrules, hharmless side hrules, hs⟩

end Compare

end Smc5c

end CryptoTrader.Backtest
