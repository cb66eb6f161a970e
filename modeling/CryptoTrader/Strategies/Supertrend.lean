import CryptoTrader.Backtest.Frames
import CryptoTrader.Lib.Significant

/-!
# The Supertrend2 playbook

`strategies/supertrend2.py`: Wilder's ATR, its length by timeframe, the bands and
the direction they give, and the setups of `PlaybookSupertrend2`.  Prices are
exact; a setup's reason and score, which nothing here reads, are left out, as is
the ADX filter.
-/

namespace CryptoTrader

open CryptoTrader.Lib CryptoTrader.Backtest

/-! ## Timeframes -/

/-- The timeframes both implementations know: `"5m"`, `"4h"`, and the spellings of
a day and of a week. -/
inductive Timeframe where
  | minutes (n : ℕ)
  | hours (n : ℕ)
  | daily
  | weekly
  deriving DecidableEq, Repr

/-- What the base length is multiplied with, where it is scaled. -/
def Timeframe.scale : Timeframe → Option ℚ
  | .minutes n =>
      if n ≤ 1 then none
      else if n ≤ 5 then some (6 / 5)
      else if n ≤ 15 then some (3 / 2)
      else if n ≤ 60 then some 2
      else some 3
  | .hours n => if n ≤ 1 then some 2 else if n ≤ 4 then some 3 else some 4
  | .daily => some 4
  | .weekly => some 8

/-- `adaptive_atr_length`; `round` takes halfway cases to the even integer. -/
def adaptiveAtrLength (base : ℕ) (timeframe : Timeframe) : ℕ :=
  match timeframe.scale with
  | none => base
  | some scale => max 1 (roundHalfEven (base * scale)).toNat

/-! ## The bands -/

/-- The true range of a bar after another. -/
def trueRange (prev c : Candle) : ℚ :=
  max (max (c.high - c.low) |c.high - prev.close|) |c.low - prev.close|

def wilderAtrFrom (alpha : ℚ) (prev : Candle) (atr : ℚ) : List Candle → List ℚ
  | [] => []
  | c :: rest =>
      let next := atr + alpha * (trueRange prev c - atr)
      next :: wilderAtrFrom alpha c next rest

/-- `_wilder_atr`. -/
def wilderAtr (length : ℕ) : List Candle → List ℚ
  | [] => []
  | c :: rest =>
      let first := c.high - c.low
      first :: wilderAtrFrom (1 / (max length 1 : ℕ)) c first rest

/-- `-1` in an uptrend, `+1` in a downtrend. -/
inductive TrendDirection where
  | up
  | down
  deriving DecidableEq, Repr

/-- The values of the bands at a bar. -/
structure Band where
  upper : ℚ
  lower : ℚ
  direction : TrendDirection
  st : ℚ
  deriving DecidableEq

/-- The bands after a bar, from those before and the basic bands. -/
def Band.next (prev : Band) (prevClose upperBasic lowerBasic : ℚ) : Band :=
  if prev.upper < prevClose then
    { upper := upperBasic, lower := lowerBasic, direction := .up, st := lowerBasic }
  else if prevClose < prev.lower then
    { upper := upperBasic, lower := lowerBasic, direction := .down, st := upperBasic }
  else
    match prev.direction with
    | .up =>
        let lower := max lowerBasic prev.lower
        { upper := upperBasic, lower, direction := .up, st := lower }
    | .down =>
        let upper := min upperBasic prev.upper
        { upper, lower := lowerBasic, direction := .down, st := upper }

/-- `hl2`. -/
def hl2 (c : Candle) : ℚ := (c.high + c.low) / 2

def bandsFrom (factor : ℚ) (prevClose : ℚ) (prev : Band) : List (Candle × ℚ) → List Band
  | [] => []
  | (c, atr) :: rest =>
      let band := prev.next prevClose (hl2 c + factor * atr) (hl2 c - factor * atr)
      band :: bandsFrom factor c.close band rest

/-- `compute_supertrend2`. -/
def computeSupertrend2 (df : List Candle) (factor : ℚ) (atrLength : ℕ) : List Band :=
  match df.zip (wilderAtr atrLength df) with
  | [] => []
  | (c, atr) :: rest =>
      let lower := hl2 c - factor * atr
      let first : Band :=
        { upper := hl2 c + factor * atr, lower, direction := .up, st := lower }
      first :: bandsFrom factor c.close first rest

/-- The direction series. -/
def directions (df : List Candle) (factor : ℚ) (atrLength : ℕ) : List TrendDirection :=
  (computeSupertrend2 df factor atrLength).map Band.direction

section Lengths

theorem length_wilderAtrFrom (alpha atr : ℚ) (prev : Candle) (df : List Candle) :
    (wilderAtrFrom alpha prev atr df).length = df.length := by
  induction df generalizing prev atr with
  | nil => rfl
  | cons c rest ih => simp [wilderAtrFrom, ih]

theorem length_wilderAtr (length : ℕ) (df : List Candle) :
    (wilderAtr length df).length = df.length := by
  cases df with
  | nil => rfl
  | cons c rest => simp [wilderAtr, length_wilderAtrFrom]

theorem length_bandsFrom (factor prevClose : ℚ) (prev : Band) (rows : List (Candle × ℚ)) :
    (bandsFrom factor prevClose prev rows).length = rows.length := by
  induction rows generalizing prevClose prev with
  | nil => rfl
  | cons row rest ih =>
      obtain ⟨c, atr⟩ := row
      simp [bandsFrom, ih]

@[simp] theorem length_computeSupertrend2 (df : List Candle) (factor : ℚ) (atrLength : ℕ) :
    (computeSupertrend2 df factor atrLength).length = df.length := by
  have hrows : (df.zip (wilderAtr atrLength df)).length = df.length := by
    simp [length_wilderAtr]
  unfold computeSupertrend2
  cases hzip : df.zip (wilderAtr atrLength df) with
  | nil => simpa [hzip] using hrows
  | cons row rest =>
      obtain ⟨c, atr⟩ := row
      rw [hzip] at hrows
      simpa [length_bandsFrom] using hrows

end Lengths

/-- `rolling(20).mean().iloc[-1]` of the volumes. -/
def averageVolume (df : List Candle) : ℚ := ((volumes df).drop (df.length - 20)).sum / 20

/-! ## The playbook -/

inductive EntryMode where
  | flip
  | retracement
  | continuous
  deriving DecidableEq, Repr

inductive SlMode where
  | supertrend
  | fixedPct
  | atr
  deriving DecidableEq, Repr

/-- `PlaybookSupertrend2`, without the ADX filter. -/
structure PlaybookSupertrend2 where
  atrPeriod : ℕ := 10
  factor : ℚ := 3
  useAdaptiveAtr : Bool := true
  timeframe : Timeframe := .hours 1
  htfTimeframe : Timeframe := .hours 4
  entryMode : EntryMode := .flip
  retracementPct : ℚ := 1
  flipLookback : ℕ := 5
  useHtfFilter : Bool := true
  useVolFilter : Bool := false
  volMultiplier : ℚ := 6 / 5
  tp1Pct : ℚ := 1
  useTp : Bool := true
  slMode : SlMode := .supertrend
  slPct : ℚ := 3 / 2
  slAtrMult : ℚ := 5 / 2
  maxHoldHours : ℕ := 168
  deriving DecidableEq

/-- What is kept of the dict `evaluate` returns. -/
structure SupertrendSetup where
  side : PositionSide
  entryPrice : ℚ
  slPrice : ℚ
  tpPrice : Option ℚ
  timeStopHours : ℕ
  deriving DecidableEq

/-- The side of a direction. -/
def TrendDirection.side : TrendDirection → PositionSide
  | .up => .long
  | .down => .short

namespace PlaybookSupertrend2

variable (pb : PlaybookSupertrend2)

/-- `__init__`, which clamps its arguments. -/
def init (args : PlaybookSupertrend2) : PlaybookSupertrend2 :=
  { args with
    atrPeriod := max 1 args.atrPeriod
    factor := max (1 / 10) args.factor
    retracementPct := max 0 args.retracementPct
    flipLookback := max 1 args.flipLookback
    volMultiplier := max (1 / 10) args.volMultiplier
    tp1Pct := max 0 args.tp1Pct
    slPct := max 0 args.slPct
    slAtrMult := max 0 args.slAtrMult
    maxHoldHours := max 1 args.maxHoldHours }

/-- The length for a timeframe. -/
def atrLengthOn (timeframe : Timeframe) : ℕ :=
  if pb.useAdaptiveAtr then adaptiveAtrLength pb.atrPeriod timeframe else pb.atrPeriod

/-- `_effective_atr_len`. -/
def effectiveAtrLen : ℕ := pb.atrLengthOn pb.timeframe

/-- `_min_bars`. -/
def minBars : ℕ := max (pb.effectiveAtrLen * 3) 20

/-- The bands of a frame with the effective length. -/
def bands (df : List Candle) : List Band := computeSupertrend2 df pb.factor pb.effectiveAtrLen

/-- `curr_dir`. -/
def currDir (df : List Candle) : TrendDirection :=
  ((pb.bands df).map Band.direction).getD (df.length - 1) .up

/-- `prev_dir`. -/
def prevDir (df : List Candle) : TrendDirection :=
  ((pb.bands df).map Band.direction).getD (df.length - 2) .up

/-- The loop of `_retracement_signal`, at the bar `i` of the window: the last flip
before the latest bar counts, if the direction stayed and the close is near. -/
def retracementFrom (dirs : List TrendDirection) (closes : List ℚ) (currClose : ℚ) :
    ℕ → Option PositionSide
  | 0 => none
  | i + 1 =>
      let dir := dirs.getD (i + 1) .up
      if dir = dirs.getD i .up then retracementFrom dirs closes currClose i
      else if (dirs.drop (i + 1)).all (· = dir) then
        let flipPrice := closes.getD (i + 1) 0
        let lo := flipPrice * (1 - pb.retracementPct / 100)
        let hi := flipPrice * (1 + pb.retracementPct / 100)
        if lo ≤ currClose ∧ currClose ≤ hi then some dir.side else none
      else none

/-- `_retracement_signal`. -/
def retracementSignal (df : List Candle) (currClose : ℚ) : Option PositionSide :=
  let lookback := min (pb.flipLookback + 1) df.length
  let dirs := (pb.bands df).map Band.direction
  pb.retracementFrom (dirs.drop (dirs.length - lookback))
    ((closes df).drop (df.length - lookback)) currClose (lookback - 2)

/-- `curr_close`. -/
def currClose (df : List Candle) : ℚ := (closes df).getD (df.length - 1) 0

/-- The entry signal at the last bar. -/
def signal (df : List Candle) : Option PositionSide :=
  match pb.entryMode with
  | .flip => if pb.currDir df ≠ pb.prevDir df then some (pb.currDir df).side else none
  | .retracement => pb.retracementSignal df (currClose df)
  | .continuous => some (pb.currDir df).side

/-- The filter by the higher timeframe lets a direction pass. -/
def htfPasses (htf : Option (List Candle)) (curr : TrendDirection) : Bool :=
  match htf with
  | some htf =>
      if pb.useHtfFilter && pb.minBars + 2 ≤ htf.length then
        (directions htf pb.factor (pb.atrLengthOn pb.htfTimeframe)).getLast? = some curr
      else true
  | none => true

/-- The volume filter lets the last bar pass. -/
def volumePasses (df : List Candle) : Bool :=
  if pb.useVolFilter then
    let avg := averageVolume df
    if 0 < avg then pb.volMultiplier ≤ (volumes df).getLastD 0 / avg else true
  else true

/-- The setup of a side. -/
def setup (df : List Candle) (side : PositionSide) : SupertrendSetup :=
  let currSt := ((pb.bands df).map Band.st).getD (df.length - 1) 0
  let entryPrice := currClose df
  let atr := (wilderAtr pb.effectiveAtrLen df).getLastD 0
  let raw :=
    match pb.slMode, side with
    | .supertrend, _ => currSt
    | .atr, .long => entryPrice - atr * pb.slAtrMult
    | .atr, .short => entryPrice + atr * pb.slAtrMult
    | .fixedPct, .long => entryPrice * (1 - pb.slPct / 100)
    | .fixedPct, .short => entryPrice * (1 + pb.slPct / 100)
  -- the stop must be on the losing side of the entry
  let sl :=
    match side with
    | .long => if entryPrice ≤ raw then entryPrice * (99 / 100) else raw
    | .short => if raw ≤ entryPrice then entryPrice * (101 / 100) else raw
  let tp :=
    match side with
    | .long => entryPrice * (1 + pb.tp1Pct / 100)
    | .short => entryPrice * (1 - pb.tp1Pct / 100)
  { side
    entryPrice
    slPrice := sl
    tpPrice := if pb.useTp && 0 < pb.tp1Pct then some tp else none
    timeStopHours := pb.maxHoldHours }

/-- `evaluate`. -/
def evaluate (df : List Candle) (htf : Option (List Candle)) : Option SupertrendSetup :=
  if df.length < pb.minBars + 2 then none
  else if pb.htfPasses htf (pb.currDir df) && pb.volumePasses df then
    (pb.signal df).map (pb.setup df)
  else none

/-- `get_current_direction`. -/
def getCurrentDirection (df : List Candle) : Option TrendDirection :=
  if df.length < pb.minBars then none else ((pb.bands df).map Band.direction).getLast?

/-! ## The side of a setup -/

variable {pb}

/-- With enough bars the direction is that of the last one. -/
theorem getCurrentDirection_eq {df : List Candle} (h : pb.minBars ≤ df.length) :
    pb.getCurrentDirection df = some (pb.currDir df) := by
  have hbars : 20 ≤ pb.minBars := le_max_right _ _
  have hlength : ((pb.bands df).map Band.direction).length = df.length := by
    simp [bands]
  have hlt : df.length - 1 < ((pb.bands df).map Band.direction).length := by omega
  rw [getCurrentDirection, if_neg h.not_gt, currDir, List.getLast?_eq_getElem?, hlength,
    List.getD_eq_getElem?_getD, List.getElem?_eq_getElem hlt]
  rfl

/-- The flip of a retracement is to the direction of the last bar. -/
theorem retracementFrom_side {dirs : List TrendDirection} {closes : List ℚ} {currClose : ℚ}
    {i : ℕ} {side : PositionSide} (hi : i + 1 < dirs.length)
    (h : pb.retracementFrom dirs closes currClose i = some side) :
    side = (dirs.getD (dirs.length - 1) .up).side := by
  induction i with
  | zero => cases h
  | succ i ih =>
      simp only [retracementFrom] at h
      split_ifs at h with hsame hvalid hnear
      · exact ih (by omega) h
      · have hlast : dirs.getD (dirs.length - 1) .up ∈ dirs.drop (i + 1) := by
          have hlt : dirs.length - 1 < dirs.length := by omega
          have hdrop : dirs.length - 1 - (i + 1) < (dirs.drop (i + 1)).length := by
            rw [List.length_drop]
            omega
          have hmem := List.getElem_mem hdrop
          rw [List.getElem_drop] at hmem
          rw [List.getD_eq_getElem?_getD, List.getElem?_eq_getElem hlt]
          simpa [show i + 1 + (dirs.length - 1 - (i + 1)) = dirs.length - 1 by omega] using hmem
        have heq := List.all_eq_true.mp hvalid _ hlast
        rw [of_decide_eq_true heq]
        exact (Option.some.inj h).symm

theorem retracementSignal_side {df : List Candle} {currClose : ℚ} {side : PositionSide}
    (h : pb.retracementSignal df currClose = some side) : side = (pb.currDir df).side := by
  have hlength : ((pb.bands df).map Band.direction).length = df.length := by
    simp [bands]
  simp only [retracementSignal, hlength] at h
  have hlookback : min (pb.flipLookback + 1) df.length ≤ df.length := min_le_right _ _
  by_cases hwindow : 3 ≤ min (pb.flipLookback + 1) df.length
  · have hside := retracementFrom_side (by rw [List.length_drop, hlength]; omega) h
    rw [List.length_drop, hlength, List.getD_eq_getElem?_getD, List.getElem?_drop] at hside
    rw [hside, currDir, List.getD_eq_getElem?_getD]
    congr 3
    omega
  · have hzero : min (pb.flipLookback + 1) df.length - 2 = 0 := by omega
    rw [hzero] at h
    cases h

/-- A setup is with the direction of the last bar. -/
theorem evaluate_side {df : List Candle} {htf : Option (List Candle)} {setup : SupertrendSetup}
    (h : pb.evaluate df htf = some setup) :
    setup.side = (pb.currDir df).side ∧ pb.minBars ≤ df.length := by
  unfold evaluate at h
  split_ifs at h with hshort hfilters
  obtain ⟨side, hsignal, rfl⟩ := Option.map_eq_some_iff.mp h
  refine ⟨?_, by omega⟩
  show side = _
  unfold signal at hsignal
  cases hmode : pb.entryMode with
  | flip =>
      simp only [hmode] at hsignal
      split_ifs at hsignal
      exact (Option.some.inj hsignal).symm
  | retracement =>
      simp only [hmode] at hsignal
      exact retracementSignal_side hsignal
  | continuous =>
      simp only [hmode] at hsignal
      exact (Option.some.inj hsignal).symm

end PlaybookSupertrend2

end CryptoTrader
