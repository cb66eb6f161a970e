import CryptoTrader.Strategies.Supertrend
import Mathlib.Tactic.LinearCombination

/-!
# The TypeScript port of Supertrend2

`engine/indicators.ts` and `engine/supertrend2.ts` of the user interface, and
when they agree with the Python playbook.  `Math.round` takes halfway cases
upwards.
-/

namespace CryptoTrader.Port

open CryptoTrader CryptoTrader.Lib CryptoTrader.Backtest

/-! ## Indicators -/

/-- `Math.round`. -/
def mathRound (x : ℚ) : ℤ := ⌊x + 1 / 2⌋

/-- `adaptiveATRLength`. -/
def adaptiveATRLength (base : ℕ) (timeframe : Timeframe) : ℕ :=
  match timeframe with
  | .minutes n =>
      if n ≤ 1 then base
      else if n ≤ 5 then max 1 (mathRound (base * (6 / 5))).toNat
      else if n ≤ 15 then max 1 (mathRound (base * (3 / 2))).toNat
      else if n ≤ 60 then max 1 (mathRound (base * 2)).toNat
      else max 1 (mathRound (base * 3)).toNat
  | .hours n =>
      if n ≤ 1 then max 1 (mathRound (base * 2)).toNat
      else if n ≤ 4 then max 1 (mathRound (base * 3)).toNat
      else max 1 (mathRound (base * 4)).toNat
  | .daily => max 1 (mathRound (base * 4)).toNat
  | .weekly => max 1 (mathRound (base * 8)).toNat

/-- The loop of `wilderATR` over high, low and close. -/
def wilderATRFrom (alpha prevClose prevAtr : ℚ) : List (ℚ × ℚ × ℚ) → List ℚ
  | [] => []
  | (high, low, close) :: rest =>
      let tr := max (high - low) (max |high - prevClose| |low - prevClose|)
      let atr := prevAtr + alpha * (tr - prevAtr)
      atr :: wilderATRFrom alpha close atr rest

/-- `wilderATR`. -/
def wilderATR (highs lows closes : List ℚ) (length : ℕ) : List ℚ :=
  match highs.zip (lows.zip closes) with
  | [] => []
  | (high, low, close) :: rest =>
      (high - low) :: wilderATRFrom (1 / (max length 1 : ℕ)) close (high - low) rest

/-- What the loop of `computeSupertrend2` writes at an index. -/
structure Entry where
  upper : ℚ
  lower : ℚ
  st : ℚ
  direction : TrendDirection

/-- The loop of `computeSupertrend2`, over close and basic bands. -/
def supertrendFrom (prevClose : ℚ) (prev : Entry) : List (ℚ × ℚ × ℚ) → List Entry
  | [] => []
  | (close, upperBasic, lowerBasic) :: rest =>
      let entry : Entry :=
        if prev.upper < prevClose then ⟨upperBasic, lowerBasic, lowerBasic, .up⟩
        else if prevClose < prev.lower then ⟨upperBasic, lowerBasic, upperBasic, .down⟩
        else if prev.direction = .up then
          ⟨upperBasic, max lowerBasic prev.lower, max lowerBasic prev.lower, .up⟩
        else ⟨min upperBasic prev.upper, lowerBasic, min upperBasic prev.upper, prev.direction⟩
      entry :: supertrendFrom close entry rest

structure SupertrendResult where
  supertrend : List ℚ
  direction : List TrendDirection

/-- `computeSupertrend2`. -/
def computeSupertrend2 (highs lows closes : List ℚ) (factor : ℚ) (atrLength : ℕ) :
    SupertrendResult :=
  let atr := wilderATR highs lows closes atrLength
  let src := List.zipWith (fun h l => (h + l) / 2) highs lows
  let upperBasic := List.zipWith (fun s a => s + factor * a) src atr
  let lowerBasic := List.zipWith (fun s a => s - factor * a) src atr
  let entries :=
    match closes.zip (upperBasic.zip lowerBasic) with
    | [] => []
    | (close, upper, lower) :: rest =>
        let first : Entry := ⟨upper, lower, lower, .up⟩
        first :: supertrendFrom close first rest
  { supertrend := entries.map Entry.st, direction := entries.map Entry.direction }

/-- `computeRVOL` at an index; `none` is `NaN`. -/
def rvolAt (volumes : List ℚ) (period i : ℕ) : Option ℚ :=
  if i < period then none
  else
    let avg := ((volumes.drop (i + 1 - period)).take period).sum / period
    some (if 0 < avg then volumes.getD i 0 / avg else 1)

/-- `computeRVOL`. -/
def computeRVOL (volumes : List ℚ) (period : ℕ) : List (Option ℚ) :=
  (List.range volumes.length).map (rvolAt volumes period)

/-! ## The strategy -/

/-- The entry modes of the port. -/
inductive EntryMode where
  | flip
  | retracement
  deriving DecidableEq, Repr

/-- `Supertrend2Config`, without the ADX filter. -/
structure Supertrend2Config where
  atrPeriod : ℕ := 10
  factor : ℚ := 3
  useAdaptiveATR : Bool := true
  timeframe : Timeframe := .hours 1
  htfTimeframe : Timeframe := .hours 4
  entryMode : EntryMode := .flip
  retracementPct : ℚ := 1
  flipLookback : ℕ := 5
  useHTFFilter : Bool := true
  useVolFilter : Bool := false
  volMultiplier : ℚ := 6 / 5
  tp1Pct : ℚ := 1
  useTP : Bool := true
  slMode : SlMode := .supertrend
  slPct : ℚ := 3 / 2
  slATRMult : ℚ := 5 / 2
  maxHoldHours : ℕ := 168

namespace Supertrend2Config

variable (config : Supertrend2Config)

/-- `effectiveATRLen`. -/
def effectiveATRLen : ℕ :=
  if config.useAdaptiveATR then adaptiveATRLength config.atrPeriod config.timeframe
  else config.atrPeriod

/-- `minBars`. -/
def minBars : ℕ := max (config.effectiveATRLen * 3) 20

/-- The loop of `retracementSignal` at the index `i`. -/
def retracementFrom (dirs : List TrendDirection) (closeSlice : List ℚ) (currClose : ℚ) :
    ℕ → Option PositionSide
  | 0 => none
  | i + 1 =>
      let di := dirs.getD (i + 1) .up
      let dPrev := dirs.getD i .up
      if di = dPrev then retracementFrom dirs closeSlice currClose i
      else
        let flipPrice := closeSlice.getD (i + 1) 0
        let stillValid := (dirs.drop (i + 1)).all (· = di)
        if !stillValid then none
        else
          let lo := flipPrice * (1 - config.retracementPct / 100)
          let hi := flipPrice * (1 + config.retracementPct / 100)
          if di = .up ∧ lo ≤ currClose ∧ currClose ≤ hi then some .long
          else if di = .down ∧ lo ≤ currClose ∧ currClose ≤ hi then some .short
          else none

/-- `retracementSignal`. -/
def retracementSignal (candles : List Candle) (currClose : ℚ) : Option PositionSide :=
  let lookback := min (config.flipLookback + 1) candles.length
  let dirSeries := (computeSupertrend2 (highs candles) (lows candles) (closes candles)
    config.factor config.effectiveATRLen).direction
  config.retracementFrom (dirSeries.drop (dirSeries.length - lookback))
    ((closes candles).drop ((closes candles).length - lookback)) currClose (lookback - 2)

/-- The filter by the higher timeframe. -/
def htfPasses (htfCandles : Option (List Candle)) (currDir : TrendDirection) : Bool :=
  match htfCandles with
  | some htf =>
      if config.useHTFFilter && config.minBars + 2 ≤ htf.length then
        let htfAtrLen :=
          if config.useAdaptiveATR then adaptiveATRLength config.atrPeriod config.htfTimeframe
          else config.atrPeriod
        let htfDir := (computeSupertrend2 (highs htf) (lows htf) (closes htf) config.factor
          htfAtrLen).direction
        htfDir.getLast? = some currDir
      else true
  | none => true

/-- The volume filter. -/
def volumePasses (candles : List Candle) : Bool :=
  if config.useVolFilter then
    match (computeRVOL (volumes candles) 20).getLastD none with
    | some lastRVOL => config.volMultiplier ≤ lastRVOL
    | none => true
  else true

/-- `evaluateSupertrend2`. -/
def evaluateSupertrend2 (candles : List Candle) (htfCandles : Option (List Candle)) :
    Option SupertrendSetup :=
  if candles.length < config.minBars + 2 then none
  else
    let result := computeSupertrend2 (highs candles) (lows candles) (closes candles)
      config.factor config.effectiveATRLen
    let currDir := result.direction.getD (result.direction.length - 1) .up
    let prevDir := result.direction.getD (result.direction.length - 2) .up
    let currST := result.supertrend.getD (result.supertrend.length - 1) 0
    let currClose := (closes candles).getD ((closes candles).length - 1) 0
    if !config.htfPasses htfCandles currDir then none
    else if !config.volumePasses candles then none
    else
      let side : Option PositionSide :=
        match config.entryMode with
        | .flip =>
            if currDir = .up ∧ prevDir = .down then some .long
            else if currDir = .down ∧ prevDir = .up then some .short
            else none
        | .retracement => config.retracementSignal candles currClose
      side.map (fun side =>
        have isLong : Bool := side = .long
        let atrVal := (wilderATR (highs candles) (lows candles) (closes candles)
          config.effectiveATRLen).getLastD 0
        let entryPrice := currClose
        let sl :=
          match config.slMode with
          | .supertrend => currST
          | .atr =>
              if isLong then entryPrice - atrVal * config.slATRMult
              else entryPrice + atrVal * config.slATRMult
          | .fixedPct =>
              if isLong then entryPrice * (1 - config.slPct / 100)
              else entryPrice * (1 + config.slPct / 100)
        let sl := if isLong && entryPrice ≤ sl then entryPrice * (99 / 100) else sl
        let sl := if !isLong && sl ≤ entryPrice then entryPrice * (101 / 100) else sl
        let tp := if config.useTP && 0 < config.tp1Pct then
            some (if isLong then entryPrice * (1 + config.tp1Pct / 100)
              else entryPrice * (1 - config.tp1Pct / 100))
          else none
        { side, entryPrice, slPrice := sl, tpPrice := tp, timeStopHours := config.maxHoldHours })

/-- The Python playbook with the same parameters. -/
def playbook : PlaybookSupertrend2 :=
  .init
    { atrPeriod := config.atrPeriod
      factor := config.factor
      useAdaptiveAtr := config.useAdaptiveATR
      timeframe := config.timeframe
      htfTimeframe := config.htfTimeframe
      entryMode := match config.entryMode with
        | .flip => .flip
        | .retracement => .retracement
      retracementPct := config.retracementPct
      flipLookback := config.flipLookback
      useHtfFilter := config.useHTFFilter
      useVolFilter := config.useVolFilter
      volMultiplier := config.volMultiplier
      tp1Pct := config.tp1Pct
      useTp := config.useTP
      slMode := config.slMode
      slPct := config.slPct
      slAtrMult := config.slATRMult
      maxHoldHours := config.maxHoldHours }

/-- The parameters are within the clamps of the Python constructor. -/
structure Clamped : Prop where
  atrPeriod : 1 ≤ config.atrPeriod
  factor : 1 / 10 ≤ config.factor
  retracementPct : 0 ≤ config.retracementPct
  flipLookback : 1 ≤ config.flipLookback
  volMultiplier : 1 / 10 ≤ config.volMultiplier
  tp1Pct : 0 ≤ config.tp1Pct
  slPct : 0 ≤ config.slPct
  slATRMult : 0 ≤ config.slATRMult
  maxHoldHours : 1 ≤ config.maxHoldHours

end Supertrend2Config

/-! ## The same indicators -/

theorem wilderATRFrom_eq (alpha atr : ℚ) (prev : Candle) (rest : List Candle) :
    wilderATRFrom alpha prev.close atr (rest.map (fun c => (c.high, c.low, c.close))) =
      wilderAtrFrom alpha prev atr rest := by
  induction rest generalizing prev atr with
  | nil => rfl
  | cons c rest ih =>
      simp only [List.map_cons, wilderATRFrom, wilderAtrFrom, trueRange, ← max_assoc, ih]

theorem bars_eq (df : List Candle) :
    (highs df).zip ((lows df).zip (closes df)) = df.map (fun c => (c.high, c.low, c.close)) := by
  induction df with
  | nil => rfl
  | cons c rest ih =>
      simp only [highs, lows, closes, List.map_cons, List.zip_cons_cons] at ih ⊢
      rw [ih]

theorem wilderATR_eq (df : List Candle) (length : ℕ) :
    wilderATR (highs df) (lows df) (closes df) length = wilderAtr length df := by
  unfold wilderATR
  rw [bars_eq]
  cases df with
  | nil => rfl
  | cons c rest => exact congrArg _ (wilderATRFrom_eq _ _ c rest)

/-- What the loop writes, as bands. -/
def Entry.band (e : Entry) : Band := ⟨e.upper, e.lower, e.direction, e.st⟩

theorem supertrendFrom_eq (factor prevClose : ℚ) (prev : Entry) (rows : List (Candle × ℚ)) :
    (supertrendFrom prevClose prev (rows.map (fun (c, atr) =>
      (c.close, hl2 c + factor * atr, hl2 c - factor * atr)))).map Entry.band =
      bandsFrom factor prevClose prev.band rows := by
  induction rows generalizing prevClose prev with
  | nil => rfl
  | cons row rest ih =>
      obtain ⟨c, atr⟩ := row
      simp only [List.map_cons, supertrendFrom, bandsFrom, ih]
      congr 2 <;>
        · obtain ⟨upper, lower, st, direction⟩ := prev
          unfold Band.next Entry.band
          cases direction <;> split_ifs <;> simp_all

theorem rows_eq (df : List Candle) (factor : ℚ) (atr : List ℚ) :
    (closes df).zip
        ((List.zipWith (fun s a => s + factor * a)
          (List.zipWith (fun h l => (h + l) / 2) (highs df) (lows df)) atr).zip
        (List.zipWith (fun s a => s - factor * a)
          (List.zipWith (fun h l => (h + l) / 2) (highs df) (lows df)) atr)) =
      (df.zip atr).map (fun (c, a) => (c.close, hl2 c + factor * a, hl2 c - factor * a)) := by
  induction df generalizing atr with
  | nil => rfl
  | cons c rest ih =>
      cases atr with
      | nil => simp [closes]
      | cons a atr =>
          have hrest := ih atr
          simp only [closes, highs, lows, List.map_cons, List.zipWith_cons_cons,
            List.zip_cons_cons] at hrest ⊢
          rw [hrest]
          rfl

/-- The direction series and the line are those of the Python playbook. -/
theorem computeSupertrend2_eq (df : List Candle) (factor : ℚ) (atrLength : ℕ) :
    (computeSupertrend2 (highs df) (lows df) (closes df) factor atrLength).direction =
        (CryptoTrader.computeSupertrend2 df factor atrLength).map Band.direction ∧
      (computeSupertrend2 (highs df) (lows df) (closes df) factor atrLength).supertrend =
        (CryptoTrader.computeSupertrend2 df factor atrLength).map Band.st := by
  unfold computeSupertrend2 CryptoTrader.computeSupertrend2
  simp only [wilderATR_eq, rows_eq]
  cases df.zip (wilderAtr atrLength df) with
  | nil => exact ⟨rfl, rfl⟩
  | cons row rest =>
      obtain ⟨c, atr⟩ := row
      have hrest := supertrendFrom_eq factor c.close
        ⟨hl2 c + factor * atr, hl2 c - factor * atr, hl2 c - factor * atr, .up⟩ rest
      simp only [List.map_cons]
      unfold Entry.band at hrest
      constructor
      · rw [← hrest, List.map_map]
        rfl
      · rw [← hrest, List.map_map]
        rfl

/-! ## The two roundings -/

/-- Up and to the even integer differ halfway above an even one. -/
theorem mathRound_eq_iff (x : ℚ) :
    mathRound x = roundHalfEven x ↔ ¬ (Int.fract x = 1 / 2 ∧ Even ⌊x⌋) := by
  have hx : x = ⌊x⌋ + Int.fract x := (Int.floor_add_fract x).symm
  have hnonneg := Int.fract_nonneg x
  have hlt := Int.fract_lt_one x
  have hround : mathRound x = if Int.fract x < 1 / 2 then ⌊x⌋ else ⌊x⌋ + 1 := by
    unfold mathRound
    split_ifs with hsmall
    · rw [Int.floor_eq_iff]
      constructor <;> linarith
    · rw [Int.floor_eq_iff]
      push_cast
      constructor <;> linarith
  rw [hround, roundHalfEven]
  rcases lt_trichotomy (Int.fract x) (1 / 2) with hsmall | hhalf | hlarge
  · rw [if_pos hsmall, if_pos hsmall]
    exact iff_of_true rfl (fun h => hsmall.ne h.1)
  · by_cases heven : Even ⌊x⌋ <;> simp [hhalf, heven]
  · rw [if_neg hlarge.not_gt, if_neg hlarge.not_gt, if_pos hlarge]
    exact iff_of_true rfl (fun h => hlarge.ne' h.1)

theorem mathRound_intCast (n : ℤ) : mathRound n = n := by
  have h := (mathRound_eq_iff (n : ℚ)).mpr (by simp)
  rwa [roundHalfEven_intCast] at h

/-- One and a half times a number: the roundings differ at 3, 7, 11, … -/
theorem mathRound_three_halves (base : ℕ) :
    mathRound (base * (3 / 2)) = roundHalfEven (base * (3 / 2)) ↔ base % 4 ≠ 3 := by
  rw [mathRound_eq_iff]
  refine not_congr ?_
  rcases Nat.even_or_odd' base with ⟨k, rfl | rfl⟩
  · have hvalue : ((2 * k : ℕ) : ℚ) * (3 / 2) = ((3 * k : ℤ) : ℚ) := by
      push_cast
      ring
    rw [hvalue, Int.fract_intCast]
    constructor
    · rintro ⟨h, -⟩
      norm_num at h
    · intro h
      omega
  · have hvalue : ((2 * k + 1 : ℕ) : ℚ) * (3 / 2) = ((3 * k + 1 : ℤ) : ℚ) + 1 / 2 := by
      push_cast
      ring
    have hfloor : ⌊((3 * k + 1 : ℤ) : ℚ) + 1 / 2⌋ = 3 * k + 1 := by
      rw [Int.floor_intCast_add]
      norm_num
    have hfract : Int.fract (((3 * k + 1 : ℤ) : ℚ) + 1 / 2) = 1 / 2 := by
      rw [Int.fract_intCast_add]
      norm_num
    rw [hvalue, hfloor, hfract]
    simp only [true_and, Int.even_iff]
    omega

/-- There the one is an integer above the other. -/
theorem roundHalfEven_three_halves {base : ℕ} (h : base % 4 = 3) :
    max 1 (mathRound (base * (3 / 2))).toNat ≠ max 1 (roundHalfEven (base * (3 / 2))).toNat := by
  obtain ⟨k, rfl⟩ : ∃ k, base = 4 * k + 3 := ⟨base / 4, by omega⟩
  have hvalue : ((4 * k + 3 : ℕ) : ℚ) * (3 / 2) = ((6 * k + 4 : ℤ) : ℚ) + 1 / 2 := by
    push_cast
    ring
  have hup : mathRound (((6 * k + 4 : ℤ) : ℚ) + 1 / 2) = 6 * k + 5 := by
    unfold mathRound
    rw [add_assoc, Int.floor_intCast_add]
    norm_num
    ring
  have heven : roundHalfEven (((6 * k + 4 : ℤ) : ℚ) + 1 / 2) = 6 * k + 4 := by
    have hfloor : ⌊((6 * k + 4 : ℤ) : ℚ) + 1 / 2⌋ = 6 * k + 4 := by
      rw [Int.floor_intCast_add]
      norm_num
    have hfract : Int.fract (((6 * k + 4 : ℤ) : ℚ) + 1 / 2) = 1 / 2 := by
      rw [Int.fract_intCast_add]
      norm_num
    have hparity : Even (6 * (k : ℤ) + 4) := by
      rw [Int.even_iff]
      omega
    rw [roundHalfEven, hfract, hfloor, if_neg (lt_irrefl _), if_neg (lt_irrefl _), if_pos hparity]
  rw [hvalue, hup, heven]
  omega

/-- Six fifths of a number are never halfway. -/
theorem mathRound_six_fifths (base : ℕ) :
    mathRound (base * (6 / 5)) = roundHalfEven (base * (6 / 5)) := by
  rw [mathRound_eq_iff]
  rintro ⟨hhalf, -⟩
  have hx := Int.floor_add_fract ((base : ℚ) * (6 / 5))
  rw [hhalf] at hx
  have h : (12 * base : ℚ) = 10 * ⌊(base : ℚ) * (6 / 5)⌋ + 5 := by linarith
  have hint : (12 * base : ℤ) = 10 * ⌊(base : ℚ) * (6 / 5)⌋ + 5 := by exact_mod_cast h
  omega

theorem mathRound_mul (base n : ℕ) :
    mathRound (base * n) = roundHalfEven (base * n) := by
  have hvalue : (base : ℚ) * n = ((base * n : ℤ) : ℚ) := by push_cast; rfl
  rw [hvalue, mathRound_intCast, roundHalfEven_intCast]

/-- The scaled lengths of a base differ: 6 to 15 minutes, and a base of 3, 7, 11, … -/
def RoundsApart (base : ℕ) : Timeframe → Prop
  | .minutes n => 5 < n ∧ n ≤ 15 ∧ base % 4 = 3
  | _ => False

instance (base : ℕ) (timeframe : Timeframe) : Decidable (RoundsApart base timeframe) := by
  cases timeframe <;> unfold RoundsApart <;> infer_instance

theorem adaptiveATRLength_eq_iff (base : ℕ) (timeframe : Timeframe) :
    adaptiveATRLength base timeframe = adaptiveAtrLength base timeframe ↔
      ¬ RoundsApart base timeframe := by
  have hmul (n : ℕ) := mathRound_mul base n
  have htwo := hmul 2
  have hthree := hmul 3
  have hfour := hmul 4
  have height := hmul 8
  push_cast at htwo hthree hfour height
  cases timeframe with
  | hours n =>
      simp only [adaptiveATRLength, adaptiveAtrLength, Timeframe.scale, RoundsApart, not_false_iff,
        iff_true]
      split_ifs <;> simp [htwo, hthree, hfour]
  | daily => simp [adaptiveATRLength, adaptiveAtrLength, Timeframe.scale, RoundsApart, hfour]
  | weekly => simp [adaptiveATRLength, adaptiveAtrLength, Timeframe.scale, RoundsApart, height]
  | minutes n =>
      simp only [adaptiveATRLength, adaptiveAtrLength, Timeframe.scale, RoundsApart]
      by_cases h1 : n ≤ 1
      · simp [h1, show ¬ 5 < n by omega]
      by_cases h5 : n ≤ 5
      · simp [h1, h5, mathRound_six_fifths]
      by_cases h15 : n ≤ 15
      · have hlarge : 5 < n := by omega
        simp only [h1, h5, h15, hlarge, if_true, if_false, true_and]
        by_cases hbase : base % 4 = 3
        · exact iff_of_false (roundHalfEven_three_halves hbase) (not_not.mpr hbase)
        · rw [(mathRound_three_halves base).mpr hbase]
          exact iff_of_true rfl hbase
      · by_cases h60 : n ≤ 60 <;> simp [h1, h5, h15, h60, htwo, hthree]

/-! ## The same setups -/

namespace Supertrend2Config

variable {config : Supertrend2Config}

/-- Within the clamps the constructor keeps the parameters. -/
theorem Clamped.playbook_eq (h : config.Clamped) :
    config.playbook =
      { atrPeriod := config.atrPeriod
        factor := config.factor
        useAdaptiveAtr := config.useAdaptiveATR
        timeframe := config.timeframe
        htfTimeframe := config.htfTimeframe
        entryMode := match config.entryMode with
          | .flip => .flip
          | .retracement => .retracement
        retracementPct := config.retracementPct
        flipLookback := config.flipLookback
        useHtfFilter := config.useHTFFilter
        useVolFilter := config.useVolFilter
        volMultiplier := config.volMultiplier
        tp1Pct := config.tp1Pct
        useTp := config.useTP
        slMode := config.slMode
        slPct := config.slPct
        slAtrMult := config.slATRMult
        maxHoldHours := config.maxHoldHours } := by
  obtain ⟨hatr, hfactor, hretracement, hflip, hvol, htp, hsl, hmult, hhold⟩ := h
  simp only [playbook, PlaybookSupertrend2.init, max_eq_right hatr, max_eq_right hfactor,
    max_eq_right hretracement, max_eq_right hflip, max_eq_right hvol, max_eq_right htp,
    max_eq_right hsl, max_eq_right hmult, max_eq_right hhold]

theorem effectiveATRLen_eq_iff (h : config.Clamped) :
    config.effectiveATRLen = config.playbook.effectiveAtrLen ↔
      ¬ (config.useAdaptiveATR = true ∧ RoundsApart config.atrPeriod config.timeframe) := by
  rw [h.playbook_eq]
  unfold effectiveATRLen PlaybookSupertrend2.effectiveAtrLen PlaybookSupertrend2.atrLengthOn
  cases config.useAdaptiveATR with
  | false => simp
  | true => simpa using adaptiveATRLength_eq_iff config.atrPeriod config.timeframe

/-- The loops for the retracement agree. -/
theorem retracementFrom_eq (h : config.Clamped) (dirs : List TrendDirection) (closeSlice : List ℚ)
    (currClose : ℚ) (i : ℕ) :
    config.retracementFrom dirs closeSlice currClose i =
      config.playbook.retracementFrom dirs closeSlice currClose i := by
  have hpct : config.playbook.retracementPct = config.retracementPct := by rw [h.playbook_eq]
  induction i with
  | zero => rfl
  | succ i ih =>
      simp only [retracementFrom, PlaybookSupertrend2.retracementFrom, ih, hpct]
      by_cases hsame : dirs.getD (i + 1) .up = dirs.getD i .up
      · rw [if_pos hsame, if_pos hsame]
      · rw [if_neg hsame, if_neg hsame]
        cases hvalid : (dirs.drop (i + 1)).all (· = dirs.getD (i + 1) .up) with
        | false => simp
        | true =>
            cases hdir : dirs.getD (i + 1) .up <;> simp [TrendDirection.side]

theorem retracementSignal_eq (h : config.Clamped)
    (hlen : config.effectiveATRLen = config.playbook.effectiveAtrLen) (candles : List Candle)
    (currClose : ℚ) :
    config.retracementSignal candles currClose =
      config.playbook.retracementSignal candles currClose := by
  have hfactor : config.playbook.factor = config.factor := by rw [h.playbook_eq]
  have hlookback : config.playbook.flipLookback = config.flipLookback := by rw [h.playbook_eq]
  have hcloses : (closes candles).length = candles.length := by simp [closes]
  unfold retracementSignal PlaybookSupertrend2.retracementSignal PlaybookSupertrend2.bands
  rw [retracementFrom_eq h, (computeSupertrend2_eq _ _ _).1, hlen, hfactor, hlookback, hcloses]

theorem signal_eq (h : config.Clamped)
    (hlen : config.effectiveATRLen = config.playbook.effectiveAtrLen) (candles : List Candle) :
    (match config.entryMode with
      | .flip =>
          if config.playbook.currDir candles = .up ∧ config.playbook.prevDir candles = .down then
            some PositionSide.long
          else if config.playbook.currDir candles = .down ∧ config.playbook.prevDir candles = .up then
            some .short
          else none
      | .retracement =>
          config.retracementSignal candles (PlaybookSupertrend2.currClose candles)) =
      config.playbook.signal candles := by
  have hmode : config.playbook.entryMode = match config.entryMode with
      | .flip => .flip
      | .retracement => .retracement := by rw [h.playbook_eq]
  unfold PlaybookSupertrend2.signal
  rw [hmode]
  cases config.entryMode with
  | flip =>
      cases config.playbook.currDir candles <;> cases config.playbook.prevDir candles <;> rfl
  | retracement => exact retracementSignal_eq h hlen candles _

theorem getD_length_sub_one {α : Type} (l : List α) (d : α) :
    l.getD (l.length - 1) d = l.getLastD d := by
  rw [List.getD_eq_getElem?_getD, ← List.getLast?_eq_getElem?, List.getLastD_eq_getLast?]

/-- The last relative volume is over the last twenty volumes. -/
theorem computeRVOL_last (candles : List Candle) (hlength : 20 < candles.length) :
    (computeRVOL (volumes candles) 20).getLastD none =
      some (if 0 < averageVolume candles then (volumes candles).getLastD 0 / averageVolume candles
        else 1) := by
  have hvolumes : (volumes candles).length = candles.length := by simp [volumes]
  obtain ⟨n, hn⟩ : ∃ n, (volumes candles).length = n + 1 := ⟨candles.length - 1, by omega⟩
  have hlast : (volumes candles).getD n 0 = (volumes candles).getLastD 0 := by
    have h := getD_length_sub_one (volumes candles) 0
    rwa [hn, Nat.add_sub_cancel] at h
  have hwindow : ((volumes candles).drop (n + 1 - 20)).take 20 =
      (volumes candles).drop (candles.length - 20) := by
    rw [← hvolumes, hn, List.take_of_length_le]
    rw [List.length_drop]
    omega
  rw [computeRVOL, hn, List.range_succ, List.map_append, List.map_singleton, List.getLastD_concat,
    rvolAt, if_neg (by omega), hwindow, hlast]
  rfl

/-- The volume filters differ on an average that is not positive. -/
theorem volumePasses_eq (h : config.Clamped) {candles : List Candle}
    (hlength : 20 < candles.length) :
    config.volumePasses candles = (config.playbook.volumePasses candles &&
      !(config.useVolFilter && averageVolume candles ≤ 0 && 1 < config.volMultiplier)) := by
  have huse : config.playbook.useVolFilter = config.useVolFilter := by rw [h.playbook_eq]
  have hmult : config.playbook.volMultiplier = config.volMultiplier := by rw [h.playbook_eq]
  unfold volumePasses PlaybookSupertrend2.volumePasses
  rw [computeRVOL_last candles hlength, huse, hmult]
  cases config.useVolFilter with
  | false => simp
  | true =>
      by_cases havg : 0 < averageVolume candles
      · simp [havg, havg.not_ge]
      · by_cases hone : 1 < config.volMultiplier
        · simp [havg, not_lt.mp havg, hone, hone.not_ge]
        · simp [havg, hone, not_lt.mp hone]

/-- With the same length, the filters alone can tell the two apart. -/
theorem evaluateSupertrend2_eq (h : config.Clamped)
    (hlen : config.effectiveATRLen = config.playbook.effectiveAtrLen) {candles : List Candle}
    (htf : Option (List Candle)) (hlength : ¬ candles.length < config.playbook.minBars + 2) :
    config.evaluateSupertrend2 candles htf =
      if config.htfPasses htf (config.playbook.currDir candles) && config.volumePasses candles then
        (config.playbook.signal candles).map (config.playbook.setup candles)
      else none := by
  have hfactor : config.playbook.factor = config.factor := by rw [h.playbook_eq]
  have hbars : config.minBars = config.playbook.minBars := by
    unfold minBars PlaybookSupertrend2.minBars
    rw [hlen]
  obtain ⟨hdirs, hst⟩ := computeSupertrend2_eq candles config.factor config.effectiveATRLen
  rw [hlen, ← hfactor] at hdirs hst
  have hdirLength :
      ((CryptoTrader.computeSupertrend2 candles config.playbook.factor
        config.playbook.effectiveAtrLen).map Band.direction).length = candles.length := by
    simp
  have hstLength :
      ((CryptoTrader.computeSupertrend2 candles config.playbook.factor
        config.playbook.effectiveAtrLen).map Band.st).length = candles.length := by
    simp
  have hcloses : (closes candles).length = candles.length := by simp [closes]
  have hsignal := signal_eq h hlen candles
  unfold evaluateSupertrend2
  rw [hbars, if_neg hlength]
  simp only [hlen, ← hfactor, hdirs, hst, hdirLength, hstLength, hcloses, wilderATR_eq]
  change (if (!config.htfPasses htf (config.playbook.currDir candles)) = true then none
    else if (!config.volumePasses candles) = true then none
    else Option.map _ (match config.entryMode with
      | .flip => _
      | .retracement => _)) = _
  cases config.htfPasses htf (config.playbook.currDir candles) with
  | false => rfl
  | true =>
      cases config.volumePasses candles with
      | false => rfl
      | true =>
          refine (congrArg (Option.map _) hsignal).trans (Option.map_congr fun side _ => ?_)
          have hpb := h.playbook_eq
          unfold PlaybookSupertrend2.setup PlaybookSupertrend2.bands PlaybookSupertrend2.currClose
          have hmode : config.playbook.slMode = config.slMode := by rw [hpb]
          have hpct : config.playbook.slPct = config.slPct := by rw [hpb]
          have hmult : config.playbook.slAtrMult = config.slATRMult := by rw [hpb]
          have htp : config.playbook.tp1Pct = config.tp1Pct := by rw [hpb]
          have huse : config.playbook.useTp = config.useTP := by rw [hpb]
          have hhold : config.playbook.maxHoldHours = config.maxHoldHours := by rw [hpb]
          simp only [hmode, hpct, hmult, htp, huse, hhold]
          cases side <;> cases config.slMode <;> simp

/-! ## When the two agree -/

variable (config)

/-- The two return the same setup, and use the same length and directions. -/
structure Agrees (candles : List Candle) (htf : Option (List Candle)) : Prop where
  setup : config.evaluateSupertrend2 candles htf = config.playbook.evaluate candles htf
  length : config.effectiveATRLen = config.playbook.effectiveAtrLen
  directions : (computeSupertrend2 (highs candles) (lows candles) (closes candles) config.factor
      config.effectiveATRLen).direction =
    CryptoTrader.directions candles config.playbook.factor config.playbook.effectiveAtrLen

/-- An average volume of zero: the port takes the relative volume for one, the
Python playbook skips the filter. -/
def ZeroVolume (candles : List Candle) : Prop :=
  config.useVolFilter = true ∧ averageVolume candles ≤ 0 ∧ 1 < config.volMultiplier

/-- The last bar of the higher timeframe is with the trend for one of the two
lengths only. -/
def HtfApart (candles : List Candle) (htf : Option (List Candle)) : Prop :=
  ∃ frame, htf = some frame ∧
    config.useHTFFilter = true ∧ config.useAdaptiveATR = true ∧
    config.playbook.minBars + 2 ≤ frame.length ∧
    ¬ ((CryptoTrader.directions frame config.factor
          (adaptiveATRLength config.atrPeriod config.htfTimeframe)).getLast? =
            some (config.playbook.currDir candles) ↔
        (CryptoTrader.directions frame config.factor
          (adaptiveAtrLength config.atrPeriod config.htfTimeframe)).getLast? =
            some (config.playbook.currDir candles))

/-- The lengths are scaled alike; and where there is a signal, no filter that the
two decide differently decides it. -/
structure Agreeing (candles : List Candle) (htf : Option (List Candle)) : Prop where
  lengths : ¬ (config.useAdaptiveATR = true ∧ RoundsApart config.atrPeriod config.timeframe)
  filters : config.playbook.minBars + 2 ≤ candles.length → config.playbook.signal candles ≠ none →
    (config.ZeroVolume candles →
      config.playbook.htfPasses htf (config.playbook.currDir candles) = false) ∧
    (¬ config.ZeroVolume candles → config.HtfApart candles htf →
      config.playbook.volumePasses candles = false)

variable {config}

theorem htfPasses_eq_iff (h : config.Clamped)
    (hlen : config.effectiveATRLen = config.playbook.effectiveAtrLen) (candles : List Candle)
    (htf : Option (List Candle)) :
    config.htfPasses htf (config.playbook.currDir candles) =
        config.playbook.htfPasses htf (config.playbook.currDir candles) ↔
      ¬ config.HtfApart candles htf := by
  have hfactor : config.playbook.factor = config.factor := by rw [h.playbook_eq]
  have huse : config.playbook.useHtfFilter = config.useHTFFilter := by rw [h.playbook_eq]
  have hadaptive : config.playbook.atrLengthOn config.playbook.htfTimeframe =
      if config.useAdaptiveATR then adaptiveAtrLength config.atrPeriod config.htfTimeframe
      else config.atrPeriod := by
    rw [h.playbook_eq]
    rfl
  have hbars : config.minBars = config.playbook.minBars := by
    unfold minBars PlaybookSupertrend2.minBars
    rw [hlen]
  unfold htfPasses PlaybookSupertrend2.htfPasses HtfApart
  cases htf with
  | none => simp
  | some frame =>
      simp only [Option.some.injEq, exists_eq_left', hfactor, huse, hadaptive, hbars,
        (computeSupertrend2_eq frame _ _).1]
      by_cases hread : config.useHTFFilter = true ∧ config.playbook.minBars + 2 ≤ frame.length
      · cases config.useAdaptiveATR with
        | false => simp [CryptoTrader.directions]
        | true => simp [hread, CryptoTrader.directions, decide_eq_decide]
      · have hskip : (config.useHTFFilter && decide (config.playbook.minBars + 2 ≤ frame.length)) =
            false := by
          simpa using hread
        simp only [hskip]
        exact iff_of_true rfl (fun hapart => hread ⟨hapart.1, hapart.2.2.1⟩)

/-- Without volume the Python playbook skips the filter. -/
theorem ZeroVolume.volumePasses {candles : List Candle} (hzero : config.ZeroVolume candles) :
    config.playbook.volumePasses candles = true := by
  obtain ⟨-, havg, -⟩ := hzero
  unfold PlaybookSupertrend2.volumePasses
  simp [havg.not_gt]

theorem evaluate_eq_iff (h : config.Clamped)
    (hlen : config.effectiveATRLen = config.playbook.effectiveAtrLen) (candles : List Candle)
    (htf : Option (List Candle)) :
    config.evaluateSupertrend2 candles htf = config.playbook.evaluate candles htf ↔
      (config.playbook.minBars + 2 ≤ candles.length → config.playbook.signal candles ≠ none →
        (config.ZeroVolume candles →
          config.playbook.htfPasses htf (config.playbook.currDir candles) = false) ∧
        (¬ config.ZeroVolume candles → config.HtfApart candles htf →
          config.playbook.volumePasses candles = false)) := by
  have hhtf := htfPasses_eq_iff h hlen candles htf
  have hbars : config.minBars = config.playbook.minBars := by
    unfold minBars PlaybookSupertrend2.minBars
    rw [hlen]
  by_cases hshort : candles.length < config.playbook.minBars + 2
  · have hnone : config.evaluateSupertrend2 candles htf = none := by
      rw [evaluateSupertrend2, hbars, if_pos hshort]
    rw [hnone, PlaybookSupertrend2.evaluate, if_pos hshort]
    exact iff_of_true rfl (fun hlong => absurd hshort hlong.not_gt)
  · have hlarge : 20 < candles.length := by
      have h20 : 20 ≤ config.playbook.minBars := le_max_right _ _
      omega
    rw [evaluateSupertrend2_eq h hlen htf hshort, PlaybookSupertrend2.evaluate, if_neg hshort,
      volumePasses_eq h hlarge]
    cases hsignal : config.playbook.signal candles with
    | none => simp
    | some side =>
        have hzero : (config.useVolFilter && decide (averageVolume candles ≤ 0) &&
            decide (1 < config.volMultiplier)) = true ↔ config.ZeroVolume candles := by
          simp [ZeroVolume, and_assoc]
        have hlong : config.playbook.minBars + 2 ≤ candles.length := not_lt.mp hshort
        simp only [hlong, ne_eq, reduceCtorEq, not_false_eq_true, forall_const, Option.map_some]
        by_cases hvolume : config.ZeroVolume candles
        · -- the port is silent, the Python playbook asks the other filter
          have happly := hvolume.volumePasses
          rw [hzero.mpr hvolume, happly]
          cases config.playbook.htfPasses htf (config.playbook.currDir candles) <;>
            simp [hvolume]
        · have hsame : (config.useVolFilter && decide (averageVolume candles ≤ 0) &&
              decide (1 < config.volMultiplier)) = false :=
            Bool.eq_false_iff.mpr (fun heq => hvolume (hzero.mp heq))
          rw [hsame]
          by_cases hapart : config.HtfApart candles htf
          · have hdiffer := fun heq => hhtf.mp heq hapart
            cases config.playbook.volumePasses candles with
            | false => simp [hvolume]
            | true =>
                revert hdiffer
                cases config.htfPasses htf (config.playbook.currDir candles) <;>
                  cases config.playbook.htfPasses htf (config.playbook.currDir candles) <;>
                  simp [hvolume, hapart]
          · rw [hhtf.mpr hapart]
            simp [hvolume, hapart]

/-- The two agree exactly where the lengths are scaled alike and no filter they
decide differently decides a signal. -/
theorem port_agrees_iff (config : Supertrend2Config) (h : config.Clamped) (candles : List Candle)
    (htf : Option (List Candle)) : config.Agrees candles htf ↔ config.Agreeing candles htf := by
  constructor
  · intro hagrees
    exact ⟨(effectiveATRLen_eq_iff h).mp hagrees.length,
      (evaluate_eq_iff h hagrees.length candles htf).mp hagrees.setup⟩
  · intro hagreeing
    have hlen := (effectiveATRLen_eq_iff h).mpr hagreeing.lengths
    have hfactor : config.playbook.factor = config.factor := by rw [h.playbook_eq]
    refine ⟨(evaluate_eq_iff h hlen candles htf).mpr hagreeing.filters, hlen, ?_⟩
    rw [(computeSupertrend2_eq candles _ _).1, hlen, hfactor]
    rfl

/-- One bar of range, and the volume filter. -/
def demoConfig : Supertrend2Config :=
  { atrPeriod := 1, useAdaptiveATR := false, useVolFilter := true }

/-- A flat market, a crash, and the bar that turns the trend. -/
def demoCandles (volume : ℚ) : List Candle :=
  List.replicate 20 ⟨100, 101, 99, 100, volume, 0⟩ ++
    [⟨100, 101, 49, 50, volume, 0⟩, ⟨50, 51, 49, 50, 2 * volume, 0⟩]

theorem demoConfig_clamped : demoConfig.Clamped := by
  constructor <;> norm_num [demoConfig]

theorem port_agrees_iff_demo : demoConfig.Agrees (demoCandles 1) none := by
  refine (port_agrees_iff demoConfig demoConfig_clamped (demoCandles 1) none).mpr ⟨?_, ?_⟩
  · decide
  · refine fun _ _ => ⟨fun hzero => ?_, fun _ ⟨_, hnone, _⟩ => nomatch hnone⟩
    exact absurd hzero.2.1 (by decide +kernel)

/-- On fifteen minutes a period of three gives five bars in the port and four in
Python; without volume the port misses the entry. -/
theorem demo_port_disagrees :
    (∃ config : Supertrend2Config, config.Clamped ∧ config.effectiveATRLen = 5 ∧
      config.playbook.effectiveAtrLen = 4 ∧ ¬ config.Agrees [] none) ∧
    demoConfig.Clamped ∧ demoConfig.evaluateSupertrend2 (demoCandles 0) none = none ∧
      (demoConfig.playbook.evaluate (demoCandles 0) none).isSome = true ∧
      ¬ demoConfig.Agrees (demoCandles 0) none := by
  have hport : demoConfig.evaluateSupertrend2 (demoCandles 0) none = none := by decide +kernel
  have hpython : (demoConfig.playbook.evaluate (demoCandles 0) none).isSome = true := by
    decide +kernel
  refine ⟨⟨{ atrPeriod := 3, timeframe := .minutes 15 }, ?_, ?_, ?_, ?_⟩, demoConfig_clamped,
    hport, hpython, ?_⟩
  · constructor <;> norm_num
  · decide +kernel
  · decide +kernel
  · exact fun h => absurd h.length (by decide +kernel)
  · intro h
    rw [← h.setup, hport] at hpython
    exact absurd hpython (by decide)

end Supertrend2Config

end CryptoTrader.Port
