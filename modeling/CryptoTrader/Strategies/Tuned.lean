import CryptoTrader.Lib.Tunables
import CryptoTrader.Strategies.SmcLevels

/-!
# Tuned playbooks

The playbooks as objects whose parameters are read anew at each evaluation.  Within the
bounds of their constructors the parameters give the playbooks of the other modules;
what an object does that was left otherwise is not said.
-/

namespace CryptoTrader

open CryptoTrader.Lib

/-! ## The parameters -/

inductive PlaybookName where
  | smc
  | liquiditySweep
  | mtfAlignment
  | supertrend2
  deriving DecidableEq

/-- `PlaybookSMC`; the weights are not clamped. -/
def smcRail : Rail :=
  { head := "smc_"
    params :=
      [("entry_timeframe", .text), ("htf_timeframe", .text), ("swing_window", .count 2),
        ("sweep_lookback", .count 1), ("structure_lookback", .count 1),
        ("oi_expansion_pct", .number (some (1 / 10))), ("volume_mult_target", .number (some 1)),
        ("rvol_target", .number (some (1 / 10))), ("liq_cascade_threshold", .number (some 0)),
        ("min_score", .number (some 0)), ("atr_period", .count 2),
        ("sl_buffer_atr", .number (some 0)), ("sl_atr_mult", .number (some (1 / 2))),
        ("tp_rr", .number (some (1 / 2))), ("max_hold_hours", .count 1),
        ("w_htf", .number none), ("w_sweep", .number none), ("w_structure", .number none),
        ("w_ob", .number none), ("w_fvg", .number none), ("w_oi", .number none),
        ("w_vol", .number none), ("w_rvol", .number none), ("w_liq", .number none)] }

/-- `PlaybookLiquiditySweep`. -/
def lswRail : Rail :=
  { head := "lsw_"
    params :=
      [("timeframe", .text), ("htf_timeframe", .text), ("swing_window", .count 2),
        ("sweep_lookback", .count 1), ("tp_r", .number (some (1 / 2))), ("atr_period", .count 2),
        ("sl_buffer_atr", .number (some 0)), ("min_stop_frac", .number (some 0)),
        ("use_htf_filter", .flag), ("max_hold_hours", .count 1)] }

/-- `PlaybookMTFAlignment`, which stores what replaces a list as it is. -/
def mtaRail : Rail :=
  { head := "mta_"
    params :=
      [("entry_timeframe", .text), ("macro_tfs", .names), ("ema_len", .count 2),
        ("min_macro_frames", .count 1), ("break_lookback", .count 1),
        ("swing_lookback", .count 2), ("tp_r", .number (some (1 / 2))), ("atr_period", .count 2),
        ("min_stop_frac", .number (some 0)), ("max_hold_hours", .count 1)]
    keepsLists := true }

/-- `PlaybookSupertrend2`. -/
def st2Rail : Rail :=
  { head := "st2_"
    params :=
      [("atr_period", .count 1), ("factor", .number (some (1 / 10))), ("use_adaptive_atr", .flag),
        ("timeframe", .text), ("htf_timeframe", .text), ("entry_mode", .text),
        ("retracement_pct", .number (some 0)), ("flip_lookback", .count 1),
        ("use_htf_filter", .flag), ("use_vol_filter", .flag),
        ("vol_multiplier", .number (some (1 / 10))), ("use_adx_filter", .flag),
        ("adx_threshold", .count 1), ("tp1_pct", .number (some 0)), ("use_tp", .flag),
        ("sl_mode", .text), ("sl_pct", .number (some 0)), ("sl_atr_mult", .number (some 0)),
        ("max_hold_hours", .count 1)] }

def PlaybookName.rail : PlaybookName → Rail
  | .smc => smcRail
  | .liquiditySweep => lswRail
  | .mtfAlignment => mtaRail
  | .supertrend2 => st2Rail

/-- The attributes besides the parameters that no evaluation reads. -/
def PlaybookName.unread : PlaybookName → List String
  | .supertrend2 => ["name"]
  | _ => ["name", "last_eval"]

/-! ## Supertrend2 with its texts -/

/-- `PlaybookSupertrend2` as its parameters are stored, with the ADX filter. -/
structure TextSupertrend2 where
  atrPeriod : ℕ
  factor : ℚ
  useAdaptiveAtr : Bool
  timeframe : String
  htfTimeframe : String
  entryMode : String
  retracementPct : ℚ
  flipLookback : ℕ
  useHtfFilter : Bool
  useVolFilter : Bool
  volMultiplier : ℚ
  useAdxFilter : Bool
  adxThreshold : ℕ
  tp1Pct : ℚ
  useTp : Bool
  slMode : String
  slPct : ℚ
  slAtrMult : ℚ
  maxHoldHours : ℕ

/-- `str.strip`. -/
def pyStrip (s : List Char) : List Char :=
  ((s.dropWhile Char.isWhitespace).reverse.dropWhile Char.isWhitespace).reverse

/-- What `adaptive_atr_length` multiplies the base length with, if anything.  A month
spelled out ends in an `h`, and is no number of hours. -/
def timeframeScale (py : Casts) (timeframe : String) : Option ℚ :=
  let tf := pyStrip timeframe.toLower.toList
  let number := py.int (String.ofList tf.dropLast)
  if tf.getLast? = some 'm' then
    number.bind (fun mins =>
      if mins ≤ 1 then none
      else if mins ≤ 5 then some (6 / 5)
      else if mins ≤ 15 then some (3 / 2)
      else if mins ≤ 60 then some 2
      else some 3)
  else if tf.getLast? = some 'h' then
    number.map (fun h => if h ≤ 1 then 2 else if h ≤ 4 then 3 else 4)
  else if String.ofList tf ∈ ["1d", "d", "day", "1day"] then some 4
  else if String.ofList tf ∈ ["1w", "w", "week", "1week"] then some 8
  else if String.ofList tf ∈ ["1mo", "mo", "month", "1month"] then some 12
  else none

/-- The entry modes; with any other there is no signal. -/
def entryModeOf : String → Option EntryMode
  | "flip" => some .flip
  | "retracement" => some .retracement
  | "continuous" => some .continuous
  | _ => none

/-- The stop modes; any other is a fixed percentage. -/
def slModeOf : String → SlMode
  | "supertrend" => .supertrend
  | "atr" => .atr
  | _ => .fixedPct

namespace TextSupertrend2

variable (p : TextSupertrend2) (py : Casts)

/-- The length for a timeframe. -/
def atrLengthOn (timeframe : String) : ℕ :=
  if p.useAdaptiveAtr then
    match timeframeScale py timeframe with
    | none => p.atrPeriod
    | some scale => max 1 (roundHalfEven (p.atrPeriod * scale)).toNat
  else p.atrPeriod

/-- The playbook with the length for its timeframe. -/
def playbook : PlaybookSupertrend2 :=
  { atrPeriod := p.atrLengthOn py p.timeframe
    factor := p.factor
    useAdaptiveAtr := false
    entryMode := (entryModeOf p.entryMode).getD .flip
    retracementPct := p.retracementPct
    flipLookback := p.flipLookback
    useVolFilter := p.useVolFilter
    volMultiplier := p.volMultiplier
    tp1Pct := p.tp1Pct
    useTp := p.useTp
    slMode := slModeOf p.slMode
    slPct := p.slPct
    slAtrMult := p.slAtrMult
    maxHoldHours := p.maxHoldHours }

/-- The filter by the higher timeframe lets a direction pass. -/
def htfPasses (htf : Option (List Backtest.Candle)) (curr : TrendDirection) : Bool :=
  match htf with
  | some htf =>
      if p.useHtfFilter && (p.playbook py).minBars + 2 ≤ htf.length then
        (directions htf p.factor (p.atrLengthOn py p.htfTimeframe)).getLast? = some curr
      else true
  | none => true

/-- The ADX filter lets the last bar pass; there may be no such column. -/
def adxPasses (adx : Option PyFloat) : Bool :=
  !(p.useAdxFilter && adx.any (fun x => PyFloat.lt x (.fin p.adxThreshold)))

/-- All filters let the last bar pass. -/
def passes (df : List Backtest.Candle) (htf : Option (List Backtest.Candle))
    (adx : Option PyFloat) : Bool :=
  p.htfPasses py htf ((p.playbook py).currDir df) && (p.playbook py).volumePasses df &&
    p.adxPasses adx

/-- The entry signal at the last bar. -/
def signal (df : List Backtest.Candle) : Option PositionSide :=
  (entryModeOf p.entryMode).bind (fun _ => (p.playbook py).signal df)

/-- `evaluate`. -/
def evaluate (df : List Backtest.Candle) (htf : Option (List Backtest.Candle))
    (adx : Option PyFloat) : Option SupertrendSetup :=
  if df.length < (p.playbook py).minBars + 2 then none
  else if p.passes py df htf adx then (p.signal py df).map ((p.playbook py).setup df)
  else none

/-- There is room where the last bar passes and calls for a setup. -/
def Roomy (df : List Backtest.Candle) (htf : Option (List Backtest.Candle))
    (adx : Option PyFloat) : Prop :=
  (p.playbook py).minBars + 2 ≤ df.length → p.passes py df htf adx →
    ∀ side, p.signal py df = some side → (p.playbook py).Room df side

variable {p py} {df : List Backtest.Candle} {htf : Option (List Backtest.Candle)}
  {adx : Option PyFloat}

/-- The setups are well formed exactly where there is room. -/
theorem st2_wellFormed_iff (hpos : ∀ c ∈ df, c.Positive) :
    (∀ s, p.evaluate py df htf adx = some s → s.levels.WellFormed) ↔ p.Roomy py df htf adx := by
  unfold evaluate Roomy
  by_cases hshort : df.length < (p.playbook py).minBars + 2
  · simp [hshort, not_le.mpr hshort]
  · rw [if_neg hshort, forall_prop_of_true (not_lt.mp hshort)]
    by_cases hpasses : p.passes py df htf adx = true
    · have hlast : df.length - 1 < df.length := by omega
      have hentry : 0 < PlaybookSupertrend2.currClose df := by
        have hclose := (hpos _ (Backtest.row_mem hlast)).close
        rwa [PlaybookSupertrend2.currClose, Backtest.closes,
          Backtest.getD_map_row _ df hlast]
      rw [if_pos hpasses, forall_prop_of_true hpasses]
      constructor
      · intro h side hside
        exact (PlaybookSupertrend2.setup_wellFormed_iff hentry).mp (h _ (by rw [hside]; rfl))
      · intro h s hs
        obtain ⟨side, hside, rfl⟩ := Option.map_eq_some_iff.mp hs
        exact (PlaybookSupertrend2.setup_wellFormed_iff hentry).mpr (h side hside)
    · simp [hpasses]

end TextSupertrend2

/-! ## Playbooks read off their parameters -/

section Read

variable (o : Tuned)

def PlaybookSMC.ofTuned (h : smcRail.bounded o = true) : PlaybookSMC :=
  { swingWindow := o.count "swing_window"
    sweepLookback := o.count "sweep_lookback"
    structureLookback := o.count "structure_lookback"
    oiExpansionPct := o.number "oi_expansion_pct"
    volumeMultTarget := o.number "volume_mult_target"
    rvolTarget := o.number "rvol_target"
    liqCascadeThreshold := o.number "liq_cascade_threshold"
    minScore := o.number "min_score"
    atrPeriod := o.count "atr_period"
    slBufferAtr := o.number "sl_buffer_atr"
    slAtrMult := o.number "sl_atr_mult"
    tpRr := o.number "tp_rr"
    maxHoldHours := o.count "max_hold_hours"
    wHtf := o.number "w_htf"
    wSweep := o.number "w_sweep"
    wStructure := o.number "w_structure"
    wOb := o.number "w_ob"
    wFvg := o.number "w_fvg"
    wOi := o.number "w_oi"
    wVol := o.number "w_vol"
    wRvol := o.number "w_rvol"
    wLiq := o.number "w_liq"
    swingWindow_ge := Tuned.le_count h (by simp [smcRail])
    sweepLookback_pos := Tuned.le_count h (by simp [smcRail])
    structureLookback_pos := Tuned.le_count h (by simp [smcRail])
    oiExpansionPct_ge := Tuned.le_number h (by simp [smcRail])
    volumeMultTarget_ge := Tuned.le_number h (by simp [smcRail])
    rvolTarget_ge := Tuned.le_number h (by simp [smcRail])
    liqCascadeThreshold_nonneg := Tuned.le_number h (by simp [smcRail])
    minScore_nonneg := Tuned.le_number h (by simp [smcRail])
    atrPeriod_ge := Tuned.le_count h (by simp [smcRail])
    slBufferAtr_nonneg := Tuned.le_number h (by simp [smcRail])
    slAtrMult_ge := Tuned.le_number h (by simp [smcRail])
    tpRr_ge := Tuned.le_number h (by simp [smcRail])
    maxHoldHours_pos := Tuned.le_count h (by simp [smcRail]) }

def LiquiditySweep.ofTuned (h : lswRail.bounded o = true) : LiquiditySweep :=
  { swingWindow := o.count "swing_window"
    sweepLookback := o.count "sweep_lookback"
    tpR := o.number "tp_r"
    atrPeriod := o.count "atr_period"
    slBufferAtr := o.number "sl_buffer_atr"
    minStopFrac := o.number "min_stop_frac"
    useHtfFilter := o.flag "use_htf_filter"
    maxHoldHours := o.count "max_hold_hours"
    swingWindow_ge := Tuned.le_count h (by simp [lswRail])
    sweepLookback_pos := Tuned.le_count h (by simp [lswRail])
    tpR_ge := Tuned.le_number h (by simp [lswRail])
    atrPeriod_ge := Tuned.le_count h (by simp [lswRail])
    slBufferAtr_nonneg := Tuned.le_number h (by simp [lswRail])
    minStopFrac_nonneg := Tuned.le_number h (by simp [lswRail])
    maxHoldHours_pos := Tuned.le_count h (by simp [lswRail]) }

def Backtest.MtfAlignment.ofTuned (h : mtaRail.bounded o = true) : Backtest.MtfAlignment :=
  { macroTfs := o.names "macro_tfs"
    emaLen := o.count "ema_len"
    minMacroFrames := o.count "min_macro_frames"
    breakLookback := o.count "break_lookback"
    swingLookback := o.count "swing_lookback"
    tpR := o.number "tp_r"
    atrPeriod := o.count "atr_period"
    minStopFrac := o.number "min_stop_frac"
    maxHoldHours := o.count "max_hold_hours"
    emaLen_ge := Tuned.le_count h (by simp [mtaRail])
    minMacroFrames_pos := Tuned.le_count h (by simp [mtaRail])
    breakLookback_pos := Tuned.le_count h (by simp [mtaRail])
    swingLookback_ge := Tuned.le_count h (by simp [mtaRail])
    tpR_ge := Tuned.le_number h (by simp [mtaRail])
    atrPeriod_ge := Tuned.le_count h (by simp [mtaRail])
    minStopFrac_nonneg := Tuned.le_number h (by simp [mtaRail])
    maxHoldHours_pos := Tuned.le_count h (by simp [mtaRail]) }

def TextSupertrend2.ofTuned : TextSupertrend2 :=
  { atrPeriod := o.count "atr_period"
    factor := o.number "factor"
    useAdaptiveAtr := o.flag "use_adaptive_atr"
    timeframe := o.text "timeframe"
    htfTimeframe := o.text "htf_timeframe"
    entryMode := o.text "entry_mode"
    retracementPct := o.number "retracement_pct"
    flipLookback := o.count "flip_lookback"
    useHtfFilter := o.flag "use_htf_filter"
    useVolFilter := o.flag "use_vol_filter"
    volMultiplier := o.number "vol_multiplier"
    useAdxFilter := o.flag "use_adx_filter"
    adxThreshold := o.count "adx_threshold"
    tp1Pct := o.number "tp1_pct"
    useTp := o.flag "use_tp"
    slMode := o.text "sl_mode"
    slPct := o.number "sl_pct"
    slAtrMult := o.number "sl_atr_mult"
    maxHoldHours := o.count "max_hold_hours" }

end Read

end CryptoTrader
