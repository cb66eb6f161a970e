import CryptoTrader.Lib.Run
import CryptoTrader.Strategies.Tuned

/-!
# Evaluations under overrides

The four playbooks as they are overridden and evaluated in turn.  Their overrides go
past the clamps of the constructors, and their stops and targets are not kept above
zero; as long as neither matters, every evaluation returns a well-formed setup or none.
-/

namespace CryptoTrader

open CryptoTrader.Lib

/-! ## Evaluations -/

/-- A series of candles with positive prices. -/
structure PriceSeries where
  bars : List Structure.Candle
  positive : ∀ c ∈ bars, c.toCandle.Positive

/-- Its rows without the open times. -/
def PriceSeries.rows (df : PriceSeries) : List Backtest.Candle := df.bars.map (·.toCandle)

theorem PriceSeries.rows_positive (df : PriceSeries) : ∀ c ∈ df.rows, c.Positive := by
  intro c hc
  obtain ⟨bar, hbar, rfl⟩ := List.mem_map.mp hc
  exact df.positive bar hbar

/-- An `evaluate` call with its arguments; for Supertrend2 with the last value of an
`adx` column, if there is one. -/
inductive EvaluateCall where
  | smc (df : PriceSeries) (dfHtf : Option (List Backtest.Candle)) (inp : Participation)
  | liquiditySweep (df : PriceSeries) (dfHtf : Option (List Backtest.Candle))
  | mtfAlignment (df : PriceSeries) (frames : Backtest.Frames)
  | supertrend2 (df : PriceSeries) (dfHtf : Option (List Backtest.Candle)) (adx : Option PyFloat)

def EvaluateCall.name : EvaluateCall → PlaybookName
  | .smc _ _ _ => .smc
  | .liquiditySweep _ _ => .liquiditySweep
  | .mtfAlignment _ _ => .mtfAlignment
  | .supertrend2 _ _ _ => .supertrend2

/-- What a call returns or raises. -/
abbrev EvaluateOutcome := Except PyErr (Option SetupLevels)

/-- It does not raise, and a setup that it returns is well formed. -/
def EvaluateFine (outcome : EvaluateOutcome) : Prop :=
  Yields outcome (fun setup? => ∀ setup, setup? = some setup → setup.WellFormed)

/-- The windows whose extremes are taken at the last bar; that of nothing raises. -/
def Backtest.MtfAlignment.hasWindows (pb : Backtest.MtfAlignment) (df : List Backtest.Candle) :
    Bool :=
  let i := df.length - 1
  !(slice (Backtest.highs df) (i - pb.breakLookback) i).isEmpty &&
    !(slice (Backtest.lows df) (i - pb.swingLookback + 1) (i + 1)).isEmpty

/-- `evaluate` of the aligned timeframes, which may raise. -/
def Backtest.MtfAlignment.evaluateFrame (pb : Backtest.MtfAlignment) (df : List Backtest.Candle)
    (frames : Backtest.Frames) : Except PyErr (Option Backtest.Signal) :=
  if pb.minBars ≤ df.length ∧ pb.hasWindows df = false then
    .error (.valueError "zero-size array to reduction operation")
  else .ok (pb.evaluate df frames)

/-- Everything outside: what casts make of texts and containers, which other attributes
an object has, and what an object does whose attributes are not what its constructor
leaves. -/
structure Surroundings where
  py : Casts
  others : PlaybookName → String → Bool
  stray : Tuned → EvaluateCall → EvaluateOutcome

section Evaluate

variable (env : Surroundings) (o : Tuned)

/-- The call, on an object whose attributes are as they are. -/
def EvaluateCall.evaluate (call : EvaluateCall) : EvaluateOutcome :=
  if o.disturbed then env.stray o call
  else
    match call with
    | .smc df dfHtf inp =>
        if h : smcRail.bounded o = true then
          ((PlaybookSMC.ofTuned o h).evaluate df.bars dfHtf inp).map (Option.map SmcSetup.levels)
        else env.stray o call
    | .liquiditySweep df dfHtf =>
        if h : lswRail.bounded o = true then
          .ok (((LiquiditySweep.ofTuned o h).evaluate df.bars dfHtf).map SweepSetup.levels)
        else env.stray o call
    | .mtfAlignment df frames =>
        if h : mtaRail.bounded o = true then
          ((Backtest.MtfAlignment.ofTuned o h).evaluateFrame df.rows frames).map
            (Option.map Backtest.Signal.levels)
        else env.stray o call
    | .supertrend2 df dfHtf adx =>
        if st2Rail.bounded o = true then
          .ok (((TextSupertrend2.ofTuned o).evaluate env.py df.rows dfHtf adx).map
            SupertrendSetup.levels)
        else env.stray o call

/-- Where the call leads to a setup, there is room for its levels. -/
def EvaluateCall.Roomy : EvaluateCall → Prop
  | .smc df dfHtf inp =>
      ∀ h : smcRail.bounded o = true, (PlaybookSMC.ofTuned o h).Roomy df.bars dfHtf inp
  | .liquiditySweep df dfHtf =>
      ∀ h : lswRail.bounded o = true, (LiquiditySweep.ofTuned o h).Roomy df.bars dfHtf
  | .mtfAlignment df frames =>
      ∀ h : mtaRail.bounded o = true, (Backtest.MtfAlignment.ofTuned o h).Roomy df.rows frames
  | .supertrend2 df dfHtf adx => (TextSupertrend2.ofTuned o).Roomy env.py df.rows dfHtf adx

variable {env o}

/-- With enough bars neither window is empty. -/
theorem hasWindows_of_minBars {pb : Backtest.MtfAlignment} {df : List Backtest.Candle}
    (h : pb.minBars ≤ df.length) : pb.hasWindows df = true := by
  have hbreak : pb.breakLookback + 2 ≤ pb.minBars := (le_max_left _ _).trans (le_max_left _ _)
  have hswing : pb.swingLookback + 2 ≤ pb.minBars := (le_max_right _ _).trans (le_max_left _ _)
  have hbreak' := pb.breakLookback_pos
  have hswing' := pb.swingLookback_ge
  have hhighs : slice (Backtest.highs df) (df.length - 1 - pb.breakLookback) (df.length - 1) ≠ [] := by
    intro hnil
    have hlength := congrArg List.length hnil
    simp [slice, Backtest.highs] at hlength
    omega
  have hlows : slice (Backtest.lows df) (df.length - 1 - pb.swingLookback + 1)
      (df.length - 1 + 1) ≠ [] := by
    intro hnil
    have hlength := congrArg List.length hnil
    simp [slice, Backtest.lows] at hlength
    omega
  simp [Backtest.MtfAlignment.hasWindows, hhighs, hlows]

theorem evaluateFrame_eq {pb : Backtest.MtfAlignment} {df : List Backtest.Candle}
    {frames : Backtest.Frames} : pb.evaluateFrame df frames = .ok (pb.evaluate df frames) := by
  refine if_neg ?_
  rintro ⟨hbars, hnone⟩
  rw [hasWindows_of_minBars hbars] at hnone
  cases hnone

/-- Setups that are well formed as such. -/
theorem evaluateFine_ok {α : Type} {setup? : Option α} {levels : α → SetupLevels}
    (h : ∀ setup, setup? = some setup → (levels setup).WellFormed) :
    EvaluateFine (.ok (setup?.map levels)) := by
  refine ⟨_, rfl, fun s hs => ?_⟩
  obtain ⟨setup, hsetup, rfl⟩ := Option.map_eq_some_iff.mp hs
  exact h setup hsetup

/-- A call on a sound object with room is fine. -/
theorem EvaluateCall.evaluate_fine {call : EvaluateCall} (hsound : call.name.rail.Sound o)
    (hroomy : call.Roomy env o) : EvaluateFine (call.evaluate env o) := by
  unfold EvaluateCall.evaluate
  rw [if_neg (by simp [hsound.undisturbed])]
  cases call with
  | smc df dfHtf inp =>
      have hbounded : smcRail.bounded o = true := hsound.bounded
      dsimp only
      rw [dif_pos hbounded]
      obtain ⟨setup?, hsetup, hfine⟩ :=
        PlaybookSMC.evaluate_wellFormed df.positive (hroomy hbounded)
      rw [hsetup]
      exact evaluateFine_ok hfine
  | liquiditySweep df dfHtf =>
      have hbounded : lswRail.bounded o = true := hsound.bounded
      dsimp only
      rw [dif_pos hbounded]
      exact evaluateFine_ok
        ((LiquiditySweep.evaluate_wellFormed_iff df.positive).mpr (hroomy hbounded))
  | mtfAlignment df frames =>
      have hbounded : mtaRail.bounded o = true := hsound.bounded
      dsimp only
      rw [dif_pos hbounded, evaluateFrame_eq]
      exact evaluateFine_ok
        ((Backtest.MtfAlignment.mtf_wellFormed_iff df.rows_positive).mpr (hroomy hbounded))
  | supertrend2 df dfHtf adx =>
      have hbounded : st2Rail.bounded o = true := hsound.bounded
      dsimp only
      rw [if_pos hbounded]
      exact evaluateFine_ok ((TextSupertrend2.st2_wellFormed_iff df.rows_positive).mpr hroomy)

end Evaluate

/-! ## Runs -/

/-- The four playbooks as their constructors leave them. -/
structure BuiltPlaybooks where
  attrs : PlaybookName → Attributes String PyValue
  bounded : ∀ name : PlaybookName, name.rail.bounded { attrs := attrs name } = true

/-- The playbooks, and what the calls so far returned. -/
structure TunedDesk where
  objects : PlaybookName → Tuned
  outcomes : List EvaluateOutcome := []

inductive TuneEvent where
  | applyOverrides (name : PlaybookName) (ov : List (String × PyValue))
  | evaluate (call : EvaluateCall)

def BuiltPlaybooks.start (built : BuiltPlaybooks) : TunedDesk :=
  { objects := fun name => { attrs := built.attrs name } }

namespace TunedDesk

variable (env : Surroundings)

/-- The attributes whose replacement an evaluation may notice. -/
def noticed (name : PlaybookName) (attr : String) : Bool :=
  attr ∉ name.unread && env.others name attr

def step (desk : TunedDesk) : TuneEvent → TunedDesk
  | .applyOverrides name ov =>
      { desk with
        objects := Function.update desk.objects name
          (name.rail.applyOverrides env.py (noticed env name) (desk.objects name) ov) }
  | .evaluate call =>
      { desk with outcomes := desk.outcomes ++ [call.evaluate env (desk.objects call.name)] }

/-- Every call so far was fine, every parameter is within the bounds of its constructor,
and no flag says yes where it was told no. -/
structure Right (desk : TunedDesk) : Prop where
  fine : ∀ outcome ∈ desk.outcomes, EvaluateFine outcome
  bounded : ∀ name : PlaybookName, name.rail.bounded (desk.objects name) = true
  honest : ∀ name, ∀ flag ∈ (desk.objects name).flags, flag.1.saysFalse → flag.2.truthy = false

/-- Overrides are tame, and evaluations have room. -/
def Keeps (desk : TunedDesk) : TuneEvent → Prop
  | .applyOverrides name ov =>
      name.rail.TameAll env.py (noticed env name) (desk.objects name) ov
  | .evaluate call => call.Roomy env (desk.objects call.name)

/-- What tame overrides and roomy evaluations keep. -/
structure Sound (desk : TunedDesk) : Prop where
  fine : ∀ outcome ∈ desk.outcomes, EvaluateFine outcome
  objects : ∀ name : PlaybookName, name.rail.Sound (desk.objects name)

variable {env} {desk : TunedDesk}

theorem Sound.right (h : desk.Sound) : desk.Right :=
  ⟨h.fine, fun name => (h.objects name).bounded, fun name => (h.objects name).honest⟩

theorem Sound.step (h : desk.Sound) {e : TuneEvent} (hkeeps : desk.Keeps env e) :
    (desk.step env e).Sound := by
  cases e with
  | applyOverrides name ov =>
      refine ⟨h.fine, fun other => ?_⟩
      by_cases hsame : other = name
      · subst hsame
        simpa [TunedDesk.step] using (h.objects other).applyOverrides hkeeps
      · simpa [TunedDesk.step, hsame] using h.objects other
  | evaluate call =>
      refine ⟨fun outcome hmem => ?_, h.objects⟩
      rcases List.mem_append.mp hmem with hold | hnew
      · exact h.fine outcome hold
      · rw [List.mem_singleton.mp hnew]
        exact EvaluateCall.evaluate_fine (h.objects call.name) hkeeps

theorem sound_start (built : BuiltPlaybooks) : built.start.Sound :=
  ⟨fun _ h => (by cases h), fun name => ⟨built.bounded name, rfl, fun _ h => (by cases h)⟩⟩

/-- The parameters of a constructor without arguments. -/
def defaults : PlaybookName → List (String × PyValue)
  | .smc =>
      [("entry_timeframe", .str "15m"), ("htf_timeframe", .str "4h"), ("swing_window", .int 3),
        ("sweep_lookback", .int 12), ("structure_lookback", .int 12),
        ("oi_expansion_pct", .float (.fin 3)), ("volume_mult_target", .float (.fin 3)),
        ("rvol_target", .float (.fin (6 / 5))), ("liq_cascade_threshold", .float (.fin (1 / 2))),
        ("min_score", .float (.fin 70)), ("atr_period", .int 14),
        ("sl_buffer_atr", .float (.fin (1 / 2))), ("sl_atr_mult", .float (.fin (3 / 2))),
        ("tp_rr", .float (.fin 2)), ("max_hold_hours", .int 24),
        ("w_htf", .float (.fin (15 / 100))), ("w_sweep", .float (.fin (15 / 100))),
        ("w_structure", .float (.fin (15 / 100))), ("w_ob", .float (.fin (12 / 100))),
        ("w_fvg", .float (.fin (10 / 100))), ("w_oi", .float (.fin (12 / 100))),
        ("w_vol", .float (.fin (10 / 100))), ("w_rvol", .float (.fin (8 / 100))),
        ("w_liq", .float (.fin (3 / 100)))]
  | .liquiditySweep =>
      [("timeframe", .str "15m"), ("htf_timeframe", .str "4h"), ("swing_window", .int 3),
        ("sweep_lookback", .int 3), ("tp_r", .float (.fin (5 / 2))), ("atr_period", .int 14),
        ("sl_buffer_atr", .float (.fin (1 / 4))), ("min_stop_frac", .float (.fin (2 / 1000))),
        ("use_htf_filter", .bool false), ("max_hold_hours", .int 24)]
  | .mtfAlignment =>
      [("entry_timeframe", .str "5m"), ("macro_tfs", .list [.str "1h", .str "4h", .str "1d"]),
        ("ema_len", .int 50), ("min_macro_frames", .int 2), ("break_lookback", .int 5),
        ("swing_lookback", .int 6), ("tp_r", .float (.fin 3)), ("atr_period", .int 14),
        ("min_stop_frac", .float (.fin (55 / 10000))), ("max_hold_hours", .int 24)]
  | .supertrend2 =>
      [("atr_period", .int 10), ("factor", .float (.fin 3)), ("use_adaptive_atr", .bool true),
        ("timeframe", .str "1h"), ("htf_timeframe", .str "4h"), ("entry_mode", .str "flip"),
        ("retracement_pct", .float (.fin 1)), ("flip_lookback", .int 5),
        ("use_htf_filter", .bool true), ("use_vol_filter", .bool false),
        ("vol_multiplier", .float (.fin (6 / 5))), ("use_adx_filter", .bool false),
        ("adx_threshold", .int 20), ("tp1_pct", .float (.fin 1)), ("use_tp", .bool true),
        ("sl_mode", .str "supertrend"), ("sl_pct", .float (.fin (3 / 2))),
        ("sl_atr_mult", .float (.fin (5 / 2))), ("max_hold_hours", .int 168)]

def builtDefaults : BuiltPlaybooks where
  attrs name attr := (defaults name).lookup attr
  bounded name := by cases name <;> decide +kernel

/-- No text is a number, and nothing else needs saying here. -/
def plainSurroundings : Surroundings where
  py :=
    { float := fun _ => none
      int := fun _ => none
      str := fun _ => ""
      list := fun _ => none
      dict := fun _ => none }
  others _ _ := false
  stray _ _ := .ok none

/-- An override within bounds, and an evaluation. -/
def tameRun : List TuneEvent :=
  [.applyOverrides .liquiditySweep [("lsw_tp_r", .float (.fin 3))],
    .evaluate (.liquiditySweep ⟨[], fun _ h => by cases h⟩ none)]

/-- A multiple of the risk below zero, and a text that says no. -/
def strayRun : List TuneEvent :=
  [.applyOverrides .liquiditySweep [("lsw_tp_r", .int (-1)), ("lsw_use_htf_filter", .str "false")]]

end TunedDesk

end CryptoTrader
