import CryptoTrader.Lib.Attributes
import Mathlib.Algebra.Order.Ring.Rat

/-!
# Runtime overrides

`config/_store.py`: the classes of parameters, and the store that polls the
overrides file by its modification time.  Times are natural numbers; the store's
`-1.0` is no time of a file.
-/

namespace CryptoTrader

open CryptoTrader.Lib

/-- The value of a parameter, up to `==`: `True`, `1` and `1.0` are one number. -/
inductive ConfigValue where
  | null
  | num (x : ℚ)
  | str (s : String)
  | list (xs : List String)
  deriving DecidableEq

/-- A `TradingConfig`: its fields and their values. -/
abbrev Config := Attributes String ConfigValue

/-! ## Classes of parameters -/

inductive ParamClass where
  | safe
  | flatOnly
  | restart
  | unknown
  deriving DecidableEq

/-- Applied on any tick. -/
def safeKeys : List String :=
  [ "final_score_threshold", "adaptive_min_threshold", "adaptive_decay_per_hour",
    "adaptive_target_trades_per_day", "st2_factor", "st2_tp1_pct", "st2_use_tp",
    "st2_use_htf_filter", "st2_use_vol_filter", "st2_vol_multiplier", "st2_use_adx_filter",
    "st2_adx_threshold", "st2_entry_mode", "st2_retracement_pct", "st2_flip_lookback",
    "mr_entry_band", "smc_min_score", "smc_sweep_lookback", "smc_structure_lookback",
    "smc_oi_expansion_pct", "smc_volume_mult_target", "smc_rvol_target",
    "smc_liq_cascade_threshold", "smc_tp_rr", "lsw_sweep_lookback", "lsw_tp_r",
    "lsw_min_stop_frac", "lsw_use_htf_filter", "mta_tp_r", "mta_break_lookback",
    "mta_min_macro_frames", "smc5c_bos_lookback", "smc5c_fvg_window", "smc5c_atr_pctile",
    "smc5c_vol_pctile", "rvol_dead_threshold", "rvol_weak_threshold", "rvol_strong_threshold",
    "regime_size_multiplier_high", "regime_size_multiplier_low", "funding_extreme_threshold",
    "max_daily_trades", "max_consecutive_losses", "max_orders_per_minute", "max_margin_ratio",
    "max_drawdown_pct", "max_daily_drawdown_pct", "cooldown_after_loss_minutes" ]

/-- Applied only when the symbol is flat: they define the stop. -/
def flatOnlyKeys : List String :=
  [ "st2_sl_mode", "st2_sl_pct", "st2_sl_atr_mult", "st2_max_hold_hours", "mr_stop_loss_pct",
    "smc_sl_buffer_atr", "smc_sl_atr_mult", "smc_atr_period", "smc_max_hold_hours",
    "lsw_sl_buffer_atr", "lsw_atr_period", "lsw_max_hold_hours", "mta_swing_lookback",
    "mta_min_stop_frac", "mta_atr_period", "mta_max_hold_hours", "smc5c_tp_pct", "smc5c_sl_pct",
    "smc5c_atr_period", "smc5c_vol_window", "smc5c_max_hold_hours" ]

/-- Ignored with a warning. -/
def restartKeys : List String :=
  [ "strategy_mode", "mode", "max_leverage", "mr_timeframe", "st2_timeframe", "st2_htf_timeframe",
    "mr_sma_period", "st2_atr_period", "st2_use_adaptive_atr", "smc_entry_timeframe",
    "smc_htf_timeframe", "smc_swing_window", "lsw_timeframe", "lsw_htf_timeframe",
    "lsw_swing_window", "strategy_symbols", "mta_entry_timeframe", "mta_macro_tfs", "mta_ema_len",
    "smc5c_entry_timeframe", "smc5c_ema_fast", "smc5c_ema_slow" ]

/-- `ConfigStore.classify`. -/
def classify (key : String) : ParamClass :=
  if key ∈ safeKeys then .safe
  else if key ∈ flatOnlyKeys then .flatOnly
  else if key ∈ restartKeys then .restart
  else .unknown

/-- An override of the parameter is taken, at once or when the symbol is flat. -/
def Overridable (key : String) : Prop := classify key = .safe ∨ classify key = .flatOnly

instance (key : String) : Decidable (Overridable key) := inferInstanceAs (Decidable (_ ∨ _))

theorem not_overridable_strategyMode : ¬ Overridable "strategy_mode" := by decide +kernel

/-! ## The store -/

/-- What `json.load` makes of the overrides file: it raises, or there is a dictionary,
one under `"overrides"`, or something else. -/
inductive OverridesText where
  | bad
  | dict (data : Dict String ConfigValue)
  | wrapped (overrides : Dict String ConfigValue)
  | other
  deriving DecidableEq

structure OverridesFile where
  mtime : ℕ
  text : OverridesText
  deriving DecidableEq

/-- `_read_file` where the file exists; `none` keeps the last good overrides. -/
def OverridesFile.read (file : OverridesFile) : Option (Dict String ConfigValue) :=
  match file.text with
  | .bad => none
  | .dict data => some data
  | .wrapped overrides => some overrides
  | .other => some Dict.empty

/-- `_mtime` and `_cache`; the time is `none` for `-1.0`. -/
structure ConfigStore where
  mtime : Option ℕ := none
  cache : Dict String ConfigValue := Dict.empty
  deriving DecidableEq

namespace ConfigStore

/-- `poll`: the overrides if the file changed since the last poll. -/
def poll (store : ConfigStore) :
    Option OverridesFile → ConfigStore × Option (Dict String ConfigValue)
  | none =>
      if store.mtime ≠ none then ({ mtime := none, cache := Dict.empty }, some Dict.empty)
      else (store, none)
  | some file =>
      if store.mtime = some file.mtime then (store, none)
      else
        match file.read with
        | none => (store, none)
        | some parsed => ({ mtime := some file.mtime, cache := parsed }, some parsed)

/-- The overrides a file stands for: those it holds, and the last good ones while it
cannot be read. -/
def current (store : ConfigStore) : Option OverridesFile → Dict String ConfigValue
  | none => Dict.empty
  | some file => file.read.getD store.cache

/-- The store is up to date with every time it has seen. -/
structure Sees (store : ConfigStore) (file : Option OverridesFile) : Prop where
  absent : store.mtime = none → store.cache = Dict.empty
  seen : ∀ f, file = some f → store.mtime = some f.mtime → f.read = some store.cache

variable {store : ConfigStore} {file : Option OverridesFile}

theorem cache_poll (h : store.Sees file) : (store.poll file).1.cache = store.current file := by
  cases file with
  | none =>
      by_cases hmtime : store.mtime = none
      · simp [poll, current, hmtime, h.absent hmtime]
      · simp [poll, current, hmtime]
  | some f =>
      by_cases hmtime : store.mtime = some f.mtime
      · simp [poll, current, hmtime, h.seen f rfl hmtime]
      · cases hread : f.read with
        | none => simp [poll, current, hmtime, hread]
        | some parsed => simp [poll, current, hmtime, hread]

/-- What a poll returns is the new cache; without a change the cache stays. -/
theorem poll_snd (h : store.Sees file) :
    (store.poll file).2 = some (store.current file) ∨
      (store.poll file).2 = none ∧ store.current file = store.cache := by
  cases file with
  | none =>
      by_cases hmtime : store.mtime = none
      · simp [poll, current, hmtime, h.absent hmtime]
      · simp [poll, current, hmtime]
  | some f =>
      by_cases hmtime : store.mtime = some f.mtime
      · simp [poll, current, hmtime, h.seen f rfl hmtime]
      · cases hread : f.read with
        | none => simp [poll, current, hmtime, hread]
        | some parsed => simp [poll, current, hmtime, hread]

theorem Sees.poll (h : store.Sees file) : (store.poll file).1.Sees file := by
  cases file with
  | none =>
      by_cases hmtime : store.mtime = none
      · simpa [ConfigStore.poll, hmtime] using h
      · simp only [ConfigStore.poll, ne_eq, hmtime, not_false_eq_true, if_true]
        exact ⟨fun _ => rfl, fun _ hf => by cases hf⟩
  | some f =>
      by_cases hmtime : store.mtime = some f.mtime
      · simpa [ConfigStore.poll, hmtime] using h
      · cases hread : f.read with
        | none => simpa [ConfigStore.poll, hmtime, hread] using h
        | some parsed =>
            simp only [ConfigStore.poll, hmtime, if_false, hread]
            refine ⟨fun hnone => by simp at hnone, fun _ hg _ => ?_⟩
            rw [← Option.some.inj hg, hread]

theorem poll_poll (store : ConfigStore) (file : Option OverridesFile) :
    (store.poll file).1.poll file = ((store.poll file).1, none) := by
  cases file with
  | none => by_cases hmtime : store.mtime = none <;> simp [ConfigStore.poll, hmtime]
  | some f =>
      by_cases hmtime : store.mtime = some f.mtime
      · simp [ConfigStore.poll, hmtime]
      · cases hread : f.read <;> simp [ConfigStore.poll, hmtime, hread]

/-- A file with a time the store has not seen. -/
theorem Sees.write (h : store.Sees file) {f : OverridesFile} (hnew : store.mtime ≠ some f.mtime) :
    store.Sees (some f) :=
  ⟨h.absent, fun _ hg hmtime => absurd (Option.some.inj hg ▸ hmtime) hnew⟩

theorem Sees.delete (h : store.Sees file) : store.Sees none :=
  ⟨h.absent, fun _ hg => by cases hg⟩

end ConfigStore

end CryptoTrader
