import CryptoTrader.Selection.Champions

/-!
# Hot configuration

`_apply_runtime_overrides`, `_refresh_champion` and `_apply_champion` of `engine_ws.py`.
The overrides are set on the configuration in place; a champion replaces it by a copy of
the base, and without a champion it is the base object itself.  The playbook of the
strategy is built from the configuration and told of the overrides it takes.
-/

namespace CryptoTrader

open CryptoTrader.Lib

/-! ## Playbooks -/

/-- The names of the parameters a strategy's playbook takes overrides of. -/
def paramHead : ConfigValue → Option String
  | .str "supertrend2" => some "st2_"
  | .str "mean_reversion" => some "mr_"
  | .str "smc" => some "smc_"
  | .str "smc_5c" => some "smc5c_"
  | .str "liquidity_sweep" => some "lsw_"
  | .str "mtf_alignment" => some "mta_"
  | _ => none

/-- `k.startswith("st2_") and self.playbook_st2 is not None`, and the like.  The
playbook of `regime_switch` is told of none. -/
def takesParam (mode : ConfigValue) (key : String) : Bool :=
  (paramHead mode).any (fun head => head.toList.isPrefixOf key.toList)

/-- What the playbook of `regime_switch` is built from. -/
def regimeSwitchKeys : List String :=
  [ "st2_timeframe", "st2_htf_timeframe", "st2_entry_mode", "st2_factor", "st2_atr_period",
    "st2_sl_atr_mult", "st2_sl_mode", "st2_tp1_pct" ]

/-- The playbook of a mode is built from the parameter. -/
def readsParam (mode : ConfigValue) (key : String) : Bool :=
  takesParam mode key || (mode = .str "regime_switch" && key ∈ regimeSwitchKeys)

/-- The parameter that `lsw_tp_r_overrides` replaces for a symbol. -/
def targetParam : ConfigValue → Option String
  | .str "liquidity_sweep" => some "lsw_tp_r"
  | .str "mtf_alignment" => some "mta_tp_r"
  | _ => none

/-- What the engine of a symbol is constructed with: the shared configuration, whether it
says `use_strategy_champions`, the symbol's entry in `lsw_tp_r_overrides`, and Python's
`type(existing)(val)`, which is `val` where that raises. -/
structure HotSetup where
  symbol : String
  base : Config
  useStrategyChampions : Bool
  tpOverride : Option ConfigValue := none
  typed : ConfigValue → ConfigValue → ConfigValue := fun _ val => val

/-- The playbook in use, with the parameters it was built from. -/
structure StrategyPlaybook where
  mode : ConfigValue
  params : Config

/-- The strategy of a configuration; `"legacy"` where it has none. -/
def strategyMode (cfg : Config) : ConfigValue := (cfg "strategy_mode").getD (.str "legacy")

section Playbooks

variable (s : HotSetup)

/-- `_init_strategy_playbooks`. -/
def initStrategyPlaybooks (cfg : Config) : StrategyPlaybook :=
  let mode := strategyMode cfg
  { mode := mode
    params := fun key =>
      if readsParam mode key then
        if targetParam mode = some key then s.tpOverride <|> cfg key else cfg key
      else none }

/-- `apply_overrides({k: v})` on the playbook that takes the parameter. -/
def StrategyPlaybook.applyOverride (p : StrategyPlaybook) (item : String × ConfigValue) :
    StrategyPlaybook :=
  if takesParam p.mode item.1 then
    match p.params item.1 with
    | some existing => { p with params := p.params.assign item.1 (s.typed existing item.2) }
    | none => p
  else p

end Playbooks

/-! ## The engine -/

/-- What the engine keeps about its configuration.  `own` is `cfg` where that is not the
object `_base_cfg`; `pendingChampion` is `none` for `"__unset__"`. -/
structure HotEngine where
  base : Config
  own : Option Config := none
  championNoTrade : Bool := false
  sig : Option ChampionSig := none
  championsMtime : Option ℕ := none
  pendingChampion : Option (Option Champion) := none
  store : ConfigStore := {}
  pendingFlatOverrides : Dict String ConfigValue := Dict.empty
  playbook : StrategyPlaybook

namespace HotEngine

variable (s : HotSetup) (e : HotEngine)

def cfg : Config := e.own.getD e.base

/-- `if hasattr(self.cfg, k): setattr(self.cfg, k, v)`, on whichever object `cfg` is. -/
def setattr (item : String × ConfigValue) : HotEngine :=
  match e.own with
  | some cfg => { e with own := some (cfg.assign item.1 item.2) }
  | none => { e with base := e.base.assign item.1 item.2 }

/-- An override takes effect on the configuration and on the playbook. -/
def applyOverride (item : String × ConfigValue) : HotEngine :=
  { e.setattr item with playbook := e.playbook.applyOverride s item }

/-- One override of a changed file. -/
def takeOverride (item : String × ConfigValue) : HotEngine :=
  match classify item.1 with
  | .safe => e.applyOverride s item
  | .flatOnly =>
      { e with pendingFlatOverrides := e.pendingFlatOverrides.set item.1 item.2 }
  | _ => e

/-- The overrides a poll returns. -/
def polled (file : Option OverridesFile) : List (String × ConfigValue) :=
  (e.store.poll file).2.elim [] Dict.entries

/-- `_apply_runtime_overrides`. -/
def applyRuntimeOverrides (file : Option OverridesFile) (inPosition : Bool) : HotEngine :=
  let e := (e.polled file).foldl (takeOverride s) { e with store := (e.store.poll file).1 }
  if e.pendingFlatOverrides.entries = [] then e
  else if inPosition then e
  else
    { e.pendingFlatOverrides.entries.foldl (applyOverride s) e with
      pendingFlatOverrides := Dict.empty }

/-- `_apply_champion`. -/
def applyChampion (champ : Option Champion) (file : Option ChampionsFile) : HotEngine :=
  match champ with
  | some c =>
      { e with
        own := some (c.resolve e.base)
        championNoTrade := false
        sig := some (championSig champ) }
  | none =>
      { e with
        own := none
        championNoTrade := (loadChampions file).entries ≠ []
        sig := some (championSig none) }

/-- The champion `_refresh_champion` applies where it comes to apply one. -/
def swapTarget (file : Option ChampionsFile) : Option Champion :=
  e.pendingChampion.getD (championFor s.symbol file)

/-- `_refresh_champion`. -/
def refreshChampion (file : Option ChampionsFile) (inPosition : Bool) : HotEngine :=
  match s.useStrategyChampions, file with
  | true, some f =>
      if e.championsMtime = some f.mtime ∧ e.pendingChampion = none then e
      else
        let e := { e with championsMtime := some f.mtime }
        let champ := championFor s.symbol file
        if e.sig = some (championSig champ) ∧ e.pendingChampion = none then e
        else if inPosition then { e with pendingChampion := some champ }
        else
          let target := e.swapTarget s file
          let e := { e with pendingChampion := none }.applyChampion target file
          { e with playbook := initStrategyPlaybooks s e.cfg }
  | _, _ => e

/-- What `_signal_tick` does before it fetches data, on an engine that is not halted. -/
def signalTick (champions : Option ChampionsFile) (overrides : Option OverridesFile)
    (inPosition : Bool) : HotEngine :=
  (e.applyRuntimeOverrides s overrides inPosition).refreshChampion s champions inPosition

end HotEngine

/-- The engine as it is constructed. -/
def HotSetup.boot (s : HotSetup) (champions : Option ChampionsFile) : HotEngine :=
  let e : HotEngine := { base := s.base, playbook := initStrategyPlaybooks s s.base }
  if s.useStrategyChampions then
    let e := e.applyChampion (championFor s.symbol champions) champions
    { e with playbook := initStrategyPlaybooks s e.cfg }
  else e

end CryptoTrader
