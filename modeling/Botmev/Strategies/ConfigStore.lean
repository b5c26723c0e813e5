import Botmev.Library.Keyed
import Botmev.Strategies.ConfigManager

/-!
# The configurations by name

`ConfigManager` (`mev-strategies/src/config_manager.rs`) keeps the configurations of the strategies in a list
and answers by name: it gives one, puts one in the place of the one with its name, switches one on or off,
and gives those that are on. `validate_config` has a list of warnings.

What it is for is `Settings`: a configuration for each name, and the global one. The numbers of a warning
are written in decimal; how an `f64` is written is a parameter.

## What is proved

* `apply_refines`: each change is one of the settings, and so is its answer, even where two have one name.
* `validateConfig_eq_ok_nil_iff`: when there are no warnings.
* `default_valid`: there are none for the default configuration.
* `kept_by_name`: what holds after any changes.
-/

namespace Botmev.Strategies

open Botmev.Rust Botmev.Library

/-! ### The source -/

/-- A warning of `validate_config`. -/
inductive Warning where
  /-- Of the global configuration. -/
  | maxConcurrentStrategies
  /-- Of the global configuration. -/
  | evaluationTimeoutMs
  /-- Of the strategy with the name. -/
  | minProfitWei (name : String)
  /-- With the price. -/
  | maxGasPriceGwei (name : String) (maxGasPriceGwei : U64)
  /-- With the tolerance. -/
  | riskTolerance (name : String) (riskTolerance : Binary64)
  /-- With the priority of the one before and that of this one. -/
  | duplicate (name : String) (existingPriority priority : BitVec 8)
  deriving DecidableEq

/-- Its text. -/
def Warning.text (display : Binary64 → String) : Warning → String
  | .maxConcurrentStrategies => "max_concurrent_strategies should be greater than 0"
  | .evaluationTimeoutMs => "evaluation_timeout_ms should be at least 10ms"
  | .minProfitWei name =>
    "Strategy '" ++ name ++ "' has min_profit_wei of 0, which may cause excessive gas usage"
  | .maxGasPriceGwei name price =>
    "Strategy '" ++ name ++ "' has very high max_gas_price_gwei (" ++ toString price.toNat ++
      "), consider lowering"
  | .riskTolerance name tolerance =>
    "Strategy '" ++ name ++ "' has invalid risk_tolerance (" ++ display tolerance ++
      "), should be between 0.0 and 1.0"
  | .duplicate name existingPriority priority =>
    "Duplicate strategy name '" ++ name ++ "' found with priorities " ++ toString existingPriority.toNat ++
      " and " ++ toString priority.toNat

/-- "Validate global config". -/
def GlobalConfig.warnings (global : GlobalConfig) : List Warning :=
  (if global.maxConcurrentStrategies = 0 then [.maxConcurrentStrategies] else []) ++
    if global.evaluationTimeoutMs < 10 then [.evaluationTimeoutMs] else []

/-- "Validate strategy configs". -/
def IteratedConfig.warnings (config : IteratedConfig) : List Warning :=
  (if config.minProfitWei = 0 then [.minProfitWei config.name] else []) ++
    (if 1000 < config.maxGasPriceGwei then [.maxGasPriceGwei config.name config.maxGasPriceGwei] else []) ++
    if (Binary64.ofNat 1).lt config.riskTolerance || config.riskTolerance.lt (.ofNat 0) then
      [.riskTolerance config.name config.riskTolerance]
    else []

/-- "Check for duplicate strategy names", with the names so far and the last priority of each. -/
def duplicateWarnings (strategyNames : Table String (BitVec 8)) : List IteratedConfig → List Warning
  | [] => []
  | config :: strategies =>
    (match strategyNames.lookup config.name with
      | some existingPriority => [.duplicate config.name existingPriority config.priority]
      | none => []) ++
      duplicateWarnings (strategyNames.insert config.name config.priority) strategies

namespace ConfigManager

/-- "Get configuration for a specific strategy". -/
def getStrategyConfig (manager : ConfigManager) (strategyName : String) : Option IteratedConfig :=
  Keyed.get IteratedConfig.name strategyName manager.configFile.strategies

/-- With these strategies. -/
def withStrategies (manager : ConfigManager) (strategies : List IteratedConfig) : ConfigManager :=
  ⟨{ manager.configFile with strategies }⟩

/-- "Update configuration for a specific strategy". The name of the last one is logged. -/
def updateStrategyConfig (config : IteratedConfig) (manager : ConfigManager) : Result Unit × ConfigManager :=
  let strategies := Keyed.put IteratedConfig.name config manager.configFile.strategies
  match strategies.getLast? with
  | some _ => (.ok (), manager.withStrategies strategies)
  | none => (.error (.panic "called `Option::unwrap()` on a `None` value"), manager.withStrategies strategies)

/-- "Enable or disable a strategy". -/
def setStrategyEnabled (strategyName : String) (enabled : Bool) (manager : ConfigManager) :
    Result Unit × ConfigManager :=
  match Keyed.modify IteratedConfig.name strategyName (fun config => { config with enabled })
      manager.configFile.strategies with
  | some strategies => (.ok (), manager.withStrategies strategies)
  | none => (.error (.err ("Strategy '" ++ strategyName ++ "' not found")), manager)

/-- "Get all enabled strategies". -/
def getEnabledStrategies (manager : ConfigManager) : List IteratedConfig :=
  manager.configFile.strategies.filter fun config => config.enabled && manager.configFile.global.enabled

/-- "Update global configuration". -/
def updateGlobalConfig (globalConfig : GlobalConfig) (manager : ConfigManager) : ConfigManager :=
  ⟨{ manager.configFile with global := globalConfig }⟩

/-- What `validate_config` warns of. -/
def warnings (manager : ConfigManager) : List Warning :=
  manager.configFile.global.warnings ++ manager.configFile.strategies.flatMap IteratedConfig.warnings ++
    duplicateWarnings ∅ manager.configFile.strategies

/-- "Validate configuration". -/
def validateConfig (display : Binary64 → String) (manager : ConfigManager) : Result (List String) :=
  .ok (manager.warnings.map (Warning.text display))

end ConfigManager

/-- A call that changes the configuration. -/
inductive ConfigChange where
  /-- `update_strategy_config(config)`. -/
  | updateStrategyConfig (config : IteratedConfig)
  /-- `set_strategy_enabled(strategy_name, enabled)`. -/
  | setStrategyEnabled (strategyName : String) (enabled : Bool)
  /-- `update_global_config(global_config)`. -/
  | updateGlobalConfig (globalConfig : GlobalConfig)

namespace ConfigChange

/-- What it answers and leaves. -/
def apply : ConfigChange → ConfigManager → Result Unit × ConfigManager
  | updateStrategyConfig config, manager => manager.updateStrategyConfig config
  | setStrategyEnabled strategyName enabled, manager => manager.setStrategyEnabled strategyName enabled
  | updateGlobalConfig globalConfig, manager => (.ok (), manager.updateGlobalConfig globalConfig)

/-- What would be warned of in what it sets. -/
def warnings : ConfigChange → List Warning
  | updateStrategyConfig config => config.warnings
  | setStrategyEnabled _ _ => []
  | updateGlobalConfig globalConfig => globalConfig.warnings

/-- Changes one after the other: what each answers, and what they leave. -/
def run {σ : Type} (apply : ConfigChange → σ → Result Unit × σ) :
    List ConfigChange → σ → List (Result Unit) × σ
  | [], s => ([], s)
  | change :: changes, s =>
    let (answer, s') := apply change s
    let (answers, s'') := run apply changes s'
    (answer :: answers, s'')

end ConfigChange

/-! ### What it is for -/

/-- A configuration for each name, and the global one. -/
@[ext] structure Settings where
  /-- The global one. -/
  global : GlobalConfig
  /-- That of the strategy with the name. -/
  strategy : String → Option IteratedConfig

/-- A change to the settings: only a strategy that has no configuration cannot be switched on or off. -/
def ConfigChange.change : ConfigChange → Settings → Result Unit × Settings
  | updateStrategyConfig config, s =>
    (.ok (), { s with strategy := Function.update s.strategy config.name (some config) })
  | setStrategyEnabled strategyName enabled, s =>
    match s.strategy strategyName with
    | some config =>
      (.ok (), { s with strategy := Function.update s.strategy strategyName (some { config with enabled }) })
    | none => (.error (.err ("Strategy '" ++ strategyName ++ "' not found")), s)
  | updateGlobalConfig globalConfig, s => (.ok (), { s with global := globalConfig })

/-- The settings that the manager keeps. -/
def ConfigManager.settings (manager : ConfigManager) : Settings where
  global := manager.configFile.global
  strategy := manager.getStrategyConfig

/-- The names, one for each configuration. -/
def ConfigManager.names (manager : ConfigManager) : List String :=
  manager.configFile.strategies.map IteratedConfig.name

/-- **After changes**: they are the same changes of the settings, with the same answers. Distinct names stay
distinct, and then those that are on are those of the settings, in which global switch and own switch are
on. Where there are no warnings and none of what the changes set, there are none. -/
structure KeptByName (changes : List ConfigChange) (manager after : ConfigManager) (answers : List (Result Unit)) :
    Prop where
  run : (answers, after.settings) = ConfigChange.run ConfigChange.change changes manager.settings
  nodup : manager.names.Nodup → after.names.Nodup
  enabled : manager.names.Nodup → ∀ config, config ∈ after.getEnabledStrategies ↔
    after.settings.strategy config.name = some config ∧ config.enabled = true ∧
      after.settings.global.enabled = true
  valid : ∀ display, manager.validateConfig display = .ok [] → (∀ change ∈ changes, change.warnings = []) →
    after.validateConfig display = .ok []

/-! ### Warnings -/

section warnings

variable {manager : ConfigManager} {display : Binary64 → String}

theorem duplicateWarnings_eq_nil_iff {strategyNames : Table String (BitVec 8)} {strategies : List IteratedConfig} :
    duplicateWarnings strategyNames strategies = [] ↔
      (∀ config ∈ strategies, config.name ∉ strategyNames) ∧ (strategies.map IteratedConfig.name).Nodup := by
  induction strategies generalizing strategyNames with
  | nil => simp [duplicateWarnings]
  | cons config strategies ih =>
    rw [duplicateWarnings, List.append_eq_nil_iff, ih, List.map_cons, List.nodup_cons, List.forall_mem_cons]
    have hfirst : (match strategyNames.lookup config.name with
        | some existingPriority => [Warning.duplicate config.name existingPriority config.priority]
        | none => []) = [] ↔ config.name ∉ strategyNames := by
      rw [← AList.lookup_eq_none]
      rcases strategyNames.lookup config.name with _ | existingPriority <;> simp
    have hrest : (∀ config' ∈ strategies, config'.name ∉ strategyNames.insert config.name config.priority) ↔
        (∀ config' ∈ strategies, config'.name ∉ strategyNames) ∧
          config.name ∉ strategies.map IteratedConfig.name := by
      simp only [AList.mem_insert, not_or, List.mem_map, not_exists, not_and]
      exact ⟨fun h => ⟨fun config' hmem => (h config' hmem).2, fun config' hmem => (h config' hmem).1⟩,
        fun h config' hmem => ⟨h.2 config' hmem, h.1 config' hmem⟩⟩
    rw [hfirst, hrest]
    tauto

/-- **No warnings**: none of the global configuration and of any strategy, and distinct names. -/
theorem warnings_eq_nil_iff : manager.warnings = [] ↔
    manager.configFile.global.warnings = [] ∧
      (∀ config ∈ manager.configFile.strategies, config.warnings = []) ∧ manager.names.Nodup := by
  unfold ConfigManager.warnings ConfigManager.names
  rw [List.append_eq_nil_iff, List.append_eq_nil_iff, List.flatMap_eq_nil_iff, duplicateWarnings_eq_nil_iff,
    and_assoc]
  simp

theorem validateConfig_eq_ok_nil_iff : manager.validateConfig display = .ok [] ↔
    manager.configFile.global.warnings = [] ∧
      (∀ config ∈ manager.configFile.strategies, config.warnings = []) ∧ manager.names.Nodup := by
  unfold ConfigManager.validateConfig
  rw [Except.ok.injEq, List.map_eq_nil_iff, warnings_eq_nil_iff]

/-- **The default configuration** has no warnings. -/
theorem default_valid : (⟨.default⟩ : ConfigManager).validateConfig display = .ok [] :=
  validateConfig_eq_ok_nil_iff.mpr ⟨by decide, by decide +kernel, by decide⟩

end warnings

/-! ### Changes -/

section changes

variable {change : ConfigChange} {manager : ConfigManager}

theorem name_setEnabled (strategyName : String) (enabled : Bool) (config : IteratedConfig)
    (h : config.name = strategyName) : ({ config with enabled } : IteratedConfig).name = strategyName := h

theorem updateStrategyConfig_eq (config : IteratedConfig) : manager.updateStrategyConfig config =
    (.ok (), manager.withStrategies (Keyed.put IteratedConfig.name config manager.configFile.strategies)) := by
  have hmem : config.name ∈
      (Keyed.put IteratedConfig.name config manager.configFile.strategies).map IteratedConfig.name := by
    rw [Keyed.map_key_put]
    split_ifs with hmem
    · exact hmem
    · exact List.mem_append_right _ (List.mem_singleton_self _)
  rcases hlast : (Keyed.put IteratedConfig.name config manager.configFile.strategies).getLast? with _ | last
  · rw [List.getLast?_eq_none_iff.mp hlast] at hmem
    cases hmem
  · simp only [ConfigManager.updateStrategyConfig, hlast]

theorem setStrategyEnabled_cases (strategyName : String) (enabled : Bool) :
    (strategyName ∉ manager.names ∧ manager.setStrategyEnabled strategyName enabled =
        (.error (.err ("Strategy '" ++ strategyName ++ "' not found")), manager)) ∨
      ∃ strategies, Keyed.modify IteratedConfig.name strategyName (fun config => { config with enabled })
          manager.configFile.strategies = some strategies ∧
        manager.setStrategyEnabled strategyName enabled = (.ok (), manager.withStrategies strategies) := by
  unfold ConfigManager.setStrategyEnabled
  rcases hmodify : Keyed.modify IteratedConfig.name strategyName (fun config => { config with enabled })
    manager.configFile.strategies with _ | strategies
  · exact .inl ⟨Keyed.modify_eq_none_iff.mp hmodify, rfl⟩
  · exact .inr ⟨strategies, rfl, rfl⟩

/-- **A change** is that of the settings, with its answer. -/
theorem apply_refines (change : ConfigChange) (manager : ConfigManager) :
    ((change.apply manager).1, (change.apply manager).2.settings) = change.change manager.settings := by
  cases change with
  | updateStrategyConfig config =>
    simp only [ConfigChange.apply, updateStrategyConfig_eq, ConfigChange.change, Prod.mk.injEq, true_and]
    exact Settings.ext rfl (funext fun _ => Keyed.get_put _)
  | setStrategyEnabled strategyName enabled =>
    simp only [ConfigChange.apply, ConfigChange.change]
    rcases setStrategyEnabled_cases strategyName enabled with ⟨hnot, heq⟩ | ⟨strategies, hmodify, heq⟩
    · have hnone : manager.settings.strategy strategyName = none := Keyed.get_eq_none_iff.mpr hnot
      rw [heq, hnone]
    · obtain ⟨config, hconfig⟩ : ∃ config, manager.settings.strategy strategyName = some config := by
        refine Option.ne_none_iff_exists'.mp fun hnone => ?_
        rw [Keyed.modify_eq_none_iff.mpr (Keyed.get_eq_none_iff.mp hnone)] at hmodify
        cases hmodify
      rw [heq, hconfig]
      refine congrArg (Prod.mk _) (Settings.ext rfl (funext fun name => ?_))
      refine (Keyed.get_modify (name_setEnabled strategyName enabled) hmodify name).trans ?_
      rw [show Keyed.get IteratedConfig.name strategyName manager.configFile.strategies = some config from hconfig]
      rfl
  | updateGlobalConfig globalConfig => rfl

theorem apply_nodup (h : manager.names.Nodup) : (change.apply manager).2.names.Nodup := by
  cases change with
  | updateStrategyConfig config =>
    rw [ConfigChange.apply, updateStrategyConfig_eq]
    exact Keyed.nodup_put h
  | setStrategyEnabled strategyName enabled =>
    rw [ConfigChange.apply]
    rcases setStrategyEnabled_cases strategyName enabled with ⟨-, heq⟩ | ⟨strategies, hmodify, heq⟩
    · rwa [heq]
    · have hnames : (manager.withStrategies strategies).names = manager.names :=
        Keyed.map_key_modify (name_setEnabled strategyName enabled) hmodify
      rwa [heq, hnames]
  | updateGlobalConfig globalConfig => exact h

theorem apply_global (h : manager.configFile.global.warnings = []) (hchange : change.warnings = []) :
    (change.apply manager).2.configFile.global.warnings = [] := by
  cases change with
  | updateStrategyConfig config =>
    rw [ConfigChange.apply, updateStrategyConfig_eq]
    exact h
  | setStrategyEnabled strategyName enabled =>
    rw [ConfigChange.apply]
    rcases setStrategyEnabled_cases strategyName enabled with ⟨-, heq⟩ | ⟨strategies, -, heq⟩
    · rwa [heq]
    · rwa [heq]
  | updateGlobalConfig globalConfig => exact hchange

theorem apply_warnings (h : ∀ config ∈ manager.configFile.strategies, config.warnings = [])
    (hchange : change.warnings = []) :
    ∀ config ∈ (change.apply manager).2.configFile.strategies, config.warnings = [] := by
  cases change with
  | updateStrategyConfig config =>
    rw [ConfigChange.apply, updateStrategyConfig_eq]
    intro config' hmem
    rcases Keyed.mem_put hmem with hmem | rfl
    · exact h config' hmem
    · exact hchange
  | setStrategyEnabled strategyName enabled =>
    rw [ConfigChange.apply]
    rcases setStrategyEnabled_cases strategyName enabled with ⟨-, heq⟩ | ⟨strategies, hmodify, heq⟩
    · rwa [heq]
    · rw [heq]
      intro config' hmem
      rcases Keyed.mem_modify hmodify hmem with hmem | ⟨config, hbefore, rfl⟩
      · exact h config' hmem
      · exact h config hbefore
  | updateGlobalConfig globalConfig => exact h

theorem apply_valid {display : Binary64 → String} (h : manager.validateConfig display = .ok [])
    (hchange : change.warnings = []) : (change.apply manager).2.validateConfig display = .ok [] := by
  obtain ⟨hglobal, hstrategies, hnodup⟩ := validateConfig_eq_ok_nil_iff.mp h
  exact validateConfig_eq_ok_nil_iff.mpr
    ⟨apply_global hglobal hchange, apply_warnings hstrategies hchange, apply_nodup hnodup⟩

/-- **With distinct names**, those that are on are those of the settings. -/
theorem mem_getEnabledStrategies_iff (h : manager.names.Nodup) {config : IteratedConfig} :
    config ∈ manager.getEnabledStrategies ↔ manager.settings.strategy config.name = some config ∧
      config.enabled = true ∧ manager.settings.global.enabled = true := by
  unfold ConfigManager.getEnabledStrategies
  rw [List.mem_filter, Bool.and_eq_true]
  refine and_congr_left fun _ => ?_
  change _ ↔ Keyed.get IteratedConfig.name config.name manager.configFile.strategies = some config
  rw [Keyed.get_eq_some_iff h, and_iff_left rfl]

/-- **Any changes.** -/
theorem kept_by_name (changes : List ConfigChange) (manager : ConfigManager) :
    KeptByName changes manager (ConfigChange.run ConfigChange.apply changes manager).2
      (ConfigChange.run ConfigChange.apply changes manager).1 := by
  induction changes generalizing manager with
  | nil => exact ⟨rfl, id, fun h _ => mem_getEnabledStrategies_iff h, fun _ h _ => h⟩
  | cons change changes ih =>
    have hrest := ih (change.apply manager).2
    have hstep := apply_refines change manager
    constructor
    · have hrun := hrest.run
      simp only [ConfigChange.run, ← hstep, ← hrun]
    · exact fun h => hrest.nodup (apply_nodup h)
    · exact fun h => hrest.enabled (apply_nodup h)
    · intro display h hchanges
      obtain ⟨hfirst, hchanges⟩ := List.forall_mem_cons.mp hchanges
      exact hrest.valid display (apply_valid h hfirst) hchanges

/-- One that is not there cannot be switched on. -/
example : (ConfigChange.run ConfigChange.apply
      [.setStrategyEnabled "sandwich" true, .setStrategyEnabled "flashloan" true]
      (⟨.default⟩ : ConfigManager)).1 = [.ok (), .error (.err "Strategy 'flashloan' not found")] := by
  decide

end changes

end Botmev.Strategies
