import Botmev.Library.Table
import Botmev.Strategies.Types

/-!
# Reloading the configuration of the strategies

`ConfigManager` (`mev-strategies/src/config_manager.rs`) reads the configuration of the strategies
from a YAML file. A reload says whether the configuration has changed: it writes the old one and the
new one as YAML and compares the texts. The parameters of a strategy are a hash map, which is written
in its order of iteration, and the same parameters read again may come in another order.

`serde_yaml` is a parameter here, and so are the answers of the file system and the order in which the
maps that a call makes are iterated.

## What is proved

* `SameContent.toStrategyConfig_eq`: the order makes no difference to a strategy.
* `hotReload_of_file`: what a reload of a file gives.
* `reloadsUnchanged_iff`: when reloading an unchanged file always says that nothing has changed.
* `failureKeeps_iff`: when a reload that fails leaves the configuration.
* `hot_reload_iff`: the two together.
* `unchanged_file_changed`: an unchanged file that is reported as changed, and a reload that fails and
  leaves another configuration.
-/

namespace Botmev.Strategies

open Botmev.Rust Botmev.Library

/-- `StrategyConfig`, with the map of its parameters as it is iterated. -/
structure IteratedConfig where
  /-- The strategy's name. -/
  name : String
  /-- Whether it takes part. -/
  enabled : Bool
  /-- Its base priority. -/
  priority : BitVec 8
  /-- The least profit worth going for. -/
  minProfitWei : U128
  /-- The most to pay for a unit of gas. -/
  maxGasPriceGwei : U64
  /-- "0.0 to 1.0". -/
  riskTolerance : Binary64
  /-- What only this strategy reads. -/
  parameters : Table String Value

/-- What a strategy is given of it. -/
def IteratedConfig.toStrategyConfig (config : IteratedConfig) : StrategyConfig where
  name := config.name
  enabled := config.enabled
  priority := config.priority
  minProfitWei := config.minProfitWei
  maxGasPriceGwei := config.maxGasPriceGwei
  riskTolerance := config.riskTolerance
  parameters := config.parameters.lookup

/-- "Global configuration settings". -/
structure GlobalConfig where
  /-- `enabled`. -/
  enabled : Bool
  /-- `max_concurrent_strategies`. -/
  maxConcurrentStrategies : U64
  /-- `evaluation_timeout_ms`. -/
  evaluationTimeoutMs : U64
  /-- `default_min_profit_wei`. -/
  defaultMinProfitWei : U128
  /-- `default_max_gas_price_gwei`. -/
  defaultMaxGasPriceGwei : U64
  /-- `default_risk_tolerance`. -/
  defaultRiskTolerance : Binary64

/-- `GlobalConfig::default()`. -/
def GlobalConfig.default : GlobalConfig where
  enabled := true
  maxConcurrentStrategies := 5
  evaluationTimeoutMs := 50
  defaultMinProfitWei := 1000000000000000 -- 0.001 ETH
  defaultMaxGasPriceGwei := 100
  defaultRiskTolerance := .ofDecimal 5 1

/-- "Configuration file structure for multiple strategies". -/
structure StrategyConfigFile where
  /-- `version`. -/
  version : String
  /-- `global`. -/
  global : GlobalConfig
  /-- `strategies`. -/
  strategies : List IteratedConfig

/-- `serde_json::json!(x)`. -/
def jsonDecimal (n k : ℕ) : Value := .number (.float (.ofDecimal n k))

/-- `StrategyConfigFile::default()`, each map in the order of its insertions. -/
def StrategyConfigFile.default : StrategyConfigFile where
  version := "1.0"
  global := .default
  strategies :=
    [{ name := "backrun", enabled := true, priority := 150, minProfitWei := 5000000000000000
       maxGasPriceGwei := 150, riskTolerance := .ofDecimal 7 1
       parameters := ((∅ : Table String Value).insert "min_target_value_eth" (jsonDecimal 5 1)).insert
          "max_slippage_percent" (jsonDecimal 2 0) |>.insert
          "target_protocols" (.array [.string "UniswapV2", .string "UniswapV3", .string "SushiSwap"]) },
      -- "Disabled by default due to higher risk"
     { name := "sandwich", enabled := false, priority := 200, minProfitWei := 10000000000000000
       maxGasPriceGwei := 200, riskTolerance := .ofDecimal 5 1
       parameters := ((∅ : Table String Value).insert "max_slippage_tolerance" (jsonDecimal 5 0)).insert
          "min_victim_value_eth" (jsonDecimal 1 0) |>.insert "max_front_run_multiple" (jsonDecimal 3 0) |>.insert
          "gas_price_premium_percent" (jsonDecimal 10 0) },
     { name := "arbitrage", enabled := true, priority := 100, minProfitWei := 2000000000000000
       maxGasPriceGwei := 120, riskTolerance := .ofDecimal 8 1
       parameters := ((∅ : Table String Value).insert "max_price_difference_percent" (jsonDecimal 1 0)).insert
          "supported_dexes" (.array [.string "UniswapV2", .string "SushiSwap", .string "Curve"]) |>.insert
          "min_liquidity_usd" (jsonDecimal 10000 0) }]

/-! ### Orders of iteration -/

/-- The same strategy, the map of its parameters in any order. -/
structure IteratedConfig.SameContent (config config' : IteratedConfig) : Prop where
  others : config' = { config with parameters := config'.parameters }
  parameters : config'.parameters.entries.Perm config.parameters.entries

/-- **The same configuration**, its maps in any order. -/
structure StrategyConfigFile.SameContent (config config' : StrategyConfigFile) : Prop where
  version : config'.version = config.version
  global : config'.global = config.global
  strategies : config.strategies.Forall₂ IteratedConfig.SameContent config'.strategies

/-- The order in which the maps that a call makes are iterated. -/
structure MapOrder where
  /-- A configuration with its maps in that order. -/
  arrange : StrategyConfigFile → StrategyConfigFile
  sameContent : ∀ config : StrategyConfigFile, config.SameContent (arrange config)

theorem IteratedConfig.SameContent.refl (config : IteratedConfig) : config.SameContent config := ⟨rfl, .refl _⟩

/-- **A strategy is given the same**, in whatever order its parameters are iterated. -/
theorem IteratedConfig.SameContent.toStrategyConfig_eq {config config' : IteratedConfig}
    (h : config.SameContent config') : config'.toStrategyConfig = config.toStrategyConfig := by
  have hlookup : config'.parameters.lookup = config.parameters.lookup :=
    funext fun _ => AList.perm_lookup h.parameters
  rw [h.others]
  unfold toStrategyConfig
  rw [hlookup]

theorem StrategyConfigFile.SameContent.refl (config : StrategyConfigFile) : config.SameContent config :=
  ⟨rfl, rfl, List.forall₂_same.mpr fun strategy _ => .refl strategy⟩

/-- Each map as it was read. -/
def MapOrder.asRead : MapOrder := ⟨id, .refl⟩

/-- Each map from its last entry to its first. -/
def IteratedConfig.reversed (config : IteratedConfig) : IteratedConfig where
  name := config.name
  enabled := config.enabled
  priority := config.priority
  minProfitWei := config.minProfitWei
  maxGasPriceGwei := config.maxGasPriceGwei
  riskTolerance := config.riskTolerance
  parameters := ⟨config.parameters.entries.reverse,
    (List.perm_nodupKeys (List.reverse_perm _)).mpr config.parameters.nodupKeys⟩

/-- Each map from its last entry to its first. -/
def MapOrder.reversed : MapOrder where
  arrange config := { config with strategies := config.strategies.map IteratedConfig.reversed }
  sameContent config := by
    refine ⟨rfl, rfl, List.forall₂_map_right_iff.mpr (List.forall₂_same.mpr fun strategy _ => ⟨rfl, ?_⟩)⟩
    exact List.reverse_perm _

/-! ### The manager -/

/-- What the manager uses of `serde_yaml`. -/
structure SerdeYaml where
  /-- `serde_yaml::to_string(&config)`: each map is written as it is iterated. -/
  toString : StrategyConfigFile → Except String String
  /-- `serde_yaml::from_str(text)`, with each map in the order of the text. -/
  fromStr : String → Except String StrategyConfigFile

/-- What the file system answers in a call, about the path of the configuration. -/
structure FileAnswers where
  /-- `fs::metadata(path)?.modified()`. -/
  modified : Except String Unit
  /-- `Path::new(path).exists()`. -/
  pathExists : Bool
  /-- `fs::read_to_string(path)`. -/
  readToString : Except String String
  /-- `fs::write(path, text)`. -/
  write : String → Except String Unit

/-- "Configuration manager for loading and managing strategy configurations". -/
structure ConfigManager where
  /-- `config_file`. -/
  configFile : StrategyConfigFile

namespace ConfigManager

variable (yaml : SerdeYaml) (files : FileAnswers) (mapOrder : MapOrder) (manager : ConfigManager)

/-- "Save configuration to YAML file". -/
def saveToFile : Result Unit := do
  let yamlContent ← anyhow (yaml.toString manager.configFile)
  anyhow (files.write yamlContent)

/-- "Create default configuration file". -/
def createDefaultConfig : Result Unit × ConfigManager :=
  let manager : ConfigManager := ⟨mapOrder.arrange .default⟩
  (manager.saveToFile yaml files, manager)

/-- "Load configuration from YAML file". -/
def loadFromFile : Result Unit × ConfigManager :=
  if files.pathExists then
    match anyhow files.readToString >>= fun yamlContent => anyhow (yaml.fromStr yamlContent) with
    | .error failure => (.error failure, manager)
    | .ok configFile => (.ok (), ⟨mapOrder.arrange configFile⟩)
  else createDefaultConfig yaml files mapOrder

/-- "Compare two configurations for equality": by their texts, an empty one for what cannot be written. -/
def configsEqual (a b : StrategyConfigFile) : Bool :=
  (yaml.toString a).toOption.getD "" == (yaml.toString b).toOption.getD ""

/-- "Hot reload configuration from file": whether it has changed. -/
def hotReload : Result Bool × ConfigManager :=
  match anyhow files.modified with
  | .error failure => (.error failure, manager)
  | .ok () =>
    match manager.loadFromFile yaml files mapOrder with
    | (.error failure, reloaded) => (.error failure, reloaded)
    | (.ok (), reloaded) => (.ok !configsEqual yaml manager.configFile reloaded.configFile, reloaded)

end ConfigManager

/-- The file is there, with this text. -/
structure FileAnswers.Has (files : FileAnswers) (text : String) : Prop where
  modified : files.modified = .ok ()
  pathExists : files.pathExists = true
  readToString : files.readToString = .ok text

/-- **Reloading the unchanged file** a second time says that nothing has changed, in whatever order the
maps of the two readings are iterated. -/
def ReloadsUnchanged (yaml : SerdeYaml) (text : String) : Prop :=
  ∀ (manager : ConfigManager) files files' mapOrder mapOrder', files.Has text → files'.Has text →
    ((manager.hotReload yaml files mapOrder).2.hotReload yaml files' mapOrder').1 = .ok false

/-- **A reload that fails** leaves the configuration. -/
def FailureKeeps (yaml : SerdeYaml) (files : FileAnswers) (mapOrder : MapOrder) (manager : ConfigManager) :
    Prop :=
  (manager.hotReload yaml files mapOrder).1.isOk = false →
    manager.configFile.SameContent (manager.hotReload yaml files mapOrder).2.configFile

/-- `serde_yaml` writes each map as it is iterated, so the same configuration in two orders is two texts. -/
def WritesOrder (yaml : SerdeYaml) (config : StrategyConfigFile) : Prop :=
  ∀ a b, config.SameContent a → config.SameContent b →
    ∃ text text', yaml.toString a = .ok text ∧ yaml.toString b = .ok text' ∧ (text = text' → a = b)

/-- The file disappears within the call, after it was looked at, and the default configuration cannot be
saved in its place. -/
def Vanishes (yaml : SerdeYaml) (files : FileAnswers) (mapOrder : MapOrder) : Prop :=
  files.modified = .ok () ∧ files.pathExists = false ∧
    ∀ text, yaml.toString (mapOrder.arrange .default) = .ok text → (files.write text).isOk = false

/-! ### Reloading -/

section reload

variable {yaml : SerdeYaml} {files : FileAnswers} {mapOrder : MapOrder} {manager : ConfigManager} {text : String}
  {config : StrategyConfigFile}

/-- **A reload of the file** takes what the text says, and compares. -/
theorem hotReload_of_file (hfile : files.Has text) (hparse : yaml.fromStr text = .ok config) :
    manager.hotReload yaml files mapOrder =
      (.ok !ConfigManager.configsEqual yaml manager.configFile (mapOrder.arrange config),
        ⟨mapOrder.arrange config⟩) := by
  have hload : manager.loadFromFile yaml files mapOrder = (.ok (), ⟨mapOrder.arrange config⟩) := by
    unfold ConfigManager.loadFromFile
    rw [hfile.pathExists, if_pos rfl, hfile.readToString]
    change (match anyhow (yaml.fromStr text) with | .error failure => _ | .ok configFile => _) = _
    rw [hparse]
    rfl
  unfold ConfigManager.hotReload
  rw [hfile.modified, hload]
  rfl

theorem IteratedConfig.SameContent.eq {strategy strategy' : IteratedConfig} (h : strategy.SameContent strategy')
    (hone : Table.size strategy.parameters ≤ 1) : strategy' = strategy := by
  have hentries : strategy'.parameters.entries = strategy.parameters.entries := by
    have hperm := h.parameters
    rw [Table.size, AList.keys, List.keys, List.length_map] at hone
    rcases hcases : strategy.parameters.entries with _ | ⟨entry, _ | ⟨entry', entries⟩⟩
    · rw [hcases] at hperm
      exact hperm.eq_nil
    · rw [hcases] at hperm
      exact List.perm_singleton.mp hperm
    · rw [hcases] at hone
      exact absurd hone (by simp)
  rw [h.others, AList.ext hentries]

theorem StrategyConfigFile.SameContent.eq {config config' : StrategyConfigFile} (h : config.SameContent config')
    (hone : ∀ strategy ∈ config.strategies, Table.size strategy.parameters ≤ 1) : config' = config := by
  have hstrategies : config'.strategies = config.strategies := by
    have hall := h.strategies
    generalize config.strategies = strategies at hone hall ⊢
    generalize config'.strategies = strategies' at hall ⊢
    induction hall with
    | nil => rfl
    | cons hsame _ ih =>
      obtain ⟨hfirst, hone⟩ := List.forall_mem_cons.mp hone
      rw [hsame.eq hfirst, ih hone]
  cases config'
  cases config
  cases hstrategies
  cases h.version
  cases h.global
  rfl

theorem size_le_one_of_reversed {strategy : IteratedConfig} (h : strategy.reversed = strategy) :
    Table.size strategy.parameters ≤ 1 := by
  have hentries : strategy.parameters.entries.reverse = strategy.parameters.entries :=
    congrArg (fun strategy => strategy.parameters.entries) h
  have hnodup : strategy.parameters.entries.Nodup := strategy.parameters.nodupKeys.nodup
  rw [Table.size, AList.keys, List.keys, List.length_map]
  generalize strategy.parameters.entries = entries at hentries hnodup
  by_contra hlt
  have hfirst : 0 < entries.length := by omega
  have hlast : entries.length - 1 < entries.length := by omega
  have hends : entries[0] = entries[entries.length - 1] := by
    have hget := List.getElem_reverse (l := entries) (i := 0) (by rw [List.length_reverse]; omega)
    simp only [hentries] at hget
    exact hget
  have hindex := (List.Nodup.getElem_inj_iff hnodup).mp hends
  omega

theorem configsEqual_iff (hwrites : WritesOrder yaml config) {a b : StrategyConfigFile} (ha : config.SameContent a)
    (hb : config.SameContent b) : ConfigManager.configsEqual yaml a b = true ↔ a = b := by
  obtain ⟨text, text', htext, htext', hsame⟩ := hwrites a b ha hb
  unfold ConfigManager.configsEqual
  rw [htext, htext', beq_iff_eq]
  constructor
  · exact hsame
  · rintro rfl
    exact Except.ok.inj (htext.symm.trans htext') ▸ rfl

/-- **Reloading an unchanged file** says that nothing has changed just when no strategy has two
parameters. -/
theorem reloadsUnchanged_iff (hparse : yaml.fromStr text = .ok config) (hwrites : WritesOrder yaml config) :
    ReloadsUnchanged yaml text ↔ ∀ strategy ∈ config.strategies, Table.size strategy.parameters ≤ 1 := by
  constructor
  · intro h strategy hstrategy
    let files : FileAnswers := ⟨.ok (), true, .ok text, fun _ => .ok ()⟩
    have hfile : files.Has text := ⟨rfl, rfl, rfl⟩
    have hsecond := h ⟨config⟩ files files .asRead .reversed hfile hfile
    rw [hotReload_of_file hfile hparse, hotReload_of_file hfile hparse] at hsecond
    have hequal := (configsEqual_iff hwrites (MapOrder.asRead.sameContent config)
      (MapOrder.reversed.sameContent config)).mp (by simpa using hsecond)
    have hstrategies : config.strategies.map IteratedConfig.reversed = config.strategies.map id := by
      rw [List.map_id]
      exact congrArg StrategyConfigFile.strategies hequal.symm
    exact size_le_one_of_reversed (List.map_inj_left.mp hstrategies strategy hstrategy)
  · intro hone manager files files' mapOrder mapOrder' hfile hfile'
    rw [hotReload_of_file hfile hparse, hotReload_of_file hfile' hparse]
    have hequal := (configsEqual_iff hwrites (mapOrder.sameContent config) (mapOrder'.sameContent config)).mpr
      (((mapOrder.sameContent config).eq hone).trans ((mapOrder'.sameContent config).eq hone).symm)
    rw [hequal]
    rfl

theorem saveToFile_isOk_eq_false_iff : (manager.saveToFile yaml files).isOk = false ↔
    ∀ text, yaml.toString manager.configFile = .ok text → (files.write text).isOk = false := by
  unfold ConfigManager.saveToFile
  rcases yaml.toString manager.configFile with e | text
  · exact iff_of_true rfl fun _ h => nomatch h
  · simp only [Except.ok.injEq, forall_eq']
    change (anyhow (files.write text)).isOk = false ↔ _
    rcases files.write text with e | _ <;> rfl

/-- **A reload that fails** leaves the configuration, unless the file disappears within the call and the
default configuration cannot be saved; that is then the configuration, nevertheless. -/
theorem failureKeeps_iff : FailureKeeps yaml files mapOrder manager ↔
    ¬ Vanishes yaml files mapOrder ∨ manager.configFile.SameContent (mapOrder.arrange .default) := by
  unfold FailureKeeps Vanishes ConfigManager.hotReload
  rcases files.modified with e | _
  · refine iff_of_true (fun _ => .refl _) (.inl ?_)
    rintro ⟨⟨⟩, -⟩
  rcases hexists : files.pathExists with _ | _
  · have hload : manager.loadFromFile yaml files mapOrder =
        ConfigManager.createDefaultConfig yaml files mapOrder := by
      unfold ConfigManager.loadFromFile
      rw [hexists]
      rfl
    have hsave : (ConfigManager.saveToFile yaml files ⟨mapOrder.arrange .default⟩).isOk = false ↔
        ∀ text, yaml.toString (mapOrder.arrange .default) = .ok text → (files.write text).isOk = false :=
      saveToFile_isOk_eq_false_iff
    rw [hload, ← hsave]
    simp only [ConfigManager.createDefaultConfig]
    rcases ConfigManager.saveToFile yaml files ⟨mapOrder.arrange .default⟩ with e | _
    · simp [anyhow, Except.isOk, Except.toBool]
    · simp [anyhow, Except.isOk, Except.toBool]
  · refine iff_of_true ?_ (.inl ?_)
    · unfold ConfigManager.loadFromFile
      rw [hexists, if_pos rfl]
      rcases anyhow files.readToString >>= fun yamlContent => anyhow (yaml.fromStr yamlContent) with e | configFile
      · exact fun _ => .refl _
      · rintro ⟨⟩
    · rintro ⟨-, ⟨⟩, -⟩

/-- **Hot reload**: reloading an unchanged file never reports a change, in any order of iteration, just
when no strategy in it has two parameters; and a reload that fails leaves the configuration just when the
file does not disappear within the call, or the default configuration can be saved, or was there. -/
theorem hot_reload_iff (hparse : yaml.fromStr text = .ok config) (hwrites : WritesOrder yaml config) :
    (ReloadsUnchanged yaml text ↔ ∀ strategy ∈ config.strategies, Table.size strategy.parameters ≤ 1) ∧
      ∀ files mapOrder manager, FailureKeeps yaml files mapOrder manager ↔
        ¬ Vanishes yaml files mapOrder ∨ manager.configFile.SameContent (mapOrder.arrange .default) :=
  ⟨reloadsUnchanged_iff hparse hwrites, fun _ _ _ => failureKeeps_iff⟩

end reload

/-! ### A file of one strategy -/

/-- A strategy with these parameters, all of them `true`. -/
def sampleConfig (parameters : Table String Value) : StrategyConfigFile where
  version := "1.0"
  global := .default
  strategies :=
    [{ name := "backrun", enabled := true, priority := 150, minProfitWei := 5000000000000000
       maxGasPriceGwei := 150, riskTolerance := .ofDecimal 7 1, parameters }]

/-- Its text, from its first line to its last. -/
def sampleText (config : StrategyConfigFile) : String :=
  "version: '1.0'\nglobal:\n  enabled: true\n  max_concurrent_strategies: 5\n  evaluation_timeout_ms: 50\n" ++
    "  default_min_profit_wei: 1000000000000000\n  default_max_gas_price_gwei: 100\n" ++
    "  default_risk_tolerance: 0.5\nstrategies:\n- name: backrun\n  enabled: true\n  priority: 150\n" ++
    "  min_profit_wei: 5000000000000000\n  max_gas_price_gwei: 150\n  risk_tolerance: 0.7\n  parameters:\n" ++
    String.join (config.strategies.flatMap fun strategy =>
      strategy.parameters.keys.map fun key => "    " ++ key ++ ": true\n")

/-- Writing and reading this configuration. -/
def sampleYaml (config : StrategyConfigFile) : SerdeYaml where
  toString config := .ok (sampleText config)
  fromStr text := if text = sampleText config then .ok config else .error "missing field `version`"

theorem fromStr_sampleText (config : StrategyConfigFile) :
    (sampleYaml config).fromStr (sampleText config) = .ok config := by
  simp only [sampleYaml, if_true]

/-- One parameter. -/
def oneParameter : Table String Value := (∅ : Table String Value).insert "skip_dust" (.bool true)

/-- Two parameters. -/
def twoParameters : Table String Value := oneParameter.insert "simulate_first" (.bool true)

/-- **With one parameter**, the unchanged file is reported as unchanged. -/
theorem one_parameter_unchanged :
    ReloadsUnchanged (sampleYaml (sampleConfig oneParameter)) (sampleText (sampleConfig oneParameter)) := by
  have hone : ∀ strategy ∈ (sampleConfig oneParameter).strategies, Table.size strategy.parameters ≤ 1 := by
    intro strategy hstrategy
    obtain rfl := List.mem_singleton.mp hstrategy
    decide
  have hwrites : WritesOrder (sampleYaml (sampleConfig oneParameter)) (sampleConfig oneParameter) :=
    fun a b ha hb => ⟨_, _, rfl, rfl, fun _ => (ha.eq hone).trans (hb.eq hone).symm⟩
  exact (hot_reload_iff (fromStr_sampleText _) hwrites).1.mpr hone

/-- **With two**, it is reported as changed. And a reload that fails, the file being gone and its
directory too, leaves the default configuration. -/
theorem unchanged_file_changed :
    (sampleYaml (sampleConfig twoParameters)).fromStr (sampleText (sampleConfig twoParameters)) =
        .ok (sampleConfig twoParameters) ∧
      ¬ ReloadsUnchanged (sampleYaml (sampleConfig twoParameters)) (sampleText (sampleConfig twoParameters)) ∧
      ∃ files mapOrder,
        ¬ FailureKeeps (sampleYaml (sampleConfig twoParameters)) files mapOrder ⟨sampleConfig twoParameters⟩ := by
  have hparse := fromStr_sampleText (sampleConfig twoParameters)
  refine ⟨hparse, fun h => ?_, ⟨.ok (), false, .error "", fun _ => .error "No such file or directory (os error 2)"⟩,
    .asRead, fun h => ?_⟩
  · let files : FileAnswers :=
      ⟨.ok (), true, .ok (sampleText (sampleConfig twoParameters)), fun _ => .ok ()⟩
    have hfile : files.Has (sampleText (sampleConfig twoParameters)) := ⟨rfl, rfl, rfl⟩
    have hsecond := h ⟨sampleConfig twoParameters⟩ files files .asRead .reversed hfile hfile
    rw [hotReload_of_file hfile hparse, hotReload_of_file hfile hparse] at hsecond
    have hchanged : ConfigManager.configsEqual (sampleYaml (sampleConfig twoParameters))
        (MapOrder.asRead.arrange (sampleConfig twoParameters))
        (MapOrder.reversed.arrange (sampleConfig twoParameters)) = false := by
      decide +kernel
    simp only [hchanged] at hsecond
    cases hsecond
  · have hlength := (h rfl).strategies.length_eq
    revert hlength
    decide

end Botmev.Strategies
