import Botmev.Mempool.RateLimiting

/-!
# The configuration of the filters

`FilterConfigManager` (`mev-mempool/src/filter_config.rs`): a configuration is validated when it is
loaded from its file, and then rules are added, updated and removed one by one. A rule that is added
is only checked for its name.

What reading and parsing the file gives is an argument of the call. The description of a rule, which
is only copied, and the warning about some priorities, which is only logged, are left out.

## What is proved

* `validateConfig_iff`: what the validation accepts.
* `perform_of_err`: a call that fails changes nothing.
* `perform_valid_iff`: a call keeps the configuration valid unless it adds a rule with an hour that
  is none.
* `active_config_valid_iff`: so do all calls one after the other, if none of them does that.
* `config_keeps_limits`: each rule of a valid configuration that limits the rate gets a limiter of its
  own.
-/

namespace Botmev.Mempool

open Botmev.Rust

/-- "Filter condition configuration". -/
inductive FilterConditionConfig where
  | valueRange (minWei maxWei : Option String)
  | gasPriceRange (minGwei maxGwei : Option U64)
  | targetType (types : List String)
  | functionSignature (signatures : List String)
  | contractAddress (addresses : List String) (whitelist : Bool)
  | senderAddress (addresses : List String) (whitelist : Bool)
  | dataSize (minBytes maxBytes : Option ℕ)
  | timeOfDay (startHour endHour : UInt8)
  | dataPattern (pattern : String) (caseSensitive : Bool)
  deriving DecidableEq, Repr

/-- "Filter action configuration". -/
inductive FilterActionConfig where
  | accept
  | reject
  | tag (tags : List String)
  | setPriority (level : UInt8)
  | rateLimit (maxPerSecond : BitVec 32)
  deriving DecidableEq, Repr

/-- "Filter rule configuration (matches YAML structure)". -/
structure FilterRuleConfig where
  /-- Its name. -/
  name : String
  /-- Whether it is applied. -/
  enabled : Bool
  /-- Its priority. -/
  priority : ℤ
  /-- Its conditions. -/
  conditions : List FilterConditionConfig
  /-- Its action. -/
  action : FilterActionConfig
  deriving DecidableEq, Repr

/-- "Global filter settings". -/
structure FilterSettings where
  /-- How many rules a transaction may match. -/
  maxRulesPerTransaction : ℕ
  /-- Whether to log everything. -/
  detailedLogging : Bool
  /-- The priority of a transaction at first. -/
  defaultPriority : UInt8
  /-- Whether there are metrics. -/
  enableMetrics : Bool
  /-- How long filtering may take. -/
  filterTimeoutMs : U64
  deriving DecidableEq, Repr

/-- `FilterSettings::default()`. -/
def FilterSettings.default : FilterSettings := ⟨20, false, 128, true, 10⟩

/-- "Complete filter configuration". -/
structure FilterConfig where
  /-- The rules. -/
  rules : List FilterRuleConfig
  /-- The settings. -/
  settings : FilterSettings
  deriving DecidableEq, Repr

/-! ### Validation -/

/-- `TimeOfDay` with an hour past 23. -/
def FilterConditionConfig.hoursInvalid : FilterConditionConfig → Bool
  | timeOfDay startHour endHour => decide (23 < startHour) || decide (23 < endHour)
  | _ => false

/-- "Check for duplicate rule names", with the names seen so far. -/
def checkNames : List String → List FilterRuleConfig → Result Unit
  | _, [] => .ok ()
  | seen, rule :: rules =>
    if rule.name ∈ seen then .error (.err ("Duplicate rule name: " ++ rule.name))
    else checkNames (rule.name :: seen) rules

/-- "Validate time conditions". -/
def checkTimes : List FilterRuleConfig → Result Unit
  | [] => .ok ()
  | rule :: rules =>
    if rule.conditions.any FilterConditionConfig.hoursInvalid then
      .error (.err ("Invalid time range in rule '" ++ rule.name ++ "': hours must be 0-23"))
    else checkTimes rules

/-- "Validate settings". -/
def checkSettings (settings : FilterSettings) : Result Unit :=
  if settings.maxRulesPerTransaction = 0 then .error (.err "max_rules_per_transaction must be > 0")
  else if settings.filterTimeoutMs = 0 then .error (.err "filter_timeout_ms must be > 0")
  else .ok ()

/-- `validate_config`. -/
def validateConfig (config : FilterConfig) : Result Unit := do
  checkNames [] config.rules
  checkTimes config.rules
  checkSettings config.settings

/-! ### The rules of the engine -/

/-- `convert_condition_config`. -/
def FilterConditionConfig.convert : FilterConditionConfig → FilterCondition
  | valueRange minWei maxWei => .valueRange minWei maxWei
  | gasPriceRange minGwei maxGwei => .gasPriceRange minGwei maxGwei
  | targetType types => .targetType types
  | functionSignature signatures => .functionSignature signatures
  | contractAddress addresses whitelist => .contractAddress addresses whitelist
  | senderAddress addresses whitelist => .senderAddress addresses whitelist
  | dataSize minBytes maxBytes => .dataSize minBytes maxBytes
  | timeOfDay startHour endHour => .timeOfDay startHour.toNat endHour.toNat
  | dataPattern pattern caseSensitive => .dataPattern pattern caseSensitive

/-- `convert_action_config`. -/
def FilterActionConfig.convert : FilterActionConfig → FilterAction
  | accept => .accept
  | reject => .reject
  | tag tags => .tag tags
  | setPriority level => .setPriority level
  | rateLimit maxPerSecond => .rateLimit maxPerSecond

/-- `convert_rule_config`. -/
def FilterRuleConfig.convert (config : FilterRuleConfig) : FilterRule where
  name := config.name
  enabled := config.enabled
  priority := config.priority
  conditions := config.conditions.map (·.convert)
  action := config.action.convert

/-- `to_filter_rules`, which never fails. -/
def toFilterRules (config : FilterConfig) : List FilterRule := config.rules.map (·.convert)

/-! ### The manager -/

/-- "Filter configuration manager". -/
structure FilterConfigManager where
  /-- The configuration, once one is loaded. -/
  currentConfig : Option FilterConfig
  deriving DecidableEq, Repr

namespace FilterConfigManager

/-- `FilterConfigManager::new`. -/
def new : FilterConfigManager := ⟨none⟩

/-- `load_config`, with what reading and parsing the file gives. -/
def loadConfig (file : Result FilterConfig) (manager : FilterConfigManager) :
    Result FilterConfig × FilterConfigManager :=
  match file with
  | .error e => (.error e, manager)
  | .ok config =>
    match validateConfig config with
    | .error e => (.error e, manager)
    | .ok () => (.ok config, ⟨some config⟩)

/-- The first rule of the name is updated; none, if there is no rule of the name. -/
def setEnabled (ruleName : String) (enabled : Bool) : List FilterRuleConfig → Option (List FilterRuleConfig)
  | [] => none
  | rule :: rules =>
    if rule.name = ruleName then some ({ rule with enabled } :: rules)
    else (setEnabled ruleName enabled rules).map (rule :: ·)

/-- That there is no rule of the name. -/
def ruleNotFound (ruleName : String) : Failure := .err ("Rule '" ++ ruleName ++ "' not found")

/-- `update_rule`. -/
def updateRule (ruleName : String) (enabled : Bool) (manager : FilterConfigManager) :
    Result Unit × FilterConfigManager :=
  match manager.currentConfig with
  | none => (.error (ruleNotFound ruleName), manager)
  | some config =>
    match setEnabled ruleName enabled config.rules with
    | none => (.error (ruleNotFound ruleName), manager)
    | some rules => (.ok (), ⟨some { config with rules }⟩)

/-- `add_rule`. -/
def addRule (rule : FilterRuleConfig) (manager : FilterConfigManager) : Result Unit × FilterConfigManager :=
  match manager.currentConfig with
  | none => (.error (.err "No configuration loaded"), manager)
  | some config =>
    if config.rules.any fun r => r.name == rule.name then
      (.error (.err ("Rule '" ++ rule.name ++ "' already exists")), manager)
    else (.ok (), ⟨some { config with rules := config.rules ++ [rule] }⟩)

/-- `remove_rule`. -/
def removeRule (ruleName : String) (manager : FilterConfigManager) : Result Unit × FilterConfigManager :=
  match manager.currentConfig with
  | none => (.error (ruleNotFound ruleName), manager)
  | some config =>
    let rules := config.rules.filter fun r => r.name != ruleName
    let manager : FilterConfigManager := ⟨some { config with rules }⟩
    if rules.length < config.rules.length then (.ok (), manager) else (.error (ruleNotFound ruleName), manager)

/-- A call of the manager. -/
inductive Call where
  /-- `load_config`. -/
  | loadConfig (file : Result FilterConfig)
  /-- `add_rule`. -/
  | addRule (rule : FilterRuleConfig)
  /-- `update_rule`. -/
  | updateRule (ruleName : String) (enabled : Bool)
  /-- `remove_rule`. -/
  | removeRule (ruleName : String)

/-- What a call returns, and leaves. -/
def perform (call : Call) (manager : FilterConfigManager) : Result Unit × FilterConfigManager :=
  match call with
  | .loadConfig file => ((manager.loadConfig file).1.map fun _ => (), (manager.loadConfig file).2)
  | .addRule rule => manager.addRule rule
  | .updateRule ruleName enabled => manager.updateRule ruleName enabled
  | .removeRule ruleName => manager.removeRule ruleName

/-- **At every call** of a run. -/
def EveryCall (P : Call → FilterConfigManager → Prop) : List Call → FilterConfigManager → Prop
  | [], _ => True
  | call :: calls, manager => P call manager ∧ EveryCall P calls (manager.perform call).2

/-- The configuration, if there is one, would be accepted when loaded. -/
def Valid (manager : FilterConfigManager) : Prop :=
  ∀ config, manager.currentConfig = some config → validateConfig config = .ok ()

end FilterConfigManager

/-! ### What is accepted -/

/-- No condition of the rule has an hour past 23. -/
def FilterRuleConfig.HoursValid (rule : FilterRuleConfig) : Prop :=
  ∀ condition ∈ rule.conditions, condition.hoursInvalid = false

instance (rule : FilterRuleConfig) : Decidable rule.HoursValid := inferInstanceAs (Decidable (∀ _ ∈ _, _))

/-- **What a configuration must be**. -/
structure FilterConfig.IsValid (config : FilterConfig) : Prop where
  /-- No two rules have one name. -/
  names : (config.rules.map (·.name)).Nodup
  /-- The hours are hours. -/
  hours : ∀ rule ∈ config.rules, rule.HoursValid
  /-- Some rules may match. -/
  maxRules : 0 < config.settings.maxRulesPerTransaction
  /-- There is time. -/
  timeout : config.settings.filterTimeoutMs ≠ 0

theorem checkNames_iff (seen : List String) (rules : List FilterRuleConfig) :
    checkNames seen rules = .ok () ↔ (rules.map (·.name)).Nodup ∧ ∀ rule ∈ rules, rule.name ∉ seen := by
  induction rules generalizing seen with
  | nil => simp [checkNames]
  | cons rule rules ih =>
    rw [checkNames]
    split
    · next hseen => simp [hseen]
    · next hseen =>
      rw [ih, List.map_cons, List.nodup_cons, List.forall_mem_cons]
      simp only [List.mem_cons, not_or, List.mem_map, not_exists, not_and]
      grind

theorem checkTimes_iff (rules : List FilterRuleConfig) :
    checkTimes rules = .ok () ↔ ∀ rule ∈ rules, rule.HoursValid := by
  induction rules with
  | nil => simp [checkTimes]
  | cons rule rules ih =>
    rw [checkTimes, List.forall_mem_cons, ← ih]
    split
    · next hinvalid =>
      obtain ⟨condition, hcondition, h⟩ := List.any_eq_true.mp hinvalid
      refine iff_of_false (fun h => by cases h) fun hvalid => ?_
      rw [hvalid.1 condition hcondition] at h
      cases h
    · next hvalid => exact (and_iff_right (by simpa [FilterRuleConfig.HoursValid] using hvalid)).symm

theorem checkSettings_iff (settings : FilterSettings) :
    checkSettings settings = .ok () ↔ 0 < settings.maxRulesPerTransaction ∧ settings.filterTimeoutMs ≠ 0 := by
  rw [checkSettings]
  split
  · next h => simp [h]
  · next h =>
    split
    · next h' => simp [h']
    · next h' => exact iff_of_true rfl ⟨Nat.pos_of_ne_zero h, h'⟩

/-- **What the validation accepts**. -/
theorem validateConfig_iff (config : FilterConfig) : validateConfig config = .ok () ↔ config.IsValid := by
  have hall : validateConfig config = .ok () ↔ checkNames [] config.rules = .ok () ∧
      checkTimes config.rules = .ok () ∧ checkSettings config.settings = .ok () := by
    rw [validateConfig]
    rcases checkNames [] config.rules with e | ⟨⟩ <;> rcases checkTimes config.rules with e | ⟨⟩ <;>
      simp [bind, Except.bind]
  rw [hall, checkNames_iff, checkTimes_iff, checkSettings_iff]
  exact ⟨fun h => ⟨h.1.1, h.2.1, h.2.2.1, h.2.2.2⟩,
    fun h => ⟨⟨h.names, fun _ _ => List.not_mem_nil⟩, h.hours, h.maxRules, h.timeout⟩⟩

/-- **Each rule that limits the rate**, of a configuration that is accepted, gets a new limiter with its
limit when the rules are loaded. -/
theorem config_keeps_limits (clock : ℕ → Reading) (engine : FilterEngine) {config : FilterConfig}
    (hvalid : validateConfig config = .ok ()) {rule : FilterRuleConfig} (hrule : rule ∈ config.rules)
    {n : BitVec 32} (haction : rule.action = .rateLimit n) :
    ∃ k, (engine.loadRules clock (toFilterRules config)).rateLimiters.lookup rule.name =
      some (.new n (clock k).instant) := by
  have hnames : ((toFilterRules config).map (·.name)).Nodup := by
    rw [toFilterRules, List.map_map]
    exact ((validateConfig_iff config).mp hvalid).names
  exact FilterEngine.limiter_loadRules clock (toFilterRules config) engine hnames
    (List.mem_map_of_mem hrule) (congrArg FilterActionConfig.convert haction)

namespace FilterConfigManager

variable {manager : FilterConfigManager} {call : Call} {config : FilterConfig} {rules : List FilterRuleConfig}

theorem valid_some (config : FilterConfig) : (⟨some config⟩ : FilterConfigManager).Valid ↔
    config.IsValid := by
  rw [← validateConfig_iff]
  exact ⟨fun h => h config rfl, fun h config' hconfig => Option.some.inj hconfig ▸ h⟩

/-! ### Failing calls -/

/-- **A call that fails** changes nothing. -/
theorem perform_of_err (call : Call) (manager : FilterConfigManager) (e : Failure)
    (h : (manager.perform call).1 = .error e) : (manager.perform call).2 = manager := by
  cases call with
  | loadConfig file =>
    revert h
    simp only [perform, loadConfig]
    rcases file with e' | config
    · exact fun _ => rfl
    · dsimp only
      rcases validateConfig config with e' | ⟨⟩
      · exact fun _ => rfl
      · exact fun h => by cases h
  | addRule rule =>
    revert h
    rw [perform, addRule]
    rcases manager.currentConfig with _ | config
    · exact fun _ => rfl
    · dsimp only
      split
      · exact fun _ => rfl
      · exact fun h => by cases h
  | updateRule ruleName enabled =>
    revert h
    rw [perform, updateRule]
    rcases manager.currentConfig with _ | config
    · exact fun _ => rfl
    · dsimp only
      rcases setEnabled ruleName enabled config.rules with _ | rules
      · exact fun _ => rfl
      · exact fun h => by cases h
  | removeRule ruleName =>
    revert h
    obtain ⟨_ | config⟩ := manager
    · exact fun _ => rfl
    · simp only [perform, removeRule]
      split
      · exact fun h => by cases h
      · next hlen =>
        -- nothing was removed, so what is left is all there was
        have hall : (config.rules.filter fun r => r.name != ruleName) = config.rules :=
          List.filter_sublist.eq_of_length_le (Nat.le_of_not_lt hlen)
        intro _
        rw [hall]

/-! ### Calls that succeed -/

/-- What updating a rule leaves of the names and the conditions. -/
theorem setEnabled_eq_some {ruleName : String} {enabled : Bool} {rules' : List FilterRuleConfig}
    (h : setEnabled ruleName enabled rules = some rules') :
    rules'.map (·.name) = rules.map (·.name) ∧ rules'.map (·.conditions) = rules.map (·.conditions) := by
  induction rules generalizing rules' with
  | nil => cases h
  | cons rule rules ih =>
    rw [setEnabled] at h
    split at h
    · cases h
      exact ⟨rfl, rfl⟩
    · obtain ⟨rest, hrest, rfl⟩ := Option.map_eq_some_iff.mp h
      obtain ⟨hnames, hconditions⟩ := ih hrest
      exact ⟨congrArg (rule.name :: ·) hnames, congrArg (rule.conditions :: ·) hconditions⟩

theorem isValid_update (hvalid : config.IsValid) (hnames : rules.map (·.name) = config.rules.map (·.name))
    (hconditions : rules.map (·.conditions) = config.rules.map (·.conditions)) :
    FilterConfig.IsValid { config with rules } where
  names := hnames ▸ hvalid.names
  hours rule hrule := by
    have hmem : rule.conditions ∈ config.rules.map (·.conditions) := hconditions ▸ List.mem_map_of_mem hrule
    obtain ⟨rule', hrule', heq⟩ := List.mem_map.mp hmem
    exact fun condition hcondition => hvalid.hours rule' hrule' condition (heq ▸ hcondition)
  maxRules := hvalid.maxRules
  timeout := hvalid.timeout

theorem isValid_remove (hvalid : config.IsValid) (hsub : rules.Sublist config.rules) :
    FilterConfig.IsValid { config with rules } where
  names := hvalid.names.sublist (hsub.map _)
  hours rule hrule := hvalid.hours rule (hsub.subset hrule)
  maxRules := hvalid.maxRules
  timeout := hvalid.timeout

/-- A rule of a new name keeps a configuration valid just when its hours are. -/
theorem isValid_add_iff (hvalid : config.IsValid) {rule : FilterRuleConfig}
    (hnew : ∀ r ∈ config.rules, r.name ≠ rule.name) :
    FilterConfig.IsValid { config with rules := config.rules ++ [rule] } ↔ rule.HoursValid := by
  refine ⟨fun h => h.hours rule (List.mem_append_right _ List.mem_cons_self), fun hhours => ?_⟩
  refine ⟨?_, ?_, hvalid.maxRules, hvalid.timeout⟩
  · rw [List.map_append, List.nodup_append']
    refine ⟨hvalid.names, List.nodup_singleton _, fun name hname hname' => ?_⟩
    obtain ⟨r, hr, rfl⟩ := List.mem_map.mp hname
    exact hnew r hr (List.mem_singleton.mp hname')
  · intro r hr
    rcases List.mem_append.mp hr with hr | hr
    · exact hvalid.hours r hr
    · exact List.mem_singleton.mp hr ▸ hhours

/-- **The call adds no bad hours**: if it adds a rule of a new name, the hours of that are valid. -/
def AddsValid (call : Call) (manager : FilterConfigManager) : Prop :=
  ∀ rule config, call = .addRule rule → manager.currentConfig = some config →
    (∀ r ∈ config.rules, r.name ≠ rule.name) → rule.HoursValid

theorem valid_loadConfig (file : Result FilterConfig) (hvalid : manager.Valid) :
    (manager.loadConfig file).2.Valid := by
  rcases file with e | config
  · exact hvalid
  · rw [loadConfig]
    cases hcheck : validateConfig config with
    | error e => exact hvalid
    | ok => exact (valid_some config).mpr ((validateConfig_iff config).mp hcheck)

theorem valid_updateRule (ruleName : String) (enabled : Bool) (hvalid : manager.Valid) :
    (manager.updateRule ruleName enabled).2.Valid := by
  obtain ⟨_ | config⟩ := manager
  · exact hvalid
  · rw [updateRule]
    dsimp only
    cases hset : setEnabled ruleName enabled config.rules with
    | none => exact hvalid
    | some rules =>
      obtain ⟨hnames, hconditions⟩ := setEnabled_eq_some hset
      exact (valid_some _).mpr (isValid_update ((valid_some config).mp hvalid) hnames hconditions)

theorem valid_removeRule (ruleName : String) (hvalid : manager.Valid) :
    (manager.removeRule ruleName).2.Valid := by
  obtain ⟨_ | config⟩ := manager
  · exact hvalid
  · have hremoved := (valid_some _).mpr
      (isValid_remove ((valid_some config).mp hvalid) (List.filter_sublist (p := fun r => r.name != ruleName)))
    rw [removeRule]
    dsimp only
    split <;> exact hremoved

theorem valid_addRule_iff (rule : FilterRuleConfig) (hvalid : manager.Valid) :
    (manager.addRule rule).2.Valid ↔ ∀ config, manager.currentConfig = some config →
      (∀ r ∈ config.rules, r.name ≠ rule.name) → rule.HoursValid := by
  obtain ⟨_ | config⟩ := manager
  · exact iff_of_true hvalid fun config h => by cases h
  · rw [addRule]
    dsimp only
    split
    · next hexists =>
      obtain ⟨r, hr, hname⟩ := List.any_eq_true.mp hexists
      refine iff_of_true hvalid fun config' hconfig hnew => ?_
      cases hconfig
      exact absurd (beq_iff_eq.mp hname) (hnew r hr)
    · next hnone =>
      have hnew : ∀ r ∈ config.rules, r.name ≠ rule.name := fun r hr hname =>
        hnone (List.any_eq_true.mpr ⟨r, hr, beq_iff_eq.mpr hname⟩)
      rw [valid_some, isValid_add_iff ((valid_some config).mp hvalid) hnew]
      exact ⟨fun hhours _ _ _ => hhours, fun hadds => hadds config rfl hnew⟩

/-- **A call keeps the configuration valid** just when it adds no bad hours. -/
theorem perform_valid_iff (call : Call) (hvalid : manager.Valid) :
    (manager.perform call).2.Valid ↔ AddsValid call manager := by
  cases call with
  | addRule rule =>
    refine (valid_addRule_iff rule hvalid).trans ⟨fun h rule' config hrule => ?_, fun h config => h rule config rfl⟩
    cases hrule
    exact h config
  | loadConfig file => exact iff_of_true (valid_loadConfig file hvalid) fun rule config h => by cases h
  | updateRule ruleName enabled =>
    exact iff_of_true (valid_updateRule ruleName enabled hvalid) fun rule config h => by cases h
  | removeRule ruleName => exact iff_of_true (valid_removeRule ruleName hvalid) fun rule config h => by cases h

/-- **The active configuration is always valid**, and a call that fails leaves it as it was, in just
those runs in which no rule of a new name is added with an hour past 23. -/
theorem active_config_valid_iff (calls : List Call) :
    EveryCall (fun call manager => (manager.perform call).2.Valid ∧
        ∀ e, (manager.perform call).1 = .error e →
          (manager.perform call).2.currentConfig = manager.currentConfig) calls new ↔
      EveryCall AddsValid calls new := by
  have hrun : ∀ (calls : List Call) (manager : FilterConfigManager), manager.Valid →
      (EveryCall (fun call manager => (manager.perform call).2.Valid ∧
          ∀ e, (manager.perform call).1 = .error e →
            (manager.perform call).2.currentConfig = manager.currentConfig) calls manager ↔
        EveryCall AddsValid calls manager) := by
    intro calls
    induction calls with
    | nil => exact fun _ _ => Iff.rfl
    | cons call calls ih =>
      intro manager hvalid
      have hkeeps : ∀ e, (manager.perform call).1 = .error e →
          (manager.perform call).2.currentConfig = manager.currentConfig := fun e h => by
        rw [perform_of_err call manager e h]
      rw [EveryCall, EveryCall, and_iff_left hkeeps, perform_valid_iff call hvalid]
      exact and_congr_right fun hadds => ih _ ((perform_valid_iff call hvalid).mpr hadds)
  exact hrun calls new fun config h => by cases h

/-- A configuration without rules. -/
def emptyConfig : FilterConfig := ⟨[], .default⟩

/-- A rule for the hours after the last. -/
def lateRule : FilterRuleConfig := ⟨"late", true, 0, [.timeOfDay 24 24], .accept⟩

/-- **An hour that is none** is added: the call returns, and what is then the active configuration
would not be loaded. -/
theorem late_rule_added :
    let manager := (new.perform (.loadConfig (.ok emptyConfig))).2
    manager.currentConfig = some emptyConfig ∧ (manager.perform (.addRule lateRule)).1 = .ok () ∧
      (manager.perform (.addRule lateRule)).2.currentConfig = some ⟨[lateRule], .default⟩ ∧
      validateConfig ⟨[lateRule], .default⟩ =
        .error (.err "Invalid time range in rule 'late': hours must be 0-23") := by
  decide

end FilterConfigManager

end Botmev.Mempool
