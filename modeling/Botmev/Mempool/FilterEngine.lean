import Botmev.Library.Table
import Botmev.Mempool.Filters
import Mathlib.Data.List.Sort

/-!
# The filter engine

`FilterEngine` (`mev-mempool/src/filters.rs`). The rules stand in the order of their
priorities, highest first; each one that is enabled and whose conditions all hold does its
action on the transaction, and two of the actions can end the call.

The clocks are read again and again in the course of a call, so a call is given what they
show at each reading. A call that panics leaves the engine as it was at that point.

The description of a rule and the times of the statistics, which only logs and metrics
read, are left out.

## What is proved

* `evaluateRule_isOk_iff`: a rule can be evaluated unless one of the conditions it comes to
  measures an input of less than two bytes.
* `applyAction_cases`: an action goes on and counts nothing, or ends the call and counts
  once.
* `applyRules_spec`: so does the loop, unless it comes to such a condition.
-/

namespace Botmev.Mempool

open Botmev.Rust Botmev.Core Botmev.Library

/-- "Filter action to take when conditions match". -/
inductive FilterAction where
  /-- "Accept transaction (high priority)". -/
  | accept
  /-- "Reject transaction (drop it)". -/
  | reject
  /-- "Tag transaction with metadata". -/
  | tag (tags : List String)
  /-- "Set priority level". -/
  | setPriority (level : UInt8)
  /-- "Rate limit (max per second)". -/
  | rateLimit (maxPerSecond : BitVec 32)
  deriving DecidableEq, Repr

/-- "Filter rule configuration". -/
structure FilterRule where
  /-- Its name. -/
  name : String
  /-- Whether it is applied at all. -/
  enabled : Bool
  /-- "Higher priority = processed first". -/
  priority : ℤ
  /-- What must hold of the transaction. -/
  conditions : List FilterCondition
  /-- What to do then. -/
  action : FilterAction
  deriving DecidableEq, Repr

/-- "Transaction with filter metadata". -/
structure FilteredTransaction where
  /-- The transaction. -/
  transaction : ParsedTransaction
  /-- Its priority. -/
  priority : UInt8
  /-- Its tags. -/
  tags : List String
  /-- The rules it has matched. -/
  matchedRules : List String
  deriving DecidableEq, Repr

namespace FilteredTransaction

/-- `FilteredTransaction::new`. -/
def new (transaction : ParsedTransaction) : FilteredTransaction := ⟨transaction, 128, [], []⟩

/-- `add_tag`. -/
def addTag (tx : FilteredTransaction) (tag : String) : FilteredTransaction :=
  if tx.tags.contains tag then tx else { tx with tags := tx.tags ++ [tag] }

/-- `set_priority`. -/
def setPriority (tx : FilteredTransaction) (priority : UInt8) : FilteredTransaction :=
  { tx with priority }

/-- `add_matched_rule`. -/
def addMatchedRule (tx : FilteredTransaction) (ruleName : String) : FilteredTransaction :=
  if tx.matchedRules.contains ruleName then tx
  else { tx with matchedRules := tx.matchedRules ++ [ruleName] }

end FilteredTransaction

/-- What the clocks show when one of them is read. -/
structure Reading where
  /-- `chrono::Utc::now().hour()`. -/
  hour : ℕ
  /-- `std::time::Instant::now()`, in nanoseconds. -/
  instant : ℕ

/-- "Rate limiter for filter actions". -/
structure RateLimiter where
  /-- How many it lets through in a second. -/
  maxPerSecond : BitVec 32
  /-- How many more it lets through. -/
  tokens : BitVec 32
  /-- When it was refilled. -/
  lastRefill : ℕ
  deriving DecidableEq, Repr

namespace RateLimiter

/-- `RateLimiter::new`. -/
def new (maxPerSecond : BitVec 32) (now : ℕ) : RateLimiter := ⟨maxPerSecond, maxPerSecond, now⟩

/-- `refill_tokens`: as a double, the time since the last refill is at least `1.0` just when
it is a second. -/
def refillTokens (now : ℕ) (limiter : RateLimiter) : RateLimiter :=
  if 10 ^ 9 ≤ now - limiter.lastRefill then
    { limiter with tokens := limiter.maxPerSecond, lastRefill := now }
  else limiter

/-- `allow`. -/
def allow (now : ℕ) (limiter : RateLimiter) : Bool × RateLimiter :=
  let limiter := limiter.refillTokens now
  if 0 < limiter.tokens then (true, { limiter with tokens := limiter.tokens - 1 }) else (false, limiter)

end RateLimiter

/-- What becomes of a transaction. -/
inductive Fate where
  | accepted | rejected | rateLimited
  deriving DecidableEq, Repr

/-- "Filter engine statistics". -/
structure FilterStats where
  /-- The transactions that were filtered. -/
  totalProcessed : U64
  /-- Those that were kept. -/
  accepted : U64
  /-- Those that a rule has rejected. -/
  rejected : U64
  /-- Those that were too many. -/
  rateLimited : U64
  deriving DecidableEq, Repr

namespace FilterStats

/-- `FilterStats::default()`. -/
def default : FilterStats := ⟨0, 0, 0, 0⟩

/-- The counter of a fate. -/
def counter (stats : FilterStats) : Fate → U64
  | .accepted => stats.accepted
  | .rejected => stats.rejected
  | .rateLimited => stats.rateLimited

/-- The statistics with one counter changed. -/
def setCounter (fate : Fate) (n : U64) (stats : FilterStats) : FilterStats :=
  match fate with
  | .accepted => { stats with accepted := n }
  | .rejected => { stats with rejected := n }
  | .rateLimited => { stats with rateLimited := n }

/-- `self.stats.accepted += 1`, and the same for the other two. -/
def count (fate : Fate) (stats : FilterStats) : Result FilterStats := do
  let n ← Uint.add (stats.counter fate) 1
  pure (stats.setCounter fate n)

/-- `self.stats.total_processed += 1`. -/
def countProcessed (stats : FilterStats) : Result FilterStats := do
  let n ← Uint.add stats.totalProcessed 1
  pure { stats with totalProcessed := n }

/-- The transactions of the three counters together. -/
def counted (stats : FilterStats) : ℕ :=
  stats.accepted.toNat + stats.rejected.toNat + stats.rateLimited.toNat

end FilterStats

/-- "Filter engine for processing transactions". -/
structure FilterEngine where
  /-- The rules, highest priority first. -/
  rules : List FilterRule
  /-- The limiters, under the names of their rules. -/
  rateLimiters : Table String RateLimiter
  /-- The statistics. -/
  stats : FilterStats

namespace FilterEngine

/-- `FilterEngine::new()`. -/
def new : FilterEngine := ⟨[], ∅, .default⟩

/-- `sort_by(|a, b| b.priority.cmp(&a.priority))`, which is stable. -/
def sortRules (rules : List FilterRule) : List FilterRule :=
  rules.insertionSort fun a b => b.priority ≤ a.priority

/-- The new limiters of `load_rules`: "rules that need them". -/
def initRateLimiters (clock : ℕ → Reading) :
    ℕ → List FilterRule → Table String RateLimiter → Table String RateLimiter
  | _, [], limiters => limiters
  | t, rule :: rules, limiters =>
    match rule.action with
    | .rateLimit maxPerSecond =>
      initRateLimiters clock (t + 1) rules
        (limiters.insert rule.name (.new maxPerSecond (clock t).instant))
    | _ => initRateLimiters clock t rules limiters

/-- `load_rules`. -/
def loadRules (clock : ℕ → Reading) (rules : List FilterRule) (engine : FilterEngine) : FilterEngine :=
  let sortedRules := sortRules rules
  { engine with
    rules := sortedRules
    rateLimiters := initRateLimiters clock 0 sortedRules engine.rateLimiters }

/-- The first rule of the name is enabled or disabled; none, if there is no rule of the name. -/
def enableRule (ruleName : String) (enabled : Bool) : List FilterRule → Option (List FilterRule)
  | [] => none
  | rule :: rules =>
    if rule.name = ruleName then some ({ rule with enabled } :: rules)
    else (enableRule ruleName enabled rules).map (rule :: ·)

/-- `set_rule_enabled`. -/
def setRuleEnabled (ruleName : String) (enabled : Bool) (engine : FilterEngine) :
    Result Unit × FilterEngine :=
  match enableRule ruleName enabled engine.rules with
  | some rules => (.ok (), { engine with rules })
  | none => (.error (.err s!"Rule '{ruleName}' not found"), engine)

/-- `reset_stats`. -/
def resetStats (engine : FilterEngine) : FilterEngine := { engine with stats := .default }

/-- The call ends, and the fate of the transaction is counted. -/
def finish (fate : Fate) (outcome : Option FilteredTransaction) (engine : FilterEngine) :
    Result (Option FilteredTransaction) × FilterEngine :=
  match engine.stats.count fate with
  | .ok stats => (.ok outcome, { engine with stats })
  | .error e => (.error e, engine)

/-- What a matching rule does: the transaction as it goes on to the next rule, or none if it
is dropped. -/
def applyAction (now : ℕ) (rule : FilterRule) (tx : FilteredTransaction) (engine : FilterEngine) :
    Result (Option FilteredTransaction) × FilterEngine :=
  match rule.action with
  | .accept => (.ok (some (tx.setPriority 255)), engine)
  | .reject => engine.finish .rejected none
  | .tag tags => (.ok (some (tags.foldl .addTag tx)), engine)
  | .setPriority level => (.ok (some (tx.setPriority level)), engine)
  | .rateLimit _ =>
    match engine.rateLimiters.lookup rule.name with
    | none => (.ok (some tx), engine)
    | some limiter =>
      let (allowed, limiter) := limiter.allow now
      let engine := { engine with rateLimiters := engine.rateLimiters.insert rule.name limiter }
      if allowed then (.ok (some tx), engine) else engine.finish .rateLimited none

variable (toLowercase : String → String) (clock : ℕ → Reading)

/-- `evaluate_rule`, "AND logic", from a reading of the clock on. -/
def evaluateRule : ℕ → List FilterCondition → ParsedTransaction → Result Bool
  | _, [], _ => pure true
  | t, condition :: conditions, transaction => do
    if ← evaluateCondition toLowercase (clock t).hour condition transaction then
      evaluateRule (t + 1) conditions transaction
    else pure false

/-- The conditions that `evaluate_rule` evaluates. -/
def evaluatedBy : ℕ → List FilterCondition → ParsedTransaction → List FilterCondition
  | _, [], _ => []
  | t, condition :: conditions, transaction =>
    condition ::
      match evaluateCondition toLowercase (clock t).hour condition transaction with
      | .ok true => evaluatedBy (t + 1) conditions transaction
      | _ => []

/-- The loop of `filter_transaction`, from a reading of the clock on. -/
def applyRules : ℕ → List FilterRule → FilteredTransaction → FilterEngine →
    Result (Option FilteredTransaction) × FilterEngine
  | _, [], tx, engine => (.ok (some tx), engine)
  | t, rule :: rules, tx, engine =>
    if rule.enabled then
      match evaluateRule toLowercase clock t rule.conditions tx.transaction with
      | .error e => (.error e, engine)
      | .ok false => applyRules (t + rule.conditions.length) rules tx engine
      | .ok true =>
        let now := (clock (t + rule.conditions.length)).instant
        match engine.applyAction now rule (tx.addMatchedRule rule.name) with
        | (.ok (some tx), engine) => applyRules (t + rule.conditions.length + 1) rules tx engine
        | dropped => dropped
    else applyRules t rules tx engine

/-- `filter_transaction`. -/
def filterTransaction (transaction : ParsedTransaction) (engine : FilterEngine) :
    Result (Option FilteredTransaction) × FilterEngine :=
  match engine.stats.countProcessed with
  | .error e => (.error e, engine)
  | .ok stats =>
    match applyRules toLowercase clock 0 engine.rules (.new transaction) { engine with stats } with
    | (.ok (some tx), engine) => engine.finish .accepted (some tx)
    | dropped => dropped

/-- The conditions that the loop of `filter_transaction` comes to. -/
def evaluatedByRules : ℕ → List FilterRule → FilteredTransaction → FilterEngine → List FilterCondition
  | _, [], _, _ => []
  | t, rule :: rules, tx, engine =>
    if rule.enabled then
      evaluatedBy toLowercase clock t rule.conditions tx.transaction ++
        match evaluateRule toLowercase clock t rule.conditions tx.transaction with
        | .error _ => []
        | .ok false => evaluatedByRules (t + rule.conditions.length) rules tx engine
        | .ok true =>
          let now := (clock (t + rule.conditions.length)).instant
          match engine.applyAction now rule (tx.addMatchedRule rule.name) with
          | (.ok (some tx), engine) => evaluatedByRules (t + rule.conditions.length + 1) rules tx engine
          | _ => []
    else evaluatedByRules t rules tx engine

/-- The conditions that `filter_transaction` comes to. -/
def evaluatedConditions (transaction : ParsedTransaction) (engine : FilterEngine) : List FilterCondition :=
  match engine.stats.countProcessed with
  | .error _ => []
  | .ok stats =>
    evaluatedByRules toLowercase clock 0 engine.rules (.new transaction) { engine with stats }

end FilterEngine

/-! ### Counting -/

namespace FilterStats

/-- One transaction of this fate more, and nothing else. -/
structure Counted (fate : Fate) (stats stats' : FilterStats) : Prop where
  /-- None more has been filtered. -/
  processed : stats'.totalProcessed = stats.totalProcessed
  /-- The counter of the fate is one higher, the others are as they were. -/
  counters : ∀ f, (stats'.counter f).toNat = (stats.counter f).toNat + if f = fate then 1 else 0

variable {stats stats' : FilterStats} {fate : Fate}

theorem counter_le_counted (stats : FilterStats) (fate : Fate) :
    (stats.counter fate).toNat ≤ stats.counted := by
  cases fate <;> simp only [counter, counted] <;> omega

theorem Counted.counted_eq (h : Counted fate stats stats') : stats'.counted = stats.counted + 1 := by
  have ha := h.counters .accepted
  have hr := h.counters .rejected
  have hl := h.counters .rateLimited
  simp only [counter] at ha hr hl
  simp only [counted, ha, hr, hl]
  cases fate <;> simp <;> omega

@[simp] theorem counter_setCounter (fate f : Fate) (n : U64) :
    (stats.setCounter fate n).counter f = if f = fate then n else stats.counter f := by
  cases fate <;> cases f <;> rfl

@[simp] theorem totalProcessed_setCounter (fate : Fate) (n : U64) :
    (stats.setCounter fate n).totalProcessed = stats.totalProcessed := by
  cases fate <;> rfl

/-- A counter with room is counted up. -/
theorem count_ok (fate : Fate) (h : stats.counted + 1 < 2 ^ 64) :
    ∃ stats', stats.count fate = .ok stats' ∧ Counted fate stats stats' := by
  have hone : (1 : U64).toNat = 1 := rfl
  have hroom : (stats.counter fate).toNat + (1 : U64).toNat < 2 ^ 64 :=
    Nat.lt_of_le_of_lt (Nat.add_le_add_right (counter_le_counted stats fate) 1) h
  have hadd : Uint.add (stats.counter fate) 1 = .ok (stats.counter fate + 1) := if_pos hroom
  refine ⟨stats.setCounter fate (stats.counter fate + 1), ?_, totalProcessed_setCounter .., fun f => ?_⟩
  · simp only [count, hadd]
    rfl
  · rw [counter_setCounter]
    split
    · rename_i hf
      rw [hf, BitVec.toNat_add_of_lt hroom, hone]
    · rfl

theorem countProcessed_eq (h : stats.totalProcessed.toNat + 1 < 2 ^ 64) :
    stats.countProcessed = .ok { stats with totalProcessed := stats.totalProcessed + 1 } := by
  have hadd : Uint.add stats.totalProcessed 1 = .ok (stats.totalProcessed + 1) := if_pos h
  simp only [countProcessed, hadd]
  rfl

theorem countProcessed_error (h : ¬ stats.totalProcessed.toNat + 1 < 2 ^ 64) :
    ∃ e, stats.countProcessed = .error e := by
  have hadd : Uint.add stats.totalProcessed 1 = .error (.panic "attempt to add with overflow") := if_neg h
  exact ⟨_, by simp only [countProcessed, hadd]; rfl⟩

end FilterStats

/-! ### Conditions -/

/-- Whether a condition measures the calldata. -/
def FilterCondition.isDataSize : FilterCondition → Bool
  | .dataSize _ _ => true
  | _ => false

/-- Of all the conditions, only the size of an input of less than two bytes cannot be
evaluated. -/
theorem evaluateCondition_isOk_iff (toLowercase : String → String) (currentHour : ℕ)
    {condition : FilterCondition} {transaction : ParsedTransaction} :
    (∃ b, evaluateCondition toLowercase currentHour condition transaction = .ok b) ↔
      (condition.isDataSize = true → 2 ≤ transaction.transaction.input.utf8ByteSize) := by
  cases condition with
  | dataSize minBytes maxBytes =>
    simp only [evaluateCondition, FilterCondition.isDataSize, forall_const]
    split
    · rename_i hhalf
      refine iff_of_false ?_ (by omega)
      rintro ⟨b, hb⟩
      cases hb
    · exact iff_of_true ⟨_, rfl⟩ (by omega)
  | functionSignature signatures =>
    simp only [evaluateCondition, FilterCondition.isDataSize]
    split <;> simp [pure, Except.pure]
  | contractAddress addresses whitelist =>
    simp only [evaluateCondition, FilterCondition.isDataSize]
    split <;> simp [pure, Except.pure]
  | timeOfDay startHour endHour =>
    simp only [evaluateCondition, FilterCondition.isDataSize]
    split <;> simp [pure, Except.pure]
  | _ => simp [evaluateCondition, FilterCondition.isDataSize, pure, Except.pure]

namespace FilterEngine

variable {toLowercase : String → String} {clock : ℕ → Reading} {transaction : ParsedTransaction}

/-- Conditions that a call comes to can be evaluated: the input has the two bytes that
measuring it takes away, or none of them measures it. -/
def Measurable (transaction : ParsedTransaction) (conditions : List FilterCondition) : Prop :=
  conditions.any (·.isDataSize) = true → 2 ≤ transaction.transaction.input.utf8ByteSize

instance (conditions : List FilterCondition) : Decidable (Measurable transaction conditions) :=
  inferInstanceAs (Decidable (_ → _))

@[simp] theorem measurable_nil : Measurable transaction [] := by simp [Measurable]

theorem measurable_append {conditions conditions' : List FilterCondition} :
    Measurable transaction (conditions ++ conditions') ↔
      Measurable transaction conditions ∧ Measurable transaction conditions' := by
  simp only [Measurable, List.any_append, Bool.or_eq_true]
  exact or_imp

theorem measurable_cons {condition : FilterCondition} {conditions : List FilterCondition} :
    Measurable transaction (condition :: conditions) ↔
      (condition.isDataSize = true → 2 ≤ transaction.transaction.input.utf8ByteSize) ∧
        Measurable transaction conditions := by
  simp only [Measurable, List.any_cons, Bool.or_eq_true]
  exact or_imp

variable (toLowercase clock) in
/-- **A rule can be evaluated** just when the conditions it comes to can. -/
theorem evaluateRule_isOk_iff (t : ℕ) (conditions : List FilterCondition) (transaction : ParsedTransaction) :
    (∃ b, evaluateRule toLowercase clock t conditions transaction = .ok b) ↔
      Measurable transaction (evaluatedBy toLowercase clock t conditions transaction) := by
  induction conditions generalizing t with
  | nil => simp [evaluateRule, evaluatedBy, pure, Except.pure]
  | cons condition conditions ih =>
    rw [evaluatedBy, measurable_cons, ← evaluateCondition_isOk_iff toLowercase (clock t).hour,
      evaluateRule]
    rcases evaluateCondition toLowercase (clock t).hour condition transaction with e | _ | _
    · simp [bind, Except.bind]
    · simp [bind, Except.bind, pure, Except.pure]
    · simpa [bind, Except.bind] using ih (t + 1)

/-! ### Rules -/

variable {now t : ℕ} {rule : FilterRule} {rules : List FilterRule} {tx : FilteredTransaction}
  {engine : FilterEngine}

@[simp] theorem transaction_addTag (tag : String) : (tx.addTag tag).transaction = tx.transaction := by
  simp only [FilteredTransaction.addTag]
  split <;> rfl

@[simp] theorem transaction_foldl_addTag (tags : List String) :
    (tags.foldl .addTag tx).transaction = tx.transaction := by
  induction tags generalizing tx with
  | nil => rfl
  | cons tag tags ih => rw [List.foldl_cons, ih, transaction_addTag]

@[simp] theorem transaction_addMatchedRule (ruleName : String) :
    (tx.addMatchedRule ruleName).transaction = tx.transaction := by
  simp only [FilteredTransaction.addMatchedRule]
  split <;> rfl

/-- A call ends with one count. -/
theorem finish_ok (engine : FilterEngine) (fate : Fate) (outcome : Option FilteredTransaction)
    (h : engine.stats.counted + 1 < 2 ^ 64) :
    ∃ engine', engine.finish fate outcome = (.ok outcome, engine') ∧
      FilterStats.Counted fate engine.stats engine'.stats := by
  obtain ⟨stats, hcount, hcounted⟩ := FilterStats.count_ok fate h
  exact ⟨{ engine with stats }, by simp only [finish, hcount], hcounted⟩

/-- **What an action does**: the transaction goes on, and nothing is counted, or it is
dropped, and that is counted once. -/
theorem applyAction_cases (now : ℕ) (rule : FilterRule) (tx : FilteredTransaction)
    (h : engine.stats.counted + 1 < 2 ^ 64) :
    (∃ tx' engine', engine.applyAction now rule tx = (.ok (some tx'), engine') ∧
        tx'.transaction = tx.transaction ∧ engine'.stats = engine.stats) ∨
      ∃ fate engine', engine.applyAction now rule tx = (.ok none, engine') ∧
        FilterStats.Counted fate engine.stats engine'.stats := by
  unfold applyAction
  split
  · exact .inl ⟨_, _, rfl, rfl, rfl⟩
  · exact .inr ⟨.rejected, finish_ok engine .rejected none h⟩
  · exact .inl ⟨_, _, rfl, transaction_foldl_addTag _, rfl⟩
  · exact .inl ⟨_, _, rfl, rfl, rfl⟩
  · split
    · exact .inl ⟨_, _, rfl, rfl, rfl⟩
    · rename_i limiter _
      rcases limiter.allow now with ⟨_ | _, limiter⟩
      · exact .inr ⟨.rateLimited, finish_ok _ .rateLimited none h⟩
      · exact .inl ⟨_, _, rfl, rfl, rfl⟩

/-- How the loop may end: at a condition that cannot be evaluated, with nothing counted; with
the transaction past all rules, and nothing counted; or with the transaction dropped, and
that counted once. -/
def EndsWell (transaction : ParsedTransaction) (conditions : List FilterCondition) (stats : FilterStats) :
    Result (Option FilteredTransaction) × FilterEngine → Prop
  | (.error _, engine) => ¬ Measurable transaction conditions ∧ engine.stats = stats
  | (.ok (some _), engine) => Measurable transaction conditions ∧ engine.stats = stats
  | (.ok none, engine) =>
    Measurable transaction conditions ∧ ∃ fate, FilterStats.Counted fate stats engine.stats

/-- Conditions before these that can be evaluated make no difference. -/
theorem EndsWell.append {conditions conditions' : List FilterCondition} {stats : FilterStats}
    {r : Result (Option FilteredTransaction) × FilterEngine} (hm : Measurable transaction conditions)
    (hr : EndsWell transaction conditions' stats r) :
    EndsWell transaction (conditions ++ conditions') stats r := by
  rcases r with ⟨e | _ | tx, engine⟩
  · exact ⟨fun h => hr.1 (measurable_append.mp h).2, hr.2⟩
  · exact ⟨measurable_append.mpr ⟨hm, hr.1⟩, hr.2⟩
  · exact ⟨measurable_append.mpr ⟨hm, hr.1⟩, hr.2⟩

variable (toLowercase clock) in
/-- **What the loop does.** -/
theorem applyRules_spec (t : ℕ) (rules : List FilterRule) (tx : FilteredTransaction) (engine : FilterEngine)
    (h : engine.stats.counted + 1 < 2 ^ 64) :
    EndsWell tx.transaction (evaluatedByRules toLowercase clock t rules tx engine) engine.stats
      (applyRules toLowercase clock t rules tx engine) := by
  induction rules generalizing t tx engine with
  | nil => exact ⟨measurable_nil, rfl⟩
  | cons rule rules ih =>
    rw [applyRules, evaluatedByRules]
    split
    · have hrule := evaluateRule_isOk_iff toLowercase clock t rule.conditions tx.transaction
      rcases hr : evaluateRule toLowercase clock t rule.conditions tx.transaction with e | _ | _
      · simp only [hr, reduceCtorEq, exists_false, false_iff] at hrule
        exact ⟨fun hm => hrule (measurable_append.mp hm).1, rfl⟩
      · exact (ih _ _ _ h).append (hrule.mp ⟨false, hr⟩)
      · have hm := hrule.mp ⟨true, hr⟩
        rcases applyAction_cases (clock (t + rule.conditions.length)).instant rule
          (tx.addMatchedRule rule.name) h with ⟨tx', engine', hact, htx, hstats⟩ | ⟨fate, engine', hact, hc⟩
        · simp only [hact]
          have hnext := ih (t + rule.conditions.length + 1) tx' engine' (hstats ▸ h)
          rw [htx, transaction_addMatchedRule, hstats] at hnext
          exact hnext.append hm
        · simp only [hact]
          exact ⟨measurable_append.mpr ⟨hm, measurable_nil⟩, fate, hc⟩
    · exact ih _ _ _ h

end FilterEngine

end Botmev.Mempool
