import Botmev.Library.Table
import Botmev.Strategies.Types

/-!
# The strategy engine

`StrategyEngine` (`mev-strategies/src/strategy_engine.rs`) evaluates a transaction with every
strategy that is registered and enabled, one after the other or each in a task of its own, and
keeps the opportunities that are found.

A strategy is what its `Strategy` trait says it is: a name, a configuration, and an evaluation
that takes some time, if it ends at all, and then gives a result or fails. The order in which a
hash map is iterated is that of its entries here, or a parameter where it is written in between.
A call that waits forever returns nothing (`none`). Durations that go into the statistics,
metrics and the log are left out.
-/

namespace Botmev.Strategies

open Botmev.Rust Botmev.Library Botmev.Core

/-- "MEV opportunity detected by a strategy", with what the engine reads of it. -/
structure DetectedOpportunity extends Core.Opportunity where
  /-- `id`. -/
  id : String
  /-- `expiry_timestamp`. -/
  expiryTimestamp : U64
  deriving DecidableEq, Repr

/-- "Strategy evaluation result". -/
inductive StrategyResult where
  /-- `Opportunity(opportunity)`. -/
  | opportunity (opportunity : DetectedOpportunity)
  /-- `BundlePlan(_)`, which the engine does not look at. -/
  | bundlePlan
  /-- `NoOpportunity`. -/
  | noOpportunity
  /-- `Error(message)`. -/
  | error (message : String)
  deriving DecidableEq, Repr

/-- An evaluation, by itself. -/
structure Evaluation where
  /-- How long it takes, in milliseconds, if it ends. -/
  durationMs : Option ℕ
  /-- What it ends with. -/
  result : Result StrategyResult

/-- `time::timeout(Duration::from_millis(timeout_ms), evaluation)`. -/
def Evaluation.withTimeout (evaluation : Evaluation) (timeoutMs : U64) : Option (Result StrategyResult) :=
  match evaluation.durationMs with
  | some durationMs => if durationMs ≤ timeoutMs.toNat then some evaluation.result else none
  | none => none

/-- "Core strategy trait that all MEV strategies must implement". -/
structure Strategy where
  /-- `name()`. -/
  name : String
  /-- `config()`. -/
  config : StrategyConfig
  /-- `evaluate_transaction(tx)`. -/
  evaluateTransaction : ParsedTransaction → Evaluation

/-- "Strategy engine configuration". -/
structure StrategyEngineConfig where
  /-- `max_concurrent_evaluations`. -/
  maxConcurrentEvaluations : U64
  /-- `evaluation_timeout_ms`. -/
  evaluationTimeoutMs : U64
  /-- `opportunity_cache_size`. -/
  opportunityCacheSize : U64
  /-- `enable_parallel_evaluation`. -/
  enableParallelEvaluation : Bool

/-- `StrategyEngineConfig::default()`. -/
def StrategyEngineConfig.default : StrategyEngineConfig where
  maxConcurrentEvaluations := 10
  evaluationTimeoutMs := 50
  opportunityCacheSize := 1000
  enableParallelEvaluation := true

/-- "Strategy engine statistics". -/
structure StrategyEngineStats where
  /-- `transactions_evaluated`. -/
  transactionsEvaluated : U64
  /-- `opportunities_found`. -/
  opportunitiesFound : U64

/-- "Strategy engine that coordinates multiple MEV strategies". -/
structure StrategyEngine where
  /-- `config`. -/
  config : StrategyEngineConfig
  /-- `strategies`. -/
  strategies : Table String Strategy
  /-- `opportunities`. -/
  opportunities : Table String DetectedOpportunity
  /-- `stats`. -/
  stats : StrategyEngineStats

/-- `Semaphore::MAX_PERMITS`. -/
def maxPermits : ℕ := 2 ^ 61 - 1

namespace StrategyEngine

/-- `StrategyEngine::new(config, metrics)`. -/
def new (config : StrategyEngineConfig) : StrategyEngine where
  config := config
  strategies := ∅
  opportunities := ∅
  stats := ⟨0, 0⟩

variable (engine : StrategyEngine)

/-- "Register a strategy with the engine". -/
def registerStrategy (strategy : Strategy) : StrategyEngine :=
  { engine with strategies := engine.strategies.insert strategy.name strategy }

/-- "Get enabled strategies". -/
def enabledStrategies : List Strategy :=
  (engine.strategies.entries.map Sigma.snd).filter fun strategy => strategy.config.enabled

/-- What a task of `evaluate_strategies_parallel` gives: "In real implementation, call
strategy.evaluate_transaction(&tx_clone). For now, return no opportunity". -/
def evaluationTask : Option DetectedOpportunity :=
  match (Evaluation.mk (some 0) (.ok .noOpportunity)).withTimeout engine.config.evaluationTimeoutMs with
  | some (.ok (.opportunity opportunity)) => some opportunity
  | _ => none

/-- `evaluate_strategies_parallel`. A task gives its permit back when it is done; without any,
the first task is never made. -/
def evaluateStrategiesParallel (strategies : List Strategy) : Option (Result (List DetectedOpportunity)) :=
  if maxPermits < engine.config.maxConcurrentEvaluations.toNat then
    some (.error (.panic "a semaphore may not have more than MAX_PERMITS permits (2305843009213693951)"))
  else do
    let handles ← strategies.mapM fun _ =>
      if engine.config.maxConcurrentEvaluations = 0 then none else some engine.evaluationTask
    pure (.ok (handles.filterMap id))

/-- A round of `evaluate_strategies_sequential`: an opportunity, if one is found. -/
def evaluateStrategy (tx : ParsedTransaction) (strategy : Strategy) : Result (Option DetectedOpportunity) :=
  match (strategy.evaluateTransaction tx).withTimeout engine.config.evaluationTimeoutMs with
  | some (.ok (.opportunity opportunity)) => .ok (some opportunity)
  | some (.error (.panic message)) => .error (.panic message)
  | some (.ok _) | some (.error (.err _)) | none => .ok none

/-- `evaluate_strategies_sequential`. -/
def evaluateStrategiesSequential (strategies : List Strategy) (tx : ParsedTransaction) :
    Result (List DetectedOpportunity) := do
  let found ← strategies.mapM (engine.evaluateStrategy tx)
  pure (found.filterMap id)

/-- `cache_opportunities`, at a time, with the order in which the keys of the cache are
iterated. -/
def cacheOpportunities (keyOrder : List String → List String) (currentTime : U64)
    (opportunities : List DetectedOpportunity) :
    StrategyEngine :=
  let inserted := opportunities.foldl (fun cache opportunity => cache.insert opportunity.id opportunity)
    engine.opportunities
  let unexpired := Table.retain (fun _ opportunity => currentTime < opportunity.expiryTimestamp) inserted
  let excess := Table.size unexpired - engine.config.opportunityCacheSize.toNat
  { engine with opportunities := Table.eraseAll ((keyOrder unexpired.keys).take excess) unexpired }

/-- "Evaluate strategies in parallel or sequentially based on config". -/
def evaluateStrategies (tx : ParsedTransaction) : Option (Result (List DetectedOpportunity)) :=
  if engine.config.enableParallelEvaluation then engine.evaluateStrategiesParallel engine.enabledStrategies
  else some (engine.evaluateStrategiesSequential engine.enabledStrategies tx)

/-- "Cache opportunities" and "Update metrics". -/
def recordOpportunities (keyOrder : List String → List String) (currentTime : U64) :
    Result (List DetectedOpportunity) → Result (List DetectedOpportunity) × StrategyEngine
  | .error failure => (.error failure, engine)
  | .ok opportunities =>
    let engine := engine.cacheOpportunities keyOrder currentTime opportunities
    match Uint.add engine.stats.opportunitiesFound (BitVec.ofNat 64 opportunities.length) with
    | .error failure => (.error failure, engine)
    | .ok opportunitiesFound =>
      (.ok opportunities, { engine with stats := { engine.stats with opportunitiesFound } })

/-- `evaluate_transaction`: what it returns, if it does, and what becomes of the engine. -/
def evaluateTransaction (keyOrder : List String → List String) (currentTime : U64) (tx : ParsedTransaction) :
    Option (Result (List DetectedOpportunity) × StrategyEngine) :=
  match Uint.add engine.stats.transactionsEvaluated 1 with
  | .error failure => some (.error failure, engine)
  | .ok transactionsEvaluated =>
    let counted := { engine with stats := { engine.stats with transactionsEvaluated } }
    if engine.enabledStrategies = [] then some (.ok [], counted)
    else (engine.evaluateStrategies tx).map (counted.recordOpportunities keyOrder currentTime)

end StrategyEngine

end Botmev.Strategies
