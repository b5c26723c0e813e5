import Botmev.Core.Metrics
import Botmev.Core.Types
import Botmev.Library.Interleaving
import Botmev.Rust.Str

/-!
# The decision path

`DecisionPath` (`mev-core/src/decision_path.rs`): a pipeline of three stages, each with its workers.
A submitted transaction waits for the filter, what is interesting for the simulation, what is
simulated for the bundle stage, and the decision on it for whoever asks for results. The four
channels are bounded, and nobody waits to send: what finds a channel full is given up.

The channels are never disconnected, as the path holds both ends of each. A channel without room
takes what is sent only while a receiver waits for it. That, the clock and the strategies are the
surroundings. A worker loops until it is shut down; it is modelled by its first rounds, of which
there may be any number. What is observed by the metrics is left out, save the drops they count.
-/

namespace Botmev.Core

open Botmev.Rust Botmev.Library

/-- The part of the configuration that the stages read. -/
structure DecisionPathConfig where
  filterInput : U64
  simulationInput : U64
  bundleInput : U64
  output : U64
  totalDecisionLoopMs : U64

namespace DecisionPath

/-! ### What is sent -/

/-- The channels, by what receives from them. -/
inductive Stage where
  | filter | simulation | bundle | output
  deriving DecidableEq, Repr

/-- `FilteredTransaction`. -/
structure FilteredTransaction where
  transaction : ParsedTransaction
  filterTimeMs : Binary64

/-- `SimulationResult`. -/
structure SimulationResult where
  transaction : ParsedTransaction
  opportunities : List Opportunity
  simulationTimeMs : Binary64
  filterTimeMs : Binary64

/-- `StageTimings`. -/
structure StageTimings where
  filterMs : Binary64
  simulationMs : Binary64
  bundleMs : Binary64
  totalMs : Binary64

/-- `DecisionResult`. -/
structure DecisionResult where
  transactionId : String
  opportunities : List Opportunity
  processingTimeMs : Binary64
  stageTimings : StageTimings
  success : Bool
  error : Option String

/-- What a channel holds. -/
@[reducible] def Stage.Item : Stage → Type
  | .filter => ParsedTransaction
  | .simulation => FilteredTransaction
  | .bundle => SimulationResult
  | .output => DecisionResult

/-- The size of a channel. -/
def capacity (config : DecisionPathConfig) : Stage → U64
  | .filter => config.filterInput
  | .simulation => config.simulationInput
  | .bundle => config.bundleInput
  | .output => config.output

/-- `StrategyResult`. -/
inductive StrategyResult where
  | opportunity (opportunity : Opportunity)
  | noOpportunity
  | error (message : String)

/-! ### The operations -/

/-- What `try_send` gives. -/
inductive SendResult where
  | sent | full | disconnected
  deriving DecidableEq, Repr

/-- `RecvTimeoutError`. -/
inductive RecvTimeoutError where
  | timeout | disconnected
  deriving DecidableEq, Repr

/-- The atomic operations. -/
inductive PathOp where
  /-- `shutdown.load(Ordering::Relaxed)`. -/
  | loadShutdown
  /-- `shutdown.store(true, Ordering::Relaxed)`. -/
  | storeShutdown
  /-- `tx.try_send(item)`. -/
  | trySend (stage : Stage) (item : stage.Item)
  /-- `rx.recv_timeout(Duration::from_millis(100))`. -/
  | recvTimeout (stage : Stage)
  /-- `strategy.is_enabled()`. -/
  | isEnabled (strategy : ℕ)
  /-- `strategy.evaluate_transaction(tx).await`. -/
  | evaluate (strategy : ℕ) (transaction : ParsedTransaction)
  /-- `timer.elapsed_ms()`. -/
  | elapsedMs
  /-- `metrics.inc_transactions_dropped(reason, queue_type)`. -/
  | incTransactionsDropped (reason queueType : String)
  /-- `metrics.record_decision_latency(duration, strategy, outcome)`. -/
  | recordDecisionLatency (durationMs : U64) (strategy outcome : String)
  /-- The update under the lock of the statistics. -/
  | updateStats (opportunities : ℕ) (totalTimeMs : Binary64)
  /-- `latency_histogram.record(latency_ms)`. -/
  | recordLatency (latencyMs : Binary64)
  /-- `processed_count.fetch_add(1, Ordering::Relaxed)`. -/
  | addProcessed

/-- The atomic operations, with what each answers. -/
@[reducible] def PathI : Interface where
  Op := PathOp
  Reply
    | .loadShutdown | .isEnabled _ => Bool
    | .trySend _ _ => SendResult
    | .recvTimeout stage => Except RecvTimeoutError stage.Item
    | .evaluate _ _ => Except String StrategyResult
    | .elapsedMs => Binary64
    | .updateStats _ _ | .recordLatency _ => Result Unit
    | .storeShutdown | .incTransactionsDropped _ _ | .recordDecisionLatency _ _ _ | .addProcessed => Unit

/-- What the surroundings answer at some time. -/
structure Moment where
  /-- Whether a receiver waits at a channel without room. -/
  receiverWaits : Bool
  elapsedMs : Binary64
  isEnabled : ℕ → Bool
  evaluate : ℕ → ParsedTransaction → Except String StrategyResult

/-- What the bundle stage writes of the statistics. -/
structure Stats where
  transactionsProcessed : U64
  opportunitiesFound : U64
  averageLatencyMs : Binary64

/-- What happens under the lock of the statistics. -/
def Stats.update (stats : Stats) (opportunities : ℕ) (totalTimeMs : Binary64) : Result Unit × Stats :=
  match Uint.add stats.transactionsProcessed 1 with
  | .error e => (.error e, stats)
  | .ok transactionsProcessed =>
    match Uint.add stats.opportunitiesFound (BitVec.ofNat 64 opportunities) with
    | .error e => (.error e, { stats with transactionsProcessed })
    | .ok opportunitiesFound =>
      let count := Binary64.ofNat transactionsProcessed.toNat
      let before := stats.averageLatencyMs.mul (count.add (Binary64.ofNat 1).neg)
      let averageLatencyMs := (before.add totalTimeMs).div count
      (.ok (), { transactionsProcessed, opportunitiesFound, averageLatencyMs })

end DecisionPath

open DecisionPath

/-- The pipeline, while it runs. -/
structure DecisionPath where
  queue : (stage : Stage) → List stage.Item
  latencyHistogram : LatencyHistogram
  stats : DecisionPath.Stats
  shutdown : Bool
  processedCount : U64
  /-- The counters of dropped transactions, by their labels. -/
  transactionsDropped : String × String → U64
  /-- What the surroundings answer from now on. -/
  surroundings : ℕ → Moment

namespace DecisionPath

/-- `DecisionPath::new`. -/
def new (surroundings : ℕ → Moment) : DecisionPath where
  queue _ := []
  latencyHistogram := LatencyHistogram.new 1000
  stats := ⟨0, 0, .finite 0⟩
  shutdown := false
  processedCount := 0
  transactionsDropped _ := 0
  surroundings := surroundings

/-- After the surroundings were asked. -/
def tick (path : DecisionPath) : DecisionPath := { path with surroundings := fun n => path.surroundings (n + 1) }

/-- With another queue in a channel. -/
def setQueue (path : DecisionPath) (stage : Stage) (items : List stage.Item) : DecisionPath :=
  { path with queue := Function.update path.queue stage items }

/-- Whether a channel takes an item. -/
def accepts (config : DecisionPathConfig) (stage : Stage) (path : DecisionPath) : Bool :=
  if capacity config stage = 0 then (path.surroundings 0).receiverWaits
  else decide ((path.queue stage).length < (capacity config stage).toNat)

/-- What the operations do. A receiver waits for the first item, and if there is none, for as long as
it takes. -/
def pathHandler (config : DecisionPathConfig) : Handler PathI DecisionPath
  | .loadShutdown, path => (path.shutdown, path)
  | .storeShutdown, path => ((), { path with shutdown := true })
  | .trySend stage item, path =>
    if accepts config stage path then (.sent, (path.setQueue stage (path.queue stage ++ [item])).tick)
    else (.full, path.tick)
  | .recvTimeout stage, path =>
    match path.queue stage with
    | [] => (.error .timeout, path)
    | item :: items => (.ok item, path.setQueue stage items)
  | .isEnabled strategy, path => ((path.surroundings 0).isEnabled strategy, path.tick)
  | .evaluate strategy transaction, path => ((path.surroundings 0).evaluate strategy transaction, path.tick)
  | .elapsedMs, path => ((path.surroundings 0).elapsedMs, path.tick)
  | .incTransactionsDropped reason queueType, path =>
    let dropped := path.transactionsDropped (reason, queueType) + 1
    ((), { path with transactionsDropped := Function.update path.transactionsDropped (reason, queueType) dropped })
  | .recordDecisionLatency _ _ _, path => ((), path)
  | .updateStats opportunities totalTimeMs, path =>
    let (result, stats) := path.stats.update opportunities totalTimeMs
    (result, { path with stats })
  | .recordLatency latencyMs, path =>
    let (result, latencyHistogram) := path.latencyHistogram.record latencyMs
    (result, { path with latencyHistogram })
  | .addProcessed, path => ((), { path with processedCount := path.processedCount + 1 })

/-! ### The functions -/

/-- What is left of a function of the pipeline. -/
abbrev PathM := Async PathI Failure

/-- `process_transaction`. -/
def processTransaction (transaction : ParsedTransaction) : PathM Unit := do
  match ← Async.request (I := PathI) (.trySend .filter transaction) with
  | .sent => pure ()
  | .full => Async.request (I := PathI) (.incTransactionsDropped "queue_full" "filter")
  | .disconnected =>
    Async.done (.error (.err "Failed to send transaction: sending on a disconnected channel"))

/-- `shutdown`. -/
def shutDown : PathM Unit := Async.request (I := PathI) .storeShutdown

/-- A send to the next stage, and what is done if it fails. -/
def sendOn (stage : Stage) (item : stage.Item) (failed : PathM Unit) : PathM Unit := do
  match ← Async.request (I := PathI) (.trySend stage item) with
  | .sent => pure ()
  | .full | .disconnected => failed

/-- The first rounds of the loop of a worker. -/
def worker (stage : Stage) (body : stage.Item → PathM Unit) : ℕ → PathM Unit
  | 0 => pure ()
  | rounds + 1 => do
    let shutdown ← Async.request (I := PathI) .loadShutdown
    if shutdown then pure ()
    else
      match ← Async.request (I := PathI) (.recvTimeout stage) with
      | .ok item => do
        body item
        worker stage body rounds
      | .error .timeout => worker stage body rounds
      | .error .disconnected => pure ()

/-- `fast_filter`. -/
def fastFilter (transaction : ParsedTransaction) : Bool :=
  match transaction.targetType with
  | .uniswapV2 | .uniswapV3 | .sushiSwap | .curve | .balancer => true
  | .orderBook =>
    match parseUint 128 transaction.transaction.value with
    | some value => decide (1000000000000000000 < value)
    | none => false
  | .unknown => decide (10 < transaction.transaction.input.utf8ByteSize)

/-- A round of a filter worker. -/
def filterBody (transaction : ParsedTransaction) : PathM Unit := do
  let isInteresting := fastFilter transaction
  let filterTimeMs ← Async.request (I := PathI) .elapsedMs
  if isInteresting then do
    sendOn .simulation ⟨transaction, filterTimeMs⟩
      (Async.request (I := PathI) (.incTransactionsDropped "send_failed" "simulation"))
    Async.request (I := PathI) (.recordDecisionLatency (filterTimeMs.toUint 64) "filter" "interesting")
  else Async.request (I := PathI) (.recordDecisionLatency (filterTimeMs.toUint 64) "filter" "filtered_out")

/-- The worker of the filter stage. -/
def filterWorker : ℕ → PathM Unit := worker .filter filterBody

/-- The loop of `MockStrategyEngine::evaluate_transaction`. -/
def evaluateAll (transaction : ParsedTransaction) : List ℕ → List Opportunity → PathM (List Opportunity)
  | [], opportunities => pure opportunities
  | strategy :: strategies, opportunities => do
    let enabled ← Async.request (I := PathI) (.isEnabled strategy)
    if !enabled then evaluateAll transaction strategies opportunities
    else
      match ← Async.request (I := PathI) (.evaluate strategy transaction) with
      | .ok (.opportunity opportunity) => evaluateAll transaction strategies (opportunities ++ [opportunity])
      | .ok .noOpportunity | .ok (.error _) | .error _ => evaluateAll transaction strategies opportunities

/-- `MockStrategyEngine::evaluate_transaction`, with so many strategies. -/
def evaluateTransaction (strategies : ℕ) (transaction : ParsedTransaction) : PathM (List Opportunity) :=
  evaluateAll transaction (List.range strategies) []

/-- A round of a simulation worker. -/
def simulationBody (strategies : ℕ) (filtered : FilteredTransaction) : PathM Unit := do
  let opportunities ← evaluateTransaction strategies filtered.transaction
  let simulationTimeMs ← Async.request (I := PathI) .elapsedMs
  sendOn .bundle ⟨filtered.transaction, opportunities, simulationTimeMs, filtered.filterTimeMs⟩
    (Async.request (I := PathI) (.incTransactionsDropped "send_failed" "bundle"))
  Async.request (I := PathI) (.recordDecisionLatency (simulationTimeMs.toUint 64) "simulation" "completed")

/-- The worker of the simulation stage. -/
def simulationWorker (strategies : ℕ) : ℕ → PathM Unit := worker .simulation (simulationBody strategies)

/-- The result of a decision. -/
def decisionResult (result : SimulationResult) (bundleTimeMs totalTimeMs : Binary64) : DecisionResult where
  transactionId := result.transaction.transaction.hash
  opportunities := result.opportunities
  processingTimeMs := totalTimeMs
  stageTimings := ⟨result.filterTimeMs, result.simulationTimeMs, bundleTimeMs, totalTimeMs⟩
  success := true
  error := none

/-- What is recorded of a decision. -/
def recordDecision (config : DecisionPathConfig) (opportunities : ℕ) (bundleTimeMs totalTimeMs : Binary64) :
    PathM Unit := do
  let updated ← Async.request (I := PathI) (.updateStats opportunities totalTimeMs)
  let () ← Async.done updated
  let recorded ← Async.request (I := PathI) (.recordLatency totalTimeMs)
  let () ← Async.done recorded
  let () ← Async.request (I := PathI) .addProcessed
  let () ← Async.request (I := PathI) (.recordDecisionLatency (bundleTimeMs.toUint 64) "bundle" "completed")
  let outcome := if totalTimeMs.le (.ofNat config.totalDecisionLoopMs.toNat) then "within_target" else "exceeded_target"
  Async.request (I := PathI) (.recordDecisionLatency (totalTimeMs.toUint 64) "total_decision_loop" outcome)

/-- A round of a bundle worker. -/
def bundleBody (config : DecisionPathConfig) (result : SimulationResult) : PathM Unit := do
  let bundleTimeMs ← Async.request (I := PathI) .elapsedMs
  let totalTimeMs := (result.filterTimeMs.add result.simulationTimeMs).add bundleTimeMs
  -- a failure is logged and not counted
  sendOn .output (decisionResult result bundleTimeMs totalTimeMs) (pure ())
  recordDecision config result.opportunities.length bundleTimeMs totalTimeMs

/-- The worker of the bundle stage. -/
def bundleWorker (config : DecisionPathConfig) : ℕ → PathM Unit := worker .bundle (bundleBody config)

/-- `rx.recv_timeout(timeout)`, for a receiver of `get_results`. -/
def receiveResult : PathM Unit := do
  let _ ← Async.request (I := PathI) (.recvTimeout .output)

/-! ### Tasks -/

/-- What runs in parallel. -/
inductive PathTask where
  /-- A call of `process_transaction`. -/
  | submit (transaction : ParsedTransaction)
  /-- The first rounds of a worker of a stage. -/
  | filterWorker (rounds : ℕ)
  | simulationWorker (rounds : ℕ)
  | bundleWorker (rounds : ℕ)
  /-- To ask for a result. -/
  | receive
  /-- A call of `shutdown`. -/
  | shutdown

/-- A task that has not begun. -/
def PathTask.task (config : DecisionPathConfig) (strategies : ℕ) : PathTask → PathM Unit
  | .submit transaction => processTransaction transaction
  | .filterWorker rounds => DecisionPath.filterWorker rounds
  | .simulationWorker rounds => DecisionPath.simulationWorker strategies rounds
  | .bundleWorker rounds => DecisionPath.bundleWorker config rounds
  | .receive => receiveResult
  | .shutdown => shutDown

/-- The pipeline with the tasks that run on it. -/
abbrev PathPool (ι : Type) := Pool PathI Failure Unit DecisionPath ι

end DecisionPath

end Botmev.Core
