import Botmev.Core.DecisionPath
import Botmev.Library.Components

/-!
# The manager of the decision path

`DecisionPathManager` (`mev-core/src/decision_path_manager.rs`): it counts the transactions that it is given
and hands them to the decision path, counts the results that come out of it, sums them up, and reports from
time to time. It is one component, the decision path with its workers the other.

A round of the reporter begins when its interval has passed; what it reads of the clock is the surroundings.
What is only logged, and what the metrics observe of a result, is left out.
-/

namespace Botmev.Core

open Botmev.Rust Botmev.Library Botmev.Core.DecisionPath

/-- `DecisionPathManagerStats`. -/
structure DecisionPathManagerStats where
  mempoolTransactionsReceived : U64
  decisionPathTransactionsSent : U64
  decisionResultsProcessed : U64
  opportunitiesFound : U64
  backpressureEvents : U64
  averageEndToEndLatencyMs : Binary64
  throughputTps : Binary64
  uptimeSeconds : U64

/-- `DecisionPathManagerStats::default`. -/
def DecisionPathManagerStats.default : DecisionPathManagerStats := ⟨0, 0, 0, 0, 0, .finite 0, .finite 0, 0⟩

namespace DecisionPathManager

/-- `mempool_rx_count`, `decision_tx_count` and `results_count`. -/
inductive Counter where
  | mempoolRx | decisionTx | results
  deriving DecidableEq, Repr

/-- What the reporter reads of the clock. -/
structure Times where
  /-- `current_time.duration_since(last_time).as_secs_f64()`. -/
  elapsed : Binary64
  /-- `current_time.duration_since(start_time).as_secs()`. -/
  uptime : U64

/-- What the reporter writes. -/
structure StatsReport where
  mempool : U64
  decision : U64
  results : U64
  mempoolTps : Binary64
  uptime : U64

/-- The atomic operations. -/
inductive ManagerOp where
  /-- `counter.fetch_add(1, Ordering::Relaxed)`. -/
  | fetchAdd (counter : Counter)
  /-- `counter.load(Ordering::Relaxed)`. -/
  | load (counter : Counter)
  /-- `shutdown.load(Ordering::Relaxed)`. -/
  | loadShutdown
  /-- `shutdown.store(true, Ordering::Relaxed)`. -/
  | storeShutdown
  /-- What `process_decision_result` does under the lock of the statistics. -/
  | updateStats (result : DecisionResult)
  /-- `Instant::now()`. -/
  | now
  /-- What the reporter does under the lock of the statistics. -/
  | writeReport (report : StatsReport)

/-- The atomic operations, with what each answers. -/
@[reducible] def ManagerI : Interface where
  Op := ManagerOp
  Reply
    | .fetchAdd _ | .load _ => U64
    | .loadShutdown => Bool
    | .updateStats _ => Result Unit
    | .now => Times
    | .storeShutdown | .writeReport _ => Unit

end DecisionPathManager

open DecisionPathManager

/-- What happens to the statistics when a result is processed. -/
def DecisionPathManagerStats.update (stats : DecisionPathManagerStats) (result : DecisionResult) :
    Result Unit × DecisionPathManagerStats :=
  match Uint.add stats.decisionResultsProcessed 1 with
  | .error e => (.error e, stats)
  | .ok decisionResultsProcessed =>
    match Uint.add stats.opportunitiesFound (BitVec.ofNat 64 result.opportunities.length) with
    | .error e => (.error e, { stats with decisionResultsProcessed })
    | .ok opportunitiesFound =>
      let count := Binary64.ofNat decisionResultsProcessed.toNat
      let before := stats.averageEndToEndLatencyMs.mul (count.add (Binary64.ofNat 1).neg)
      let averageEndToEndLatencyMs := (before.add result.processingTimeMs).div count
      (.ok (), { stats with decisionResultsProcessed, opportunitiesFound, averageEndToEndLatencyMs })

/-- "Update stats", with a report. -/
def DecisionPathManagerStats.write (stats : DecisionPathManagerStats) (report : StatsReport) :
    DecisionPathManagerStats :=
  { stats with
    mempoolTransactionsReceived := report.mempool
    decisionPathTransactionsSent := report.decision
    decisionResultsProcessed := report.results
    throughputTps := report.mempoolTps
    uptimeSeconds := report.uptime }

/-- The manager, while it runs. -/
structure DecisionPathManager where
  stats : DecisionPathManagerStats
  shutdown : Bool
  count : Counter → U64
  /-- What the reporter reads of the clock from now on. -/
  times : ℕ → Times

namespace DecisionPathManager

/-- `DecisionPathManager::new`. -/
def new (times : ℕ → Times) : DecisionPathManager := ⟨.default, false, fun _ => 0, times⟩

/-- What the operations do. -/
def managerHandler : Handler ManagerI DecisionPathManager
  | .fetchAdd counter, manager =>
    (manager.count counter, { manager with count := Function.update manager.count counter (manager.count counter + 1) })
  | .load counter, manager => (manager.count counter, manager)
  | .loadShutdown, manager => (manager.shutdown, manager)
  | .storeShutdown, manager => ((), { manager with shutdown := true })
  | .updateStats result, manager =>
    ((manager.stats.update result).1, { manager with stats := (manager.stats.update result).2 })
  | .now, manager => (manager.times 0, { manager with times := fun n => manager.times (n + 1) })
  | .writeReport report, manager => ((), { manager with stats := manager.stats.write report })

/-- The operations of the decision path and of its manager. -/
abbrev PipelineI : Interface := PathI.sum ManagerI

/-- What they do. -/
abbrev pipelineHandler (config : DecisionPathConfig) : Handler PipelineI (DecisionPath × DecisionPathManager) :=
  (pathHandler config).sum managerHandler

/-! ### The functions -/

/-- What is left of a function of the pipeline. -/
abbrev PipelineM := Async PipelineI Failure

/-- Ask for an operation of the decision path. -/
def askPath (op : PathOp) : PipelineM (PathI.Reply op) := Async.request (I := PipelineI) (.inl op)

/-- Ask for an operation of the manager. -/
def ask (op : ManagerOp) : PipelineM (ManagerI.Reply op) := Async.request (I := PipelineI) (.inr op)

/-- `process_transaction`. -/
def processTransaction (transaction : ParsedTransaction) : PipelineM Unit := do
  let _ ← ask (.fetchAdd .mempoolRx)
  match ← (DecisionPath.processTransaction transaction).inl.attempt with
  | .ok () => do
    let _ ← ask (.fetchAdd .decisionTx)
    pure ()
  | .error (.err e) => do
    let () ← askPath (.incTransactionsDropped "decision_path_error" "bridge")
    Async.done (.error (.err e))
  | .error (.panic message) => Async.done (.error (.panic message))

/-- The first rounds of the task of `start_results_processor`. -/
def resultsProcessor : ℕ → PipelineM Unit
  | 0 => pure ()
  | rounds + 1 => do
    let shutdown ← ask .loadShutdown
    if shutdown then pure ()
    else
      match ← askPath (.recvTimeout .output) with
      | .ok result => do
        let _ ← ask (.fetchAdd .results)
        let updated ← ask (.updateStats result)
        let () ← Async.done updated
        resultsProcessor rounds
      | .error .timeout => resultsProcessor rounds
      | .error .disconnected => pure ()

/-- What a round of the reporter does with the counts that it has read. -/
def report (lastMempool lastResults mempool decision results : U64) (times : Times) : PipelineM Unit :=
  if (Binary64.finite 0).lt times.elapsed then do
    let received ← Async.done (Uint.sub mempool lastMempool)
    -- their rate is only logged
    let _ ← Async.done (Uint.sub results lastResults)
    let mempoolTps := (Binary64.ofNat received.toNat).div times.elapsed
    ask (.writeReport ⟨mempool, decision, results, mempoolTps, times.uptime⟩)
  else pure ()

/-- The first rounds of the task of `start_stats_reporting`. -/
def statsReporter : ℕ → U64 → U64 → PipelineM Unit
  | 0, _, _ => pure ()
  | rounds + 1, lastMempool, lastResults => do
    let shutdown ← ask .loadShutdown
    if shutdown then pure ()
    else
      let mempool ← ask (.load .mempoolRx)
      let decision ← ask (.load .decisionTx)
      let results ← ask (.load .results)
      let times ← ask .now
      let () ← report lastMempool lastResults mempool decision results times
      statsReporter rounds mempool results

/-- `shutdown`. -/
def shutDown : PipelineM Unit := do
  let () ← ask .storeShutdown
  DecisionPath.shutDown.inl

/-! ### Tasks -/

/-- What runs in parallel. -/
inductive ManagerTask where
  /-- A call of `process_transaction`. -/
  | processTransaction (transaction : ParsedTransaction)
  /-- The first rounds of a worker of a stage of the decision path. -/
  | filterWorker (rounds : ℕ)
  | simulationWorker (rounds : ℕ)
  | bundleWorker (rounds : ℕ)
  /-- The first rounds of the tasks of the manager. -/
  | resultsProcessor (rounds : ℕ)
  | statsReporter (rounds : ℕ)
  /-- A call of `shutdown`. -/
  | shutdown

/-- A task that has not begun. The engine that `new` makes for the decision path has no strategies. -/
def ManagerTask.task (config : DecisionPathConfig) : ManagerTask → PipelineM Unit
  | .processTransaction transaction => DecisionPathManager.processTransaction transaction
  | .filterWorker rounds => (DecisionPath.filterWorker rounds).inl
  | .simulationWorker rounds => (DecisionPath.simulationWorker 0 rounds).inl
  | .bundleWorker rounds => (DecisionPath.bundleWorker config rounds).inl
  | .resultsProcessor rounds => DecisionPathManager.resultsProcessor rounds
  | .statsReporter rounds => DecisionPathManager.statsReporter rounds 0 0
  | .shutdown => shutDown

/-- The pipeline with the tasks that run on it. -/
abbrev PipelinePool (ι : Type) := Pool PipelineI Failure Unit (DecisionPath × DecisionPathManager) ι

/-- The tasks on a new pipeline. -/
def started {ι : Type} (config : DecisionPathConfig) (surroundings : ℕ → Moment) (times : ℕ → Times)
    (tasks : ι → ManagerTask) : PipelinePool ι :=
  .start (DecisionPath.new surroundings, new times) fun i => (tasks i).task config

end DecisionPathManager

end Botmev.Core
