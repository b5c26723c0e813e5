import Botmev.Core.DecisionPathManager
import Botmev.Core.DecisionResults
import Mathlib.Algebra.Order.BigOperators.Group.Finset
import Mathlib.Data.Fintype.Card
import Mathlib.Tactic.Linarith

/-!
# What the manager of the decision path counts

The manager and the decision path are two components: what is known of the decision path alone holds of it
under the manager, too. Every transaction that the manager was given is counted, then handed over, then
counted as sent, be it dropped or not; every result is counted and then summed up. The reporter overwrites one
of the numbers that are summed up, but takes no number for smaller than it was before.

## What is proved

* `reach_pathAccounts`: the accounts of the decision path, under its manager.
* `reach_results`: its results, under its manager.
* `Bookkeeping.step`: the numbers of the manager, after one more operation.
* `exists_bookkeeping`: and in every run.
* `manager_exact`: no task of the manager fails, what is counted never runs ahead of what has happened, and
  the two are the same when all tasks have ended.
-/

namespace Botmev.Core.DecisionPathManager

open Botmev.Rust Botmev.Library Pool
open Botmev.Core.DecisionPath hiding started shutDown processTransaction

variable {ι : Type} [DecidableEq ι] {config : DecisionPathConfig} {surroundings : ℕ → Moment}
  {times : ℕ → Times} {tasks : ι → ManagerTask} {p : PipelinePool ι} {G : PipelinePool ι → ι → Prop}

/-! ### The decision path -/

section Widen

variable {P : Protocol PathI} {ends : P.Phase → Result Unit → Prop} {φ : P.Phase}

/-- The processor only receives results of the decision path. -/
theorem resultsProcessor_widen
    (hreceive : ∀ reply, P.legal (.recvTimeout .output) reply → P.move φ (.recvTimeout .output) reply φ)
    (hends : ∀ r, ends φ r) (rounds : ℕ) : (P.widen ManagerI).Follows ends φ (resultsProcessor rounds) := by
  induction rounds with
  | zero => exact hends _
  | succ rounds ih =>
    refine Protocol.follows_inr fun shutdown => ?_
    rcases shutdown with _ | _
    · rintro ((_ | _) | result) hlegal
      · exact ⟨φ, hreceive _ hlegal, ih⟩
      · exact ⟨φ, hreceive _ hlegal, hends _⟩
      · refine ⟨φ, hreceive _ hlegal, Protocol.follows_inr fun _ => Protocol.follows_inr fun updated => ?_⟩
        rcases updated with e | ⟨⟩
        · exact hends _
        · exact ih
    · exact hends _

theorem report_widen (lastMempool lastResults mempool decision results : U64) (times : Times) :
    (P.widen ManagerI).Follows (fun φ' (_ : Result Unit) => φ' = φ) φ
      (report lastMempool lastResults mempool decision results times) := by
  unfold report
  split
  · rcases Uint.sub mempool lastMempool with e | received
    · rfl
    · rcases Uint.sub results lastResults with e | _
      · rfl
      · exact Protocol.follows_inr fun _ => rfl
  · rfl

theorem statsReporter_widen (hends : ∀ r, ends φ r) (rounds : ℕ) (lastMempool lastResults : U64) :
    (P.widen ManagerI).Follows ends φ (statsReporter rounds lastMempool lastResults) := by
  induction rounds generalizing lastMempool lastResults with
  | zero => exact hends _
  | succ rounds ih =>
    refine Protocol.follows_inr fun shutdown => ?_
    rcases shutdown with _ | _
    · refine Protocol.follows_inr fun mempool => Protocol.follows_inr fun decision => Protocol.follows_inr fun results =>
        Protocol.follows_inr fun times => ?_
      refine (report_widen lastMempool lastResults mempool decision results times).bind ?_ ?_
      · rintro _ ⟨⟩ rfl
        exact ih mempool results
      · rintro _ _ rfl
        exact hends _
    · exact hends _

end Widen

/-- **Every task follows the protocol of the decision path**; the channel is never disconnected. -/
theorem ManagerTask.widePath (task : ManagerTask) :
    (pathProtocol.widen ManagerI).Follows EmptyHanded none (task.task config) := by
  cases task with
  | processTransaction transaction =>
    refine Protocol.follows_inr fun _ => ?_
    rintro (_ | _ | _) hconnected
    · exact ⟨none, ⟨rfl, rfl⟩, fun _ _ => ⟨none, rfl, rfl⟩⟩
    · refine ⟨some transaction, ⟨rfl, rfl⟩, ?_⟩
      rintro ⟨⟩ _
      exact ⟨none, ⟨⟨rfl, by decide⟩, rfl⟩, fun _ _ => ⟨none, rfl, rfl⟩⟩
    · exact absurd rfl hconnected
  | filterWorker rounds => exact ((PathTask.filterWorker rounds).follows config 0).widen
  | simulationWorker rounds => exact ((PathTask.simulationWorker rounds).follows config 0).widen
  | bundleWorker rounds => exact ((PathTask.bundleWorker rounds).follows config 0).widen
  | resultsProcessor rounds =>
    refine resultsProcessor_widen (P := pathProtocol) (fun reply _ => ⟨rfl, ?_⟩) (fun _ => rfl) rounds
    rcases reply with _ | _ <;> rfl
  | statsReporter rounds => exact statsReporter_widen (P := pathProtocol) (fun _ => rfl) rounds 0 0
  | shutdown => exact Protocol.follows_inr fun _ => (PathTask.shutdown.follows config 0).widen

/-- **The accounts of the decision path**, whatever its manager does meanwhile. -/
theorem reach_pathAccounts [Fintype ι]
    (hr : Reach (pipelineHandler config) G (started config surroundings times tasks) p) :
    Accounts p.left (ledger p.left).hand ∧ ∀ i r, p.tasks i = .done r → (ledger p.left).hand i = none := by
  have hstart : Accounts (started config surroundings times tasks).left fun _ => none := by
    refine ⟨rfl, ?_, rfl, rfl⟩
    simp [ledger, left, started, Pool.start, Ledger.empty, Ledger.settled, queued, DecisionPath.new, inHand]
  obtain ⟨hands, hI, hfollows⟩ := exists_left_phases hr (fun i => (tasks i).widePath) Accounts hstart
    (fun p _ op _ => connected_reply op p.shared) (fun p hands i op k hand' hI hm => hm.2 ▸ hI.after hm.1)
  rw [← hI.hands]
  refine ⟨hI, fun i r hi => ?_⟩
  have hempty := hfollows i
  rw [hi] at hempty
  exact hempty

/-- The transactions that the manager is given. -/
def givenTo (tasks : ι → ManagerTask) : Set ParsedTransaction :=
  {transaction | ∃ i, tasks i = .processTransaction transaction}

omit [DecidableEq ι] in
/-- **Every task sends what it should.** -/
theorem ManagerTask.genuine (i : ι) :
    ((genuineProtocol (givenTo tasks) (fun _ _ _ => True) 0).widen ManagerI).Follows (fun _ _ => True) ()
      ((tasks i).task config) := by
  cases htask : tasks i with
  | processTransaction transaction =>
    refine Protocol.follows_inr fun _ => ?_
    rintro (_ | _ | _) _
    · exact ⟨(), ⟨i, htask⟩, fun _ _ => ⟨(), rfl, trivial⟩⟩
    · exact ⟨(), ⟨i, htask⟩, fun _ _ => ⟨(), trivial, fun _ _ => ⟨(), rfl, trivial⟩⟩⟩
    · exact ⟨(), ⟨i, htask⟩, fun _ _ => ⟨(), trivial, trivial⟩⟩
  | filterWorker rounds => exact Protocol.Follows.widen (worker_genuine (fun _ h => filterBody_genuine h) rounds)
  | simulationWorker rounds =>
    exact Protocol.Follows.widen (worker_genuine (fun _ h => simulationBody_genuine h) rounds)
  | bundleWorker rounds =>
    exact Protocol.Follows.widen (worker_genuine (fun _ h => bundleBody_genuine config h) rounds)
  | resultsProcessor rounds => exact resultsProcessor_widen (fun _ _ => trivial) (fun _ => trivial) rounds
  | statsReporter rounds => exact statsReporter_widen (fun _ => trivial) rounds 0 0
  | shutdown => exact Protocol.follows_inr fun _ => Protocol.Follows.widen (request_genuine trivial)

/-- **The results of the decision path**, under its manager: there is nothing in them. -/
theorem reach_results
    (hr : Reach (pipelineHandler config) G (started config surroundings times tasks) p) :
    ∀ x ∈ DecisionPath.received p.left,
      ∃ transaction ∈ givenTo tasks, ResultOf (fun _ _ _ => True) 0 transaction x.2 := by
  have hstart : ItemsGenuine (givenTo tasks) (fun _ _ _ => True) 0 (started config surroundings times tasks).left :=
    ⟨fun _ _ h => (nomatch h), fun _ h => (nomatch h), fun _ _ _ _ _ => trivial⟩
  obtain ⟨-, hI, -⟩ := exists_left_phases hr ManagerTask.genuine (fun p _ => ItemsGenuine (givenTo tasks) _ 0 p) hstart
    (fun _ _ op hI => hI.reply op) fun _ _ _ _ _ _ hI hop => hI.after hop
  exact hI.received

/-! ### Where a task is -/

/-- Where a task of the manager is. -/
inductive Progress where
  /-- A call that has not begun. -/
  | fresh
  /-- It is counted. -/
  | counted
  /-- The transaction is handed over, or dropped. -/
  | handedOver
  /-- It is counted as sent. -/
  | sent
  /-- A worker of the decision path. -/
  | working
  /-- What is neither, and has no result in hand. -/
  | idle
  /-- A result is received. -/
  | received (result : DecisionResult)
  /-- It is counted. -/
  | countedResult (result : DecisionResult)
  /-- It could not be summed up. -/
  | failed (result : DecisionResult)
  /-- The reporter has read these numbers last. -/
  | watching (mempool results : U64)
  /-- It has read a smaller number than before. -/
  | confused

namespace Progress

/-- A call. -/
@[simp] def isCall : Progress → Bool
  | .fresh | .counted | .handedOver | .sent => true
  | _ => false

/-- A worker. -/
@[simp] def isWorker : Progress → Bool
  | .working => true
  | _ => false

/-- A call that is counted. -/
@[simp] def begun : Progress → ℕ
  | .counted | .handedOver | .sent => 1
  | _ => 0

/-- One whose transaction is handed over. -/
@[simp] def delivered : Progress → ℕ
  | .handedOver | .sent => 1
  | _ => 0

/-- One that is counted as sent. -/
@[simp] def finished : Progress → ℕ
  | .sent => 1
  | _ => 0

/-- A result that is not counted yet. -/
@[simp] def uncounted : Progress → ℕ
  | .received _ => 1
  | _ => 0

/-- A result that is counted and not summed up. -/
@[simp] def pending : Progress → ℕ
  | .countedResult _ => 1
  | _ => 0

/-- The opportunities of a result that is not summed up. -/
@[simp] def opportunities : Progress → ℕ
  | .received result | .countedResult result | .failed result => result.opportunities.length
  | _ => 0

end Progress

/-- What the workers ask for: nothing is submitted by them, and no result is received. -/
def Internal (op : PathOp) : Prop := submits op = 0 ∧ ∀ reply, receives op reply = none

/-- Where an operation, with its answer, takes a task. -/
inductive Moves : Progress → (op : PipelineI.Op) → PipelineI.Reply op → Progress → Prop
  | begin {n : U64} : Moves .fresh (.inr (.fetchAdd .mempoolRx)) n .counted
  | handOver {transaction : ParsedTransaction} {reply : SendResult} :
    Moves .counted (.inl (.trySend .filter transaction)) reply .handedOver
  | drop {reason queueType : String} :
    Moves .handedOver (.inl (.incTransactionsDropped reason queueType)) () .handedOver
  | send {n : U64} : Moves .handedOver (.inr (.fetchAdd .decisionTx)) n .sent
  | work {op : PathOp} {reply : PathI.Reply op} (hop : Internal op) : Moves .working (.inl op) reply .working
  | stop : Moves .idle (.inl .storeShutdown) () .idle
  | wait {e : RecvTimeoutError} : Moves .idle (.inl (.recvTimeout .output)) (.error e) .idle
  | receive {result : DecisionResult} : Moves .idle (.inl (.recvTimeout .output)) (.ok result) (.received result)
  | count {result : DecisionResult} {n : U64} :
    Moves (.received result) (.inr (.fetchAdd .results)) n (.countedResult result)
  | sum {result : DecisionResult} : Moves (.countedResult result) (.inr (.updateStats result)) (.ok ()) .idle
  | overflow {result : DecisionResult} {e : Failure} :
    Moves (.countedResult result) (.inr (.updateStats result)) (.error e) (.failed result)
  | loadShutdown {φ : Progress} {shutdown : Bool} : Moves φ (.inr .loadShutdown) shutdown φ
  | storeShutdown : Moves .idle (.inr .storeShutdown) () .idle
  | loadMempool {m r n : U64} (h : m ≤ n) : Moves (.watching m r) (.inr (.load .mempoolRx)) n (.watching n r)
  | loadDecision {m r n : U64} : Moves (.watching m r) (.inr (.load .decisionTx)) n (.watching m r)
  | loadResults {m r n : U64} (h : r ≤ n) : Moves (.watching m r) (.inr (.load .results)) n (.watching m n)
  | now {m r : U64} {times : Times} : Moves (.watching m r) (.inr .now) times (.watching m r)
  | write {m r : U64} {report : StatsReport} (h : report.results = r) :
    Moves (.watching m r) (.inr (.writeReport report)) () (.watching m r)
  | mistakeMempool {m r n : U64} (h : ¬ m ≤ n) : Moves (.watching m r) (.inr (.load .mempoolRx)) n .confused
  | mistakeResults {m r n : U64} (h : ¬ r ≤ n) : Moves (.watching m r) (.inr (.load .results)) n .confused
  | lose {op : PipelineI.Op} {reply : PipelineI.Reply op} : Moves .confused op reply .confused

/-- The protocol of the tasks. -/
@[reducible] def managerProtocol : Protocol PipelineI where
  Phase := Progress
  legal
    | .inl op, reply => Connected op reply
    | .inr _, _ => True
  move := Moves

/-- How a task may end. -/
def Ends : Progress → Result Unit → Prop
  | .sent, r | .idle, r | .watching _ _, r => r = .ok ()
  | .failed _, r => ∃ e, r = .error e
  | .working, _ | .confused, _ => True
  | _, _ => False

theorem follows_confused (t : PipelineM Unit) : managerProtocol.Follows Ends .confused t := by
  induction t with
  | done r => trivial
  | await op k ih => exact fun reply _ => ⟨.confused, .lose, ih reply⟩

theorem processTransaction_follows (transaction : ParsedTransaction) :
    managerProtocol.Follows Ends .fresh (processTransaction transaction) := by
  refine fun _ _ => ⟨.counted, .begin, ?_⟩
  rintro (_ | _ | _) hconnected
  · exact ⟨.handedOver, .handOver, fun _ _ => ⟨.sent, .send, rfl⟩⟩
  · exact ⟨.handedOver, .handOver, fun _ _ => ⟨.handedOver, .drop, fun _ _ => ⟨.sent, .send, rfl⟩⟩⟩
  · exact absurd rfl hconnected

theorem resultsProcessor_follows (rounds : ℕ) : managerProtocol.Follows Ends .idle (resultsProcessor rounds) := by
  induction rounds with
  | zero => rfl
  | succ rounds ih =>
    refine fun shutdown _ => ⟨.idle, .loadShutdown, ?_⟩
    rcases shutdown with _ | _
    · rintro ((_ | _) | result) _
      · exact ⟨.idle, .wait, ih⟩
      · exact ⟨.idle, .wait, rfl⟩
      · refine ⟨.received result, .receive, fun _ _ => ⟨.countedResult result, .count, fun updated _ => ?_⟩⟩
        rcases updated with e | ⟨⟩
        · exact ⟨.failed result, .overflow, e, rfl⟩
        · exact ⟨.idle, .sum, ih⟩
    · rfl

theorem sub_eq_ok {a b : U64} (h : b ≤ a) : Uint.sub a b = .ok (a - b) := if_pos h

theorem report_follows {lastMempool lastResults mempool results : U64} (hmempool : lastMempool ≤ mempool)
    (hresults : lastResults ≤ results) (decision : U64) (times : Times) :
    managerProtocol.Follows (fun φ r => φ = .watching mempool results ∧ r = .ok ()) (.watching mempool results)
      (report lastMempool lastResults mempool decision results times) := by
  unfold report
  split
  · rw [sub_eq_ok hmempool, sub_eq_ok hresults]
    exact fun _ _ => ⟨_, .write rfl, rfl, rfl⟩
  · exact ⟨rfl, rfl⟩

theorem statsReporter_follows (rounds : ℕ) (lastMempool lastResults : U64) :
    managerProtocol.Follows Ends (.watching lastMempool lastResults)
      (statsReporter rounds lastMempool lastResults) := by
  induction rounds generalizing lastMempool lastResults with
  | zero => rfl
  | succ rounds ih =>
    refine fun shutdown _ => ⟨.watching lastMempool lastResults, .loadShutdown, ?_⟩
    rcases shutdown with _ | _
    · intro mempool _
      by_cases hmempool : lastMempool ≤ mempool
      · refine ⟨.watching mempool lastResults, .loadMempool hmempool, fun decision _ => ⟨_, .loadDecision, ?_⟩⟩
        intro results _
        by_cases hresults : lastResults ≤ results
        · refine ⟨.watching mempool results, .loadResults hresults, fun times _ => ⟨_, .now, ?_⟩⟩
          refine (report_follows hmempool hresults decision times).bind ?_ ?_
          · rintro _ ⟨⟩ ⟨rfl, -⟩
            exact ih mempool results
          · rintro _ _ ⟨-, h⟩
            cases h
        · exact ⟨.confused, .mistakeResults hresults, follows_confused _⟩
      · exact ⟨.confused, .mistakeMempool hmempool, follows_confused _⟩
    · rfl

theorem worker_within {stage : Stage} {body : stage.Item → PathM Unit} (hstage : stage ≠ .output)
    (hbody : ∀ item, (body item).Within Internal) (rounds : ℕ) : (worker stage body rounds).Within Internal := by
  have hreceive : Internal (.recvTimeout stage) := by
    refine ⟨rfl, fun reply => ?_⟩
    cases stage with
    | output => exact absurd rfl hstage
    | _ => rfl
  induction rounds with
  | zero => trivial
  | succ rounds ih =>
    refine ⟨⟨rfl, fun _ => rfl⟩, fun shutdown => ?_⟩
    rcases shutdown with _ | _
    · refine ⟨hreceive, fun reply => ?_⟩
      rcases reply with (_ | _) | item
      · exact ih
      · trivial
      · exact (hbody item).bind fun _ => ih
    · trivial

theorem sendOn_within {stage : Stage} (item : stage.Item) {failed : PathM Unit} (hstage : stage ≠ .filter)
    (hfailed : failed.Within Internal) : (sendOn stage item failed).Within Internal := by
  have hsend : Internal (.trySend stage item) := by
    refine ⟨?_, fun _ => rfl⟩
    cases stage with
    | filter => exact absurd rfl hstage
    | _ => rfl
  refine ⟨hsend, fun reply => ?_⟩
  cases reply with
  | sent => trivial
  | full | disconnected => exact hfailed

theorem filterBody_within (transaction : ParsedTransaction) : (filterBody transaction).Within Internal := by
  refine ⟨⟨rfl, fun _ => rfl⟩, fun filterTimeMs => ?_⟩
  dsimp only [Async.ok_bind]
  split
  · refine (sendOn_within _ (by decide) (.request ⟨rfl, fun _ => rfl⟩)).bind fun _ => ?_
    exact .request ⟨rfl, fun _ => rfl⟩
  · exact .request ⟨rfl, fun _ => rfl⟩

theorem evaluateAll_within (transaction : ParsedTransaction) (strategies : List ℕ) (opportunities : List Opportunity) :
    (evaluateAll transaction strategies opportunities).Within Internal := by
  induction strategies generalizing opportunities with
  | nil => trivial
  | cons strategy strategies ih =>
    refine ⟨⟨rfl, fun _ => rfl⟩, fun enabled => ?_⟩
    rcases enabled with _ | _
    · exact ih _
    · refine ⟨⟨rfl, fun _ => rfl⟩, fun reply => ?_⟩
      rcases reply with _ | (_ | _ | _)
      all_goals exact ih _

theorem simulationBody_within (strategies : ℕ) (filtered : FilteredTransaction) :
    (simulationBody strategies filtered).Within Internal := by
  refine (evaluateAll_within _ _ _).bind fun opportunities => ⟨⟨rfl, fun _ => rfl⟩, fun simulationTimeMs => ?_⟩
  refine (sendOn_within _ (by decide) (.request ⟨rfl, fun _ => rfl⟩)).bind fun _ => ?_
  exact .request ⟨rfl, fun _ => rfl⟩

theorem recordDecision_within (opportunities : ℕ) (bundleTimeMs totalTimeMs : Binary64) :
    (recordDecision config opportunities bundleTimeMs totalTimeMs).Within Internal := by
  refine ⟨⟨rfl, fun _ => rfl⟩, fun updated => ?_⟩
  rcases updated with e | ⟨⟩
  · trivial
  · refine ⟨⟨rfl, fun _ => rfl⟩, fun recorded => ?_⟩
    rcases recorded with e | ⟨⟩
    · trivial
    · exact ⟨⟨rfl, fun _ => rfl⟩, fun _ => ⟨⟨rfl, fun _ => rfl⟩, fun _ => ⟨⟨rfl, fun _ => rfl⟩, fun _ => trivial⟩⟩⟩

theorem bundleBody_within (result : SimulationResult) : (bundleBody config result).Within Internal := by
  have hlost : (pure () : PathM Unit).Within Internal := trivial
  refine ⟨⟨rfl, fun _ => rfl⟩, fun bundleTimeMs => ?_⟩
  exact (sendOn_within _ (by decide) hlost).bind fun _ => recordDecision_within _ _ _

theorem follows_worker {stage : Stage} {body : stage.Item → PathM Unit} (hstage : stage ≠ .output)
    (hbody : ∀ item, (body item).Within Internal) (rounds : ℕ) :
    managerProtocol.Follows Ends .working (worker stage body rounds).inl := by
  refine Protocol.Follows.toSum (P := managerProtocol) ?_
  exact Protocol.follows_of_within (worker_within hstage hbody rounds) (fun _ _ hop => .work hop) fun _ => trivial

/-- A call of `process_transaction`. -/
def ManagerTask.isCall : ManagerTask → Bool
  | .processTransaction _ => true
  | _ => false

/-- A worker of the decision path. -/
def ManagerTask.isWorker : ManagerTask → Bool
  | .filterWorker _ | .simulationWorker _ | .bundleWorker _ => true
  | _ => false

/-- Where a task begins. -/
def ManagerTask.progress : ManagerTask → Progress
  | .processTransaction _ => .fresh
  | .filterWorker _ | .simulationWorker _ | .bundleWorker _ => .working
  | .resultsProcessor _ | .shutdown => .idle
  | .statsReporter _ => .watching 0 0

/-- **Every task follows the protocol of the manager.** -/
theorem ManagerTask.follows (task : ManagerTask) :
    managerProtocol.Follows Ends task.progress (task.task config) := by
  cases task with
  | processTransaction transaction => exact processTransaction_follows transaction
  | filterWorker rounds => exact follows_worker (by decide) filterBody_within rounds
  | simulationWorker rounds => exact follows_worker (by decide) (simulationBody_within 0) rounds
  | bundleWorker rounds => exact follows_worker (by decide) bundleBody_within rounds
  | resultsProcessor rounds => exact resultsProcessor_follows rounds
  | statsReporter rounds => exact statsReporter_follows rounds 0 0
  | shutdown => exact fun _ _ => ⟨.idle, .storeShutdown, fun _ _ => ⟨.idle, .stop, rfl⟩⟩

/-! ### The numbers -/

/-- The opportunities of the results that were received. -/
def foundIn (results : List (ι × DecisionResult)) : ℕ := (results.map fun x => x.2.opportunities.length).sum

/-- The numbers of the manager, and what they should be. -/
structure Numbers where
  /-- `mempool_rx_count`. -/
  mempoolRx : ℕ
  /-- What was handed to the decision path. -/
  submitted : ℕ
  /-- `decision_tx_count`. -/
  decisionTx : ℕ
  /-- `results_count`. -/
  results : ℕ
  /-- The results that were received. -/
  received : ℕ
  /-- `decision_results_processed`. -/
  processed : ℕ
  /-- `opportunities_found`. -/
  opportunities : ℕ
  /-- The opportunities of the results that were received. -/
  found : ℕ

/-- The numbers, by what was done to the decision path and the manager as it is. -/
def numbersOf (path : PathPool ι) (manager : DecisionPathManager) : Numbers where
  mempoolRx := (manager.count .mempoolRx).toNat
  submitted := (ledger path).submitted.card
  decisionTx := (manager.count .decisionTx).toNat
  results := (manager.count .results).toNat
  received := (DecisionPath.received path).length
  processed := manager.stats.decisionResultsProcessed.toNat
  opportunities := manager.stats.opportunitiesFound.toNat
  found := foundIn (DecisionPath.received path)

/-- The numbers in a state of the pipeline. -/
def numbers (p : PipelinePool ι) : Numbers := numbersOf p.left p.shared.2

/-- **The books**: what is true in every state, by where each task is. -/
structure Bookkeeping [Fintype ι] (tasks : ι → ManagerTask) (n : Numbers) (φ : ι → Progress) : Prop where
  mempoolRx : n.mempoolRx = ∑ i, (φ i).begun
  submitted : n.submitted = ∑ i, (φ i).delivered
  decisionTx : n.decisionTx = ∑ i, (φ i).finished
  results : n.results + ∑ i, (φ i).uncounted = n.received
  pending : ∑ i, (φ i).pending ≤ n.results
  /-- The reporter may overwrite it while a result is pending. -/
  processed : n.processed + ∑ i, (φ i).pending ≤ 2 * n.results
  opportunities : n.found < 2 ^ 64 →
    n.opportunities + ∑ i, (φ i).opportunities = n.found ∧ ∀ i result, φ i ≠ .failed result
  watching : ∀ i m r, φ i = .watching m r → m.toNat ≤ n.mempoolRx ∧ r.toNat ≤ n.results
  notConfused : ∀ i, φ i ≠ .confused
  calls : ∀ i, (φ i).isCall = (tasks i).isCall
  workers : ∀ i, (φ i).isWorker = (tasks i).isWorker

/-- How the numbers change when a task moves on. -/
structure Step (old new : Progress) (n n' : Numbers) : Prop where
  mempoolRx : n'.mempoolRx + old.begun = n.mempoolRx + new.begun
  submitted : n'.submitted + old.delivered = n.submitted + new.delivered
  decisionTx : n'.decisionTx + old.finished = n.decisionTx + new.finished
  results : n'.results + new.uncounted + n.received = n.results + old.uncounted + n'.received
  pending : n.results + new.pending ≤ n'.results + old.pending
  processed : n'.processed + new.pending + 2 * n.results ≤ n.processed + old.pending + 2 * n'.results ∨
    n'.processed ≤ n'.results ∧ n'.results = n.results ∧ new.pending = old.pending
  found : n.found ≤ n'.found
  opportunities : n'.found < 2 ^ 64 →
    n'.opportunities + new.opportunities + n.found = n.opportunities + old.opportunities + n'.found ∧
      ∀ result, new ≠ .failed result
  mempoolRx_le : n.mempoolRx ≤ n'.mempoolRx
  results_le : n.results ≤ n'.results
  watching : ∀ m r, new = .watching m r → m.toNat ≤ n'.mempoolRx ∧ r.toNat ≤ n'.results
  notConfused : new ≠ .confused
  isCall : new.isCall = old.isCall
  isWorker : new.isWorker = old.isWorker

theorem Bookkeeping.after [Fintype ι] {n n' : Numbers} {φ : ι → Progress} {i : ι} {new : Progress}
    (hI : Bookkeeping tasks n φ) (hs : Step (φ i) new n n') : Bookkeeping tasks n' (Function.update φ i new) := by
  have hsum (w : Progress → ℕ) := sum_update_add w φ i new
  constructor
  case mempoolRx => linarith [hsum Progress.begun, hI.mempoolRx, hs.mempoolRx]
  case submitted => linarith [hsum Progress.delivered, hI.submitted, hs.submitted]
  case decisionTx => linarith [hsum Progress.finished, hI.decisionTx, hs.decisionTx]
  case results => linarith [hsum Progress.uncounted, hI.results, hs.results]
  case pending => linarith [hsum Progress.pending, hI.pending, hs.pending]
  case processed =>
    have hpending := hsum Progress.pending
    rcases hs.processed with h | ⟨h, hresults, hsame⟩
    · linarith [hI.processed]
    · linarith [hI.pending]
  case opportunities =>
    intro hfound
    obtain ⟨hopportunities, hnew⟩ := hs.opportunities hfound
    obtain ⟨hall, hnone⟩ := hI.opportunities (hs.found.trans_lt hfound)
    refine ⟨by linarith [hsum Progress.opportunities], ?_⟩
    exact (Function.forall_update_iff φ fun _ ψ => ∀ result, ψ ≠ .failed result).mpr ⟨hnew, fun j _ => hnone j⟩
  case watching =>
    refine (Function.forall_update_iff φ fun _ ψ => ∀ m r, ψ = .watching m r →
      m.toNat ≤ n'.mempoolRx ∧ r.toNat ≤ n'.results).mpr
      ⟨hs.watching, fun j _ m r h => ?_⟩
    obtain ⟨hm, hr⟩ := hI.watching j m r h
    exact ⟨hm.trans hs.mempoolRx_le, hr.trans hs.results_le⟩
  case notConfused =>
    exact (Function.forall_update_iff φ fun _ ψ => ψ ≠ .confused).mpr ⟨hs.notConfused, fun j _ => hI.notConfused j⟩
  case calls =>
    refine (Function.forall_update_iff φ fun j ψ => ψ.isCall = (tasks j).isCall).mpr ⟨?_, fun j _ => hI.calls j⟩
    exact hs.isCall.trans (hI.calls i)
  case workers =>
    refine (Function.forall_update_iff φ fun j ψ => ψ.isWorker = (tasks j).isWorker).mpr ⟨?_, fun j _ => hI.workers j⟩
    exact hs.isWorker.trans (hI.workers i)

/-! ### What an operation does to them -/

variable {i : ι} {φ : ι → Progress} {new : Progress}

theorem numbers_inl (op : PathOp) (k : PathI.Reply op → PipelineM Unit) :
    numbers (p.after (pipelineHandler config) i (.inl op) k) =
      { numbers p with
        submitted := (numbers p).submitted + (submits op).card
        received := (numbers p).received + (receives op (pathHandler config op p.shared.1).1).toList.length
        found := (numbers p).found +
          ((receives op (pathHandler config op p.shared.1).1).map fun result =>
            result.opportunities.length).getD 0 } := by
  have hledger : (ledger (p.left.after (pathHandler config) i op fun _ => .done (.ok ()))).submitted =
      (ledger p.left).submitted + submits op := by
    rw [ledger_after]
    rfl
  have hreceived : DecisionPath.received (p.left.after (pathHandler config) i op fun _ => .done (.ok ())) =
      DecisionPath.received p.left ++
        ((receives op (pathHandler config op p.shared.1).1).map fun result => (i, result)).toList := gather_after ..
  change numbersOf (p.after (pipelineHandler config) i (.inl op) k).left p.shared.2 = _
  rw [left_after_inl, numbersOf, hledger, hreceived]
  rcases receives op (pathHandler config op p.shared.1).1 with _ | result <;> simp [numbers, numbersOf, foundIn]

theorem numbers_internal {op : PathOp} (hop : Internal op) (k : PathI.Reply op → PipelineM Unit) :
    numbers (p.after (pipelineHandler config) i (.inl op) k) = numbers p := by
  rw [numbers_inl, hop.1, hop.2]
  rfl

/-- With one more in a counter. -/
@[simp] def Numbers.countOne (n : Numbers) : Counter → Numbers
  | .mempoolRx => { n with mempoolRx := n.mempoolRx + 1 }
  | .decisionTx => { n with decisionTx := n.decisionTx + 1 }
  | .results => { n with results := n.results + 1 }

theorem numbers_inr (op : ManagerOp) (k : ManagerI.Reply op → PipelineM Unit) :
    numbers (p.after (pipelineHandler config) i (.inr op) k) = numbersOf p.left (managerHandler op p.shared.2).2 := by
  rw [numbers, left_after_inr]
  rfl

theorem numbers_fetchAdd {counter : Counter} (hroom : (p.shared.2.count counter).toNat + 1 < 2 ^ 64)
    (k : U64 → PipelineM Unit) :
    numbers (p.after (pipelineHandler config) i (.inr (.fetchAdd counter)) k) = (numbers p).countOne counter := by
  have hcount : (p.shared.2.count counter + 1).toNat = (p.shared.2.count counter).toNat + 1 := by
    rw [BitVec.toNat_add, Nat.mod_eq_of_lt (by simpa using hroom)]
    rfl
  rw [numbers_inr]
  cases counter
  all_goals
    rw [numbersOf]
    simp only [managerHandler, Function.update_self, hcount]
    rfl

theorem update_stats {stats : DecisionPathManagerStats} {result : DecisionResult}
    (hprocessed : stats.decisionResultsProcessed.toNat + 1 < 2 ^ 64) :
    (stats.update result).2.decisionResultsProcessed.toNat = stats.decisionResultsProcessed.toNat + 1 ∧
      (stats.opportunitiesFound.toNat + result.opportunities.length < 2 ^ 64 → (stats.update result).1 = .ok () ∧
        (stats.update result).2.opportunitiesFound.toNat =
          stats.opportunitiesFound.toNat + result.opportunities.length) := by
  obtain ⟨processed, hadd⟩ := Uint.exists_add_eq_ok_iff (b := (1 : U64)).mpr hprocessed
  have hcount : processed.toNat = stats.decisionResultsProcessed.toNat + 1 := Uint.add_eq_ok_iff.mp hadd
  rw [DecisionPathManagerStats.update, hadd]
  rcases hsum : Uint.add stats.opportunitiesFound (BitVec.ofNat 64 result.opportunities.length) with e | opportunities
  · refine ⟨hcount, fun hroom => ?_⟩
    have hlength : (BitVec.ofNat 64 result.opportunities.length).toNat = result.opportunities.length :=
      (BitVec.toNat_ofNat _ _).trans (Nat.mod_eq_of_lt (by omega))
    obtain ⟨opportunities, hok⟩ := Uint.exists_add_eq_ok_iff.mpr (hlength ▸ hroom)
    rw [hok] at hsum
    cases hsum
  · refine ⟨hcount, fun hroom => ⟨rfl, ?_⟩⟩
    rw [Uint.add_eq_ok_iff.mp hsum, BitVec.toNat_ofNat, Nat.mod_eq_of_lt (by omega)]

section Step

variable [Fintype ι]

omit [DecidableEq ι] in
theorem Bookkeeping.stay {n : Numbers} (hI : Bookkeeping tasks n φ) (i : ι) : Step (φ i) (φ i) n n where
  mempoolRx := rfl
  submitted := rfl
  decisionTx := rfl
  results := rfl
  pending := le_rfl
  processed := .inl le_rfl
  found := le_rfl
  opportunities hfound := ⟨rfl, (hI.opportunities hfound).2 i⟩
  mempoolRx_le := le_rfl
  results_le := le_rfl
  watching := hI.watching i
  notConfused := hI.notConfused i
  isCall := rfl
  isWorker := rfl

theorem Step.watch {n : Numbers} {m r m' r' : U64} (hm : m'.toNat ≤ n.mempoolRx) (hr : r'.toNat ≤ n.results) :
    Step (.watching m r) (.watching m' r') n n := by
  constructor
  case watching =>
    intro _ _ h
    cases h
    exact ⟨hm, hr⟩
  all_goals simp

theorem Step.write {n : Numbers} {m r : U64} (hs : Step (.watching m r) (.watching m r) n n) :
    Step (.watching m r) (.watching m r) n { n with processed := r.toNat } := by
  constructor
  case watching => exact hs.watching
  case processed => exact .inr ⟨(hs.watching m r rfl).2, rfl, rfl⟩
  all_goals simp

omit [DecidableEq ι] in
theorem le_sum (w : Progress → ℕ) (φ : ι → Progress) (i : ι) : w (φ i) ≤ ∑ j, w (φ j) :=
  Finset.single_le_sum (f := fun j => w (φ j)) (fun _ _ => Nat.zero_le _) (Finset.mem_univ i)

/-- A result is summed up, or there is no room for its opportunities. -/
theorem Bookkeeping.sum (hI : Bookkeeping tasks (numbers p) φ) {result : DecisionResult}
    (hφ : φ i = .countedResult result) (hresults : (numbers p).results < 2 ^ 63) :
    Step (φ i) (if (p.shared.2.stats.update result).1.isOk then .idle else .failed result) (numbers p)
      (numbersOf p.left (managerHandler (.updateStats result) p.shared.2).2) := by
  have hprocessed : p.shared.2.stats.decisionResultsProcessed.toNat + 1 < 2 ^ 64 := by
    have hpending : 1 ≤ ∑ j, (φ j).pending := by
      have hle := le_sum Progress.pending φ i
      rw [hφ] at hle
      exact hle
    have hbound : p.shared.2.stats.decisionResultsProcessed.toNat + ∑ j, (φ j).pending ≤ 2 * (numbers p).results :=
      hI.processed
    omega
  obtain ⟨hcount, hroom⟩ := @update_stats p.shared.2.stats result hprocessed
  have hsummed : (numbers p).found < 2 ^ 64 → (p.shared.2.stats.update result).1 = .ok () ∧
      (p.shared.2.stats.update result).2.opportunitiesFound.toNat =
        p.shared.2.stats.opportunitiesFound.toNat + result.opportunities.length := by
    intro hfound
    have hopportunities : result.opportunities.length ≤ ∑ j, (φ j).opportunities := by
      have hle := le_sum Progress.opportunities φ i
      rw [hφ] at hle
      exact hle
    have hall : p.shared.2.stats.opportunitiesFound.toNat + ∑ j, (φ j).opportunities = (numbers p).found :=
      (hI.opportunities hfound).1
    exact hroom (by omega)
  have hnumbers : numbersOf p.left (managerHandler (.updateStats result) p.shared.2).2 =
      { numbers p with
        processed := (numbers p).processed + 1
        opportunities := (p.shared.2.stats.update result).2.opportunitiesFound.toNat } := by
    rw [numbersOf, ← show _ = (numbers p).processed + 1 from hcount]
    rfl
  rw [hφ, hnumbers]
  rcases hok : (p.shared.2.stats.update result).1 with e | ⟨⟩
  · have hoverflow : ¬ (numbers p).found < 2 ^ 64 := fun hfound => by
      rw [(hsummed hfound).1] at hok
      cases hok
    constructor
    case opportunities => exact fun hfound => absurd hfound hoverflow
    all_goals simp [Except.isOk, Except.toBool]
  · constructor
    case opportunities =>
      intro hfound
      rw [(hsummed hfound).2]
      simp [Except.isOk, Except.toBool, numbers, numbersOf]
    all_goals simp [Except.isOk, Except.toBool]

/-- **There is room** in every counter. -/
theorem Bookkeeping.room (hI : Bookkeeping tasks (numbers p) φ) (hcalls : Fintype.card ι < 2 ^ 63)
    (hreceived : (numbers p).received ≤ (numbers p).submitted) (counter : Counter) :
    (p.shared.2.count counter).toNat < 2 ^ 63 := by
  have hone (w : Progress → ℕ) (hw : ∀ ψ, w ψ ≤ 1) : ∑ j, w (φ j) ≤ Fintype.card ι := by
    simpa using Finset.sum_le_card_nsmul Finset.univ (fun j => w (φ j)) 1 fun j _ => hw (φ j)
  cases counter with
  | mempoolRx =>
    have hbegun := hone Progress.begun fun ψ => by cases ψ <;> simp
    have hcount : (p.shared.2.count .mempoolRx).toNat = ∑ j, (φ j).begun := hI.mempoolRx
    omega
  | decisionTx =>
    have hfinished := hone Progress.finished fun ψ => by cases ψ <;> simp
    have hcount : (p.shared.2.count .decisionTx).toNat = ∑ j, (φ j).finished := hI.decisionTx
    omega
  | results =>
    have hdelivered := hone Progress.delivered fun ψ => by cases ψ <;> simp
    have hcount : (p.shared.2.count .results).toNat ≤ (numbers p).received := hI.results ▸ Nat.le_add_right _ _
    have hsubmitted := hI.submitted
    omega

/-- **One more operation.** -/
theorem step_of_move (hI : Bookkeeping tasks (numbers p) φ) (hcalls : Fintype.card ι < 2 ^ 63)
    (hreceived : (numbers p).received ≤ (numbers p).submitted) {op : PipelineI.Op}
    {k : PipelineI.Reply op → PipelineM Unit}
    (hm : Moves (φ i) op (pipelineHandler config op p.shared).1 new) :
    Step (φ i) new (numbers p) (numbers (p.after (pipelineHandler config) i op k)) := by
  have hstay := hI.stay i
  have hcount := hI.room hcalls hreceived
  have hroom (counter : Counter) : (p.shared.2.count counter).toNat + 1 < 2 ^ 64 := by
    have hlt := hcount counter
    omega
  generalize hreply : (pipelineHandler config op p.shared).1 = reply at hm
  generalize hφ : φ i = old at hm hstay
  cases hm with
  | begin =>
    rw [numbers_fetchAdd (hroom _)]
    constructor <;> simp
  | handOver =>
    rw [numbers_inl]
    constructor <;> simp [submits, receives]
  | send =>
    rw [numbers_fetchAdd (hroom _)]
    constructor <;> simp
  | work hop => rwa [numbers_internal hop]
  | drop | stop => rwa [numbers_internal ⟨rfl, fun _ => rfl⟩]
  | wait =>
    have hempty : receives (.recvTimeout .output) (pathHandler config (.recvTimeout .output) p.shared.1).1 = none := by
      rw [show (pathHandler config (.recvTimeout .output) p.shared.1).1 = _ from hreply]
      rfl
    rw [numbers_inl, hempty]
    exact hstay
  | @receive result =>
    have hresult : receives (.recvTimeout .output) (pathHandler config (.recvTimeout .output) p.shared.1).1 =
        some result := by
      rw [show (pathHandler config (.recvTimeout .output) p.shared.1).1 = _ from hreply]
      rfl
    rw [numbers_inl, hresult]
    constructor <;> simp [submits]
    · omega
    · omega
  | count =>
    rw [numbers_fetchAdd (hroom _)]
    constructor <;> simp
    omega
  | loadShutdown | storeShutdown | loadDecision | now =>
    rw [numbers_inr]
    exact hstay
  | loadMempool h =>
    rw [numbers_inr]
    cases hreply
    exact .watch le_rfl (hstay.watching _ _ rfl).2
  | loadResults h =>
    rw [numbers_inr]
    cases hreply
    exact .watch (hstay.watching _ _ rfl).1 le_rfl
  | @mistakeMempool m r n h =>
    cases hreply
    exact absurd (hstay.watching m r rfl).1 h
  | @mistakeResults m r n h =>
    cases hreply
    exact absurd (hstay.watching m r rfl).2 h
  | lose => exact absurd rfl hstay.notConfused
  | write h =>
    rw [numbers_inr]
    cases h
    exact hstay.write
  | sum | overflow =>
    have hsum := hI.sum hφ (hcount .results)
    rw [numbers_inr]
    rw [show (p.shared.2.stats.update _).1 = _ from hreply, hφ] at hsum
    exact hsum

end Step

/-! ### Runs -/

section Runs

variable [Fintype ι]

theorem bookkeeping_started : Bookkeeping tasks (numbers (started config surroundings times tasks))
    fun i => (tasks i).progress := by
  have hzero (w : Progress → ℕ) (hw : ∀ task : ManagerTask, w task.progress = 0) : ∑ i, w (tasks i).progress = 0 :=
    Finset.sum_eq_zero fun i _ => hw (tasks i)
  have hpending := hzero Progress.pending fun task => by cases task <;> rfl
  constructor
  case mempoolRx => exact (hzero Progress.begun fun task => by cases task <;> rfl).symm
  case submitted => exact (hzero Progress.delivered fun task => by cases task <;> rfl).symm
  case decisionTx => exact (hzero Progress.finished fun task => by cases task <;> rfl).symm
  case results => exact congrArg (0 + ·) (hzero Progress.uncounted fun task => by cases task <;> rfl)
  case pending => rw [hpending]; exact Nat.zero_le _
  case processed => rw [hpending]; exact Nat.zero_le _
  case opportunities =>
    intro _
    refine ⟨congrArg (0 + ·) (hzero Progress.opportunities fun task => by cases task <;> rfl), fun i result => ?_⟩
    cases tasks i <;> simp [ManagerTask.progress]
  case watching =>
    intro i m r h
    cases htask : tasks i <;> simp only [htask, ManagerTask.progress, reduceCtorEq] at h
    cases h
    exact ⟨Nat.zero_le _, Nat.zero_le _⟩
  case notConfused => exact fun i => by cases tasks i <;> simp [ManagerTask.progress]
  case calls => exact fun i => by cases tasks i <;> rfl
  case workers => exact fun i => by cases tasks i <;> rfl

/-- No more results are received than transactions were handed over. -/
theorem received_le_submitted
    (hr : Reach (pipelineHandler config) G (started config surroundings times tasks) p) :
    (numbers p).received ≤ (numbers p).submitted := by
  obtain ⟨⟨-, hbalance, -, houtput⟩, -⟩ := reach_pathAccounts hr
  have hbalance := congrArg Multiset.card hbalance
  have houtput := congrArg Multiset.card houtput
  simp only [Ledger.settled, Multiset.card_add, Multiset.coe_card, Multiset.card_map, List.length_map,
    List.length_append] at hbalance houtput
  change (DecisionPath.received p.left).length ≤ (ledger p.left).submitted.card
  omega

/-- **The books of every run.** -/
theorem exists_bookkeeping
    (hr : Reach (pipelineHandler config) G (started config surroundings times tasks) p)
    (hcalls : Fintype.card ι < 2 ^ 63) :
    ∃ φ, Bookkeeping tasks (numbers p) φ ∧ ∀ i, managerProtocol.Follows Ends (φ i) (p.tasks i) := by
  refine Protocol.exists_phases (hr.guarded (Q := fun p _ => (numbers p).received ≤ (numbers p).submitted)
    fun _ _ hr => received_le_submitted hr) (fun i => (tasks i).follows) (fun p φ => Bookkeeping tasks (numbers p) φ)
    bookkeeping_started ?_ ?_
  · rintro p φ (op | op) -
    · exact connected_reply op p.shared.1
    · trivial
  · rintro p φ i op k new hI ⟨-, hreceived⟩ - hm
    exact hI.after (step_of_move hI hcalls hreceived hm)

omit [DecidableEq ι] [Fintype ι] in
theorem Progress.of_ends {ψ : Progress} {r : Result Unit} (hends : Ends ψ r) (hfailed : ∀ result, ψ ≠ .failed result)
    (hconfused : ψ ≠ .confused) :
    ψ.begun = ψ.isCall.toNat ∧ ψ.delivered = ψ.isCall.toNat ∧ ψ.finished = ψ.isCall.toNat ∧ ψ.uncounted = 0 := by
  cases ψ with
  | failed result => exact absurd rfl (hfailed result)
  | confused => exact absurd rfl hconfused
  | sent | working | idle | watching => exact ⟨rfl, rfl, rfl, rfl⟩
  | fresh | counted | handedOver | received | countedResult => exact hends.elim

/-- How many calls of `process_transaction` there are. -/
def calls (tasks : ι → ManagerTask) : ℕ := ∑ i, if (tasks i).isCall then 1 else 0

/-- **What the manager counts** in a state of the pipeline. -/
structure ManagerExact (tasks : ι → ManagerTask) (p : PipelinePool ι) : Prop where
  /-- Only a worker of the decision path may fail. -/
  neverFails : ∀ i e, p.tasks i = .done (.error e) → (tasks i).isWorker = true
  /-- What is counted as sent was handed over, or dropped; -/
  decisionTx_le : (numbers p).decisionTx ≤ (numbers p).submitted
  /-- what was handed over is counted as received. -/
  submitted_le : (numbers p).submitted ≤ (numbers p).mempoolRx
  mempoolRx_le : (numbers p).mempoolRx ≤ calls tasks
  /-- What is handed over is filtered out, dropped, delivered, lost, queued or in hand. -/
  submitted : (numbers p).submitted = (ledger p.left).settled.card + (queued p.shared.1).card + (inHand p.left).card
  /-- What is delivered is received once, or waits. -/
  delivered : ((ledger p.left).met .delivered).card = (numbers p).received + (p.shared.1.queue .output).length
  /-- Each is of one transaction that the manager was given, -/
  genuine : ∀ x ∈ DecisionPath.received p.left,
    ∃ transaction ∈ givenTo tasks, ResultOf (fun _ _ _ => True) 0 transaction x.2
  /-- and is counted once; -/
  results_le : (numbers p).results ≤ (numbers p).received
  /-- no opportunity is ever found. -/
  opportunities : (numbers p).opportunities = 0
  /-- When all tasks have ended, nothing is missing. -/
  atEnd : (∀ i, (p.tasks i).next? = none) →
    (numbers p).mempoolRx = calls tasks ∧ (numbers p).submitted = calls tasks ∧ (numbers p).decisionTx = calls tasks ∧
      (numbers p).results = (numbers p).received ∧ inHand p.left = 0

omit [Fintype ι] in
theorem found_eq_zero (hr : Reach (pipelineHandler config) G (started config surroundings times tasks) p) :
    (numbers p).found = 0 := by
  refine List.sum_eq_zero fun n hn => ?_
  obtain ⟨x, hx, rfl⟩ := List.mem_map.mp hn
  obtain ⟨_, -, hresult⟩ := reach_results hr x hx
  exact Nat.le_zero.mp hresult.opportunities.length_le

omit [DecidableEq ι] [Fintype ι] in
theorem Progress.isWorker_of_ends {ψ : Progress} {e : Failure} (hends : Ends ψ (.error e))
    (hfailed : ∀ result, ψ ≠ .failed result) (hconfused : ψ ≠ .confused) : ψ.isWorker = true := by
  cases ψ with
  | failed result => exact absurd rfl (hfailed result)
  | confused => exact absurd rfl hconfused
  | working => rfl
  | _ => cases hends

omit [DecidableEq ι] in
theorem sum_calls {n : Numbers} {φ : ι → Progress} (hI : Bookkeeping tasks n φ) :
    ∑ i, (φ i).isCall.toNat = calls tasks :=
  Finset.sum_congr rfl fun i _ => by rw [hI.calls i]; cases (tasks i).isCall <;> rfl

omit [DecidableEq ι] in
/-- **The counters are in order.** -/
theorem counts_le {n : Numbers} {φ : ι → Progress} (hI : Bookkeeping tasks n φ) :
    n.decisionTx ≤ n.submitted ∧ n.submitted ≤ n.mempoolRx ∧ n.mempoolRx ≤ calls tasks := by
  have hle (w w' : Progress → ℕ) (hw : ∀ ψ, w ψ ≤ w' ψ) : ∑ i, w (φ i) ≤ ∑ i, w' (φ i) :=
    Finset.sum_le_sum fun i _ => hw (φ i)
  rw [hI.decisionTx, hI.submitted, hI.mempoolRx, ← sum_calls hI]
  exact ⟨hle Progress.finished Progress.delivered fun ψ => by cases ψ <;> simp,
    hle Progress.delivered Progress.begun fun ψ => by cases ψ <;> simp,
    hle Progress.begun (fun ψ => ψ.isCall.toNat) fun ψ => by cases ψ <;> simp⟩

omit [DecidableEq ι] in
/-- **When all tasks have ended**, every call is counted everywhere, and every result. -/
theorem counts_ended {n : Numbers} {φ : ι → Progress} (hI : Bookkeeping tasks n φ)
    (hfailed : ∀ i result, φ i ≠ .failed result) {r : ι → Result Unit} (hends : ∀ i, Ends (φ i) (r i)) :
    n.mempoolRx = calls tasks ∧ n.submitted = calls tasks ∧ n.decisionTx = calls tasks ∧
      n.results = n.received := by
  have hsettled (i : ι) := Progress.of_ends (hends i) (hfailed i) (hI.notConfused i)
  have huncounted : ∑ i, (φ i).uncounted = 0 := Finset.sum_eq_zero fun i _ => (hsettled i).2.2.2
  rw [hI.mempoolRx, hI.submitted, hI.decisionTx, ← sum_calls hI]
  refine ⟨Finset.sum_congr rfl fun i _ => (hsettled i).1, Finset.sum_congr rfl fun i _ => (hsettled i).2.1,
    Finset.sum_congr rfl fun i _ => (hsettled i).2.2.1, ?_⟩
  rw [← hI.results, huncounted, Nat.add_zero]

/-- **The manager counts exactly**, in every run of fewer than 2⁶³ tasks, and finds nothing. -/
theorem manager_exact
    (hr : Reach (pipelineHandler config) G (started config surroundings times tasks) p)
    (hcalls : Fintype.card ι < 2 ^ 63) : ManagerExact tasks p := by
  have hnothing := found_eq_zero hr
  obtain ⟨⟨-, hbalance, -, houtput⟩, hempty⟩ := reach_pathAccounts hr
  obtain ⟨φ, hI, hφ⟩ := exists_bookkeeping hr hcalls
  obtain ⟨hopportunities, hfailed⟩ := hI.opportunities (by omega)
  obtain ⟨hfinished, hdelivered, hbegun⟩ := counts_le hI
  have hends {i : ι} {r : Result Unit} (hi : p.tasks i = .done r) : Ends (φ i) r := by
    have hfollows := hφ i
    rwa [hi] at hfollows
  constructor
  case neverFails =>
    intro i e hi
    rw [← hI.workers i]
    exact Progress.isWorker_of_ends (hends hi) (hfailed i) (hI.notConfused i)
  case decisionTx_le => exact hfinished
  case submitted_le => exact hdelivered
  case mempoolRx_le => exact hbegun
  case submitted =>
    have hcard := congrArg Multiset.card hbalance
    rwa [Multiset.card_add, Multiset.card_add] at hcard
  case delivered =>
    have hcard := congrArg Multiset.card houtput
    simp only [Multiset.coe_card, Multiset.card_map, List.length_map, List.length_append] at hcard
    exact hcard.symm
  case genuine => exact reach_results hr
  case results_le => exact hI.results ▸ Nat.le_add_right _ _
  case opportunities => omega
  case atEnd =>
    intro hdone
    have hended (i : ι) : ∃ r, p.tasks i = .done r := by
      have hnext := hdone i
      rcases hi : p.tasks i with r | ⟨op, k⟩
      · exact ⟨r, rfl⟩
      · rw [hi] at hnext
        cases hnext
    choose r hi using hended
    obtain ⟨hmempoolRx, hsubmitted, hdecisionTx, hresults⟩ := counts_ended hI hfailed fun i => hends (hi i)
    refine ⟨hmempoolRx, hsubmitted, hdecisionTx, hresults, Finset.sum_eq_zero fun i _ => ?_⟩
    rw [hempty i (r i) (hi i), held_none]

end Runs

/-- A call, a round of a worker of each stage, and one of the manager. -/
def oneSwap : Fin 6 → ManagerTask
  | 0 => .processTransaction (swap "0x1")
  | 1 => .filterWorker 1
  | 2 => .simulationWorker 1
  | 3 => .bundleWorker 1
  | 4 => .resultsProcessor 1
  | 5 => .statsReporter 1

/-- Hardly any time has passed. -/
def instant (_ : ℕ) : Times := ⟨.finite 1, 0⟩

/-- The transaction becomes a result, and all that is counted. -/
theorem oneSwap_exact : ∃ p : PipelinePool (Fin 6),
    Reach (pipelineHandler ⟨1000, 500, 100, 1, 25⟩) AnyStep (started ⟨1000, 500, 100, 1, 25⟩ still instant oneSwap) p ∧
      (∀ i, (p.tasks i).next? = none) ∧ ManagerExact oneSwap p ∧ (numbers p).results = 1 := by
  have hr : Reach (pipelineHandler ⟨1000, 500, 100, 1, 25⟩) AnyStep
      (started ⟨1000, 500, 100, 1, 25⟩ still instant oneSwap) _ :=
    reach_runSchedule ([5, 0, 0, 5, 0] ++ List.replicate 6 1 ++ List.replicate 6 2 ++ List.replicate 9 3 ++
      [4, 4, 4, 5, 5, 4, 5, 5]) _
  exact ⟨_, hr, by decide, manager_exact hr (by decide), by decide⟩

end Botmev.Core.DecisionPathManager
