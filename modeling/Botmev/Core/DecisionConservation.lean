import Botmev.Core.DecisionPath
import Mathlib.Algebra.BigOperators.Group.Finset.Piecewise
import Mathlib.Algebra.Order.Group.Multiset
import Mathlib.Data.Fintype.Basic
import Mathlib.Tactic.Abel

/-!
# Conservation in the decision path

A ledger of the operations that were done says what was submitted, what became of it, and what each
task has in hand: a worker has what it has received until it passes it on, counts it as dropped or
observes that it is filtered out, and a new round finds its hand empty. A decision that the output
has no room for is lost: its worker logs that, and counts nothing.

## What is proved

* `pathHandler_balance`: what an operation does to the queues, to the hand of its task and to the
  ledger.
* `PathTask.follows`: which operations a task asks for, by what it has in hand.
* `reach_accounts`: in every run, what was submitted is filtered out, queued, in hand, dropped,
  delivered or lost.
* `conserved_of_room`: nothing is lost in a run in which the output always has room.
* `second_decision_lost`: a decision that the output has no room for.
-/

namespace Botmev.Core.DecisionPath

open Botmev.Rust Botmev.Library Pool

/-! ### The ledger -/

/-- What may become of a submitted transaction. -/
inductive Fate where
  /-- It is not interesting. -/
  | filteredOut
  /-- It is counted as dropped. -/
  | dropped
  /-- The decision on it is sent to the output. -/
  | delivered
  /-- The output has no room for it. -/
  | lost
  deriving DecidableEq, Repr

/-- What an operation means for the transaction that its task has in hand. -/
def fate : (op : PathOp) → PathI.Reply op → Option Fate
  | .incTransactionsDropped _ _, _ => some .dropped
  | .recordDecisionLatency _ strategy outcome, _ =>
    if strategy = "filter" ∧ outcome = "filtered_out" then some .filteredOut else none
  | .trySend .output _, reply => if reply = .sent then some .delivered else some .lost
  | _, _ => none

/-- What a task has in hand after an operation. -/
def handAfter (hand : Option ParsedTransaction) (op : PathOp) (reply : PathI.Reply op) : Option ParsedTransaction :=
  if (fate op reply).isSome then none
  else
    match op, reply with
    -- a round begins
    | .loadShutdown, _ => none
    | .trySend .filter transaction, reply => if reply = .sent then none else some transaction
    | .trySend _ _, reply => if reply = .sent then none else hand
    | .recvTimeout .filter, .ok transaction => some transaction
    | .recvTimeout .simulation, .ok filtered => some filtered.transaction
    | .recvTimeout .bundle, .ok result => some result.transaction
    | _, _ => hand

/-- What an operation submits. -/
def submits : PathOp → Multiset ParsedTransaction
  | .trySend .filter transaction => {transaction}
  | _ => 0

/-- What there is in a hand. -/
def held (hand : Option ParsedTransaction) : Multiset ParsedTransaction := hand.toList

/-- What was submitted, what became of it, and what each task has in hand. -/
structure Ledger (ι : Type) where
  submitted : Multiset ParsedTransaction
  met : Fate → Multiset ParsedTransaction
  hand : ι → Option ParsedTransaction

variable {ι : Type} [DecidableEq ι]

/-- Before anything is submitted. -/
def Ledger.empty : Ledger ι := ⟨0, fun _ => 0, fun _ => none⟩

/-- After one more operation. -/
def Ledger.record (ledger : Ledger ι) (e : Event PathI ι) : Ledger ι where
  submitted := ledger.submitted + submits e.op
  met f := ledger.met f + if fate e.op e.reply = some f then held (ledger.hand e.task) else 0
  hand := Function.update ledger.hand e.task (handAfter (ledger.hand e.task) e.op e.reply)

/-- The ledger of what has happened. -/
def ledger (p : PathPool ι) : Ledger ι := p.history.foldl Ledger.record .empty

/-- The transactions that wait in the queues. -/
def queued (path : DecisionPath) : Multiset ParsedTransaction :=
  Multiset.ofList (path.queue .filter) + Multiset.ofList ((path.queue .simulation).map fun item => item.transaction) +
    Multiset.ofList ((path.queue .bundle).map fun item => item.transaction)

/-- The transactions that the tasks have in hand. -/
def inHand [Fintype ι] (p : PathPool ι) : Multiset ParsedTransaction := ∑ i, held ((ledger p).hand i)

/-- The labels of the drops. -/
def dropLabels : List (String × String) :=
  [("queue_full", "filter"), ("send_failed", "simulation"), ("send_failed", "bundle")]

/-- The drops that are counted. -/
def countedDrops (path : DecisionPath) : U64 :=
  path.transactionsDropped ("queue_full", "filter") + path.transactionsDropped ("send_failed", "simulation") +
    path.transactionsDropped ("send_failed", "bundle")

/-- The result that an operation receives. -/
def receives : (op : PathOp) → PathI.Reply op → Option DecisionResult
  | .recvTimeout .output, .ok result => some result
  | _, _ => none

/-- The results that were received. -/
def received (p : PathPool ι) : List (ι × DecisionResult) := gather receives p.history

/-- **Conservation** in a state of the pipeline. -/
structure Conserved [Fintype ι] (p : PathPool ι) : Prop where
  /-- What was submitted is filtered out, queued, in hand, dropped or delivered. -/
  balance : (ledger p).submitted =
    (ledger p).met .filteredOut + queued p.shared + inHand p + (ledger p).met .dropped + (ledger p).met .delivered
  /-- What is dropped is counted. -/
  counted : countedDrops p.shared = BitVec.ofNat 64 ((ledger p).met .dropped).card
  /-- Nothing is delivered more often than it was submitted. -/
  once : (ledger p).met .delivered ≤ (ledger p).submitted
  /-- What is delivered is received once, or waits in the output. -/
  output : Multiset.ofList (((received p).map Prod.snd ++ p.shared.queue .output).map fun result => result.transactionId) =
    ((ledger p).met .delivered).map fun transaction => transaction.transaction.hash

/-! ### What an operation does -/

/-- What a task may ask for, by what it has in hand. -/
def Allowed (hand : Option ParsedTransaction) : PathOp → Prop
  | .loadShutdown | .trySend .filter _ | .recvTimeout _ => hand = none
  | .trySend .simulation filtered => hand = some filtered.transaction
  | .trySend .bundle result => hand = some result.transaction
  | .trySend .output result =>
    ∃ transaction, hand = some transaction ∧ result.transactionId = transaction.transaction.hash
  | .incTransactionsDropped reason queueType => hand.isSome ∧ (reason, queueType) ∈ dropLabels
  | _ => True

variable {config : DecisionPathConfig} {path : DecisionPath} {hand : Option ParsedTransaction} {op : PathOp}

@[simp] theorem held_none : held none = 0 := rfl

@[simp] theorem held_some (transaction : ParsedTransaction) : held (some transaction) = {transaction} := rfl

@[simp] theorem queue_tick (stage : Stage) : path.tick.queue stage = path.queue stage := rfl

@[simp] theorem queue_setQueue_self (stage : Stage) (items : List stage.Item) :
    (path.setQueue stage items).queue stage = items := Function.update_self ..

theorem queue_setQueue_of_ne {stage stage' : Stage} (hne : stage' ≠ stage) (items : List stage.Item) :
    (path.setQueue stage items).queue stage' = path.queue stage' := Function.update_of_ne hne ..

@[simp] theorem queued_tick : queued path.tick = queued path := rfl

variable (config path) in
theorem trySend_cases (stage : Stage) (item : stage.Item) :
    (accepts config stage path = true ∧ pathHandler config (.trySend stage item) path =
        (.sent, (path.setQueue stage (path.queue stage ++ [item])).tick)) ∨
      (accepts config stage path = false ∧ pathHandler config (.trySend stage item) path = (.full, path.tick)) := by
  rcases haccepts : accepts config stage path with _ | _ <;> simp [pathHandler, haccepts]

/-- The transaction of an item that waits for a stage. -/
def carried : (stage : Stage) → stage.Item → Option ParsedTransaction
  | .filter, transaction => some transaction
  | .simulation, filtered => some filtered.transaction
  | .bundle, result => some result.transaction
  | .output, _ => none

theorem queued_append (stage : Stage) (item : stage.Item) :
    queued (path.setQueue stage (path.queue stage ++ [item])) = queued path + held (carried stage item) := by
  cases stage
  all_goals
    simp only [queued, queue_setQueue_self, queue_setQueue_of_ne, ne_eq, reduceCtorEq, not_false_eq_true,
      List.map_append, List.map_cons, List.map_nil, ← Multiset.coe_add, Multiset.coe_singleton, carried, held_some,
      held_none]
    abel

theorem queued_cons {stage : Stage} {item : stage.Item} {items : List stage.Item}
    (hqueue : path.queue stage = item :: items) :
    queued path = queued (path.setQueue stage items) + held (carried stage item) := by
  cases stage
  all_goals
    simp only [queued, queue_setQueue_self, queue_setQueue_of_ne, ne_eq, reduceCtorEq, not_false_eq_true, hqueue,
      List.map_cons, ← Multiset.cons_coe, ← Multiset.singleton_add, carried, held_some, held_none]
    abel

variable (config path) in
/-- **What an operation does**: what is queued, in hand or submitted is then queued or in hand, or the
ledger says what became of it. -/
theorem pathHandler_balance (hop : Allowed hand op) :
    queued path + held hand + submits op =
      queued (pathHandler config op path).2 + held (handAfter hand op (pathHandler config op path).1) +
        if (fate op (pathHandler config op path).1).isSome then held hand else 0 := by
  cases op with
  | trySend stage item =>
    rcases trySend_cases config path stage item with ⟨-, heq⟩ | ⟨-, heq⟩
    · rw [heq, queued_tick, queued_append]
      cases stage <;> cases hop <;> simp [carried, handAfter, fate, submits]
    · rw [heq, queued_tick]
      cases stage <;> cases hop <;> simp [handAfter, fate, submits]
  | recvTimeout stage =>
    cases hop
    rcases hqueue : path.queue stage with _ | ⟨item, items⟩
    · simp [pathHandler, hqueue, handAfter, fate, submits]
    · rw [queued_cons hqueue]
      cases stage <;> simp [pathHandler, hqueue, handAfter, fate, submits, carried]
  | recordDecisionLatency durationMs strategy outcome =>
    by_cases h : strategy = "filter" ∧ outcome = "filtered_out" <;> simp [handAfter, fate, submits, pathHandler, h]
  | loadShutdown =>
    cases hop
    rfl
  | _ => simp [handAfter, fate, submits, pathHandler, queued]

variable (config path) in
/-- What an operation sends to the output, and what it receives from it. -/
theorem pathHandler_output (hop : Allowed hand op) :
    Multiset.ofList ((path.queue .output).map fun result => result.transactionId) +
        (if fate op (pathHandler config op path).1 = some .delivered then held hand else 0).map
          (fun transaction => transaction.transaction.hash) =
      Multiset.ofList ((((receives op (pathHandler config op path).1).toList) ++
        (pathHandler config op path).2.queue .output).map fun result => result.transactionId) := by
  cases op with
  | trySend stage item =>
    rcases trySend_cases config path stage item with ⟨-, heq⟩ | ⟨-, heq⟩
    · rw [heq]
      cases stage with
      | output =>
        obtain ⟨transaction, rfl, hid⟩ := hop
        simp [fate, receives, hid, ← Multiset.coe_add]
      | _ => simp [fate, receives, queue_setQueue_of_ne]
    · rw [heq]
      cases stage <;> simp [fate, receives]
  | recvTimeout stage =>
    rcases hqueue : path.queue stage with _ | ⟨item, items⟩
    · simp [pathHandler, hqueue, fate, receives]
    · cases stage <;> simp [pathHandler, hqueue, fate, receives, queue_setQueue_of_ne]
  | recordDecisionLatency durationMs strategy outcome =>
    by_cases h : strategy = "filter" ∧ outcome = "filtered_out" <;> simp [fate, receives, pathHandler, h]
  | _ => simp [fate, receives, pathHandler]

variable (config path) in
theorem pathHandler_counts (hop : Allowed hand op) :
    countedDrops (pathHandler config op path).2 = countedDrops path +
      BitVec.ofNat 64 (if fate op (pathHandler config op path).1 = some .dropped then held hand else 0).card := by
  cases op with
  | trySend stage item =>
    rcases trySend_cases config path stage item with ⟨-, heq⟩ | ⟨-, heq⟩
    · rw [heq]
      cases stage <;> simp [fate, countedDrops, setQueue, tick]
    · rw [heq]
      cases stage <;> simp [fate, countedDrops, tick]
  | recvTimeout stage =>
    rcases hqueue : path.queue stage with _ | ⟨item, items⟩ <;>
      simp [pathHandler, hqueue, fate, countedDrops, setQueue]
  | recordDecisionLatency durationMs strategy outcome =>
    by_cases h : strategy = "filter" ∧ outcome = "filtered_out" <;> simp [fate, pathHandler, h]
  | incTransactionsDropped reason queueType =>
    obtain ⟨hhand, hlabel⟩ := hop
    obtain ⟨transaction, rfl⟩ := Option.isSome_iff_exists.mp hhand
    simp only [dropLabels, List.mem_cons, Prod.mk.injEq, List.not_mem_nil, or_false] at hlabel
    rcases hlabel with ⟨rfl, rfl⟩ | ⟨rfl, rfl⟩ | ⟨rfl, rfl⟩ <;>
      simp [pathHandler, fate, countedDrops] <;> ac_rfl
  | _ => simp [fate, pathHandler, countedDrops, tick]

/-! ### The accounts -/

variable {p : PathPool ι} {i : ι} {k : PathI.Reply op → PathM Unit}

theorem ledger_after :
    ledger (p.after (pathHandler config) i op k) = (ledger p).record ⟨i, op, (pathHandler config op p.shared).1⟩ := by
  rw [ledger, after_history, List.foldl_append]
  rfl

/-- What the hands hold, after one is given another transaction. -/
theorem sum_update_held [Fintype ι] (hands : ι → Option ParsedTransaction) (i : ι) (hand : Option ParsedTransaction) :
    ∑ j, held (Function.update hands i hand j) + held (hands i) = ∑ j, held (hands j) + held hand := by
  have hupdate : ∀ j, held (Function.update hands i hand j) = Function.update (fun j => held (hands j)) i (held hand) j :=
    fun j => Function.apply_update (fun _ => held) hands i hand j
  simp only [hupdate]
  rw [Finset.sum_update_of_mem (Finset.mem_univ i), ← Finset.add_sum_erase _ _ (Finset.mem_univ i), Finset.sdiff_singleton_eq_erase]
  abel

/-- Everything that a ledger says became of what was submitted. -/
def Ledger.settled (ledger : Ledger ι) : Multiset ParsedTransaction :=
  ledger.met .filteredOut + ledger.met .dropped + ledger.met .delivered + ledger.met .lost

theorem Ledger.settled_record (ledger : Ledger ι) (e : Event PathI ι) :
    (ledger.record e).settled =
      ledger.settled + if (fate e.op e.reply).isSome then held (ledger.hand e.task) else 0 := by
  rcases hfate : fate e.op e.reply with _ | f
  · simp [settled, record, hfate]
  · cases f <;> simp [settled, record, hfate] <;> abel

/-- **The accounts**: what is true in every state, with what each task has in hand. -/
structure Accounts [Fintype ι] (p : PathPool ι) (hands : ι → Option ParsedTransaction) : Prop where
  hands : hands = (ledger p).hand
  balance : (ledger p).submitted = (ledger p).settled + queued p.shared + inHand p
  counted : countedDrops p.shared = BitVec.ofNat 64 ((ledger p).met .dropped).card
  output : Multiset.ofList (((received p).map Prod.snd ++ p.shared.queue .output).map fun result => result.transactionId) =
    ((ledger p).met .delivered).map fun transaction => transaction.transaction.hash

/-- An operation that its task may ask for keeps the accounts. -/
theorem Accounts.after [Fintype ι] {hands : ι → Option ParsedTransaction} (hI : Accounts p hands)
    (hop : Allowed (hands i) op) :
    Accounts (p.after (pathHandler config) i op k)
      (Function.update hands i (handAfter (hands i) op (pathHandler config op p.shared).1)) := by
  obtain ⟨rfl, hbalance, hcounted, houtput⟩ := hI
  constructor
  case hands =>
    rw [ledger_after]
    rfl
  case balance =>
    have hmoved := pathHandler_balance config p.shared hop
    have hhands := sum_update_held (ledger p).hand i (handAfter ((ledger p).hand i) op (pathHandler config op p.shared).1)
    rw [inHand] at hbalance
    rw [inHand, ledger_after, Ledger.settled_record, after_shared]
    simp only [Ledger.record]
    refine Multiset.ext.mpr fun transaction => ?_
    have h₁ := congrArg (Multiset.count transaction) hbalance
    have h₂ := congrArg (Multiset.count transaction) hmoved
    have h₃ := congrArg (Multiset.count transaction) hhands
    simp only [Multiset.count_add] at h₁ h₂ h₃ ⊢
    omega
  case counted =>
    rw [ledger_after, after_shared, pathHandler_counts config p.shared hop, hcounted]
    simp only [Ledger.record, Multiset.card_add, BitVec.ofNat_add]
  case output =>
    have hmoved := pathHandler_output config p.shared hop
    have hreceived : (received (p.after (pathHandler config) i op k)).map Prod.snd =
        (received p).map Prod.snd ++ (receives op (pathHandler config op p.shared).1).toList := by
      rw [received, gather_after, List.map_append]
      cases receives op (pathHandler config op p.shared).1 <;> rfl
    rw [hreceived, ledger_after, after_shared]
    simp only [Ledger.record, Multiset.map_add]
    rw [← houtput, List.append_assoc, List.map_append, ← Multiset.coe_add, ← hmoved, List.map_append, ← Multiset.coe_add,
      add_assoc]

/-! ### The protocol of the tasks -/

/-- The channels are never disconnected. -/
def Connected : (op : PathOp) → PathI.Reply op → Prop
  | .trySend _ _, reply => reply ≠ .disconnected
  | _, _ => True

/-- The protocol of the tasks: a phase is what one has in hand. -/
@[reducible] def pathProtocol : Protocol PathI where
  Phase := Option ParsedTransaction
  legal := Connected
  move hand op reply hand' := Allowed hand op ∧ hand' = handAfter hand op reply

/-- A task ends with nothing in hand. -/
def EmptyHanded (hand : Option ParsedTransaction) (_ : Result Unit) : Prop := hand = none

theorem follows_then {t : PathM Unit} {f : Unit → PathM Unit} (ht : pathProtocol.Follows EmptyHanded hand t)
    (hf : pathProtocol.Follows EmptyHanded none (f ())) : pathProtocol.Follows EmptyHanded hand (t >>= f) := by
  refine ht.bind ?_ fun _ _ h => h
  rintro _ ⟨⟩ rfl
  exact hf

variable {transaction : ParsedTransaction}

theorem observe_follows (durationMs : U64) (strategy outcome : String) :
    pathProtocol.Follows EmptyHanded none
      (Async.request (I := PathI) (.recordDecisionLatency durationMs strategy outcome)) := by
  intro reply _
  refine ⟨none, ⟨trivial, ?_⟩, rfl⟩
  simp [handAfter]

theorem filteredOut_follows (durationMs : U64) :
    pathProtocol.Follows EmptyHanded hand
      (Async.request (I := PathI) (.recordDecisionLatency durationMs "filter" "filtered_out")) := by
  intro reply _
  exact ⟨none, ⟨trivial, rfl⟩, rfl⟩

theorem drop_follows {reason queueType : String} (hlabel : (reason, queueType) ∈ dropLabels) :
    pathProtocol.Follows EmptyHanded (some transaction)
      (Async.request (I := PathI) (.incTransactionsDropped reason queueType)) := by
  intro reply _
  exact ⟨none, ⟨⟨rfl, hlabel⟩, rfl⟩, rfl⟩

theorem sendOn_follows {stage : Stage} {item : stage.Item} {failed : PathM Unit}
    (hop : Allowed hand (.trySend stage item)) (hsent : handAfter hand (.trySend stage item) .sent = none)
    (hfailed : pathProtocol.Follows EmptyHanded (handAfter hand (.trySend stage item) .full) failed) :
    pathProtocol.Follows EmptyHanded hand (sendOn stage item failed) := by
  rintro (_ | _ | _) hconnected
  · exact ⟨none, ⟨hop, hsent.symm⟩, rfl⟩
  · exact ⟨_, ⟨hop, rfl⟩, hfailed⟩
  · exact absurd rfl hconnected

theorem processTransaction_follows :
    pathProtocol.Follows EmptyHanded none (processTransaction transaction) := by
  rintro (_ | _ | _) hconnected
  · exact ⟨none, ⟨rfl, rfl⟩, rfl⟩
  · exact ⟨some transaction, ⟨rfl, rfl⟩, drop_follows (by decide)⟩
  · exact absurd rfl hconnected

/-- A worker, if a round of it gives away what it has received. -/
theorem worker_follows {stage : Stage} {body : stage.Item → PathM Unit}
    (hbody : ∀ item, pathProtocol.Follows EmptyHanded (handAfter none (.recvTimeout stage) (.ok item)) (body item))
    (rounds : ℕ) : pathProtocol.Follows EmptyHanded none (worker stage body rounds) := by
  induction rounds with
  | zero => rfl
  | succ rounds ih =>
    rintro (_ | _) _
    · refine ⟨none, ⟨rfl, rfl⟩, ?_⟩
      rintro (e | item) _
      · cases e
        · exact ⟨none, ⟨rfl, by cases stage <;> rfl⟩, ih⟩
        · exact ⟨none, ⟨rfl, by cases stage <;> rfl⟩, rfl⟩
      · exact ⟨_, ⟨rfl, rfl⟩, follows_then (hbody item) ih⟩
    · exact ⟨none, ⟨rfl, rfl⟩, rfl⟩

theorem filterBody_follows (transaction : ParsedTransaction) :
    pathProtocol.Follows EmptyHanded (some transaction) (filterBody transaction) := by
  intro filterTimeMs _
  refine ⟨some transaction, ⟨trivial, rfl⟩, ?_⟩
  by_cases hinteresting : fastFilter transaction = true
  · simp only [hinteresting, if_true]
    refine follows_then (sendOn_follows ?_ rfl ?_) (observe_follows _ _ _)
    · exact rfl
    · exact drop_follows (by decide)
  · simp only [hinteresting]
    exact filteredOut_follows _

theorem evaluateAll_follows (strategies : List ℕ) (opportunities : List Opportunity) :
    pathProtocol.Follows (fun hand r => hand = some transaction ∧ ∃ opportunities, r = .ok opportunities)
      (some transaction) (evaluateAll transaction strategies opportunities) := by
  induction strategies generalizing opportunities with
  | nil => exact ⟨rfl, opportunities, rfl⟩
  | cons strategy strategies ih =>
    rintro (_ | _) _
    · exact ⟨_, ⟨trivial, rfl⟩, ih _⟩
    · refine ⟨_, ⟨trivial, rfl⟩, ?_⟩
      rintro (_ | (_ | _ | _)) _
      all_goals exact ⟨_, ⟨trivial, rfl⟩, ih _⟩

theorem simulationBody_follows (strategies : ℕ) (filtered : FilteredTransaction) :
    pathProtocol.Follows EmptyHanded (some filtered.transaction) (simulationBody strategies filtered) := by
  refine (evaluateAll_follows (List.range strategies) []).bind ?_ ?_
  · rintro _ opportunities ⟨rfl, -⟩ simulationTimeMs _
    refine ⟨some filtered.transaction, ⟨trivial, rfl⟩, ?_⟩
    refine follows_then (sendOn_follows ?_ rfl ?_) (observe_follows _ _ _)
    · exact rfl
    · exact drop_follows (by decide)
  · rintro _ _ ⟨-, opportunities, h⟩
    cases h

theorem recordDecision_follows (opportunities : ℕ) (bundleTimeMs totalTimeMs : Binary64) :
    pathProtocol.Follows EmptyHanded none (recordDecision config opportunities bundleTimeMs totalTimeMs) := by
  rintro (e | ⟨⟩) _
  · exact ⟨none, ⟨trivial, rfl⟩, rfl⟩
  · refine ⟨none, ⟨trivial, rfl⟩, ?_⟩
    rintro (e | ⟨⟩) _
    · exact ⟨none, ⟨trivial, rfl⟩, rfl⟩
    · refine ⟨none, ⟨trivial, rfl⟩, ?_⟩
      rintro ⟨⟩ _
      refine ⟨none, ⟨trivial, rfl⟩, ?_⟩
      rintro ⟨⟩ _
      exact ⟨none, ⟨trivial, rfl⟩, observe_follows _ _ _⟩

theorem bundleBody_follows (result : SimulationResult) :
    pathProtocol.Follows EmptyHanded (some result.transaction) (bundleBody config result) := by
  intro bundleTimeMs _
  refine ⟨some result.transaction, ⟨trivial, rfl⟩, ?_⟩
  refine follows_then (sendOn_follows ?_ rfl ?_) (recordDecision_follows _ _ _)
  · exact ⟨result.transaction, rfl, rfl⟩
  · exact rfl

/-- **Every task follows the protocol**, and begins with nothing in hand. -/
theorem PathTask.follows (config : DecisionPathConfig) (strategies : ℕ) (task : PathTask) :
    pathProtocol.Follows EmptyHanded none (task.task config strategies) := by
  cases task with
  | submit transaction => exact processTransaction_follows
  | filterWorker rounds => exact worker_follows filterBody_follows rounds
  | simulationWorker rounds => exact worker_follows (simulationBody_follows strategies) rounds
  | bundleWorker rounds => exact worker_follows bundleBody_follows rounds
  | receive =>
    rintro (_ | _) _
    all_goals exact ⟨none, ⟨rfl, rfl⟩, rfl⟩
  | shutdown =>
    rintro ⟨⟩ _
    exact ⟨none, ⟨trivial, rfl⟩, rfl⟩

/-! ### Runs -/

variable {strategies : ℕ} {tasks : ι → PathTask} {surroundings : ℕ → Moment} {G : PathPool ι → ι → Prop}

theorem connected_reply (op : PathOp) (path : DecisionPath) : Connected op (pathHandler config op path).1 := by
  cases op with
  | trySend stage item =>
    rcases trySend_cases config path stage item with ⟨-, heq⟩ | ⟨-, heq⟩ <;>
      simp [heq, Connected]
  | _ => trivial

/-- The tasks on a new pipeline. -/
def started (config : DecisionPathConfig) (strategies : ℕ) (surroundings : ℕ → Moment) (tasks : ι → PathTask) :
    PathPool ι :=
  .start (new surroundings) fun i => (tasks i).task config strategies

/-- The output takes what the task is about to send to it. -/
def HasRoom (config : DecisionPathConfig) (p : PathPool ι) (i : ι) : Prop :=
  match (p.tasks i).next? with
  | some (.trySend .output _) => accepts config .output p.shared = true
  | _ => True

instance (p : PathPool ι) (i : ι) : Decidable (HasRoom config p i) := by
  unfold HasRoom
  split <;> infer_instance

theorem lost_eq_zero
    (hr : Reach (pathHandler config) (HasRoom config) (started config strategies surroundings tasks) p) :
    (ledger p).met .lost = 0 := by
  apply hr.invariant fun p => (ledger p).met .lost = 0
  · rfl
  · intro p i op k hlost hroom hi
    have hfate : fate op (pathHandler config op p.shared).1 ≠ some .lost := by
      cases op with
      | trySend stage item =>
        rcases trySend_cases config p.shared stage item with ⟨-, heq⟩ | ⟨hfull, heq⟩
        · cases stage <;> simp [heq, fate]
        · cases stage with
          | output =>
            simp only [HasRoom, hi, Async.next?_await] at hroom
            rw [hfull] at hroom
            cases hroom
          | _ => simp [fate]
      | recordDecisionLatency durationMs strategy outcome =>
        by_cases h : strategy = "filter" ∧ outcome = "filtered_out" <;> simp [fate, h]
      | _ => simp [fate]
    rw [ledger_after]
    simp only [Ledger.record, hlost, hfate, if_false, add_zero]

variable [Fintype ι]

theorem accounts_started : Accounts (started config strategies surroundings tasks) fun _ => none := by
  refine ⟨rfl, ?_, rfl, rfl⟩
  simp [ledger, started, start, Ledger.empty, Ledger.settled, queued, new, inHand]

/-- **The accounts of every run**, whatever the channels have room for. -/
theorem reach_accounts (hr : Reach (pathHandler config) G (started config strategies surroundings tasks) p) :
    Accounts p (ledger p).hand := by
  obtain ⟨hands, hI, -⟩ := Protocol.exists_phases hr (fun i => (tasks i).follows config strategies) Accounts
    accounts_started (fun p _ op _ => connected_reply op p.shared)
    (fun p hands i op k hand' hI _ _ hm => hm.2 ▸ hI.after hm.1)
  rw [← hI.hands]
  exact hI

/-- **Conservation holds just while nothing is lost.** -/
theorem conserved_iff (hr : Reach (pathHandler config) G (started config strategies surroundings tasks) p) :
    Conserved p ↔ (ledger p).met .lost = 0 := by
  obtain ⟨-, hbalance, hcounted, houtput⟩ := reach_accounts hr
  rw [Ledger.settled] at hbalance
  constructor
  · intro h
    have hclaimed := h.balance
    refine Multiset.ext.mpr fun transaction => ?_
    have h₁ := congrArg (Multiset.count transaction) hbalance
    have h₂ := congrArg (Multiset.count transaction) hclaimed
    simp only [Multiset.count_add] at h₁ h₂
    rw [Multiset.count_zero]
    omega
  · intro hlost
    rw [hlost, add_zero] at hbalance
    refine ⟨?_, hcounted, ?_, houtput⟩
    · rw [hbalance]
      abel
    · rw [hbalance, Multiset.le_iff_count]
      intro transaction
      simp only [Multiset.count_add]
      omega

/-- **Nothing is lost** in a run in which the output has room for every decision, whichever order
the operations of submitters and workers come in and whichever other channels are full. -/
theorem conserved_of_room
    (hr : Reach (pathHandler config) (HasRoom config) (started config strategies surroundings tasks) p) :
    Conserved p :=
  (conserved_iff hr).mpr (lost_eq_zero hr)

/-- A swap. -/
def swap (hash : String) : ParsedTransaction where
  transaction := ⟨hash, "0xfrom", some "0xto", "2000000000000000000", "50000000000", "200000", 1, "0x38ed1739"⟩
  decodedInput := none
  targetType := .uniswapV2

/-- Nobody waits, and nothing takes any time. -/
def still (_ : ℕ) : Moment := ⟨false, .finite 0, fun _ => false, fun _ _ => .ok .noOpportunity⟩

/-- Two submissions, and two rounds of a worker of each stage. -/
def twoSwaps : Fin 5 → PathTask
  | 0 => .submit (swap "0x1")
  | 1 => .submit (swap "0x2")
  | 2 => .filterWorker 2
  | 3 => .simulationWorker 2
  | 4 => .bundleWorker 2

/-- With room for two decisions, both are delivered. -/
theorem both_decisions_delivered :
    Conserved ((started ⟨1000, 500, 100, 2, 25⟩ 0 still twoSwaps).runSchedule (pathHandler ⟨1000, 500, 100, 2, 25⟩)
      ([0, 1] ++ List.replicate 10 2 ++ List.replicate 10 3 ++ List.replicate 18 4)) :=
  conserved_of_room (reach_of_admits (by decide))

/-- **With room for one, the second decision is lost**: every task has returned, and one of the two
transactions is nowhere. -/
theorem second_decision_lost :
    ∃ p : PathPool (Fin 5),
      Reach (pathHandler ⟨1000, 500, 100, 1, 25⟩) AnyStep (started ⟨1000, 500, 100, 1, 25⟩ 0 still twoSwaps) p ∧
        (∀ i, (p.tasks i).next?.isNone) ∧ (ledger p).submitted = {swap "0x1", swap "0x2"} ∧
        (ledger p).met .delivered = {swap "0x1"} ∧ countedDrops p.shared = 0 ∧ ¬ Conserved p := by
  refine ⟨_, reach_runSchedule ([0, 1] ++ List.replicate 10 2 ++ List.replicate 10 3 ++ List.replicate 18 4) _,
    by decide, by decide, by decide, by decide, fun h => ?_⟩
  have hbalance := congrArg Multiset.card h.balance
  revert hbalance
  decide

end Botmev.Core.DecisionPath
