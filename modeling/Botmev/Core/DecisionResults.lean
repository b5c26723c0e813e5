import Botmev.Core.DecisionConservation

/-!
# What comes out of the decision path

The workers of the decision path pass a transaction on with what they have found of it. However they are
interleaved, a result tells of one transaction: it was submitted and is interesting, and the opportunities are
those that the strategies have found in it, and in no other.

Each worker is looked at by itself: if what it receives is as it should be, so is what it sends.

## What is proved

* `worker_genuine`: a worker, whatever is done in between.
* `ItemsGenuine.after`: the channels, after one more operation.
* `results_genuine`: the results of every run.
-/

namespace Botmev.Core.DecisionPath

open Botmev.Rust Botmev.Library Pool

variable {ι : Type} {T : Set ParsedTransaction} {Q : ℕ → ParsedTransaction → Opportunity → Prop} {strategies : ℕ}

/-! ### What should be sent -/

/-- Each opportunity in a transaction is of another strategy, in the order of the strategies, and `Q` holds
of the two: of each strategy there is at most one. -/
def FoundIn (Q : ℕ → ParsedTransaction → Opportunity → Prop) (strategies : ℕ) (transaction : ParsedTransaction)
    (opportunities : List Opportunity) : Prop :=
  ∃ finders : List ℕ, finders.Sublist (List.range strategies) ∧
    finders.Forall₂ (fun strategy opportunity => Q strategy transaction opportunity) opportunities

/-- **A result of a transaction** of `T`. -/
structure ResultOf (Q : ℕ → ParsedTransaction → Opportunity → Prop) (strategies : ℕ) (transaction : ParsedTransaction)
    (result : DecisionResult) : Prop where
  /-- The transaction is interesting. -/
  interesting : fastFilter transaction = true
  /-- The result has its hash. -/
  transactionId : result.transactionId = transaction.transaction.hash
  /-- Its opportunities are found in this transaction. -/
  opportunities : FoundIn Q strategies transaction result.opportunities
  /-- Its time is that of all stages. -/
  totalMs : result.processingTimeMs =
    (result.stageTimings.filterMs.add result.stageTimings.simulationMs).add result.stageTimings.bundleMs
  success : result.success = true ∧ result.error = none

/-- What a channel should hold. -/
def ItemGenuine (T : Set ParsedTransaction) (Q : ℕ → ParsedTransaction → Opportunity → Prop) (strategies : ℕ) :
    (stage : Stage) → stage.Item → Prop
  | .filter, transaction => transaction ∈ T
  | .simulation, filtered => filtered.transaction ∈ T ∧ fastFilter filtered.transaction = true
  | .bundle, simulated => simulated.transaction ∈ T ∧ fastFilter simulated.transaction = true ∧
      FoundIn Q strategies simulated.transaction simulated.opportunities
  | .output, result => ∃ transaction ∈ T, ResultOf Q strategies transaction result

/-- What is received is as it should be, and so is what a strategy finds. -/
def GenuineReply (T : Set ParsedTransaction) (Q : ℕ → ParsedTransaction → Opportunity → Prop) (strategies : ℕ) :
    (op : PathOp) → PathI.Reply op → Prop
  | .recvTimeout stage, .ok item => ItemGenuine T Q strategies stage item
  | .evaluate strategy transaction, .ok (.opportunity opportunity) => Q strategy transaction opportunity
  | _, _ => True

/-- What is sent is as it should be. -/
def GenuineOp (T : Set ParsedTransaction) (Q : ℕ → ParsedTransaction → Opportunity → Prop) (strategies : ℕ) :
    PathOp → Prop
  | .trySend stage item => ItemGenuine T Q strategies stage item
  | _ => True

/-- The protocol of the tasks: who receives what is as it should be sends such. -/
@[reducible] def genuineProtocol (T : Set ParsedTransaction) (Q : ℕ → ParsedTransaction → Opportunity → Prop)
    (strategies : ℕ) : Protocol PathI where
  Phase := Unit
  legal := GenuineReply T Q strategies
  move _ op _ _ := GenuineOp T Q strategies op

/-- A task that follows it. -/
abbrev Genuine {α : Type} (T : Set ParsedTransaction) (Q : ℕ → ParsedTransaction → Opportunity → Prop)
    (strategies : ℕ) (t : PathM α) : Prop :=
  (genuineProtocol T Q strategies).Follows (fun _ _ => True) () t

/-! ### The tasks -/

theorem Genuine.then {t : PathM Unit} {f : Unit → PathM Unit} (ht : Genuine T Q strategies t)
    (hf : Genuine T Q strategies (f ())) : Genuine T Q strategies (t >>= f) :=
  ht.bind (fun _ _ _ => hf) fun _ _ h => h

theorem request_genuine {op : PathOp} (hop : GenuineOp T Q strategies op) :
    Genuine T Q strategies (Async.request (I := PathI) op) :=
  fun _ _ => ⟨(), hop, trivial⟩

theorem sendOn_genuine {stage : Stage} {item : stage.Item} {failed : PathM Unit}
    (hitem : ItemGenuine T Q strategies stage item) (hfailed : Genuine T Q strategies failed) :
    Genuine T Q strategies (sendOn stage item failed) := by
  rintro (_ | _ | _) _
  · exact ⟨(), hitem, trivial⟩
  · exact ⟨(), hitem, hfailed⟩
  · exact ⟨(), hitem, hfailed⟩

/-- **A worker**, if a round of it is. -/
theorem worker_genuine {stage : Stage} {body : stage.Item → PathM Unit}
    (hbody : ∀ item, ItemGenuine T Q strategies stage item → Genuine T Q strategies (body item)) (rounds : ℕ) :
    Genuine T Q strategies (worker stage body rounds) := by
  induction rounds with
  | zero => trivial
  | succ rounds ih =>
    rintro (_ | _) _
    · refine ⟨(), trivial, ?_⟩
      rintro ((_ | _) | item) hitem
      · exact ⟨(), trivial, ih⟩
      · exact ⟨(), trivial, trivial⟩
      · exact ⟨(), trivial, (hbody item hitem).then ih⟩
    · exact ⟨(), trivial, trivial⟩

theorem filterBody_genuine {transaction : ParsedTransaction} (h : ItemGenuine T Q strategies .filter transaction) :
    Genuine T Q strategies (filterBody transaction) := by
  refine fun filterTimeMs _ => ⟨(), trivial, ?_⟩
  dsimp only [Async.ok_bind]
  split
  · rename_i hinteresting
    refine Genuine.then (sendOn_genuine ?_ (request_genuine ?_)) (request_genuine ?_)
    · exact ⟨h, hinteresting⟩
    · trivial
    · trivial
  · exact request_genuine trivial

theorem FoundIn.length_le {transaction : ParsedTransaction} {opportunities : List Opportunity}
    (h : FoundIn Q strategies transaction opportunities) : opportunities.length ≤ strategies := by
  obtain ⟨finders, hsub, hfound⟩ := h
  rw [← hfound.length_eq]
  exact hsub.length_le.trans List.length_range.le

theorem evaluateAll_genuine (transaction : ParsedTransaction) {finders : List ℕ} (rest : List ℕ)
    {opportunities : List Opportunity} (hsub : (finders ++ rest).Sublist (List.range strategies))
    (hfound : finders.Forall₂ (fun strategy opportunity => Q strategy transaction opportunity) opportunities) :
    (genuineProtocol T Q strategies).Follows
      (fun _ r => ∃ found, r = .ok found ∧ FoundIn Q strategies transaction found) ()
      (evaluateAll transaction rest opportunities) := by
  induction rest generalizing finders opportunities with
  | nil => exact ⟨opportunities, rfl, finders, by simpa using hsub, hfound⟩
  | cons strategy rest ih =>
    have hpassed : (finders ++ rest).Sublist (List.range strategies) :=
      ((List.sublist_cons_self strategy rest).append_left finders).trans hsub
    rintro (_ | _) _
    · exact ⟨(), trivial, ih hpassed hfound⟩
    · refine ⟨(), trivial, ?_⟩
      rintro (e | (opportunity | _ | e)) hreply
      · exact ⟨(), trivial, ih hpassed hfound⟩
      · have hsub' : ((finders ++ [strategy]) ++ rest).Sublist (List.range strategies) := by
          rwa [List.append_assoc, List.singleton_append]
        exact ⟨(), trivial, ih hsub' (List.rel_append hfound (.cons hreply .nil))⟩
      · exact ⟨(), trivial, ih hpassed hfound⟩
      · exact ⟨(), trivial, ih hpassed hfound⟩

theorem simulationBody_genuine {filtered : FilteredTransaction}
    (h : ItemGenuine T Q strategies .simulation filtered) :
    Genuine T Q strategies (simulationBody strategies filtered) := by
  refine (evaluateAll_genuine filtered.transaction (List.range strategies) (List.Sublist.refl _) .nil).bind ?_ ?_
  · rintro _ opportunities ⟨found, hok, hfound⟩
    cases hok
    refine fun simulationTimeMs _ => ⟨(), trivial, ?_⟩
    refine Genuine.then (sendOn_genuine ?_ (request_genuine ?_)) (request_genuine ?_)
    · exact ⟨h.1, h.2, hfound⟩
    · trivial
    · trivial
  · rintro _ _ ⟨_, h, -⟩
    cases h

theorem recordDecision_genuine (config : DecisionPathConfig) (opportunities : ℕ) (bundleTimeMs totalTimeMs : Binary64) :
    Genuine T Q strategies (recordDecision config opportunities bundleTimeMs totalTimeMs) := by
  rintro (e | ⟨⟩) _
  · exact ⟨(), trivial, trivial⟩
  · refine ⟨(), trivial, ?_⟩
    rintro (e | ⟨⟩) _
    · exact ⟨(), trivial, trivial⟩
    · refine ⟨(), trivial, fun _ _ => ⟨(), trivial, fun _ _ => ⟨(), trivial, ?_⟩⟩⟩
      exact request_genuine trivial

theorem bundleBody_genuine (config : DecisionPathConfig) {simulated : SimulationResult}
    (h : ItemGenuine T Q strategies .bundle simulated) :
    Genuine T Q strategies (bundleBody config simulated) := by
  refine fun bundleTimeMs _ => ⟨(), trivial, ?_⟩
  refine Genuine.then (sendOn_genuine ?_ trivial) (recordDecision_genuine _ _ _ _)
  exact ⟨simulated.transaction, h.1, h.2.1, rfl, h.2.2, rfl, rfl, rfl⟩

/-- The transactions that are submitted. -/
def submittedBy (tasks : ι → PathTask) : Set ParsedTransaction := {transaction | ∃ i, tasks i = .submit transaction}

variable {config : DecisionPathConfig} {tasks : ι → PathTask} {surroundings : ℕ → Moment}

/-- **Every task sends what it should.** -/
theorem PathTask.genuine (i : ι) :
    Genuine (submittedBy tasks) Q strategies ((tasks i).task config strategies) := by
  cases htask : tasks i with
  | submit transaction =>
    rintro (_ | _ | _) _
    · exact ⟨(), ⟨i, htask⟩, trivial⟩
    · exact ⟨(), ⟨i, htask⟩, request_genuine trivial⟩
    · exact ⟨(), ⟨i, htask⟩, trivial⟩
  | filterWorker rounds => exact worker_genuine (fun _ h => filterBody_genuine h) rounds
  | simulationWorker rounds => exact worker_genuine (fun _ h => simulationBody_genuine h) rounds
  | bundleWorker rounds => exact worker_genuine (fun _ h => bundleBody_genuine config h) rounds
  | receive =>
    rintro (_ | _) _
    all_goals exact ⟨(), trivial, trivial⟩
  | shutdown => exact request_genuine trivial

/-! ### The channels -/

/-- Whatever is asked of the surroundings, of a strategy and what it finds `Q` holds. -/
def Finds (Q : ℕ → ParsedTransaction → Opportunity → Prop) (surroundings : ℕ → Moment) : Prop :=
  ∀ n strategy transaction opportunity,
    (surroundings n).evaluate strategy transaction = .ok (.opportunity opportunity) →
      Q strategy transaction opportunity

/-- What waits in the channels is as it should be, and so is what was received. -/
structure ItemsGenuine (T : Set ParsedTransaction) (Q : ℕ → ParsedTransaction → Opportunity → Prop) (strategies : ℕ)
    (p : PathPool ι) : Prop where
  queues : ∀ stage, ∀ item ∈ p.shared.queue stage, ItemGenuine T Q strategies stage item
  received : ∀ x ∈ received p, ItemGenuine T Q strategies .output x.2
  finds : Finds Q p.shared.surroundings

variable [DecidableEq ι] {p : PathPool ι} {i : ι} {op : PathOp} {k : PathI.Reply op → PathM Unit}

omit [DecidableEq ι] in
theorem ItemsGenuine.reply (hI : ItemsGenuine T Q strategies p) (op : PathOp) :
    GenuineReply T Q strategies op (pathHandler config op p.shared).1 := by
  cases op with
  | recvTimeout stage =>
    rcases hqueue : p.shared.queue stage with _ | ⟨item, items⟩
    · simp [pathHandler, hqueue, GenuineReply]
    · have hitem := hI.queues stage item (hqueue ▸ List.mem_cons_self)
      simpa [pathHandler, hqueue, GenuineReply] using hitem
  | evaluate strategy transaction =>
    rcases hfound : (p.shared.surroundings 0).evaluate strategy transaction with e | (opportunity | _ | e)
    · simp [pathHandler, hfound, GenuineReply]
    · simpa [pathHandler, hfound, GenuineReply] using hI.finds 0 strategy transaction opportunity hfound
    · simp [pathHandler, hfound, GenuineReply]
    · simp [pathHandler, hfound, GenuineReply]
  | _ => trivial

theorem forall_setQueue {path : DecisionPath} {stage : Stage} {items : List stage.Item}
    (hpath : ∀ stage, ∀ item ∈ path.queue stage, ItemGenuine T Q strategies stage item)
    (hitems : ∀ item ∈ items, ItemGenuine T Q strategies stage item) (other : Stage) :
    ∀ item ∈ (path.setQueue stage items).queue other, ItemGenuine T Q strategies other item := by
  by_cases hstage : other = stage
  · subst hstage
    rwa [queue_setQueue_self]
  · rw [queue_setQueue_of_ne hstage]
    exact hpath other

omit [DecidableEq ι] in
theorem ItemsGenuine.forall_queue (hI : ItemsGenuine T Q strategies p) (hop : GenuineOp T Q strategies op)
    (stage : Stage) :
    ∀ item ∈ (pathHandler config op p.shared).2.queue stage, ItemGenuine T Q strategies stage item := by
  cases op with
  | trySend sent item =>
    rcases trySend_cases config p.shared sent item with ⟨-, heq⟩ | ⟨-, heq⟩
    · rw [heq]
      refine forall_setQueue hI.queues (fun other hother => ?_) stage
      rcases List.mem_append.mp hother with h | h
      · exact hI.queues sent other h
      · exact List.mem_singleton.mp h ▸ hop
    · rw [heq]
      exact hI.queues stage
  | recvTimeout taken =>
    rcases hqueue : p.shared.queue taken with _ | ⟨item, items⟩
    · simpa [pathHandler, hqueue] using hI.queues stage
    · simp only [pathHandler, hqueue]
      refine forall_setQueue hI.queues (fun other hother => hI.queues taken other ?_) stage
      exact hqueue ▸ List.mem_cons_of_mem _ hother
  | _ => exact hI.queues stage

theorem Finds.after {path : DecisionPath} (h : Finds Q path.surroundings) (op : PathOp) :
    Finds Q (pathHandler config op path).2.surroundings := by
  intro n
  cases op with
  | trySend stage item =>
    rcases trySend_cases config path stage item with ⟨-, heq⟩ | ⟨-, heq⟩
    all_goals
      rw [heq]
      exact h (n + 1)
  | recvTimeout stage =>
    rcases hqueue : path.queue stage with _ | ⟨item, items⟩
    all_goals
      simp only [pathHandler, hqueue]
      exact h n
  | isEnabled | evaluate | elapsedMs => exact h (n + 1)
  | _ => exact h n

/-- **One more operation.** -/
theorem ItemsGenuine.after (hI : ItemsGenuine T Q strategies p) (hop : GenuineOp T Q strategies op) :
    ItemsGenuine T Q strategies (p.after (pathHandler config) i op k) := by
  have hreply : GenuineReply T Q strategies op (pathHandler config op p.shared).1 := hI.reply op
  constructor
  case queues =>
    rw [after_shared]
    exact hI.forall_queue hop
  case received =>
    intro x hx
    rw [DecisionPath.received, gather_after] at hx
    rcases List.mem_append.mp hx with h | h
    · exact hI.received x h
    · obtain ⟨result, hresult, rfl⟩ := Option.map_eq_some_iff.mp (Option.mem_toList.mp h)
      unfold receives at hresult
      split at hresult
      · rename_i heq
        cases hresult
        rw [heq] at hreply
        exact hreply
      · cases hresult
  case finds =>
    rw [after_shared]
    exact hI.finds.after op

/-! ### Runs -/

variable {G : PathPool ι → ι → Prop}

/-- **The results of every run**: each is of one transaction, which was submitted and is interesting. It has
at most one opportunity of each strategy, and `Q` holds of the two if it holds of whatever that strategy finds
in that transaction. -/
theorem results_genuine (hQ : Finds Q surroundings)
    (hr : Reach (pathHandler config) G (started config strategies surroundings tasks) p) :
    ∀ x ∈ received p, ∃ transaction ∈ submittedBy tasks, ResultOf Q strategies transaction x.2 := by
  have hstart : ItemsGenuine (submittedBy tasks) Q strategies (started config strategies surroundings tasks) :=
    ⟨fun _ _ h => (nomatch h), fun _ h => (nomatch h), hQ⟩
  obtain ⟨-, hI, -⟩ := Protocol.exists_phases hr (P := genuineProtocol (submittedBy tasks) Q strategies)
    PathTask.genuine (fun p _ => ItemsGenuine (submittedBy tasks) Q strategies p) hstart
    (fun _ _ op hI => hI.reply op) fun _ _ _ _ _ _ hI _ _ hop => hI.after hop
  exact hI.received

/-- A strategy that finds something in every transaction. -/
def finding (_ : ℕ) : Moment :=
  ⟨false, .finite 0, fun _ => true, fun _ transaction =>
    .ok (.opportunity ⟨"mock_backrun", transaction,
      .backrun transaction.transaction.hash "WETH" (.finite 0) "arbitrage", 25000000000000000⟩)⟩

/-- Two submissions, the workers, and two that ask for a result. -/
def twoResults : Fin 7 → PathTask
  | 0 => .submit (swap "0x1")
  | 1 => .submit (swap "0x2")
  | 2 => .filterWorker 2
  | 3 => .simulationWorker 2
  | 4 => .bundleWorker 2
  | 5 => .receive
  | 6 => .receive

/-- Each has the opportunity in its own transaction. -/
theorem twoResults_genuine : ∃ p : PathPool (Fin 7), (received p).length = 2 ∧
    ∀ x ∈ received p, ∃ transaction ∈ submittedBy twoResults,
      ResultOf (fun _ transaction opportunity => opportunity.targetTransaction = transaction) 1 transaction x.2 := by
  have hfinds : Finds (fun _ transaction opportunity => opportunity.targetTransaction = transaction) finding := by
    intro n strategy transaction opportunity h
    cases h
    rfl
  have hr : Reach (pathHandler ⟨1000, 500, 100, 2, 25⟩) AnyStep
      (started ⟨1000, 500, 100, 2, 25⟩ 1 finding twoResults) _ :=
    reach_runSchedule ([0, 1] ++ List.replicate 10 2 ++ List.replicate 14 3 ++ List.replicate 18 4 ++ [5, 6]) _
  exact ⟨_, by decide, results_genuine hfinds hr⟩

end Botmev.Core.DecisionPath
