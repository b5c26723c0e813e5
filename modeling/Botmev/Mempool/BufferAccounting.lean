import Botmev.Mempool.Occupancy
import Mathlib.Data.Finset.Card

/-!
# The accounts of the backpressure buffer

A push enqueues its transaction and counts it as processed, or drops it and counts it as
dropped; a receive takes from the front of the queue. Enqueueing and counting are two steps,
and a receive may come in between: the transaction is then delivered before it is counted,
and before its push returns.

## What is proved

* `BufferCall.follows`: what a call asks for, in which order, and what it returns then.
* `nothing_lost`: in every state that interleaved calls reach, the delivered transactions
  followed by the queued ones are the enqueued ones, in their order. Each is of a push that
  has returned `true` or has only its count before it; the counters add up when no call is
  on its way.
* `delivered_before_counted`: a transaction that is delivered before it is counted.
-/

namespace Botmev.Mempool

open Botmev.Rust Botmev.Library Botmev.Core BackpressureBuffer Pool

/-! ### What the operations give -/

/-- The transaction that an operation enqueues. -/
def enqueues : (op : BufferOp) → BufferI.Reply op → Option ParsedTransaction
  | .trySend transaction, .sent => some transaction
  | _, _ => none

/-- The transaction that an operation delivers. -/
def delivers : (op : BufferOp) → BufferI.Reply op → Option ParsedTransaction
  | .tryRecv, transaction | .recv, transaction => transaction
  | _, _ => none

/-- Whether an operation counts. -/
def counts (counter : Counter) (op : BufferOp) (_ : BufferI.Reply op) : Option Unit :=
  if op = .fetchAdd counter then some () else none

/-- **The enqueued transactions**, each with its push, in the order in which they were
enqueued. -/
def enqueued {ι : Type} (p : BufferPool ι) : List (ι × ParsedTransaction) := gather enqueues p.history

/-- **The delivered transactions**, each with its receive, in the order in which they were
delivered. -/
def delivered {ι : Type} (p : BufferPool ι) : List (ι × ParsedTransaction) := gather delivers p.history

/-- The calls that a counter has counted. -/
def counted {ι : Type} (counter : Counter) (p : BufferPool ι) : List (ι × Unit) :=
  gather (counts counter) p.history

variable {config : BackpressureConfig} {op : BufferOp} {buffer : BackpressureBuffer}

/-- What was queued, and what is enqueued, is delivered or still queued. -/
theorem queue_after (config : BackpressureConfig) (op : BufferOp) (buffer : BackpressureBuffer) :
    (delivers op (bufferHandler config op buffer).1).toList ++ (bufferHandler config op buffer).2.queue =
      buffer.queue ++ (enqueues op (bufferHandler config op buffer).1).toList := by
  cases op with
  | trySend transaction =>
    by_cases hlt : buffer.queue.length < config.bufferSize.toNat
    · simp only [bufferHandler, hlt, if_true]
      rfl
    · simp only [bufferHandler, hlt, if_false]
      exact (List.append_nil _).symm
  | tryRecv | recv =>
    rcases hqueue : buffer.queue with _ | ⟨transaction, queue⟩ <;> simp [bufferHandler, delivers, enqueues, hqueue]
  | fetchAdd counter => cases counter <;> exact (List.append_nil _).symm
  | _ => exact (List.append_nil _).symm

theorem counter_after (counter : Counter) (op : BufferOp) (buffer : BackpressureBuffer) :
    (bufferHandler config op buffer).2.counter counter =
      buffer.counter counter + BitVec.ofNat 64 (counts counter op (bufferHandler config op buffer).1).toList.length := by
  cases op with
  | fetchAdd counter' => cases counter <;> cases counter' <;> simp [counts, bufferHandler,
      BackpressureBuffer.counter, add]
  | trySend transaction =>
    simp only [counts, bufferHandler]
    split <;> simp [BackpressureBuffer.counter]
  | _ => simp [counts, bufferHandler, BackpressureBuffer.counter]

/-! ### The protocol of the calls -/

/-- How far a call is. -/
inductive BufferStage where
  /-- A push that is not counted as received. -/
  | fresh
  /-- It is counted. -/
  | working
  /-- Its transaction is enqueued. -/
  | enqueued
  /-- It is counted as processed. -/
  | accepted
  /-- It is counted as dropped. -/
  | dropped
  /-- Any other call, with the transactions it has taken. -/
  | took (transactions : List ParsedTransaction)

/-- An operation that neither counts, nor enqueues, nor delivers. -/
def BufferOp.Looks : BufferOp → Prop
  | .fetchAdd _ | .trySend _ | .tryRecv | .recv => False
  | _ => True

/-- What a call may ask for, and how far it is then. -/
inductive BufferMove : BufferCall × BufferStage → (op : BufferOp) → BufferI.Reply op →
    BufferCall × BufferStage → Prop
  /-- It counts what it has received. -/
  | receive {transaction : ParsedTransaction} {n : U64} :
      BufferMove (.push transaction, .fresh) (.fetchAdd .received) n (.push transaction, .working)
  /-- It looks around. -/
  | look {transaction : ParsedTransaction} {op : BufferOp} {reply : BufferI.Reply op} (hop : op.Looks) :
      BufferMove (.push transaction, .working) op reply (.push transaction, .working)
  /-- It enqueues its transaction. -/
  | enqueue {transaction : ParsedTransaction} :
      BufferMove (.push transaction, .working) (.trySend transaction) .sent (.push transaction, .enqueued)
  /-- There is no room. -/
  | refuse {transaction : ParsedTransaction} :
      BufferMove (.push transaction, .working) (.trySend transaction) .full (.push transaction, .working)
  /-- It counts what it has enqueued. -/
  | accept {transaction : ParsedTransaction} {n : U64} :
      BufferMove (.push transaction, .enqueued) (.fetchAdd .processed) n (.push transaction, .accepted)
  /-- It counts what it drops. -/
  | drop {transaction : ParsedTransaction} {n : U64} :
      BufferMove (.push transaction, .working) (.fetchAdd .dropped) n (.push transaction, .dropped)
  /-- Another call looks around. -/
  | peek {call : BufferCall} {transactions : List ParsedTransaction} {op : BufferOp} {reply : BufferI.Reply op}
      (hop : op.Looks) : BufferMove (call, .took transactions) op reply (call, .took transactions)
  /-- It takes a transaction, if there is one. -/
  | tryTake {call : BufferCall} {transactions : List ParsedTransaction} {reply : Option ParsedTransaction} :
      BufferMove (call, .took transactions) .tryRecv reply (call, .took (transactions ++ reply.toList))
  /-- It takes the next transaction. -/
  | take {call : BufferCall} {transactions : List ParsedTransaction} {reply : Option ParsedTransaction} :
      BufferMove (call, .took transactions) .recv reply (call, .took (transactions ++ reply.toList))

/-- The channel is never closed. -/
def Open : (op : BufferOp) → BufferI.Reply op → Prop
  | .trySend _, reply => reply ≠ .closed
  | _, _ => True

/-- The protocol of the calls. -/
@[reducible] def bufferProtocol : Protocol BufferI where
  Phase := BufferCall × BufferStage
  legal := Open
  move := BufferMove

/-- How far a call is at first. -/
def BufferCall.firstStage : BufferCall → BufferStage
  | .push _ => .fresh
  | _ => .took []

/-- A push of the transaction returns `true` when it has counted it as processed, and `false`
when it has counted it as dropped. -/
def PushEnds (transaction : ParsedTransaction) (φ : BufferCall × BufferStage) (r : Result Bool) : Prop :=
  (φ = (.push transaction, .accepted) ∧ r = .ok true) ∨
    (φ = (.push transaction, .dropped) ∧ r = .ok false)

/-- What a call returns, as far as it is. -/
inductive BufferEnds : BufferCall × BufferStage → Result BufferReturn → Prop
  /-- A push that is accepted. -/
  | accepted {transaction : ParsedTransaction} :
      BufferEnds (.push transaction, .accepted) (.ok (.pushed true))
  /-- A push that is dropped. -/
  | dropped {transaction : ParsedTransaction} :
      BufferEnds (.push transaction, .dropped) (.ok (.pushed false))
  /-- A batch. -/
  | batch {maxBatchSize : U64} {transactions : List ParsedTransaction} :
      BufferEnds (.receiveBatch maxBatchSize, .took transactions) (.ok (.batch transactions))
  /-- A single transaction. -/
  | one {transaction : Option ParsedTransaction} :
      BufferEnds (.receiveOne, .took transaction.toList) (.ok (.one transaction))
  /-- The statistics. -/
  | stats {stats : BackpressureStats} : BufferEnds (.getStats, .took []) (.ok (.stats stats))

variable {transaction : ParsedTransaction}

theorem drop_follows :
    bufferProtocol.Follows (PushEnds transaction) (.push transaction, .working)
      (do count .dropped; pure false : BufferM Bool) := by
  intro n _
  exact ⟨_, .drop, .inr ⟨rfl, rfl⟩⟩

theorem send_follows :
    bufferProtocol.Follows (PushEnds transaction) (.push transaction, .working) (send transaction) := by
  rintro (_ | _ | _) hopen
  · refine ⟨_, .enqueue, ?_⟩
    intro n _
    exact ⟨_, .accept, .inl ⟨rfl, rfl⟩⟩
  · exact ⟨_, .refuse, drop_follows⟩
  · exact absurd rfl hopen

theorem applyDropPolicy_follows :
    bufferProtocol.Follows (PushEnds transaction) (.push transaction, .working)
      (applyDropPolicy config transaction) := by
  unfold applyDropPolicy
  rcases config.dropPolicy with _ | _ | _
  · exact send_follows
  · exact drop_follows
  · rw [Protocol.follows_request_bind]
    intro coin _
    refine ⟨_, .look trivial, ?_⟩
    split
    · exact drop_follows
    · exact send_follows

theorem handleBackpressure_follows (utilization : Binary64) :
    bufferProtocol.Follows (PushEnds transaction) (.push transaction, .working)
      (handleBackpressure config transaction utilization) := by
  unfold handleBackpressure
  split
  · rw [Protocol.follows_request_bind]
    rintro (_ | _) _
    · refine ⟨_, .look trivial, ?_⟩
      rintro ⟨⟩ _
      exact ⟨_, .look trivial, applyDropPolicy_follows⟩
    · exact ⟨_, .look trivial, applyDropPolicy_follows⟩
  · rw [Protocol.follows_request_bind]
    intro active _
    refine ⟨_, .look trivial, ?_⟩
    split
    · rintro ⟨⟩ _
      exact ⟨_, .look trivial, send_follows⟩
    · exact send_follows

theorem sizeAndUtilization_wraps (config : BackpressureConfig) (capacity : U64) :
    ∃ measured, sizeAndUtilization config false capacity = .ok measured := by
  simp [sizeAndUtilization]

theorem push_follows :
    bufferProtocol.Follows (PushEnds transaction) (.push transaction, .fresh) (push config false transaction) := by
  intro n _
  refine ⟨_, .receive, ?_⟩
  show bufferProtocol.Follows _ _ (if config.enabled then _ else _)
  split
  · rw [Protocol.follows_request_bind]
    intro capacity _
    obtain ⟨measured, hmeasured⟩ := sizeAndUtilization_wraps config capacity
    rw [hmeasured, Async.ok_bind]
    exact ⟨_, .look trivial, handleBackpressure_follows measured.2⟩
  · exact send_follows

/-- A receive returns what it has taken. -/
def ReceiveEnds (call : BufferCall) (φ : BufferCall × BufferStage)
    (r : Result (List ParsedTransaction)) : Prop :=
  ∃ taken, φ = (call, .took taken) ∧ r = .ok taken

theorem receiveUpTo_follows (call : BufferCall) (n : ℕ) (batch : List ParsedTransaction) :
    bufferProtocol.Follows (ReceiveEnds call) (call, .took batch) (receiveUpTo n batch) := by
  induction n generalizing batch with
  | zero => exact ⟨batch, rfl, rfl⟩
  | succ n ih =>
    rintro (_ | transaction) _
    · refine ⟨_, .tryTake, batch, ?_, rfl⟩
      rw [Option.toList_none, List.append_nil]
    · exact ⟨_, .tryTake, ih _⟩

theorem receiveBatch_follows (call : BufferCall) (maxBatchSize : U64) :
    bufferProtocol.Follows (ReceiveEnds call) (call, .took []) (receiveBatch maxBatchSize) := by
  rintro ⟨⟩ _
  refine ⟨_, .peek trivial, (receiveUpTo_follows call _ []).bind ?_ ?_⟩
  · rintro φ batch ⟨taken, rfl, h⟩ ⟨⟩ _
    exact ⟨_, .peek trivial, taken, rfl, h⟩
  · rintro φ e ⟨taken, -, h⟩
    cases h

theorem getStats_follows (call : BufferCall) :
    bufferProtocol.Follows (fun φ r => φ = (call, .took []) ∧ ∃ stats, r = .ok stats) (call, .took [])
      (getStats config false) := by
  unfold getStats
  rw [Protocol.follows_request_bind]
  intro capacity _
  obtain ⟨measured, hmeasured⟩ := sizeAndUtilization_wraps config capacity
  rw [hmeasured, Async.ok_bind]
  refine ⟨_, .peek trivial, fun totalReceived _ => ?_⟩
  refine ⟨_, .peek trivial, fun totalDropped _ => ?_⟩
  refine ⟨_, .peek trivial, fun totalProcessed _ => ?_⟩
  refine ⟨_, .peek trivial, fun backpressureActive _ => ?_⟩
  refine ⟨_, .peek trivial, fun received _ => ?_⟩
  refine ⟨_, .peek trivial, fun dropped _ => ?_⟩
  exact ⟨_, .peek trivial, rfl, _, rfl⟩

/-- **A call follows the protocol.** -/
theorem BufferCall.follows (config : BackpressureConfig) (call : BufferCall) :
    bufferProtocol.Follows BufferEnds (call, call.firstStage) (call.task config false) := by
  cases call with
  | push transaction =>
    refine push_follows.bind ?_ ?_
    · rintro φ accepted (⟨rfl, h⟩ | ⟨rfl, h⟩)
      · cases h
        exact .accepted
      · cases h
        exact .dropped
    · rintro φ e (⟨-, h⟩ | ⟨-, h⟩) <;> cases h
  | receiveBatch maxBatchSize =>
    refine (receiveBatch_follows _ maxBatchSize).bind ?_ ?_
    · rintro φ batch ⟨taken, rfl, h⟩
      cases h
      exact .batch
    · rintro φ e ⟨taken, -, h⟩
      cases h
  | receiveOne =>
    rintro ⟨⟩ _
    refine ⟨_, .peek trivial, ?_⟩
    intro taken _
    refine ⟨_, .take, ?_⟩
    rintro ⟨⟩ _
    exact ⟨_, .peek trivial, .one⟩
  | getStats =>
    refine (getStats_follows _).bind ?_ ?_
    · rintro φ stats ⟨rfl, -⟩
      exact .stats
    · rintro φ e ⟨-, stats, h⟩
      cases h

/-! ### What each call has done -/

/-- What a call has enqueued. -/
def enqueuedBy (φ : BufferCall × BufferStage) : List ParsedTransaction :=
  match φ.2, φ.1 with
  | .enqueued, .push transaction | .accepted, .push transaction => [transaction]
  | _, _ => []

/-- What a call has taken. -/
def deliveredTo : BufferCall × BufferStage → List ParsedTransaction
  | (_, .took transactions) => transactions
  | _ => []

/-- What a call has counted. -/
def countedBy (counter : Counter) (φ : BufferCall × BufferStage) : List Unit :=
  match φ.2, counter with
  | .working, .received | .enqueued, .received | .accepted, .received | .dropped, .received => [()]
  | .accepted, .processed => [()]
  | .dropped, .dropped => [()]
  | _, _ => []

variable {φ φ' : BufferCall × BufferStage} {reply : BufferI.Reply op}

theorem BufferOp.Looks.gives (hop : op.Looks) (reply : BufferI.Reply op) :
    enqueues op reply = none ∧ delivers op reply = none ∧ ∀ counter, counts counter op reply = none := by
  cases op with
  | fetchAdd | trySend | tryRecv | recv => exact hop.elim
  | _ => exact ⟨rfl, rfl, fun counter => rfl⟩

/-- **A move** adds what its operation gives. -/
theorem BufferMove.gives (hm : BufferMove φ op reply φ') :
    φ'.1 = φ.1 ∧ enqueuedBy φ' = enqueuedBy φ ++ (enqueues op reply).toList ∧
      deliveredTo φ' = deliveredTo φ ++ (delivers op reply).toList ∧
      ∀ counter, countedBy counter φ' = countedBy counter φ ++ (counts counter op reply).toList := by
  cases hm with
  | look hop | peek hop =>
    obtain ⟨henqueues, hdelivers, hcounts⟩ := hop.gives reply
    simp [henqueues, hdelivers, hcounts]
  | receive | accept | drop =>
    refine ⟨rfl, rfl, rfl, fun counter => ?_⟩
    cases counter <;> rfl
  | enqueue | refuse => exact ⟨rfl, rfl, rfl, fun counter => by cases counter <;> rfl⟩
  | tryTake | take =>
    refine ⟨rfl, rfl, rfl, fun counter => ?_⟩
    cases counter <;> rfl

variable {ι : Type} [DecidableEq ι] {calls : ι → BufferCall} {p : BufferPool ι}
  {phases : ι → BufferCall × BufferStage} {i : ι}

/-- The accounts, as the phases of the calls have it. -/
structure AccountsKept (calls : ι → BufferCall) (p : BufferPool ι)
    (phases : ι → BufferCall × BufferStage) :
    Prop where
  /-- Each phase is one of its call. -/
  fits : ∀ i, (phases i).1 = calls i
  /-- What was enqueued is delivered or queued. -/
  queue : (delivered p).map Prod.snd ++ p.shared.queue = (enqueued p).map Prod.snd
  /-- What each call has enqueued. -/
  enqueuedBy : ∀ i, own i (enqueued p) = enqueuedBy (phases i)
  /-- What each call has taken. -/
  deliveredTo : ∀ i, own i (delivered p) = deliveredTo (phases i)
  /-- What each call has counted. -/
  countedBy : ∀ counter i, own i (counted counter p) = countedBy counter (phases i)
  /-- Each counter is the number of those it has counted. -/
  counter : ∀ counter, p.shared.counter counter = BitVec.ofNat 64 (counted counter p).length

/-- **The accounts are kept** by a move. -/
theorem AccountsKept.after {k : BufferI.Reply op → BufferM BufferReturn}
    (hI : AccountsKept calls p phases)
    (hm : BufferMove (phases i) op (bufferHandler config op p.shared).1 φ') :
    AccountsKept calls (p.after (bufferHandler config) i op k) (Function.update phases i φ') := by
  obtain ⟨hcall, henqueues, hdelivers, hcounts⟩ := hm.gives
  constructor
  · rw [Function.forall_update_iff phases fun j φ => φ.1 = calls j, hcall]
    exact ⟨hI.fits i, fun j _ => hI.fits j⟩
  · have hqueue := queue_after config op p.shared
    rw [delivered, enqueued, gather_after, gather_after, List.map_append, List.map_append, after_shared]
    have hfst : ∀ b : Option ParsedTransaction, ((b.map fun b => (i, b)).toList).map Prod.snd = b.toList := by
      rintro (_ | b) <;> rfl
    rw [hfst, hfst, List.append_assoc, hqueue, ← List.append_assoc]
    exact congrArg (· ++ _) hI.queue
  · exact own_gather_after hI.enqueuedBy henqueues
  · exact own_gather_after hI.deliveredTo hdelivers
  · exact fun counter => own_gather_after (hI.countedBy counter) (hcounts counter)
  · intro counter
    rw [after_shared, counter_after, hI.counter, counted, counted, gather_after, List.length_append,
      BitVec.ofNat_add]
    congr 2
    rcases counts counter op (bufferHandler config op p.shared).1 with _ | _ <;> rfl

/-! ### How far each call is -/

theorem open_reply (config : BackpressureConfig) (op : BufferOp) (buffer : BackpressureBuffer) :
    Open op (bufferHandler config op buffer).1 := by
  cases op with
  | trySend transaction =>
    show (bufferHandler config (.trySend transaction) buffer).1 ≠ .closed
    unfold bufferHandler
    dsimp only
    split <;> nofun
  | _ => trivial

variable {t : BufferM BufferReturn}

/-- A call that waits for an operation is where it may ask for it. -/
theorem exists_move {k : BufferI.Reply op → BufferM BufferReturn}
    (h : bufferProtocol.Follows BufferEnds φ (.await op k)) : ∃ reply φ', BufferMove φ op reply φ' := by
  obtain ⟨φ', hm, -⟩ := h _ (open_reply .default op newBuffer)
  exact ⟨_, φ', hm⟩

/-- A push has returned `true` just when it has counted that it did. -/
theorem returned_iff (h : bufferProtocol.Follows BufferEnds φ t) :
    t = .done (.ok (.pushed true)) ↔ φ.2 = .accepted := by
  rcases t with r | ⟨op, k⟩
  · rw [Async.done.injEq]
    have hends : BufferEnds φ r := h
    cases hends with
    | accepted => exact iff_of_true rfl rfl
    | _ => exact iff_of_false nofun nofun
  · obtain ⟨reply, φ', hm⟩ := exists_move h
    refine iff_of_false nofun ?_
    cases hm <;> nofun

theorem push_of_accepted (h : bufferProtocol.Follows BufferEnds φ t) (hstage : φ.2 = .accepted) :
    ∃ transaction, φ.1 = .push transaction := by
  obtain rfl := (returned_iff h).mpr hstage
  have hends : BufferEnds φ (.ok (.pushed true)) := h
  cases hends with
  | accepted => exact ⟨_, rfl⟩

/-- A push has its count before it just when it has enqueued its transaction. -/
theorem next_iff (h : bufferProtocol.Follows BufferEnds φ t) :
    t.next? = some (.fetchAdd .processed) ↔ φ.2 = .enqueued := by
  rcases t with r | ⟨op, k⟩
  · have hends : BufferEnds φ r := h
    refine iff_of_false nofun ?_
    cases hends <;> nofun
  · obtain ⟨reply, φ', hm⟩ := exists_move h
    rw [Async.next?_await, Option.some.injEq]
    cases hm with
    | accept => exact iff_of_true rfl rfl
    | look hop | peek hop =>
      refine iff_of_false ?_ nofun
      rintro rfl
      exact hop
    | _ => exact iff_of_false nofun nofun

/-- A call that has not begun, or has returned, is not in the middle of a push. -/
theorem settled {call : BufferCall} (hcall : φ.1 = call) (h : bufferProtocol.Follows BufferEnds φ t)
    (ht : t = call.task config false ∨ ∃ r, t = .done r) : φ.2 ≠ .working ∧ φ.2 ≠ .enqueued := by
  rcases ht with rfl | ⟨r, rfl⟩
  · cases call with
    | push transaction =>
      obtain ⟨reply, φ', hm⟩ := exists_move h
      cases hm with
      | receive => exact ⟨nofun, nofun⟩
      | look hop | peek hop => exact hop.elim
    | receiveBatch | receiveOne | getStats =>
      obtain ⟨reply, φ', hm⟩ := exists_move h
      cases hm with
      | peek => exact ⟨nofun, nofun⟩
      | look => cases hcall
  · have hends : BufferEnds φ r := h
    cases hends <;> exact ⟨nofun, nofun⟩

theorem settled_counts (hstage : φ.2 ≠ .working ∧ φ.2 ≠ .enqueued)
    (hpush : φ.2 = .accepted → ∃ transaction, φ.1 = .push transaction) :
    (countedBy .processed φ).length = (enqueuedBy φ).length ∧
      countedBy .received φ = countedBy .processed φ ++ countedBy .dropped φ := by
  obtain ⟨call, stage⟩ := φ
  cases stage with
  | working => exact absurd rfl hstage.1
  | enqueued => exact absurd rfl hstage.2
  | accepted =>
    obtain ⟨transaction, rfl⟩ := hpush rfl
    exact ⟨rfl, rfl⟩
  | _ => exact ⟨rfl, rfl⟩

/-! ### The accounts -/

/-- No call is on its way: each has returned, or has not begun. -/
def Quiescent (config : BackpressureConfig) (calls : ι → BufferCall) (p : BufferPool ι) : Prop :=
  ∀ i, p.tasks i = (calls i).task config false ∨ ∃ r, p.tasks i = .done r

/-- **Nothing is lost, duplicated or reordered** in a state of the calls. -/
structure NothingLost (config : BackpressureConfig) (calls : ι → BufferCall) (p : BufferPool ι) :
    Prop where
  /-- The delivered transactions followed by the queued ones are the enqueued ones, in order. -/
  order : (delivered p).map Prod.snd ++ p.shared.queue = (enqueued p).map Prod.snd
  /-- No call enqueues twice. -/
  once : ((enqueued p).map Prod.fst).Nodup
  /-- What is enqueued is the transaction of a push that has returned `true`, or has only
  its count before it. -/
  pushed : ∀ i transaction, (i, transaction) ∈ enqueued p ↔ calls i = .push transaction ∧
    (p.tasks i = .done (.ok (.pushed true)) ∨ (p.tasks i).next? = some (.fetchAdd .processed))
  /-- A batch that is returned is what its receive has taken, in order. -/
  batch : ∀ i transactions, p.tasks i = .done (.ok (.batch transactions)) →
    own i (delivered p) = transactions
  /-- So is a single transaction. -/
  one : ∀ i transaction, p.tasks i = .done (.ok (.one transaction)) →
    own i (delivered p) = transaction.toList
  /-- As many transactions are counted as processed as pushes have returned `true`. -/
  processed : ∃ accepted : Finset ι, (∀ i, i ∈ accepted ↔ p.tasks i = .done (.ok (.pushed true))) ∧
    p.shared.totalProcessed = BitVec.ofNat 64 accepted.card
  /-- When no call is on its way, the enqueued transactions are those whose push has returned
  `true`, and their number is counted; what is received is processed or dropped. -/
  quiescent : Quiescent config calls p →
    (∀ i transaction, (i, transaction) ∈ enqueued p ↔
      calls i = .push transaction ∧ p.tasks i = .done (.ok (.pushed true))) ∧
    p.shared.totalProcessed = BitVec.ofNat 64 (enqueued p).length ∧
    p.shared.totalReceived = p.shared.totalProcessed + p.shared.totalDropped

section Kept

variable (hI : AccountsKept calls p phases)
  (hφ : ∀ i, bufferProtocol.Follows BufferEnds (phases i) (p.tasks i))
include hI

theorem AccountsKept.mem_enqueued (i : ι) (transaction : ParsedTransaction) :
    (i, transaction) ∈ enqueued p ↔
      calls i = .push transaction ∧ ((phases i).2 = .accepted ∨ (phases i).2 = .enqueued) := by
  rw [← mem_own, hI.enqueuedBy, ← hI.fits]
  rcases phases i with ⟨call, stage⟩
  cases stage <;> cases call <;> simp [Mempool.enqueuedBy, eq_comm]

theorem AccountsKept.counted_nodup (counter : Counter) : ((counted counter p).map Prod.fst).Nodup := by
  refine nodup_map_fst fun i => ?_
  rw [hI.countedBy]
  unfold Mempool.countedBy
  split <;> simp

include hφ

/-- **As many are counted as processed as have returned `true`.** -/
theorem AccountsKept.processed : ∃ accepted : Finset ι,
    (∀ i, i ∈ accepted ↔ p.tasks i = .done (.ok (.pushed true))) ∧
    p.shared.totalProcessed = BitVec.ofNat 64 accepted.card := by
  refine ⟨((counted .processed p).map Prod.fst).toFinset, fun i => ?_, ?_⟩
  · rw [returned_iff (hφ i), List.mem_toFinset, ← List.count_pos_iff, count_map_fst, hI.countedBy]
    rcases phases i with ⟨call, stage⟩
    cases stage <;> simp [Mempool.countedBy]
  · rw [List.toFinset_card_of_nodup (hI.counted_nodup .processed), List.length_map]
    exact hI.counter .processed

/-- **The counters add up** when no call is on its way. -/
theorem AccountsKept.quiescent (hquiescent : Quiescent config calls p) :
    p.shared.totalProcessed = BitVec.ofNat 64 (enqueued p).length ∧
      p.shared.totalReceived = p.shared.totalProcessed + p.shared.totalDropped := by
  have hsettled : ∀ i, (phases i).2 ≠ .working ∧ (phases i).2 ≠ .enqueued :=
    fun i => settled (hI.fits i) (hφ i) (hquiescent i)
  have hprocessed : (counted .processed p).length = (enqueued p).length := by
    apply length_eq_of_own
    intro i
    rw [hI.countedBy, hI.enqueuedBy]
    exact (settled_counts (hsettled i) (push_of_accepted (hφ i))).1
  have hreceived : (counted .received p).length = (counted .processed p ++ counted .dropped p).length := by
    apply length_eq_of_own
    intro i
    rw [own_append, hI.countedBy, hI.countedBy, hI.countedBy]
    exact congrArg List.length (settled_counts (hsettled i) (push_of_accepted (hφ i))).2
  have hcounters : ∀ counter, p.shared.counter counter = BitVec.ofNat 64 (counted counter p).length := hI.counter
  constructor
  · rw [← hprocessed]
    exact hcounters .processed
  · show p.shared.counter .received = p.shared.counter .processed + p.shared.counter .dropped
    rw [hcounters, hcounters, hcounters, hreceived, List.length_append, BitVec.ofNat_add]

/-- **What a receive returns** is what it has taken. -/
theorem AccountsKept.returns_taken (i : ι) (value : BufferReturn)
    (hreturn : p.tasks i = .done (.ok value)) :
    (∀ transactions, value = .batch transactions → own i (delivered p) = transactions) ∧
      ∀ transaction, value = .one transaction → own i (delivered p) = transaction.toList := by
  have hends : BufferEnds (phases i) (.ok value) := by
    have hi := hφ i
    rw [hreturn] at hi
    exact hi
  rw [hI.deliveredTo]
  generalize phases i = φ at hends
  cases hends with
  | batch =>
    refine ⟨?_, nofun⟩
    rintro _ ⟨⟩
    rfl
  | one =>
    refine ⟨nofun, ?_⟩
    rintro _ ⟨⟩
    rfl
  | _ => exact ⟨nofun, nofun⟩

end Kept

variable {randoms : ℕ → Binary64}

theorem firstStage_gives (call : BufferCall) :
    enqueuedBy (call, call.firstStage) = [] ∧ deliveredTo (call, call.firstStage) = [] ∧
      ∀ counter, countedBy counter (call, call.firstStage) = [] := by
  cases call <;> exact ⟨rfl, rfl, fun counter => rfl⟩

theorem accountsKept_start (calls : ι → BufferCall)
    (hnew : BackpressureBuffer.new config randoms = .ok buffer) :
    AccountsKept calls (.start buffer fun i => (calls i).task config false)
      fun i => (calls i, (calls i).firstStage) := by
  obtain ⟨-, -, rfl⟩ := new_eq_ok hnew
  constructor
  case fits => exact fun i => rfl
  case queue => rfl
  case enqueuedBy => exact fun i => (firstStage_gives (calls i)).1.symm
  case deliveredTo => exact fun i => (firstStage_gives (calls i)).2.1.symm
  case countedBy => exact fun counter i => ((firstStage_gives (calls i)).2.2 counter).symm
  case counter => exact fun counter => by cases counter <;> rfl

/-- What is enqueued later comes later, and so does what is delivered later. -/
theorem prefix_of_reach {p' : BufferPool ι} (hr : Pool.Reach (bufferHandler config) Ready p p') :
    enqueued p <+: enqueued p' ∧ delivered p <+: delivered p' := by
  have henqueued := hr.gather_grows enqueues
  have hdelivered := hr.gather_grows delivers
  exact ⟨henqueued, hdelivered⟩

/-- **Nothing is lost, duplicated or reordered**, in any interleaving of calls on a new
buffer; and a push that has returned before another begins is before it. -/
theorem nothing_lost (hnew : BackpressureBuffer.new config randoms = .ok buffer)
    (hr : Pool.Reach (bufferHandler config) Ready (.start buffer fun i => (calls i).task config false) p) :
    NothingLost config calls p ∧ ∀ p', Pool.Reach (bufferHandler config) Ready p p' →
      enqueued p <+: enqueued p' ∧ delivered p <+: delivered p' := by
  refine ⟨?_, fun p' hr' => prefix_of_reach hr'⟩
  obtain ⟨phases, hI, hφ⟩ := Protocol.exists_phases hr (fun i => (calls i).follows config) (AccountsKept calls)
    (accountsKept_start calls hnew) (fun p _ op _ => open_reply config op p.shared)
    (fun p phases i op k φ' hI _ _ hm => hI.after hm)
  have hpushed : ∀ i transaction, (i, transaction) ∈ enqueued p ↔ calls i = .push transaction ∧
      (p.tasks i = .done (.ok (.pushed true)) ∨ (p.tasks i).next? = some (.fetchAdd .processed)) := by
    intro i transaction
    rw [hI.mem_enqueued, returned_iff (hφ i), next_iff (hφ i)]
  constructor
  case order => exact hI.queue
  case once =>
    apply nodup_map_fst
    intro i
    rw [hI.enqueuedBy]
    unfold enqueuedBy
    split <;> simp
  case pushed => exact hpushed
  case batch => exact fun i transactions hreturn => (hI.returns_taken hφ i _ hreturn).1 transactions rfl
  case one => exact fun i transaction hreturn => (hI.returns_taken hφ i _ hreturn).2 transaction rfl
  case processed => exact hI.processed hφ
  case quiescent =>
    intro hquiescent
    refine ⟨fun i transaction => ?_, hI.quiescent hφ hquiescent⟩
    rw [hI.mem_enqueued, returned_iff (hφ i),
      or_iff_left (settled (hI.fits i) (hφ i) (hquiescent i)).2]

/-- A push and a receive, one after the other. -/
theorem push_then_receive_accounted :
    NothingLost .default pushThenReceive (Pool.runSchedule (bufferHandler .default) [0, 0, 0, 0, 0, 1, 1, 1]
      (.start newBuffer fun i => (pushThenReceive i).task .default false)) :=
  (nothing_lost (rfl : BackpressureBuffer.new .default (fun _ => Binary64.ofNat 0) = .ok newBuffer)
    (Pool.reach_of_admits (by decide +kernel))).1

/-- **A transaction is delivered before it is counted**, and before its push returns, when
the receive comes between the enqueueing and the count: it is then not one of those whose push
has returned `true`, and `total_processed` is not the number of those delivered and queued. -/
theorem delivered_before_counted :
    BackpressureBuffer.new .default (fun _ => Binary64.ofNat 0) = .ok newBuffer ∧
      ∃ p : BufferPool (Fin 2),
        Pool.Reach (bufferHandler .default) Ready
          (.start newBuffer fun i => (pushThenReceive i).task .default false) p ∧
        delivered p = [(1, pendingWith "0x1")] ∧ p.shared.queue = [] ∧
        (¬ ∃ i, (p.tasks i).result? = some (.ok (.pushed true))) ∧
        p.shared.totalProcessed ≠ BitVec.ofNat 64 ((delivered p).length + p.shared.queue.length) := by
  refine ⟨rfl, .runSchedule (bufferHandler .default) [0, 0, 0, 0, 1, 1]
    (.start newBuffer fun i => (pushThenReceive i).task .default false), ?_, ?_⟩
  · exact Pool.reach_of_admits (by decide +kernel)
  · decide +kernel

end Botmev.Mempool
