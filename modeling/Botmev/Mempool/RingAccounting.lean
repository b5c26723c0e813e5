import Botmev.Mempool.Occupancy
import Botmev.Mempool.RingBuffer

/-!
# The accounts of a ring buffer

What the clones and consumers of a ring buffer have pushed and popped, in every interleaving of their
calls, and what the clones say was dropped.

The queue is shared, so what was popped, and what is queued after it, is what was accepted. The
counters are not: a clone starts with the count of the buffer it is made from, and from then on a
rejected push counts with its own clone only.

## What is proved

* `RingBuffer.popped_append_queue`: the law of the queue, in every state that is reached.
* `RingCall.follows`: the order in which a call asks for its operations.
* `ringKept`: what each call has done, as far as it is.
* `returnsKept`: what pushes and pops return.
* `counts_of_alone`: every count is right as long as rejected pushes count while there is one buffer.
* `accounting_while_alone`: all of that together.
-/

namespace Botmev.Mempool

open Botmev.Rust Botmev.Library Botmev.Core Pool

namespace RingBuffer

/-! ### What the operations give -/

/-- The transaction that an operation brings into the queue. -/
def accepts : (op : RingOp) → RingI.Reply op → Option ParsedTransaction
  | .push transaction, true => some transaction
  | _, _ => none

/-- The transaction that an operation takes from it. -/
def takes : (op : RingOp) → RingI.Reply op → Option ParsedTransaction
  | .pop, transaction => transaction
  | _, _ => none

/-- Whether an operation is a push that is rejected. -/
def rejects : (op : RingOp) → RingI.Reply op → Option Unit
  | .push _, false => some ()
  | _, _ => none

/-- Whether an operation counts one that was. -/
def counts : (op : RingOp) → RingI.Reply op → Option Unit
  | .fetchAdd _, _ => some ()
  | _, _ => none

variable {ι : Type}

/-- **The accepted pushes**, each with its transaction, in their order. -/
def accepted (p : RingPool ι) : List (ι × ParsedTransaction) := gather accepts p.history

/-- **The popped transactions**, each with the call that popped it, in their order. -/
def popped (p : RingPool ι) : List (ι × ParsedTransaction) := gather takes p.history

/-- **The rejected pushes**, through whichever clone. -/
def rejected (p : RingPool ι) : List (ι × Unit) := gather rejects p.history

/-- Those of them that are counted. -/
def counted (p : RingPool ι) : List (ι × Unit) := gather counts p.history

variable {op : RingOp} {ring : RingBuffer}

/-- What was queued, and what is accepted, is taken or still queued. -/
theorem queue_after (op : RingOp) (ring : RingBuffer) :
    (takes op (ringHandler op ring).1).toList ++ (ringHandler op ring).2.queue =
      ring.queue ++ (accepts op (ringHandler op ring).1).toList := by
  cases op with
  | push transaction =>
    rw [ringHandler]
    split
    · rfl
    · exact (List.append_nil _).symm
  | pop =>
    rcases hqueue : ring.queue with _ | ⟨transaction, queue⟩ <;> simp [ringHandler, takes, accepts, hqueue]
  | _ => exact (List.append_nil _).symm

variable [DecidableEq ι] {p p₀ : RingPool ι} {i : ι}

/-- **The law of the queue**: in every state of every run, what was popped, and then what is queued, is
what was accepted, in order. -/
theorem popped_append_queue {G : RingPool ι → ι → Prop} {capacity : ℕ}
    (hnew : RingBuffer.new capacity = .ok ring)
    {tasks : ι → RingM RingReturn} (hr : Reach ringHandler G (.start ring tasks) p) :
    (popped p).map Prod.snd ++ p.shared.queue = (accepted p).map Prod.snd := by
  refine hr.invariant (fun p => (popped p).map Prod.snd ++ p.shared.queue = (accepted p).map Prod.snd) ?_ ?_
  · rw [RingBuffer.new] at hnew
    split at hnew
    · cases hnew
    · cases hnew
      rfl
  · intro p i op k hI _ _
    have hqueue := queue_after op p.shared
    have hsnd : ∀ b : Option ParsedTransaction, ((b.map fun b => (i, b)).toList).map Prod.snd = b.toList := by
      rintro (_ | b) <;> rfl
    rw [popped, accepted, gather_after, gather_after, List.map_append, List.map_append,
      after_shared, hsnd, hsnd,
      List.append_assoc, hqueue, ← List.append_assoc]
    exact congrArg (· ++ _) hI

end RingBuffer

/-! ### The protocol of the calls -/

/-- How far a call is. -/
inductive RingStage where
  /-- It has done nothing. -/
  | fresh
  /-- Its push is accepted. -/
  | accepted
  /-- Its push is rejected, and not counted. -/
  | rejected
  /-- The rejected push is counted. -/
  | counted
  /-- It has popped the transactions. -/
  | took (transactions : List ParsedTransaction)
  /-- It has read a count. -/
  | read (droppedCount : U64)
  /-- Its clone is made. -/
  | cloned

/-- What a call may ask for, and how far it is then. -/
inductive RingMove : RingCall × RingStage → (op : RingOp) → RingI.Reply op → RingCall × RingStage → Prop
  /-- There is room. -/
  | accept {handle : ℕ} {transaction : ParsedTransaction} :
      RingMove (.push handle transaction, .fresh) (.push transaction) true (.push handle transaction, .accepted)
  /-- There is none. -/
  | reject {handle : ℕ} {transaction : ParsedTransaction} :
      RingMove (.push handle transaction, .fresh) (.push transaction) false (.push handle transaction, .rejected)
  /-- The rejection is counted with its clone. -/
  | count {handle : ℕ} {transaction : ParsedTransaction} {n : U64} :
      RingMove (.push handle transaction, .rejected) (.fetchAdd handle) n (.push handle transaction, .counted)
  /-- The count is read for the warning. -/
  | warn {handle : ℕ} {transaction : ParsedTransaction} {n : U64} :
      RingMove (.push handle transaction, .counted) (.load handle) n (.push handle transaction, .counted)
  /-- It pops a transaction, if there is one. -/
  | pop {call : RingCall} {transactions : List ParsedTransaction} {reply : Option ParsedTransaction} :
      RingMove (call, .took transactions) .pop reply (call, .took (transactions ++ reply.toList))
  /-- It reads the count. -/
  | read {handle : ℕ} {n : U64} :
      RingMove (.droppedCount handle, .fresh) (.load handle) n (.droppedCount handle, .read n)
  /-- It reads the count for the clone. -/
  | load {handle : ℕ} {n : U64} : RingMove (.clone handle, .fresh) (.load handle) n (.clone handle, .read n)
  /-- It makes the clone. -/
  | create {handle handle' : ℕ} {n : U64} :
      RingMove (.clone handle, .read n) (.create n) handle' (.clone handle, .cloned)

/-- The protocol of the calls. -/
@[reducible] def ringProtocol : Protocol RingI where
  Phase := RingCall × RingStage
  legal _ _ := True
  move := RingMove

/-- How far a call is at first. -/
def RingCall.firstStage : RingCall → RingStage
  | .pop _ | .consume | .consumeBatch _ => .took []
  | _ => .fresh

/-- What a call returns, as far as it is. -/
inductive RingEnds : RingCall × RingStage → Result RingReturn → Prop
  /-- A push that is accepted. -/
  | accepted {handle : ℕ} {transaction : ParsedTransaction} :
      RingEnds (.push handle transaction, .accepted) (.ok (.pushed true))
  /-- A push that is rejected. -/
  | rejected {handle : ℕ} {transaction : ParsedTransaction} :
      RingEnds (.push handle transaction, .counted) (.ok (.pushed false))
  /-- A single transaction. -/
  | popped {call : RingCall} {transaction : Option ParsedTransaction} :
      RingEnds (call, .took transaction.toList) (.ok (.popped transaction))
  /-- A batch. -/
  | batch {call : RingCall} {transactions : List ParsedTransaction} :
      RingEnds (call, .took transactions) (.ok (.batch transactions))
  /-- The count. -/
  | count {handle : ℕ} {n : U64} : RingEnds (.droppedCount handle, .read n) (.ok (.count n))
  /-- A clone. -/
  | cloned {handle handle' : ℕ} : RingEnds (.clone handle, .cloned) (.ok (.cloned handle'))

theorem consumeUpTo_follows (call : RingCall) (n : ℕ) (transactions : List ParsedTransaction) :
    ringProtocol.Follows (fun φ r => ∃ taken, φ = (call, .took taken) ∧ r = .ok taken) (call, .took transactions)
      (RingBuffer.consumeUpTo n transactions) := by
  induction n generalizing transactions with
  | zero => exact ⟨transactions, rfl, rfl⟩
  | succ n ih =>
    rintro (_ | transaction) _
    · refine ⟨_, .pop, transactions, ?_, rfl⟩
      rw [Option.toList_none, List.append_nil]
    · exact ⟨_, .pop, ih _⟩

/-- **A call follows the protocol.** -/
theorem RingCall.follows (call : RingCall) :
    ringProtocol.Follows RingEnds (call, call.firstStage) call.task := by
  cases call with
  | push handle transaction =>
    rintro (_ | _) _
    · refine ⟨_, .reject, fun n _ => ⟨_, .count, fun n _ => ⟨_, .warn, .rejected⟩⟩⟩
    · exact ⟨_, .accept, .accepted⟩
  | pop handle => exact fun transaction _ => ⟨_, .pop, .popped⟩
  | consume => exact fun transaction _ => ⟨_, .pop, .popped⟩
  | droppedCount handle => exact fun n _ => ⟨_, .read, .count⟩
  | clone handle => exact fun n _ => ⟨_, .load, fun handle' _ => ⟨_, .create, .cloned⟩⟩
  | consumeBatch maxCount =>
    refine (consumeUpTo_follows _ maxCount []).bind ?_ ?_
    · rintro φ transactions ⟨taken, rfl, h⟩
      cases h
      exact .batch
    · rintro φ e ⟨taken, -, h⟩
      cases h

/-! ### What each call has done -/

/-- What a call has brought into the queue. -/
def acceptedBy : RingCall × RingStage → List ParsedTransaction
  | (.push _ transaction, .accepted) => [transaction]
  | _ => []

/-- What a call has taken from it. -/
def takenBy : RingCall × RingStage → List ParsedTransaction
  | (_, .took transactions) => transactions
  | _ => []

/-- Whether a call is a rejected push. -/
def rejectedBy : RingCall × RingStage → List Unit
  | (_, .rejected) | (_, .counted) => [()]
  | _ => []

/-- Whether it is a rejected push that is counted. -/
def rejectionCountedBy : RingCall × RingStage → List Unit
  | (_, .counted) => [()]
  | _ => []

variable {φ φ' : RingCall × RingStage} {op : RingOp} {reply : RingI.Reply op}

open RingBuffer in
/-- **A move** adds what its operation gives. -/
theorem RingMove.gives (hm : RingMove φ op reply φ') :
    φ'.1 = φ.1 ∧ acceptedBy φ' = acceptedBy φ ++ (accepts op reply).toList ∧
      takenBy φ' = takenBy φ ++ (takes op reply).toList ∧
      rejectedBy φ' = rejectedBy φ ++ (rejects op reply).toList ∧
      rejectionCountedBy φ' = rejectionCountedBy φ ++ (RingBuffer.counts op reply).toList := by
  cases hm with
  | @pop call => cases call <;> exact ⟨rfl, rfl, rfl, rfl, rfl⟩
  | _ => exact ⟨rfl, rfl, rfl, rfl, rfl⟩

variable {ι : Type} {calls : ι → RingCall} {p : RingPool ι} {phases : ι → RingCall × RingStage} {i : ι}

/-- What each call has done, as its phase has it. -/
structure RingKept [DecidableEq ι] (calls : ι → RingCall) (p : RingPool ι)
    (phases : ι → RingCall × RingStage) :
    Prop where
  /-- Each phase is one of its call. -/
  fits : ∀ i, (phases i).1 = calls i
  /-- What each call has brought into the queue. -/
  acceptedBy : ∀ i, own i (RingBuffer.accepted p) = acceptedBy (phases i)
  /-- What each call has taken. -/
  takenBy : ∀ i, own i (RingBuffer.popped p) = takenBy (phases i)
  /-- Which calls are rejected pushes. -/
  rejectedBy : ∀ i, own i (RingBuffer.rejected p) = rejectedBy (phases i)
  /-- Which of them are counted. -/
  countedBy : ∀ i, own i (RingBuffer.counted p) = rejectionCountedBy (phases i)

theorem RingKept.start [DecidableEq ι] (calls : ι → RingCall) (ring : RingBuffer)
    (tasks : ι → RingM RingReturn) :
    RingKept calls (.start ring tasks) fun i => (calls i, (calls i).firstStage) := by
  constructor <;> intro i <;> cases calls i <;> rfl

theorem RingKept.after [DecidableEq ι] {k : RingI.Reply op → RingM RingReturn} (hI : RingKept calls p phases)
    (hm : RingMove (phases i) op (ringHandler op p.shared).1 φ') :
    RingKept calls (p.after ringHandler i op k) (Function.update phases i φ') := by
  obtain ⟨hcall, haccepts, htakes, hrejects, hcounts⟩ := hm.gives
  constructor
  · rw [Function.forall_update_iff phases fun j φ => φ.1 = calls j, hcall]
    exact ⟨hI.fits i, fun j _ => hI.fits j⟩
  · exact own_gather_after hI.acceptedBy haccepts
  · exact own_gather_after hI.takenBy htakes
  · exact own_gather_after hI.rejectedBy hrejects
  · exact own_gather_after hI.countedBy hcounts

/-! ### How far each call is -/

/-- It is about to count a rejected push. -/
def Counting (t : RingM RingReturn) : Prop :=
  match t.next? with
  | some (.fetchAdd _) => True
  | _ => False

/-- It is about to make a clone, with the count that it has read. -/
def Cloning (t : RingM RingReturn) : Prop :=
  match t.next? with
  | some (.create _) => True
  | _ => False

instance (t : RingM RingReturn) : Decidable (Counting t) := by
  unfold Counting
  split <;> infer_instance

instance (t : RingM RingReturn) : Decidable (Cloning t) := by
  unfold Cloning
  split <;> infer_instance

variable {t : RingM RingReturn}

theorem exists_ringMove {k : RingI.Reply op → RingM RingReturn}
    (h : ringProtocol.Follows RingEnds φ (.await op k)) :
    ∃ reply φ', RingMove φ op reply φ' := by
  obtain ⟨φ', hm, -⟩ := h (ringHandler op ⟨0, [], []⟩).1 trivial
  exact ⟨_, φ', hm⟩

theorem counting_of_rejected {call : RingCall}
    (h : ringProtocol.Follows RingEnds (call, .rejected) t) : Counting t := by
  rcases t with r | ⟨op, k⟩
  · have hends : RingEnds (call, .rejected) r := h
    cases hends
  · obtain ⟨reply, φ', hm⟩ := exists_ringMove h
    cases hm
    trivial

theorem cloning_of_read {handle : ℕ} {n : U64}
    (h : ringProtocol.Follows RingEnds (.clone handle, .read n) t) :
    Cloning t := by
  rcases t with r | ⟨op, k⟩
  · have hends : RingEnds (.clone handle, .read n) r := h
    cases hends
  · obtain ⟨reply, φ', hm⟩ := exists_ringMove h
    cases hm
    trivial

/-! ### The counts -/

/-- **No rejected push** is still to be counted. -/
def Settled (p : RingPool ι) : Prop := ∀ i, ¬ Counting (p.tasks i)

/-- **A rejected push counts alone**: when it is counted, there is one buffer, none is being cloned,
and its count has room. -/
def CountsAlone (p : RingPool ι) (i : ι) : Prop :=
  match (p.tasks i).next? with
  | some (.fetchAdd handle) =>
    p.shared.droppedCounts.length = 1 ∧ (∀ j, ¬ Cloning (p.tasks j)) ∧
      (p.shared.droppedCounts.getD handle 0).toNat + 1 < 2 ^ 64
  | _ => True

instance {n : ℕ} (p : RingPool (Fin n)) : Decidable (Settled p) := Nat.decidableForallFin _

instance {n : ℕ} (p : RingPool (Fin n)) (i : Fin n) : Decidable (CountsAlone p i) := by
  letI := Nat.decidableForallFin fun j => ¬ Cloning (p.tasks j)
  unfold CountsAlone
  split <;> infer_instance

/-- A count that was read for a clone is this number. -/
def ReadIs (m : ℕ) (φ : RingCall × RingStage) : Prop := ∀ handle n, φ = (.clone handle, .read n) → n.toNat = m

/-- Every count is the number of the rejected pushes that are counted, and so is one that was read for
a clone. -/
structure CountsKept (p : RingPool ι) (phases : ι → RingCall × RingStage) : Prop where
  /-- The counts of the clones. -/
  clones : ∀ n ∈ p.shared.droppedCounts, n.toNat = (RingBuffer.counted p).length
  /-- Those that were read. -/
  read : ∀ i, ReadIs (RingBuffer.counted p).length (phases i)

/-- Where neither the counts nor what is counted change, only a count that is read matters. -/
theorem CountsKept.of_same [DecidableEq ι] {k : RingI.Reply op → RingM RingReturn}
    (hcounts : CountsKept p phases)
    (hshared : (ringHandler op p.shared).2.droppedCounts = p.shared.droppedCounts)
    (hnone : RingBuffer.counts op (ringHandler op p.shared).1 = none)
    (hread : ReadIs (RingBuffer.counted p).length φ') :
    CountsKept (p.after ringHandler i op k) (Function.update phases i φ') := by
  have hcounted : RingBuffer.counted (p.after ringHandler i op k) = RingBuffer.counted p := by
    rw [RingBuffer.counted, gather_after, hnone]
    exact List.append_nil _
  constructor
  · intro n hn
    rw [after_shared, hshared] at hn
    rw [hcounted]
    exact hcounts.clones n hn
  · rw [hcounted, Function.forall_update_iff phases fun _ φ => ReadIs (RingBuffer.counted p).length φ]
    exact ⟨hread, fun j _ => hcounts.read j⟩

/-- What the counts are after a rejected push has counted alone. -/
theorem CountsKept.count [DecidableEq ι] {handle : ℕ} {k : RingI.Reply (.fetchAdd handle) → RingM RingReturn}
    (hcounts : CountsKept p phases) (hone : p.shared.droppedCounts.length = 1) (hhandle : handle < 1)
    (hroom : (p.shared.droppedCounts.getD handle 0).toNat + 1 < 2 ^ 64)
    (hnone : ∀ j handle n, phases j ≠ (.clone handle, .read n)) (hφ' : ∀ handle n, φ' ≠ (.clone handle, .read n)) :
    CountsKept (p.after ringHandler i (.fetchAdd handle) k) (Function.update phases i φ') := by
  have hcounted : (RingBuffer.counted (p.after ringHandler i (.fetchAdd handle) k)).length =
      (RingBuffer.counted p).length + 1 := by
    rw [RingBuffer.counted, gather_after, List.length_append]
    rfl
  obtain ⟨n, hn⟩ := List.length_eq_one_iff.mp hone
  obtain rfl : handle = 0 := by omega
  rw [hn] at hroom
  have hroom : n.toNat + 1 < 2 ^ 64 := hroom
  constructor
  · intro n' hn'
    have hn' : n' ∈ p.shared.droppedCounts.modify 0 (· + 1) := hn'
    rw [hn] at hn'
    obtain rfl := List.mem_singleton.mp hn'
    rw [hcounted, ← hcounts.clones n (hn ▸ List.mem_singleton_self n), BitVec.toNat_add_of_lt hroom]
    rfl
  · rw [Function.forall_update_iff phases fun _ φ => ReadIs _ φ]
    exact ⟨fun handle n h => absurd h (hφ' handle n), fun j _ handle n h => absurd h (hnone j handle n)⟩

/-- What the counts are after a clone is made, with a count that was read. -/
theorem CountsKept.create [DecidableEq ι] {n : U64} {k : RingI.Reply (.create n) → RingM RingReturn}
    (hcounts : CountsKept p phases) (hn : n.toNat = (RingBuffer.counted p).length)
    (hφ' : ReadIs (RingBuffer.counted p).length φ') :
    CountsKept (p.after ringHandler i (.create n) k) (Function.update phases i φ') := by
  have hcounted : RingBuffer.counted (p.after ringHandler i (.create n) k) = RingBuffer.counted p := by
    rw [RingBuffer.counted, gather_after]
    exact List.append_nil _
  constructor
  · intro n' hn'
    rw [hcounted]
    rcases List.mem_append.mp hn' with hn' | hn'
    · exact hcounts.clones n' hn'
    · rw [List.mem_singleton.mp hn']
      exact hn
  · rw [hcounted, Function.forall_update_iff phases fun _ φ => ReadIs (RingBuffer.counted p).length φ]
    exact ⟨hφ', fun j _ => hcounts.read j⟩

/-- **The counts are kept** by a step, where a rejected push counts alone. -/
theorem CountsKept.after [DecidableEq ι] {k : RingI.Reply op → RingM RingReturn}
    (hkept : RingKept calls p phases)
    (hcounts : CountsKept p phases) (hfollows : ∀ i, ringProtocol.Follows RingEnds (phases i) (p.tasks i))
    (hmade : Made calls p i) (halone : CountsAlone p i) (hi : p.tasks i = .await op k)
    (hm : RingMove (phases i) op (ringHandler op p.shared).1 φ') :
    CountsKept (p.after ringHandler i op k) (Function.update phases i φ') := by
  have hfits := hkept.fits i
  rw [CountsAlone, hi, Async.next?_await] at halone
  generalize hφ : phases i = φ at hm hfits
  generalize hreply : (ringHandler op p.shared).1 = reply at hm
  cases hm with
  | @accept handle transaction =>
    refine hcounts.of_same ?_ (by rw [hreply]; rfl) fun handle n h => by cases h
    rw [ringHandler]
    split <;> rfl
  | @reject handle transaction =>
    refine hcounts.of_same ?_ (by rw [hreply]; rfl) fun handle n h => by cases h
    rw [ringHandler]
    split <;> rfl
  | @count handle transaction n =>
    obtain ⟨hone, hnone, hroom⟩ := halone
    have hhandle : handle < p.shared.droppedCounts.length := hmade handle (by rw [← hfits]; rfl)
    refine hcounts.count hone (hone ▸ hhandle) hroom (fun j handle n h => ?_) fun handle n h => by cases h
    have hj := hfollows j
    rw [h] at hj
    exact hnone j (cloning_of_read hj)
  | warn => exact hcounts.of_same rfl rfl fun handle n h => by cases h
  | pop => exact hcounts.of_same rfl rfl fun handle n h => by cases h
  | read => exact hcounts.of_same rfl rfl fun handle n h => by cases h
  | @load handle n =>
    have hhandle : handle < p.shared.droppedCounts.length := hmade handle (by rw [← hfits]; rfl)
    refine hcounts.of_same rfl rfl fun handle' n' h => ?_
    cases h
    rw [← hreply]
    show (p.shared.droppedCounts.getD handle 0).toNat = _
    rw [List.getD_eq_getElem?_getD, List.getElem?_eq_getElem hhandle, Option.getD_some]
    exact hcounts.clones _ (List.getElem_mem hhandle)
  | @create handle handle' n => exact hcounts.create (hcounts.read i handle n hφ) fun handle n h => by cases h

/-! ### All calls -/

variable [DecidableEq ι] {ring : RingBuffer} {capacity : ℕ}

theorem RingBuffer.new_eq_ok (h : RingBuffer.new capacity = .ok ring) : ring = ⟨capacity, [], [0]⟩ := by
  rw [RingBuffer.new] at h
  split at h
  · cases h
  · exact (Except.ok.inj h).symm

/-- **What each call has done**, in every state of every run. -/
theorem ringKept (calls : ι → RingCall) {G : RingPool ι → ι → Prop}
    (hr : Reach ringHandler G (.start ring fun i => (calls i).task) p) :
    ∃ phases, RingKept calls p phases ∧ ∀ i, ringProtocol.Follows RingEnds (phases i) (p.tasks i) :=
  Protocol.exists_phases hr (fun i => (calls i).follows) (RingKept calls) (.start calls ring _)
    (fun _ _ _ _ => trivial) fun _ _ _ _ _ _ hI _ _ hm => hI.after hm

/-- **The counts**, as long as rejected pushes count alone. -/
theorem counts_of_alone (calls : ι → RingCall) (hnew : RingBuffer.new capacity = .ok ring)
    (hr : Reach ringHandler (fun p i => Made calls p i ∧ CountsAlone p i)
      (.start ring fun i => (calls i).task) p) :
    ∃ phases, (RingKept calls p phases ∧ CountsKept p phases) ∧
      ∀ i, ringProtocol.Follows RingEnds (phases i) (p.tasks i) := by
  obtain rfl := RingBuffer.new_eq_ok hnew
  refine Protocol.exists_phases_of_follows hr (fun i => (calls i).follows)
    (fun p phases => RingKept calls p phases ∧ CountsKept p phases) ⟨.start calls _ _, ?_, ?_⟩
    (fun _ _ _ _ => trivial) ?_
  · intro n hn
    obtain rfl := List.mem_singleton.mp hn
    rfl
  · intro i handle n h
    cases hcall : calls i <;> rw [hcall] at h <;> cases h
  · rintro p phases i op k φ' ⟨hkept, hcounts⟩ hfollows ⟨hmade, halone⟩ hi hm
    exact ⟨hkept.after hm, hcounts.after hkept hfollows hmade halone hi hm⟩

/-- Where no rejected push is still to be counted, as many are counted as were rejected. -/
theorem RingKept.length_rejected {phases : ι → RingCall × RingStage} (hkept : RingKept calls p phases)
    (hfollows : ∀ i, ringProtocol.Follows RingEnds (phases i) (p.tasks i)) (hsettled : Settled p) :
    (RingBuffer.counted p).length = (RingBuffer.rejected p).length := by
  refine length_eq_of_own fun i => ?_
  rw [hkept.countedBy, hkept.rejectedBy]
  have hi := hfollows i
  rcases hφ : phases i with ⟨call, stage⟩
  rw [hφ] at hi
  cases stage with
  | rejected => exact absurd (counting_of_rejected hi) (hsettled i)
  | _ => rfl

/-- What pushes and pops return. -/
structure ReturnsKept (p : RingPool ι) : Prop where
  /-- A push that has returned is one accepted or one rejected, as it says. -/
  pushed : ∀ i accepted, p.tasks i = .done (.ok (.pushed accepted)) →
    (own i (RingBuffer.accepted p)).length = accepted.toNat ∧
      (own i (RingBuffer.rejected p)).length = (!accepted).toNat
  /-- A pop that has returned has returned what it has taken. -/
  popped : ∀ i transaction, p.tasks i = .done (.ok (.popped transaction)) →
    own i (RingBuffer.popped p) = transaction.toList
  /-- And so has a batch. -/
  batch : ∀ i transactions, p.tasks i = .done (.ok (.batch transactions)) →
    own i (RingBuffer.popped p) = transactions

/-- **What pushes and pops return** is what they have done, in every state of every run. -/
theorem returnsKept (calls : ι → RingCall) {G : RingPool ι → ι → Prop}
    (hr : Reach ringHandler G (.start ring fun i => (calls i).task) p) : ReturnsKept p := by
  obtain ⟨phases, hkept, hfollows⟩ := ringKept calls hr
  have hends : ∀ {i r}, p.tasks i = .done r → RingEnds (phases i) r := fun {i r} hi => by
    have hi' := hfollows i
    rw [hi] at hi'
    exact hi'
  constructor
  · intro i accepted hi
    rw [hkept.acceptedBy, hkept.rejectedBy]
    generalize phases i = φ, hends hi = h
    cases h <;> exact ⟨rfl, rfl⟩
  · intro i transaction hi
    rw [hkept.takenBy]
    generalize phases i = φ, hends hi = h
    cases h
    rfl
  · intro i transactions hi
    rw [hkept.takenBy]
    generalize phases i = φ, hends hi = h
    cases h
    rfl

/-- The accounts of a ring buffer. -/
structure RingAccounts (p : RingPool ι) : Prop extends ReturnsKept p where
  /-- What was popped, and then what is queued, is what was accepted, in order. -/
  queue : (RingBuffer.popped p).map Prod.snd ++ p.shared.queue = (RingBuffer.accepted p).map Prod.snd
  /-- Where no rejected push is still to be counted, the count of every clone is the number of rejected
  pushes. -/
  dropped : Settled p → ∀ n ∈ p.shared.droppedCounts, n.toNat = (RingBuffer.rejected p).length

/-- **The accounts of a ring buffer**, in every state of every run, over any calls on any clones and
consumers, in which rejected pushes count alone. -/
theorem accounting_while_alone (calls : ι → RingCall) (hnew : RingBuffer.new capacity = .ok ring)
    (hr : Reach ringHandler (fun p i => Made calls p i ∧ CountsAlone p i)
      (.start ring fun i => (calls i).task) p) : RingAccounts p := by
  obtain ⟨phases, ⟨hkept, hcounts⟩, hfollows⟩ := counts_of_alone calls hnew hr
  refine ⟨returnsKept calls hr, RingBuffer.popped_append_queue hnew hr, fun hsettled n hn => ?_⟩
  rw [hcounts.clones n hn, hkept.length_rejected hfollows hsettled]

/-- Calls on a buffer for one transaction, taking turns. -/
def runInTurns (calls : Fin 3 → RingCall) (turns : List (Fin 3)) : RingPool (Fin 3) :=
  .runSchedule ringHandler turns (.start ⟨1, [], [0]⟩ fun i => (calls i).task)

/-- Two pushes, and a batch. -/
def pushesAndBatch : Fin 3 → RingCall
  | 0 => .push 0 (pendingWith "0x1")
  | 1 => .push 0 (pendingWith "0x2")
  | 2 => .consumeBatch 5

/-- A buffer for one transaction accepts the first, rejects the second, and gives the first to a
consumer. -/
theorem rejected_alone_accounted : RingAccounts (runInTurns pushesAndBatch [0, 1, 1, 1, 2, 2]) :=
  have hnew : RingBuffer.new 1 = .ok ⟨1, [], [0]⟩ := rfl
  accounting_while_alone pushesAndBatch hnew (Pool.reach_of_admits (by decide))

/-- A push, a clone, and another push of the buffer that was cloned. -/
def pushCloneAndPush : Fin 3 → RingCall
  | 0 => .push 0 (pendingWith "0x1")
  | 1 => .clone 0
  | 2 => .push 0 (pendingWith "0x2")

/-- **A clone misses a rejected push**: of two clones the one counts it, and the other says that nothing
was dropped. -/
theorem clone_misses_rejected_push :
    ∃ p : RingPool (Fin 3),
      RingBuffer.new 1 = .ok ⟨1, [], [0]⟩ ∧
        Reach ringHandler (Made pushCloneAndPush) (.start ⟨1, [], [0]⟩ fun i => (pushCloneAndPush i).task) p ∧
        Settled p ∧ p.shared.droppedCounts = [1, 0] ∧ (RingBuffer.rejected p).length = 1 ∧
        ¬ RingAccounts p := by
  -- One after the other.
  let p := runInTurns pushCloneAndPush [0, 1, 1, 2, 2, 2]
  have hsettled : Settled p := by decide
  have hcounts : p.shared.droppedCounts = [1, 0] := by decide
  have hrejected : (RingBuffer.rejected p).length = 1 := by decide
  refine ⟨p, rfl, Pool.reach_of_admits (by decide), hsettled, hcounts, hrejected, fun h => ?_⟩
  have hzero := h.dropped hsettled 0 (by rw [hcounts]; decide)
  rw [hrejected] at hzero
  cases hzero

end Botmev.Mempool
