import Botmev.Core.Types
import Botmev.Library.Interleaving

/-!
# The ring buffer

`TransactionRingBuffer` and `TransactionConsumer` (`mev-mempool/src/ring_buffer.rs`). All clones of a
buffer, and its consumers, share one bounded queue, but each clone has a counter of its own for the
transactions that were dropped, which starts with what it reads from that of the buffer it is cloned
from.

The operations on the queue and on the counters are atomic, and `crossbeam`'s `ArrayQueue` is a
bounded queue. A buffer is named by its place among the clones, in the order in which they were made,
which is its handle; none of them is ever gone. The length of the queue, which may be asked, and the log are left out.
-/

namespace Botmev.Mempool

open Botmev.Rust Botmev.Library Botmev.Core

/-- What the clones share, and their counters. -/
structure RingBuffer where
  /-- The size of the queue. -/
  capacity : ℕ
  /-- The transactions in the queue. -/
  queue : List ParsedTransaction
  /-- `dropped_count` of each clone. -/
  droppedCounts : List U64
  deriving DecidableEq, Repr

/-- `TransactionRingBuffer::new`. -/
def RingBuffer.new (capacity : ℕ) : Result RingBuffer :=
  if capacity = 0 then .error (.panic "capacity must be non-zero") else .ok ⟨capacity, [], [0]⟩

/-! ### The operations -/

/-- The atomic operations. -/
inductive RingOp where
  /-- `queue.push(transaction)`. -/
  | push (transaction : ParsedTransaction)
  /-- `queue.pop()`. -/
  | pop
  /-- `dropped_count.fetch_add(1, Ordering::Relaxed)`, of a clone. -/
  | fetchAdd (handle : ℕ)
  /-- `dropped_count.load(Ordering::Relaxed)`, of a clone. -/
  | load (handle : ℕ)
  /-- A new clone with its counter. -/
  | create (droppedCount : U64)
  deriving DecidableEq, Repr

/-- The atomic operations, with what each answers. -/
@[reducible] def RingI : Interface where
  Op := RingOp
  Reply
    | .push _ => Bool
    | .pop => Option ParsedTransaction
    | .fetchAdd _ | .load _ => U64
    | .create _ => ℕ

/-- What the operations do; an atomic addition wraps around. -/
def ringHandler : Handler RingI RingBuffer
  | .push transaction, ring =>
    if ring.queue.length < ring.capacity then (true, { ring with queue := ring.queue ++ [transaction] })
    else (false, ring)
  | .pop, ring => (ring.queue.head?, { ring with queue := ring.queue.tail })
  | .fetchAdd handle, ring =>
    (ring.droppedCounts.getD handle 0, { ring with droppedCounts := ring.droppedCounts.modify handle (· + 1) })
  | .load handle, ring => (ring.droppedCounts.getD handle 0, ring)
  | .create droppedCount, ring =>
    (ring.droppedCounts.length, { ring with droppedCounts := ring.droppedCounts ++ [droppedCount] })

/-! ### The functions -/

/-- What is left of a function of the ring buffer. -/
abbrev RingM := Async RingI Failure

namespace RingBuffer

/-- `push`. -/
def push (handle : ℕ) (transaction : ParsedTransaction) : RingM Bool := do
  let pushed ← Async.request (I := RingI) (.push transaction)
  if pushed then pure true
  else do
    let _ ← Async.request (I := RingI) (.fetchAdd handle)
    -- for the warning
    let _ ← Async.request (I := RingI) (.load handle)
    pure false

/-- `pop`, `try_pop`, and `consume` of a consumer. -/
def pop : RingM (Option ParsedTransaction) := Async.request (I := RingI) .pop

/-- `dropped_count`. -/
def droppedCount (handle : ℕ) : RingM U64 := Async.request (I := RingI) (.load handle)

/-- `clone`. -/
def clone (handle : ℕ) : RingM ℕ := do
  let droppedCount ← Async.request (I := RingI) (.load handle)
  Async.request (I := RingI) (.create droppedCount)

/-- The loop of `consume_batch`. -/
def consumeUpTo : ℕ → List ParsedTransaction → RingM (List ParsedTransaction)
  | 0, transactions => pure transactions
  | n + 1, transactions => do
    match ← Async.request (I := RingI) .pop with
    | some tx => consumeUpTo n (transactions ++ [tx])
    | none => pure transactions

/-- `consume_batch`. -/
def consumeBatch (maxCount : ℕ) : RingM (List ParsedTransaction) := consumeUpTo maxCount []

end RingBuffer

/-! ### Calls -/

/-- A call of one of the functions. -/
inductive RingCall where
  /-- `push`, of a clone. -/
  | push (handle : ℕ) (transaction : ParsedTransaction)
  /-- `pop` or `try_pop`, of a clone. -/
  | pop (handle : ℕ)
  /-- `dropped_count`, of a clone. -/
  | droppedCount (handle : ℕ)
  /-- `clone`. -/
  | clone (handle : ℕ)
  /-- `consume`, of a consumer. -/
  | consume
  /-- `consume_batch`, of a consumer. -/
  | consumeBatch (maxCount : ℕ)
  deriving DecidableEq, Repr

/-- What a call returns. -/
inductive RingReturn where
  /-- What `push` returns. -/
  | pushed (accepted : Bool)
  /-- What `pop` and `consume` return. -/
  | popped (transaction : Option ParsedTransaction)
  /-- What `consume_batch` returns. -/
  | batch (transactions : List ParsedTransaction)
  /-- What `dropped_count` returns. -/
  | count (droppedCount : U64)
  /-- The clone that `clone` returns. -/
  | cloned (handle : ℕ)
  deriving DecidableEq, Repr

namespace RingCall

/-- The clone whose function is called; a consumer needs none. -/
def handle? : RingCall → Option ℕ
  | .push handle _ | .pop handle | .droppedCount handle | .clone handle => some handle
  | .consume | .consumeBatch _ => none

/-- A call that has not begun. -/
def task : RingCall → RingM RingReturn
  | .push handle transaction => do
    let accepted ← RingBuffer.push handle transaction
    pure (.pushed accepted)
  | .pop _ | .consume => do
    let transaction ← RingBuffer.pop
    pure (.popped transaction)
  | .droppedCount handle => do
    let droppedCount ← RingBuffer.droppedCount handle
    pure (.count droppedCount)
  | .clone handle => do
    let handle ← RingBuffer.clone handle
    pure (.cloned handle)
  | .consumeBatch maxCount => do
    let transactions ← RingBuffer.consumeBatch maxCount
    pure (.batch transactions)

end RingCall

/-- Calls on the clones and consumers of one buffer. -/
abbrev RingPool (ι : Type) := Pool RingI Failure RingReturn RingBuffer ι

variable {ι : Type}

/-- **A clone exists** when one of its functions is called. -/
def Made (calls : ι → RingCall) (p : RingPool ι) (i : ι) : Prop :=
  ∀ handle ∈ (calls i).handle?, handle < p.shared.droppedCounts.length

instance (calls : ι → RingCall) (p : RingPool ι) (i : ι) : Decidable (Made calls p i) := by
  unfold Made
  infer_instance

end Botmev.Mempool
