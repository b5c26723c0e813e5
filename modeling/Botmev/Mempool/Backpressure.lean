import Botmev.Core.Types
import Botmev.Library.Binary64
import Botmev.Library.Interleaving

/-!
# The backpressure buffer

`BackpressureBuffer` (`mev-mempool/src/backpressure.rs`): a bounded channel with counters, a
flag and a policy for what to do when it is nearly full. Pushes and receives run in
parallel; every operation on a counter, on the flag or on the channel is atomic.

`tokio`'s channel is a queue. `Sender::capacity` is what remains of it, `max_capacity` its
size, and it is never closed, as the buffer holds both ends. A receive waits for the lock
of the receiver, and `recv` for a transaction. The arithmetic of `usize` either checks for
overflow or wraps around, as the build says. What comes from `rand` is a stream of numbers.
The metrics and the log are left out.
-/

namespace Botmev.Mempool

open Botmev.Rust Botmev.Library Botmev.Core

/-- "Drop policy for when buffer is full". -/
inductive DropPolicy where
  | oldest | newest | random
  deriving DecidableEq, Repr

/-- "Backpressure configuration". -/
structure BackpressureConfig where
  /-- Whether there is any. -/
  enabled : Bool
  /-- What to drop. -/
  dropPolicy : DropPolicy
  /-- The utilisation from which it is active. -/
  highWatermark : Binary64
  /-- The utilisation down to which it is. -/
  lowWatermark : Binary64
  /-- The size of the channel. -/
  bufferSize : U64
  deriving DecidableEq, Repr

/-- `BackpressureConfig::default()`. -/
def BackpressureConfig.default : BackpressureConfig where
  enabled := true
  dropPolicy := .oldest
  highWatermark := Binary64.ofDecimal 8 1
  lowWatermark := Binary64.ofDecimal 6 1
  bufferSize := 10000

/-- The buffer. -/
structure BackpressureBuffer where
  /-- The transactions in the channel. -/
  queue : List ParsedTransaction
  /-- Whether a receive has the lock of the receiver. -/
  receiverLocked : Bool
  /-- How many transactions were pushed. -/
  totalReceived : U64
  /-- How many of them were dropped. -/
  totalDropped : U64
  /-- How many of them were enqueued. -/
  totalProcessed : U64
  /-- Whether backpressure is active. -/
  backpressureActive : Bool
  /-- What `rand::random::<f64>()` gives next, and after that. -/
  randoms : ℕ → Binary64

/-- `BackpressureBuffer::new`. -/
def BackpressureBuffer.new (config : BackpressureConfig) (randoms : ℕ → Binary64) : Result BackpressureBuffer :=
  if config.bufferSize = 0 then .error (.panic "mpsc bounded channel requires buffer > 0")
  else if 2 ^ 61 - 1 < config.bufferSize.toNat then
    .error (.panic "a semaphore may not have more than MAX_PERMITS permits (2305843009213693951)")
  else
    .ok
      { queue := []
        receiverLocked := false
        totalReceived := 0
        totalDropped := 0
        totalProcessed := 0
        backpressureActive := false
        randoms }

/-! ### The operations -/

/-- The counters. -/
inductive Counter where
  /-- `total_received`. -/
  | received
  /-- `total_dropped`. -/
  | dropped
  /-- `total_processed`. -/
  | processed
  deriving DecidableEq, Repr

/-- What `try_send` gives. -/
inductive SendResult where
  /-- `Ok(())`. -/
  | sent
  /-- `Err(TrySendError::Full(_))`. -/
  | full
  /-- `Err(TrySendError::Closed(_))`. -/
  | closed
  deriving DecidableEq, Repr

/-- The atomic operations. -/
inductive BufferOp where
  /-- `counter.fetch_add(1, Ordering::Relaxed)`. -/
  | fetchAdd (counter : Counter)
  /-- `counter.load(Ordering::Relaxed)`. -/
  | load (counter : Counter)
  /-- `sender.capacity()`. -/
  | capacity
  /-- `backpressure_active.load(Ordering::Relaxed)`. -/
  | loadActive
  /-- `backpressure_active.store(active, Ordering::Relaxed)`. -/
  | storeActive (active : Bool)
  /-- `rand::random::<f64>()`. -/
  | random
  /-- `sender.try_send(transaction)`. -/
  | trySend (transaction : ParsedTransaction)
  /-- `receiver.lock().await`. -/
  | lock
  /-- `receiver.try_recv()`. -/
  | tryRecv
  /-- `receiver.recv().await`. -/
  | recv
  /-- The lock is released. -/
  | unlock
  deriving DecidableEq, Repr

/-- The atomic operations, with what each answers. -/
@[reducible] def BufferI : Interface where
  Op := BufferOp
  Reply
    | .fetchAdd _ | .load _ => U64
    | .capacity => U64
    | .loadActive => Bool
    | .storeActive _ => Unit
    | .random => Binary64
    | .trySend _ => SendResult
    | .lock | .unlock => Unit
    | .tryRecv | .recv => Option ParsedTransaction

namespace BackpressureBuffer

/-- A counter. -/
def counter (buffer : BackpressureBuffer) : Counter → U64
  | .received => buffer.totalReceived
  | .dropped => buffer.totalDropped
  | .processed => buffer.totalProcessed

/-- Add one to a counter; an atomic addition wraps around. -/
def add (buffer : BackpressureBuffer) : Counter → BackpressureBuffer
  | .received => { buffer with totalReceived := buffer.totalReceived + 1 }
  | .dropped => { buffer with totalDropped := buffer.totalDropped + 1 }
  | .processed => { buffer with totalProcessed := buffer.totalProcessed + 1 }

end BackpressureBuffer

variable (config : BackpressureConfig)

/-- What the operations do. -/
def bufferHandler : Handler BufferI BackpressureBuffer
  | .fetchAdd counter, buffer => (buffer.counter counter, buffer.add counter)
  | .load counter, buffer => (buffer.counter counter, buffer)
  | .capacity, buffer => (BitVec.ofNat 64 (config.bufferSize.toNat - buffer.queue.length), buffer)
  | .loadActive, buffer => (buffer.backpressureActive, buffer)
  | .storeActive active, buffer => ((), { buffer with backpressureActive := active })
  | .random, buffer => (buffer.randoms 0, { buffer with randoms := fun n => buffer.randoms (n + 1) })
  | .trySend transaction, buffer =>
    if buffer.queue.length < config.bufferSize.toNat then
      (.sent, { buffer with queue := buffer.queue ++ [transaction] })
    else (.full, buffer)
  | .lock, buffer => ((), { buffer with receiverLocked := true })
  | .tryRecv, buffer | .recv, buffer => (buffer.queue.head?, { buffer with queue := buffer.queue.tail })
  | .unlock, buffer => ((), { buffer with receiverLocked := false })

/-! ### The functions -/

/-- What is left of a function of the buffer. -/
abbrev BufferM := Async BufferI Failure

namespace BackpressureBuffer

/-- `counter.fetch_add(1, Ordering::Relaxed);`. -/
def count (counter : Counter) : BufferM Unit := do
  let _ ← Async.request (I := BufferI) (.fetchAdd counter)

/-- The `match` over `self.sender.try_send(transaction)`. -/
def send (transaction : ParsedTransaction) : BufferM Bool := do
  match ← Async.request (I := BufferI) (.trySend transaction) with
  | .sent => do
    count .processed
    pure true
  | .full => do
    count .dropped
    pure false
  | .closed => Async.done (.error (.err "Buffer channel closed"))

/-- The current size and the utilisation, from the capacity. With overflow checks, the
subtraction panics below zero; without, it wraps around. -/
def sizeAndUtilization (overflowChecks : Bool) (capacity : U64) : Result (U64 × Binary64) :=
  if overflowChecks ∧ capacity < config.bufferSize then .error (.panic "attempt to subtract with overflow")
  else
    let currentSize := capacity - config.bufferSize
    .ok (currentSize, (Binary64.ofNat currentSize.toNat).div (Binary64.ofNat config.bufferSize.toNat))

/-- "Apply drop policy". -/
def applyDropPolicy (transaction : ParsedTransaction) : BufferM Bool :=
  match config.dropPolicy with
  | .oldest => send transaction
  | .newest => do
    count .dropped
    pure false
  | .random => do
    let coin ← Async.request (I := BufferI) .random
    if coin.lt (Binary64.ofDecimal 5 1) then do
      count .dropped
      pure false
    else send transaction

/-- "Handle backpressure". -/
def handleBackpressure (transaction : ParsedTransaction) (utilization : Binary64) : BufferM Bool :=
  if utilization.ge config.highWatermark then do
    let active ← Async.request (I := BufferI) .loadActive
    if active then applyDropPolicy config transaction
    else do
      let () ← Async.request (I := BufferI) (.storeActive true)
      applyDropPolicy config transaction
  else do
    let active ← Async.request (I := BufferI) .loadActive
    if active && config.lowWatermark.ge utilization then do
      let () ← Async.request (I := BufferI) (.storeActive false)
      send transaction
    else send transaction

/-- `push`. -/
def push (overflowChecks : Bool) (transaction : ParsedTransaction) : BufferM Bool := do
  count .received
  if config.enabled then do
    let capacity ← Async.request (I := BufferI) .capacity
    let (_, utilization) ← Async.done (sizeAndUtilization config overflowChecks capacity)
    handleBackpressure config transaction utilization
  else send transaction

/-- The loop of `receive_batch`. -/
def receiveUpTo : ℕ → List ParsedTransaction → BufferM (List ParsedTransaction)
  | 0, batch => pure batch
  | n + 1, batch => do
    match ← Async.request (I := BufferI) .tryRecv with
    | some transaction => receiveUpTo n (batch ++ [transaction])
    | none => pure batch

/-- `receive_batch`. -/
def receiveBatch (maxBatchSize : U64) : BufferM (List ParsedTransaction) := do
  let () ← Async.request (I := BufferI) .lock
  let batch ← receiveUpTo maxBatchSize.toNat []
  let () ← Async.request (I := BufferI) .unlock
  pure batch

/-- `receive_one`. -/
def receiveOne : BufferM (Option ParsedTransaction) := do
  let () ← Async.request (I := BufferI) .lock
  let transaction ← Async.request (I := BufferI) .recv
  let () ← Async.request (I := BufferI) .unlock
  pure transaction

end BackpressureBuffer

/-- "Statistics for backpressure buffer". -/
structure BackpressureStats where
  /-- `total_received`. -/
  totalReceived : U64
  /-- `total_dropped`. -/
  totalDropped : U64
  /-- `total_processed`. -/
  totalProcessed : U64
  /-- How many transactions there are. -/
  currentSize : U64
  /-- How many there may be. -/
  bufferCapacity : U64
  /-- The one by the other. -/
  utilization : Binary64
  /-- Whether backpressure is active. -/
  backpressureActive : Bool
  /-- How much was dropped of what was received. -/
  dropRate : Binary64
  deriving DecidableEq, Repr

/-- `get_stats`. -/
def BackpressureBuffer.getStats (overflowChecks : Bool) : BufferM BackpressureStats := do
  let capacity ← Async.request (I := BufferI) .capacity
  let (currentSize, utilization) ← Async.done (sizeAndUtilization config overflowChecks capacity)
  let totalReceived ← Async.request (I := BufferI) (.load .received)
  let totalDropped ← Async.request (I := BufferI) (.load .dropped)
  let totalProcessed ← Async.request (I := BufferI) (.load .processed)
  let backpressureActive ← Async.request (I := BufferI) .loadActive
  let received ← Async.request (I := BufferI) (.load .received)
  let dropped ← Async.request (I := BufferI) (.load .dropped)
  let dropRate :=
    if 0 < received then (Binary64.ofNat dropped.toNat).div (Binary64.ofNat received.toNat) else Binary64.ofNat 0
  pure
    { totalReceived, totalDropped, totalProcessed, currentSize, bufferCapacity := config.bufferSize
      utilization, backpressureActive, dropRate }

/-! ### Calls -/

/-- A call of one of the functions. -/
inductive BufferCall where
  /-- `push`. -/
  | push (transaction : ParsedTransaction)
  /-- `receive_batch`. -/
  | receiveBatch (maxBatchSize : U64)
  /-- `receive_one`. -/
  | receiveOne
  /-- `get_stats`. -/
  | getStats

/-- What a call returns. -/
inductive BufferReturn where
  /-- What `push` returns. -/
  | pushed (accepted : Bool)
  /-- What `receive_batch` returns. -/
  | batch (transactions : List ParsedTransaction)
  /-- What `receive_one` returns. -/
  | one (transaction : Option ParsedTransaction)
  /-- What `get_stats` returns. -/
  | stats (stats : BackpressureStats)
  deriving DecidableEq, Repr

/-- A call that has not begun. -/
def BufferCall.task (overflowChecks : Bool) : BufferCall → BufferM BufferReturn
  | .push transaction => do
    let accepted ← BackpressureBuffer.push config overflowChecks transaction
    pure (.pushed accepted)
  | .receiveBatch maxBatchSize => do
    let transactions ← BackpressureBuffer.receiveBatch maxBatchSize
    pure (.batch transactions)
  | .receiveOne => do
    let transaction ← BackpressureBuffer.receiveOne
    pure (.one transaction)
  | .getStats => do
    let stats ← BackpressureBuffer.getStats config overflowChecks
    pure (.stats stats)

/-- Calls on a buffer. -/
abbrev BufferPool (ι : Type) := Pool BufferI Failure BufferReturn BackpressureBuffer ι

/-- A call takes its next step if it does not have to wait. -/
def Ready {ι : Type} (p : BufferPool ι) (i : ι) : Prop :=
  match (p.tasks i).next? with
  | some .lock => p.shared.receiverLocked = false
  | some .recv => p.shared.queue ≠ []
  | _ => True

instance {ι : Type} (p : BufferPool ι) (i : ι) : Decidable (Ready p i) := by
  unfold Ready
  split <;> infer_instance

end Botmev.Mempool
