import Botmev.Library.Select
import Botmev.Mempool.Occupancy

/-!
# Dropping the oldest

What a push does to a `BackpressureBuffer` (`mev-mempool/src/backpressure.rs`) that is full. By its
policy it may be to drop the oldest transaction: "Try to make space by dropping the oldest (this is
automatic with MPSC)". But a bounded channel refuses what does not fit, and only the receiver can take
anything from it, which a push never asks.

## What is proved

* `push_leaves`: a push, among whatever else goes on, takes nothing from the queue.
* `queue_initial_of_push`: what was queued is still first in the queue after it.
* `push_full`: a full buffer has the same queue after a push, which says that the transaction was
  dropped, or panics.
* `oldest_never_dropped`: so the oldest is never dropped for the new transaction.
-/

namespace Botmev.Mempool

open Botmev.Rust Botmev.Library Botmev.Core

namespace BackpressureBuffer

variable {config : BackpressureConfig} {overflowChecks : Bool} {buffer : BackpressureBuffer}
  {transaction : ParsedTransaction}

/-! ### What a push leaves -/

/-- The operations that take nothing from the queue. -/
def Leaves : BufferOp → Prop
  | .tryRecv | .recv => False
  | _ => True

/-- What they do to it: at most, one transaction more comes in at the end. -/
theorem queue_initial_of_leaves (config : BackpressureConfig) {op : BufferOp} (hop : Leaves op)
    (buffer : BackpressureBuffer) : buffer.queue <+: (bufferHandler config op buffer).2.queue := by
  cases op with
  | fetchAdd counter => cases counter <;> exact List.prefix_rfl
  | trySend transaction =>
    rw [bufferHandler]
    split
    · exact List.prefix_append _ _
    · exact List.prefix_rfl
  | tryRecv | recv => exact hop.elim
  | _ => exact List.prefix_rfl

theorem count_leaves (counter : Counter) : (count counter).Within Leaves := ⟨trivial, fun _ => trivial⟩

theorem send_leaves (transaction : ParsedTransaction) : (send transaction).Within Leaves :=
  (Async.Within.request trivial).bind fun reply => by
    cases reply with
    | sent => exact (count_leaves .processed).bind fun _ => trivial
    | full => exact (count_leaves .dropped).bind fun _ => trivial
    | closed => trivial

theorem applyDropPolicy_leaves (config : BackpressureConfig) (transaction : ParsedTransaction) :
    (applyDropPolicy config transaction).Within Leaves := by
  unfold applyDropPolicy
  cases config.dropPolicy with
  | oldest => exact send_leaves transaction
  | newest => exact (count_leaves .dropped).bind fun _ => trivial
  | random =>
    refine (Async.Within.request trivial).bind fun coin => ?_
    split
    · exact (count_leaves .dropped).bind fun _ => trivial
    · exact send_leaves transaction

theorem handleBackpressure_leaves (config : BackpressureConfig) (transaction : ParsedTransaction)
    (utilization : Binary64) : (handleBackpressure config transaction utilization).Within Leaves := by
  have hpolicy := applyDropPolicy_leaves config transaction
  unfold handleBackpressure
  split
  · refine (Async.Within.request trivial).bind fun active => ?_
    split
    · exact hpolicy
    · exact (Async.Within.request trivial).bind fun _ => hpolicy
  · refine (Async.Within.request trivial).bind fun active => ?_
    split
    · exact (Async.Within.request trivial).bind fun _ => send_leaves transaction
    · exact send_leaves transaction

/-- **A push takes nothing** from the queue, whatever comes between its operations. -/
theorem push_leaves (config : BackpressureConfig) (overflowChecks : Bool) (transaction : ParsedTransaction) :
    (push config overflowChecks transaction).Within Leaves := by
  refine (count_leaves .received).bind fun _ => ?_
  split
  · refine (Async.Within.request trivial).bind fun capacity => ?_
    exact (Async.Within.lift _).bind fun measured => handleBackpressure_leaves config transaction measured.2
  · exact send_leaves transaction

/-- **What was queued** is still first in the queue after a push, full or not. -/
theorem queue_initial_of_push (config : BackpressureConfig) (overflowChecks : Bool)
    (transaction : ParsedTransaction)
    (buffer : BackpressureBuffer) :
    buffer.queue <+: ((push config overflowChecks transaction).run (bufferHandler config) buffer).2.queue := by
  have hrun : ∀ {t : BufferM Bool}, t.Within Leaves → ∀ buffer : BackpressureBuffer,
      buffer.queue <+: (t.run (bufferHandler config) buffer).2.queue := by
    intro t ht
    induction t with
    | done r => exact fun _ => List.prefix_rfl
    | await op k ih => exact fun buffer => (queue_initial_of_leaves config ht.1 buffer).trans (ih _ (ht.2 _) _)
  exact hrun (push_leaves config overflowChecks transaction) buffer

/-! ### A full buffer -/

/-- Its queue is as long as the channel allows. -/
def Full (config : BackpressureConfig) (buffer : BackpressureBuffer) : Prop :=
  buffer.queue.length = config.bufferSize.toNat

theorem queue_of_full {op : BufferOp} (hop : Leaves op) (hfull : Full config buffer) :
    (bufferHandler config op buffer).2.queue = buffer.queue := by
  cases op with
  | fetchAdd counter => cases counter <;> rfl
  | trySend transaction => rw [bufferHandler, if_neg (Nat.not_lt.mpr (Nat.le_of_eq hfull.symm))]
  | tryRecv | recv => exact hop.elim
  | _ => rfl

theorem run_queue_of_full {α : Type} {t : BufferM α} (ht : t.Within Leaves) (hfull : Full config buffer) :
    (t.run (bufferHandler config) buffer).2.queue = buffer.queue := by
  induction t generalizing buffer with
  | done r => rfl
  | await op k ih =>
    have hqueue := queue_of_full ht.1 hfull
    have hfull' : Full config (bufferHandler config op buffer).2 := (congrArg List.length hqueue).trans hfull
    exact (ih _ (ht.2 _) hfull').trans hqueue

/-- What a push may return when the buffer is full. -/
def Refused (r : Result Bool) : Prop :=
  r = .ok false ∨ r = .error (.panic "attempt to subtract with overflow")

theorem send_full (hfull : Full config buffer) :
    Refused ((send transaction).run (bufferHandler config) buffer).1 := by
  have hsend : (bufferHandler config (.trySend transaction) buffer).1 = .full := by
    rw [bufferHandler, if_neg (Nat.not_lt.mpr (Nat.le_of_eq hfull.symm))]
  rw [send, Async.run_request_bind, hsend]
  exact .inl rfl

theorem applyDropPolicy_full (hfull : Full config buffer) :
    Refused ((applyDropPolicy config transaction).run (bufferHandler config) buffer).1 := by
  unfold applyDropPolicy
  cases config.dropPolicy with
  | oldest => exact send_full hfull
  | newest => exact .inl rfl
  | random =>
    rw [Async.run_request_bind]
    split
    · exact .inl rfl
    · exact send_full hfull

theorem handleBackpressure_full (utilization : Binary64) (hfull : Full config buffer) :
    Refused ((handleBackpressure config transaction utilization).run (bufferHandler config) buffer).1 := by
  unfold handleBackpressure
  split <;> rw [Async.run_request_bind]
  · split
    · exact applyDropPolicy_full hfull
    · exact applyDropPolicy_full hfull
  · split
    · exact send_full hfull
    · exact send_full hfull

/-- **A push to a full buffer** leaves the queue as it is, whatever the policy, and returns that the
transaction was dropped, or panics. -/
theorem push_full (config : BackpressureConfig) (overflowChecks : Bool) (transaction : ParsedTransaction)
    (hfull : Full config buffer) :
    Refused ((push config overflowChecks transaction).run (bufferHandler config) buffer).1 ∧
      ((push config overflowChecks transaction).run (bufferHandler config) buffer).2.queue = buffer.queue := by
  refine ⟨?_, run_queue_of_full (push_leaves config overflowChecks transaction) hfull⟩
  have hcount : (count .received).run (bufferHandler config) buffer = (.ok (), buffer.add .received) := rfl
  rw [push, Async.run_bind_of_ok _ hcount]
  split
  · rw [Async.run_request_bind]
    cases hmeasured : sizeAndUtilization config overflowChecks
        (bufferHandler config .capacity (buffer.add .received)).1 with
    | error e =>
      rw [sizeAndUtilization] at hmeasured
      split at hmeasured
      · cases hmeasured
        exact .inr rfl
      · cases hmeasured
    | ok measured => exact handleBackpressure_full measured.2 hfull
  · exact send_full hfull

/-- **Drop-oldest**: the new transaction is admitted, and the queue is the old one without its head, and
the new transaction at the end. -/
def DropsOldest (config : BackpressureConfig) (overflowChecks : Bool) (buffer : BackpressureBuffer)
    (transaction : ParsedTransaction) : Prop :=
  ((push config overflowChecks transaction).run (bufferHandler config) buffer).1 = .ok true ∧
    ((push config overflowChecks transaction).run (bufferHandler config) buffer).2.queue =
      buffer.queue.tail ++ [transaction]

/-- **The oldest is never dropped**, with the policy to do so or another one: whatever a full buffer has
in its queue, and whatever is pushed. -/
theorem oldest_never_dropped (config : BackpressureConfig) (overflowChecks : Bool)
    (buffer : BackpressureBuffer)
    (hfull : Full config buffer) (transaction : ParsedTransaction) :
    ¬ DropsOldest config overflowChecks buffer transaction := by
  rintro ⟨hadmitted, -⟩
  rcases (push_full config overflowChecks transaction hfull).1 with h | h <;> cases h.symm.trans hadmitted

/-- A buffer for one transaction, which is to drop the oldest. -/
def oneTransaction : BackpressureConfig := { BackpressureConfig.default with bufferSize := 1 }

/-- It has its transaction. -/
def oneQueued : BackpressureBuffer :=
  { newBuffer with queue := [pendingWith "0x1"], totalReceived := 1, totalProcessed := 1 }

/-- The next one does not take its place. -/
theorem one_queued_stays : ¬ DropsOldest oneTransaction false oneQueued (pendingWith "0x2") :=
  oldest_never_dropped oneTransaction false oneQueued rfl (pendingWith "0x2")

/-- **The newest is dropped** instead: where the arithmetic wraps around, the push says so, and where it
is checked, it panics. -/
theorem newest_dropped_instead :
    oneTransaction.dropPolicy = .oldest ∧
      ((push oneTransaction false (pendingWith "0x2")).run (bufferHandler oneTransaction) oneQueued).1 = .ok false ∧
      ((push oneTransaction true (pendingWith "0x2")).run (bufferHandler oneTransaction) oneQueued).1 =
        .error (.panic "attempt to subtract with overflow") ∧
      ((push oneTransaction false (pendingWith "0x2")).run (bufferHandler oneTransaction) oneQueued).2.queue =
        [pendingWith "0x1"] ∧
      ¬ DropsOldest oneTransaction false oneQueued (pendingWith "0x2") := by
  have hfalse : ((push oneTransaction false (pendingWith "0x2")).run (bufferHandler oneTransaction) oneQueued).1 =
      .ok false := by decide +kernel
  refine ⟨rfl, hfalse, by decide, by decide +kernel, fun h => ?_⟩
  cases hfalse.symm.trans h.1

end BackpressureBuffer

end Botmev.Mempool
