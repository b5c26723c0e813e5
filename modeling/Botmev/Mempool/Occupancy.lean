import Botmev.Mempool.Backpressure

/-!
# The occupancy of the backpressure buffer

A push should measure how full the buffer is, and turn the flag on from the high watermark
and off down to the low one. The source subtracts the size of the channel from what remains
of it, and not the other way round.

## What is proved

* `handleBackpressure_flag`: a push sets the flag as it should for the utilisation it has
  measured.
* `follows_queue_iff`: in every state that interleaved calls reach, it measures the occupancy
  just when the buffer is empty.
* `second_push_underflows`: a push after another.
-/

namespace Botmev.Mempool

open Botmev.Rust Botmev.Library Botmev.Core BackpressureBuffer

/-- The queued transactions divided by the size of the buffer. -/
def occupancy (config : BackpressureConfig) (buffer : BackpressureBuffer) : Binary64 :=
  (Binary64.ofNat buffer.queue.length).div (Binary64.ofNat config.bufferSize.toNat)

/-- What the flag should be after a push: on from the high watermark, off down to the low
one, and as it was in between. -/
def flagAfter (config : BackpressureConfig) (occupancy : Binary64) (active : Bool) : Bool :=
  if occupancy.ge config.highWatermark then true
  else if config.lowWatermark.ge occupancy then false
  else active

/-- **Backpressure follows the queue** in a state of the buffer. -/
structure FollowsQueue (config : BackpressureConfig) (overflowChecks : Bool) (buffer : BackpressureBuffer) : Prop where
  /-- A call that reads the capacity in this state measures how many are queued, and how
  full it is. -/
  measured : sizeAndUtilization config overflowChecks (bufferHandler config .capacity buffer).1 =
    .ok (BitVec.ofNat 64 buffer.queue.length, occupancy config buffer)
  /-- A push returns, and leaves the flag as it should be. -/
  pushed : ∀ transaction, ∃ accepted,
    ((push config overflowChecks transaction).run (bufferHandler config) buffer).1 = .ok accepted ∧
      ((push config overflowChecks transaction).run (bufferHandler config) buffer).2.backpressureActive =
        flagAfter config (occupancy config buffer) buffer.backpressureActive
  /-- The statistics say how many are queued, and how full it is. -/
  stats : ∃ stats, ((getStats config overflowChecks).run (bufferHandler config) buffer).1 = .ok stats ∧
    stats.currentSize.toNat = buffer.queue.length ∧ stats.utilization = occupancy config buffer

variable {config : BackpressureConfig} {overflowChecks : Bool} {buffer : BackpressureBuffer}

/-! ### The flag -/

theorem send_flag (config : BackpressureConfig) (transaction : ParsedTransaction) (buffer : BackpressureBuffer) :
    ∃ accepted, ((send transaction).run (bufferHandler config) buffer).1 = .ok accepted ∧
      ((send transaction).run (bufferHandler config) buffer).2.backpressureActive = buffer.backpressureActive := by
  unfold send
  rw [Async.run_request_bind]
  by_cases hlt : buffer.queue.length < config.bufferSize.toNat
  · simp only [bufferHandler, hlt, if_true]
    exact ⟨true, rfl, rfl⟩
  · simp only [bufferHandler, hlt, if_false]
    exact ⟨false, rfl, rfl⟩

theorem applyDropPolicy_flag (config : BackpressureConfig) (transaction : ParsedTransaction) (buffer : BackpressureBuffer) :
    ∃ accepted, ((applyDropPolicy config transaction).run (bufferHandler config) buffer).1 = .ok accepted ∧
      ((applyDropPolicy config transaction).run (bufferHandler config) buffer).2.backpressureActive =
        buffer.backpressureActive := by
  unfold applyDropPolicy
  rcases config.dropPolicy with _ | _ | _
  · exact send_flag config transaction buffer
  · exact ⟨false, rfl, rfl⟩
  · rw [Async.run_request_bind]
    split
    · exact ⟨false, rfl, rfl⟩
    · obtain ⟨accepted, hreturn, hflag⟩ := send_flag config transaction
        (bufferHandler config .random buffer).2
      exact ⟨accepted, hreturn, hflag⟩

/-- **The flag follows the utilisation** that was measured. -/
theorem handleBackpressure_flag (transaction : ParsedTransaction) (utilization : Binary64)
    (buffer : BackpressureBuffer) :
    ∃ accepted,
      ((handleBackpressure config transaction utilization).run (bufferHandler config) buffer).1 = .ok accepted ∧
      ((handleBackpressure config transaction utilization).run (bufferHandler config) buffer).2.backpressureActive =
        flagAfter config utilization buffer.backpressureActive := by
  unfold handleBackpressure flagAfter
  by_cases hhigh : utilization.ge config.highWatermark
  · rw [if_pos hhigh, if_pos hhigh, Async.run_request_bind]
    by_cases hactive : buffer.backpressureActive
    · simp only [bufferHandler, hactive, if_true]
      obtain ⟨accepted, hreturn, hflag⟩ := applyDropPolicy_flag config transaction buffer
      exact ⟨accepted, hreturn, hflag.trans hactive⟩
    · simp only [bufferHandler, hactive, Bool.false_eq_true, if_false]
      exact applyDropPolicy_flag config transaction { buffer with backpressureActive := true }
  · rw [if_neg hhigh, if_neg hhigh, Async.run_request_bind]
    obtain ⟨accepted, hreturn, hflag⟩ := send_flag config transaction buffer
    by_cases hactive : buffer.backpressureActive
    · by_cases hlow : config.lowWatermark.ge utilization
      · simp only [bufferHandler, hactive, hlow, Bool.true_and, if_true]
        exact send_flag config transaction { buffer with backpressureActive := false }
      · simp only [bufferHandler, hactive, hlow, Bool.true_and, Bool.false_eq_true, if_false]
        exact ⟨accepted, hreturn, hflag.trans hactive⟩
    · rw [Bool.not_eq_true] at hactive
      simp only [bufferHandler, hactive, Bool.false_and, Bool.false_eq_true, if_false, ite_self]
      exact ⟨accepted, hreturn, hflag.trans hactive⟩

/-! ### The occupancy -/

theorem queue_length_le (op : BufferOp) (h : buffer.queue.length ≤ config.bufferSize.toNat) :
    (bufferHandler config op buffer).2.queue.length ≤ config.bufferSize.toNat := by
  cases op with
  | trySend transaction =>
    by_cases hlt : buffer.queue.length < config.bufferSize.toNat
    · simp only [bufferHandler, hlt, if_true, List.length_append, List.length_singleton]
      omega
    · simp only [bufferHandler, hlt, if_false]
      exact h
  | tryRecv | recv =>
    simp only [bufferHandler, List.length_tail]
    omega
  | fetchAdd counter => cases counter <;> exact h
  | _ => exact h

theorem new_eq_ok {randoms : ℕ → Binary64} (h : BackpressureBuffer.new config randoms = .ok buffer) :
    0 < config.bufferSize.toNat ∧ config.bufferSize.toNat < 2 ^ 61 ∧ buffer = ⟨[], false, 0, 0, 0, false, randoms⟩ := by
  unfold BackpressureBuffer.new at h
  split at h
  · cases h
  · rename_i hzero
    rw [← BitVec.toNat_inj] at hzero
    have hpos : config.bufferSize.toNat ≠ 0 := hzero
    split at h
    · cases h
    · cases h
      exact ⟨by omega, by omega, rfl⟩

/-- The capacity is measured right just when nothing is queued. -/
theorem sizeAndUtilization_eq_ok_iff (overflowChecks : Bool) (hsize : config.bufferSize.toNat < 2 ^ 61)
    (hqueue : buffer.queue.length ≤ config.bufferSize.toNat) :
    sizeAndUtilization config overflowChecks (bufferHandler config .capacity buffer).1 =
        .ok (BitVec.ofNat 64 buffer.queue.length, occupancy config buffer) ↔ buffer.queue = [] := by
  have hcapacity : (bufferHandler config .capacity buffer).1.toNat = config.bufferSize.toNat - buffer.queue.length := by
    simp only [bufferHandler, BitVec.toNat_ofNat]
    omega
  constructor
  · intro h
    unfold sizeAndUtilization at h
    split at h
    · cases h
    · -- What wraps around is far above what can be queued.
      rw [Except.ok.injEq, Prod.mk.injEq] at h
      have hsize' := congrArg BitVec.toNat h.1
      rw [BitVec.toNat_sub, hcapacity, BitVec.toNat_ofNat] at hsize'
      apply List.eq_nil_of_length_eq_zero
      omega
  · intro hnil
    have hfull : (bufferHandler config .capacity buffer).1 = config.bufferSize := by
      rw [← BitVec.toNat_inj, hcapacity, hnil, List.length_nil, Nat.sub_zero]
    have hfits : ¬ (overflowChecks = true ∧ config.bufferSize < config.bufferSize) := fun h => BitVec.lt_irrefl _ h.2
    simp only [sizeAndUtilization, hfull, hfits, if_false, occupancy, hnil, List.length_nil, BitVec.sub_self]
    rfl

theorem push_run {utilization : Binary64} {currentSize : U64} (henabled : config.enabled = true)
    (transaction : ParsedTransaction)
    (h : sizeAndUtilization config overflowChecks (bufferHandler config .capacity buffer).1 = .ok (currentSize, utilization)) :
    (push config overflowChecks transaction).run (bufferHandler config) buffer =
      (handleBackpressure config transaction utilization).run (bufferHandler config) (buffer.add .received) := by
  have h' : sizeAndUtilization config overflowChecks (bufferHandler config .capacity (buffer.add .received)).1 =
      .ok (currentSize, utilization) := h
  simp only [push, henabled, if_true]
  show (Async.done (sizeAndUtilization config overflowChecks (bufferHandler config .capacity (buffer.add .received)).1) >>=
    fun x => handleBackpressure config transaction x.2).run (bufferHandler config) (buffer.add .received) = _
  rw [h']
  rfl

theorem getStats_run {utilization : Binary64} {currentSize : U64}
    (h : sizeAndUtilization config overflowChecks (bufferHandler config .capacity buffer).1 =
      .ok (currentSize, utilization)) :
    ∃ stats, ((getStats config overflowChecks).run (bufferHandler config) buffer).1 = .ok stats ∧
      stats.currentSize = currentSize ∧ stats.utilization = utilization := by
  unfold getStats
  rw [Async.run_request_bind, h]
  exact ⟨_, rfl, rfl, rfl⟩

variable {ι : Type} [DecidableEq ι] {calls : ι → BufferCall} {p : BufferPool ι} {randoms : ℕ → Binary64}

/-- **Where backpressure follows the queue**: in the states in which nothing is queued. -/
theorem follows_queue_iff (henabled : config.enabled = true)
    (hnew : BackpressureBuffer.new config randoms = .ok buffer)
    (hr : Pool.Reach (bufferHandler config) Ready (.start buffer fun i => (calls i).task config overflowChecks) p) :
    FollowsQueue config overflowChecks p.shared ↔ p.shared.queue = [] := by
  obtain ⟨-, hsize, rfl⟩ := new_eq_ok hnew
  have hqueue : p.shared.queue.length ≤ config.bufferSize.toNat := by
    refine hr.invariant (fun p => p.shared.queue.length ≤ config.bufferSize.toNat) ?_ ?_
    · simp [Pool.start]
    · intro p i op k hle _ _
      exact queue_length_le op hle
  rw [← sizeAndUtilization_eq_ok_iff overflowChecks hsize hqueue]
  constructor
  · intro h
    exact h.measured
  · intro hmeasured
    refine ⟨hmeasured, fun transaction => ?_, ?_⟩
    · rw [push_run henabled transaction hmeasured]
      exact handleBackpressure_flag transaction _ _
    · obtain ⟨stats, hstats, hcurrent, hutilization⟩ := getStats_run hmeasured
      refine ⟨stats, hstats, ?_, hutilization⟩
      rw [hcurrent, BitVec.toNat_ofNat, Nat.mod_eq_of_lt (by omega)]

/-- A pending transaction of this hash. -/
def pendingWith (hash : String) : ParsedTransaction where
  transaction :=
    { hash, fromAddress := "0x456", toAddress := some "0x789", value := "0", gasPrice := "20000000000"
      gasLimit := "21000", nonce := 0, input := "0x" }
  decodedInput := none
  targetType := .unknown

/-- A new buffer, as it is by default. -/
def newBuffer : BackpressureBuffer where
  queue := []
  receiverLocked := false
  totalReceived := 0
  totalDropped := 0
  totalProcessed := 0
  backpressureActive := false
  randoms := fun _ => Binary64.ofNat 0

/-- A push, and a receive. -/
def pushThenReceive : Fin 2 → BufferCall
  | 0 => .push (pendingWith "0x1")
  | 1 => .receiveOne

/-- After both, backpressure follows the queue. -/
theorem emptied_follows_queue :
    FollowsQueue .default true
      (Pool.runSchedule (bufferHandler .default) [0, 0, 0, 0, 0, 1, 1, 1]
        (.start newBuffer fun i => (pushThenReceive i).task .default true)).shared :=
  (follows_queue_iff rfl (rfl : BackpressureBuffer.new .default (fun _ => Binary64.ofNat 0) = .ok newBuffer)
    (Pool.reach_of_admits (by decide +kernel))).mpr (by decide +kernel)

/-- Two pushes. -/
def twoPushes : Fin 2 → BufferCall
  | 0 => .push (pendingWith "0x1")
  | 1 => .push (pendingWith "0x2")

/-- One after the other. -/
def twoPushesRun : BufferPool (Fin 2) :=
  .runSchedule (bufferHandler .default) [0, 0, 0, 0, 0, 1, 1]
    (.start newBuffer fun i => (twoPushes i).task .default true)

/-- **The second push underflows**: with the first transaction queued, the size of the buffer
is subtracted from one less. -/
theorem second_push_underflows :
    BackpressureBuffer.new .default (fun _ => Binary64.ofNat 0) = .ok newBuffer ∧
      Pool.Reach (bufferHandler .default) Ready (.start newBuffer fun i => (twoPushes i).task .default true)
        twoPushesRun ∧
      (twoPushesRun.tasks 1).result? = some (.error (.panic "attempt to subtract with overflow")) ∧
      ¬ FollowsQueue .default true twoPushesRun.shared := by
  refine ⟨rfl, Pool.reach_of_admits (by decide +kernel), by decide +kernel, ?_⟩
  intro h
  have hpanics : sizeAndUtilization .default true (bufferHandler .default .capacity twoPushesRun.shared).1 =
      .error (.panic "attempt to subtract with overflow") := by decide +kernel
  rw [h.measured] at hpanics
  cases hpanics

end Botmev.Mempool
