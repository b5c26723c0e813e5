import Botmev.Core.BlockHistory
import Botmev.Core.NonceTracking

/-!
# The pending transactions

A transaction that is new when the pending ones are as many as there may be sets off a
clean-up. That takes away what is older than the time to live, be it the new transaction
itself, whose entry is read right after, or nothing at all.

## What is proved

* `update_returns_iff`: when `update_pending_transaction` does not panic.
* `all_return_iff`: when nothing does that happens to a new manager.
* `pending_bounded_iff`: when the pending transactions stay as many as there may be.
-/

namespace Botmev.Core

open Botmev.Rust Botmev.Library

/-- What may happen to a state manager. -/
inductive ManagerStep where
  /-- `initialize`. -/
  | initializeState (currentBlock : BlockHeader)
  /-- `update_block_header`. -/
  | updateBlockHeader (now : DateTime) (newHeader : BlockHeader)
  /-- A report or a clean-up. -/
  | pending (step : PendingStep)

/-- The step, and whether it returns. -/
def ManagerStep.apply (calendar : Calendar) : ManagerStep → StateManager → Result Unit × StateManager
  | .initializeState currentBlock, s => (.ok (), s.initializeState currentBlock)
  | .updateBlockHeader now newHeader, s =>
    let (event, s) := s.updateBlockHeader now newHeader
    (event.map fun _ => (), s)
  | .pending step, s => step.apply calendar s

namespace StateManager

variable {calendar : Calendar} {config : StateManagerConfig} {now : DateTime} {txHash : String}
  {txData : PendingTransactionState} {pending : Table String PendingTransactionState} {s : StateManager}

/-! ### What is reported -/

variable (calendar now txHash txData s) in
/-- The transaction is known, and was not seen `2^32 - 1` times, or there is room for it, or
it is not old. -/
def CanTouch : Prop :=
  match s.pendingTransactions.value.lookup txHash with
  | some existing => existing.seenCount.toNat + 1 < 2 ^ 32
  | none => Table.size s.pendingTransactions.value < s.config.maxPendingTransactions ∨
      ∃ time, cutoff calendar s.config now = .ok time ∧ time ≤ txData.firstSeen

theorem lookup_cleanup_iff {time : DateTime} {tx : PendingTransactionState}
    (htime : cutoff calendar config now = .ok time) (htx : pending.lookup txHash = some tx) :
    ∃ kept, cleanupOldTransactions calendar config now pending = .ok kept ∧
      kept.lookup txHash = if tx.firstSeen < time then none else some tx := by
  refine ⟨_, by rw [cleanupOldTransactions, htime]; rfl, ?_⟩
  rw [Table.lookup_eraseAll, htx]
  have hmem : txHash ∈ Table.keysWhere (fun _ tx => decide (tx.firstSeen < time)) pending ↔
      tx.firstSeen < time := by
    rw [Table.mem_keysWhere]
    constructor
    · rintro ⟨tx', htx', hold⟩
      cases htx.symm.trans htx'
      exact of_decide_eq_true hold
    · exact fun hold => ⟨tx, htx, decide_eq_true hold⟩
  simp only [hmem]

/-- The entry of a new transaction is there if there is room for it, or it is not old. -/
theorem touchPending_new_iff (hnone : pending.lookup txHash = none) :
    (∃ tx, (touchPending calendar config now txHash txData pending).1 = .ok tx) ↔
      Table.size pending < config.maxPendingTransactions ∨
        ∃ time, cutoff calendar config now = .ok time ∧ time ≤ txData.firstSeen := by
  have hsize : Table.size (pending.insert txHash txData) = Table.size pending + 1 :=
    Table.size_insert_of_notMem (AList.lookup_eq_none.mp hnone)
  have hlookup : (pending.insert txHash txData).lookup txHash = some txData := AList.lookup_insert _
  simp only [touchPending, hnone, maintainMax, hsize]
  by_cases hroom : Table.size pending < config.maxPendingTransactions
  · simp only [if_neg (Nat.not_lt.mpr hroom), hlookup]
    exact iff_of_true ⟨_, rfl⟩ (.inl hroom)
  rw [if_pos (by omega), or_iff_right hroom]
  rcases htime : cutoff calendar config now with e | time
  · simp [cleanupOldTransactions, htime, bind, Except.bind]
  obtain ⟨kept, hkept, hentry⟩ := lookup_cleanup_iff htime hlookup
  simp only [hkept, hentry]
  by_cases hold : txData.firstSeen < time
  · simp [hold]
  · simp [hold, Int.not_lt.mp hold]

/-- **When a report returns**: the lock is not poisoned, and a known transaction was not seen
too often, and a new one finds room or is not older than the time to live, which must be a
time that there is. -/
theorem update_returns_iff (calendar : Calendar) (now : DateTime) (txHash : String)
    (txData : PendingTransactionState) (s : StateManager) :
    (s.updatePendingTransaction calendar now txHash txData).1 = .ok () ↔
      s.pendingTransactions.poisoned = false ∧ CanTouch calendar now txHash txData s := by
  unfold CanTouch
  rcases hpoisoned : s.pendingTransactions.poisoned with _ | _
  · have hwrite : s.pendingTransactions.write = .ok s.pendingTransactions.value := by
      simp [RwLock.write, hpoisoned]
    have hok : (s.updatePendingTransaction calendar now txHash txData).1 = .ok () ↔
        ∃ tx, (touchPending calendar s.config now txHash txData s.pendingTransactions.value).1 = .ok tx := by
      rw [updatePendingTransaction, hwrite]
      dsimp only
      rcases touchPending calendar s.config now txHash txData s.pendingTransactions.value with ⟨e | tx, pending⟩
      · simp
      · simp
    rw [hok, and_iff_right rfl]
    rcases hlookup : s.pendingTransactions.value.lookup txHash with _ | existing
    · exact touchPending_new_iff hlookup
    · have hone : (1 : BitVec 32).toNat = 1 := rfl
      by_cases hseen : existing.seenCount.toNat + 1 < 2 ^ 32
      · simp only [touchPending, hlookup, Uint.add, hone, if_pos hseen]
        exact iff_of_true ⟨_, rfl⟩ hseen
      · simp only [touchPending, hlookup, Uint.add, hone, if_neg hseen, reduceCtorEq, exists_false,
          false_iff]
        exact hseen
  · simp [updatePendingTransaction, RwLock.write, hpoisoned]

variable (calendar) in
/-- What a step needs: a report, that the transaction can be touched, and a clean-up, that
there is a time to live. -/
def CanStep : ManagerStep → StateManager → Prop
  | .pending (.update now txHash txData), s => CanTouch calendar now txHash txData s
  | .pending (.cleanup now), s => ∃ time, cutoff calendar s.config now = .ok time
  | _, _ => True

variable (calendar) in
/-- The step returns. -/
def Returns (step : ManagerStep) (s : StateManager) : Prop := (step.apply calendar s).1 = .ok ()

variable (calendar) in
/-- `P` holds of each step, and of the manager before it. -/
def EachStep (P : ManagerStep → StateManager → Prop) : List ManagerStep → StateManager → Prop
  | [], _ => True
  | step :: steps, s => P step s ∧ EachStep P steps (step.apply calendar s).2

theorem updateBlockHeader_returns (now : DateTime) (newHeader : BlockHeader)
    (hlock : s.pendingTransactions.poisoned = false) :
    ∃ event, (s.updateBlockHeader now newHeader).1 = .ok event ∧
      (s.updateBlockHeader now newHeader).2.pendingTransactions = s.pendingTransactions := by
  rcases hhead : s.currentHead with _ | prev
  · refine ⟨none, ?_⟩
    simp only [updateBlockHeader, checkReorg, hhead]
    trivial
  · rw [updateBlockHeader_run now newHeader hlock hhead]
    exact ⟨_, rfl, rfl⟩

theorem sound_of_update_returns (h : (s.updatePendingTransaction calendar now txHash txData).1 = .ok ()) :
    (s.updatePendingTransaction calendar now txHash txData).2.pendingTransactions.poisoned = false := by
  revert h
  unfold updatePendingTransaction
  rcases s.pendingTransactions.write with e | pending
  · nofun
  dsimp only
  rcases touchPending calendar s.config now txHash txData pending with ⟨e | tx, kept⟩
  · nofun
  · exact fun _ => rfl

/-- A step returns just when it has what it needs, and then leaves the lock sound. -/
theorem returns_iff (step : ManagerStep) (hlock : s.pendingTransactions.poisoned = false) :
    (Returns calendar step s ↔ CanStep calendar step s) ∧
      (Returns calendar step s → (step.apply calendar s).2.pendingTransactions.poisoned = false) := by
  rcases step with currentBlock | ⟨now, newHeader⟩ | ⟨now, txHash, txData⟩ | now
  · exact ⟨iff_of_true rfl trivial, fun _ => hlock⟩
  · obtain ⟨event, hok, hpending⟩ := updateBlockHeader_returns now newHeader hlock
    refine ⟨iff_of_true ?_ trivial, fun _ => ?_⟩
    · show Except.map _ (s.updateBlockHeader now newHeader).1 = _
      rw [hok]
      rfl
    · show (s.updateBlockHeader now newHeader).2.pendingTransactions.poisoned = false
      rw [hpending]
      exact hlock
  · exact ⟨(update_returns_iff calendar now txHash txData s).trans (and_iff_right hlock), sound_of_update_returns⟩
  · have hwrite : s.pendingTransactions.write = .ok s.pendingTransactions.value := by
      simp [RwLock.write, hlock]
    unfold Returns ManagerStep.apply PendingStep.apply CanStep
    simp only [cleanupExpiredTransactions, hwrite, cleanupOldTransactions]
    rcases cutoff calendar s.config now with e | time
    · simp [bind, Except.bind]
    · simp [bind, Except.bind, pure, Except.pure, RwLock.new]

theorem eachStep_returns_iff (steps : List ManagerStep) (hlock : s.pendingTransactions.poisoned = false) :
    EachStep calendar (Returns calendar) steps s ↔ EachStep calendar (CanStep calendar) steps s := by
  induction steps generalizing s with
  | nil => exact Iff.rfl
  | cons step steps ih =>
    obtain ⟨hiff, hsound⟩ : (Returns calendar step s ↔ CanStep calendar step s) ∧ _ :=
      returns_iff step hlock
    rw [EachStep, EachStep, ← hiff]
    apply and_congr_right
    intro hreturns
    exact ih (hsound hreturns)

/-- **When everything returns** that happens to a new manager: every report of a known
transaction was not seen too often, and every report of a new one finds room or is not
older than the time to live, which must be a time that there is. -/
theorem all_return_iff (calendar : Calendar) (config : StateManagerConfig) (steps : List ManagerStep) :
    EachStep calendar (Returns calendar) steps (new config) ↔
      EachStep calendar (CanStep calendar) steps (new config) :=
  eachStep_returns_iff steps rfl

/-- A manager with the one transaction it may keep, seen at the given time. -/
def full (seen : DateTime) : StateManager :=
  ((new ⟨1, 1, 300⟩).updatePendingTransaction .utc seen "0x1" (sampleTransaction "0xa" 0 seen)).2

/-- **An old transaction panics** where there is no room for it. -/
theorem old_transaction_panics :
    ((full (600 * 10 ^ 9)).updatePendingTransaction .utc (600 * 10 ^ 9) "0x2" (sampleTransaction "0xb" 0 0)).1 =
      .error (.panic "called `Option::unwrap()` on a `None` value") := by
  decide

/-! ### How many there are -/

/-- How many pending transactions there are. -/
def pendingCount (s : StateManager) : ℕ := Table.size s.pendingTransactions.value

variable (calendar) in
/-- `P` holds of each report, and of the manager it is made to. -/
def EachReport (P : DateTime → String → PendingTransactionState → StateManager → Prop) :
    List (DateTime × Report) → StateManager → Prop
  | [], _ => True
  | (now, txHash, txData) :: reports, s =>
    P now txHash txData s ∧ EachReport P reports (s.updatePendingTransaction calendar now txHash txData).2

variable (calendar now txHash txData s) in
/-- There are no more pending transactions after the report than there may be. -/
def BoundedAfter : Prop :=
  (s.updatePendingTransaction calendar now txHash txData).2.pendingCount ≤ s.config.maxPendingTransactions

variable (calendar now txHash txData s) in
/-- The lock is poisoned, the transaction is known, there is room for it, or it is old
itself or there is another that is. -/
def RoomFor : Prop :=
  s.pendingTransactions.poisoned = true ∨ txHash ∈ s.pendingTransactions.value ∨
    s.pendingCount < s.config.maxPendingTransactions ∨
      ∃ time, cutoff calendar s.config now = .ok time ∧ (txData.firstSeen < time ∨
        ∃ hash tx, s.pendingTransactions.value.lookup hash = some tx ∧ tx.firstSeen < time)

theorem size_cleanup_lt_iff {time : DateTime} {kept : Table String PendingTransactionState}
    (htime : cutoff calendar config now = .ok time)
    (hkept : cleanupOldTransactions calendar config now pending = .ok kept) :
    Table.size kept < Table.size pending ↔
      ∃ hash tx, pending.lookup hash = some tx ∧ tx.firstSeen < time := by
  rw [cleanupOldTransactions, htime] at hkept
  cases hkept
  have hmem : ∀ hash ∈ Table.keysWhere (fun _ tx => decide (tx.firstSeen < time)) pending, hash ∈ pending := by
    intro hash hhash
    obtain ⟨tx, htx, -⟩ := Table.mem_keysWhere.mp hhash
    exact Table.mem_of_lookup htx
  rw [Table.size_eraseAll_lt_iff hmem, Table.keysWhere_ne_nil_iff]
  simp only [decide_eq_true_eq]

/-- What is left of the pending transactions when a new one comes in. -/
theorem touchPending_new (hnone : pending.lookup txHash = none) :
    (touchPending calendar config now txHash txData pending).2 =
      match maintainMax calendar config now (pending.insert txHash txData) with
      | .error _ => pending.insert txHash txData
      | .ok kept => kept := by
  simp only [touchPending, hnone]
  rcases maintainMax calendar config now (pending.insert txHash txData) with e | kept
  · rfl
  · dsimp only
    split <;> rfl

theorem size_touchPending_known (hmem : txHash ∈ pending) :
    Table.size (touchPending calendar config now txHash txData pending).2 = Table.size pending := by
  obtain ⟨existing, hexisting⟩ := Option.isSome_iff_exists.mp (AList.lookup_isSome.mpr hmem)
  simp only [touchPending, hexisting]
  rcases Uint.add existing.seenCount 1 with e | seenCount
  · exact Table.size_insert_of_mem hmem
  · exact Table.size_insert_of_mem hmem

/-- A new transaction, where there are as many as there may be: one must be old. -/
theorem size_touchPending_full (hmem : txHash ∉ pending)
    (hfull : Table.size pending = config.maxPendingTransactions) :
    Table.size (touchPending calendar config now txHash txData pending).2 ≤ config.maxPendingTransactions ↔
      ∃ time, cutoff calendar config now = .ok time ∧ (txData.firstSeen < time ∨
        ∃ hash tx, pending.lookup hash = some tx ∧ tx.firstSeen < time) := by
  have hsize : Table.size (pending.insert txHash txData) = Table.size pending + 1 :=
    Table.size_insert_of_notMem hmem
  rw [touchPending_new (AList.lookup_eq_none.mpr hmem), maintainMax, hsize, if_pos (by omega)]
  rcases htime : cutoff calendar config now with e | time
  · have hfail : cleanupOldTransactions calendar config now (pending.insert txHash txData) = .error e := by
      rw [cleanupOldTransactions, htime]
      rfl
    rw [hfail]
    dsimp only
    rw [hsize]
    simp only [reduceCtorEq, false_and, exists_false, iff_false]
    omega
  · obtain ⟨kept, hkept, -⟩ := lookup_cleanup_iff htime (AList.lookup_insert (b := txData) pending)
    have hlt := size_cleanup_lt_iff htime hkept
    rw [hsize, Table.exists_insert_iff (P := fun _ tx => tx.firstSeen < time) hmem] at hlt
    rw [hkept]
    dsimp only
    rw [← hfull, ← Nat.lt_succ_iff, hlt]
    constructor
    · exact fun hold => ⟨time, rfl, hold⟩
    · rintro ⟨_, htime', hold⟩
      cases htime'
      exact hold

/-- A report to a manager with no more pending transactions than there may be. -/
theorem boundedAfter_iff (h : s.pendingCount ≤ s.config.maxPendingTransactions) :
    BoundedAfter calendar now txHash txData s ↔ RoomFor calendar now txHash txData s := by
  unfold BoundedAfter RoomFor
  rcases hpoisoned : s.pendingTransactions.poisoned with _ | _
  · have hcount : (s.updatePendingTransaction calendar now txHash txData).2.pendingCount =
        Table.size (touchPending calendar s.config now txHash txData s.pendingTransactions.value).2 := by
      simp only [updatePendingTransaction, RwLock.write, hpoisoned, Bool.false_eq_true, if_false]
      rcases touchPending calendar s.config now txHash txData s.pendingTransactions.value with ⟨e | tx, pending⟩
      · rfl
      · rfl
    rw [hcount, or_iff_right Bool.false_ne_true]
    by_cases hmem : txHash ∈ s.pendingTransactions.value
    · rw [size_touchPending_known hmem]
      exact iff_of_true h (.inl hmem)
    rw [or_iff_right hmem]
    by_cases hroom : s.pendingCount < s.config.maxPendingTransactions
    · have hsize : Table.size (s.pendingTransactions.value.insert txHash txData) = s.pendingCount + 1 :=
        Table.size_insert_of_notMem hmem
      rw [touchPending_new (AList.lookup_eq_none.mpr hmem), maintainMax, hsize, if_neg (by omega)]
      refine iff_of_true ?_ (.inl hroom)
      rw [hsize]
      exact hroom
    · rw [or_iff_right hroom]
      exact size_touchPending_full hmem (Nat.le_antisymm h (Nat.not_lt.mp hroom))
  · simp only [updatePendingTransaction, RwLock.write, hpoisoned, if_true]
    exact iff_of_true h (.inl trivial)

theorem config_updatePendingTransaction (s : StateManager) :
    (s.updatePendingTransaction calendar now txHash txData).2.config = s.config := by
  unfold updatePendingTransaction
  split
  · rfl
  · split <;> rfl

theorem eachReport_bounded_iff (reports : List (DateTime × Report))
    (h : s.pendingCount ≤ s.config.maxPendingTransactions) :
    EachReport calendar (BoundedAfter calendar) reports s ↔
      EachReport calendar (RoomFor calendar) reports s := by
  induction reports generalizing s with
  | nil => exact Iff.rfl
  | cons report reports ih =>
    obtain ⟨now, txHash, txData⟩ := report
    rw [EachReport, EachReport, boundedAfter_iff h]
    apply and_congr_right
    intro hroom
    apply ih
    rw [config_updatePendingTransaction]
    exact (boundedAfter_iff h).mpr hroom

/-- **The pending transactions are bounded**, after each of any reports to a new manager, if
and only if each new transaction for which there is no room finds one that is old, itself
or another. -/
theorem pending_bounded_iff (calendar : Calendar) (config : StateManagerConfig)
    (reports : List (DateTime × Report)) :
    EachReport calendar (BoundedAfter calendar) reports (new config) ↔
      EachReport calendar (RoomFor calendar) reports (new config) :=
  eachReport_bounded_iff reports (Nat.zero_le _)

/-- **A burst is not bounded**: two transactions in one second, where one may be kept. -/
theorem burst_exceeds_bound :
    ((full 0).updatePendingTransaction .utc (10 ^ 9) "0x2" (sampleTransaction "0xb" 0 (10 ^ 9))).2.pendingCount = 2 ∧
      ¬ EachReport .utc (BoundedAfter .utc) [(0, "0x1", sampleTransaction "0xa" 0 0),
        (10 ^ 9, "0x2", sampleTransaction "0xb" 0 (10 ^ 9))] (new ⟨1, 1, 300⟩) := by
  refine ⟨by decide, ?_⟩
  rintro ⟨-, hsecond, -⟩
  refine absurd hsecond ?_
  unfold BoundedAfter
  decide

end StateManager

end Botmev.Core
