import Botmev.Core.PendingSet

/-!
# After a panic of the state manager

A report that panics leaves the lock of the pending transactions poisoned, and whoever takes it afterwards
panics as well. That is every report, every clean-up, whoever looks at the pending transactions or asks for
the statistics, and whoever brings a header that leaves the chain: `handle_reorg` takes the lock to mark no
transaction at all.

## What is proved

* `poisoned_of_not_returns`: a step that does not return leaves the lock poisoned.
* `updateBlockHeader_poisoned`: what becomes of a header then.
* `panic_final`: the two, over whole runs: nothing that takes the lock ever returns again.
-/

namespace Botmev.Core

open Botmev.Rust Botmev.Library

/-- "State manager statistics". -/
structure StateStats where
  /-- `pending_transactions`. -/
  pendingTransactions : ℕ
  /-- `block_headers`. -/
  blockHeaders : ℕ
  /-- `reorg_events`. -/
  reorgEvents : ℕ
  /-- `tracked_addresses`. -/
  trackedAddresses : ℕ
  /-- `current_block_number`. -/
  currentBlockNumber : Option U64
  /-- `current_block_hash`. -/
  currentBlockHash : Option String
  /-- `oldest_pending_transaction`. -/
  oldestPendingTransaction : Option DateTime

namespace StateManager

/-- `get_pending_transactions`, in some order. -/
def getPendingTransactions (address : String) (s : StateManager) : Result (List PendingTransactionState) := do
  let pending ← s.pendingTransactions.read
  pure ((pending.entries.map (·.2)).filter fun tx => tx.fromAddress == address || tx.toAddress == some address)

/-- `get_stats`. The lock of the pending transactions is taken first. -/
def getStats (s : StateManager) : Result StateStats := do
  let pending ← s.pendingTransactions.read
  pure
    { pendingTransactions := Table.size pending
      blockHeaders := s.blockHeaders.length
      reorgEvents := s.reorgEvents.length
      trackedAddresses := Table.size s.nonceTracker
      currentBlockNumber := s.currentHead.map (·.number)
      currentBlockHash := s.currentHead.map (·.hash)
      oldestPendingTransaction := (pending.entries.map (·.2.firstSeen)).min? }

variable (calendar : Calendar) {now : DateTime} {newHeader : BlockHeader} {s : StateManager} {step : ManagerStep}

/-- After some steps, whether they return or not. -/
def stateAfter (steps : List ManagerStep) (s : StateManager) : StateManager :=
  steps.foldl (fun s step => (step.apply calendar s).2) s

/-- The header is higher than the head, and does not build on it. -/
def LeavesChain (newHeader : BlockHeader) (s : StateManager) : Prop :=
  ∃ current, s.currentHead = some current ∧ current.number < newHeader.number ∧
    newHeader.parentHash ≠ current.hash

/-- **Out of order**, since the manager was `failed`: the pending transactions and the nonces stay as they
were then, whoever takes their lock panics, and a header that leaves the chain does so and changes nothing. -/
structure OutOfOrder (failed s : StateManager) : Prop where
  /-- The pending transactions stay. -/
  pendingTransactions : s.pendingTransactions = failed.pendingTransactions
  /-- The nonces stay. -/
  nonceTracker : s.nonceTracker = failed.nonceTracker
  /-- A report panics, and so does a clean-up. -/
  reports : ∀ step : PendingStep, panics (step.apply calendar s).1
  /-- Looking at the pending transactions panics. -/
  looks : ∀ address, panics (s.getPendingTransactions address)
  /-- Asking for the statistics panics. -/
  stats : panics s.getStats
  /-- A header is taken just where it does not leave the chain. -/
  headers : ∀ now newHeader, Returns calendar (.updateBlockHeader now newHeader) s ↔ ¬ LeavesChain newHeader s
  /-- A header that does changes nothing. -/
  stuck : ∀ now newHeader, LeavesChain newHeader s →
    panics (s.updateBlockHeader now newHeader).1 ∧ (s.updateBlockHeader now newHeader).2 = s

variable {calendar}

/-! ### With the lock poisoned -/

theorem panics_write (h : s.pendingTransactions.poisoned = true) : panics s.pendingTransactions.write := by
  simp [RwLock.write, h]

theorem pendingStep_poisoned (h : s.pendingTransactions.poisoned = true) (step : PendingStep) :
    panics (step.apply calendar s).1 ∧ (step.apply calendar s).2 = s := by
  cases step with
  | update now txHash txData => simp [PendingStep.apply, updatePendingTransaction, RwLock.write, h]
  | cleanup now => simp [PendingStep.apply, cleanupExpiredTransactions, RwLock.write, h]

/-- **A header**: one that leaves the chain panics and changes nothing, and any other becomes the head and
leaves the rest. -/
theorem updateBlockHeader_poisoned (h : s.pendingTransactions.poisoned = true) (now : DateTime)
    (newHeader : BlockHeader) :
    (LeavesChain newHeader s →
        panics (s.updateBlockHeader now newHeader).1 ∧ (s.updateBlockHeader now newHeader).2 = s) ∧
      (¬ LeavesChain newHeader s → ∃ event, (s.updateBlockHeader now newHeader).1 = .ok event) ∧
      (s.updateBlockHeader now newHeader).2.pendingTransactions = s.pendingTransactions ∧
      (s.updateBlockHeader now newHeader).2.nonceTracker = s.nonceTracker := by
  have hdropped : s.markTransactionsAsDropped [] =
      (.error (.panic "called `Result::unwrap()` on an `Err` value: PoisonError { .. }"), s) := by
    simp [markTransactionsAsDropped, RwLock.write, h]
  rcases hhead : s.currentHead with _ | current
  · have hstays : ¬ LeavesChain newHeader s := by simp [LeavesChain, hhead]
    refine ⟨fun hleaves => absurd hleaves hstays, fun _ => ⟨none, ?_⟩, ?_⟩
    · simp only [updateBlockHeader, checkReorg, hhead]
    · simp only [updateBlockHeader, checkReorg, hhead, and_self]
  · have hleaves : LeavesChain newHeader s ↔
        current.number < newHeader.number ∧ newHeader.parentHash ≠ current.hash := by
      simp [LeavesChain, hhead]
    rw [hleaves]
    by_cases hnumber : newHeader.number ≤ current.number
    · have hnot : ¬ current.number < newHeader.number := BitVec.not_lt.mpr hnumber
      simp [updateBlockHeader, checkReorg, hhead, hnumber, hnot, detectReorg, pushReorg]
    · have hlt : current.number < newHeader.number := BitVec.not_le.mp hnumber
      by_cases hparent : newHeader.parentHash = current.hash
      · simp [updateBlockHeader, checkReorg, hhead, hnumber, hparent]
      · simp [updateBlockHeader, checkReorg, hhead, hnumber, hlt, hparent, handleReorg,
          getAffectedTransactions, hdropped]

/-- Whatever happens, the pending transactions and the nonces stay, and so does the lock. -/
theorem apply_poisoned (calendar : Calendar) (h : s.pendingTransactions.poisoned = true) (step : ManagerStep) :
    (step.apply calendar s).2.pendingTransactions = s.pendingTransactions ∧
      (step.apply calendar s).2.nonceTracker = s.nonceTracker := by
  cases step with
  | initializeState currentBlock => exact ⟨rfl, rfl⟩
  | updateBlockHeader now newHeader => exact (updateBlockHeader_poisoned h now newHeader).2.2
  | pending step =>
    have hsame : (step.apply calendar s).2 = s := (pendingStep_poisoned h step).2
    exact ⟨congrArg pendingTransactions hsame, congrArg nonceTracker hsame⟩

/-! ### What poisons it -/

/-- **A step that does not return** leaves the lock poisoned. -/
theorem poisoned_of_not_returns (h : ¬ Returns calendar step s) :
    (step.apply calendar s).2.pendingTransactions.poisoned = true := by
  rcases hlock : s.pendingTransactions.poisoned with _ | _
  · have hwrite : s.pendingTransactions.write = .ok s.pendingTransactions.value := by simp [RwLock.write, hlock]
    revert h
    unfold Returns
    cases step with
    | initializeState currentBlock => exact fun h => absurd rfl h
    | updateBlockHeader now newHeader =>
      obtain ⟨event, hok, -⟩ := updateBlockHeader_returns now newHeader hlock
      exact fun h => absurd (congrArg (Except.map fun _ => ()) hok) h
    | pending step =>
      cases step with
      | update now txHash txData =>
        simp only [ManagerStep.apply, PendingStep.apply, updatePendingTransaction, hwrite]
        rcases touchPending calendar s.config now txHash txData s.pendingTransactions.value with ⟨e | tx, kept⟩
        · exact fun _ => rfl
        · exact fun h => absurd rfl h
      | cleanup now =>
        simp only [ManagerStep.apply, PendingStep.apply, cleanupExpiredTransactions, hwrite]
        rcases cleanupOldTransactions calendar s.config now s.pendingTransactions.value with e | kept
        · exact fun _ => rfl
        · exact fun h => absurd rfl h
  · rw [(apply_poisoned calendar hlock step).1, hlock]

/-! ### Runs -/

theorem stateAfter_poisoned (calendar : Calendar) (h : s.pendingTransactions.poisoned = true)
    (steps : List ManagerStep) :
    (stateAfter calendar steps s).pendingTransactions = s.pendingTransactions ∧
      (stateAfter calendar steps s).nonceTracker = s.nonceTracker := by
  induction steps generalizing s with
  | nil => exact ⟨rfl, rfl⟩
  | cons step steps ih =>
    obtain ⟨hpending, hnonces⟩ := apply_poisoned calendar h step
    obtain ⟨hpending', hnonces'⟩ := ih (s := (step.apply calendar s).2) (hpending ▸ h)
    exact ⟨hpending'.trans hpending, hnonces'.trans hnonces⟩

theorem outOfOrder_of_poisoned {failed : StateManager} (h : s.pendingTransactions.poisoned = true)
    (hpending : s.pendingTransactions = failed.pendingTransactions) (hnonces : s.nonceTracker = failed.nonceTracker) :
    OutOfOrder calendar failed s where
  pendingTransactions := hpending
  nonceTracker := hnonces
  reports step := (pendingStep_poisoned h step).1
  looks address := panics_bind.mpr (.inl (panics_write h))
  stats := panics_bind.mpr (.inl (panics_write h))
  headers now newHeader := by
    obtain ⟨hleaves, hstays, -⟩ := updateBlockHeader_poisoned h now newHeader
    constructor
    · intro hreturns hout
      obtain ⟨hpanics, -⟩ := hleaves hout
      change Except.map (fun _ => ()) (s.updateBlockHeader now newHeader).1 = .ok () at hreturns
      rcases hresult : (s.updateBlockHeader now newHeader).1 with e | event
      · rw [hresult] at hreturns
        cases hreturns
      · rw [hresult] at hpanics
        cases hpanics
    · intro hout
      obtain ⟨event, hok⟩ := hstays hout
      exact congrArg (Except.map fun _ => ()) hok
  stuck now newHeader hout := (updateBlockHeader_poisoned h now newHeader).1 hout

/-- **A panic is final**: once any step of a run does not return, then whatever comes after it, the manager
is out of order. -/
theorem panic_final (calendar : Calendar) (config : StateManagerConfig) (before after : List ManagerStep)
    (step : ManagerStep) (h : ¬ Returns calendar step (stateAfter calendar before (new config))) :
    OutOfOrder calendar (stateAfter calendar (before ++ [step]) (new config))
      (stateAfter calendar (before ++ step :: after) (new config)) := by
  have hpoisoned := poisoned_of_not_returns h
  have hone : stateAfter calendar (before ++ [step]) (new config) =
      (step.apply calendar (stateAfter calendar before (new config))).2 := by
    simp [stateAfter]
  have hall : stateAfter calendar (before ++ step :: after) (new config) =
      stateAfter calendar after (step.apply calendar (stateAfter calendar before (new config))).2 := by
    simp [stateAfter]
  obtain ⟨hpending, hnonces⟩ := stateAfter_poisoned calendar hpoisoned after
  rw [hone, hall]
  exact outOfOrder_of_poisoned (hpending ▸ hpoisoned) hpending hnonces

/-- A transaction that takes the one place there is. -/
def recentReport : ManagerStep := .pending (.update (600 * 10 ^ 9) "0x1" (sampleTransaction "0xa" 0 (600 * 10 ^ 9)))

/-- One that is old, for which there is none. -/
def oldReport : ManagerStep := .pending (.update (600 * 10 ^ 9) "0x2" (sampleTransaction "0xb" 0 0))

/-- Old ones are taken away. -/
def nextCleanup : ManagerStep := .pending (.cleanup (6000 * 10 ^ 9))

/-- The clean-up that would make room comes too late. -/
theorem oldReport_final : OutOfOrder .utc
    (stateAfter .utc ([recentReport] ++ [oldReport]) (new ⟨1, 1, 300⟩))
    (stateAfter .utc ([recentReport] ++ oldReport :: [nextCleanup]) (new ⟨1, 1, 300⟩)) := by
  refine panic_final .utc ⟨1, 1, 300⟩ [recentReport] [nextCleanup] oldReport ?_
  unfold Returns
  decide

end StateManager

end Botmev.Core
