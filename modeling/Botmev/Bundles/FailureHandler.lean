import Botmev.Library.Select
import Botmev.Library.Table
import Botmev.Rust.Basic

/-!
# The failure handler

`FailureHandler` (`bundle/failure_handler.rs`): for a failure of a bundle, a record is kept
and counted, and the operation is to be retried, rolled back or aborted, unless a kill
switch is on.

The atomic operations are the sections under the locks, and the sleeps before a retry and
in a rollback. Two locks are held during these sleeps, which rules out some of the orders
that are possible here. To turn the switch on, with its count, is one operation, because
its lock is held all along.

Times and the metadata of a record are left out, and so are the numbers of retries and the
delays in the configuration, which nothing reads. A `Duration` is in nanoseconds. The
fresh `uuid`s are arguments.
-/

namespace Botmev.Bundles

open Botmev.Rust Botmev.Library

/-- "Failure types that can occur during MEV operations". -/
inductive FailureType where
  /-- "Nonce collision with another transaction". -/
  | nonceCollision (expected actual : U64)
  /-- "Gas price too low for inclusion". -/
  | gasUnderpricing (required provided : U64)
  /-- "Blockchain reorganization affected bundle". -/
  | reorg (originalBlock newBlock : U64)
  /-- "Transaction evicted from mempool". -/
  | mempoolEviction (reason : String)
  /-- "Bundle execution failed". -/
  | executionFailure (error : String)
  /-- "Network connectivity issues". -/
  | networkError (error : String)
  /-- "Insufficient funds for transaction". -/
  | insufficientFunds (required available : U64)
  /-- "Smart contract revert". -/
  | contractRevert (reason : String)
  deriving DecidableEq, Repr

/-- "Failure handling configuration". -/
structure FailureConfig where
  /-- "Enable automatic rollback on failure". -/
  autoRollback : Bool
  deriving DecidableEq, Repr

/-- The configuration a handler has unless it is given another. -/
def FailureConfig.default : FailureConfig where
  autoRollback := true

/-- "Failure record for analysis and persistence". -/
structure FailureRecord where
  /-- Its name. -/
  id : String
  /-- The bundle. -/
  bundleId : String
  /-- What failed. -/
  failureType : FailureType
  /-- How often it was retried. -/
  retryCount : BitVec 32
  /-- Whether it is settled. -/
  resolved : Bool
  /-- How. -/
  resolutionMethod : Option String
  deriving DecidableEq, Repr

/-- "Status of rollback operation". -/
inductive RollbackStatus where
  | pending
  | inProgress
  | completed
  | failed (reason : String)
  deriving DecidableEq, Repr

/-- "Rollback operation for failed transactions". -/
structure RollbackOperation where
  /-- Its name. -/
  id : String
  /-- The bundle. -/
  bundleId : String
  /-- What to submit ("Would be populated with actual rollback transactions"). -/
  rollbackTransactions : List String
  /-- How far it is. -/
  status : RollbackStatus
  deriving DecidableEq, Repr

/-- "Kill switch for emergency shutdown". -/
structure KillSwitch where
  /-- "Whether the kill switch is activated". -/
  activated : Bool
  /-- "Reason for activation". -/
  reason : Option String
  /-- "Who activated it". -/
  activatedBy : Option String
  deriving DecidableEq, Repr

/-- "Failure statistics for monitoring". -/
structure FailureStats where
  /-- How many failures there were. -/
  totalFailures : U64
  /-- How many of each type. -/
  failuresByType : Table String U64
  /-- How many rollbacks. -/
  rollbacksExecuted : U64
  /-- How often the kill switch was turned on. -/
  killSwitchActivations : U64

/-- "Resolution strategy for failures". -/
inductive FailureResolution where
  /-- "Retry the operation with delay and max attempts". -/
  | retry (delay : ℕ) (maxAttempts : BitVec 32)
  /-- "Rollback the operation". -/
  | rollback
  /-- "Abort the operation". -/
  | abort
  /-- "Activate kill switch". -/
  | killSwitch
  /-- "Kill switch is already activated". -/
  | killSwitchActivated
  /-- "Manual intervention required". -/
  | manualIntervention
  deriving DecidableEq, Repr

/-- The name of the type, under which it is counted. -/
def FailureType.typeKey : FailureType → String
  | .nonceCollision _ _ => "NonceCollision"
  | .gasUnderpricing _ _ => "GasUnderpricing"
  | .reorg _ _ => "Reorg"
  | .mempoolEviction _ => "MempoolEviction"
  | .executionFailure _ => "ExecutionFailure"
  | .networkError _ => "NetworkError"
  | .insufficientFunds _ _ => "InsufficientFunds"
  | .contractRevert _ => "ContractRevert"

/-- `determine_resolution_strategy`. -/
def determineResolutionStrategy : FailureType → FailureResolution
  | .nonceCollision _ _ => .retry (2 * 10 ^ 9) 3
  | .gasUnderpricing _ _ => .retry (5 * 10 ^ 9) 2
  | .reorg _ _ => .rollback
  | .mempoolEviction _ => .retry (10 * 10 ^ 9) 1
  | .executionFailure _ => .rollback
  | .networkError _ => .retry (1 * 10 ^ 9) 5
  | .insufficientFunds _ _ => .abort
  | .contractRevert _ => .rollback

/-! ### The state -/

/-- The failure handler. -/
structure FailureState where
  /-- "Active failure records". -/
  failures : Table String FailureRecord
  /-- "Rollback operations". -/
  rollbacks : Table String RollbackOperation
  /-- "Kill switch state". -/
  killSwitch : KillSwitch
  /-- "Failure statistics". -/
  stats : FailureStats

namespace FailureState

/-- `FailureHandler::new`. -/
def new : FailureState where
  failures := ∅
  rollbacks := ∅
  killSwitch := ⟨false, none, none⟩
  stats := ⟨0, ∅, 0, 0⟩

/-- `update_failure_stats`. -/
def updateFailureStats (failureType : FailureType) (stats : FailureStats) : Result Unit × FailureStats :=
  match Uint.add stats.totalFailures 1 with
  | .error e => (.error e, stats)
  | .ok totalFailures =>
    let stats := { stats with totalFailures := totalFailures }
    match Uint.add ((stats.failuresByType.lookup failureType.typeKey).getD 0) 1 with
    | .error e => (.error e, stats)
    | .ok count =>
      (.ok (), { stats with failuresByType := stats.failuresByType.insert failureType.typeKey count })

/-- The locked part of `handle_retry`: whether the attempts are used up. -/
def countRetry (failureId : String) (maxAttempts : BitVec 32) (failures : Table String FailureRecord) :
    Result Bool × Table String FailureRecord :=
  match failures.lookup failureId with
  | none => (.error (.err ("Failure record not found: " ++ failureId)), failures)
  | some failure =>
    match Uint.add failure.retryCount 1 with
    | .error e => (.error e, failures)
    | .ok retryCount =>
      if maxAttempts ≤ retryCount then
        (.ok true, failures.insert failureId
          { failure with
            retryCount := retryCount
            resolved := true
            resolutionMethod := some "max_retries_exceeded" })
      else (.ok false, failures.insert failureId { failure with retryCount := retryCount })

/-- The locked part of `abort_operation`. -/
def abortFailure (failureId : String) (failures : Table String FailureRecord) :
    Result Unit × Table String FailureRecord :=
  match failures.lookup failureId with
  | none => (.error (.err ("Failure record not found: " ++ failureId)), failures)
  | some failure =>
    (.ok (), failures.insert failureId { failure with resolved := true, resolutionMethod := some "aborted" })

/-- `rollback.status = status`, for the rollback with the given name. -/
def setRollbackStatus (rollbackId : String) (status : RollbackStatus)
    (rollbacks : Table String RollbackOperation) :
    Result Unit × Table String RollbackOperation :=
  match rollbacks.lookup rollbackId with
  | none => (.error (.err ("Rollback operation not found: " ++ rollbackId)), rollbacks)
  | some rollback => (.ok (), rollbacks.insert rollbackId { rollback with status := status })

/-- `stats.rollbacks_executed += 1`. -/
def countRollback (stats : FailureStats) : Result Unit × FailureStats :=
  match Uint.add stats.rollbacksExecuted 1 with
  | .error e => (.error e, stats)
  | .ok rollbacksExecuted => (.ok (), { stats with rollbacksExecuted := rollbacksExecuted })

/-- The locked part of `activate_kill_switch`. -/
def activate (reason : String) (activatedBy : Option String) (s : FailureState) :
    Result Unit × FailureState :=
  if s.killSwitch.activated then (.ok (), s)
  else
    let s := { s with killSwitch := ⟨true, some reason, activatedBy⟩ }
    match Uint.add s.stats.killSwitchActivations 1 with
    | .error e => (.error e, s)
    | .ok activations => (.ok (), { s with stats := { s.stats with killSwitchActivations := activations } })

/-- The locked part of `deactivate_kill_switch`. -/
def deactivate (deactivatedBy : String) (s : FailureState) : Result Unit × FailureState :=
  if s.killSwitch.activated then (.ok (), { s with killSwitch := ⟨false, none, some deactivatedBy⟩ })
  else (.error (.err "Kill switch is not activated"), s)

/-- To turn the switch on leaves all but the switch and its count. -/
theorem activate_frame (reason : String) (activatedBy : Option String) (s : FailureState) :
    (s.activate reason activatedBy).2.killSwitch.activated = true ∧
      (s.activate reason activatedBy).2.failures = s.failures ∧
      (s.activate reason activatedBy).2.rollbacks = s.rollbacks ∧
      (s.activate reason activatedBy).2.stats.rollbacksExecuted = s.stats.rollbacksExecuted := by
  unfold activate
  by_cases hon : s.killSwitch.activated
  · simp [hon]
  · rw [if_neg hon]
    dsimp only
    split <;> simp

theorem deactivate_frame (deactivatedBy : String) (s : FailureState) :
    (s.deactivate deactivatedBy).2.failures = s.failures ∧
      (s.deactivate deactivatedBy).2.rollbacks = s.rollbacks ∧
      (s.deactivate deactivatedBy).2.stats = s.stats := by
  unfold deactivate
  split <;> simp

end FailureState

/-! ### The functions -/

/-- The atomic operations. -/
inductive FailureOp where
  /-- `is_kill_switch_activated`. -/
  | isKillSwitchActivated
  /-- `failures.insert(failure_id.clone(), failure_record)`. -/
  | insertFailure (record : FailureRecord)
  /-- `update_failure_stats`. -/
  | updateFailureStats (failureType : FailureType)
  /-- The locked part of `handle_retry`. -/
  | countRetry (failureId : String) (maxAttempts : BitVec 32)
  /-- "Wait for retry delay". -/
  | retryDelay (delay : ℕ)
  /-- The locked part of `abort_operation`. -/
  | abortFailure (failureId : String)
  /-- `rollbacks.insert(rollback_id.clone(), rollback_op)`. -/
  | insertRollback (rollback : RollbackOperation)
  /-- `execute_rollback`, up to its sleep. -/
  | startRollback (rollbackId : String)
  /-- `execute_rollback`, from its sleep on. -/
  | completeRollback (rollbackId : String)
  /-- `stats.rollbacks_executed += 1`. -/
  | countRollback
  /-- The locked part of `activate_kill_switch`. -/
  | activate (reason : String) (activatedBy : Option String)
  /-- The locked part of `deactivate_kill_switch`. -/
  | deactivate (deactivatedBy : String)
  deriving DecidableEq, Repr

/-- The atomic operations, with what each answers. -/
@[reducible] def FailureI : Interface where
  Op := FailureOp
  Reply
    | .isKillSwitchActivated => Bool
    | .insertFailure _ => Unit
    | .updateFailureStats _ => Result Unit
    | .countRetry _ _ => Result Bool
    | .retryDelay _ => Unit
    | .abortFailure _ => Result Unit
    | .insertRollback _ => Unit
    | .startRollback _ => Result Unit
    | .completeRollback _ => Result Unit
    | .countRollback => Result Unit
    | .activate _ _ => Result Unit
    | .deactivate _ => Result Unit

/-- What the operations do. -/
def failureHandler : Handler FailureI FailureState
  | .isKillSwitchActivated, s => (s.killSwitch.activated, s)
  | .insertFailure record, s => ((), { s with failures := s.failures.insert record.id record })
  | .updateFailureStats failureType, s =>
    let (r, stats) := FailureState.updateFailureStats failureType s.stats
    (r, { s with stats := stats })
  | .countRetry failureId maxAttempts, s =>
    let (r, failures) := FailureState.countRetry failureId maxAttempts s.failures
    (r, { s with failures := failures })
  | .retryDelay _, s => ((), s)
  | .abortFailure failureId, s =>
    let (r, failures) := FailureState.abortFailure failureId s.failures
    (r, { s with failures := failures })
  | .insertRollback rollback, s => ((), { s with rollbacks := s.rollbacks.insert rollback.id rollback })
  | .startRollback rollbackId, s =>
    let (r, rollbacks) := FailureState.setRollbackStatus rollbackId .inProgress s.rollbacks
    (r, { s with rollbacks := rollbacks })
  | .completeRollback rollbackId, s =>
    let (r, rollbacks) := FailureState.setRollbackStatus rollbackId .completed s.rollbacks
    (r, { s with rollbacks := rollbacks })
  | .countRollback, s =>
    let (r, stats) := FailureState.countRollback s.stats
    (r, { s with stats := stats })
  | .activate reason activatedBy, s => s.activate reason activatedBy
  | .deactivate deactivatedBy, s => s.deactivate deactivatedBy

/-- A function of the handler. -/
abbrev FailureM (α : Type) := Async FailureI Failure α

/-- `handle_retry`. -/
def handleRetry (failureId : String) (delay : ℕ) (maxAttempts : BitVec 32) :
    FailureM FailureResolution := do
  let exceeded ← Async.request (I := FailureI) (.countRetry failureId maxAttempts)
  if ← exceeded then
    -- "Escalate to rollback"
    pure .rollback
  else
    Async.request (I := FailureI) (.retryDelay delay)
    pure (.retry delay maxAttempts)

/-- `execute_rollback`. -/
def executeRollback (rollbackId : String) : FailureM Unit := do
  let started ← Async.request (I := FailureI) (.startRollback rollbackId)
  started
  let completed ← Async.request (I := FailureI) (.completeRollback rollbackId)
  completed

/-- `abort_operation`. -/
def abortOperation (failureId : String) : FailureM FailureResolution := do
  let aborted ← Async.request (I := FailureI) (.abortFailure failureId)
  aborted
  pure .abort

/-- `activate_kill_switch`. -/
def activateKillSwitch (reason : String) (activatedBy : Option String) : FailureM FailureResolution := do
  let activated ← Async.request (I := FailureI) (.activate reason activatedBy)
  activated
  pure .killSwitchActivated

/-- `deactivate_kill_switch`. -/
def deactivateKillSwitch (deactivatedBy : String) : FailureM Unit := do
  let deactivated ← Async.request (I := FailureI) (.deactivate deactivatedBy)
  deactivated

variable (config : FailureConfig)

/-- The rollback of a bundle, with the fresh `uuid`, before it is executed. -/
def rollbackOp (bundleId uuid : String) : RollbackOperation where
  id := "rollback_" ++ uuid
  bundleId := bundleId
  rollbackTransactions := []
  status := .pending

/-- `initiate_rollback`. -/
def initiateRollback (bundleId uuid : String) : FailureM FailureResolution := do
  if config.autoRollback then
    Async.request (I := FailureI) (.insertRollback (rollbackOp bundleId uuid))
    executeRollback (rollbackOp bundleId uuid).id
    let counted ← Async.request (I := FailureI) .countRollback
    counted
    pure .rollback
  else pure .manualIntervention

/-- What `handle_failure` does for a strategy. -/
def resolve (bundleId failureId rollbackUuid : String) : FailureResolution → FailureM FailureResolution
  | .retry delay maxAttempts => handleRetry failureId delay maxAttempts
  | .rollback => initiateRollback config bundleId rollbackUuid
  | .abort => abortOperation failureId
  | .killSwitch => activateKillSwitch "Automatic activation due to critical failure" none
  | resolution => pure resolution

/-- The arguments of `handle_failure`, with the two fresh `uuid`s of the call. -/
structure FailureReport where
  /-- The bundle. -/
  bundleId : String
  /-- What failed. -/
  failureType : FailureType
  /-- For the record. -/
  failureUuid : String
  /-- For the rollback. -/
  rollbackUuid : String
  deriving DecidableEq, Repr

/-- The record of the failure. -/
def FailureReport.record (report : FailureReport) : FailureRecord where
  id := "failure_" ++ report.failureUuid
  bundleId := report.bundleId
  failureType := report.failureType
  retryCount := 0
  resolved := false
  resolutionMethod := none

/-- Its rollback. -/
def FailureReport.rollback (report : FailureReport) : RollbackOperation :=
  rollbackOp report.bundleId report.rollbackUuid

/-- `handle_failure`. -/
def handleFailure (report : FailureReport) : FailureM FailureResolution := do
  let activated ← Async.request (I := FailureI) .isKillSwitchActivated
  if activated then pure .killSwitchActivated
  else
    Async.request (I := FailureI) (.insertFailure report.record)
    let counted ← Async.request (I := FailureI) (.updateFailureStats report.failureType)
    counted
    resolve config report.bundleId report.record.id report.rollbackUuid
      (determineResolutionStrategy report.failureType)

/-- The operations of `handle_retry`. -/
def FailureOp.ofRetry : FailureOp → Prop
  | .countRetry _ _ | .retryDelay _ => True
  | _ => False

/-- The operations of `resolve`. -/
def FailureOp.ofResolve : FailureOp → Prop
  | .countRetry _ _ | .retryDelay _ | .abortFailure _ => True
  | .insertRollback _ | .startRollback _ | .completeRollback _ | .countRollback => True
  | _ => False

theorem handleRetry_within (failureId : String) (delay : ℕ) (maxAttempts : BitVec 32) :
    (handleRetry failureId delay maxAttempts).Within FailureOp.ofRetry := by
  refine (Async.Within.request trivial).bind fun exceeded => (Async.Within.lift exceeded).bind fun exceeded => ?_
  cases exceeded with
  | true => trivial
  | false => exact (Async.Within.request trivial).bind fun _ => trivial

theorem executeRollback_within (rollbackId : String) :
    (executeRollback rollbackId).Within FailureOp.ofResolve :=
  (Async.Within.request trivial).bind fun started => (Async.Within.lift started).bind fun _ =>
    (Async.Within.request trivial).bind fun completed => Async.Within.lift completed

theorem initiateRollback_within (bundleId uuid : String) :
    (initiateRollback config bundleId uuid).Within FailureOp.ofResolve := by
  unfold initiateRollback
  split
  · exact (Async.Within.request trivial).bind fun _ => (executeRollback_within _).bind fun _ =>
      (Async.Within.request trivial).bind fun counted => (Async.Within.lift counted).bind fun _ => trivial
  · trivial

theorem abortOperation_within (failureId : String) :
    (abortOperation failureId).Within FailureOp.ofResolve :=
  (Async.Within.request trivial).bind fun aborted => (Async.Within.lift aborted).bind fun _ => trivial

/-- Whatever the failure, what is done for it is among these operations. -/
theorem resolve_within (bundleId failureId rollbackUuid : String) (failureType : FailureType) :
    (resolve config bundleId failureId rollbackUuid (determineResolutionStrategy failureType)).Within
      FailureOp.ofResolve := by
  cases failureType with
  | nonceCollision | gasUnderpricing | mempoolEviction | networkError =>
    refine (handleRetry_within _ _ _).mono fun op hop => ?_
    cases op with
    | countRetry | retryDelay => trivial
    | _ => exact hop.elim
  | reorg | executionFailure | contractRevert => exact initiateRollback_within config _ _
  | insufficientFunds => exact abortOperation_within _

/-- The calls of a failure handler. -/
inductive FailureCall where
  /-- `handle_failure`. -/
  | handle (report : FailureReport)
  /-- `activate_kill_switch`. -/
  | activate (reason : String) (activatedBy : Option String)
  /-- `deactivate_kill_switch`. -/
  | deactivate (deactivatedBy : String)
  deriving DecidableEq, Repr

/-- The call, with the resolution it returns if it returns one. -/
def FailureCall.task : FailureCall → FailureM (Option FailureResolution)
  | .handle report => do
    let resolution ← handleFailure config report
    pure (some resolution)
  | .activate reason activatedBy => do
    let resolution ← activateKillSwitch reason activatedBy
    pure (some resolution)
  | .deactivate deactivatedBy => do
    deactivateKillSwitch deactivatedBy
    pure none

/-- Calls in the middle of running. -/
abbrev FailurePool (ι : Type) := Pool FailureI Failure (Option FailureResolution) FailureState ι

end Botmev.Bundles
