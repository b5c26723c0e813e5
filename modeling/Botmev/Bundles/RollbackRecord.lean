import Botmev.Bundles.RetryBound
import Mathlib.Data.Finset.Card

/-!
# Rollbacks that are reported

A call of `handle_failure` returns that the operation is to be rolled back in two ways: the
strategy is to roll back, and it has been done and counted; or the strategy is to retry,
and the attempts are used up, where nothing is done. There are as many attempts as the
strategy says, and the first is counted: so only an eviction from the mempool, with one
attempt, is reported so.

## What is proved

* `rollbacks_happened`: in every run in which no eviction is retried, each call that
  returns a rollback has one on record, that is completed, and they are as many as are
  counted.
* `eviction_run`: what a call about an eviction returns and leaves.
* `eviction_rolled_back_in_name_only`: a run with an eviction, and no rollback.
-/

namespace Botmev.Bundles

open Botmev.Rust Botmev.Library

/-! ### The protocol of the calls -/

/-- How far a call is with its rollback. -/
inductive RollbackStage where
  /-- Its failure is not recorded. -/
  | fresh
  /-- Its failure is recorded. -/
  | reported
  /-- Its rollback is recorded. -/
  | opened
  /-- Its rollback is completed. -/
  | executed
  /-- Its rollback is counted. -/
  | counted
  /-- Its attempts are used up. -/
  | escalated
  /-- It rolls nothing back. -/
  | settled
  deriving DecidableEq, Repr

/-- What a call may ask for, and how far it is then. -/
inductive RollbackMove : FailureCall × RollbackStage → (op : FailureOp) → FailureI.Reply op →
    FailureCall × RollbackStage → Prop
  /-- It looks at the kill switch. -/
  | check {call : FailureCall} {b : Bool} : RollbackMove (call, .fresh) .isKillSwitchActivated b (call, .fresh)
  /-- It records its failure. -/
  | report {report : FailureReport} :
      RollbackMove (.handle report, .fresh) (.insertFailure report.record) () (.handle report, .reported)
  /-- It counts its failure. -/
  | count {report : FailureReport} {r : Result Unit} :
      RollbackMove (.handle report, .reported) (.updateFailureStats report.failureType) r
        (.handle report, .reported)
  /-- It is to be retried. -/
  | retry {report : FailureReport} {maxAttempts : BitVec 32} :
      RollbackMove (.handle report, .reported) (.countRetry report.record.id maxAttempts) (.ok false)
        (.handle report, .settled)
  /-- Its attempts are used up. -/
  | escalate {report : FailureReport} {delay : ℕ} {maxAttempts : BitVec 32}
      (hstrategy : determineResolutionStrategy report.failureType = .retry delay maxAttempts) :
      RollbackMove (.handle report, .reported) (.countRetry report.record.id maxAttempts) (.ok true)
        (.handle report, .escalated)
  /-- Its record is not found. -/
  | lose {report : FailureReport} {maxAttempts : BitVec 32} {e : Failure} :
      RollbackMove (.handle report, .reported) (.countRetry report.record.id maxAttempts) (.error e)
        (.handle report, .settled)
  /-- It waits. -/
  | delay {call : FailureCall} {delay : ℕ} :
      RollbackMove (call, .settled) (.retryDelay delay) () (call, .settled)
  /-- It is aborted. -/
  | abort {report : FailureReport} {r : Result Unit} :
      RollbackMove (.handle report, .reported) (.abortFailure report.record.id) r (.handle report, .settled)
  /-- It records its rollback. -/
  | openRollback {report : FailureReport} :
      RollbackMove (.handle report, .reported) (.insertRollback report.rollback) () (.handle report, .opened)
  /-- It starts its rollback. -/
  | start {report : FailureReport} {r : Result Unit} :
      RollbackMove (.handle report, .opened) (.startRollback report.rollback.id) r (.handle report, .opened)
  /-- It completes its rollback. -/
  | complete {report : FailureReport} :
      RollbackMove (.handle report, .opened) (.completeRollback report.rollback.id) (.ok ())
        (.handle report, .executed)
  /-- Its rollback is not found. -/
  | incomplete {report : FailureReport} {e : Failure} :
      RollbackMove (.handle report, .opened) (.completeRollback report.rollback.id) (.error e)
        (.handle report, .opened)
  /-- It counts its rollback. -/
  | countRollback {report : FailureReport} :
      RollbackMove (.handle report, .executed) .countRollback (.ok ()) (.handle report, .counted)
  /-- Its rollback cannot be counted. -/
  | overflow {report : FailureReport} {e : Failure} :
      RollbackMove (.handle report, .executed) .countRollback (.error e) (.handle report, .executed)
  /-- It turns the kill switch on. -/
  | activate {call : FailureCall} {reason : String} {activatedBy : Option String} {r : Result Unit} :
      RollbackMove (call, .fresh) (.activate reason activatedBy) r (call, .fresh)
  /-- It turns the kill switch off. -/
  | deactivate {call : FailureCall} {deactivatedBy : String} {r : Result Unit} :
      RollbackMove (call, .fresh) (.deactivate deactivatedBy) r (call, .fresh)

/-- The protocol of the calls. -/
@[reducible] def rollbackProtocol : Protocol FailureI where
  Phase := FailureCall × RollbackStage
  legal _ _ := True
  move := RollbackMove

/-- Unless its attempts are used up, a call returns a rollback just when it has counted one. -/
def RollbackEnds (φ : FailureCall × RollbackStage) (r : Result FailureResolution) : Prop :=
  φ.2 ≠ .escalated → (r = .ok .rollback ↔ φ.2 = .counted)

/-- The same of the call with what it returns. -/
def ReturnsRollback (φ : FailureCall × RollbackStage) (r : Result (Option FailureResolution)) : Prop :=
  φ.2 ≠ .escalated → (r = .ok (some .rollback) ↔ φ.2 = .counted)

variable {config : FailureConfig} {report : FailureReport} {call : FailureCall} {stage : RollbackStage}

theorem handleRetry_follows {delay : ℕ} {maxAttempts : BitVec 32}
    (hstrategy : determineResolutionStrategy report.failureType = .retry delay maxAttempts) :
    rollbackProtocol.Follows RollbackEnds (.handle report, .reported)
      (handleRetry report.record.id delay maxAttempts) := by
  rintro (e | _ | _) -
  · exact ⟨_, .lose, fun _ => iff_of_false nofun nofun⟩
  · refine ⟨_, .retry, ?_⟩
    rintro ⟨⟩ -
    exact ⟨_, .delay, fun _ => iff_of_false nofun nofun⟩
  · exact ⟨_, .escalate hstrategy, fun h => absurd rfl h⟩

theorem initiateRollback_follows (config : FailureConfig) (report : FailureReport) :
    rollbackProtocol.Follows RollbackEnds (.handle report, .reported)
      (initiateRollback config report.bundleId report.rollbackUuid) := by
  unfold initiateRollback
  split
  · rintro ⟨⟩ -
    refine ⟨_, .openRollback, ?_⟩
    rintro (e | ⟨⟩) -
    · exact ⟨_, .start, fun _ => iff_of_false nofun nofun⟩
    refine ⟨_, .start, ?_⟩
    rintro (e | ⟨⟩) -
    · exact ⟨_, .incomplete, fun _ => iff_of_false nofun nofun⟩
    refine ⟨_, .complete, ?_⟩
    rintro (e | ⟨⟩) -
    · exact ⟨_, .overflow, fun _ => iff_of_false nofun nofun⟩
    exact ⟨_, .countRollback, fun _ => iff_of_true rfl rfl⟩
  · exact fun _ => iff_of_false nofun nofun

theorem resolve_follows (config : FailureConfig) (report : FailureReport) :
    rollbackProtocol.Follows RollbackEnds (.handle report, .reported)
      (resolve config report.bundleId report.record.id report.rollbackUuid
        (determineResolutionStrategy report.failureType)) := by
  rcases hstrategy : determineResolutionStrategy report.failureType with
    ⟨delay, maxAttempts⟩ | _ | _ | _ | _ | _
  · exact handleRetry_follows hstrategy
  · exact initiateRollback_follows config report
  · rintro (e | ⟨⟩) -
    · exact ⟨_, .abort, fun _ => iff_of_false nofun nofun⟩
    · exact ⟨_, .abort, fun _ => iff_of_false nofun nofun⟩
  · exact absurd hstrategy (strategy_ne_killSwitch _)
  · exact fun _ => iff_of_false nofun nofun
  · exact fun _ => iff_of_false nofun nofun

theorem handleFailure_follows (config : FailureConfig) (report : FailureReport) :
    rollbackProtocol.Follows RollbackEnds (.handle report, .fresh) (handleFailure config report) := by
  rintro (_ | _) -
  · refine ⟨_, .check, ?_⟩
    rintro ⟨⟩ -
    refine ⟨_, .report, ?_⟩
    rintro (e | ⟨⟩) -
    · exact ⟨_, .count, fun _ => iff_of_false nofun nofun⟩
    · exact ⟨_, .count, resolve_follows config report⟩
  · exact ⟨_, .check, fun _ => iff_of_false nofun nofun⟩

/-- **A call follows the protocol.** -/
theorem FailureCall.follows (config : FailureConfig) (call : FailureCall) :
    rollbackProtocol.Follows ReturnsRollback (call, .fresh) (call.task config) := by
  cases call with
  | handle report =>
    refine (handleFailure_follows config report).bind ?_ ?_
    · intro φ resolution hends hstage
      rw [← hends hstage]
      constructor
      · rintro ⟨⟩
        rfl
      · rintro ⟨⟩
        rfl
    · intro φ e hends hstage
      exact iff_of_false nofun fun hcounted => nomatch (hends hstage).mpr hcounted
  | activate reason activatedBy =>
    rintro (e | ⟨⟩) -
    · exact ⟨_, .activate, fun _ => iff_of_false nofun nofun⟩
    · exact ⟨_, .activate, fun _ => iff_of_false nofun nofun⟩
  | deactivate deactivatedBy =>
    rintro (e | ⟨⟩) -
    · exact ⟨_, .deactivate, fun _ => iff_of_false nofun nofun⟩
    · exact ⟨_, .deactivate, fun _ => iff_of_false nofun nofun⟩

/-! ### What the operations touch -/

/-- The record that an operation is about. -/
def FailureOp.failureId? : FailureOp → Option String
  | .insertFailure record => some record.id
  | .countRetry failureId _ | .abortFailure failureId => some failureId
  | _ => none

/-- The rollback that an operation is about. -/
def FailureOp.rollbackId? : FailureOp → Option String
  | .insertRollback rollback => some rollback.id
  | .startRollback rollbackId | .completeRollback rollbackId => some rollbackId
  | _ => none

variable {op : FailureOp} {s : FailureState}

theorem lookup_setRollbackStatus_of_ne {id rollbackId : String} {status : RollbackStatus}
    {rollbacks : Table String RollbackOperation} (hid : rollbackId ≠ id) :
    (FailureState.setRollbackStatus rollbackId status rollbacks).2.lookup id = rollbacks.lookup id := by
  unfold FailureState.setRollbackStatus
  split
  · rfl
  · exact AList.lookup_insert_ne hid.symm

theorem failures_frame {id : String} (hid : op.failureId? ≠ some id) :
    (failureHandler op s).2.failures.lookup id = s.failures.lookup id := by
  have hne : ∀ failureId, some failureId ≠ some id → id ≠ failureId := by
    rintro failureId hne rfl
    exact hne rfl
  cases op with
  | insertFailure record => exact AList.lookup_insert_ne (hne _ hid)
  | countRetry failureId maxAttempts =>
    show (FailureState.countRetry failureId maxAttempts s.failures).2.lookup id = _
    unfold FailureState.countRetry
    split
    · rfl
    split
    · rfl
    split <;> exact AList.lookup_insert_ne (hne _ hid)
  | abortFailure failureId =>
    show (FailureState.abortFailure failureId s.failures).2.lookup id = _
    unfold FailureState.abortFailure
    split
    · rfl
    · exact AList.lookup_insert_ne (hne _ hid)
  | activate reason activatedBy =>
    obtain ⟨-, hfailures, -⟩ := s.activate_frame reason activatedBy
    simp only [failureHandler, hfailures]
  | deactivate deactivatedBy =>
    obtain ⟨hfailures, -⟩ := s.deactivate_frame deactivatedBy
    simp only [failureHandler, hfailures]
  | _ => rfl

theorem rollbacks_frame {id : String} (hid : op.rollbackId? ≠ some id) :
    (failureHandler op s).2.rollbacks.lookup id = s.rollbacks.lookup id := by
  have hne : ∀ rollbackId, some rollbackId ≠ some id → rollbackId ≠ id := by
    rintro rollbackId hne rfl
    exact hne rfl
  cases op with
  | insertRollback rollback => exact AList.lookup_insert_ne (hne _ hid).symm
  | startRollback rollbackId | completeRollback rollbackId => exact lookup_setRollbackStatus_of_ne (hne _ hid)
  | activate reason activatedBy =>
    obtain ⟨-, -, hrollbacks, -⟩ := s.activate_frame reason activatedBy
    simp only [failureHandler, hrollbacks]
  | deactivate deactivatedBy =>
    obtain ⟨-, hrollbacks, -⟩ := s.deactivate_frame deactivatedBy
    simp only [failureHandler, hrollbacks]
  | _ => rfl

theorem rollbacksExecuted_frame (hop : op ≠ .countRollback) :
    (failureHandler op s).2.stats.rollbacksExecuted = s.stats.rollbacksExecuted := by
  cases op with
  | countRollback => exact absurd rfl hop
  | updateFailureStats failureType =>
    show (FailureState.updateFailureStats failureType s.stats).2.rollbacksExecuted = _
    unfold FailureState.updateFailureStats
    split
    · rfl
    · dsimp only
      split <;> rfl
  | activate reason activatedBy => exact (s.activate_frame reason activatedBy).2.2.2
  | deactivate deactivatedBy =>
    obtain ⟨-, -, hstats⟩ := s.deactivate_frame deactivatedBy
    simp only [failureHandler, hstats]
  | _ => rfl

/-- A call stays the same, and touches nothing but what is its own. -/
theorem RollbackMove.own {reply : FailureI.Reply op} {stage : RollbackStage}
    {φ' : FailureCall × RollbackStage}
    (hm : RollbackMove (call, stage) op reply φ') :
    φ'.1 = call ∧ (∀ id, op.failureId? = some id → ∃ report, call = .handle report ∧ id = report.record.id) ∧
      ∀ id, op.rollbackId? = some id → ∃ report, call = .handle report ∧ id = report.rollback.id := by
  cases hm <;> simp [FailureOp.failureId?, FailureOp.rollbackId?]

/-! ### What is on record -/

/-- The failure of the report is on record, and not retried. -/
def Recorded (s : FailureState) (report : FailureReport) : Prop :=
  ∃ record, s.failures.lookup report.record.id = some record ∧ record.retryCount = 0

/-- The rollback of the report is on record. -/
def Opened (s : FailureState) (report : FailureReport) : Prop :=
  ∃ rollback, s.rollbacks.lookup report.rollback.id = some rollback ∧ rollback.bundleId = report.bundleId

/-- The rollback of the report is on record, and completed. -/
def Completed (s : FailureState) (report : FailureReport) : Prop :=
  ∃ rollback, s.rollbacks.lookup report.rollback.id = some rollback ∧
    rollback.bundleId = report.bundleId ∧ rollback.status = .completed

/-- What is on record for a call. -/
def OnRecord (s : FailureState) : FailureCall × RollbackStage → Prop
  | (.handle report, .reported) => Recorded s report
  | (.handle report, .opened) => Opened s report
  | (.handle report, .executed) | (.handle report, .counted) => Completed s report
  | (_, .escalated) => False
  | _ => True

theorem onRecord_fresh (s : FailureState) (call : FailureCall) : OnRecord s (call, .fresh) := by
  cases call <;> trivial

theorem onRecord_settled (s : FailureState) (call : FailureCall) : OnRecord s (call, .settled) := by
  cases call <;> trivial

theorem OnRecord.not_escalated {φ : FailureCall × RollbackStage} (h : OnRecord s φ) :
    φ.2 ≠ .escalated := by
  obtain ⟨call, stage⟩ := φ
  rintro ⟨⟩
  cases call <;> exact h

theorem OnRecord.frame {s' : FailureState} {φ : FailureCall × RollbackStage} (h : OnRecord s φ)
    (hfailures : ∀ report, φ.1 = .handle report →
      s'.failures.lookup report.record.id = s.failures.lookup report.record.id)
    (hrollbacks : ∀ report, φ.1 = .handle report →
      s'.rollbacks.lookup report.rollback.id = s.rollbacks.lookup report.rollback.id) : OnRecord s' φ := by
  obtain ⟨call, stage⟩ := φ
  rcases call with report | _ | _
  · have hrecorded : Recorded s' report ↔ Recorded s report := by
      rw [Recorded, Recorded, hfailures report rfl]
    have hopened : Opened s' report ↔ Opened s report := by rw [Opened, Opened, hrollbacks report rfl]
    have hcompleted : Completed s' report ↔ Completed s report := by
      rw [Completed, Completed, hrollbacks report rfl]
    cases stage with
    | fresh | settled => trivial
    | reported => exact hrecorded.mpr h
    | opened => exact hopened.mpr h
    | executed | counted => exact hcompleted.mpr h
    | escalated => exact h
  · cases stage <;> exact h
  · cases stage <;> exact h

variable {ι : Type} [DecidableEq ι] {calls : ι → FailureCall} {p : FailurePool ι}
  {φ : ι → FailureCall × RollbackStage} {i : ι}

/-- The failure that a call is about. -/
def FailureCall.report? : FailureCall → Option FailureReport
  | .handle report => some report
  | _ => none

/-- No two calls have records, or rollbacks, of one name. -/
def FreshUuids (calls : ι → FailureCall) : Prop :=
  ∀ i j, i ≠ j → ∀ report ∈ (calls i).report?, ∀ report' ∈ (calls j).report?,
    report.record.id ≠ report'.record.id ∧ report.rollback.id ≠ report'.rollback.id

omit [DecidableEq ι] in
theorem FreshUuids.ids_ne {j : ι} {report report' : FailureReport} (hfresh : FreshUuids calls)
    (hij : i ≠ j)
    (hi : calls i = .handle report) (hj : calls j = .handle report') :
    report.record.id ≠ report'.record.id ∧ report.rollback.id ≠ report'.rollback.id :=
  hfresh i j hij report (hi ▸ rfl) report' (hj ▸ rfl)

/-- If the step retries, the failure is no eviction from the mempool. -/
def NoEvictionRetried (calls : ι → FailureCall) (p : FailurePool ι) (i : ι) : Prop :=
  match calls i, (p.tasks i).next? with
  | .handle report, some (.countRetry _ _) => report.failureType.typeKey ≠ "MempoolEviction"
  | _, _ => True

/-- What the calls have on record, and how many have counted a rollback. -/
structure RollbacksKept (calls : ι → FailureCall) (p : FailurePool ι)
    (φ : ι → FailureCall × RollbackStage) :
    Prop where
  /-- Each phase is of its call. -/
  fits : ∀ i, (φ i).1 = calls i
  /-- Each call has on record what it should. -/
  onRecord : ∀ i, OnRecord p.shared (φ i)
  /-- As many rollbacks are counted as calls have counted theirs. -/
  counted : ∃ returned : Finset ι, (∀ i, i ∈ returned ↔ (φ i).2 = .counted) ∧
    p.shared.stats.rollbacksExecuted.toNat = returned.card

/-- After a move of one call, the others have on record what they had. -/
theorem RollbacksKept.onRecord_after (hI : RollbacksKept calls p φ) (hfresh : FreshUuids calls)
    {k : FailureI.Reply op → FailureM (Option FailureResolution)} {reply : FailureI.Reply op}
    {φ' : FailureCall × RollbackStage} (hm : RollbackMove (φ i) op reply φ')
    (hφ' : OnRecord (failureHandler op p.shared).2 φ') (j : ι) :
    OnRecord (p.after failureHandler i op k).shared (Function.update φ i φ' j) := by
  obtain ⟨-, hfailures, hrollbacks⟩ := hm.own
  by_cases hji : j = i
  · subst hji
    rw [Function.update_self]
    exact hφ'
  rw [Function.update_of_ne hji, Pool.after_shared]
  refine (hI.onRecord j).frame (fun report hreport => failures_frame fun hid => ?_)
    fun report hreport => rollbacks_frame fun hid => ?_
  · obtain ⟨report', hreport', hid'⟩ := hfailures _ hid
    exact (hfresh.ids_ne hji (hI.fits j ▸ hreport) (hI.fits i ▸ hreport')).1 hid'
  · obtain ⟨report', hreport', hid'⟩ := hrollbacks _ hid
    exact (hfresh.ids_ne hji (hI.fits j ▸ hreport) (hI.fits i ▸ hreport')).2 hid'

/-- There are more attempts than one, unless it is an eviction. -/
theorem one_lt_maxAttempts {failureType : FailureType} {delay : ℕ} {maxAttempts : BitVec 32}
    (hstrategy : determineResolutionStrategy failureType = .retry delay maxAttempts)
    (hkey : failureType.typeKey ≠ "MempoolEviction") : 1 < maxAttempts := by
  cases failureType with
  | mempoolEviction reason => exact absurd rfl hkey
  | _ => cases hstrategy <;> decide

/-- The attempts of a failure that is not retried yet are used up only if there is one. -/
theorem countRetry_of_recorded {maxAttempts : BitVec 32} (h : Recorded s report)
    (hmax : 1 < maxAttempts) :
    (FailureState.countRetry report.record.id maxAttempts s.failures).1 = .ok false := by
  obtain ⟨record, hlookup, hcount⟩ := h
  have hfirst : Uint.add (0 : BitVec 32) 1 = .ok 1 := rfl
  simp only [FailureState.countRetry, hlookup, hcount, hfirst]
  rw [if_neg (BitVec.not_le.mpr hmax)]

theorem setRollbackStatus_of_opened (h : Opened s report) (status : RollbackStatus) :
    (FailureState.setRollbackStatus report.rollback.id status s.rollbacks).1 = .ok () ∧
      ∃ rollback, (FailureState.setRollbackStatus report.rollback.id status s.rollbacks).2.lookup
          report.rollback.id = some rollback ∧
        rollback.bundleId = report.bundleId ∧ rollback.status = status := by
  obtain ⟨rollback, hlookup, hbundle⟩ := h
  simp only [FailureState.setRollbackStatus, hlookup]
  exact ⟨trivial, _, AList.lookup_insert _, hbundle, rfl⟩

/-- **A call has on record what it should** after a move, unless it retries an eviction. -/
theorem RollbackMove.onRecord {φ φ' : FailureCall × RollbackStage}
    (hm : RollbackMove φ op (failureHandler op s).1 φ') (h : OnRecord s φ)
    (hretry : ∀ report failureId maxAttempts, φ.1 = .handle report → op = .countRetry failureId maxAttempts →
      report.failureType.typeKey ≠ "MempoolEviction") : OnRecord (failureHandler op s).2 φ' := by
  generalize hreply : (failureHandler op s).1 = reply at hm
  cases hm with
  | check | activate | deactivate => exact onRecord_fresh _ _
  | delay => exact onRecord_settled _ _
  | report => exact ⟨_, AList.lookup_insert _, rfl⟩
  | count => exact h
  | retry | lose | abort => trivial
  | escalate hstrategy =>
    have hmax := one_lt_maxAttempts hstrategy (hretry _ _ _ rfl rfl)
    have hfalse := countRetry_of_recorded h hmax
    exact absurd (hreply.symm.trans hfalse) (by simp)
  | openRollback => exact ⟨_, AList.lookup_insert _, rfl⟩
  | start =>
    obtain ⟨-, rollback, hlookup, hbundle, -⟩ := setRollbackStatus_of_opened h .inProgress
    exact ⟨rollback, hlookup, hbundle⟩
  | complete => exact (setRollbackStatus_of_opened h .completed).2
  | incomplete =>
    have hok := (setRollbackStatus_of_opened h .completed).1
    exact absurd (hreply.symm.trans hok) (by simp)
  | countRollback | overflow => exact h

/-! ### How many are counted -/

/-- Only to count its rollback makes a call one that has counted it. -/
theorem RollbackMove.counted_iff {φ φ' : FailureCall × RollbackStage} {reply : FailureI.Reply op}
    (hm : RollbackMove φ op reply φ') (hop : op ≠ .countRollback) : φ'.2 = .counted ↔ φ.2 = .counted := by
  cases hm with
  | countRollback | overflow => exact absurd rfl hop
  | check | activate | deactivate | delay => exact Iff.rfl
  | _ => exact iff_of_false nofun nofun

/-- A call that has counted its rollback asks for nothing more. -/
theorem RollbackMove.not_counted {φ φ' : FailureCall × RollbackStage} {reply : FailureI.Reply op}
    (hm : RollbackMove φ op reply φ') : φ.2 ≠ .counted := by
  cases hm <;> nofun

theorem countRollback_cases (stats : FailureStats) :
    ((FailureState.countRollback stats).1 = .ok () ∧
      (FailureState.countRollback stats).2.rollbacksExecuted.toNat = stats.rollbacksExecuted.toNat + 1) ∨
    ∃ e, FailureState.countRollback stats = (.error e, stats) := by
  have hone : (1 : U64).toNat = 1 := rfl
  by_cases hlt : stats.rollbacksExecuted.toNat + 1 < 2 ^ 64
  · left
    simp only [FailureState.countRollback, Uint.add, hone, if_pos hlt]
    exact ⟨trivial, by rw [BitVec.toNat_add_of_lt (by omega), hone]⟩
  · right
    simp only [FailureState.countRollback, Uint.add, hone, if_neg hlt]
    exact ⟨_, rfl⟩

/-- **As many rollbacks are counted as calls have counted theirs**, after a move as before. -/
theorem RollbacksKept.counted_after (hI : RollbacksKept calls p φ)
    {k : FailureI.Reply op → FailureM (Option FailureResolution)} {φ' : FailureCall × RollbackStage}
    (hm : RollbackMove (φ i) op (failureHandler op p.shared).1 φ') :
    ∃ returned : Finset ι, (∀ j, j ∈ returned ↔ (Function.update φ i φ' j).2 = .counted) ∧
      (p.after failureHandler i op k).shared.stats.rollbacksExecuted.toNat = returned.card := by
  obtain ⟨returned, hreturned, hcard⟩ := hI.counted
  -- Nothing is counted.
  have hsame : (φ'.2 = .counted ↔ (φ i).2 = .counted) →
      (failureHandler op p.shared).2.stats.rollbacksExecuted = p.shared.stats.rollbacksExecuted →
      ∃ returned : Finset ι, (∀ j, j ∈ returned ↔ (Function.update φ i φ' j).2 = .counted) ∧
        (p.after failureHandler i op k).shared.stats.rollbacksExecuted.toNat = returned.card := by
    intro hstage hstats
    refine ⟨returned, fun j => ?_, by rw [Pool.after_shared, hstats, hcard]⟩
    by_cases hji : j = i
    · subst hji
      rw [Function.update_self, hstage]
      exact hreturned j
    · rw [Function.update_of_ne hji]
      exact hreturned j
  by_cases hop : op = .countRollback
  · subst hop
    have hcases := countRollback_cases p.shared.stats
    generalize hφ : φ i = φi at hm hsame
    generalize hreply : (failureHandler .countRollback p.shared).1 = reply at hm
    cases hm with
    | countRollback =>
      -- The call is one more.
      rcases hcases with ⟨-, hcount⟩ | ⟨e, he⟩
      · have hnew : i ∉ returned := by
          rw [hreturned, hφ]
          nofun
        refine ⟨insert i returned, fun j => ?_, ?_⟩
        · by_cases hji : j = i
          · subst hji
            rw [Function.update_self]
            exact iff_of_true (Finset.mem_insert_self j returned) rfl
          · rw [Function.update_of_ne hji, Finset.mem_insert, or_iff_right hji]
            exact hreturned j
        · rw [Finset.card_insert_of_notMem hnew, ← hcard]
          exact hcount
      · exact absurd ((congrArg Prod.fst he).symm.trans hreply) nofun
    | overflow =>
      rcases hcases with ⟨hok, -⟩ | ⟨e, he⟩
      · exact absurd (hok.symm.trans hreply) nofun
      · exact hsame Iff.rfl (congrArg (fun x => x.2.rollbacksExecuted) he)
  · exact hsame (hm.counted_iff hop) (rollbacksExecuted_frame hop)

/-! ### The runs -/

/-- **Reported rollbacks happened.** -/
structure RollbacksHappened (calls : ι → FailureCall) (p : FailurePool ι) : Prop where
  /-- A call that returns a rollback has one of its bundle on record that is completed. -/
  completed : ∀ i report, calls i = .handle report → p.tasks i = .done (.ok (some .rollback)) →
    Completed p.shared report
  /-- As many rollbacks are counted as calls have returned one. -/
  counted : ∃ returned : Finset ι, (∀ i, i ∈ returned ↔ p.tasks i = .done (.ok (some .rollback))) ∧
    p.shared.stats.rollbacksExecuted.toNat = returned.card

omit [DecidableEq ι] in
/-- A call has returned a rollback just when it has counted one. -/
theorem RollbacksKept.returned_iff (hI : RollbacksKept calls p φ)
    (hφ : rollbackProtocol.Follows ReturnsRollback (φ i) (p.tasks i)) :
    p.tasks i = .done (.ok (some .rollback)) ↔ (φ i).2 = .counted := by
  rcases htask : p.tasks i with r | ⟨op, k⟩
  · rw [htask] at hφ
    rw [← hφ (hI.onRecord i).not_escalated, Async.done.injEq]
  · refine iff_of_false nofun fun hstage => ?_
    rw [htask] at hφ
    obtain ⟨φ', hm, -⟩ := hφ (failureHandler op p.shared).1 trivial
    exact hm.not_counted hstage

/-- **Every rollback that is reported happened**, in any run of calls with fresh `uuid`s in
which no eviction is retried. -/
theorem rollbacks_happened (hfresh : FreshUuids calls)
    (hr : Pool.Reach failureHandler (NoEvictionRetried calls)
      (.start .new fun i => (calls i).task config) p) : RollbacksHappened calls p := by
  have hstart : RollbacksKept calls (.start .new fun i => (calls i).task config) fun i => (calls i, .fresh) := by
    refine ⟨fun i => rfl, fun i => onRecord_fresh _ _, ∅, fun i => ?_, rfl⟩
    exact iff_of_false (Finset.notMem_empty i) nofun
  obtain ⟨φ, hI, hφ⟩ := Protocol.exists_phases hr (fun i => (calls i).follows config) (RollbacksKept calls) hstart
    (fun _ _ _ _ => trivial) (by
      intro p φ i op k φ' hI hG hi hm
      have hretry : ∀ report failureId maxAttempts, (φ i).1 = .handle report →
          op = .countRetry failureId maxAttempts → report.failureType.typeKey ≠ "MempoolEviction" := by
        rintro report failureId maxAttempts hreport rfl
        rw [NoEvictionRetried, hi, ← hI.fits i, hreport] at hG
        exact hG
      refine ⟨?_, hI.onRecord_after hfresh hm (hm.onRecord (hI.onRecord i) hretry), hI.counted_after hm⟩
      rw [Function.forall_update_iff φ fun j φ => φ.1 = calls j, hm.own.1]
      exact ⟨hI.fits i, fun j _ => hI.fits j⟩)
  constructor
  · intro i report hcall hdone
    have hstage := (hI.returned_iff (hφ i)).mp hdone
    have hrecord := hI.onRecord i
    have hfits := hI.fits i
    rw [hcall] at hfits
    generalize φ i = φi at hstage hrecord hfits
    obtain ⟨call, stage⟩ := φi
    cases hstage
    cases hfits
    exact hrecord
  · obtain ⟨returned, hreturned, hcard⟩ := hI.counted
    exact ⟨returned, fun i => (hreturned i).trans (hI.returned_iff (hφ i)).symm, hcard⟩

/-- **A call about an eviction**, with the kill switch off, returns a rollback, and neither
records nor counts one. -/
theorem eviction_run {reason : String} (hoff : s.killSwitch.activated = false) (hs : StatsSound s.stats)
    (hroom : s.stats.totalFailures.toNat + 1 < 2 ^ 64) (htype : report.failureType = .mempoolEviction reason) :
    ((handleFailure config report).run failureHandler s).1 = .ok .rollback ∧
      ((handleFailure config report).run failureHandler s).2.rollbacks = s.rollbacks ∧
      ((handleFailure config report).run failureHandler s).2.stats.rollbacksExecuted =
        s.stats.rollbacksExecuted := by
  have hstrategy : determineResolutionStrategy report.failureType = .retry (10 * 10 ^ 9) 1 := by
    rw [htype]
    rfl
  refine ⟨handleFailure_retry_run hoff hs hroom hstrategy, ?_⟩
  obtain ⟨stats, hstats, -⟩ := (updateFailureStats_run report.failureType hs).1 hroom
  have hcounted : stats.rollbacksExecuted = s.stats.rollbacksExecuted := by
    have hframe : (failureHandler (.updateFailureStats report.failureType) s).2.stats.rollbacksExecuted =
        s.stats.rollbacksExecuted := rollbacksExecuted_frame nofun
    rw [← hframe]
    exact congrArg (fun x => x.2.rollbacksExecuted) hstats.symm
  rw [handleFailure_run hoff, hstats]
  -- To retry touches neither.
  have hview := (handleRetry_within report.record.id (10 * 10 ^ 9) 1).view_run
    (fun s => (s.rollbacks, s.stats.rollbacksExecuted)) (h := failureHandler) (by
      intro op s hop
      cases op with
      | countRetry | retryDelay => rfl
      | _ => exact hop.elim) (report.recorded stats s)
  dsimp only
  rw [FailureReport.resolve, hstrategy]
  exact ⟨congrArg Prod.fst hview, (congrArg Prod.snd hview).trans hcounted⟩

/-- A call about a failure, with the given `uuid`s. -/
def FailureCall.sample (failureType : FailureType) (uuid : String) : FailureCall :=
  .handle ⟨"test_bundle", failureType, uuid, uuid⟩

instance (calls : ι → FailureCall) (p : FailurePool ι) (i : ι) :
    Decidable (NoEvictionRetried calls p i) := by
  unfold NoEvictionRetried
  split <;> infer_instance

/-- Two calls, about a reorganisation and a revert. -/
def rollbackCalls : Fin 2 → FailureCall
  | 0 => .sample (.reorg 1000 1001) "0"
  | 1 => .sample (.contractRevert "revert") "1"

/-- Both are rolled back. -/
theorem both_rollbacks_happened :
    RollbacksHappened rollbackCalls (Pool.runSchedule failureHandler [0, 1, 0, 1, 0, 1, 0, 1, 0, 1, 0, 1, 0, 1]
      (.start .new fun i => (rollbackCalls i).task .default)) :=
  rollbacks_happened (by unfold FreshUuids; decide) (Pool.reach_of_admits (by decide))

/-- A call about an eviction, by itself. -/
def evictionCall (_ : Fin 1) : FailureCall := .sample (.mempoolEviction "evicted") "0"

/-- Its run. -/
def evictionRun : FailurePool (Fin 1) :=
  .runSchedule failureHandler [0, 0, 0, 0] (.start .new fun i => (evictionCall i).task .default)

/-- **An eviction is rolled back in name only**: the call returns a rollback, none is on
record, and none is counted. -/
theorem eviction_rolled_back_in_name_only :
    ∃ p, Pool.Reach failureHandler Pool.AnyStep (.start .new fun i => (evictionCall i).task .default) p ∧
      (p.tasks 0).result? = some (.ok (some .rollback)) ∧ Table.size p.shared.rollbacks = 0 ∧
      p.shared.stats.rollbacksExecuted = 0 ∧ ¬ RollbacksHappened evictionCall p := by
  have hresult : (evictionRun.tasks 0).result? = some (.ok (some .rollback)) := by decide
  have hcounted : evictionRun.shared.stats.rollbacksExecuted = 0 := by decide
  refine ⟨evictionRun, Pool.reach_runSchedule _ _, hresult, by decide, hcounted, ?_⟩
  rintro ⟨-, returned, hreturned, hcard⟩
  have hmem : 0 ∈ returned := (hreturned 0).mpr (Async.result?_eq_some_iff.mp hresult)
  have hpos : 0 < returned.card := Finset.card_pos.mpr ⟨0, hmem⟩
  rw [← hcard, hcounted] at hpos
  exact absurd hpos (by decide)

end Botmev.Bundles
