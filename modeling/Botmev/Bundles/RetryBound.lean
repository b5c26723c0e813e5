import Botmev.Bundles.FailureHandler

/-!
# The number of retries

Each call of `handle_failure` makes a record of its own, and counts its retries there: the
count is one in every call. So a call whose strategy allows one attempt always escalates,
and one whose strategy allows more is always to be retried.

## What is proved

* `handleFailure_retry_run`: what a call comes to whose strategy is to retry.
* `retries_bounded_iff`: calls one after another for a bundle and a type of failure are to
  be retried at most as often as the strategy says just when that is once, or there are
  no more calls than that.
* `nonce_collision_retried_four_times`: four calls, all of which are to be retried.
-/

namespace Botmev.Bundles

open Botmev.Rust Botmev.Library

variable {config : FailureConfig} {failureType : FailureType} {delay : ℕ} {maxAttempts : BitVec 32}
  {s : FailureState} {stats : FailureStats}

/-! ### One call -/

theorem strategy_eq_of_typeKey {failureType' : FailureType}
    (h : failureType.typeKey = failureType'.typeKey) :
    determineResolutionStrategy failureType = determineResolutionStrategy failureType' := by
  cases failureType <;> cases failureType' <;> first | rfl | simp [FailureType.typeKey] at h

theorem strategy_ne_killSwitch (failureType : FailureType) :
    determineResolutionStrategy failureType ≠ .killSwitch := by
  cases failureType <;> nofun

theorem maxAttempts_pos (h : determineResolutionStrategy failureType = .retry delay maxAttempts) :
    0 < maxAttempts.toNat := by
  cases failureType <;> cases h <;> decide

/-- No type of failure is counted more often than all of them. -/
def StatsSound (stats : FailureStats) : Prop :=
  ∀ key, ((stats.failuresByType.lookup key).getD 0).toNat ≤ stats.totalFailures.toNat

theorem updateFailureStats_run (failureType : FailureType) (hs : StatsSound stats) :
    (stats.totalFailures.toNat + 1 < 2 ^ 64 → ∃ stats',
      FailureState.updateFailureStats failureType stats = (.ok (), stats') ∧
        stats'.totalFailures.toNat = stats.totalFailures.toNat + 1 ∧ StatsSound stats') ∧
    (¬ stats.totalFailures.toNat + 1 < 2 ^ 64 → ∃ e,
      FailureState.updateFailureStats failureType stats = (.error e, stats)) := by
  have hone : (1 : U64).toNat = 1 := rfl
  have hcount := hs failureType.typeKey
  constructor
  · intro hlt
    have htotal : (stats.totalFailures + 1).toNat = stats.totalFailures.toNat + 1 := by
      rw [BitVec.toNat_add_of_lt (by omega), hone]
    have hcounted : (((stats.failuresByType.lookup failureType.typeKey).getD 0) + 1).toNat =
        ((stats.failuresByType.lookup failureType.typeKey).getD 0).toNat + 1 := by
      rw [BitVec.toNat_add_of_lt (by omega), hone]
    refine ⟨{ stats with
      totalFailures := stats.totalFailures + 1
      failuresByType := stats.failuresByType.insert failureType.typeKey
        ((stats.failuresByType.lookup failureType.typeKey).getD 0 + 1) }, ?_, htotal, ?_⟩
    · simp only [FailureState.updateFailureStats, Uint.add, hone, if_pos hlt]
      rw [if_pos (by omega)]
    · intro key
      show BitVec.toNat ((AList.lookup key (AList.insert _ _ stats.failuresByType)).getD 0) ≤ _
      by_cases hkey : key = failureType.typeKey
      · subst hkey
        rw [AList.lookup_insert, Option.getD_some, hcounted, htotal]
        omega
      · rw [AList.lookup_insert_ne hkey, htotal]
        exact Nat.le_succ_of_le (hs key)
  · intro hge
    refine ⟨.panic "attempt to add with overflow", ?_⟩
    simp only [FailureState.updateFailureStats, Uint.add, hone, if_neg hge]

variable {report : FailureReport}

/-- The state once the failure is recorded and counted. -/
def FailureReport.recorded (report : FailureReport) (stats : FailureStats) (s : FailureState) :
    FailureState :=
  { s with failures := s.failures.insert report.record.id report.record, stats := stats }

/-- What is left to do then. -/
def FailureReport.resolve (config : FailureConfig) (report : FailureReport) :
    FailureM FailureResolution :=
  Bundles.resolve config report.bundleId report.record.id report.rollbackUuid
    (determineResolutionStrategy report.failureType)

theorem handleFailure_run (hoff : s.killSwitch.activated = false) :
    (handleFailure config report).run failureHandler s =
      match FailureState.updateFailureStats report.failureType s.stats with
      | (.error e, stats) => (.error e, report.recorded stats s)
      | (.ok (), stats) => (report.resolve config).run failureHandler (report.recorded stats s) := by
  rw [handleFailure, Async.run_request_bind]
  show Async.run _ (if s.killSwitch.activated then _ else _) s = _
  rw [hoff, if_neg Bool.false_ne_true]
  show Async.run _ (liftM (FailureState.updateFailureStats report.failureType s.stats).1 >>= _)
    (report.recorded (FailureState.updateFailureStats report.failureType s.stats).2 s) = _
  rcases FailureState.updateFailureStats report.failureType s.stats with ⟨e | ⟨⟩, stats⟩
  · rfl
  · rfl

theorem countRetry_recorded (report : FailureReport) (stats : FailureStats) (s : FailureState)
    (hpos : 0 < maxAttempts.toNat) :
    (FailureState.countRetry report.record.id maxAttempts (report.recorded stats s).failures).1 =
      .ok (decide (maxAttempts.toNat = 1)) := by
  have hlookup : (report.recorded stats s).failures.lookup report.record.id = some report.record :=
    AList.lookup_insert _
  have hone : (1 : BitVec 32).toNat = 1 := rfl
  have hfirst : Uint.add report.record.retryCount 1 = .ok 1 := rfl
  simp only [FailureState.countRetry, hlookup, hfirst]
  by_cases hmax : maxAttempts.toNat = 1
  · rw [if_pos (BitVec.le_def.mpr (by omega)), decide_eq_true hmax]
  · rw [if_neg (fun hle => hmax (by have := BitVec.le_def.mp hle; omega)), decide_eq_false hmax]

theorem handleRetry_run (hstrategy : determineResolutionStrategy report.failureType = .retry delay maxAttempts) :
    ((report.resolve config).run failureHandler (report.recorded stats s)).1 =
      .ok (if maxAttempts.toNat = 1 then .rollback else .retry delay maxAttempts) := by
  have hcount := countRetry_recorded report stats s (maxAttempts_pos hstrategy)
  rw [FailureReport.resolve, hstrategy]
  show (Async.run _ (liftM (FailureState.countRetry _ _ _).1 >>= _) _).1 = _
  rw [hcount]
  by_cases hmax : maxAttempts.toNat = 1
  · rw [if_pos hmax, decide_eq_true hmax]
    rfl
  · rw [if_neg hmax, decide_eq_false hmax]
    rfl

/-- **A call whose strategy is to retry**, with the kill switch off and room to count it. -/
theorem handleFailure_retry_run (hoff : s.killSwitch.activated = false) (hs : StatsSound s.stats)
    (hroom : s.stats.totalFailures.toNat + 1 < 2 ^ 64)
    (hstrategy : determineResolutionStrategy report.failureType = .retry delay maxAttempts) :
    ((handleFailure config report).run failureHandler s).1 =
      .ok (if maxAttempts.toNat = 1 then .rollback else .retry delay maxAttempts) := by
  obtain ⟨stats, hstats, -⟩ := (updateFailureStats_run report.failureType hs).1 hroom
  rw [handleFailure_run hoff, hstats]
  exact handleRetry_run hstrategy

/-! ### What a call leaves -/

/-- To resolve a failure counts none, and leaves the kill switch. -/
theorem resolve_frame (config : FailureConfig) (report : FailureReport) (s : FailureState) :
    ((report.resolve config).run failureHandler s).2.killSwitch = s.killSwitch ∧
      ((report.resolve config).run failureHandler s).2.stats.totalFailures = s.stats.totalFailures ∧
      ((report.resolve config).run failureHandler s).2.stats.failuresByType = s.stats.failuresByType := by
  have hview := (resolve_within config report.bundleId report.record.id report.rollbackUuid
      report.failureType).view_run (h := failureHandler)
    (fun s => (s.killSwitch, s.stats.totalFailures, s.stats.failuresByType)) (by
      intro op s hop
      cases op with
      | isKillSwitchActivated | insertFailure | updateFailureStats | activate | deactivate => exact hop.elim
      | countRetry | retryDelay | abortFailure | insertRollback | startRollback | completeRollback => rfl
      | countRollback =>
        simp only [failureHandler, FailureState.countRollback]
        rcases Uint.add s.stats.rollbacksExecuted 1 with e | n <;> rfl) s
  simp only [Prod.mk.injEq] at hview
  exact hview

/-- A call with the kill switch off counts one failure, unless the count is full. -/
theorem handleFailure_frame (config : FailureConfig) (report : FailureReport)
    (hoff : s.killSwitch.activated = false) (hs : StatsSound s.stats) :
    ((handleFailure config report).run failureHandler s).2.killSwitch.activated = false ∧
      StatsSound ((handleFailure config report).run failureHandler s).2.stats ∧
      ((handleFailure config report).run failureHandler s).2.stats.totalFailures.toNat =
        min (s.stats.totalFailures.toNat + 1) (2 ^ 64 - 1) := by
  rw [handleFailure_run hoff]
  by_cases hroom : s.stats.totalFailures.toNat + 1 < 2 ^ 64
  · obtain ⟨stats, hstats, htotal, hsound⟩ := (updateFailureStats_run report.failureType hs).1 hroom
    rw [hstats]
    obtain ⟨hswitch, htotal', hbyType⟩ := resolve_frame config report (report.recorded stats s)
    refine ⟨by rw [hswitch]; exact hoff, ?_, ?_⟩
    · unfold StatsSound
      rw [htotal', hbyType]
      exact hsound
    · rw [htotal']
      show stats.totalFailures.toNat = _
      omega
  · obtain ⟨e, hstats⟩ := (updateFailureStats_run report.failureType hs).2 hroom
    rw [hstats]
    refine ⟨hoff, hs, ?_⟩
    have hlt := s.stats.totalFailures.isLt
    show s.stats.totalFailures.toNat = _
    omega

/-! ### One call after another -/

variable (config) in
/-- What the calls return, one after another. -/
def resolutions : List FailureReport → FailureState → List (FailureReport × Result FailureResolution)
  | [], _ => []
  | report :: reports, s =>
    (report, ((handleFailure config report).run failureHandler s).1) ::
      resolutions reports ((handleFailure config report).run failureHandler s).2

/-- The report is about the bundle, and a failure of the type. -/
def FailureReport.isAbout (bundleId : String) (failureType : FailureType) (report : FailureReport) :
    Bool :=
  report.bundleId == bundleId && report.failureType.typeKey == failureType.typeKey

/-- The operation is to be retried. -/
def isRetry : Result FailureResolution → Bool
  | .ok (.retry _ _) => true
  | _ => false

variable (config) in
/-- What the calls about the bundle and the type return. -/
def resolutionsAbout (bundleId : String) (failureType : FailureType) (reports : List FailureReport)
    (s : FailureState) : List (Result FailureResolution) :=
  ((resolutions config reports s).filter fun x => x.1.isAbout bundleId failureType).map Prod.snd

/-- How often the operation is to be retried before it is to be rolled back. -/
def retriesBeforeRollback (results : List (Result FailureResolution)) : ℕ :=
  (results.takeWhile fun r => r ≠ .ok .rollback).countP isRetry

variable {bundleId : String} {reports : List FailureReport}

/-- A call about the type, with the kill switch off: it comes to what its strategy says, or the
count is full. -/
theorem handleFailure_about_run (config : FailureConfig) (hoff : s.killSwitch.activated = false)
    (hs : StatsSound s.stats)
    (hstrategy : determineResolutionStrategy failureType = .retry delay maxAttempts)
    (habout : report.isAbout bundleId failureType = true) :
    (s.stats.totalFailures.toNat + 1 < 2 ^ 64 → ((handleFailure config report).run failureHandler s).1 =
        .ok (if maxAttempts.toNat = 1 then .rollback else .retry delay maxAttempts)) ∧
    (¬ s.stats.totalFailures.toNat + 1 < 2 ^ 64 → ∃ e,
      ((handleFailure config report).run failureHandler s).1 = .error e) := by
  rw [FailureReport.isAbout, Bool.and_eq_true, beq_iff_eq, beq_iff_eq] at habout
  constructor
  · intro hroom
    exact handleFailure_retry_run hoff hs hroom (strategy_eq_of_typeKey habout.2 ▸ hstrategy)
  · intro hfull
    obtain ⟨e, hstats⟩ := (updateFailureStats_run report.failureType hs).2 hfull
    exact ⟨e, by rw [handleFailure_run hoff, hstats]⟩

theorem resolutionsAbout_cons (bundleId : String) (failureType : FailureType) (report : FailureReport)
    (reports : List FailureReport) (s : FailureState) :
    resolutionsAbout config bundleId failureType (report :: reports) s =
      if report.isAbout bundleId failureType then
        ((handleFailure config report).run failureHandler s).1 ::
          resolutionsAbout config bundleId failureType reports ((handleFailure config report).run failureHandler s).2
      else resolutionsAbout config bundleId failureType reports ((handleFailure config report).run failureHandler s).2 := by
  rw [resolutionsAbout, resolutions, List.filter_cons]
  split <;> rfl

theorem retriesBeforeRollback_cons {r : Result FailureResolution} (hr : r ≠ .ok .rollback)
    (results : List (Result FailureResolution)) :
    retriesBeforeRollback (r :: results) = retriesBeforeRollback results + if isRetry r then 1 else 0 := by
  rw [retriesBeforeRollback, List.takeWhile_cons, if_pos (decide_eq_true hr), List.countP_cons]
  rfl

/-- Where there is one attempt, no operation is to be retried. -/
theorem retries_of_one_attempt (hoff : s.killSwitch.activated = false) (hs : StatsSound s.stats)
    (hstrategy : determineResolutionStrategy failureType = .retry delay maxAttempts)
    (hone : maxAttempts.toNat = 1) :
    retriesBeforeRollback (resolutionsAbout config bundleId failureType reports s) = 0 := by
  induction reports generalizing s with
  | nil => rfl
  | cons report reports ih =>
    obtain ⟨hoff', hs', -⟩ := handleFailure_frame config report hoff hs
    rw [resolutionsAbout_cons]
    split
    · rename_i habout
      obtain ⟨hroom, hfull⟩ := handleFailure_about_run config hoff hs hstrategy habout
      by_cases hlt : s.stats.totalFailures.toNat + 1 < 2 ^ 64
      · rw [hroom hlt, if_pos hone]
        rfl
      · obtain ⟨e, he⟩ := hfull hlt
        rw [he, retriesBeforeRollback_cons (by simp), ih hoff' hs']
        rfl
    · exact ih hoff' hs'

/-- Where there are more, every call that is counted is to be retried. -/
theorem retries_of_more_attempts (hoff : s.killSwitch.activated = false) (hs : StatsSound s.stats)
    (hstrategy : determineResolutionStrategy failureType = .retry delay maxAttempts)
    (hmore : maxAttempts.toNat ≠ 1) :
    retriesBeforeRollback (resolutionsAbout config bundleId failureType reports s) =
      ((reports.take (2 ^ 64 - 1 - s.stats.totalFailures.toNat)).filter
        (FailureReport.isAbout bundleId failureType)).length := by
  induction reports generalizing s with
  | nil => simp [resolutionsAbout, resolutions, retriesBeforeRollback]
  | cons report reports ih =>
    obtain ⟨hoff', hs', htotal⟩ := handleFailure_frame config report hoff hs
    have ih := ih hoff' hs'
    rw [htotal] at ih
    rw [resolutionsAbout_cons]
    by_cases hlt : s.stats.totalFailures.toNat + 1 < 2 ^ 64
    · -- The call is counted.
      have htake : 2 ^ 64 - 1 - s.stats.totalFailures.toNat =
          2 ^ 64 - 1 - min (s.stats.totalFailures.toNat + 1) (2 ^ 64 - 1) + 1 := by omega
      rw [htake, List.take_succ_cons, List.filter_cons]
      split
      · rename_i habout
        rw [(handleFailure_about_run config hoff hs hstrategy habout).1 hlt, if_neg hmore,
          retriesBeforeRollback_cons (by simp), ih]
        rfl
      · exact ih
    · -- It is not, and neither is any after it.
      have htake : 2 ^ 64 - 1 - s.stats.totalFailures.toNat = 0 := by omega
      have htake' : 2 ^ 64 - 1 - min (s.stats.totalFailures.toNat + 1) (2 ^ 64 - 1) = 0 := by omega
      rw [htake', List.take_zero] at ih
      rw [htake, List.take_zero]
      split
      · rename_i habout
        obtain ⟨e, he⟩ := (handleFailure_about_run config hoff hs hstrategy habout).2 hlt
        rw [he, retriesBeforeRollback_cons (by simp), ih]
        rfl
      · exact ih

/-- **The retries are bounded**: calls one after another, from a new handler on, for a bundle and
a type of failure whose strategy is to retry, among any others, say to retry at most as
often as there may be attempts before one says to roll back, just when that is once, or
no more of the calls that are counted are about them. -/
theorem retries_bounded_iff (config : FailureConfig) (bundleId : String) (reports : List FailureReport)
    (hstrategy : determineResolutionStrategy failureType = .retry delay maxAttempts) :
    retriesBeforeRollback (resolutionsAbout config bundleId failureType reports .new) ≤ maxAttempts.toNat ↔
      maxAttempts.toNat = 1 ∨
        ((reports.take (2 ^ 64 - 1)).filter (FailureReport.isAbout bundleId failureType)).length ≤
          maxAttempts.toNat := by
  have hs : StatsSound FailureState.new.stats := fun key => Nat.le_refl _
  by_cases hone : maxAttempts.toNat = 1
  · rw [retries_of_one_attempt rfl hs hstrategy hone]
    exact iff_of_true (Nat.zero_le _) (.inl hone)
  · rw [retries_of_more_attempts rfl hs hstrategy hone, or_iff_right hone]
    rfl

/-- A report for the examples. -/
def nonceCollision (uuid : String) : FailureReport := ⟨"test_bundle", .nonceCollision 1 2, uuid, uuid⟩

/-- Three calls, as many as there may be attempts. -/
theorem nonce_collision_retried_three_times :
    retriesBeforeRollback (resolutionsAbout .default "test_bundle" (.nonceCollision 1 2)
      [nonceCollision "0", nonceCollision "1", nonceCollision "2"] .new) ≤ 3 := by
  have hstrategy : determineResolutionStrategy (.nonceCollision 1 2) = .retry (2 * 10 ^ 9) 3 := rfl
  exact (retries_bounded_iff .default "test_bundle" [nonceCollision "0", nonceCollision "1", nonceCollision "2"]
    hstrategy).mpr (.inr (by decide))

/-- **A nonce collision is retried four times**, where there may be three attempts. -/
theorem nonce_collision_retried_four_times :
    determineResolutionStrategy (.nonceCollision 1 2) = .retry (2 * 10 ^ 9) 3 ∧
      retriesBeforeRollback (resolutionsAbout .default "test_bundle" (.nonceCollision 1 2)
        [nonceCollision "0", nonceCollision "1", nonceCollision "2", nonceCollision "3"] .new) = 4 := by
  decide

end Botmev.Bundles
