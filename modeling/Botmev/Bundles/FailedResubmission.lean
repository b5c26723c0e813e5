import Botmev.Bundles.GasCap

/-!
# Resubmissions that fail

`resubmit_with_gas_bump` counts the attempt, takes the time and stores the new gas price, all under
the lock, and only then sends the bundle. Where the node does not accept one of the transactions,
the error is returned and the entry stays as it was written.

The time of a submission, which the submitter comes without elsewhere, is part of the state here.

## What is proved

* `run_resubmit_of_rejects`: what a resubmission leaves that the node does not accept.
* `failed_resubmissions_compound`: after any number of them in a row, the gas price is bumped as
  often, though nothing was accepted at any of these prices.
* `failed_resubmission_unchanged_iff`: a resubmission that fails changes no entry, just when it is
  refused before the entry is touched, or the node accepts everything.
-/

namespace Botmev.Bundles

open Botmev.Rust Botmev.Library

variable {config : SubmissionConfig} {submissionId : String}

/-! ### The times of the submissions -/

/-- A submitter, with the times of the submissions that it tracks. -/
structure TimedSubmitter where
  /-- The submitter. -/
  submitter : SubmitterState
  /-- The `last_submission_time` of an entry. -/
  lastSubmissionTime : String → Option ℕ
  /-- What the clock will read. -/
  clock : ℕ → ℕ

/-- `last_submission_time: Instant::now()`. -/
def TimedSubmitter.stamp (s : TimedSubmitter) : Option String → TimedSubmitter
  | none => s
  | some id =>
    { s with
      lastSubmissionTime := Function.update s.lastSubmissionTime id (some (s.clock 0))
      clock := fun i => s.clock (i + 1) }

/-- The entry that an operation writes. -/
def stampedBy (config : SubmissionConfig) (s : SubmitterState) : SubmitterOp → Option String
  | .insertTracker id _ => some id
  | .bumpTracker id =>
    match newGasPrice config id (s.activeSubmissions id) with
    | .ok _ => some id
    | .error _ => none
  | _ => none

/-- What the operations do. -/
def timedHandler (config : SubmissionConfig) : Handler SubmitterI TimedSubmitter := fun op s =>
  ((submitterHandler config op s.submitter).1,
    { s.stamp (stampedBy config s.submitter op) with submitter := (submitterHandler config op s.submitter).2 })

theorem timedHandler_lifts (config : SubmissionConfig) :
    Async.Lifts (timedHandler config) (submitterHandler config) TimedSubmitter.submitter :=
  fun _ _ => ⟨rfl, rfl⟩

/-- A resubmission fails without a change to any entry. -/
def FailsUnchanged (config : SubmissionConfig) (submissionId : String) (s : TimedSubmitter) : Prop :=
  ∀ message, ((resubmitWithGasBump submissionId).run (timedHandler config) s).1 = .error (.err message) →
    ((resubmitWithGasBump submissionId).run (timedHandler config) s).2.submitter.activeSubmissions =
        s.submitter.activeSubmissions ∧
      ((resubmitWithGasBump submissionId).run (timedHandler config) s).2.lastSubmissionTime = s.lastSubmissionTime

/-- If the submission is tracked, with attempts left and a gas price that is a `u128`, the node
accepts every transaction of its bundle. -/
def AcceptedIfSent (config : SubmissionConfig) (submissionId : String) (t : SubmitterState) : Prop :=
  ∀ tracker, t.activeSubmissions submissionId = some tracker →
    tracker.submissionAttempts < config.maxResubmissions → tracker.currentGasPrice.toNat < 2 ^ 128 →
      NodeAccepts t tracker.originalBundle.allTransactions.length

/-! ### Whether it is sent -/

variable {t : SubmitterState} {tracker : SubmissionTracker} {price : U256}

theorem exists_bumpedGasPrice_iff (config : SubmissionConfig) (currentGasPrice : U256) :
    (∃ price, bumpedGasPrice config currentGasPrice = .ok price) ↔ currentGasPrice.toNat < 2 ^ 128 := by
  rw [← U256.exists_asU128_eq_ok_iff]
  constructor
  · rintro ⟨price, h⟩
    obtain ⟨narrow, hnarrow, -⟩ := bind_eq_ok_iff.mp h
    exact ⟨narrow, hnarrow⟩
  · rintro ⟨narrow, hnarrow⟩
    exact ⟨_, bind_eq_ok_iff.mpr ⟨narrow, hnarrow, rfl⟩⟩

/-- **A submission gets a new gas price** if it is tracked, with attempts left, and its price is a
`u128`. -/
theorem newGasPrice_eq_ok_iff (tracked : Option SubmissionTracker) :
    newGasPrice config submissionId tracked = .ok (tracker, price) ↔
      tracked = some tracker ∧ tracker.submissionAttempts < config.maxResubmissions ∧
        bumpedGasPrice config tracker.currentGasPrice = .ok price := by
  rcases tracked with _ | tracker'
  · exact iff_of_false (by rintro ⟨⟩) (by rintro ⟨⟨⟩, -⟩)
  by_cases hlt : tracker'.submissionAttempts < config.maxResubmissions
  · rw [newGasPrice_of_lt hlt]
    constructor
    · intro h
      rcases hbump : bumpedGasPrice config tracker'.currentGasPrice with e | price'
      · rw [hbump] at h
        cases h
      · rw [hbump] at h
        cases h
        exact ⟨rfl, hlt, hbump⟩
    · rintro ⟨⟨⟩, -, hbump⟩
      rw [hbump]
      rfl
  · rw [newGasPrice_of_not_lt hlt]
    refine iff_of_false (by rintro ⟨⟩) ?_
    rintro ⟨⟨⟩, h, -⟩
    exact hlt h

/-- **A resubmission that is refused** does nothing at all. -/
theorem run_resubmit_of_refused {s : TimedSubmitter} {e : Failure}
    (hnew : newGasPrice config submissionId (s.submitter.activeSubmissions submissionId) = .error e) :
    (resubmitWithGasBump submissionId).run (timedHandler config) s = (.error e, s) := by
  have hbump : timedHandler config (.bumpTracker submissionId) s = (.error e, s) := by
    simp only [timedHandler, stampedBy, submitterHandler, hnew, TimedSubmitter.stamp]
  rw [resubmitWithGasBump, Async.run_request_bind, hbump]
  rfl

theorem submitDirect_ends (bundle : Bundle) (id : String) :
    (submitDirect bundle id).Ends fun r => ∀ e, r = .error e → ∃ message, e = .err message := by
  have hsend : ∀ txs, (sendAll txs).Ends fun r => ∀ e, r = .error e → ∃ message, e = .err message := by
    intro txs
    induction txs with
    | nil => rintro e ⟨⟩
    | cons tx txs ih =>
      refine Async.Ends.bind (Q := fun r => ∀ e, r = .error e → ∃ message, e = .err message) ?_ ?_ ?_
      · rintro (error | ⟨_ | error, _ | result⟩) <;> rintro e ⟨⟩ <;> exact ⟨_, rfl⟩
      · rintro hash -
        refine ih.bind ?_ fun e he e' h => he e' (by cases h; rfl)
        rintro hashes - e ⟨⟩
      · rintro e he e' h
        exact he e' (by cases h; rfl)
  refine (hsend bundle.allTransactions).bind ?_ fun e he e' h => he e' (by cases h; rfl)
  rintro hashes - _ e ⟨⟩

/-- **A resubmission that the node does not accept** has changed the entry, and fails. -/
theorem run_resubmit_of_rejects
    (hnew : newGasPrice config submissionId (t.activeSubmissions submissionId) = .ok (tracker, price))
    (hreject : ¬ NodeAccepts t tracker.originalBundle.allTransactions.length) :
    ∃ message payloads, (resubmitWithGasBump submissionId).run (submitterHandler config) t =
      (.error (.err message), (t.track submissionId (tracker.bumped price)).asked payloads) := by
  have hlen := length_allTransactions_withGasPrice tracker.originalBundle price
  obtain ⟨j, hj, haccepts, hj'⟩ := (accepts_or_rejects t _).resolve_left hreject
  have hrejects := run_submitDirect_of_rejects (t := t.track submissionId (tracker.bumped price)) config
    submissionId (hlen ▸ hj) haccepts hj'
  obtain ⟨e, hrun⟩ := hrejects
  obtain ⟨message, rfl⟩ := (submitDirect_ends _ submissionId).run (submitterHandler config) _ e
    (congrArg Prod.fst hrun)
  exact ⟨message, _, (resubmit_run hnew).1.trans hrun⟩

/-- **A resubmission that the node accepts** returns. -/
theorem run_resubmit_of_accepts
    (hnew : newGasPrice config submissionId (t.activeSubmissions submissionId) = .ok (tracker, price))
    (haccepts : NodeAccepts t tracker.originalBundle.allTransactions.length) :
    ∃ result, ((resubmitWithGasBump submissionId).run (submitterHandler config) t).1 = .ok result := by
  rw [← length_allTransactions_withGasPrice tracker.originalBundle price] at haccepts
  obtain ⟨hashes, hrun⟩ := run_submitDirect_of_accepts (t := t.track submissionId (tracker.bumped price))
    config submissionId haccepts
  exact ⟨_, congrArg Prod.fst ((resubmit_run hnew).1.trans hrun)⟩

/-! ### One failure after another -/

/-- Resubmissions, one after the other. -/
def resubmitTimes (config : SubmissionConfig) (submissionId : String) : ℕ → SubmitterState → SubmitterState
  | 0, t => t
  | n + 1, t =>
    resubmitTimes config submissionId n ((resubmitWithGasBump submissionId).run (submitterHandler config) t).2

/-- **Failures compound**: while the node accepts nothing, every resubmission with attempts left
bumps the gas price that the one before it has stored. -/
theorem failed_resubmissions_compound (n : ℕ) (htracker : t.activeSubmissions submissionId = some tracker)
    (hdown : ∀ k hash, t.node k ≠ .response none (some hash))
    (hleft : tracker.submissionAttempts.toNat + n ≤ config.maxResubmissions.toNat)
    (hprice : bumpedTimes config n tracker.currentGasPrice = .ok price) :
    (resubmitTimes config submissionId n t).activeSubmissions submissionId = some
      { tracker with
        submissionAttempts := tracker.submissionAttempts + BitVec.ofNat 32 n
        currentGasPrice := price } := by
  induction n generalizing t tracker with
  | zero =>
    cases hprice
    rw [resubmitTimes, htracker, BitVec.add_zero]
  | succ n ih =>
    obtain ⟨first, hfirst, hrest⟩ := bind_eq_ok_iff.mp hprice
    have hlt : tracker.submissionAttempts < config.maxResubmissions := by
      rw [BitVec.lt_def]
      omega
    have hnew : newGasPrice config submissionId (t.activeSubmissions submissionId) = .ok (tracker, first) :=
      (newGasPrice_eq_ok_iff _).mpr ⟨htracker, hlt, hfirst⟩
    have hreject : ¬ NodeAccepts t tracker.originalBundle.allTransactions.length := by
      intro haccepts
      have hpos : 0 < tracker.originalBundle.allTransactions.length :=
        List.length_pos_of_ne_nil (by simp [Bundle.allTransactions])
      obtain ⟨hash, hhash⟩ := haccepts 0 hpos
      exact hdown 0 hash hhash
    obtain ⟨message, payloads, hrun⟩ := run_resubmit_of_rejects hnew hreject
    have hone : (1 : U32).toNat = 1 := rfl
    have hcount : (tracker.submissionAttempts + 1).toNat = tracker.submissionAttempts.toNat + 1 := by
      have hmax := config.maxResubmissions.isLt
      rw [BitVec.toNat_add_of_lt (by omega), hone]
    have hleft' : (tracker.bumped first).submissionAttempts.toNat + n ≤ config.maxResubmissions.toNat := by
      rw [SubmissionTracker.bumped, hcount]
      omega
    have hbumped : ((t.track submissionId (tracker.bumped first)).asked payloads).activeSubmissions submissionId =
        some (tracker.bumped first) := SubmitterState.activeSubmissions_track_self ..
    have hattempts : tracker.submissionAttempts + 1 + BitVec.ofNat 32 n =
        tracker.submissionAttempts + BitVec.ofNat 32 (n + 1) := by
      rw [BitVec.add_assoc, Nat.add_comm n 1, BitVec.ofNat_add]
      rfl
    rw [resubmitTimes, hrun, ih hbumped (fun k hash => hdown _ hash) hleft' hrest, ← hattempts]
    rfl

/-! ### Whether a failure changes anything -/

theorem bumped_ne (tracker : SubmissionTracker) (price : U256) : tracker.bumped price ≠ tracker := by
  intro h
  have hattempts := congrArg SubmissionTracker.submissionAttempts h
  simp [SubmissionTracker.bumped] at hattempts

/-- **A resubmission that fails changes no entry**, just when the submission is not tracked, has no
attempts left, has a gas price that is not a `u128`, or has its bundle accepted in full. -/
theorem failed_resubmission_unchanged_iff (config : SubmissionConfig) (submissionId : String)
    (s : TimedSubmitter) :
    FailsUnchanged config submissionId s ↔ AcceptedIfSent config submissionId s.submitter := by
  obtain ⟨hresult, hview⟩ := Async.run_of_lifts (timedHandler_lifts config) (resubmitWithGasBump submissionId) s
  rcases hnew : newGasPrice config submissionId (s.submitter.activeSubmissions submissionId)
    with e | ⟨tracker, price⟩
  · refine iff_of_true (fun message _ => ?_) fun tracker htracker hlt hprice => ?_
    · rw [run_resubmit_of_refused hnew]
      exact ⟨rfl, rfl⟩
    · obtain ⟨price, hbump⟩ := (exists_bumpedGasPrice_iff config _).mpr hprice
      rw [(newGasPrice_eq_ok_iff _).mpr ⟨htracker, hlt, hbump⟩] at hnew
      cases hnew
  obtain ⟨htracker, hlt, hbump⟩ := (newGasPrice_eq_ok_iff _).mp hnew
  have hprice := (exists_bumpedGasPrice_iff config _).mp ⟨price, hbump⟩
  by_cases haccepts : NodeAccepts s.submitter tracker.originalBundle.allTransactions.length
  · refine iff_of_true (fun message herror => ?_) fun tracker' htracker' _ _ => ?_
    · obtain ⟨result, hok⟩ := run_resubmit_of_accepts hnew haccepts
      rw [hresult, hok] at herror
      cases herror
    · rw [htracker] at htracker'
      cases htracker'
      exact haccepts
  · refine iff_of_false (fun h => ?_) fun h => haccepts (h tracker htracker hlt hprice)
    obtain ⟨message, payloads, hrun⟩ := run_resubmit_of_rejects hnew haccepts
    -- The entry that is left is the bumped one.
    obtain ⟨hsame, -⟩ := h message (by rw [hresult, hrun])
    rw [hview, hrun] at hsame
    have hentry := congrFun hsame submissionId
    rw [htracker] at hentry
    exact bumped_ne tracker price (Option.some.inj
      ((SubmitterState.activeSubmissions_track_self s.submitter submissionId _).symm.trans hentry))

/-- A submission that is tracked, and a node that is down. -/
def unreachableNode : TimedSubmitter where
  submitter :=
    { SubmitterState.accepting.track "sub_0" (trackerOf (sampleBundle 50000000000) ["0xaa", "0xbb"]) with
      node := fun _ => .failed "connection refused" }
  lastSubmissionTime := Function.update (fun _ => none) "sub_0" (some 0)
  clock i := 5000000000 * (i + 1)

/-- **A network failure counts**: the call returns the error, and the entry has an attempt more,
a higher gas price and a later time. -/
theorem failed_resubmission_counts :
    let after := (resubmitWithGasBump "sub_0").run (timedHandler .default) unreachableNode
    after.1 = .error (.err "connection refused") ∧
      (after.2.submitter.activeSubmissions "sub_0").map (fun t => (t.submissionAttempts, t.currentGasPrice)) =
        some (2, 220000000000) ∧
      (unreachableNode.submitter.activeSubmissions "sub_0").map
          (fun t => (t.submissionAttempts, t.currentGasPrice)) = some (1, 200000000000) ∧
      after.2.lastSubmissionTime "sub_0" = some 5000000000 ∧
        ¬ FailsUnchanged .default "sub_0" unreachableNode := by
  have herror : ((resubmitWithGasBump "sub_0").run (timedHandler .default) unreachableNode).1 =
      .error (.err "connection refused") := by decide
  have htime : ((resubmitWithGasBump "sub_0").run (timedHandler .default) unreachableNode).2.lastSubmissionTime
      "sub_0" = some 5000000000 := by decide
  refine ⟨herror, by decide +kernel, by decide, htime, fun h => ?_⟩
  have hsame := congrFun (h _ herror).2 "sub_0"
  rw [htime] at hsame
  cases hsame

end Botmev.Bundles
