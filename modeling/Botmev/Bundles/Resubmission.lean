import Botmev.Bundles.SubmitterCalls
import Mathlib.Data.Finset.Card

/-!
# The resubmission bound

A resubmission counts an attempt in the tracker, unless there are none left. Then it
sends the bundle by `submit_direct`, which stores a *new* tracker under the same id, and
the count starts again at one.

## What is proved

* `resubmission_bound`: as long as no resubmission gets all its transactions accepted, the
  count is right and the bound holds.
* `resubmission_breaks_count`: the first that does makes the count wrong.
* `fourth_resubmission_accepted`: else it is not, and it does not.
-/

namespace Botmev.Bundles

open Botmev.Rust Botmev.Library

variable {ι : Type} [DecidableEq ι] {config : SubmissionConfig} {bundle : Bundle} {submissionId : String}
variable {calls : ι → SubmitterCall} {p : SubmitterPool ι} {i : ι}

/-- The event tracks a submission, for the first time, under the id. -/
def submits (calls : ι → SubmitterCall) (submissionId : String) (event : Event SubmitterI ι) : Bool :=
  match event.op with
  | .insertTracker id _ => !(calls event.task).isResubmission && id == submissionId
  | _ => false

/-- The event lets a resubmission of the id go on. -/
def resubmits (submissionId : String) : Event SubmitterI ι → Bool
  | ⟨_, .bumpTracker id, .ok _⟩ => id == submissionId
  | _ => false

/-- How often the id was submitted or resubmitted. -/
def attempts (calls : ι → SubmitterCall) (p : SubmitterPool ι) (submissionId : String) : ℕ :=
  p.history.countP (submits calls submissionId) + p.history.countP (resubmits submissionId)

/-- No id is resubmitted successfully more often than allowed, and the tracker counts the
submission and all resubmissions. -/
def AttemptsBounded (config : SubmissionConfig) (calls : ι → SubmitterCall) (p : SubmitterPool ι) :
    Prop :=
  ∀ submissionId,
    (∀ S : Finset ι, (∀ i ∈ S, calls i = .resubmit submissionId ∧ ∃ result, p.tasks i = .done (.ok result)) →
      S.card ≤ config.maxResubmissions.toNat) ∧
    ∀ tracker, p.shared.activeSubmissions submissionId = some tracker →
      tracker.submissionAttempts.toNat = attempts calls p submissionId

/-- If the step tracks a bundle, all of whose transactions were accepted, it is not one of
a resubmission. -/
def NoneResubmitted (calls : ι → SubmitterCall) (p : SubmitterPool ι) (i : ι) : Prop :=
  match (p.tasks i).next? with
  | some (.insertTracker _ _) => (calls i).isResubmission = false
  | _ => True

/-- The tracker's count, zero without a tracker. -/
def tracked (s : SubmitterState) (submissionId : String) : ℕ :=
  match s.activeSubmissions submissionId with
  | some tracker => tracker.submissionAttempts.toNat
  | none => 0

/-- What the attempts are at least, where a call is in the phase. No resubmission is
tracked. -/
def CallPhase.Counts (calls : ι → SubmitterCall) (p : SubmitterPool ι) : CallPhase → Prop
  | .submitted id => 1 ≤ attempts calls p id
  | .bumped id _ => 2 ≤ attempts calls p id
  | .resubmitted _ => False
  | .submitting _ _ | .resubmitting _ | .refused _ => True

/-- The count is right. -/
structure Counted (calls : ι → SubmitterCall) (p : SubmitterPool ι) (φ : ι → CallPhase) : Prop where
  /-- The tracker's count is the number of attempts. -/
  count : ∀ id, tracked p.shared id = attempts calls p id
  /-- Every call is in a phase of its own. -/
  fits : ∀ i, (φ i).Fits (calls i)
  /-- There were as many attempts as that takes. -/
  counts : ∀ i, (φ i).Counts calls p
  /-- What is tracked was submitted. -/
  origin : ∀ id, p.shared.activeSubmissions id ≠ none → ∃ i, φ i = .submitted id

theorem attempts_after {op : SubmitterOp} {k : SubmitterI.Reply op → SubmitterM SubmissionResult}
    (id : String) :
    attempts calls (p.after (submitterHandler config) i op k) id = attempts calls p id +
      (if submits calls id ⟨i, op, (submitterHandler config op p.shared).1⟩ then 1 else 0) +
      (if resubmits id ⟨i, op, (submitterHandler config op p.shared).1⟩ then 1 else 0) := by
  simp only [attempts, Pool.after_history, List.countP_append, List.countP_singleton]
  omega

theorem CallPhase.Counts.after {φ : CallPhase} (h : φ.Counts calls p) {op : SubmitterOp}
    {k : SubmitterI.Reply op → SubmitterM SubmissionResult} :
    φ.Counts calls (p.after (submitterHandler config) i op k) := by
  cases φ with
  | submitting | resubmitting | refused => trivial
  | resubmitted => exact h
  | submitted | bumped =>
    simp only [Counts, attempts_after] at h ⊢
    omega

/-- An operation that is no attempt and leaves the trackers alone. -/
theorem Counted.skip {φ : ι → CallPhase} (hI : Counted calls p φ) {op : SubmitterOp}
    {k : SubmitterI.Reply op → SubmitterM SubmissionResult}
    (hs : (submitterHandler config op p.shared).2.activeSubmissions = p.shared.activeSubmissions)
    (hsubmit : ∀ id, submits calls id ⟨i, op, (submitterHandler config op p.shared).1⟩ = false)
    (hresubmit : ∀ id, resubmits id ⟨i, op, (submitterHandler config op p.shared).1⟩ = false) :
    Counted calls (p.after (submitterHandler config) i op k) φ where
  count id := by
    rw [attempts_after, hsubmit, hresubmit, tracked, Pool.after_shared, hs]
    exact hI.count id
  fits := hI.fits
  counts j := (hI.counts j).after
  origin id h := hI.origin id (by rwa [Pool.after_shared, hs] at h)

/-- A step that counts for its own call counts for every call. -/
theorem Counted.counts_update {φ : ι → CallPhase} (hI : Counted calls p φ) {φ' : CallPhase} {op : SubmitterOp}
    {k : SubmitterI.Reply op → SubmitterM SubmissionResult}
    (h : φ'.Counts calls (p.after (submitterHandler config) i op k)) (j : ι) :
    (Function.update φ i φ' j).Counts calls (p.after (submitterHandler config) i op k) := by
  revert j
  rw [Function.forall_update_iff φ fun _ φ => φ.Counts calls _]
  exact ⟨h, fun j _ => (hI.counts j).after⟩

/-- What was tracked before is still of a call that has submitted it. -/
theorem Counted.origin_update {φ : ι → CallPhase} (hI : Counted calls p φ) {φ' : CallPhase} {id : String}
    (hφi : φ i ≠ .submitted id) (hactive : p.shared.activeSubmissions id ≠ none) :
    ∃ j, Function.update φ i φ' j = .submitted id := by
  obtain ⟨j, hj⟩ := hI.origin id hactive
  have hji : j ≠ i := by
    rintro rfl
    exact hφi hj
  exact ⟨j, by rw [Function.update_of_ne hji, hj]⟩

theorem Counted.track {φ : ι → CallPhase} (hI : Counted calls p φ) (hfresh : FreshIds calls)
    {uuid : String}
    {hashes : List String} {k : Unit → SubmitterM SubmissionResult} (hφi : φ i = .submitting bundle uuid)
    (hid : submissionId ∈ submissionIds uuid) :
    Counted calls (p.after (submitterHandler config) i (.insertTracker submissionId (trackerOf bundle hashes)) k)
      (Function.update φ i (.submitted submissionId)) := by
  obtain ⟨path, hcall⟩ := (hφi ▸ hI.fits i).eq_submit
  have hnone : p.shared.activeSubmissions submissionId = none := by
    by_contra hne
    obtain ⟨j, hj⟩ := hI.origin submissionId hne
    have hjid := (hj ▸ hI.fits j).mem_freshIds
    have hji : j ≠ i := by
      rintro rfl
      rw [hφi] at hj
      cases hj
    refine hfresh j i hji submissionId hjid ?_
    rw [hcall]
    exact hid
  have hmove : CallMove (.submitting bundle uuid) (.insertTracker submissionId (trackerOf bundle hashes)) ()
      (.submitted submissionId) := .track hid
  refine ⟨fun id => ?_, hmove.fits_update hφi hI.fits, ?_, fun id h => ?_⟩
  · rw [attempts_after, ← hI.count]
    by_cases hne : id = submissionId
    · subst hne
      simp [tracked, hnone, submits, resubmits, hcall, SubmitterCall.isResubmission,
        submitterHandler, trackerOf]
    · have hne' : (submissionId == id) = false := beq_false_of_ne (Ne.symm hne)
      simp [tracked, submits, resubmits, submitterHandler, hne',
        SubmitterState.activeSubmissions_track_of_ne _ _ hne]
  · refine hI.counts_update ?_
    simp only [CallPhase.Counts, attempts_after, submits, hcall, SubmitterCall.isResubmission,
      Bool.not_false, beq_self_eq_true, Bool.and_self, if_true]
    omega
  · by_cases hne : id = submissionId
    · exact ⟨i, by rw [Function.update_self, hne]⟩
    · have h : p.shared.activeSubmissions id ≠ none := by
        rwa [← SubmitterState.activeSubmissions_track_of_ne _ (trackerOf bundle hashes) hne]
      refine hI.origin_update ?_ h
      simp [hφi]

theorem Counted.bump {φ : ι → CallPhase} (hI : Counted calls p φ)
    {k : Result Bundle → SubmitterM SubmissionResult} (hφi : φ i = .resubmitting submissionId)
    (hr : (submitterHandler config (.bumpTracker submissionId) p.shared).1 = .ok bundle) :
    Counted calls (p.after (submitterHandler config) i (.bumpTracker submissionId) k)
      (Function.update φ i (.bumped submissionId bundle)) := by
  obtain ⟨tracker, price, htracker, hlimit, -, -, hs⟩ := bumpTracker_ok hr
  have hactive : ∀ id, (p.after (submitterHandler config) i (.bumpTracker submissionId) k).shared.activeSubmissions id ≠
      none → p.shared.activeSubmissions id ≠ none := by
    intro id h
    by_cases hne : id = submissionId
    · rw [hne, htracker]
      exact Option.some_ne_none _
    · rwa [Pool.after_shared, hs, SubmitterState.activeSubmissions_track_of_ne _ _ hne] at h
  refine ⟨fun id => ?_, CallMove.bump.fits_update hφi hI.fits, ?_, fun id h => ?_⟩
  · rw [attempts_after, ← hI.count, hr]
    by_cases hne : id = submissionId
    · subst hne
      have hlt := BitVec.lt_def.mp hlimit
      have := config.maxResubmissions.isLt
      have hadd : (tracker.submissionAttempts + 1).toNat = tracker.submissionAttempts.toNat + 1 := by
        rw [BitVec.toNat_add]
        show (tracker.submissionAttempts.toNat + 1) % 2 ^ 32 = _
        omega
      simp only [tracked, Pool.after_shared, hs, SubmitterState.activeSubmissions_track_self,
        htracker, hadd, submits,
        resubmits, beq_self_eq_true, if_true]
      rfl
    · have hne' : (submissionId == id) = false := beq_false_of_ne (Ne.symm hne)
      simp only [tracked, Pool.after_shared, hs,
        SubmitterState.activeSubmissions_track_of_ne _ _ hne, submits,
        resubmits, hne', Bool.false_eq_true, if_false, Nat.add_zero]
  · refine hI.counts_update ?_
    -- What it found was submitted, and it is one more attempt.
    obtain ⟨j, hj⟩ := hI.origin submissionId (by rw [htracker]; exact Option.some_ne_none _)
    have hone : 1 ≤ attempts calls p submissionId := by
      have := hI.counts j
      rwa [hj] at this
    simp only [CallPhase.Counts, attempts_after, hr, resubmits, beq_self_eq_true, if_true]
    omega
  · refine hI.origin_update ?_ (hactive id h)
    simp [hφi]

theorem Counted.refuse {φ : ι → CallPhase} (hI : Counted calls p φ)
    {k : Result Bundle → SubmitterM SubmissionResult} {e : Failure}
    (hφi : φ i = .resubmitting submissionId)
    (hr : (submitterHandler config (.bumpTracker submissionId) p.shared).1 = .error e) :
    Counted calls (p.after (submitterHandler config) i (.bumpTracker submissionId) k)
      (Function.update φ i (.refused submissionId)) := by
  have hskip : Counted calls (p.after (submitterHandler config) i (.bumpTracker submissionId) k) φ := by
    refine hI.skip (congrArg _ (bumpTracker_error hr)) (fun _ => rfl) fun id => ?_
    rw [hr]
    rfl
  refine ⟨hskip.count, (CallMove.refuse (e := e)).fits_update hφi hI.fits, hI.counts_update trivial,
    fun id h => ?_⟩
  have hactive := congrArg SubmitterState.activeSubmissions (bumpTracker_error hr)
  rw [Pool.after_shared, hactive] at h
  refine hI.origin_update ?_ h
  simp [hφi]

variable {s₀ : SubmitterState}

/-- In every run in which no resubmission gets all its transactions accepted, the count is
right. -/
theorem counted_of_reach (hfresh : FreshIds calls) (hempty : ∀ id, s₀.activeSubmissions id = none)
    (hr : Pool.Reach (submitterHandler config) (NoneResubmitted calls)
      (.start s₀ fun i => (calls i).task config) p) :
    ∃ φ, Counted calls p φ ∧ ∀ i, callProtocol.Follows CallEnds (φ i) (p.tasks i) := by
  have hfollows : ∀ i, callProtocol.Follows CallEnds (calls i).phase ((calls i).task config) :=
    fun i => (calls i).follows config
  have hstart : Counted calls (.start s₀ fun i => (calls i).task config) fun i => (calls i).phase := by
    refine ⟨fun id => ?_, fun i => (calls i).phase_fits, fun i => ?_, fun id h => absurd (hempty id) h⟩
    · simp only [tracked, Pool.start, hempty, attempts]
      rfl
    · cases hc : calls i <;> exact trivial
  exact Protocol.exists_phases hr hfollows (Counted calls) hstart (fun _ _ _ _ => trivial) (by
    intro p φ i op k φ' hI hG hi hm
    simp only [NoneResubmitted, hi, Async.next?_await] at hG
    generalize hr : (submitterHandler config op p.shared).1 = reply at hm
    generalize hφi : φ i = φi at hm
    cases hm with
    | sendRaw | sendBundle | ready =>
      rw [← hφi, Function.update_eq_self]
      exact hI.skip rfl (fun _ => rfl) fun _ => rfl
    | track hid => exact hI.track hfresh hφi hid
    | bump => exact hI.bump hφi hr
    | refuse => exact hI.refuse hφi hr
    | retrack =>
      have hfits := hI.fits i
      rw [hφi] at hfits
      rw [hfits.eq_resubmit] at hG
      cases hG)

/-- **The resubmission bound**: in every run in which no resubmission gets all its
transactions accepted, the tracker counts the submission and all resubmissions, and no id
is resubmitted successfully more often than allowed. -/
theorem resubmission_bound (hfresh : FreshIds calls) (hempty : ∀ id, s₀.activeSubmissions id = none)
    (hr : Pool.Reach (submitterHandler config) (NoneResubmitted calls)
      (.start s₀ fun i => (calls i).task config) p) :
    AttemptsBounded config calls p := by
  obtain ⟨φ, hI, hφ⟩ := counted_of_reach hfresh hempty hr
  intro id
  constructor
  · -- No resubmission has succeeded at all.
    intro S hS
    have hnone : S = ∅ := by
      refine Finset.eq_empty_of_forall_notMem fun i hi => ?_
      obtain ⟨hc, result, hdone⟩ := hS i hi
      have hends := hφ i
      rw [hdone] at hends
      obtain ⟨id', h | h⟩ := hends result rfl
      · have hmem := (h ▸ hI.fits i).mem_freshIds
        rw [hc] at hmem
        cases hmem
      · have := hI.counts i
        rwa [h] at this
    rw [hnone, Finset.card_empty]
    exact Nat.zero_le _
  · intro tracker htracker
    have hcount := hI.count id
    simp only [tracked, htracker] at hcount
    exact hcount

/-- **No more can be said**: a resubmission that does get all its transactions accepted
makes the count wrong. -/
theorem resubmission_breaks_count (hfresh : FreshIds calls)
    (hempty : ∀ id, s₀.activeSubmissions id = none)
    (hr : Pool.Reach (submitterHandler config) (NoneResubmitted calls)
      (.start s₀ fun i => (calls i).task config) p)
    {op : SubmitterOp} {k : SubmitterI.Reply op → SubmitterM SubmissionResult}
    (hi : p.tasks i = .await op k) (hbad : ¬ NoneResubmitted calls p i) :
    ¬ AttemptsBounded config calls (p.after (submitterHandler config) i op k) := by
  obtain ⟨φ, hI, hφ⟩ := counted_of_reach hfresh hempty hr
  have hfits := hI.fits i
  have hcounts := hI.counts i
  have hfollows := hφ i
  rw [hi] at hfollows
  obtain ⟨φ', hm, -⟩ := hfollows (submitterHandler config op p.shared).1 trivial
  generalize (submitterHandler config op p.shared).1 = reply at hm
  generalize hφi : φ i = φi at hm
  rw [hφi] at hfits hcounts
  simp only [NoneResubmitted, hi, Async.next?_await] at hbad
  cases hm with
  | sendRaw | sendBundle | ready | bump | refuse => exact absurd trivial hbad
  | track =>
    obtain ⟨path, hcall⟩ := hfits.eq_submit
    rw [hcall] at hbad
    exact absurd rfl hbad
  | @retrack id bundle hashes =>
    intro hbound
    -- The new tracker counts one, and there were two attempts at least.
    have hone := (hbound id).2 (trackerOf bundle hashes) (SubmitterState.activeSubmissions_track_self ..)
    have htwo : 2 ≤ attempts calls (p.after (submitterHandler config) i
        (.insertTracker id (trackerOf bundle hashes)) k) id := CallPhase.Counts.after hcounts
    rw [← hone] at htwo
    exact Nat.not_succ_le_self 1 htwo

instance (calls : ι → SubmitterCall) (p : SubmitterPool ι) (i : ι) :
    Decidable (NoneResubmitted calls p i) := by
  unfold NoneResubmitted
  rcases (p.tasks i).next? with _ | op
  · exact instDecidableTrue
  · cases op with
    | insertTracker => exact instDecidableEqBool _ _
    | sendRawTransaction | sendBundle | bumpTracker | ready => exact instDecidableTrue

/-- A resubmission to a node that has gone. -/
theorem resubmission_bound_node_gone :
    AttemptsBounded .default (resubmissions 200000000000 (n := 1))
      (resubmissionRun 200000000000 { SubmitterState.accepting with
        node := fun i => if i < 2 then .response none (some "0xhash") else .failed "timeout" }
        [0, 0, 0, 1, 1]) :=
  resubmission_bound (by unfold FreshIds; decide) (fun _ => rfl) (Pool.reach_of_admits (by decide))

/-- The bundle submitted, and resubmitted four times. -/
def fourResubmissions : SubmitterPool (Fin 5) :=
  resubmissionRun 200000000000 .accepting [0, 0, 0, 1, 1, 1, 1, 2, 2, 2, 2, 3, 3, 3, 3, 4, 4, 4, 4]

/-- **A fourth resubmission is accepted**, where three are allowed, and the tracker says
that the bundle went out once. -/
theorem fourth_resubmission_accepted :
    Pool.Reach (submitterHandler .default) Pool.AnyStep (resubmissionRun 200000000000 .accepting [])
        fourResubmissions ∧
      (fourResubmissions.shared.activeSubmissions "sub_0").map (·.submissionAttempts) = some 1 ∧
      ¬ AttemptsBounded .default (resubmissions 200000000000) fourResubmissions := by
  refine ⟨Pool.reach_runSchedule _ _, by decide +kernel, fun h => ?_⟩
  have hbound := (h "sub_0").1 {1, 2, 3, 4} fun i hi => ?_
  · exact absurd hbound (by decide)
  · have hok : ∀ i ∈ ({1, 2, 3, 4} : Finset (Fin 5)),
        (fourResubmissions.tasks i).result?.map (Except.map fun _ => ()) =
          some (.ok ()) := by decide +kernel
    obtain ⟨result, hdone, -⟩ := Async.exists_returned (hok i hi)
    have hne : ∀ i ∈ ({1, 2, 3, 4} : Finset (Fin 5)), i ≠ 0 := by decide
    exact ⟨if_neg (hne i hi), result, hdone⟩

end Botmev.Bundles
