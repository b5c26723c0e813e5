import Botmev.Bundles.SubmitterCalls
import Botmev.Library.Trace
import Mathlib.Data.Finset.Card

/-!
# The fast resubmitter

`FastResubmitter` (`bundle/submitter.rs`): a task that resubmits a submission with a
higher gas price, again and again, until the price is above a maximum. It looks at the
price after the resubmission.

The task also counts the active submissions, so the submitter comes with the finite set of
their ids here. What it waits for between two rounds is left out.
-/

namespace Botmev.Bundles

open Botmev.Rust Botmev.Library

/-- What else the task asks the submitter. -/
inductive CountOp where
  /-- `get_active_submission_count`. -/
  | activeSubmissionCount
  deriving DecidableEq, Repr

/-- What the task may ask for. -/
@[reducible] def FastI : Interface := SubmitterI.sum ⟨CountOp, fun _ => ℕ⟩

/-- A function of the task. -/
abbrev FastM (α : Type) := Async FastI Failure α

/-- A submitter, with the ids of the submissions that it tracks. -/
structure ActiveSubmitter where
  /-- The submitter. -/
  submitter : SubmitterState
  /-- The ids. -/
  ids : Finset String
  /-- They are those that are tracked. -/
  mem_ids : ∀ id, id ∈ ids ↔ submitter.activeSubmissions id ≠ none

/-- The ids after an operation. -/
def idsAfter (ids : Finset String) : SubmitterOp → Finset String
  | .insertTracker id _ => insert id ids
  | _ => ids

theorem activeSubmissions_track_ne_none (s : SubmitterState) (submissionId : String)
    (tracker : SubmissionTracker)
    (id : String) :
    (s.track submissionId tracker).activeSubmissions id ≠ none ↔
      id = submissionId ∨ s.activeSubmissions id ≠ none := by
  by_cases hid : id = submissionId
  · subst hid
    rw [SubmitterState.activeSubmissions_track_self]
    exact iff_of_true (Option.some_ne_none _) (.inl rfl)
  · rw [SubmitterState.activeSubmissions_track_of_ne _ _ hid]
    exact (or_iff_right hid).symm

theorem mem_idsAfter (config : SubmissionConfig) (s : ActiveSubmitter) (op : SubmitterOp) (id : String) :
    id ∈ idsAfter s.ids op ↔ (submitterHandler config op s.submitter).2.activeSubmissions id ≠ none := by
  cases op with
  | sendRawTransaction | sendBundle | ready => exact s.mem_ids id
  | insertTracker submissionId tracker =>
    rw [idsAfter, Finset.mem_insert, s.mem_ids]
    exact (activeSubmissions_track_ne_none s.submitter submissionId tracker id).symm
  | bumpTracker submissionId =>
    refine (s.mem_ids id).trans ?_
    rcases hr : (submitterHandler config (.bumpTracker submissionId) s.submitter).1 with e | bundle
    · rw [bumpTracker_error hr]
    · obtain ⟨tracker, price, htracker, -, -, -, hs⟩ := bumpTracker_ok hr
      rw [hs, activeSubmissions_track_ne_none]
      constructor
      · exact .inr
      · rintro (rfl | h)
        · rw [htracker]
          exact Option.some_ne_none _
        · exact h

/-- What the operations do. -/
def fastHandler (config : SubmissionConfig) : Handler FastI ActiveSubmitter
  | .inl op, s =>
    ((submitterHandler config op s.submitter).1,
      ⟨(submitterHandler config op s.submitter).2, idsAfter s.ids op, mem_idsAfter config s op⟩)
  | .inr .activeSubmissionCount, s => (s.ids.card, s)

/-- The loop of `start_resubmission`, with so many attempts left. -/
def resubmissionLoop (maxGas : U256) (submissionId : String) : ℕ → FastM Unit
  | 0 => pure ()
  | attempts + 1 => do
    let activeCount ← Async.request (I := FastI) (.inr .activeSubmissionCount)
    if activeCount = 0 then pure ()
    else
      match ← (resubmitWithGasBump submissionId).attempt.inl with
      | .ok result => if maxGas < result.gasPrice then pure () else resubmissionLoop maxGas submissionId attempts
      | .error (.err _) => pure ()
      | .error (.panic message) => .done (.error (.panic message))

/-- The task that `start_resubmission` spawns. -/
def startResubmission (maxGasPrice : U256) (submissionId : String) : FastM Unit :=
  resubmissionLoop maxGasPrice submissionId 10

end Botmev.Bundles
