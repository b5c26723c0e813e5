import Botmev.Bundles.Inclusion

/-!
# How long a status can be observed

A tick of the monitoring loop sets the status of the bundles it is done with, and ends
with a clean-up that forgets them. Who asks between two ticks is told that the bundle
is not found.

## What is proved

* `cleanup_leaves_pending`, `tick_leaves_pending`: after a tick every tracked bundle is
  pending.
* `terminal_status_observable_iff`: a status that is not pending can be observed just as
  long as there is no clean-up, and the bundle is not tracked anew.
-/

namespace Botmev.Bundles

open Botmev.Rust Botmev.Library

variable {config : TrackerConfig} {bundleId : String} {status : ExecutionStatus} {s s' : TrackerState}

theorem executionStatus_eq_ok_iff :
    s.executionStatus bundleId = .ok status ↔
      ∃ tracked, s.trackedBundles.lookup bundleId = some tracked ∧ tracked.status = status := by
  rw [TrackerState.executionStatus, bind_eq_ok_iff]
  simp only [okOr_eq_ok_iff, pure, Except.pure, Except.ok.injEq]

theorem executionStatus_congr (h : s'.trackedBundles.lookup bundleId = s.trackedBundles.lookup bundleId) :
    s'.executionStatus bundleId = s.executionStatus bundleId := by
  rw [TrackerState.executionStatus, TrackerState.executionStatus, h]

/-! ### After a tick -/

/-- **A clean-up leaves nothing but pending bundles.** -/
theorem cleanup_leaves_pending (h : (s.cleanupExpiredBundles config).executionStatus bundleId = .ok status) :
    status = .pending := by
  obtain ⟨tracked, hlookup, rfl⟩ := executionStatus_eq_ok_iff.mp h
  obtain ⟨-, hkeep⟩ := Table.lookup_retain.mp hlookup
  unfold TrackerState.shouldKeep at hkeep
  split at hkeep
  · assumption
  · cases hkeep

/-- **After a tick every tracked bundle is pending**, so that no caller between two ticks
observes another status. -/
theorem tick_leaves_pending (htick : tick.run (trackerHandler config) s = (.ok (), s'))
    (h : s'.executionStatus bundleId = .ok status) : status = .pending := by
  -- Whether or not there is a latest block, the clean-up comes last.
  have hcleanup : ∀ s₁, (do checkAllBundles; Async.request (I := TrackerI) (ε := Failure) .cleanup).run
      (trackerHandler config) s₁ = (.ok (), s') → status = .pending := by
    intro s₁ hrun
    obtain ⟨-, s₂, -, hrun⟩ := Async.exists_of_run_bind hrun
    cases hrun
    exact cleanup_leaves_pending h
  obtain ⟨latest, s₁, -, htick⟩ := Async.exists_of_run_bind htick
  cases latest with
  | none => exact hcleanup s₁ htick
  | some latest =>
    dsimp only at htick
    obtain ⟨-, s₂, -, htick⟩ := Async.exists_of_run_bind htick
    exact hcleanup s₂ htick

/-! ### As long as there is no clean-up -/

variable {ι : Type} [DecidableEq ι] {p : TrackerPool ι}

/-- The step is not a clean-up, and does not track the bundle anew. -/
def LeavesStatus (bundleId : String) (p : TrackerPool ι) (i : ι) : Prop :=
  match (p.tasks i).next? with
  | some .cleanup => False
  | some (.insertTracked bundle _) => bundle.id ≠ bundleId
  | _ => True

instance (p : TrackerPool ι) (i : ι) : Decidable (LeavesStatus bundleId p i) := by
  unfold LeavesStatus
  rcases (p.tasks i).next? with _ | op
  · exact isTrue trivial
  cases op with
  | cleanup => exact isFalse id
  | insertTracked bundle trackingStart => exact inferInstanceAs (Decidable (bundle.id ≠ bundleId))
  | _ => exact isTrue trivial

theorem checkBundle_keeps_status (id : String) (latestBlock : U64)
    (hstatus : s.executionStatus bundleId = .ok status) (hterminal : status ≠ .pending) :
    (s.checkBundleInclusion config id latestBlock).2.executionStatus bundleId = .ok status := by
  obtain ⟨tracked, hlookup, rfl⟩ := executionStatus_eq_ok_iff.mp hstatus
  have hother : ∀ {tracked'}, s.trackedBundles.lookup id = some tracked' → tracked'.status = .pending →
      bundleId ≠ id := by
    rintro tracked' hlookup' hpending rfl
    cases hlookup.symm.trans hlookup'
    exact hterminal hpending
  rw [← hstatus]
  apply executionStatus_congr
  rcases checkBundle_cases config id latestBlock s with
    ⟨-, htracked, -⟩ | ⟨tracked', hlookup', hpending, -, htracked, -⟩ |
    ⟨tracked', hlookup', hpending, -, hchecked, -⟩
  · rw [htracked]
  · rw [htracked, AList.lookup_insert_ne (hother hlookup' hpending)]
  · cases hchecked with
    | found number txHashes hscan htracked | notFound attempts hscan htracked =>
      rw [htracked, AList.lookup_insert_ne (hother hlookup' hpending)]

/-- **One step**: the status is still observed just when the step leaves it. -/
theorem step_keeps_status_iff (i : ι) (hstatus : p.shared.executionStatus bundleId = .ok status)
    (hterminal : status ≠ .pending) :
    ((p.step (trackerHandler config) i).getD p).shared.executionStatus bundleId = .ok status ↔
      LeavesStatus bundleId p i := by
  unfold LeavesStatus Pool.step
  rcases p.tasks i with r | ⟨op, k⟩
  · exact iff_of_true hstatus trivial
  · show (trackerHandler config op p.shared).2.executionStatus bundleId = _ ↔ _
    cases op with
    | now | executionStatus | blockNumber | setLatestBlock | latestBlock | bundleIds =>
      exact iff_of_true hstatus trivial
    | checkBundle id latestBlock =>
      exact iff_of_true (checkBundle_keeps_status id latestBlock hstatus hterminal) trivial
    | cleanup => exact iff_of_false (fun h => hterminal (cleanup_leaves_pending h)) id
    | insertTracked bundle trackingStart =>
      show (p.shared.insertTracked bundle trackingStart).executionStatus bundleId = _ ↔
        bundle.id ≠ bundleId
      by_cases hid : bundle.id = bundleId
      · refine iff_of_false (fun h => ?_) (not_not_intro hid)
        obtain ⟨tracked, hlookup, rfl⟩ := executionStatus_eq_ok_iff.mp h
        subst hid
        rw [TrackerState.insertTracked, TrackerState.put, AList.lookup_insert] at hlookup
        cases hlookup
        exact hterminal rfl
      · refine iff_of_true ?_ hid
        exact (executionStatus_congr (AList.lookup_insert_ne (Ne.symm hid))).trans hstatus

/-- **How long a terminal status can be observed**: from where a bundle is not pending, it has
the same status at every point of a run just when no step up to there is a clean-up or
tracks it anew. -/
theorem terminal_status_observable_iff (turns : List ι)
    (hstatus : p.shared.executionStatus bundleId = .ok status)
    (hterminal : status ≠ .pending) :
    (∀ k, (p.runSchedule (trackerHandler config) (turns.take k)).shared.executionStatus bundleId = .ok status) ↔
      Pool.Admits (trackerHandler config) (LeavesStatus bundleId) turns p := by
  induction turns generalizing p with
  | nil => exact iff_of_true (fun k => by rwa [List.take_nil]) trivial
  | cons i turns ih =>
    rw [Pool.Admits, ← step_keeps_status_iff i hstatus hterminal]
    constructor
    · intro h
      have hstep := h 1
      exact ⟨hstep, (ih hstep).mp fun k => h (k + 1)⟩
    · rintro ⟨hstep, hturns⟩ (_ | k)
      · exact hstatus
      · exact (ih hstep).mpr hturns k

/-- The status is asked for before the clean-up of the tick that finds the bundle. -/
theorem included_status_observed :
    ((testRun [] [0, 0, 1, 1, 1, 1, 1]).runSchedule (trackerHandler .default) ([2].take 1)).shared.executionStatus
      "test_bundle" = .ok (.included 1001 [testBundle.targetTransaction.hashHex]) :=
  (terminal_status_observable_iff [2] (by decide) (by decide)).mpr (by decide) 1

/-- **An inclusion is forgotten in the tick that finds it**: the bundle is included, and who
asks for its status after the next step, with no other tick started, is told that it is
not found. -/
theorem included_status_forgotten :
    ∃ p, Pool.Reach (trackerHandler .default) Pool.AnyStep
        (.start (testTracker []) fun i => (testCalls i).task) p ∧
      p.shared.executionStatus "test_bundle" = .ok (.included 1001 [testBundle.targetTransaction.hashHex]) ∧
      ((p.runSchedule (trackerHandler .default) [1, 2]).tasks 2).result? =
        some (.error (.err "Bundle not found: test_bundle")) ∧
      ((p.runSchedule (trackerHandler .default) [1, 2]).history.filter (·.op = .blockNumber)).length = 1 := by
  refine ⟨testRun [] [0, 0, 1, 1, 1, 1, 1], Pool.reach_runSchedule _ _, ?_, ?_, ?_⟩ <;> decide

end Botmev.Bundles
