import Botmev.Core.Metrics
import Botmev.Library.SlidingWindow
import Mathlib.Data.List.Perm.Basic

/-!
# The window of the latency histogram

The order of the samples is their age, and reading the statistics sorts them. So after a read on
a full histogram it is the least sample that leaves it, not the oldest.

## What is proved

* `afterCalls_new`: the histogram keeps a window that is sorted when it is read.
* `keepsWindow_iff`: it is the sliding window of what was recorded, and reading changes nothing,
  just when each sample that leaves the sliding window, and was there at the last read, is the
  least of those that were.
-/

namespace Botmev.Core.LatencyHistogram

open Botmev.Rust Botmev.Library SlidingWindow

/-- A call of `record` or `get_stats`. -/
def call (histogram : LatencyHistogram) : WindowOp Binary64.Number → LatencyHistogram
  | .record latencyMs => (histogram.record latencyMs.val).2
  | .read => histogram.getStats.2

/-- One call after the other. -/
def afterCalls (histogram : LatencyHistogram) (calls : List (WindowOp Binary64.Number)) : LatencyHistogram :=
  calls.foldl call histogram

variable {maxSamples : U64} {calls : List (WindowOp Binary64.Number)}

theorem afterCalls_concat (histogram : LatencyHistogram) (calls : List (WindowOp Binary64.Number))
    (op : WindowOp Binary64.Number) :
    histogram.afterCalls (calls ++ [op]) = (histogram.afterCalls calls).call op := by
  rw [afterCalls, afterCalls, List.foldl_append, List.foldl_cons, List.foldl_nil]

theorem record_numbers (hmax : 0 < maxSamples.toNat) (window : List Binary64.Number) (x : Binary64.Number) :
    record ⟨window.map Binary64.Number.val, false, maxSamples⟩ x.val =
      (.ok (), ⟨(push maxSamples.toNat window x).map Binary64.Number.val, false, maxSamples⟩) := by
  simp only [record, Bool.false_eq_true, if_false, List.length_map, push]
  split
  · rcases window with _ | ⟨oldest, window⟩
    · rename_i hfull
      exact absurd hfull (not_le.mpr hmax)
    · simp
  · simp

/-- **The histogram** keeps a window that is sorted when it is read. -/
theorem afterCalls_new (hmax : 0 < maxSamples.toNat) (calls : List (WindowOp Binary64.Number)) :
    (new maxSamples).afterCalls calls =
      ⟨(run maxSamples.toNat calls).map Binary64.Number.val, false, maxSamples⟩ := by
  induction calls using List.reverseRecOn with
  | nil => rfl
  | append_singleton calls op ih =>
    rw [afterCalls_concat, ih, run_concat]
    cases op with
    | record x =>
      rw [call, record_numbers hmax]
      rfl
    | read =>
      rw [call, getStats_numbers]
      rfl

/-- After these calls, the samples are the last ones recorded, and the statistics are those of the
same calls without any read. -/
structure KeepsWindow (maxSamples : U64) (calls : List (WindowOp Binary64.Number)) : Prop where
  retained : ((new maxSamples).afterCalls calls).samples.Perm
    ((lastN maxSamples.toNat (WindowOp.recorded calls)).map Binary64.Number.val)
  undisturbed : ((new maxSamples).afterCalls calls).getStats.1 =
    ((new maxSamples).afterCalls ((WindowOp.recorded calls).map .record)).getStats.1

theorem keepsWindow_iff_perm (hmax : 0 < maxSamples.toNat) : KeepsWindow maxSamples calls ↔
    (run maxSamples.toNat calls).Perm (lastN maxSamples.toNat (WindowOp.recorded calls)) := by
  have hinjective : Function.Injective Binary64.Number.val := fun _ _ => Binary64.Number.ext
  constructor
  · intro h
    have hretained := h.retained
    rw [afterCalls_new hmax] at hretained
    exact (List.map_perm_map_iff hinjective).mp hretained
  · intro h
    constructor
    · rw [afterCalls_new hmax]
      exact h.map _
    · rw [afterCalls_new hmax, afterCalls_new hmax, run_map_record hmax, getStats_numbers, getStats_numbers]
      exact statsOfNumbers_of_perm h

/-- **The sliding window**: after every call the samples are the last ones recorded, and no read
has changed the statistics, just when at every record on a full histogram the oldest sample is the
least of those that were there at the last read. -/
theorem keepsWindow_iff (hmax : 0 < maxSamples.toNat) (calls : List (WindowOp Binary64.Number)) :
    (∀ before, before <+: calls → KeepsWindow maxSamples before) ↔ OldestIsLeast maxSamples.toNat calls := by
  rw [← run_perm_iff hmax]
  exact forall₂_congr fun _ _ => keepsWindow_iff_perm hmax

/-- Growing latencies in a window of two, read after every record. -/
def growingLatencies : List (WindowOp Binary64.Number) :=
  [.record (.ofUnits 1), .read, .record (.ofUnits 2), .read, .record (.ofUnits 3), .read]

/-- They are kept. -/
theorem growing_latencies_kept : KeepsWindow 2 growingLatencies := by
  have hperm : ∀ before ∈ growingLatencies.inits, (run 2 before).Perm (lastN 2 (WindowOp.recorded before)) := by
    decide
  refine (keepsWindow_iff (by decide) _).mpr ((run_perm_iff (by decide) _).mp fun before hinit => ?_) _ List.prefix_rfl
  exact hperm before ((List.mem_inits _ _).mpr hinit)

/-- A window of two, read before the third record: it loses the least latency, not the oldest. -/
theorem oldest_latency_retained :
    ¬ KeepsWindow 2 [.record (.ofUnits 3), .record (.ofUnits 1), .read, .record (.ofUnits 2)] := by
  intro h
  have hperm := (keepsWindow_iff_perm (by decide)).mp h
  revert hperm
  decide

end Botmev.Core.LatencyHistogram
