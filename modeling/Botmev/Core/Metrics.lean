import Botmev.Library.Binary64Order
import Botmev.Library.Binary64Rounding
import Botmev.Rust.Basic

/-!
# The latency histogram

A histogram keeps samples in a vector behind a mutex. When it is full, recording removes the first
one. Reading the statistics sorts the vector in place. A panic while the mutex is held poisons it;
nothing is recorded then, and the statistics are those of no sample.

## What is proved

* `getStats_numbers`: the statistics of samples that are numbers, and what reading them leaves.
* `percentileIndex_lt`, `exists_statsOf`: reading them is in range.
-/

namespace Botmev.Core

open Botmev.Rust Botmev.Library

/-- Latency statistics for performance tracking. -/
structure LatencyStats where
  medianMs : Binary64
  p95Ms : Binary64
  p99Ms : Binary64
  meanMs : Binary64
  count : U64

/-- `LatencyStats::default`. -/
def LatencyStats.default : LatencyStats := ⟨.finite 0, .finite 0, .finite 0, .finite 0, 0⟩

/-- `LatencyHistogram`. -/
structure LatencyHistogram where
  samples : List Binary64
  /-- A call has panicked while it held the mutex of the samples. -/
  poisoned : Bool
  maxSamples : U64
  deriving DecidableEq

namespace LatencyHistogram

/-- `LatencyHistogram::new`. -/
def new (maxSamples : U64) : LatencyHistogram := ⟨[], false, maxSamples⟩

/-- `record`. -/
def record (histogram : LatencyHistogram) (latencyMs : Binary64) : Result Unit × LatencyHistogram :=
  if histogram.poisoned then (.ok (), histogram)
  else if histogram.maxSamples.toNat ≤ histogram.samples.length then
    -- Remove oldest sample
    match histogram.samples with
    | [] => (.error (.panic "removal index (is 0) should be < len (is 0)"), { histogram with poisoned := true })
    | _ :: samples => (.ok (), { histogram with samples := samples ++ [latencyMs] })
  else (.ok (), { histogram with samples := histogram.samples ++ [latencyMs] })

/-- `samples.sort_by(|a, b| a.partial_cmp(b).unwrap())`: sorting compares every sample with another
one, if there is another one. -/
def sortSamples (samples : List Binary64) : Result (List Binary64) :=
  if 2 ≤ samples.length ∧ .nan ∈ samples then
    .error (.panic "called `Option::unwrap()` on a `None` value")
  else .ok (Binary64.sort samples)

/-- `samples[index]`. -/
def sampleAt (samples : List Binary64) (index : ℕ) : Result Binary64 :=
  match samples[index]? with
  | some x => .ok x
  | none => .error (.panic "index out of bounds")

/-- `((count as f64) * percentile) as usize`, at most the last index. -/
def percentileIndex (count : ℕ) (percentile : Binary64) : ℕ :=
  min (((Binary64.ofNat count).mul percentile).toUint 64).toNat (count - 1)

/-- The median of sorted samples. -/
def medianOf (samples : List Binary64) : Result Binary64 :=
  let count := samples.length
  if count % 2 = 0 then do
    let below ← sampleAt samples (count / 2 - 1)
    let above ← sampleAt samples (count / 2)
    .ok ((below.add above).div (.ofNat 2))
  else sampleAt samples (count / 2)

/-- The statistics of sorted samples. -/
def statsOf (samples : List Binary64) : Result LatencyStats := do
  let count := samples.length
  let medianMs ← medianOf samples
  let p95Ms ← sampleAt samples (percentileIndex count (.ofDecimal 95 2))
  let p99Ms ← sampleAt samples (percentileIndex count (.ofDecimal 99 2))
  let meanMs := (samples.foldl Binary64.add (.finite 0)).div (.ofNat count)
  .ok ⟨medianMs, p95Ms, p99Ms, meanMs, BitVec.ofNat 64 count⟩

/-- `get_stats`. -/
def getStats (histogram : LatencyHistogram) : Result LatencyStats × LatencyHistogram :=
  if histogram.poisoned then (.ok .default, histogram)
  else if histogram.samples = [] then (.ok .default, histogram)
  else
    match sortSamples histogram.samples with
    | .error e => (.error e, { histogram with poisoned := true })
    | .ok samples =>
      match statsOf samples with
      | .error e => (.error e, { histogram with samples := samples, poisoned := true })
      | .ok stats => (.ok stats, { histogram with samples := samples })

/-! ### Reading -/

variable {samples : List Binary64} {maxSamples : U64}

theorem percentileIndex_lt {count : ℕ} (hcount : 0 < count) (percentile : Binary64) :
    percentileIndex count percentile < count := by
  have hle : percentileIndex count percentile ≤ count - 1 := min_le_right _ _
  omega

theorem exists_sampleAt {index : ℕ} (h : index < samples.length) : ∃ x, sampleAt samples index = .ok x := by
  unfold sampleAt
  rw [List.getElem?_eq_getElem h]
  exact ⟨_, rfl⟩

theorem exists_medianOf (hcount : 0 < samples.length) : ∃ x, medianOf samples = .ok x := by
  obtain ⟨above, habove⟩ := exists_sampleAt (Nat.div_lt_self hcount Nat.one_lt_two)
  have hbelow : ∃ below, sampleAt samples (samples.length / 2 - 1) = .ok below := exists_sampleAt (by omega)
  obtain ⟨below, hbelow⟩ := hbelow
  simp only [medianOf]
  split
  · rw [hbelow, habove]
    exact ⟨_, rfl⟩
  · exact ⟨above, habove⟩

theorem exists_statsOf (hsamples : samples ≠ []) :
    ∃ stats, statsOf samples = .ok stats ∧ stats.count = BitVec.ofNat 64 samples.length := by
  have hcount : 0 < samples.length := List.length_pos_iff.mpr hsamples
  obtain ⟨p95, h95⟩ := exists_sampleAt (percentileIndex_lt hcount (.ofDecimal 95 2))
  obtain ⟨p99, h99⟩ := exists_sampleAt (percentileIndex_lt hcount (.ofDecimal 99 2))
  obtain ⟨median, hmedian⟩ := exists_medianOf hcount
  simp only [statsOf, hmedian, h95, h99, ok_bind, Except.ok.injEq, exists_eq_left']

theorem sortSamples_numbers (l : List Binary64.Number) :
    sortSamples (l.map Binary64.Number.val) = .ok ((l.insertionSort (· ≤ ·)).map Binary64.Number.val) := by
  have hnan : .nan ∉ l.map Binary64.Number.val := by
    intro hmem
    obtain ⟨x, -, hx⟩ := List.mem_map.mp hmem
    exact x.ne_nan hx
  rw [sortSamples, if_neg fun h => hnan h.2, Binary64.sort_map_val]

/-- The statistics of numbers, in whatever order they are kept. -/
def statsOfNumbers (l : List Binary64.Number) : Result LatencyStats :=
  if l = [] then .ok .default else statsOf ((l.insertionSort (· ≤ ·)).map Binary64.Number.val)

theorem exists_statsOfNumbers (l : List Binary64.Number) :
    ∃ stats, statsOfNumbers l = .ok stats ∧ stats.count = BitVec.ofNat 64 l.length := by
  unfold statsOfNumbers
  split
  · rename_i hl
    rw [hl]
    exact ⟨_, rfl, rfl⟩
  · rename_i hl
    have hlength : ((l.insertionSort (· ≤ ·)).map Binary64.Number.val).length = l.length := by
      rw [List.length_map, List.length_insertionSort]
    rw [← hlength]
    apply exists_statsOf
    rw [ne_eq, ← List.length_eq_zero_iff, hlength, List.length_eq_zero_iff]
    exact hl

/-- **Reading the statistics** of numbers sorts them. -/
theorem getStats_numbers (l : List Binary64.Number) : getStats ⟨l.map Binary64.Number.val, false, maxSamples⟩ =
    (statsOfNumbers l, ⟨(l.insertionSort (· ≤ ·)).map Binary64.Number.val, false, maxSamples⟩) := by
  unfold getStats statsOfNumbers
  rcases eq_or_ne l [] with rfl | hl
  · rfl
  · obtain ⟨stats, hstats, -⟩ := exists_statsOfNumbers l
    rw [statsOfNumbers, if_neg hl] at hstats
    rw [if_neg hl]
    simp only [Bool.false_eq_true, if_false, List.map_eq_nil_iff, hl, sortSamples_numbers, hstats]

theorem statsOfNumbers_of_perm {l l' : List Binary64.Number} (h : l.Perm l') : statsOfNumbers l = statsOfNumbers l' := by
  have hnil : l = [] ↔ l' = [] := by rw [← List.length_eq_zero_iff, h.length_eq, List.length_eq_zero_iff]
  simp only [statsOfNumbers, Binary64.sort_eq_of_perm h, hnil]

end LatencyHistogram

end Botmev.Core
