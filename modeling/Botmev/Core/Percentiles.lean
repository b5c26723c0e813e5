import Botmev.Core.Metrics
import Botmev.Library.Binary64Error
import Mathlib.Algebra.Order.BigOperators.Group.List
import Mathlib.Tactic.Linarith

/-!
# Percentiles in order

The statistics of `get_stats` (`mev-core/src/metrics.rs`), of samples that are exact: sums and quotients
are not rounded. The indices of the percentiles are what they are in the code, products of doubles that
are truncated.

## What is proved

* `half_le_percentileIndex`, `percentileIndex_mono`: where the percentiles are.
* `percentiles_ordered`: the statistics of exact samples are in order.
* `p95_le_p99`: so are the percentiles of doubles.
-/

namespace Botmev.Core

open Botmev.Rust Botmev.Library

/-- `samples[index]`. -/
def elementAt {α : Type} (samples : List α) (index : ℕ) : Result α :=
  match samples[index]? with
  | some x => .ok x
  | none => .error (.panic "index out of bounds")

/-- `LatencyStats`, not rounded. -/
structure ExactStats where
  medianMs : ℚ
  p95Ms : ℚ
  p99Ms : ℚ
  meanMs : ℚ
  count : U64

/-- `LatencyStats::default`. -/
def ExactStats.default : ExactStats := ⟨0, 0, 0, 0, 0⟩

/-- A histogram whose samples are exact. -/
structure ExactHistogram where
  samples : List ℚ
  /-- A `Vec` has so many elements as a `usize` can be. -/
  length_lt : samples.length < 2 ^ 64

namespace ExactHistogram

/-- The median of sorted samples. -/
def medianOf (samples : List ℚ) : Result ℚ :=
  let count := samples.length
  if count % 2 = 0 then do
    let below ← elementAt samples (count / 2 - 1)
    let above ← elementAt samples (count / 2)
    .ok ((below + above) / 2)
  else elementAt samples (count / 2)

/-- The statistics of sorted samples. -/
def statsOf (samples : List ℚ) : Result ExactStats := do
  let count := samples.length
  let medianMs ← medianOf samples
  let p95Ms ← elementAt samples (LatencyHistogram.percentileIndex count (.ofDecimal 95 2))
  let p99Ms ← elementAt samples (LatencyHistogram.percentileIndex count (.ofDecimal 99 2))
  let meanMs := samples.sum / count
  .ok ⟨medianMs, p95Ms, p99Ms, meanMs, BitVec.ofNat 64 count⟩

/-- `get_stats`. -/
def getStats (histogram : ExactHistogram) : Result ExactStats :=
  if histogram.samples = [] then .ok .default else statsOf (histogram.samples.insertionSort (· ≤ ·))

end ExactHistogram

/-! ### Where the percentiles are -/

namespace LatencyHistogram

theorem exists_percentiles : ∃ u95 u99 : ℕ, Binary64.ofDecimal 95 2 = .finite u95 ∧
    Binary64.ofDecimal 99 2 = .finite u99 ∧ u95 ≤ u99 ∧ 3 * Binary64.one ≤ 4 * u95 := by
  have hfinite : ∀ n ≤ 100,
      Binary64.ofDecimal n 2 = .finite (Binary64.roundUnits (n * Binary64.one) 100 : ℕ) := by
    intro n hn
    obtain ⟨k, -, hk, hone⟩ := Binary64.exists_one_eq_two_pow
    refine Binary64.ofRatio_of_le (k := k) ?_ (by omega)
    rw [← Binary64.roundUnits_two_pow_mul k (by decide : 0 < 100), Nat.mul_comm, hone]
    exact Binary64.roundUnits_mono _ (Nat.mul_le_mul_left _ hn)
  refine ⟨_, _, hfinite 95 (by decide), hfinite 99 (by decide), Binary64.roundUnits_mono _ ?_, ?_⟩
  · exact Nat.mul_le_mul_right _ (by decide)
  · decide +kernel

theorem percentileIndex_mono {count : ℕ} (hcount : count < 2 ^ 64) :
    percentileIndex count (.ofDecimal 95 2) ≤ percentileIndex count (.ofDecimal 99 2) := by
  obtain ⟨u95, u99, h95, h99, hle, -⟩ := exists_percentiles
  rw [percentileIndex, percentileIndex, h95, h99]
  exact min_le_min_right _ (Binary64.toUint_ofNat_mul_mono hcount hle)

theorem half_le_percentileIndex {count : ℕ} (hpos : 0 < count) (hcount : count < 2 ^ 64) :
    count / 2 ≤ percentileIndex count (.ofDecimal 95 2) := by
  obtain ⟨u95, -, h95, -, -, hu⟩ := exists_percentiles
  rw [percentileIndex, h95]
  exact le_min (Binary64.half_le_toUint_ofNat_mul hpos hcount hu) (by omega)

end LatencyHistogram

/-! ### In order -/

namespace ExactHistogram

variable {samples : List ℚ}

theorem elementAt_eq_ok {α : Type} {samples : List α} {index : ℕ} (h : index < samples.length) :
    elementAt samples index = .ok samples[index] := by
  rw [elementAt, List.getElem?_eq_getElem h]

theorem getElem_le_getElem {α : Type} [Preorder α] {samples : List α} (hsorted : samples.Pairwise (· ≤ ·))
    {i j : ℕ} (hij : i ≤ j) (hj : j < samples.length) : samples[i] ≤ samples[j] := by
  rcases Nat.eq_or_lt_of_le hij with rfl | hlt
  · exact le_refl _
  · exact List.pairwise_iff_getElem.mp hsorted i j _ hj hlt

theorem mean_between {lower upper : ℚ} (hpos : 0 < samples.length)
    (h : ∀ x ∈ samples, lower ≤ x ∧ x ≤ upper) :
    lower ≤ samples.sum / samples.length ∧ samples.sum / samples.length ≤ upper := by
  have hlength : (0 : ℚ) < samples.length := by exact_mod_cast hpos
  have hlower := List.card_nsmul_le_sum samples lower fun x hx => (h x hx).1
  have hupper := List.sum_le_card_nsmul samples upper fun x hx => (h x hx).2
  rw [nsmul_eq_mul] at hlower hupper
  constructor
  · rw [le_div_iff₀ hlength, mul_comm]
    exact hlower
  · rw [div_le_iff₀ hlength, mul_comm]
    exact hupper

/-- **In order**: the statistics are between the smallest sample and the largest one. -/
structure InOrder (samples : List ℚ) (stats : ExactStats) (smallest largest : ℚ) : Prop where
  smallest_mem : smallest ∈ samples
  largest_mem : largest ∈ samples
  bounds : ∀ x ∈ samples, smallest ≤ x ∧ x ≤ largest
  smallest_le_median : smallest ≤ stats.medianMs
  median_le_p95 : stats.medianMs ≤ stats.p95Ms
  p95_le_p99 : stats.p95Ms ≤ stats.p99Ms
  p99_le_largest : stats.p99Ms ≤ largest
  p95_mem : stats.p95Ms ∈ samples
  p99_mem : stats.p99Ms ∈ samples
  smallest_le_mean : smallest ≤ stats.meanMs
  mean_le_largest : stats.meanMs ≤ largest

/-- The median of sorted samples is between the first one and the one in the middle. -/
theorem exists_medianOf (hsorted : samples.Pairwise (· ≤ ·)) (hpos : 0 < samples.length)
    (hmiddle : samples.length / 2 < samples.length) :
    ∃ median, medianOf samples = .ok median ∧ samples[0] ≤ median ∧
      median ≤ samples[samples.length / 2] := by
  simp only [medianOf]
  split
  · -- Of an even number, it is the mean of two samples.
    have hbelow : samples.length / 2 - 1 < samples.length := by omega
    rw [elementAt_eq_ok hbelow, elementAt_eq_ok hmiddle]
    have hfirst := getElem_le_getElem hsorted (Nat.zero_le _) hbelow
    have hnext := getElem_le_getElem hsorted (Nat.sub_le _ 1) hmiddle
    exact ⟨_, rfl, by linarith, by linarith⟩
  · rw [elementAt_eq_ok hmiddle]
    exact ⟨_, rfl, getElem_le_getElem hsorted (Nat.zero_le _) hmiddle, le_refl _⟩

theorem exists_statsOf (hsorted : samples.Pairwise (· ≤ ·)) (hpos : 0 < samples.length)
    (hlt : samples.length < 2 ^ 64) :
    ∃ stats, statsOf samples = .ok stats ∧ ∃ smallest largest, InOrder samples stats smallest largest := by
  have hmiddle : samples.length / 2 < samples.length := Nat.div_lt_self hpos Nat.one_lt_two
  have hlast : samples.length - 1 < samples.length := by omega
  obtain ⟨median, hmedian, hfirst, hmedian'⟩ := exists_medianOf hsorted hpos hmiddle
  have hbounds : ∀ x ∈ samples, samples[0] ≤ x ∧ x ≤ samples[samples.length - 1] := by
    intro x hx
    obtain ⟨i, hi, rfl⟩ := List.mem_iff_getElem.mp hx
    exact ⟨getElem_le_getElem hsorted (Nat.zero_le i) hi, getElem_le_getElem hsorted (by omega) hlast⟩
  obtain ⟨hlower, hupper⟩ := mean_between hpos hbounds
  have h95 := LatencyHistogram.half_le_percentileIndex hpos hlt
  have hmono := LatencyHistogram.percentileIndex_mono hlt
  have h99 := LatencyHistogram.percentileIndex_lt hpos (.ofDecimal 99 2)
  simp only [statsOf, hmedian, ok_bind]
  generalize LatencyHistogram.percentileIndex samples.length (.ofDecimal 95 2) = i at *
  generalize LatencyHistogram.percentileIndex samples.length (.ofDecimal 99 2) = j at *
  have hi : i < samples.length := Nat.lt_of_le_of_lt hmono h99
  rw [elementAt_eq_ok hi, elementAt_eq_ok h99]
  exact ⟨_, rfl, samples[0], samples[samples.length - 1],
    { smallest_mem := List.getElem_mem hpos
      largest_mem := List.getElem_mem hlast
      bounds := hbounds
      smallest_le_median := hfirst
      median_le_p95 := hmedian'.trans (getElem_le_getElem hsorted h95 hi)
      p95_le_p99 := getElem_le_getElem hsorted hmono h99
      p99_le_largest := (hbounds _ (List.getElem_mem h99)).2
      p95_mem := List.getElem_mem hi
      p99_mem := List.getElem_mem h99
      smallest_le_mean := hlower
      mean_le_largest := hupper }⟩

/-- **The statistics are in order**, and every index is in range. -/
theorem percentiles_ordered (histogram : ExactHistogram) (hsamples : histogram.samples ≠ []) :
    ∃ stats, histogram.getStats = .ok stats ∧
      ∃ smallest largest, InOrder histogram.samples stats smallest largest := by
  have hperm := List.perm_insertionSort (· ≤ ·) histogram.samples
  have hlength := hperm.length_eq
  obtain ⟨stats, hstats, smallest, largest, h⟩ := exists_statsOf (List.pairwise_insertionSort (· ≤ ·) _)
    (hlength ▸ List.length_pos_iff.mpr hsamples) (hlength ▸ histogram.length_lt)
  refine ⟨stats, by rw [getStats, if_neg hsamples, hstats], smallest, largest, ?_⟩
  exact
    { h with
      smallest_mem := hperm.mem_iff.mp h.smallest_mem
      largest_mem := hperm.mem_iff.mp h.largest_mem
      bounds := fun x hx => h.bounds x (hperm.mem_iff.mpr hx)
      p95_mem := hperm.mem_iff.mp h.p95_mem
      p99_mem := hperm.mem_iff.mp h.p99_mem }

/-- Three samples, two of them equal. -/
theorem three_samples_ordered :
    ∃ stats, (ExactHistogram.mk [3, 1, 1] (by decide)).getStats = .ok stats ∧
      ∃ smallest largest, InOrder [3, 1, 1] stats smallest largest :=
  percentiles_ordered ⟨[3, 1, 1], by decide⟩ (by decide)

end ExactHistogram

/-! ### Doubles -/

namespace LatencyHistogram

theorem sampleAt_eq_elementAt (samples : List Binary64) (index : ℕ) :
    sampleAt samples index = elementAt samples index := by
  unfold sampleAt elementAt
  cases samples[index]? <;> rfl

/-- **The percentiles of doubles** are in order, too. -/
theorem p95_le_p99 {l : List Binary64.Number} (hlt : l.length < 2 ^ 64) {stats : LatencyStats}
    (h : statsOfNumbers l = .ok stats) : Binary64.le stats.p95Ms stats.p99Ms = true := by
  rcases eq_or_ne l [] with rfl | hl
  · cases h
    rfl
  · rw [statsOfNumbers, if_neg hl] at h
    obtain ⟨median, -, h⟩ := bind_eq_ok_iff.mp h
    obtain ⟨p95, h95, h⟩ := bind_eq_ok_iff.mp h
    obtain ⟨p99, h99, ⟨rfl⟩⟩ := bind_eq_ok_iff.mp h
    rw [List.length_map, List.length_insertionSort] at h95 h99
    have hmono := percentileIndex_mono hlt
    have hbound := percentileIndex_lt (List.length_pos_iff.mpr hl) (.ofDecimal 99 2)
    generalize percentileIndex l.length (.ofDecimal 95 2) = i at *
    generalize percentileIndex l.length (.ofDecimal 99 2) = j at *
    rw [← List.length_insertionSort (· ≤ ·) l] at hbound
    have hi := Nat.lt_of_le_of_lt hmono hbound
    have hsorted := ExactHistogram.getElem_le_getElem (Binary64.pairwise_sort l) hmono hbound
    rw [sampleAt_eq_elementAt, ExactHistogram.elementAt_eq_ok (by rwa [List.length_map]),
      List.getElem_map] at h95 h99
    obtain rfl := Except.ok.inj h95
    obtain rfl := Except.ok.inj h99
    exact hsorted

end LatencyHistogram

end Botmev.Core
