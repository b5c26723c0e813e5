import Botmev.Core.HistogramWindow
import Botmev.Core.LatencyMonitor
import Botmev.Library.Binary64Error

/-!
# Target compliance

The violations that are counted stay counted when the samples they are of leave the histogram. So
the rate that is reported is that of the samples in the histogram only as long as every sample
that has left it met its target.

## What is proved

* `Counted.recordLatency`, `Counted.getStats`: one call keeps the counter equal to the violations in
  the histogram, if what leaves the histogram is none.
* `counted_afterCalls`: and so do the calls of a run.
* `reportsRate_of_run`: then every rate that is reported lies between zero and one, and is the
  fraction of the samples that met the target.
-/

namespace Botmev.Core.LatencyMonitor

open Botmev.Rust Botmev.Library SlidingWindow

/-- A call of `record_latency` or `get_stats`; what is recorded is a number. -/
inductive Call where
  | recordLatency (category : LatencyCategory) (latencyMs : Binary64.Number) (transactionId : String)
    (metadata : Option (List (String × String)))
  | getStats (category : LatencyCategory)

/-- What a call leaves. -/
def afterCall (monitor : LatencyMonitor) : Call → LatencyMonitor
  | .recordLatency category latencyMs transactionId metadata =>
    (monitor.recordLatency category latencyMs.val transactionId metadata).2
  | .getStats category => (monitor.getStats category).2

/-- What one call after the other leaves. -/
def afterCalls (monitor : LatencyMonitor) (calls : List Call) : LatencyMonitor :=
  calls.foldl afterCall monitor

/-- The samples of a category. -/
def samples (monitor : LatencyMonitor) (category : LatencyCategory) : List Binary64 :=
  ((monitor.histograms category).map LatencyHistogram.samples).getD []

/-- The samples of a category that met its target. -/
def metTarget (monitor : LatencyMonitor) (category : LatencyCategory) : ℕ :=
  (monitor.samples category).countP fun latencyMs => latencyMs.le (monitor.getTargetForCategory category)

/-- The rate that is reported for so many samples lies between zero and one, and is the fraction
of them that met the target, but for its rounding. -/
structure IsRate (stats : LatencyStats) (met count : ℕ) : Prop where
  count_eq : stats.count.toNat = count
  exists_rate : ∃ rate, stats.targetComplianceRate.value? = some rate ∧ 0 ≤ rate ∧ rate ≤ 1 ∧
    (0 < count → |rate - met / count| ≤ 1 / 2 ^ 49)

/-- The statistics of a category are reported, and the rate is one. -/
def ReportsRate (monitor : LatencyMonitor) (category : LatencyCategory) : Prop :=
  ∃ stats, (monitor.getStats category).1 = .ok (some stats) ∧
    IsRate stats (monitor.metTarget category) (monitor.samples category).length

/-- A call that loses no violation: a latency is recorded against a target that is a number, and
the sample that leaves a full histogram for it met the target. -/
def LosesNoViolation (monitor : LatencyMonitor) : Call → Prop
  | .recordLatency category _ _ _ =>
    (0 < monitor.config.histogramSize.toNat → monitor.getTargetForCategory category ≠ .nan) ∧
      (monitor.config.histogramSize.toNat ≤ (monitor.samples category).length →
        ∀ first ∈ (monitor.samples category).head?, first.le (monitor.getTargetForCategory category) = true)
  | .getStats _ => True

/-! ### The counter -/

variable {monitor : LatencyMonitor} {category other : LatencyCategory}

/-- Whether a latency is over the target. -/
def violates (monitor : LatencyMonitor) (category : LatencyCategory) (latencyMs : Binary64.Number) : Bool :=
  (monitor.getTargetForCategory category).lt latencyMs.val

/-- **The counter** of a category is that of the violations in its histogram, unless nothing is
recorded any more. -/
def Counted (monitor : LatencyMonitor) (category : LatencyCategory) : Prop :=
  ∃ window poisoned violations,
    monitor.histograms category =
      some ⟨window.map Binary64.Number.val, poisoned, monitor.config.histogramSize⟩ ∧
    monitor.targetViolations category = some violations ∧
    window.length ≤ monitor.config.histogramSize.toNat ∧
    (poisoned = true → window = []) ∧
    (poisoned = false → violations.toNat = window.countP (monitor.violates category)) ∧
    (window ≠ [] → monitor.getTargetForCategory category ≠ .nan)

theorem counted_initializeHistograms (config : LatencyMonitorConfig) (category : LatencyCategory) :
    (new config).initializeHistograms.Counted category :=
  ⟨[], false, 0, rfl, rfl, Nat.zero_le _, by decide, fun _ => rfl, absurd rfl⟩

theorem getTargetForCategory_congr {monitor' : LatencyMonitor} (hconfig : monitor'.config = monitor.config)
    (category : LatencyCategory) : monitor'.getTargetForCategory category = monitor.getTargetForCategory category := by
  cases category <;> simp only [getTargetForCategory, hconfig]

/-- What is counted after a call that has left this histogram and this counter. -/
theorem counted_of_eq {monitor' : LatencyMonitor} {window : List Binary64.Number} {poisoned : Bool}
    {violations : U64} (hconfig : monitor'.config = monitor.config)
    (hhistogram : monitor'.histograms category =
      some ⟨window.map Binary64.Number.val, poisoned, monitor.config.histogramSize⟩)
    (hviolations : monitor'.targetViolations category = some violations)
    (hlength : window.length ≤ monitor.config.histogramSize.toNat) (hpoisoned : poisoned = true → window = [])
    (hcount : poisoned = false → violations.toNat = window.countP (monitor.violates category))
    (htarget : window ≠ [] → monitor.getTargetForCategory category ≠ .nan) : monitor'.Counted category := by
  have hsame := getTargetForCategory_congr hconfig category
  have hviolates : monitor'.violates category = monitor.violates category := by
    funext latencyMs
    rw [violates, violates, hsame]
  refine ⟨window, poisoned, violations, ?_, hviolations, ?_, hpoisoned, ?_, ?_⟩
  · rw [hconfig, hhistogram]
  · rwa [hconfig]
  · rwa [hviolates]
  · rwa [hsame]

/-- A call that leaves the configuration, the histogram and the counter leaves what is counted. -/
theorem Counted.congr {monitor' : LatencyMonitor} (h : monitor.Counted category)
    (hconfig : monitor'.config = monitor.config)
    (hhistogram : monitor'.histograms category = monitor.histograms category)
    (hviolations : monitor'.targetViolations category = monitor.targetViolations category) :
    monitor'.Counted category := by
  obtain ⟨window, poisoned, violations, hwindow, hcounter, hlength, hpoisoned, hcount, htarget⟩ := h
  exact counted_of_eq hconfig (hhistogram.trans hwindow) (hviolations.trans hcounter) hlength hpoisoned hcount htarget

theorem countP_push {p : Binary64.Number → Bool} {k : ℕ} (window : List Binary64.Number)
    (x : Binary64.Number) (hfirst : k ≤ window.length → ∀ first ∈ window.head?, p first = false) :
    (push k window x).countP p = window.countP p + if p x then 1 else 0 := by
  unfold push
  rw [List.countP_append, List.countP_singleton]
  congr 1
  split
  · rename_i hfull
    rcases window with _ | ⟨first, window⟩
    · rfl
    · exact (List.countP_cons_of_neg (by simp [hfirst hfull first rfl])).symm
  · rfl

theorem length_push_le {k : ℕ} (hk : 0 < k) {window : List Binary64.Number} (hlength : window.length ≤ k)
    (x : Binary64.Number) : (push k window x).length ≤ k := by
  unfold push
  rw [List.length_append, List.length_singleton]
  split
  · rw [List.length_tail]
    omega
  · omega

theorem toNat_count_push {p : Binary64.Number → Bool} {k : ℕ} {window : List Binary64.Number}
    {x : Binary64.Number}
    {counter : U64} (hcount : counter.toNat = window.countP p) (hk : k < 2 ^ 64)
    (hlength : (push k window x).length ≤ k) (hfirst : k ≤ window.length → ∀ first ∈ window.head?, p first = false) :
    (if p x = true then counter + 1 else counter).toNat = (push k window x).countP p := by
  have hcountP := countP_push window x hfirst
  have hle : (push k window x).countP p ≤ (push k window x).length := List.countP_le_length
  rw [hcountP]
  by_cases hx : p x = true
  · have hone : (1 : U64).toNat = 1 := rfl
    rw [if_pos hx] at hcountP ⊢
    rw [if_pos hx, BitVec.toNat_add, hone, Nat.mod_eq_of_lt (by omega), hcount]
  · rw [if_neg hx, if_neg hx, hcount, Nat.add_zero]

theorem violates_eq_false {first : Binary64.Number} (hnumber : (monitor.getTargetForCategory category) ≠ .nan)
    (hle : first.val.le (monitor.getTargetForCategory category) = true) :
      monitor.violates category first = false := by
  rw [← Bool.not_eq_true, violates, Binary64.lt_iff_not_le hnumber first.ne_nan, not_not]
  exact hle

/-- **Recording** keeps the counter that of the violations, if it loses none. -/
theorem Counted.recordLatency {latencyMs : Binary64.Number} {transactionId : String}
    {metadata : Option (List (String × String))} (h : monitor.Counted category)
    (hloses : monitor.LosesNoViolation (.recordLatency category latencyMs transactionId metadata)) :
    (monitor.recordLatency category latencyMs.val transactionId metadata).2.Counted category := by
  obtain ⟨window, poisoned, violations, hwindow, hcounter, hlength, hpoisoned, hcount, htarget⟩ := h
  obtain ⟨hnumber, hleaves⟩ := hloses
  have hsamples : monitor.samples category = window.map Binary64.Number.val := by
    simp only [samples, hwindow, Option.map_some, Option.getD_some]
  rw [hsamples] at hleaves
  rcases poisoned with _ | _
  · rcases Nat.eq_zero_or_pos monitor.config.histogramSize.toNat with hzero | hsize
    · -- there is no sample to remove, which panics
      obtain rfl := List.length_eq_zero_iff.mp (Nat.le_zero.mp (hzero ▸ hlength))
      have hrecord : LatencyHistogram.record ⟨[], false, monitor.config.histogramSize⟩ latencyMs.val =
          (.error (.panic "removal index (is 0) should be < len (is 0)"),
            ⟨[], true, monitor.config.histogramSize⟩) := by
        simp [LatencyHistogram.record, hzero]
      rw [recordLatency_of_error hwindow hrecord]
      exact counted_of_eq rfl (Function.update_self ..) hcounter hlength (fun _ => rfl) Bool.noConfusion htarget
    · obtain ⟨monitor', hcall, hconfig, hhistograms, hviolations⟩ :=
        recordLatency_of_ok hwindow hcounter (LatencyHistogram.record_numbers hsize window latencyMs)
      rw [hcall]
      have hpush := length_push_le hsize hlength latencyMs
      have hfirst : monitor.config.histogramSize.toNat ≤ window.length →
          ∀ first ∈ window.head?, monitor.violates category first = false := by
        intro hfull first hmem
        have hmem' : first.val ∈ (window.map Binary64.Number.val).head? := by
          rw [List.head?_map, Option.mem_def.mp hmem]
          rfl
        have hle := hleaves (by rwa [List.length_map]) first.val hmem'
        exact violates_eq_false (hnumber hsize) hle
      have hwindow' : monitor'.histograms category = some
          ⟨(push monitor.config.histogramSize.toNat window latencyMs).map Binary64.Number.val, false,
            monitor.config.histogramSize⟩ := by
        rw [hhistograms, Function.update_self]
      have hcounter' := (congrFun hviolations category).trans (Function.update_self ..)
      refine counted_of_eq hconfig hwindow' hcounter' hpush Bool.noConfusion (fun _ => ?_) fun _ => hnumber hsize
      exact toNat_count_push (hcount rfl) monitor.config.histogramSize.isLt hpush hfirst
  · have hrecord : LatencyHistogram.record ⟨window.map Binary64.Number.val, true, monitor.config.histogramSize⟩
        latencyMs.val = _ := rfl
    obtain ⟨monitor', hcall, hconfig, hhistograms, hviolations⟩ :=
      recordLatency_of_ok hwindow hcounter hrecord
    rw [hcall]
    exact counted_of_eq hconfig (by rw [hhistograms, Function.update_self]) (by rw [hviolations, Function.update_self])
      hlength hpoisoned Bool.noConfusion htarget

/-- **Reading** keeps the counter that of the violations. -/
theorem Counted.getStats (h : monitor.Counted category) : (monitor.getStats category).2.Counted category := by
  obtain ⟨window, poisoned, violations, hwindow, hcounter, hlength, hpoisoned, hcount, htarget⟩ := h
  rcases poisoned with _ | _
  · obtain ⟨stats, hstats, -⟩ := LatencyHistogram.exists_statsOfNumbers window
    have hread : LatencyHistogram.getStats ⟨window.map Binary64.Number.val, false, monitor.config.histogramSize⟩ = _ :=
      LatencyHistogram.getStats_numbers window
    rw [hstats] at hread
    rw [getStats_of_ok hwindow hcounter hread]
    have hperm : (window.insertionSort (· ≤ ·)).Perm window := List.perm_insertionSort _ window
    refine counted_of_eq rfl (Function.update_self ..) hcounter ?_ Bool.noConfusion (fun _ => ?_) fun hne => htarget ?_
    · rwa [hperm.length_eq]
    · rw [hperm.countP_eq]
      exact hcount rfl
    · rintro rfl
      exact hne rfl
  · rw [getStats_of_ok hwindow hcounter rfl]
    exact counted_of_eq rfl (Function.update_self ..) hcounter hlength hpoisoned Bool.noConfusion htarget

/-! ### Runs -/

variable {calls : List Call} {call : Call}

theorem afterCalls_concat (monitor : LatencyMonitor) (calls : List Call) (call : Call) :
    monitor.afterCalls (calls ++ [call]) = (monitor.afterCalls calls).afterCall call := by
  rw [afterCalls, afterCalls, List.foldl_append, List.foldl_cons, List.foldl_nil]

/-- **One call** that loses no violation. -/
theorem counted_afterCall (h : ∀ category, monitor.Counted category) (hloses : monitor.LosesNoViolation call)
    (other : LatencyCategory) : (monitor.afterCall call).Counted other := by
  cases call with
  | recordLatency category latencyMs transactionId metadata =>
    by_cases hother : other = category
    · subst hother
      exact (h other).recordLatency hloses
    · have hsame : SameOther monitor (monitor.recordLatency category latencyMs.val transactionId metadata).2 category :=
        sameOther_recordLatency
      exact (h other).congr hsame.config (hsame.histograms other hother) (hsame.targetViolations other hother)
  | getStats category =>
    by_cases hother : other = category
    · subst hother
      exact (h other).getStats
    · have hsame : SameOther monitor (monitor.getStats category).2 category := sameOther_getStats
      exact (h other).congr hsame.config (hsame.histograms other hother) (hsame.targetViolations other hother)

/-- Every call of a run loses no violation. -/
def RunLosesNoViolation (monitor : LatencyMonitor) (calls : List Call) : Prop :=
  ∀ before call, before ++ [call] <+: calls → (monitor.afterCalls before).LosesNoViolation call

theorem counted_afterCalls (config : LatencyMonitorConfig)
    (hloses : RunLosesNoViolation (new config).initializeHistograms calls) (category : LatencyCategory) :
    ((new config).initializeHistograms.afterCalls calls).Counted category := by
  induction calls using List.reverseRecOn generalizing category with
  | nil => exact counted_initializeHistograms config category
  | append_singleton calls call ih =>
    rw [afterCalls_concat]
    refine counted_afterCall (ih fun before earlier hinit => ?_) (hloses calls call List.prefix_rfl) category
    exact hloses before earlier (hinit.trans (List.prefix_append _ _))

/-! ### The rate -/

theorem complianceRate_zero (violations : U64) : complianceRate violations 0 = .ofNat 1 := by
  unfold complianceRate
  exact if_neg (by decide)

theorem report_default_rate (violations : U64) :
    (monitor.report category .default violations).targetComplianceRate = .ofNat 1 := by
  dsimp only [report, LatencyStats.default]
  exact complianceRate_zero violations

/-- The rate, where no more violations are counted than samples. -/
theorem exists_complianceRate {violations count : U64} (hle : violations.toNat ≤ count.toNat) :
    ∃ rate, (complianceRate violations count).value? = some rate ∧ 0 ≤ rate ∧ rate ≤ 1 ∧
      (0 < count.toNat → |rate - (1 - violations.toNat / count.toNat)| ≤ 1 / 2 ^ 49) := by
  unfold complianceRate
  split
  · rename_i hpos
    obtain ⟨rate, hvalue, hnonneg, hone, herror⟩ := Binary64.exists_complement hpos hle count.isLt
    exact ⟨rate, hvalue, hnonneg, hone, fun _ => herror⟩
  · rename_i hzero
    exact ⟨1, Binary64.value?_ofNat_one, zero_le_one, le_rfl, fun hpos => absurd hpos hzero⟩

theorem metTarget_add_violations {window : List Binary64.Number}
    (hsamples : monitor.samples category = window.map Binary64.Number.val)
    (htarget : window ≠ [] → monitor.getTargetForCategory category ≠ .nan) :
    monitor.metTarget category + window.countP (monitor.violates category) = window.length := by
  have hnot : window.countP (monitor.violates category) =
      window.countP fun latencyMs => !latencyMs.val.le (monitor.getTargetForCategory category) := by
    refine List.countP_congr fun latencyMs hmem => ?_
    have hnumber := htarget (List.ne_nil_of_mem hmem)
    rw [violates, Binary64.lt_iff_not_le hnumber latencyMs.ne_nan, Bool.not_eq_true, Bool.not_eq_true']
  have hlength := List.length_eq_countP_add_countP (l := window)
    fun latencyMs => latencyMs.val.le (monitor.getTargetForCategory category)
  simp only [Bool.not_eq_true, Bool.decide_eq_false] at hlength
  rw [metTarget, hsamples, List.countP_map, hnot]
  exact hlength.symm

/-- **The rate that is reported**, while the counter is that of the violations in the histogram. -/
theorem Counted.reportsRate (h : monitor.Counted category) : monitor.ReportsRate category := by
  obtain ⟨window, poisoned, violations, hwindow, hcounter, hlength, hpoisoned, hcount, htarget⟩ := h
  have hsamples : monitor.samples category = window.map Binary64.Number.val := by
    simp only [samples, hwindow, Option.map_some, Option.getD_some]
  rcases poisoned with _ | _
  · obtain ⟨stats, hstats, hstatsCount⟩ := LatencyHistogram.exists_statsOfNumbers window
    have hread : LatencyHistogram.getStats ⟨window.map Binary64.Number.val, false, monitor.config.histogramSize⟩ = _ :=
      LatencyHistogram.getStats_numbers window
    rw [hstats] at hread
    have hlt := monitor.config.histogramSize.isLt
    have hlengthCount : stats.count.toNat = window.length := by
      rw [hstatsCount, BitVec.toNat_ofNat, Nat.mod_eq_of_lt (by omega)]
    have hmet := metTarget_add_violations hsamples htarget
    rw [← hcount rfl] at hmet
    have hle : violations.toNat ≤ stats.count.toNat := by omega
    obtain ⟨rate, hvalue, hnonneg, hone, herror⟩ := exists_complianceRate hle
    refine ⟨_, congrArg Prod.fst (getStats_of_ok hwindow hcounter hread), ?_,
      rate, hvalue, hnonneg, hone, fun hpos => ?_⟩
    · rw [hsamples, List.length_map]
      exact hlengthCount
    · rw [hsamples, List.length_map] at hpos ⊢
      have hfraction : (monitor.metTarget category : ℚ) / window.length =
          1 - violations.toNat / stats.count.toNat := by
        have hpos' : (window.length : ℚ) ≠ 0 := by exact_mod_cast hpos.ne'
        have hmet' : (monitor.metTarget category : ℚ) = window.length - violations.toNat := by
          rw [eq_sub_iff_add_eq]
          exact_mod_cast hmet
        rw [hlengthCount, hmet', sub_div, div_self hpos']
      rw [hfraction]
      exact herror (by omega)
  · obtain rfl := hpoisoned rfl
    refine ⟨_, congrArg Prod.fst (getStats_of_ok hwindow hcounter rfl), ?_, ?_⟩
    · rw [hsamples]
      rfl
    · rw [hsamples]
      refine ⟨1, ?_, zero_le_one, le_rfl, fun hpos => absurd hpos (Nat.lt_irrefl 0)⟩
      rw [report_default_rate, Binary64.value?_ofNat_one]

/-- **Target compliance is a rate**: in every run of an initialised monitor whose calls lose no
violation, the rate that is reported for a category lies between zero and one, and is the fraction
of the samples it is reported for that met the target. -/
theorem reportsRate_of_run (config : LatencyMonitorConfig) (calls : List Call)
    (hloses : RunLosesNoViolation (new config).initializeHistograms calls) (category : LatencyCategory) :
    ((new config).initializeHistograms.afterCalls calls).ReportsRate category :=
  (counted_afterCalls config hloses category).reportsRate

theorem runLosesNoViolation_concat_iff : RunLosesNoViolation monitor (calls ++ [call]) ↔
    RunLosesNoViolation monitor calls ∧ (monitor.afterCalls calls).LosesNoViolation call := by
  constructor
  · intro h
    exact ⟨fun before earlier hinit => h before earlier (hinit.trans (List.prefix_append _ _)),
      h calls call List.prefix_rfl⟩
  · rintro ⟨hbefore, hlast⟩ before earlier hinit
    rcases List.prefix_concat_iff.mp hinit with heq | hinit
    · obtain ⟨rfl, hcall⟩ := List.append_inj' heq rfl
      rwa [List.singleton_inj.mp hcall]
    · exact hbefore before earlier hinit

/-- A monitor whose histograms hold one sample. -/
def oneSample : LatencyMonitor := (new { LatencyMonitorConfig.default with histogramSize := 1 }).initializeHistograms

/-- A decision loop that takes so many ms. -/
def decisionLoop (latencyMs : ℕ) : Call := .recordLatency .totalDecisionLoop (.ofNat latencyMs) "0x1234" none

/-- Two decision loops, of which the first is within the target of 25 ms. -/
theorem second_violation_reported : (oneSample.afterCalls [decisionLoop 20, decisionLoop 30]).ReportsRate .totalDecisionLoop := by
  refine reportsRate_of_run _ _ ?_ _
  change RunLosesNoViolation _ ([] ++ [decisionLoop 20] ++ [decisionLoop 30])
  rw [runLosesNoViolation_concat_iff, runLosesNoViolation_concat_iff]
  refine ⟨⟨fun before earlier hinit => ?_, ?_, ?_⟩, ?_, ?_⟩
  · simp at hinit
  · decide +kernel
  · decide
  · decide +kernel
  · decide +kernel

/-- Two decision loops over the target: two violations of one sample are a rate of minus one. -/
theorem negative_rate_reported :
    ¬ (oneSample.afterCalls [decisionLoop 30, decisionLoop 30]).ReportsRate .totalDecisionLoop := by
  rintro ⟨stats, hstats, hrate⟩
  have hwindow : (oneSample.afterCalls [decisionLoop 30, decisionLoop 30]).histograms .totalDecisionLoop =
      some ⟨[Binary64.Number.ofNat 30].map Binary64.Number.val, false, 1⟩ := by
    decide +kernel
  have hcounter : (oneSample.afterCalls [decisionLoop 30, decisionLoop 30]).targetViolations .totalDecisionLoop =
      some 2 := by
    decide +kernel
  obtain ⟨read, hread, hcount⟩ := LatencyHistogram.exists_statsOfNumbers [Binary64.Number.ofNat 30]
  have hgetStats : LatencyHistogram.getStats ⟨[Binary64.Number.ofNat 30].map Binary64.Number.val, false, 1⟩ = _ :=
    LatencyHistogram.getStats_numbers _
  rw [hread] at hgetStats
  rw [getStats_of_ok hwindow hcounter hgetStats] at hstats
  obtain rfl := Option.some.inj (Except.ok.inj hstats)
  obtain ⟨rate, hvalue, hnonneg, -⟩ := hrate.exists_rate
  have hnegative : (complianceRate 2 1).lt (.finite 0) = true := by decide +kernel
  have hnot := Binary64.lt_zero_eq_false hvalue hnonneg
  dsimp only [report] at hnot
  rw [hcount] at hnot
  cases hnot.symm.trans hnegative

end Botmev.Core.LatencyMonitor
