import Botmev.Core.TargetCompliance

/-!
# Resetting the statistics

`reset_stats` (`mev-core/src/latency_monitor.rs`) clears the counters and the measurements. The histograms
have no such method, and keep their samples.

A history is any list of what can happen to a monitor: the task that `new` spawns initializes the
histograms, latencies are recorded, statistics are read, and reset.

## What is proved

* `reached_afterEvents`: what a monitor has, after a history.
* `reset_is_full_iff`: when it is reset to a fresh one.
* `sample_kept`: a sample that is kept.
-/

namespace Botmev.Core

open Botmev.Rust Botmev.Library

/-! ### A histogram -/

namespace LatencyHistogram

variable {size : U64} {histogram : LatencyHistogram}

/-- A histogram of this size. It is only poisoned with samples, unless it cannot have any. -/
structure Sized (size : U64) (histogram : LatencyHistogram) : Prop where
  maxSamples : histogram.maxSamples = size
  length_le : histogram.samples.length ≤ size.toNat
  poisoned : histogram.poisoned = true → 0 < size.toNat → histogram.samples ≠ []

theorem sized_new (size : U64) : Sized size (new size) := ⟨rfl, Nat.zero_le _, fun h => by cases h⟩

/-- **Recording** leaves a sample. -/
theorem Sized.record (h : Sized size histogram) (latencyMs : Binary64) :
    Sized size (histogram.record latencyMs).2 ∧
      (0 < size.toNat → (histogram.record latencyMs).2.samples ≠ []) := by
  have hmax := h.maxSamples
  have hlength := h.length_le
  unfold LatencyHistogram.record
  split
  · rename_i hpoisoned
    exact ⟨h, h.poisoned hpoisoned⟩
  · rename_i hpoisoned
    split
    · rename_i hfull
      rw [hmax] at hfull
      split
      · rename_i hnil
        rw [hnil] at hfull
        exact ⟨⟨hmax, hlength, fun _ hpos => absurd hpos (Nat.not_lt.mpr hfull)⟩,
          fun hpos => absurd hpos (Nat.not_lt.mpr hfull)⟩
      · rename_i oldest samples hsamples
        have hne : samples ++ [latencyMs] ≠ [] := List.concat_ne_nil _ _
        rw [hsamples, List.length_cons] at hlength
        refine ⟨⟨hmax, ?_, fun _ _ => hne⟩, fun _ => hne⟩
        rw [List.length_append, List.length_singleton]
        exact hlength
    · rename_i hroom
      have hne : histogram.samples ++ [latencyMs] ≠ [] := List.concat_ne_nil _ _
      rw [hmax] at hroom
      refine ⟨⟨hmax, ?_, fun _ _ => hne⟩, fun _ => hne⟩
      rw [List.length_append, List.length_singleton]
      omega

theorem record_new (hsize : 0 < size.toNat) (latencyMs : Binary64) :
    (new size).record latencyMs = (.ok (), ⟨[latencyMs], false, size⟩) := by
  have hroom : ¬ size.toNat ≤ 0 := Nat.not_le.mpr hsize
  simp only [LatencyHistogram.record, new, List.length_nil, hroom, Bool.false_eq_true, if_false, List.nil_append]

theorem length_of_sortSamples {samples sorted : List Binary64} (h : sortSamples samples = .ok sorted) :
    sorted.length = samples.length := by
  unfold sortSamples at h
  split at h
  · cases h
  · cases h
    exact List.length_insertionSort _ _

/-- **Reading** leaves the samples. -/
theorem Sized.getStats (h : Sized size histogram) :
    Sized size histogram.getStats.2 ∧ histogram.getStats.2.samples.length = histogram.samples.length := by
  unfold LatencyHistogram.getStats
  split
  · exact ⟨h, rfl⟩
  · split
    · exact ⟨h, rfl⟩
    · rename_i hsamples
      split
      · exact ⟨⟨h.maxSamples, h.length_le, fun _ _ => hsamples⟩, rfl⟩
      · rename_i sorted hsorted
        have hlength := length_of_sortSamples hsorted
        have hne : sorted ≠ [] := by
          rw [← List.length_pos_iff, hlength, List.length_pos_iff]
          exact hsamples
        split <;> exact ⟨⟨h.maxSamples, hlength ▸ h.length_le, fun _ _ => hne⟩, hlength⟩

/-- **What is read** of a histogram with samples, that is not poisoned, counts them. -/
theorem getStats_count_ne_zero (hsized : Sized size histogram) (hpoisoned : histogram.poisoned = false)
    (hsamples : histogram.samples ≠ []) {stats : LatencyStats} (h : histogram.getStats.1 = .ok stats) :
    stats.count ≠ 0 := by
  unfold LatencyHistogram.getStats at h
  rw [hpoisoned, if_neg Bool.false_ne_true, if_neg hsamples] at h
  split at h
  · cases h
  · rename_i sorted hsorted
    have hlength := length_of_sortSamples hsorted
    have hpos := List.length_pos_iff.mpr hsamples
    obtain ⟨stats', hstats', hcount⟩ := exists_statsOf (List.length_pos_iff.mp (hlength ▸ hpos))
    rw [hstats'] at h
    obtain rfl := Except.ok.inj h
    intro hzero
    have hmod := congrArg BitVec.toNat (hcount.symm.trans hzero)
    have hle := hsized.length_le
    have hlt := size.isLt
    rw [hlength, BitVec.toNat_ofNat, Nat.mod_eq_of_lt (by omega)] at hmod
    exact Nat.ne_of_gt hpos hmod

end LatencyHistogram

/-! ### The monitor -/

namespace LatencyMonitor

/-- What can happen to a monitor. -/
inductive Event where
  /-- The task that `new` spawns runs. -/
  | initializeHistograms
  | recordLatency (category : LatencyCategory) (latencyMs : Binary64) (transactionId : String)
    (metadata : Option (List (String × String)))
  | getStats (category : LatencyCategory)
  | resetStats

/-- `reset_stats`. -/
def resetStats (monitor : LatencyMonitor) : LatencyMonitor :=
  { monitor with
    -- "Reset histogram (would need to implement reset method)"
    targetViolations := fun category => (monitor.targetViolations category).map fun _ => 0
    measurements := []
    totalMeasurements := 0 }

/-- What an event leaves. -/
def afterEvent (monitor : LatencyMonitor) : Event → LatencyMonitor
  | .initializeHistograms => monitor.initializeHistograms
  | .recordLatency category latencyMs transactionId metadata =>
    (monitor.recordLatency category latencyMs transactionId metadata).2
  | .getStats category => (monitor.getStats category).2
  | .resetStats => monitor.resetStats

/-- What one event after another leaves. -/
def afterEvents (monitor : LatencyMonitor) (events : List Event) : LatencyMonitor :=
  events.foldl afterEvent monitor

/-- What is recorded in the histograms. -/
inductive Recorded where
  /-- There are no histograms. -/
  | uninitialized
  | nothing
  | something

/-- What is recorded after an event. -/
def Recorded.next : Recorded → Event → Recorded
  | _, .initializeHistograms => .nothing
  | .nothing, .recordLatency .. => .something
  | recorded, _ => recorded

/-- What is recorded after a history. -/
def recorded (history : List Event) : Recorded := history.foldl .next .uninitialized

/-- A fresh monitor, whose histograms are initialized if those of the other one are. -/
def fresh (config : LatencyMonitorConfig) : Recorded → LatencyMonitor
  | .uninitialized => new config
  | .nothing | .something => (new config).initializeHistograms

/-- **A full reset**: whatever happens later, what `get_stats` returns is what it returns on a fresh
monitor. -/
def ResetIsFull (config : LatencyMonitorConfig) (history : List Event) : Prop :=
  ∀ later category,
    ((((new config).afterEvents history).resetStats.afterEvents later).getStats category).1 =
      (((fresh config (recorded history)).afterEvents later).getStats category).1

/-! ### After a history -/

variable {config : LatencyMonitorConfig} {monitor monitor' : LatencyMonitor} {category : LatencyCategory}
  {histogram : LatencyHistogram} {violations : U64}

/-- **Recording** changes the histogram, and may count a violation. -/
theorem afterEvent_recordLatency {latencyMs : Binary64} {transactionId : String}
    {metadata : Option (List (String × String))} (hhistogram : monitor.histograms category = some histogram)
    (hviolations : monitor.targetViolations category = some violations) :
    (monitor.afterEvent (.recordLatency category latencyMs transactionId metadata)).config = monitor.config ∧
      (monitor.afterEvent (.recordLatency category latencyMs transactionId metadata)).histograms =
        Function.update monitor.histograms category (some (histogram.record latencyMs).2) ∧
      ∃ counted,
        (monitor.afterEvent (.recordLatency category latencyMs transactionId metadata)).targetViolations =
          Function.update monitor.targetViolations category (some counted) := by
  rcases hrecord : histogram.record latencyMs with ⟨e | _, histogram'⟩
  · rw [afterEvent, recordLatency_of_error hhistogram hrecord]
    refine ⟨rfl, rfl, violations, ?_⟩
    rw [← hviolations, Function.update_eq_self]
  · obtain ⟨monitor', hstep, hconfig, hhistograms, hcounted⟩ :
        ∃ monitor', monitor.recordLatency category latencyMs transactionId metadata = (.ok (), monitor') ∧ _ :=
      recordLatency_of_ok hhistogram hviolations hrecord
    rw [afterEvent, hstep]
    exact ⟨hconfig, hhistograms, _, hcounted⟩

/-- **Reading** changes the histogram. -/
theorem afterEvent_getStats (hhistogram : monitor.histograms category = some histogram) :
    monitor.afterEvent (.getStats category) =
      { monitor with histograms := Function.update monitor.histograms category (some histogram.getStats.2) } := by
  simp only [afterEvent, LatencyMonitor.getStats, hhistogram]
  split <;> rfl

/-- Every category has a histogram of the configured size, and a counter. -/
structure Initialized (config : LatencyMonitorConfig) (monitor : LatencyMonitor) : Prop where
  config_eq : monitor.config = config
  histogram : ∀ category, ∃ histogram, monitor.histograms category = some histogram ∧
    histogram.Sized config.histogramSize
  violations : ∀ category, ∃ violations, monitor.targetViolations category = some violations

/-- A category has a sample. -/
def HoldsSample (monitor : LatencyMonitor) (category : LatencyCategory) : Prop :=
  ∃ histogram, monitor.histograms category = some histogram ∧ histogram.samples ≠ []

theorem initialized_initializeHistograms (hconfig : monitor.config = config) :
    Initialized config monitor.initializeHistograms where
  config_eq := hconfig
  histogram _ := ⟨_, rfl, hconfig ▸ LatencyHistogram.sized_new _⟩
  violations _ := ⟨0, rfl⟩

theorem Initialized.update (h : Initialized config monitor) (hconfig : monitor'.config = monitor.config)
    (hhistograms : monitor'.histograms = Function.update monitor.histograms category (some histogram))
    (hsized : histogram.Sized config.histogramSize)
    (hviolations : ∀ category, ∃ violations, monitor'.targetViolations category = some violations) :
    Initialized config monitor' := by
  refine ⟨hconfig.trans h.config_eq, fun other => ?_, hviolations⟩
  rw [hhistograms]
  by_cases hother : other = category
  · rw [hother, Function.update_self]
    exact ⟨histogram, rfl, hsized⟩
  · rw [Function.update_of_ne hother]
    exact h.histogram other

/-- **One event.** -/
theorem Initialized.afterEvent (h : Initialized config monitor) (event : Event) :
    Initialized config (monitor.afterEvent event) := by
  cases event with
  | initializeHistograms => exact initialized_initializeHistograms h.config_eq
  | recordLatency category latencyMs transactionId metadata =>
    obtain ⟨histogram, hhistogram, hsized⟩ := h.histogram category
    obtain ⟨violations, hviolations⟩ := h.violations category
    obtain ⟨hconfig, hhistograms, counted, hcounted⟩ := afterEvent_recordLatency hhistogram hviolations
    refine h.update hconfig hhistograms (hsized.record latencyMs).1 fun other => ?_
    rw [hcounted]
    by_cases hother : other = category
    · rw [hother, Function.update_self]
      exact ⟨counted, rfl⟩
    · rw [Function.update_of_ne hother]
      exact h.violations other
  | getStats category =>
    obtain ⟨histogram, hhistogram, hsized⟩ := h.histogram category
    rw [afterEvent_getStats hhistogram]
    exact h.update rfl rfl hsized.getStats.1 h.violations
  | resetStats =>
    refine ⟨h.config_eq, h.histogram, fun category => ?_⟩
    obtain ⟨violations, hviolations⟩ := h.violations category
    exact ⟨0, congrArg (Option.map fun _ => 0) hviolations⟩

/-- **What is recorded stays**, whether it is reset or not, until the histograms are new. -/
theorem HoldsSample.afterEvent (hsample : monitor.HoldsSample category) (h : Initialized config monitor)
    (hsize : 0 < config.histogramSize.toNat) {event : Event} (hevent : event ≠ .initializeHistograms) :
    (monitor.afterEvent event).HoldsSample category := by
  cases event with
  | initializeHistograms => exact absurd rfl hevent
  | recordLatency other latencyMs transactionId metadata =>
    obtain ⟨histogram, hhistogram, hsized⟩ := h.histogram other
    obtain ⟨violations, hviolations⟩ := h.violations other
    obtain ⟨-, hhistograms, -⟩ := afterEvent_recordLatency hhistogram hviolations
    rw [HoldsSample, hhistograms]
    by_cases hother : category = other
    · rw [hother, Function.update_self]
      exact ⟨_, rfl, (hsized.record latencyMs).2 hsize⟩
    · rw [Function.update_of_ne hother]
      exact hsample
  | getStats other =>
    obtain ⟨histogram, hhistogram, hsized⟩ := h.histogram other
    obtain ⟨before, hbefore, hsamples⟩ := hsample
    rw [afterEvent_getStats hhistogram]
    by_cases hother : category = other
    · subst hother
      obtain rfl := Option.some.inj (hhistogram.symm.trans hbefore)
      refine ⟨_, Function.update_self .., ?_⟩
      rw [← List.length_pos_iff, hsized.getStats.2, List.length_pos_iff]
      exact hsamples
    · exact ⟨before, (Function.update_of_ne hother ..).trans hbefore, hsamples⟩
  | resetStats => exact hsample

/-- What a monitor has, after a history. -/
def Reached (config : LatencyMonitorConfig) (monitor : LatencyMonitor) : Recorded → Prop
  | .uninitialized => monitor.resetStats = new config
  | .nothing => monitor.resetStats = (new config).initializeHistograms
  | .something => Initialized config monitor ∧
    (0 < config.histogramSize.toNat → ∃ category, monitor.HoldsSample category)

theorem afterEvents_concat (monitor : LatencyMonitor) (events : List Event) (event : Event) :
    monitor.afterEvents (events ++ [event]) = (monitor.afterEvents events).afterEvent event := by
  rw [afterEvents, afterEvents, List.foldl_append, List.foldl_cons, List.foldl_nil]

theorem resetStats_resetStats (monitor : LatencyMonitor) : monitor.resetStats.resetStats = monitor.resetStats := by
  simp only [resetStats, Option.map_map, Function.comp_const, Function.const_def]
  rfl

/-- The task that `new` spawns gives a fresh monitor its histograms. -/
theorem resetStats_initializeHistograms (hconfig : monitor.config = config) :
    monitor.initializeHistograms.resetStats = (new config).initializeHistograms := by
  subst hconfig
  rfl

/-- Recording, while there are no histograms, leaves nothing that is not reset. -/
theorem resetStats_recordLatency {latencyMs : Binary64} {transactionId : String}
    {metadata : Option (List (String × String))} (h : monitor.resetStats = new config) :
    (monitor.afterEvent (.recordLatency category latencyMs transactionId metadata)).resetStats = new config := by
  have hhistograms : monitor.histograms = fun _ => none := congrArg LatencyMonitor.histograms h
  have hviolations : monitor.targetViolations = fun _ => none := by
    funext other
    exact Option.map_eq_none_iff.mp (congrFun (congrArg LatencyMonitor.targetViolations h) other)
  have hcheck : (monitor.checkTarget category latencyMs).targetViolations = fun _ => none := by
    unfold checkTarget
    split
    · rw [hviolations]
      exact Function.update_eq_self category _
    · exact hviolations
  rw [← h, afterEvent, recordLatency, recordInHistogram, hhistograms]
  simp only [resetStats, storeMeasurement_config, storeMeasurement_histograms, storeMeasurement_targetViolations,
    checkTarget_config, checkTarget_histograms, hcheck, hviolations]

/-- A monitor that has not recorded anything in its histograms. -/
theorem initialized_of_nothing (h : monitor.resetStats = (new config).initializeHistograms) :
    Initialized config monitor where
  config_eq := congrArg LatencyMonitor.config h
  histogram category :=
    ⟨_, congrFun (congrArg LatencyMonitor.histograms h) category, LatencyHistogram.sized_new _⟩
  violations category := by
    have hcounter := congrFun (congrArg LatencyMonitor.targetViolations h) category
    obtain ⟨violations, hviolations, -⟩ := Option.map_eq_some_iff.mp hcounter
    exact ⟨violations, hviolations⟩

theorem afterEvent_getStats_of_nothing (h : monitor.resetStats = (new config).initializeHistograms) :
    monitor.afterEvent (.getStats category) = monitor := by
  have hhistogram : monitor.histograms category = some (.new config.histogramSize) :=
    congrFun (congrArg LatencyMonitor.histograms h) category
  rw [afterEvent_getStats hhistogram]
  have hsame : (LatencyHistogram.new config.histogramSize).getStats.2 = .new config.histogramSize := rfl
  rw [hsame, ← hhistogram, Function.update_eq_self]

/-- **One event.** -/
theorem Reached.afterEvent {recorded : Recorded} (h : Reached config monitor recorded) (event : Event) :
    Reached config (monitor.afterEvent event) (recorded.next event) := by
  cases recorded with
  | uninitialized =>
    cases event with
    | initializeHistograms => exact resetStats_initializeHistograms (congrArg LatencyMonitor.config h)
    | recordLatency => exact resetStats_recordLatency h
    | getStats category =>
      have hhistogram : monitor.histograms category = none :=
        congrFun (congrArg LatencyMonitor.histograms h) category
      have hsame : monitor.afterEvent (.getStats category) = monitor := by
        simp only [LatencyMonitor.afterEvent, LatencyMonitor.getStats, hhistogram]
      rw [hsame]
      exact h
    | resetStats => exact (resetStats_resetStats monitor).trans h
  | nothing =>
    have hinitialized := initialized_of_nothing h
    cases event with
    | initializeHistograms => exact resetStats_initializeHistograms (congrArg LatencyMonitor.config h)
    | recordLatency category latencyMs transactionId metadata =>
      refine ⟨hinitialized.afterEvent _, fun hsize => ⟨category, ?_⟩⟩
      obtain ⟨histogram, hhistogram, hsized⟩ := hinitialized.histogram category
      obtain ⟨violations, hviolations⟩ := hinitialized.violations category
      obtain ⟨-, hhistograms, -⟩ := afterEvent_recordLatency hhistogram hviolations
      rw [HoldsSample, hhistograms, Function.update_self]
      exact ⟨_, rfl, (hsized.record latencyMs).2 hsize⟩
    | getStats category =>
      rw [afterEvent_getStats_of_nothing h]
      exact h
    | resetStats => exact (resetStats_resetStats monitor).trans h
  | something =>
    obtain ⟨hinitialized, hsample⟩ := h
    by_cases hevent : event = .initializeHistograms
    · subst hevent
      exact resetStats_initializeHistograms hinitialized.config_eq
    · have hnext : Recorded.something.next event = .something := by
        cases event with
        | initializeHistograms => exact absurd rfl hevent
        | _ => rfl
      rw [hnext]
      refine ⟨hinitialized.afterEvent event, fun hsize => ?_⟩
      obtain ⟨category, hsample⟩ := hsample hsize
      exact ⟨category, hsample.afterEvent hinitialized hsize hevent⟩

/-- **A history.** -/
theorem reached_afterEvents (config : LatencyMonitorConfig) (history : List Event) :
    Reached config ((new config).afterEvents history) (recorded history) := by
  induction history using List.reverseRecOn with
  | nil => rfl
  | append_singleton history event ih =>
    rw [afterEvents_concat, recorded, List.foldl_append, List.foldl_cons, List.foldl_nil]
    exact ih.afterEvent event

theorem Initialized.afterEvents (h : Initialized config monitor) (events : List Event) :
    Initialized config (monitor.afterEvents events) := by
  induction events using List.reverseRecOn with
  | nil => exact h
  | append_singleton events event ih =>
    rw [afterEvents_concat]
    exact ih.afterEvent event

/-! ### What is read -/

theorem getStats_fst (hhistogram : monitor.histograms category = some histogram)
    (hviolations : monitor.targetViolations category = some violations) :
    (monitor.getStats category).1 =
      histogram.getStats.1.map fun stats => some (monitor.report category stats violations) := by
  unfold LatencyMonitor.getStats
  rw [hhistogram]
  rcases hread : histogram.getStats with ⟨e | stats, histogram'⟩ <;> simp only [hread, hviolations] <;> rfl

/-- How many samples the statistics count. -/
def countOf : Result (Option LatencyStats) → Option U64
  | .ok stats => stats.map (·.count)
  | .error _ => none

theorem countOf_getStats (h : Initialized config monitor)
    (hhistogram : monitor.histograms category = some histogram) :
    countOf (monitor.getStats category).1 = histogram.getStats.1.toOption.map (·.count) := by
  obtain ⟨violations, hviolations⟩ := h.violations category
  rw [getStats_fst hhistogram hviolations]
  rcases histogram.getStats.1 with e | stats <;> rfl

theorem countOf_getStats_ne_zero (h : Initialized config monitor)
    (hhistogram : monitor.histograms category = some histogram)
    (hpoisoned : histogram.poisoned = false) (hsamples : histogram.samples ≠ []) :
    countOf (monitor.getStats category).1 ≠ some 0 := by
  obtain ⟨histogram', hhistogram', hsized⟩ := h.histogram category
  obtain rfl := Option.some.inj (hhistogram.symm.trans hhistogram')
  rw [countOf_getStats h hhistogram]
  rcases hread : histogram.getStats.1 with e | stats
  · exact nofun
  · intro hcount
    exact LatencyHistogram.getStats_count_ne_zero hsized hpoisoned hsamples hread (Option.some.inj hcount)

theorem countOf_getStats_of_poisoned (h : Initialized config monitor)
    (hhistogram : monitor.histograms category = some histogram) (hpoisoned : histogram.poisoned = true) :
    countOf (monitor.getStats category).1 = some 0 := by
  rw [countOf_getStats h hhistogram, LatencyHistogram.getStats, if_pos hpoisoned]
  rfl

/-- **Histograms without room** never have anything to say. -/
theorem getStats_of_size_zero (h : Initialized config monitor) (hsize : config.histogramSize.toNat = 0)
    (category : LatencyCategory) :
    (monitor.getStats category).1 = .ok (some ((new config).report category .default 0)) := by
  obtain ⟨histogram, hhistogram, hsized⟩ := h.histogram category
  obtain ⟨violations, hviolations⟩ := h.violations category
  have hsamples : histogram.samples = [] := by
    rw [← List.length_eq_zero_iff]
    have hlength := hsized.length_le
    omega
  have hread : histogram.getStats.1 = .ok .default := by
    unfold LatencyHistogram.getStats
    split
    · rfl
    · rfl
  have htarget : monitor.getTargetForCategory category = (new config).getTargetForCategory category :=
    getTargetForCategory_congr h.config_eq category
  have hreport : monitor.report category .default violations = (new config).report category .default 0 := by
    simp only [report, htarget, LatencyStats.default, complianceRate_zero]
  rw [getStats_fst hhistogram hviolations, hread, ← hreport]
  rfl

theorem histograms_of_poisoned (h : Initialized config monitor)
    (hhistogram : monitor.histograms category = some histogram) (hpoisoned : histogram.poisoned = true)
    {latencyMs : Binary64} {transactionId : String} {metadata : Option (List (String × String))} :
    (monitor.afterEvent (.recordLatency category latencyMs transactionId metadata)).histograms category =
      some histogram := by
  obtain ⟨violations, hviolations⟩ := h.violations category
  obtain ⟨-, hhistograms, -⟩ := afterEvent_recordLatency hhistogram hviolations
  rw [hhistograms, Function.update_self, LatencyHistogram.record, if_pos hpoisoned]

theorem histograms_of_fresh (hsize : 0 < config.histogramSize.toNat) (category : LatencyCategory)
    {latencyMs : Binary64} {transactionId : String} {metadata : Option (List (String × String))} :
    ((new config).initializeHistograms.afterEvent
      (.recordLatency category latencyMs transactionId metadata)).histograms category =
        some ⟨[latencyMs], false, config.histogramSize⟩ := by
  have hhistogram : (new config).initializeHistograms.histograms category = some (.new config.histogramSize) := rfl
  obtain ⟨-, hhistograms, -⟩ := afterEvent_recordLatency hhistogram rfl
  rw [hhistograms, Function.update_self, LatencyHistogram.record_new hsize]

/-- A sample that is not reset: it is read, or the histogram is poisoned and records nothing any more. -/
theorem not_resetIsFull {history : List Event} (hsize : 0 < config.histogramSize.toNat)
    (hrecorded : recorded history = .something) : ¬ ResetIsFull config history := by
  intro hfull
  have hreached := reached_afterEvents config history
  rw [hrecorded] at hreached
  obtain ⟨hinitialized, hsample⟩ := hreached
  obtain ⟨category, histogram, hhistogram, hsamples⟩ := hsample hsize
  have hreset := hinitialized.afterEvent .resetStats
  have hfresh : Initialized config (new config).initializeHistograms := initialized_initializeHistograms rfl
  unfold ResetIsFull at hfull
  rw [hrecorded] at hfull
  rcases hpoisoned : histogram.poisoned with _ | _
  · refine countOf_getStats_ne_zero hreset hhistogram hpoisoned hsamples ?_
    refine (congrArg countOf (hfull [] category)).trans ?_
    exact countOf_getStats hfresh rfl
  · -- The next latency is recorded by the fresh monitor alone.
    have hlater := congrArg countOf (hfull [.recordLatency category (.finite 0) "" none] category)
    have hsilent := countOf_getStats_of_poisoned (hreset.afterEvent (.recordLatency category (.finite 0) "" none))
      (histograms_of_poisoned hreset hhistogram hpoisoned) hpoisoned
    exact countOf_getStats_ne_zero (hfresh.afterEvent _) (histograms_of_fresh hsize category) rfl
      (List.cons_ne_nil _ _) (hlater.symm.trans hsilent)

/-- **A full reset** just where nothing is recorded, or where the histograms have no room for anything. -/
theorem reset_is_full_iff (config : LatencyMonitorConfig) (history : List Event) :
    ResetIsFull config history ↔ config.histogramSize.toNat = 0 ∨ recorded history ≠ .something := by
  constructor
  · intro hfull
    rcases Nat.eq_zero_or_pos config.histogramSize.toNat with hsize | hsize
    · exact .inl hsize
    · exact .inr fun hrecorded => not_resetIsFull hsize hrecorded hfull
  · intro h
    have hreached := reached_afterEvents config history
    unfold ResetIsFull
    rcases hrecorded : recorded history with _ | _ | _ <;> rw [hrecorded] at hreached
    case something =>
      have hsize := h.resolve_right (not_not_intro hrecorded)
      have hreset := hreached.1.afterEvent .resetStats
      have hfresh : Initialized config (new config).initializeHistograms := initialized_initializeHistograms rfl
      intro later category
      exact (getStats_of_size_zero (hreset.afterEvents later) hsize category).trans
        (getStats_of_size_zero (hfresh.afterEvents later) hsize category).symm
    all_goals
      intro later category
      rw [show ((new config).afterEvents history).resetStats = _ from hreached]
      rfl

/-- **A sample that is kept.** -/
theorem sample_kept :
    ¬ ResetIsFull .default [.initializeHistograms, .recordLatency .endToEnd (.ofNat 50) "0x1" none] := by
  intro hfull
  have hcount := congrArg countOf (hfull [] .endToEnd)
  revert hcount
  decide +kernel

end LatencyMonitor

end Botmev.Core
