import Botmev.Core.Metrics
import Mathlib.Logic.Function.Basic

/-!
# The latency monitor

The monitor keeps a histogram of the latencies of each category, and a counter of those that were
over the target of the category. The rate of compliance is one minus the quotient of the two: of all
violations that were ever recorded, and of the samples that the histogram has now.

A map that has an entry for each category at most is a function to `Option`.

## What is proved

* `recordLatency_of_ok`, `recordLatency_of_error`: recording changes the histogram and the counter of
  its category alone, and nothing but the histogram if that panics.
* `sameOther_recordLatency`, `sameOther_getStats`: a call leaves the other categories.
* `getStats_of_ok`: what is reported, and what reading it leaves.
-/

namespace Botmev.Core

open Botmev.Rust Botmev.Library

/-- Latency measurement categories. -/
inductive LatencyCategory where
  | mempoolDetection
  | filterStage
  | simulationStage
  | bundleStage
  | totalDecisionLoop
  | endToEnd
  deriving DecidableEq, Repr

/-- Latency measurement point. -/
structure LatencyMeasurement where
  category : LatencyCategory
  latencyMs : Binary64
  transactionId : String
  metadata : List (String × String)

/-- Latency target configuration. -/
structure LatencyTargets where
  mempoolDetectionMs : Binary64
  filterStageMs : Binary64
  simulationStageMs : Binary64
  bundleStageMs : Binary64
  totalDecisionLoopMs : Binary64
  endToEndMs : Binary64

/-- `LatencyTargets::default`. -/
def LatencyTargets.default : LatencyTargets where
  mempoolDetectionMs := .ofNat 20
  filterStageMs := .ofNat 5
  simulationStageMs := .ofNat 15
  bundleStageMs := .ofNat 5
  totalDecisionLoopMs := .ofNat 25
  endToEndMs := .ofNat 45

/-- The part of the configuration that measuring reads. -/
structure LatencyMonitorConfig where
  targets : LatencyTargets
  histogramSize : U64
  enableDetailedLogging : Bool

/-- `LatencyMonitorConfig::default`. -/
def LatencyMonitorConfig.default : LatencyMonitorConfig := ⟨.default, 10000, false⟩

/-- Comprehensive latency monitoring system. -/
structure LatencyMonitor where
  config : LatencyMonitorConfig
  histograms : LatencyCategory → Option LatencyHistogram
  measurements : List LatencyMeasurement
  totalMeasurements : U64
  targetViolations : LatencyCategory → Option U64

namespace LatencyMonitor

/-- `LatencyMonitor::new`, before the task that it spawns has run. -/
def new (config : LatencyMonitorConfig) : LatencyMonitor where
  config := config
  histograms := fun _ => none
  measurements := []
  totalMeasurements := 0
  targetViolations := fun _ => none

/-- The task that `LatencyMonitor::new` spawns: it initializes the histograms of all categories. -/
def initializeHistograms (monitor : LatencyMonitor) : LatencyMonitor :=
  { monitor with
    histograms := fun _ => some (.new monitor.config.histogramSize)
    targetViolations := fun _ => some 0 }

/-- `get_target_for_category`. -/
def getTargetForCategory (monitor : LatencyMonitor) : LatencyCategory → Binary64
  | .mempoolDetection => monitor.config.targets.mempoolDetectionMs
  | .filterStage => monitor.config.targets.filterStageMs
  | .simulationStage => monitor.config.targets.simulationStageMs
  | .bundleStage => monitor.config.targets.bundleStageMs
  | .totalDecisionLoop => monitor.config.targets.totalDecisionLoopMs
  | .endToEnd => monitor.config.targets.endToEndMs

/-- Record in histogram. -/
def recordInHistogram (monitor : LatencyMonitor) (category : LatencyCategory) (latencyMs : Binary64) :
    Result Unit × LatencyMonitor :=
  match monitor.histograms category with
  | some histogram =>
    let (result, histogram) := histogram.record latencyMs
    (result, { monitor with histograms := Function.update monitor.histograms category (some histogram) })
  | none => (.ok (), monitor)

/-- Check against target: a violation is counted, by a counter that wraps. -/
def checkTarget (monitor : LatencyMonitor) (category : LatencyCategory) (latencyMs : Binary64) : LatencyMonitor :=
  if (monitor.getTargetForCategory category).lt latencyMs then
    { monitor with
      targetViolations :=
        Function.update monitor.targetViolations category ((monitor.targetViolations category).map (· + 1)) }
  else monitor

/-- Store measurement for detailed analysis, no more than the histograms hold. -/
def storeMeasurement (monitor : LatencyMonitor) (measurement : LatencyMeasurement) : LatencyMonitor :=
  if monitor.config.enableDetailedLogging then
    let measurements := monitor.measurements ++ [measurement]
    { monitor with
      measurements :=
        if monitor.config.histogramSize.toNat < measurements.length then measurements.tail else measurements }
  else monitor

/-- `record_latency`. -/
def recordLatency (monitor : LatencyMonitor) (category : LatencyCategory) (latencyMs : Binary64)
    (transactionId : String) (metadata : Option (List (String × String))) : Result Unit × LatencyMonitor :=
  match monitor.recordInHistogram category latencyMs with
  | (.error e, monitor) => (.error e, monitor)
  | (.ok (), monitor) =>
    let monitor := monitor.checkTarget category latencyMs
    let monitor := monitor.storeMeasurement ⟨category, latencyMs, transactionId, metadata.getD []⟩
    -- Update total counter
    (.ok (), { monitor with totalMeasurements := monitor.totalMeasurements + 1 })

/-- Latency statistics for a specific category. -/
structure LatencyStats where
  category : LatencyCategory
  count : U64
  meanMs : Binary64
  medianMs : Binary64
  p95Ms : Binary64
  p99Ms : Binary64
  minMs : Binary64
  maxMs : Binary64
  stdDevMs : Binary64
  targetMs : Binary64
  targetComplianceRate : Binary64

/-- The rate of compliance. -/
def complianceRate (violations count : U64) : Binary64 :=
  if 0 < count then
    (Binary64.ofNat 1).add ((Binary64.ofNat violations.toNat).div (Binary64.ofNat count.toNat)).neg
  else .ofNat 1

/-- What `get_stats` reports of the statistics of a histogram. -/
def report (monitor : LatencyMonitor) (category : LatencyCategory) (stats : Core.LatencyStats) (violations : U64) :
    LatencyStats where
  category := category
  count := stats.count
  meanMs := stats.meanMs
  medianMs := stats.medianMs
  p95Ms := stats.p95Ms
  p99Ms := stats.p99Ms
  minMs := .finite 0
  maxMs := .finite 0
  stdDevMs := if 1 < stats.count then (stats.p95Ms.add stats.medianMs.neg).div (.ofNat 2) else .finite 0
  targetMs := monitor.getTargetForCategory category
  targetComplianceRate := complianceRate violations stats.count

/-- `get_stats`. -/
def getStats (monitor : LatencyMonitor) (category : LatencyCategory) :
    Result (Option LatencyStats) × LatencyMonitor :=
  match monitor.histograms category with
  | none => (.ok none, monitor)
  | some histogram =>
    let (result, histogram) := histogram.getStats
    let monitor := { monitor with histograms := Function.update monitor.histograms category (some histogram) }
    match result with
    | .error e => (.error e, monitor)
    | .ok stats => (.ok ((monitor.targetViolations category).map (monitor.report category stats)), monitor)

/-! ### One call -/

variable {monitor : LatencyMonitor} {category other : LatencyCategory} {histogram histogram' : LatencyHistogram}
  {latencyMs : Binary64} {transactionId : String} {metadata : Option (List (String × String))} {violations : U64}

@[simp] theorem storeMeasurement_histograms (measurement : LatencyMeasurement) :
    (monitor.storeMeasurement measurement).histograms = monitor.histograms := by
  unfold storeMeasurement
  split <;> rfl

@[simp] theorem storeMeasurement_targetViolations (measurement : LatencyMeasurement) :
    (monitor.storeMeasurement measurement).targetViolations = monitor.targetViolations := by
  unfold storeMeasurement
  split <;> rfl

@[simp] theorem storeMeasurement_config (measurement : LatencyMeasurement) :
    (monitor.storeMeasurement measurement).config = monitor.config := by
  unfold storeMeasurement
  split <;> rfl

@[simp] theorem checkTarget_histograms : (monitor.checkTarget category latencyMs).histograms = monitor.histograms := by
  unfold checkTarget
  split <;> rfl

@[simp] theorem checkTarget_config : (monitor.checkTarget category latencyMs).config = monitor.config := by
  unfold checkTarget
  split <;> rfl

theorem checkTarget_targetViolations (hviolations : monitor.targetViolations category = some violations) :
    (monitor.checkTarget category latencyMs).targetViolations = Function.update monitor.targetViolations category
      (some (if (monitor.getTargetForCategory category).lt latencyMs then violations + 1 else violations)) := by
  unfold checkTarget
  split
  · rw [hviolations]
    rfl
  · rw [← hviolations, Function.update_eq_self]

/-- **Recording** in a histogram that can record. -/
theorem recordLatency_of_ok (hhistogram : monitor.histograms category = some histogram)
    (hviolations : monitor.targetViolations category = some violations)
    (hrecord : histogram.record latencyMs = (.ok (), histogram')) :
    ∃ monitor', monitor.recordLatency category latencyMs transactionId metadata = (.ok (), monitor') ∧
      monitor'.config = monitor.config ∧
      monitor'.histograms = Function.update monitor.histograms category (some histogram') ∧
      monitor'.targetViolations = Function.update monitor.targetViolations category
        (some (if (monitor.getTargetForCategory category).lt latencyMs then violations + 1 else violations)) := by
  have hstep : monitor.recordInHistogram category latencyMs = (.ok (),
      { monitor with histograms := Function.update monitor.histograms category (some histogram') }) := by
    simp only [recordInHistogram, hhistogram, hrecord]
  unfold recordLatency
  rw [hstep]
  refine ⟨_, rfl, ?_, ?_, ?_⟩
  · simp only [storeMeasurement_config, checkTarget_config]
  · simp only [storeMeasurement_histograms, checkTarget_histograms]
  · simp only [storeMeasurement_targetViolations]
    exact checkTarget_targetViolations hviolations

/-- Recording in a histogram that panics. -/
theorem recordLatency_of_error {e : Failure} (hhistogram : monitor.histograms category = some histogram)
    (hrecord : histogram.record latencyMs = (.error e, histogram')) :
    monitor.recordLatency category latencyMs transactionId metadata = (.error e,
      { monitor with histograms := Function.update monitor.histograms category (some histogram') }) := by
  simp only [recordLatency, recordInHistogram, hhistogram, hrecord]

/-- **Reading** the statistics of a histogram that can be read. -/
theorem getStats_of_ok {stats : Core.LatencyStats} (hhistogram : monitor.histograms category = some histogram)
    (hviolations : monitor.targetViolations category = some violations)
    (hstats : histogram.getStats = (.ok stats, histogram')) :
    monitor.getStats category = (.ok (some (monitor.report category stats violations)),
      { monitor with histograms := Function.update monitor.histograms category (some histogram') }) := by
  simp only [getStats, hhistogram, hstats, hviolations, Option.map_some]
  rfl

/-- What a call for one category leaves of another. -/
structure SameOther (monitor monitor' : LatencyMonitor) (category : LatencyCategory) : Prop where
  config : monitor'.config = monitor.config
  histograms : ∀ other, other ≠ category → monitor'.histograms other = monitor.histograms other
  targetViolations : ∀ other, other ≠ category → monitor'.targetViolations other = monitor.targetViolations other

theorem SameOther.trans {monitor' monitor'' : LatencyMonitor} (h : SameOther monitor monitor' category)
    (h' : SameOther monitor' monitor'' category) : SameOther monitor monitor'' category where
  config := h'.config.trans h.config
  histograms other hne := (h'.histograms other hne).trans (h.histograms other hne)
  targetViolations other hne := (h'.targetViolations other hne).trans (h.targetViolations other hne)

theorem sameOther_update (histogram : Option LatencyHistogram) : SameOther monitor
    { monitor with histograms := Function.update monitor.histograms category histogram } category :=
  ⟨rfl, fun _ hne => Function.update_of_ne hne .., fun _ _ => rfl⟩

theorem sameOther_recordInHistogram : SameOther monitor (monitor.recordInHistogram category latencyMs).2 category := by
  unfold recordInHistogram
  split
  · exact sameOther_update _
  · exact ⟨rfl, fun _ _ => rfl, fun _ _ => rfl⟩

theorem sameOther_checkTarget : SameOther monitor (monitor.checkTarget category latencyMs) category := by
  refine ⟨checkTarget_config, fun _ _ => by rw [checkTarget_histograms], fun other hne => ?_⟩
  unfold checkTarget
  split
  · exact Function.update_of_ne hne ..
  · rfl

/-- **Recording** leaves the other categories. -/
theorem sameOther_recordLatency :
    SameOther monitor (monitor.recordLatency category latencyMs transactionId metadata).2 category := by
  have hrecord : SameOther monitor (monitor.recordInHistogram category latencyMs).2 category :=
    sameOther_recordInHistogram
  unfold recordLatency
  generalize monitor.recordInHistogram category latencyMs = step at hrecord ⊢
  rcases step with ⟨e | _, recorded⟩
  · exact hrecord
  · have hcheck : SameOther recorded (recorded.checkTarget category latencyMs) category := sameOther_checkTarget
    refine SameOther.trans hrecord (hcheck.trans ⟨?_, fun _ _ => ?_, fun _ _ => ?_⟩)
    · exact storeMeasurement_config _
    · exact congrFun (storeMeasurement_histograms _) _
    · exact congrFun (storeMeasurement_targetViolations _) _

/-- **Reading** leaves the other categories. -/
theorem sameOther_getStats : SameOther monitor (monitor.getStats category).2 category := by
  unfold getStats
  rcases monitor.histograms category with _ | histogram
  · exact ⟨rfl, fun _ _ => rfl, fun _ _ => rfl⟩
  · rcases hread : histogram.getStats with ⟨e | stats, histogram'⟩ <;> simp only [hread] <;> exact sameOther_update _

end LatencyMonitor

end Botmev.Core
