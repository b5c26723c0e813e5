import Botmev.Rust.Basic
import Mathlib.Data.List.Basic

/-!
# The cores of the workers

When the decision path (`mev-core/src/decision_path.rs`) is started, each worker of a stage gets a core,
"if configured": the filter and the bundle stage have one core or none, and the simulation stage has a
list of them, of which its workers take theirs in turn. By default the list is computed from the number
of CPUs.

The manager of the CPU affinity (`mev-core/src/cpu_pinning.rs`) has a function that assigns the same
cores. It asks whether there are any, which the stage does not. Nothing is really pinned.

## What is proved

* `startSimulationStage_eq`, `startSimulationStage_nil`: what the stage assigns.
* `getCoreAssignment_agrees`: the manager assigns the same, and never panics.
* `simulation_stage_starts_iff`: for which configurations the stage starts.
* `mem_cores_of_start`: the workers get cores that are assigned to their stages.
* `default_cores_lt`: the default cores are cores of the machine.
* `default_panics_iff`: on which machines it panics by default.
-/

namespace Botmev.Core

open Botmev.Rust Botmev.Library

/-- "CPU core assignments for pipeline stages". -/
structure CoreAssignments where
  filterCore : Option U64
  simulationCores : List U64
  bundleCore : Option U64
  metricsCore : Option U64
  deriving DecidableEq

/-- "Thread pool sizes for different stages". -/
structure ThreadPoolSizes where
  filterWorkers : U64
  simulationWorkers : U64
  bundleWorkers : U64
  deriving DecidableEq

/-- The part of `DecisionPathConfig` that places the workers. -/
structure WorkerPlacement where
  enableCpuPinning : Bool
  coreAssignments : CoreAssignments
  threadPools : ThreadPoolSizes
  deriving DecidableEq

/-- "CPU core pinning configuration". -/
structure CorePinningConfig where
  enabled : Bool
  coreIds : List U64
  workerThreads : U64

/-- `(start..stop).collect()`. -/
def collectRange (start stop : U64) : List U64 :=
  (List.range' start.toNat (stop.toNat - start.toNat)).map (BitVec.ofNat 64)

/-- `a % b` of `usize`. -/
def rem (a b : ℕ) : Result ℕ :=
  if b = 0 then .error (.panic "attempt to calculate the remainder with a divisor of zero") else .ok (a % b)

namespace CoreAssignments

/-- Every core that is assigned to a stage. -/
def cores (assignments : CoreAssignments) : List U64 :=
  assignments.filterCore.toList ++ assignments.simulationCores ++ assignments.bundleCore.toList ++
    assignments.metricsCore.toList

end CoreAssignments

namespace WorkerPlacement

/-- Those of `DecisionPathConfig::default()`, where `num_cpus::get()` is this. -/
def default (numCpus : U64) : WorkerPlacement where
  enableCpuPinning := true
  coreAssignments :=
    { filterCore := some 0
      -- "Use cores 1-3 for simulation".
      simulationCores := collectRange 1 (Uint.min numCpus 4)
      bundleCore := some (Uint.saturatingSub numCpus 1)
      -- "Let OS schedule metrics collection".
      metricsCore := none }
  threadPools :=
    { filterWorkers := 2
      simulationWorkers := Uint.min numCpus 4
      bundleWorkers := 1 }

variable (config : WorkerPlacement)

/-- `core_assignments.get(worker_id % core_assignments.len()).copied()`. -/
def simulationCore (workerId : ℕ) : Result (Option U64) := do
  let i ← rem workerId config.coreAssignments.simulationCores.length
  pure config.coreAssignments.simulationCores[i]?

/-- The cores of the workers that `start_filter_stage` spawns. -/
def startFilterStage : List (Option U64) :=
  List.replicate config.threadPools.filterWorkers.toNat config.coreAssignments.filterCore

/-- Those of `start_simulation_stage`. -/
def startSimulationStage : Result (List (Option U64)) :=
  (List.range config.threadPools.simulationWorkers.toNat).mapM config.simulationCore

/-- Those of `start_bundle_stage`. -/
def startBundleStage : List (Option U64) :=
  List.replicate config.threadPools.bundleWorkers.toNat config.coreAssignments.bundleCore

/-- Those of `start`. The affinity is initialized before, which does nothing. -/
def start : Result (List (Option U64)) := do
  let simulation ← config.startSimulationStage
  pure (config.startFilterStage ++ simulation ++ config.startBundleStage)

/-- The configuration of the manager that `new` makes. -/
def cpuManager : Option CorePinningConfig :=
  if config.enableCpuPinning then
    some
      { enabled := true
        coreIds := config.coreAssignments.simulationCores
        workerThreads := config.threadPools.simulationWorkers }
  else none

end WorkerPlacement

/-- `core_ids[i % num_cores]`. -/
def CorePinningConfig.coreId (config : CorePinningConfig) (i : ℕ) : Result U64 := do
  let i ← rem i config.coreIds.length
  match config.coreIds[i]? with
  | some coreId => pure coreId
  | none => .error (.panic "index out of bounds")

/-- `CpuAffinityManager::get_core_assignment`. -/
def CorePinningConfig.getCoreAssignment (config : CorePinningConfig) : Result (List U64) :=
  if !config.enabled || config.coreIds.isEmpty then pure []
  else (List.range config.workerThreads.toNat).mapM config.coreId

variable {config : WorkerPlacement}

/-! ### What is assigned -/

theorem mem_collectRange {start stop core : U64} :
    core ∈ collectRange start stop ↔ start.toNat ≤ core.toNat ∧ core.toNat < stop.toNat := by
  simp only [collectRange, List.mem_map, List.mem_range'_1]
  constructor
  · rintro ⟨n, ⟨hle, hlt⟩, rfl⟩
    rw [BitVec.toNat_ofNat, Nat.mod_eq_of_lt (by omega)]
    omega
  · rintro ⟨hle, hlt⟩
    exact ⟨core.toNat, ⟨hle, by omega⟩, by simp⟩

theorem collectRange_eq_nil_iff {start stop : U64} : collectRange start stop = [] ↔ stop ≤ start := by
  simp [collectRange, BitVec.le_def, Nat.sub_eq_zero_iff_le]

/-- **The workers take the cores in turn**, where there are any. -/
theorem startSimulationStage_eq (h : config.coreAssignments.simulationCores ≠ []) :
    config.startSimulationStage = .ok ((List.range config.threadPools.simulationWorkers.toNat).map fun workerId =>
      config.coreAssignments.simulationCores[workerId % config.coreAssignments.simulationCores.length]?) := by
  have hcore : config.simulationCore = fun workerId => pure
      config.coreAssignments.simulationCores[workerId % config.coreAssignments.simulationCores.length]? := by
    funext workerId
    rw [WorkerPlacement.simulationCore, rem, if_neg (by simpa using h), ok_bind]
  rw [WorkerPlacement.startSimulationStage, hcore, List.mapM_pure]
  rfl

/-- **Where there are none**, the first worker is not spawned. -/
theorem startSimulationStage_nil (h : config.coreAssignments.simulationCores = []) :
    config.startSimulationStage =
      if config.threadPools.simulationWorkers = 0 then .ok []
      else .error (.panic "attempt to calculate the remainder with a divisor of zero") := by
  rw [WorkerPlacement.startSimulationStage]
  split
  · rename_i hnone
    simp [hnone, pure, Except.pure]
  · rename_i hsome
    obtain ⟨n, hn⟩ := Nat.exists_eq_succ_of_ne_zero
      (show config.threadPools.simulationWorkers.toNat ≠ 0 from fun hzero => hsome (BitVec.eq_of_toNat_eq hzero))
    have hfirst : config.simulationCore 0 =
        .error (.panic "attempt to calculate the remainder with a divisor of zero") := by
      simp [WorkerPlacement.simulationCore, h, rem, bind, Except.bind]
    rw [hn, List.range_succ_eq_map, List.mapM_cons, hfirst]
    rfl

theorem getElem?_turn {cores : List U64} (h : cores ≠ []) (workerId : ℕ) :
    ∃ core ∈ cores, cores[workerId % cores.length]? = some core := by
  have hlt : workerId % cores.length < cores.length := Nat.mod_lt workerId (List.length_pos_of_ne_nil h)
  exact ⟨cores[workerId % cores.length], List.getElem_mem hlt, List.getElem?_eq_getElem hlt⟩

/-- **The manager assigns the same cores**, and none where there are none. -/
theorem getCoreAssignment_agrees {manager : CorePinningConfig} (h : config.cpuManager = some manager) :
    ∃ cores, manager.getCoreAssignment = .ok cores ∧
      (config.coreAssignments.simulationCores ≠ [] →
        config.startSimulationStage = .ok (cores.map some)) := by
  obtain ⟨-, rfl⟩ : config.enableCpuPinning = true ∧ _ = manager := by simpa [WorkerPlacement.cpuManager] using h
  rcases eq_or_ne config.coreAssignments.simulationCores [] with hnil | hne
  · exact ⟨[], by simp [CorePinningConfig.getCoreAssignment, hnil, pure, Except.pure], fun hne => absurd hnil hne⟩
  · obtain ⟨coreOf, hcoreOf⟩ : ∃ coreOf : ℕ → U64, ∀ workerId,
        config.coreAssignments.simulationCores[workerId % config.coreAssignments.simulationCores.length]? =
          some (coreOf workerId) := by
      choose coreOf _ hcoreOf using getElem?_turn hne
      exact ⟨coreOf, hcoreOf⟩
    refine ⟨(List.range config.threadPools.simulationWorkers.toNat).map coreOf, ?_, fun _ => ?_⟩
    · have hcoreId : CorePinningConfig.coreId
          ⟨true, config.coreAssignments.simulationCores, config.threadPools.simulationWorkers⟩ =
            fun workerId => pure (coreOf workerId) := by
        funext workerId
        rw [CorePinningConfig.coreId, rem, if_neg (by simpa using hne), ok_bind, hcoreOf workerId]
      rw [CorePinningConfig.getCoreAssignment, if_neg (by simpa using hne), hcoreId, List.mapM_pure]
      rfl
    · rw [startSimulationStage_eq hne, List.map_map]
      simp [hcoreOf, Function.comp_def]

/-- **The workers get cores that are assigned** to their stages. -/
theorem mem_cores_of_start {cores : List (Option U64)} {core : U64} (h : config.start = .ok cores)
    (hmem : some core ∈ cores) : core ∈ config.coreAssignments.cores := by
  obtain ⟨simulation, hsimulation, hcores⟩ := bind_eq_ok_iff.mp h
  cases hcores
  simp only [List.mem_append, WorkerPlacement.startFilterStage, WorkerPlacement.startBundleStage,
    List.mem_replicate] at hmem
  simp only [CoreAssignments.cores, List.mem_append, Option.mem_toList]
  rcases hmem with (⟨-, hfilter⟩ | hsim) | ⟨-, hbundle⟩
  · exact .inl (.inl (.inl hfilter.symm))
  · refine .inl (.inl (.inr ?_))
    rcases eq_or_ne config.coreAssignments.simulationCores [] with hnil | hne
    · rw [startSimulationStage_nil hnil] at hsimulation
      split at hsimulation
      · cases hsimulation
        cases hsim
      · cases hsimulation
    · rw [startSimulationStage_eq hne] at hsimulation
      cases hsimulation
      obtain ⟨workerId, -, hturn⟩ := List.mem_map.mp hsim
      exact List.mem_of_getElem? hturn
  · exact .inl (.inr hbundle.symm)

/-! ### Which configurations start -/

theorem default_cores_lt {numCpus core : U64} (hcpus : 1 ≤ numCpus.toNat)
    (hmem : core ∈ (WorkerPlacement.default numCpus).coreAssignments.cores) : core.toNat < numCpus.toNat := by
  simp only [WorkerPlacement.default, CoreAssignments.cores, List.mem_append, Option.mem_toList,
    Option.some.injEq, reduceCtorEq, or_false, mem_collectRange] at hmem
  rcases hmem with (rfl | ⟨-, hlt⟩) | rfl
  · exact hcpus
  · refine Nat.lt_of_lt_of_le hlt ?_
    rw [Uint.min]
    split
    · exact Nat.le_refl _
    · rename_i hmin
      exact Nat.le_of_lt (BitVec.not_le.mp hmin)
  · have hlt := numCpus.isLt
    rw [Uint.saturatingSub, BitVec.toNat_ofNat, Nat.mod_eq_of_lt (by omega)]
    exact Nat.sub_lt hcpus Nat.one_pos

theorem startSimulationStage_panics_iff (config : WorkerPlacement) :
    panics config.startSimulationStage = true ↔
      config.threadPools.simulationWorkers ≠ 0 ∧ config.coreAssignments.simulationCores = [] := by
  rcases eq_or_ne config.coreAssignments.simulationCores [] with hnil | hne
  · rw [startSimulationStage_nil hnil]
    split
    · rename_i hnone
      simp [hnone]
    · rename_i hsome
      exact iff_of_true rfl ⟨hsome, hnil⟩
  · simp [startSimulationStage_eq hne, hne]

/-- **The simulation stage starts**, and the default cores are cores of the machine, just where there are
no workers, or a core for them. -/
theorem simulation_stage_starts_iff (config : WorkerPlacement) :
    (panics config.startSimulationStage = false ∧
        ∀ numCpus : U64, 1 ≤ numCpus.toNat →
          ∀ core ∈ (WorkerPlacement.default numCpus).coreAssignments.cores, core.toNat < numCpus.toNat) ↔
      config.threadPools.simulationWorkers = 0 ∨ config.coreAssignments.simulationCores ≠ [] := by
  have hdefault : ∀ numCpus : U64, 1 ≤ numCpus.toNat →
      ∀ core ∈ (WorkerPlacement.default numCpus).coreAssignments.cores, core.toNat < numCpus.toNat :=
    fun numCpus hcpus core hmem => default_cores_lt hcpus hmem
  rw [and_iff_left hdefault, ← Bool.not_eq_true, startSimulationStage_panics_iff, not_and_or, not_ne_iff]

/-- **By default** it starts on two CPUs or more. -/
theorem default_panics_iff {numCpus : U64} (hcpus : 1 ≤ numCpus.toNat) :
    panics (WorkerPlacement.default numCpus).startSimulationStage = true ↔ numCpus.toNat = 1 := by
  have hworkers : (WorkerPlacement.default numCpus).threadPools.simulationWorkers ≠ 0 := by
    intro hzero
    have hmin : (Uint.min numCpus 4).toNat = 0 := congrArg BitVec.toNat hzero
    rw [Uint.min] at hmin
    split at hmin
    · omega
    · cases hmin
  have hcores : (WorkerPlacement.default numCpus).coreAssignments.simulationCores = [] ↔ numCpus.toNat = 1 := by
    simp only [WorkerPlacement.default, collectRange_eq_nil_iff, BitVec.le_def, Uint.min]
    split
    · simp
      omega
    · rename_i hmany
      simp at hmany ⊢
      omega
  rw [startSimulationStage_panics_iff, hcores]
  exact and_iff_right hworkers

/-- A machine with one CPU: the stage panics as it is by default. -/
theorem one_cpu_panics : 1 ≤ (1 : U64).toNat ∧ panics (WorkerPlacement.default 1).startSimulationStage = true := by
  decide

end Botmev.Core
