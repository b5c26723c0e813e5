import Botmev.Core.SimulationTotality

/-!
# The books of the optimizer

The tracker is written after each batch, from the results of its bundles. A bundle whose
simulation fails leaves no result, so it is on neither count; and the violations of the batch go
into its report, while nothing ever adds to those of the tracker.

## What is proved

* `tracked`: what an update adds to the tracker.
* `processBatches_ok`: what a run of batches adds.
* `accounted_iff`: for which runs the books are right.
-/

namespace Botmev.Core.SimulationOptimizer

open Botmev.Rust Botmev.Library

/-- A batch, and what its processing meets with. -/
structure Batch where
  /-- What is asked for. -/
  request : BatchSimulationRequest
  /-- How old the state is. -/
  stateAge : U64
  /-- What the RPC client answers to each of the tasks. -/
  rpc : ℕ → RpcAnswers

/-- One batch after another. -/
def processBatches (config : SimulationOptimizerConfig) :
    PnLTracker → List Batch → Result (List BatchSimulationResult × PnLTracker)
  | tracker, [] => pure ([], tracker)
  | tracker, batch :: batches => do
    let (report, tracker) ← processSingleBatch config batch.stateAge batch.rpc batch.request tracker
    let (reports, tracker) ← processBatches config tracker batches
    pure (report :: reports, tracker)

/-- **The books are right**: the counts are those of the bundles, the totals those of the
results, and the violations those that were reported. -/
structure Accounted (batches : List Batch) (reports : List BatchSimulationResult) (tracker : PnLTracker) :
    Prop where
  /-- The bundles. -/
  simulations : tracker.successfulSimulations.toNat + tracker.failedSimulations.toNat =
    (batches.map fun batch => batch.request.bundles.length).sum
  /-- The profits. -/
  profit : tracker.totalSimulatedProfitWei.toNat =
    (reports.map fun report =>
      (report.results.map fun result => result.profitEstimate.grossProfitWei.toNat).sum).sum
  /-- The gas costs. -/
  gasCosts : tracker.totalGasCostsWei.toNat =
    (reports.map fun report => (report.results.map fun result => result.profitEstimate.gasCostWei.toNat).sum).sum
  /-- The violations. -/
  violations : tracker.safetyViolations.toNat =
    (reports.map fun report => report.safetyViolations.length).sum

/-- The profit before gas of a simulation, by whether all its calls succeed. -/
def grossProfitOf (rpc : RpcAnswers) (bundle : SimulationBundle) (blockNumber : U64) : ℕ :=
  if executed rpc blockNumber 0 bundle.transactions = bundle.transactions then 10 ^ 15 else 0

/-- Nothing is wrong with a bundle: the client names a block to simulate it on, and the gas costs
less than the profit, or nothing, and leaves the least profit of it. -/
def Unobjectionable (config : SimulationOptimizerConfig) (rpc : RpcAnswers) (bundle : SimulationBundle) : Prop :=
  ∃ blockNumber, rpc.blockNumber = .ok blockNumber ∧
    let cost := gasCosts (executed rpc blockNumber 0 bundle.transactions)
    (cost = 0 ∨ cost < grossProfitOf rpc bundle blockNumber) ∧
      config.minProfitThresholdWei.toNat + cost ≤ grossProfitOf rpc bundle blockNumber

/-- Nothing is wrong with a batch: it is empty, or the state is fresh, and nothing is wrong with
any of its bundles. -/
def Batch.Unobjectionable (config : SimulationOptimizerConfig) (batch : Batch) : Prop :=
  (batch.request.bundles = [] ∨ batch.stateAge ≤ config.maxStaleStateMs) ∧
    ∀ p ∈ batch.request.bundles.zipIdx,
      SimulationOptimizer.Unobjectionable config (batch.rpc p.2) p.1

/-- No simulation of the batch overflows. -/
def Batch.InRange (batch : Batch) : Prop :=
  ∀ p ∈ batch.request.bundles.zipIdx, ∀ blockNumber, (batch.rpc p.2).blockNumber = .ok blockNumber →
    SimulationOptimizer.InRange (batch.rpc p.2) p.1 blockNumber

/-! ### The tracker -/

theorem trackResult_ok {tracker tracker' : PnLTracker} {result : SimulationResult}
    (h : trackResult tracker result = .ok tracker') :
    tracker'.successfulSimulations.toNat + tracker'.failedSimulations.toNat =
        tracker.successfulSimulations.toNat + tracker.failedSimulations.toNat + 1 ∧
      tracker'.totalSimulatedProfitWei.toNat =
        tracker.totalSimulatedProfitWei.toNat + result.profitEstimate.grossProfitWei.toNat ∧
      tracker'.totalGasCostsWei.toNat =
        tracker.totalGasCostsWei.toNat + result.profitEstimate.gasCostWei.toNat ∧
      tracker'.safetyViolations = tracker.safetyViolations := by
  have hone : (1 : U64).toNat = 1 := rfl
  obtain ⟨profit, hprofit, h⟩ := bind_eq_ok_iff.mp h
  obtain ⟨costs, hcosts, h⟩ := bind_eq_ok_iff.mp h
  split at h
  · obtain ⟨successful, hsuccessful, ⟨rfl⟩⟩ := bind_eq_ok_iff.mp h
    have hvalue := Uint.add_eq_ok_iff.mp hsuccessful
    refine ⟨?_, U256.add_eq_ok_iff.mp hprofit, U256.add_eq_ok_iff.mp hcosts, rfl⟩
    dsimp only at hvalue ⊢
    omega
  · obtain ⟨failed, hfailed, ⟨rfl⟩⟩ := bind_eq_ok_iff.mp h
    have hvalue := Uint.add_eq_ok_iff.mp hfailed
    refine ⟨?_, U256.add_eq_ok_iff.mp hprofit, U256.add_eq_ok_iff.mp hcosts, rfl⟩
    dsimp only at hvalue ⊢
    omega

/-- **What an update adds** to the tracker. -/
theorem tracked {results : List SimulationResult} {tracker tracker' : PnLTracker}
    (h : updatePnlTracking results tracker = .ok tracker') :
    tracker'.successfulSimulations.toNat + tracker'.failedSimulations.toNat =
        tracker.successfulSimulations.toNat + tracker.failedSimulations.toNat + results.length ∧
      tracker'.totalSimulatedProfitWei.toNat = tracker.totalSimulatedProfitWei.toNat +
        (results.map fun result => result.profitEstimate.grossProfitWei.toNat).sum ∧
      tracker'.totalGasCostsWei.toNat = tracker.totalGasCostsWei.toNat +
        (results.map fun result => result.profitEstimate.gasCostWei.toNat).sum ∧
      tracker'.safetyViolations = tracker.safetyViolations := by
  unfold updatePnlTracking at h
  induction results generalizing tracker with
  | nil =>
    obtain rfl := Except.ok.inj h
    simp
  | cons result results ih =>
    rw [List.foldlM_cons] at h
    obtain ⟨tracker₁, hresult, h⟩ := bind_eq_ok_iff.mp h
    obtain ⟨hcount₁, hprofit₁, hcosts₁, hviolations₁⟩ := trackResult_ok hresult
    obtain ⟨hcount, hprofit, hcosts, hviolations⟩ := ih h
    simp only [List.length_cons, List.map_cons, List.sum_cons]
    exact ⟨by omega, by omega, by omega, hviolations.trans hviolations₁⟩

/-! ### Runs of batches -/

/-- The report of a batch. -/
def report (config : SimulationOptimizerConfig) (batch : Batch) : BatchSimulationResult :=
  let results := collectResults batch.rpc batch.request.bundles
  let checked := if config.safetyChecksEnabled then results.flatMap (applySafetyChecks config) else []
  { batchId := batch.request.id, results
    safetyViolations := staleViolations config batch.stateAge batch.request.bundles ++ checked }

variable {config : SimulationOptimizerConfig}

/-- **What a run of batches adds** to the tracker. -/
theorem processBatches_ok (htracking : config.pnlTrackingEnabled = true) {batches : List Batch}
    {tracker tracker' : PnLTracker} {reports : List BatchSimulationResult}
    (h : processBatches config tracker batches = .ok (reports, tracker')) :
    reports = batches.map (report config) ∧
      tracker'.successfulSimulations.toNat + tracker'.failedSimulations.toNat =
        tracker.successfulSimulations.toNat + tracker.failedSimulations.toNat +
          (reports.map fun report => report.results.length).sum ∧
      tracker'.totalSimulatedProfitWei.toNat = tracker.totalSimulatedProfitWei.toNat +
        (reports.map fun report =>
          (report.results.map fun result => result.profitEstimate.grossProfitWei.toNat).sum).sum ∧
      tracker'.totalGasCostsWei.toNat = tracker.totalGasCostsWei.toNat +
        (reports.map fun report =>
          (report.results.map fun result => result.profitEstimate.gasCostWei.toNat).sum).sum ∧
      tracker'.safetyViolations = tracker.safetyViolations := by
  induction batches generalizing tracker reports with
  | nil =>
    cases h
    simp
  | cons batch batches ih =>
    obtain ⟨⟨report₁, tracker₁⟩, hbatch, h⟩ := bind_eq_ok_iff.mp h
    obtain ⟨⟨reports₂, tracker₂⟩, hbatches, ⟨rfl⟩⟩ := bind_eq_ok_iff.mp h
    have hreport : report₁ = report config batch ∧
        updatePnlTracking (report config batch).results tracker = .ok tracker₁ := by
      unfold processSingleBatch at hbatch
      rw [if_pos htracking] at hbatch
      obtain ⟨_, hupdate, ⟨rfl⟩⟩ := bind_eq_ok_iff.mp hbatch
      exact ⟨rfl, hupdate⟩
    obtain ⟨rfl, hupdate⟩ := hreport
    obtain ⟨hcount₁, hprofit₁, hcosts₁, hviolations₁⟩ := tracked hupdate
    obtain ⟨rfl, hcount, hprofit, hcosts, hviolations⟩ := ih hbatches
    simp only [List.map_cons, List.sum_cons]
    exact ⟨trivial, by omega, by omega, by omega, hviolations.trans hviolations₁⟩

/-! ### Violations -/

theorem simulateBundleOptimized_ok {rpc : RpcAnswers} {bundle : SimulationBundle} {result : SimulationResult}
    (h : simulateBundleOptimized rpc bundle = .ok result) :
    ∃ blockNumber, rpc.blockNumber = .ok blockNumber ∧
      result.profitEstimate.gasCostWei.toNat = gasCosts (executed rpc blockNumber 0 bundle.transactions) ∧
      result.profitEstimate.grossProfitWei.toNat = grossProfitOf rpc bundle blockNumber ∧
      result.profitEstimate.netProfitWei.toNat =
        grossProfitOf rpc bundle blockNumber - gasCosts (executed rpc blockNumber 0 bundle.transactions) := by
  obtain ⟨blockNumber, hblock, h⟩ := bind_eq_ok_iff.mp h
  obtain ⟨totals, htotals, h⟩ := bind_eq_ok_iff.mp h
  obtain ⟨netProfitWei, hnet, h⟩ := bind_eq_ok_iff.mp h
  obtain ⟨margin, -, ⟨rfl⟩⟩ := bind_eq_ok_iff.mp h
  obtain ⟨-, hcost, hsuccess⟩ := callTransactions_eq_ok_iff.mp htotals
  obtain ⟨_, hnet', hvalue⟩ := netProfit_ok (if totals.success then 1000000000000000 else 0) totals.totalGasCost
  obtain rfl := Except.ok.inj (hnet'.symm.trans hnet)
  have hzero : (0 : U256).toNat = 0 := rfl
  rw [hzero, Nat.zero_add] at hcost
  have hgross : (if totals.success then 1000000000000000 else 0 : U256).toNat =
      grossProfitOf rpc bundle blockNumber := by
    rw [grossProfitOf, hsuccess]
    by_cases hall : executed rpc blockNumber 0 bundle.transactions = bundle.transactions <;> simp [hall]
  exact ⟨blockNumber, anyhow_eq_ok_iff.mp hblock, hcost, hgross, by rw [hvalue, hgross, hcost]⟩

theorem applySafetyChecks_eq_nil_iff {rpc : RpcAnswers} {bundle : SimulationBundle} {result : SimulationResult}
    (h : simulateBundleOptimized rpc bundle = .ok result) :
    applySafetyChecks config result = [] ↔ Unobjectionable config rpc bundle := by
  obtain ⟨blockNumber, hblock, hcost, hgross, hnet⟩ := simulateBundleOptimized_ok h
  have hzero : (0 : U256).toNat = 0 := rfl
  have hchecks : applySafetyChecks config result = [] ↔
      ¬ result.profitEstimate.netProfitWei < config.minProfitThresholdWei ∧
        ¬ result.profitEstimate.grossProfitWei < result.profitEstimate.gasCostWei ∧
        ¬ (result.profitEstimate.netProfitWei = 0 ∧ 0 < result.profitEstimate.gasCostWei) := by
    simp only [applySafetyChecks, List.append_eq_nil_iff, ite_eq_right_iff, List.cons_ne_nil, imp_false, and_assoc]
  rw [hchecks, Unobjectionable, BitVec.lt_def, BitVec.lt_def, BitVec.lt_def, ← BitVec.toNat_inj, hnet, hgross,
    hcost, hzero]
  simp only [hblock, Except.ok.injEq, exists_eq_left']
  omega

theorem length_results_le (batch : Batch) :
    (report config batch).results.length ≤ batch.request.bundles.length := by
  have hle := List.length_filterMap_le Except.toOption
    (batch.request.bundles.zipIdx.map fun p => simulateBundleOptimized (batch.rpc p.2) p.1)
  rwa [List.length_map, List.length_zipIdx] at hle

theorem length_results_eq_iff (batch : Batch) :
    (report config batch).results.length = batch.request.bundles.length ↔
      ∀ p ∈ batch.request.bundles.zipIdx, ∃ result, simulateBundleOptimized (batch.rpc p.2) p.1 = .ok result := by
  have hiff := List.filterMap_length_eq_length (f := Except.toOption)
    (l := batch.request.bundles.zipIdx.map fun p => simulateBundleOptimized (batch.rpc p.2) p.1)
  rw [List.length_map, List.length_zipIdx, List.forall_mem_map] at hiff
  refine hiff.trans (forall₂_congr fun p _ => ?_)
  rcases simulateBundleOptimized (batch.rpc p.2) p.1 with e | result <;> simp [Except.toOption]

/-- **A batch** without violations, all of whose bundles yield a result, is one with which
nothing is wrong. -/
theorem batch_unobjectionable_iff (hchecks : config.safetyChecksEnabled = true) {batch : Batch}
    (hrange : batch.InRange) :
    (report config batch).results.length = batch.request.bundles.length ∧
        (report config batch).safetyViolations = [] ↔
      batch.Unobjectionable config := by
  have hstale : staleViolations config batch.stateAge batch.request.bundles = [] ↔
      batch.request.bundles = [] ∨ batch.stateAge ≤ config.maxStaleStateMs := by
    rw [staleViolations, hchecks, Bool.true_and, ← BitVec.not_lt]
    split <;> simp_all
  have hchecked : (report config batch).safetyViolations = [] ↔
      staleViolations config batch.stateAge batch.request.bundles = [] ∧
        ∀ result ∈ (report config batch).results, applySafetyChecks config result = [] := by
    unfold report
    dsimp only
    rw [if_pos hchecks, List.append_eq_nil_iff, List.flatMap_eq_nil_iff]
  have hmem (result : SimulationResult) : result ∈ (report config batch).results ↔
      ∃ p ∈ batch.request.bundles.zipIdx, simulateBundleOptimized (batch.rpc p.2) p.1 = .ok result := by
    unfold report collectResults
    simp only [List.mem_filterMap, List.mem_map, exists_exists_and_eq_and]
    refine exists_congr fun p => and_congr_right fun _ => ?_
    rcases simulateBundleOptimized (batch.rpc p.2) p.1 with e | found <;> simp [Except.toOption]
  rw [hchecked, hstale, length_results_eq_iff, Batch.Unobjectionable]
  constructor
  · rintro ⟨hall, hfresh, hnone⟩
    refine ⟨hfresh, fun p hp => ?_⟩
    obtain ⟨result, hresult⟩ := hall p hp
    exact (applySafetyChecks_eq_nil_iff hresult).mp (hnone result ((hmem result).mpr ⟨p, hp, hresult⟩))
  · rintro ⟨hfresh, hall⟩
    refine ⟨fun p hp => ?_, hfresh, fun result hresult => ?_⟩
    · obtain ⟨blockNumber, hblock, -⟩ := hall p hp
      exact exists_simulateBundleOptimized_ok_iff.mpr ⟨blockNumber, hblock, hrange p hp blockNumber hblock⟩
    · obtain ⟨p, hp, hresult⟩ := (hmem result).mp hresult
      exact (applySafetyChecks_eq_nil_iff hresult).mpr (hall p hp)

/-- Of counts that are never more than they should be, the sum is right just if each is. -/
theorem sums_eq_iff (batches : List Batch) :
    (batches.map fun batch => (report config batch).results.length).sum =
          (batches.map fun batch => batch.request.bundles.length).sum ∧
        (batches.map fun batch => (report config batch).safetyViolations.length).sum = 0 ↔
      ∀ batch ∈ batches, (report config batch).results.length = batch.request.bundles.length ∧
        (report config batch).safetyViolations = [] := by
  have hsum (batches : List Batch) : (batches.map fun batch => (report config batch).results.length).sum ≤
      (batches.map fun batch => batch.request.bundles.length).sum := by
    induction batches with
    | nil => simp
    | cons batch batches ih =>
      have hone : (report config batch).results.length ≤ batch.request.bundles.length := length_results_le batch
      simp only [List.map_cons, List.sum_cons]
      omega
  induction batches with
  | nil => simp
  | cons batch batches ih =>
    have hone : (report config batch).results.length ≤ batch.request.bundles.length := length_results_le batch
    have hothers := hsum batches
    rw [List.forall_mem_cons, ← List.length_eq_zero_iff]
    refine Iff.trans ?_ (and_congr_right fun _ => ih)
    simp only [List.map_cons, List.sum_cons]
    omega

/-- **The books are right** just if nothing is wrong with any of the batches. -/
theorem accounted_iff (hchecks : config.safetyChecksEnabled = true) (htracking : config.pnlTrackingEnabled = true)
    {batches : List Batch} {reports : List BatchSimulationResult} {tracker : PnLTracker}
    (hrange : ∀ batch ∈ batches, batch.InRange)
    (h : processBatches config .default batches = .ok (reports, tracker)) :
    Accounted batches reports tracker ↔ ∀ batch ∈ batches, batch.Unobjectionable config := by
  obtain ⟨rfl, hcount, hprofit, hcosts, hviolations⟩ := processBatches_ok htracking h
  have hzero : (PnLTracker.default.successfulSimulations.toNat + PnLTracker.default.failedSimulations.toNat = 0 ∧
      PnLTracker.default.totalSimulatedProfitWei.toNat = 0 ∧ PnLTracker.default.totalGasCostsWei.toNat = 0 ∧
      PnLTracker.default.safetyViolations.toNat = 0) := by decide
  have hbatches := forall₂_congr fun batch hbatch =>
    batch_unobjectionable_iff hchecks (hrange batch hbatch)
  rw [← hbatches, ← sums_eq_iff]
  simp only [List.map_map, Function.comp_def] at hcount
  constructor
  · intro haccounted
    have hsimulations := haccounted.simulations
    have hreported := haccounted.violations
    simp only [List.map_map, Function.comp_def] at hreported
    rw [hviolations] at hreported
    exact ⟨by omega, by omega⟩
  · rintro ⟨hresults, hnone⟩
    refine ⟨by omega, by omega, by omega, ?_⟩
    simp only [List.map_map, Function.comp_def]
    rw [hviolations]
    omega

/-! ### Two batches -/

/-- A batch of these bundles, on a fresh state. -/
def freshBatch (rpc : ℕ → RpcAnswers) (bundles : List SimulationBundle) : Batch where
  request := { id := "batch_0", bundles }
  stateAge := 0
  rpc := rpc

/-- A least profit of a tenth of what there is. -/
def lowThreshold : SimulationOptimizerConfig :=
  { SimulationOptimizerConfig.default with minProfitThresholdWei := 100000000000000 }

/-- A batch of one bundle, at a gwei. -/
def profitableBatch : Batch := freshBatch (fun _ => sampleRpc) [bundleOf 21000 1000000000]

/-- Its books are right. -/
theorem profitable_batch_accounted :
    ∃ reports tracker, processBatches lowThreshold .default [profitableBatch] = .ok (reports, tracker) ∧
      Accounted [profitableBatch] reports tracker := by
  have hok : (processBatches lowThreshold .default [profitableBatch]).isOk = true := by decide
  obtain ⟨⟨reports, tracker⟩, h⟩ := exists_ok_of_isOk hok
  have hbundles : profitableBatch.request.bundles.zipIdx = [(bundleOf 21000 1000000000, 0)] := rfl
  refine ⟨reports, tracker, h, (accounted_iff rfl rfl ?_ h).mpr ?_⟩
  · rw [List.forall_mem_singleton, Batch.InRange, hbundles, List.forall_mem_singleton]
    rintro blockNumber ⟨rfl⟩
    exact ⟨by decide, by decide⟩
  · rw [List.forall_mem_singleton, Batch.Unobjectionable, hbundles, List.forall_mem_singleton]
    exact ⟨.inr (by decide), 18000000, rfl, .inr (by decide), by decide⟩

/-- A client that does not answer. -/
def silentRpc : RpcAnswers where
  blockNumber := .error "request timed out"
  ethCall _ _ _ := .error "request timed out"

/-- A batch of two bundles, the first of which cannot be simulated. -/
def halfBatch : Batch :=
  freshBatch (fun i => if i = 0 then silentRpc else sampleRpc)
    [bundleOf 21000 1000000000, bundleOf 21000 1000000000]

/-- **A bundle and a violation that are in no book**: of the two bundles, one is counted; the
violation that is reported, the profit being below the threshold, is not. -/
theorem half_batch_unaccounted :
    ∃ reports tracker, processBatches .default .default [halfBatch] = .ok (reports, tracker) ∧
      tracker.successfulSimulations = 1 ∧ tracker.failedSimulations = 0 ∧ tracker.safetyViolations = 0 ∧
      (reports.map fun report => report.safetyViolations.length) = [1] ∧
      ¬ Accounted [halfBatch] reports tracker := by
  have hvalues : (processBatches .default .default [halfBatch]).toOption.map (fun (reports, tracker) =>
      (tracker.successfulSimulations, tracker.failedSimulations, tracker.safetyViolations,
        reports.map fun report => report.safetyViolations.length)) = some (1, 0, 0, [1]) := by decide
  rcases h : processBatches .default .default [halfBatch] with e | ⟨reports, tracker⟩
  · rw [h] at hvalues
    cases hvalues
  · rw [h] at hvalues
    simp only [Except.toOption, Option.map_some, Option.some.injEq, Prod.mk.injEq] at hvalues
    obtain ⟨hsuccessful, hfailed, hviolations, hreported⟩ := hvalues
    refine ⟨reports, tracker, rfl, hsuccessful, hfailed, hviolations, hreported, fun haccounted => ?_⟩
    have hcount := haccounted.violations
    rw [hreported, hviolations] at hcount
    cases hcount

end Botmev.Core.SimulationOptimizer
