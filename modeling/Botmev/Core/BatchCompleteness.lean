import Botmev.Core.PnlAccounting
import Mathlib.Data.List.Forall2

/-!
# The results of a batch

`simulate_batch` hands a batch to the background task, and waits for its results. A bundle one of whose
calls fails has a result that says so; a bundle that could not be simulated, because the client did not
say which block it is, or the sums overflowed, has none, and the results of the bundles after it are
further up.

## What is proved

* `simulateBatch_eq_ok`: the results are those of the batch.
* `complete_iff`: when there is one for each bundle.
* `batch_complete_iff`: the same of what `simulate_batch` returns.
* `results_shifted`: two bundles and one result.
-/

namespace Botmev.Core.SimulationOptimizer

open Botmev.Rust Botmev.Library

/-- `format!("batch_{}", number)`. -/
def batchId (number : U64) : String := "batch_" ++ toString number.toNat

/-- `simulate_batch`, for the batch of this number: whether the request can be queued, whether its
results are there in time, and what its processing meets with. -/
def simulateBatch (config : SimulationOptimizerConfig) (number : U64) (queueOpen inTime : Bool)
    (stateAge : U64) (rpc : ℕ → RpcAnswers) (tracker : PnLTracker) (bundles : List SimulationBundle) :
    Result BatchSimulationResult :=
  if queueOpen then
    match processSingleBatch config stateAge rpc { id := batchId number, bundles } tracker with
    | .ok (result, _) => if inTime then .ok result else .error (.err "Batch simulation timeout")
    -- a batch that panics has no results to wait for
    | .error _ => .error (.err "Batch simulation timeout")
  else .error (.err "channel closed")

/-- All of a bundle is executed. -/
def Succeeds (rpc : RpcAnswers) (bundle : SimulationBundle) : Prop :=
  ∃ blockNumber, rpc.blockNumber = .ok blockNumber ∧
    executed rpc blockNumber 0 bundle.transactions = bundle.transactions

/-- **One result for each bundle**, in their order, a success just where all of the bundle is executed. -/
def Complete (rpc : ℕ → RpcAnswers) (bundles : List SimulationBundle) (results : List SimulationResult) :
    Prop :=
  bundles.zipIdx.Forall₂
    (fun p result => result.bundleId = p.1.id ∧ (result.success = true ↔ Succeeds (rpc p.2) p.1)) results

/-- The client says which block it is, and the sums fit. -/
def Simulated (rpc : RpcAnswers) (bundle : SimulationBundle) : Prop :=
  ∃ blockNumber, rpc.blockNumber = .ok blockNumber ∧ InRange rpc bundle blockNumber

variable {config : SimulationOptimizerConfig} {number : U64} {queueOpen inTime : Bool} {stateAge : U64}
  {rpc : ℕ → RpcAnswers} {tracker : PnLTracker} {bundles : List SimulationBundle}
  {result : BatchSimulationResult}

theorem success_of_simulated {rpc : RpcAnswers} {bundle : SimulationBundle} {result : SimulationResult}
    (h : simulateBundleOptimized rpc bundle = .ok result) :
    result.bundleId = bundle.id ∧ (result.success = true ↔ Succeeds rpc bundle) := by
  obtain ⟨blockNumber, hblock, h⟩ := bind_eq_ok_iff.mp h
  obtain ⟨totals, htotals, h⟩ := bind_eq_ok_iff.mp h
  obtain ⟨netProfitWei, -, h⟩ := bind_eq_ok_iff.mp h
  obtain ⟨margin, -, ⟨rfl⟩⟩ := bind_eq_ok_iff.mp h
  obtain ⟨-, -, hsuccess⟩ := callTransactions_eq_ok_iff.mp htotals
  refine ⟨rfl, ?_⟩
  simp only [Succeeds, anyhow_eq_ok_iff.mp hblock, hsuccess, decide_eq_true_eq, Except.ok.injEq, exists_eq_left']

/-- **One result for each bundle**, just where each of them can be simulated. -/
theorem complete_iff (rpc : ℕ → RpcAnswers) (bundles : List SimulationBundle) :
    Complete rpc bundles (collectResults rpc bundles) ↔ ∀ p ∈ bundles.zipIdx, Simulated (rpc p.2) p.1 := by
  unfold Complete collectResults Simulated
  simp only [← exists_simulateBundleOptimized_ok_iff]
  generalize bundles.zipIdx = tasks
  constructor
  · intro h
    have hlength := h.length_eq.symm.trans
      (List.length_map fun p : SimulationBundle × ℕ => simulateBundleOptimized (rpc p.2) p.1).symm
    rw [List.filterMap_length_eq_length, List.forall_mem_map] at hlength
    intro p hp
    have hok := hlength p hp
    generalize simulateBundleOptimized (rpc p.2) p.1 = simulated at hok ⊢
    rcases simulated with e | result
    · cases hok
    · exact ⟨result, rfl⟩
  · intro h
    induction tasks with
    | nil => exact .nil
    | cons p tasks ih =>
      obtain ⟨⟨result, hresult⟩, h⟩ := List.forall_mem_cons.mp h
      rw [List.map_cons, hresult]
      exact .cons (success_of_simulated hresult) (ih h)

theorem processSingleBatch_ok {request : BatchSimulationRequest} {tracker' : PnLTracker}
    (h : processSingleBatch config stateAge rpc request tracker = .ok (result, tracker')) :
    result.batchId = request.id ∧ result.results = collectResults rpc request.bundles := by
  unfold processSingleBatch at h
  by_cases htracking : config.pnlTrackingEnabled = true
  · rw [if_pos htracking] at h
    obtain ⟨_, -, ⟨rfl⟩⟩ := bind_eq_ok_iff.mp h
    exact ⟨rfl, rfl⟩
  · rw [if_neg htracking] at h
    cases h
    exact ⟨rfl, rfl⟩

/-- **The results** are those of the batch, under its number. -/
theorem simulateBatch_eq_ok
    (h : simulateBatch config number queueOpen inTime stateAge rpc tracker bundles = .ok result) :
    result.batchId = batchId number ∧ result.results = collectResults rpc bundles := by
  unfold simulateBatch at h
  split at h
  · split at h
    · rename_i hbatch
      split at h
      · cases h
        exact processSingleBatch_ok hbatch
      · cases h
    · cases h
  · cases h

/-- **An `Ok` of `simulate_batch`** has one result for each bundle, just where the client says for each
which block it is, and the sums fit. -/
theorem batch_complete_iff
    (h : simulateBatch config number queueOpen inTime stateAge rpc tracker bundles = .ok result) :
    Complete rpc bundles result.results ↔ ∀ p ∈ bundles.zipIdx, Simulated (rpc p.2) p.1 := by
  rw [(simulateBatch_eq_ok h).2]
  exact complete_iff rpc bundles

/-- A client whose calls fail. -/
def revertingRpc : RpcAnswers where
  blockNumber := .ok 18000000
  ethCall _ _ _ := .error "execution reverted"

/-- A bundle that reverts, beside one that does not. -/
theorem revert_complete :
    ∃ result, simulateBatch .default 0 true true 0 (fun i => if i = 0 then revertingRpc else sampleRpc) .default
        [bundleOf 21000 1000000000, bundleOf 21000 1000000000] = .ok result ∧
      Complete (fun i => if i = 0 then revertingRpc else sampleRpc)
        [bundleOf 21000 1000000000, bundleOf 21000 1000000000] result.results := by
  have hok : (simulateBatch .default 0 true true 0 (fun i => if i = 0 then revertingRpc else sampleRpc) .default
      [bundleOf 21000 1000000000, bundleOf 21000 1000000000]).isOk = true := by decide
  obtain ⟨result, hresult⟩ := exists_ok_of_isOk hok
  refine ⟨result, hresult, (batch_complete_iff hresult).mpr fun p hp => ?_⟩
  have hp : p ∈ [(bundleOf 21000 1000000000, 0), (bundleOf 21000 1000000000, 1)] := hp
  rcases List.mem_cons.mp hp with rfl | hp
  · exact ⟨18000000, rfl, by decide, by decide⟩
  · obtain rfl := List.mem_singleton.mp hp
    exact ⟨18000000, rfl, by decide, by decide⟩

/-- **Results that are shifted**: of two bundles, the first cannot be simulated; the one result is that
of the second. -/
theorem results_shifted :
    ∃ result, simulateBatch .default 0 true true 0 (fun i => if i = 0 then silentRpc else sampleRpc) .default
        [{ bundleOf 21000 1000000000 with id := "bundle_0" }, bundleOf 21000 1000000000] = .ok result ∧
      result.results.map (·.bundleId) = ["bundle_1"] ∧
      ¬ Complete (fun i => if i = 0 then silentRpc else sampleRpc)
        [{ bundleOf 21000 1000000000 with id := "bundle_0" }, bundleOf 21000 1000000000] result.results := by
  have hids : (simulateBatch .default 0 true true 0 (fun i => if i = 0 then silentRpc else sampleRpc) .default
      [{ bundleOf 21000 1000000000 with id := "bundle_0" }, bundleOf 21000 1000000000]).toOption.map
        (fun result => result.results.map (·.bundleId)) = some ["bundle_1"] := by decide
  generalize simulateBatch .default 0 true true 0 (fun i => if i = 0 then silentRpc else sampleRpc) .default
      [{ bundleOf 21000 1000000000 with id := "bundle_0" }, bundleOf 21000 1000000000] = returned at hids ⊢
  rcases returned with e | result
  · cases hids
  have hids : result.results.map (·.bundleId) = ["bundle_1"] := Option.some.inj hids
  refine ⟨result, rfl, hids, fun hcomplete => ?_⟩
  have hlength := hcomplete.length_eq.trans (List.length_map (·.bundleId)).symm
  rw [hids] at hlength
  cases hlength

end Botmev.Core.SimulationOptimizer
