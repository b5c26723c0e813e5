import Botmev.Core.PnlAccounting

/-!
# Losses that are reported

The net profit of a simulation is the profit before gas less the gas, and nothing where the gas is
more. A result without a net profit is reported as a loss, of all that the gas costs; but it may have
made up for its gas, or for a part of it.

## What is proved

* `mem_applySafetyChecks_iff`: which losses are reported.
* `lossReported_iff`: whether what is reported of a simulation is its loss.
* `loss_overstated`: a loss that is reported as more than it is.
-/

namespace Botmev.Core.SimulationOptimizer

open Botmev.Rust Botmev.Library

variable {config : SimulationOptimizerConfig} {rpc : RpcAnswers} {bundle : SimulationBundle}
  {result : SimulationResult}

/-- **What is reported is the loss**: a `NegativePnL` just where the gas costs more than the profit, by
how much; and where there is none, the net profit is the difference. -/
structure LossReported (config : SimulationOptimizerConfig) (result : SimulationResult) : Prop where
  reported : (∃ bundleId netLossWei, .negativePnL bundleId netLossWei ∈ applySafetyChecks config result) ↔
    result.profitEstimate.grossProfitWei < result.profitEstimate.gasCostWei
  netLossWei : ∀ bundleId netLossWei, .negativePnL bundleId netLossWei ∈ applySafetyChecks config result →
    bundleId = result.bundleId ∧
      netLossWei.toNat = result.profitEstimate.gasCostWei.toNat - result.profitEstimate.grossProfitWei.toNat
  netProfitWei : (∀ bundleId netLossWei, .negativePnL bundleId netLossWei ∉ applySafetyChecks config result) →
    (result.profitEstimate.netProfitWei.toNat : ℤ) =
      result.profitEstimate.grossProfitWei.toNat - result.profitEstimate.gasCostWei.toNat

/-- One of the calls fails, or the gas of all of them costs less than a thousandth of an ether. -/
def NoProfitOrCheap (rpc : RpcAnswers) (bundle : SimulationBundle) : Prop :=
  ∀ blockNumber, rpc.blockNumber = .ok blockNumber →
    executed rpc blockNumber 0 bundle.transactions ≠ bundle.transactions ∨
      gasCosts bundle.transactions < 10 ^ 15

/-- **Which losses are reported**: all of the gas, where there is no net profit. -/
theorem mem_applySafetyChecks_iff {bundleId : String} {netLossWei : U256} :
    .negativePnL bundleId netLossWei ∈ applySafetyChecks config result ↔
      (result.profitEstimate.netProfitWei.toNat = 0 ∧ 0 < result.profitEstimate.gasCostWei.toNat) ∧
        bundleId = result.bundleId ∧ netLossWei = result.profitEstimate.gasCostWei := by
  have hnet : result.profitEstimate.netProfitWei = 0 ↔ result.profitEstimate.netProfitWei.toNat = 0 := by
    rw [← BitVec.toNat_inj]
    rfl
  have hcost : 0 < result.profitEstimate.gasCostWei ↔ 0 < result.profitEstimate.gasCostWei.toNat := BitVec.lt_def
  unfold applySafetyChecks
  rw [← hnet, ← hcost]
  constructor
  · intro hmem
    rcases List.mem_append.mp hmem with hmem | hmem
    · rcases List.mem_append.mp hmem with hmem | hmem
      · split at hmem <;> simp at hmem
      · split at hmem <;> simp at hmem
    · split at hmem
      · obtain ⟨rfl, rfl⟩ := SafetyViolation.negativePnL.inj (List.mem_singleton.mp hmem)
        exact ⟨‹_›, rfl, rfl⟩
      · cases hmem
  · rintro ⟨hloss, rfl, rfl⟩
    refine List.mem_append_right _ ?_
    rw [if_pos hloss]
    exact List.mem_singleton_self _

/-- **What is reported of a simulation is its loss**, just where one of the calls fails, so that there is
no profit, or the gas costs less than the profit. -/
theorem lossReported_iff (h : simulateBundleOptimized rpc bundle = .ok result) :
    LossReported config result ↔ NoProfitOrCheap rpc bundle := by
  obtain ⟨blockNumber, hblock, hcost, hgross, hnet⟩ := simulateBundleOptimized_ok h
  have hcondition : NoProfitOrCheap rpc bundle ↔
      result.profitEstimate.grossProfitWei.toNat = 0 ∨
        result.profitEstimate.gasCostWei.toNat < result.profitEstimate.grossProfitWei.toNat := by
    rw [hcost, hgross, grossProfitOf]
    simp only [NoProfitOrCheap, hblock, Except.ok.injEq, forall_eq']
    by_cases hall : executed rpc blockNumber 0 bundle.transactions = bundle.transactions
    · simp [hall]
    · simp [hall]
  rw [← hcost, ← hgross] at hnet
  rw [hcondition]
  constructor
  · intro hreported
    by_contra hneither
    obtain ⟨hprofit, hexpensive⟩ := not_or.mp hneither
    -- all of the gas is reported, although there was a profit
    have hmem : .negativePnL result.bundleId result.profitEstimate.gasCostWei ∈ applySafetyChecks config result :=
      mem_applySafetyChecks_iff.mpr ⟨⟨by omega, by omega⟩, rfl, rfl⟩
    obtain ⟨-, hloss⟩ := hreported.netLossWei _ _ hmem
    omega
  · intro hcheap
    have hnone : (∀ bundleId netLossWei, .negativePnL bundleId netLossWei ∉ applySafetyChecks config result) ↔
        ¬ (result.profitEstimate.netProfitWei.toNat = 0 ∧ 0 < result.profitEstimate.gasCostWei.toNat) := by
      simp only [mem_applySafetyChecks_iff]
      exact ⟨fun h hloss => h _ _ ⟨hloss, rfl, rfl⟩, fun h _ _ hmem => h hmem.1⟩
    refine ⟨?_, fun bundleId netLossWei hmem => ?_, fun hquiet => ?_⟩
    · rw [BitVec.lt_def, ← not_iff_not, not_exists]
      simp only [not_exists]
      rw [hnone]
      omega
    · obtain ⟨⟨hzero, hpos⟩, rfl, rfl⟩ := mem_applySafetyChecks_iff.mp hmem
      exact ⟨rfl, by omega⟩
    · have hquiet := hnone.mp hquiet
      omega

/-- A bundle whose gas costs less than the profit. -/
theorem cheap_loss_reported :
    ∃ result, simulateBundleOptimized sampleRpc (bundleOf 21000 1000000000) = .ok result ∧
      LossReported .default result := by
  have hok : (simulateBundleOptimized sampleRpc (bundleOf 21000 1000000000)).isOk = true := by decide
  obtain ⟨result, hresult⟩ := exists_ok_of_isOk hok
  refine ⟨result, hresult, (lossReported_iff hresult).mpr ?_⟩
  rintro blockNumber -
  exact .inr (by decide)

/-- **A loss overstated**: the gas costs 0.0021 ether, the profit is 0.001, and a loss of 0.0021 is
reported. And a bundle whose gas costs just what the profit is: there is no loss, and one is reported. -/
theorem loss_overstated :
    (∃ result, simulateBundleOptimized sampleRpc (bundleOf 21000 100000000000) = .ok result ∧
        .negativePnL "bundle_1" 2100000000000000 ∈ applySafetyChecks .default result ∧
        ¬ LossReported .default result) ∧
      ∃ result, simulateBundleOptimized sampleRpc (bundleOf 1000000 1000000000) = .ok result ∧
        .negativePnL "bundle_1" 1000000000000000 ∈ applySafetyChecks .default result ∧
        ¬ LossReported .default result := by
  have hexpensive : (simulateBundleOptimized sampleRpc (bundleOf 21000 100000000000)).toOption.map
      (fun result => (decide (.negativePnL "bundle_1" 2100000000000000 ∈ applySafetyChecks .default result),
        result.profitEstimate.grossProfitWei)) = some (true, 1000000000000000) := by decide
  have heven : (simulateBundleOptimized sampleRpc (bundleOf 1000000 1000000000)).toOption.map
      (fun result => (decide (.negativePnL "bundle_1" 1000000000000000 ∈ applySafetyChecks .default result),
        result.profitEstimate.grossProfitWei)) = some (true, 1000000000000000) := by decide
  have hwrong {bundle : SimulationBundle} {loss : U256}
      (h : (simulateBundleOptimized sampleRpc bundle).toOption.map (fun result =>
        (decide (.negativePnL "bundle_1" loss ∈ applySafetyChecks .default result),
          result.profitEstimate.grossProfitWei)) = some (true, 1000000000000000)) :
      ∃ result, simulateBundleOptimized sampleRpc bundle = .ok result ∧
        .negativePnL "bundle_1" loss ∈ applySafetyChecks .default result ∧ ¬ LossReported .default result := by
    generalize simulateBundleOptimized sampleRpc bundle = simulated at h ⊢
    rcases simulated with e | result
    · cases h
    obtain ⟨hmem, hgross⟩ := Prod.mk.inj (Option.some.inj h)
    have hmem := of_decide_eq_true hmem
    refine ⟨result, rfl, hmem, fun hreported => ?_⟩
    obtain ⟨-, hloss⟩ := hreported.netLossWei _ _ hmem
    obtain ⟨⟨-, hpos⟩, -, rfl⟩ := mem_applySafetyChecks_iff.mp hmem
    rw [hgross] at hloss
    change _ = _ - 1000000000000000 at hloss
    omega
  exact ⟨hwrong hexpensive, hwrong heven⟩

end Botmev.Core.SimulationOptimizer
