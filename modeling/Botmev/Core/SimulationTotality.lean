import Botmev.Core.ForkSimulator
import Botmev.Core.SimulationOptimizer

/-!
# Which simulations return

Both simulators add up 256-bit numbers that come from the transactions and from the node, and
the fork simulator takes each estimate for a 128-bit number to multiply it. All of these panic
when they overflow. The profit estimate is far from that.

## What is proved

* `calculateProfitEstimate_ok`: profit estimates are always returned.
* `simulateTransactions_ok_iff`, `callTransactions_eq_ok_iff`: when the sums are, and what they
  are.
* `simulations_total_iff`: which simulations do not panic.
-/

namespace Botmev.Core

open Botmev.Rust Botmev.Library

/-! ### Calls that only panic -/

/-- It never returns an error. -/
def NeverErrs {α : Type} (r : Result α) : Prop := ∀ message, r ≠ .error (.err message)

theorem NeverErrs.ok {α : Type} (a : α) : NeverErrs (.ok a : Result α) := by
  rintro message ⟨⟩

theorem NeverErrs.bind {α β : Type} {r : Result α} {f : α → Result β} (hr : NeverErrs r)
    (hf : ∀ a, NeverErrs (f a)) : NeverErrs (r >>= f) := by
  rcases r with (message | message) | a
  · exact absurd rfl (hr message)
  · rintro _ ⟨⟩
  · exact hf a

theorem NeverErrs.checked {α : Type} {condition : Prop} [Decidable condition] {a : α} {message : String} :
    NeverErrs (if condition then .ok a else .error (.panic message) : Result α) := by
  split <;> rintro _ ⟨⟩

theorem NeverErrs.panics_bind_eq_false_iff {α β : Type} {r : Result α} {f : α → Result β} (h : NeverErrs r)
    (hf : ∀ a, ∃ b, f a = .ok b) : panics (r >>= f) = false ↔ ∃ a, r = .ok a := by
  rcases r with (message | message) | a
  · exact absurd rfl (h message)
  · exact iff_of_false (by rintro ⟨⟩) (by simp)
  · obtain ⟨b, hb⟩ := hf a
    rw [ok_bind, hb]
    exact iff_of_true rfl ⟨a, rfl⟩

/-! ### Profit estimates -/

theorem netProfit_ok (grossProfitWei totalGasCost : U256) :
    ∃ netProfitWei, netProfit grossProfitWei totalGasCost = .ok netProfitWei ∧
      netProfitWei.toNat = grossProfitWei.toNat - totalGasCost.toNat := by
  unfold netProfit
  split
  · rename_i hlt
    have hle := BitVec.le_of_lt hlt
    exact ⟨_, U256.sub_of_le hle, BitVec.toNat_sub_of_le hle⟩
  · rename_i hle
    rw [BitVec.not_lt, BitVec.le_def] at hle
    refine ⟨0, rfl, ?_⟩
    change 0 = _
    omega

theorem profitMargin_ok {netProfitWei grossProfitWei : U256} (hnet : netProfitWei.toNat < 2 ^ 128)
    (hgross : grossProfitWei.toNat < 2 ^ 128) :
    ∃ margin, profitMargin netProfitWei grossProfitWei = .ok margin := by
  obtain ⟨net, hnet⟩ := U256.exists_asU128_eq_ok_iff.mpr hnet
  obtain ⟨gross, hgross⟩ := U256.exists_asU128_eq_ok_iff.mpr hgross
  unfold profitMargin
  split
  · rw [hnet, ok_bind, hgross, ok_bind]
    exact ⟨_, rfl⟩
  · exact ⟨_, rfl⟩

theorem grossProfit_ok (successfulTxs : U64) :
    ∃ grossProfitWei, ForkSimulator.grossProfit successfulTxs = .ok grossProfitWei ∧
      grossProfitWei.toNat < 2 ^ 128 := by
  have hcount := successfulTxs.isLt
  have heach : (1000000000000000 : U256).toNat = 1000000000000000 := rfl
  have hwide := U256.toNat_ofUint_u64 successfulTxs
  unfold ForkSimulator.grossProfit
  split
  · have hfits : (U256.ofUint successfulTxs).toNat * (1000000000000000 : U256).toNat < 2 ^ 256 := by
      rw [hwide, heach]
      omega
    obtain ⟨grossProfitWei, hmul⟩ := U256.exists_mul_eq_ok_iff.mpr hfits
    refine ⟨grossProfitWei, hmul, ?_⟩
    rw [U256.mul_eq_ok_iff.mp hmul, hwide, heach]
    omega
  · exact ⟨0, rfl, by decide⟩

/-- **A profit estimate** is always returned. -/
theorem calculateProfitEstimate_ok (transactionResults : List TransactionResult) (totalGasCost : U256) :
    ∃ estimate, ForkSimulator.calculateProfitEstimate transactionResults totalGasCost = .ok estimate := by
  unfold ForkSimulator.calculateProfitEstimate
  generalize BitVec.ofNat 64 (transactionResults.countP (·.success)) = successfulTxs
  obtain ⟨grossProfitWei, hgross, hsmall⟩ := grossProfit_ok successfulTxs
  obtain ⟨netProfitWei, hnet, hless⟩ := netProfit_ok grossProfitWei totalGasCost
  have hnetSmall : netProfitWei.toNat < 2 ^ 128 := by omega
  obtain ⟨margin, hmargin⟩ := profitMargin_ok hnetSmall hsmall
  simp only [hgross, ok_bind, hnet, hmargin]
  exact ⟨_, rfl⟩

/-! ### The fork simulator -/

namespace ForkSimulator

variable {simulator : ForkSimulator} {node : NodeAnswers} {overridesState : Bool} {blockNumber : U64}

/-- What a transaction adds to the gas that is used: the estimate, if the call succeeds. -/
def usedGas (simulator : ForkSimulator) (node : NodeAnswers) (overridesState : Bool) (blockNumber : U64)
    (i : ℕ) (tx : SimulationTransaction) : ℕ :=
  if (simulator.callResult node overridesState i tx blockNumber).isOk then (gasEstimate node i tx blockNumber).toNat
  else 0

variable (simulator node overridesState blockNumber) in
/-- What the simulation of one transaction gives, if the estimate fits 128 bits. -/
theorem simulateTransaction_cases (i : ℕ) (tx : SimulationTransaction) :
    (gasEstimate node i tx blockNumber).toNat < 2 ^ 128 ∧
        (∃ txResult,
          simulator.simulateTransactionWithOverrides node overridesState i tx blockNumber = .ok txResult ∧
            txResult.effectiveGasPrice = tx.gasPrice ∧
            txResult.gasUsed.toNat = simulator.usedGas node overridesState blockNumber i tx) ∨
      ¬ (gasEstimate node i tx blockNumber).toNat < 2 ^ 128 ∧
        ∀ txResult,
          simulator.simulateTransactionWithOverrides node overridesState i tx blockNumber ≠ .ok txResult := by
  unfold simulateTransactionWithOverrides usedGas adjustedGasLimit
  generalize gasEstimate node i tx blockNumber = estimate
  by_cases hfits : estimate.toNat < 2 ^ 128
  · obtain ⟨narrow, hnarrow⟩ := U256.exists_asU128_eq_ok_iff.mpr hfits
    refine .inl ⟨hfits, ?_⟩
    simp only [hnarrow, ok_bind, pure_bind]
    rcases simulator.callResult node overridesState i tx blockNumber with errorMsg | returnData
    · exact ⟨_, rfl, rfl, rfl⟩
    · exact ⟨_, rfl, rfl, rfl⟩
  · refine .inr ⟨hfits, fun txResult h => hfits ?_⟩
    obtain ⟨adjusted, hadjusted, -⟩ := bind_eq_ok_iff.mp h
    obtain ⟨narrow, hnarrow, -⟩ := bind_eq_ok_iff.mp hadjusted
    exact U256.exists_asU128_eq_ok_iff.mp ⟨narrow, hnarrow⟩

/-- The gas that the transactions use, from the `i`th one on. -/
def totalUsedGas (simulator : ForkSimulator) (node : NodeAnswers) (overridesState : Bool) (blockNumber : U64)
    (i : ℕ) (txs : List SimulationTransaction) : ℕ :=
  ((txs.zipIdx i).map fun (tx, i) => simulator.usedGas node overridesState blockNumber i tx).sum

/-- What that costs, at their gas prices. -/
def totalCost (simulator : ForkSimulator) (node : NodeAnswers) (overridesState : Bool) (blockNumber : U64)
    (i : ℕ) (txs : List SimulationTransaction) : ℕ :=
  ((txs.zipIdx i).map fun (tx, i) =>
    tx.gasPrice.toNat * simulator.usedGas node overridesState blockNumber i tx).sum

variable (simulator node overridesState blockNumber) in
/-- **The loop over the transactions** comes to its end just if the estimates fit 128 bits and
the sums 256. -/
theorem simulateTransactions_ok_iff (txs : List SimulationTransaction) (i : ℕ) (totals : Totals) :
    (∃ totals', simulator.simulateTransactions node overridesState blockNumber i totals txs = .ok totals') ↔
      (∀ p ∈ txs.zipIdx i, (gasEstimate node p.2 p.1 blockNumber).toNat < 2 ^ 128) ∧
        totals.totalGasUsed.toNat + simulator.totalUsedGas node overridesState blockNumber i txs < 2 ^ 256 ∧
        totals.totalGasCost.toNat + simulator.totalCost node overridesState blockNumber i txs < 2 ^ 256 := by
  induction txs generalizing i totals with
  | nil =>
    refine iff_of_true ⟨totals, rfl⟩ ⟨by simp, ?_, ?_⟩
    · simpa [totalUsedGas] using totals.totalGasUsed.isLt
    · simpa [totalCost] using totals.totalGasCost.isLt
  | cons tx txs ih =>
    have hused : simulator.totalUsedGas node overridesState blockNumber i (tx :: txs) =
        simulator.usedGas node overridesState blockNumber i tx +
          simulator.totalUsedGas node overridesState blockNumber (i + 1) txs := by
      simp [totalUsedGas, List.zipIdx_cons]
    have hcost : simulator.totalCost node overridesState blockNumber i (tx :: txs) =
        tx.gasPrice.toNat * simulator.usedGas node overridesState blockNumber i tx +
          simulator.totalCost node overridesState blockNumber (i + 1) txs := by
      simp [totalCost, List.zipIdx_cons]
    rw [hused, hcost, List.zipIdx_cons, List.forall_mem_cons]
    rcases simulateTransaction_cases simulator node overridesState blockNumber i tx with
      ⟨hfits, txResult, hresult, hprice, hgas⟩ | ⟨hlarge, hnone⟩
    · rw [simulateTransactions, hresult, ok_bind]
      constructor
      · rintro ⟨totals', h⟩
        obtain ⟨gasUsed, hgasUsed, h⟩ := bind_eq_ok_iff.mp h
        obtain ⟨cost, hmul, h⟩ := bind_eq_ok_iff.mp h
        obtain ⟨gasCost, hgasCost, h⟩ := bind_eq_ok_iff.mp h
        obtain ⟨hestimates, hused, hcost⟩ := (ih _ _).mp ⟨totals', h⟩
        rw [U256.add_eq_ok_iff.mp hgasUsed, hgas] at hused
        rw [U256.add_eq_ok_iff.mp hgasCost, U256.mul_eq_ok_iff.mp hmul, hprice, hgas] at hcost
        exact ⟨⟨hfits, hestimates⟩, by omega, by omega⟩
      · rintro ⟨⟨-, hestimates⟩, hused, hcost⟩
        obtain ⟨gasUsed, hgasUsed⟩ : ∃ gasUsed, U256.add totals.totalGasUsed txResult.gasUsed = .ok gasUsed :=
          U256.exists_add_eq_ok_iff.mpr (by rw [hgas]; omega)
        obtain ⟨cost, hmul⟩ : ∃ cost, U256.mul txResult.effectiveGasPrice txResult.gasUsed = .ok cost :=
          U256.exists_mul_eq_ok_iff.mpr (by rw [hprice, hgas]; omega)
        have hcostValue := U256.mul_eq_ok_iff.mp hmul
        rw [hprice, hgas] at hcostValue
        obtain ⟨gasCost, hgasCost⟩ : ∃ gasCost, U256.add totals.totalGasCost cost = .ok gasCost :=
          U256.exists_add_eq_ok_iff.mpr (by omega)
        have husedValue := U256.add_eq_ok_iff.mp hgasUsed
        have hgasCostValue := U256.add_eq_ok_iff.mp hgasCost
        rw [hgasUsed, ok_bind, hmul, ok_bind, hgasCost, ok_bind]
        exact (ih _ _).mpr ⟨hestimates, by dsimp only; omega, by dsimp only; omega⟩
    · refine iff_of_false ?_ fun h => hlarge h.1.1
      rintro ⟨totals', h⟩
      obtain ⟨txResult, hresult, -⟩ := bind_eq_ok_iff.mp h
      exact hnone txResult hresult

theorem neverErrs_simulateTransactions {txs : List SimulationTransaction} {i : ℕ} {totals : Totals} :
    NeverErrs (simulator.simulateTransactions node overridesState blockNumber i totals txs) := by
  induction txs generalizing i totals with
  | nil => exact .ok totals
  | cons tx txs ih =>
    have hresult : NeverErrs
        (simulator.simulateTransactionWithOverrides node overridesState i tx blockNumber) := by
      refine (NeverErrs.checked.bind fun _ => .ok _).bind fun adjusted => ?_
      split <;> exact .ok _
    exact hresult.bind fun _ => NeverErrs.checked.bind fun _ => NeverErrs.checked.bind fun _ =>
      NeverErrs.checked.bind fun _ => ih

/-- Everything that the simulation of a bundle adds up is in range. -/
structure InRange (simulator : ForkSimulator) (node : NodeAnswers) (bundle : SimulationBundle)
    (blockNumber : U64) : Prop where
  /-- The estimates. -/
  estimates : ∀ p ∈ bundle.transactions.zipIdx, (gasEstimate node p.2 p.1 blockNumber).toNat < 2 ^ 128
  /-- The gas that is used. -/
  usedGas : simulator.totalUsedGas node bundle.overridesState blockNumber 0 bundle.transactions < 2 ^ 256
  /-- What it costs. -/
  cost : simulator.totalCost node bundle.overridesState blockNumber 0 bundle.transactions < 2 ^ 256

/-- Where the node answers, a simulation panics unless everything is in range. -/
theorem simulateBundleInternal_total_iff (simulator : ForkSimulator) (node : NodeAnswers)
    (bundle : SimulationBundle) :
    panics (simulator.simulateBundleInternal node bundle) = false ↔
      ∀ blockNumber latestBlock, node.blockFor bundle = .ok blockNumber → node.latestBlock = .ok latestBlock →
        simulator.InRange node bundle blockNumber := by
  unfold simulateBundleInternal
  rcases node.blockFor bundle with e | blockNumber
  · exact iff_of_true rfl (by rintro _ _ ⟨⟩)
  rcases node.latestBlock with e | latestBlock
  · exact iff_of_true rfl (by rintro _ _ _ ⟨⟩)
  have hloop :=
    simulateTransactions_ok_iff simulator node bundle.overridesState blockNumber bundle.transactions 0 ⟨0, 0, []⟩
  simp only [anyhow, ok_bind]
  rw [neverErrs_simulateTransactions.panics_bind_eq_false_iff, hloop]
  · constructor
    · rintro ⟨hestimates, hused, hcost⟩ _ _ ⟨rfl⟩ ⟨rfl⟩
      exact ⟨hestimates, by simpa using hused, by simpa using hcost⟩
    · intro h
      obtain ⟨hestimates, hused, hcost⟩ := h blockNumber latestBlock rfl rfl
      exact ⟨hestimates, by simpa using hused, by simpa using hcost⟩
  · intro totals
    obtain ⟨estimate, hestimate⟩ := calculateProfitEstimate_ok totals.transactionResults totals.totalGasCost
    rw [hestimate]
    exact ⟨_, rfl⟩

end ForkSimulator

/-! ### The optimizer -/

namespace SimulationOptimizer

variable {rpc : RpcAnswers} {blockNumber : U64}

/-- The transactions whose calls are made and succeed, from the `i`th one on. -/
def executed (rpc : RpcAnswers) (blockNumber : U64) : ℕ → List SimulationTransaction → List SimulationTransaction
  | _, [] => []
  | i, tx :: txs =>
    if (rpc.ethCall i tx.callRequest blockNumber).isOk then tx :: executed rpc blockNumber (i + 1) txs else []

/-- The gas limits of transactions. -/
def gasLimits (txs : List SimulationTransaction) : ℕ := (txs.map fun tx => tx.gasLimit.toNat).sum

/-- What that gas costs. -/
def gasCosts (txs : List SimulationTransaction) : ℕ :=
  (txs.map fun tx => tx.gasPrice.toNat * tx.gasLimit.toNat).sum

/-- **The loop over the transactions** gives the sums, if they fit. -/
theorem callTransactions_eq_ok_iff {txs : List SimulationTransaction} {i : ℕ} {gasUsed gasCost : U256}
    {totals : Totals} :
    callTransactions rpc blockNumber i gasUsed gasCost txs = .ok totals ↔
      totals.totalGasUsed.toNat = gasUsed.toNat + gasLimits (executed rpc blockNumber i txs) ∧
        totals.totalGasCost.toNat = gasCost.toNat + gasCosts (executed rpc blockNumber i txs) ∧
        totals.success = decide (executed rpc blockNumber i txs = txs) := by
  induction txs generalizing i gasUsed gasCost with
  | nil =>
    obtain ⟨used, cost, success⟩ := totals
    simp [callTransactions, executed, gasLimits, gasCosts, pure, Except.pure, BitVec.toNat_inj, eq_comm]
  | cons tx txs ih =>
    rw [callTransactions, executed]
    rcases hcall : rpc.ethCall i tx.callRequest blockNumber with e | returnData
    · obtain ⟨used, cost, success⟩ := totals
      simp [Except.isOk, Except.toBool, gasLimits, gasCosts, pure, Except.pure, BitVec.toNat_inj, eq_comm]
    · simp only [Except.isOk, Except.toBool, if_true, gasLimits, gasCosts, List.map_cons, List.sum_cons,
        List.cons.injEq, true_and] at ih ⊢
      constructor
      · intro h
        obtain ⟨used, hadd, h⟩ := bind_eq_ok_iff.mp h
        obtain ⟨cost, hmul, h⟩ := bind_eq_ok_iff.mp h
        obtain ⟨total, htotal, h⟩ := bind_eq_ok_iff.mp h
        obtain ⟨hused, hcost, hsuccess⟩ := ih.mp h
        rw [U256.add_eq_ok_iff.mp hadd] at hused
        rw [U256.add_eq_ok_iff.mp htotal, U256.mul_eq_ok_iff.mp hmul] at hcost
        exact ⟨by omega, by omega, hsuccess⟩
      · rintro ⟨hused, hcost, hsuccess⟩
        have husedFits := totals.totalGasUsed.isLt
        have hcostFits := totals.totalGasCost.isLt
        obtain ⟨used, hadd⟩ : ∃ used, U256.add gasUsed tx.gasLimit = .ok used :=
          U256.exists_add_eq_ok_iff.mpr (by omega)
        obtain ⟨cost, hmul⟩ : ∃ cost, U256.mul tx.gasPrice tx.gasLimit = .ok cost :=
          U256.exists_mul_eq_ok_iff.mpr (by omega)
        have hmulValue := U256.mul_eq_ok_iff.mp hmul
        obtain ⟨total, htotal⟩ : ∃ total, U256.add gasCost cost = .ok total :=
          U256.exists_add_eq_ok_iff.mpr (by omega)
        have haddValue := U256.add_eq_ok_iff.mp hadd
        have htotalValue := U256.add_eq_ok_iff.mp htotal
        rw [hadd, ok_bind, hmul, ok_bind, htotal, ok_bind]
        exact ih.mpr ⟨by omega, by omega, hsuccess⟩

theorem neverErrs_callTransactions {txs : List SimulationTransaction} {i : ℕ} {gasUsed gasCost : U256} :
    NeverErrs (callTransactions rpc blockNumber i gasUsed gasCost txs) := by
  induction txs generalizing i gasUsed gasCost with
  | nil => exact .ok _
  | cons tx txs ih =>
    rw [callTransactions]
    split
    · exact NeverErrs.checked.bind fun _ => NeverErrs.checked.bind fun _ => NeverErrs.checked.bind fun _ => ih
    · exact .ok _

/-- The sums fit. -/
def InRange (rpc : RpcAnswers) (bundle : SimulationBundle) (blockNumber : U64) : Prop :=
  gasLimits (executed rpc blockNumber 0 bundle.transactions) < 2 ^ 256 ∧
    gasCosts (executed rpc blockNumber 0 bundle.transactions) < 2 ^ 256

theorem exists_callTransactions_ok_iff {bundle : SimulationBundle} :
    (∃ totals, callTransactions rpc blockNumber 0 0 0 bundle.transactions = .ok totals) ↔
      InRange rpc bundle blockNumber := by
  have hzero : (0 : U256).toNat = 0 := rfl
  simp only [callTransactions_eq_ok_iff, hzero, Nat.zero_add]
  constructor
  · rintro ⟨totals, hused, hcost, -⟩
    exact ⟨hused ▸ totals.totalGasUsed.isLt, hcost ▸ totals.totalGasCost.isLt⟩
  · rintro ⟨hused, hcost⟩
    exact ⟨⟨BitVec.ofNat 256 _, BitVec.ofNat 256 _, _⟩, Nat.mod_eq_of_lt hused, Nat.mod_eq_of_lt hcost, rfl⟩

theorem estimate_ok (success : Bool) (totalGasCost : U256) :
    ∃ netProfitWei margin,
      netProfit (if success then 1000000000000000 else 0) totalGasCost = .ok netProfitWei ∧
        profitMargin netProfitWei (if success then 1000000000000000 else 0) = .ok margin ∧
        netProfitWei.toNat = (if success then 1000000000000000 else 0) - totalGasCost.toNat := by
  obtain ⟨netProfitWei, hnet, hvalue⟩ := netProfit_ok (if success then 1000000000000000 else 0) totalGasCost
  have hgross : (if success then 1000000000000000 else 0 : U256).toNat =
      if success then 1000000000000000 else 0 := by
    cases success <;> rfl
  have hsmall : (if success then 1000000000000000 else 0 : U256).toNat < 2 ^ 128 := by
    cases success <;> decide
  have hnetSmall : netProfitWei.toNat < 2 ^ 128 := by omega
  obtain ⟨margin, hmargin⟩ := profitMargin_ok hnetSmall hsmall
  exact ⟨netProfitWei, margin, hnet, hmargin, hvalue.trans (by rw [hgross])⟩

/-- A result comes of it if the client answers and the sums fit. -/
theorem exists_simulateBundleOptimized_ok_iff {bundle : SimulationBundle} :
    (∃ result, simulateBundleOptimized rpc bundle = .ok result) ↔
      ∃ blockNumber, rpc.blockNumber = .ok blockNumber ∧ InRange rpc bundle blockNumber := by
  simp only [← exists_callTransactions_ok_iff]
  constructor
  · rintro ⟨result, h⟩
    obtain ⟨blockNumber, hblock, h⟩ := bind_eq_ok_iff.mp h
    obtain ⟨totals, htotals, -⟩ := bind_eq_ok_iff.mp h
    exact ⟨blockNumber, anyhow_eq_ok_iff.mp hblock, totals, htotals⟩
  · rintro ⟨blockNumber, hblock, totals, htotals⟩
    obtain ⟨netProfitWei, margin, hnet, hmargin, -⟩ := estimate_ok totals.success totals.totalGasCost
    unfold simulateBundleOptimized
    simp only [hblock, anyhow, ok_bind, htotals, hnet, hmargin]
    exact ⟨_, rfl⟩

/-- Where the client answers, a simulation panics unless the sums fit. -/
theorem simulateBundleOptimized_total_iff (rpc : RpcAnswers) (bundle : SimulationBundle) :
    panics (simulateBundleOptimized rpc bundle) = false ↔
      ∀ blockNumber, rpc.blockNumber = .ok blockNumber → InRange rpc bundle blockNumber := by
  unfold simulateBundleOptimized
  rcases rpc.blockNumber with e | blockNumber
  · exact iff_of_true rfl (by rintro _ ⟨⟩)
  simp only [anyhow, ok_bind]
  rw [neverErrs_callTransactions.panics_bind_eq_false_iff, exists_callTransactions_ok_iff]
  · constructor
    · rintro h _ ⟨rfl⟩
      exact h
    · intro h
      exact h blockNumber rfl
  · intro totals
    obtain ⟨netProfitWei, margin, hnet, hmargin, -⟩ := estimate_ok totals.success totals.totalGasCost
    simp only [hnet, ok_bind, hmargin]
    exact ⟨_, rfl⟩

end SimulationOptimizer

/-! ### Both simulators -/

/-- **Simulations do not panic** just where what they add up is in range. -/
theorem simulations_total_iff (simulator : ForkSimulator) (node : NodeAnswers) (rpc : RpcAnswers)
    (bundle : SimulationBundle) :
    (panics (simulator.simulateBundleInternal node bundle) = false ↔
        ∀ blockNumber latestBlock, node.blockFor bundle = .ok blockNumber →
          node.latestBlock = .ok latestBlock → simulator.InRange node bundle blockNumber) ∧
      (panics (SimulationOptimizer.simulateBundleOptimized rpc bundle) = false ↔
        ∀ blockNumber, rpc.blockNumber = .ok blockNumber →
          SimulationOptimizer.InRange rpc bundle blockNumber) :=
  ⟨simulator.simulateBundleInternal_total_iff node bundle,
    SimulationOptimizer.simulateBundleOptimized_total_iff rpc bundle⟩

/-- A bundle of one transaction with these fields. -/
def bundleOf (gasLimit gasPrice : U256) : SimulationBundle where
  id := "bundle_1"
  transactions :=
    [{ fromAddress := 1, toAddress := some 2, value := 0, gasLimit, gasPrice, data := [], nonce := none }]
  blockNumber := none
  overridesState := false

/-- A node that cannot estimate, and whose calls succeed. -/
def sampleNode : NodeAnswers where
  blockNumber := .ok 18000000
  latestBlock := .ok none
  estimateGas _ _ _ := .error "gas required exceeds allowance"
  call _ _ _ := .ok []

/-- A client whose calls succeed. -/
def sampleRpc : RpcAnswers where
  blockNumber := .ok 18000000
  ethCall _ _ _ := .ok []

/-- **A transaction that panics the simulators**: the fork simulator at a gas limit of `2^128`,
and the optimizer at a gas price that is too high to be multiplied. -/
theorem simulations_panic :
    panics ((ForkSimulator.mk .default).simulateBundleInternal sampleNode (bundleOf (.twoPow 256 128) 1)) = true ∧
      panics (SimulationOptimizer.simulateBundleOptimized sampleRpc (bundleOf 2 (.twoPow 256 255))) = true := by
  decide

end Botmev.Core
