import Botmev.Bundles.Strategies
import Botmev.Core.Simulation

/-!
# The target in the bundle and in the simulator

The builder and the simulator convert the same pending transaction, each in its own way:
the builder with `str::parse::<U256>()`, which reads hexadecimal and fails on what it
cannot read, the simulator with `U256::from_dec_str`, which reads decimal, and zero for
what it cannot read.

## What is proved

* `target_agrees_iff`: the two make the same value, gas limit and gas price of it just
  when the three strings have at most one digit, after zeros, or nothing but zeros after
  `0x`.
* `target_disagrees_on_swap`: of a swap of one ether they do not.
-/

namespace Botmev.Bundles

open Botmev.Rust Botmev.Library Botmev.Core

variable {Wallet Signature : Type} {E : Ethers Wallet Signature} {opportunity : Opportunity}
  {target : SignedTransaction}

/-- The target in the bundle has the numbers of the target in the simulator. -/
structure AgreesWith (target : SignedTransaction) (simulated : SimulationTransaction) : Prop where
  /-- The value. -/
  value : target.value = simulated.value
  /-- The gas limit. -/
  gasLimit : target.gasLimit = simulated.gasLimit
  /-- The gas price. -/
  gasPrice : target.maxFeePerGas = simulated.gasPrice

theorem parseU256_eq_ok_iff {s : String} {n : U256} : E.parseU256 s = .ok n ↔ U256.fromStr s = some n := by
  unfold Ethers.parseU256
  rcases U256.fromStr s with _ | m <;> simp

theorem createTargetSignedTransaction_ok (h : createTargetSignedTransaction E opportunity = .ok target) :
    U256.fromStr opportunity.targetTransaction.transaction.value = some target.value ∧
      U256.fromStr opportunity.targetTransaction.transaction.gasLimit = some target.gasLimit ∧
      U256.fromStr opportunity.targetTransaction.transaction.gasPrice = some target.maxFeePerGas := by
  simp only [createTargetSignedTransaction, bind_eq_ok_iff, orErr_eq_ok_iff, parseU256_eq_ok_iff] at h
  obtain ⟨_, -, _, -, _, -, _, hvalue, _, hgasLimit, _, hgasPrice, _, -, h⟩ := h
  cases h
  exact ⟨hvalue, hgasLimit, hgasPrice⟩

/-- **The bundle and the simulator agree on the target** just when its numbers are
strings that read the same in both bases. -/
theorem target_agrees_iff (h : createTargetSignedTransaction E opportunity = .ok target) :
    AgreesWith target (.ofParsed E.parseAddress opportunity.targetTransaction) ↔
      radixFree opportunity.targetTransaction.transaction.value = true ∧
        radixFree opportunity.targetTransaction.transaction.gasLimit = true ∧
        radixFree opportunity.targetTransaction.transaction.gasPrice = true := by
  obtain ⟨hvalue, hgasLimit, hgasPrice⟩ := createTargetSignedTransaction_ok h
  rw [← fromDecStr_getD_eq_iff hvalue, ← fromDecStr_getD_eq_iff hgasLimit,
    ← fromDecStr_getD_eq_iff hgasPrice]
  constructor
  · rintro ⟨h₁, h₂, h₃⟩
    exact ⟨h₁.symm, h₂.symm, h₃.symm⟩
  · rintro ⟨h₁, h₂, h₃⟩
    exact ⟨h₁.symm, h₂.symm, h₃.symm⟩

/-- A target with one digit everywhere. -/
def oneDigitTarget : ParsedTransaction :=
  { sampleTarget with
    transaction := { sampleTarget.transaction with value := "1", gasPrice := "9", gasLimit := "07" } }

/-- One on which the two agree. -/
theorem target_agrees_on_one_digit :
    ∃ target, createTargetSignedTransaction Ethers.sample (BuildCall.sandwich oneDigitTarget).opportunity = .ok target ∧
      AgreesWith target (.ofParsed Ethers.sample.parseAddress oneDigitTarget) := by
  have hok : (createTargetSignedTransaction Ethers.sample (BuildCall.sandwich oneDigitTarget).opportunity).isOk =
      true := by decide
  obtain ⟨target, htarget⟩ := exists_ok_of_isOk hok
  exact ⟨target, htarget, (target_agrees_iff htarget).mpr (by decide)⟩

/-- **On a swap of one ether they do not agree**: one ether in the simulator is 4722 in the
bundle, a gas limit of 200000 is 2097152, and 50 gwei are 5497. -/
theorem target_disagrees_on_swap :
    (∃ target, createTargetSignedTransaction Ethers.sample (BuildCall.sandwich sampleTarget).opportunity = .ok target ∧
      target.value = 4722366482869645213696 ∧ target.gasLimit = 2097152 ∧
        target.maxFeePerGas = 5497558138880 ∧
      ¬ AgreesWith target (.ofParsed Ethers.sample.parseAddress sampleTarget)) ∧
    (SimulationTransaction.ofParsed Ethers.sample.parseAddress sampleTarget).value = 1000000000000000000 ∧
    (SimulationTransaction.ofParsed Ethers.sample.parseAddress sampleTarget).gasLimit = 200000 ∧
    (SimulationTransaction.ofParsed Ethers.sample.parseAddress sampleTarget).gasPrice = 50000000000 := by
  have hok : (createTargetSignedTransaction Ethers.sample (BuildCall.sandwich sampleTarget).opportunity).isOk =
      true := by decide
  obtain ⟨target, htarget⟩ := exists_ok_of_isOk hok
  have hnumbers : (createTargetSignedTransaction Ethers.sample (BuildCall.sandwich sampleTarget).opportunity).map
      (fun target => (target.value, target.gasLimit, target.maxFeePerGas)) =
        .ok (4722366482869645213696, 2097152, 5497558138880) := by decide
  rw [htarget] at hnumbers
  have hsim : (SimulationTransaction.ofParsed Ethers.sample.parseAddress sampleTarget).value =
      1000000000000000000 := by decide
  obtain ⟨hvalue, hgasLimit, hgasPrice⟩ : target.value = 4722366482869645213696 ∧
    target.gasLimit = 2097152 ∧
      target.maxFeePerGas = 5497558138880 := by simpa [Except.map] using hnumbers
  refine ⟨⟨target, htarget, hvalue, hgasLimit, hgasPrice, fun h => ?_⟩,
    hsim, by decide, by decide⟩
  have := h.value
  rw [hvalue, hsim] at this
  exact absurd this (by decide)

end Botmev.Bundles
