import Botmev.Bundles.BundleLimits
import Mathlib.Algebra.BigOperators.Ring.List
import Mathlib.Algebra.Ring.Nat

/-!
# The estimated cost of a bundle

Every `validate_bundle` estimates the cost as the gas of all transactions, the target's too, at the
gas price of the parameters. The own transactions pay more than that price for a unit of gas: by the
priority fee, or by what the multiplier adds. The target's share of the estimate can make up for it.

## What is proved

* `toNat_estimatedGasCost`: what the estimate is.
* `gas_estimate_covers_iff`: the estimate covers the own transactions just when what they pay beyond
  the price is not more than the target's share.
* `estimate_below_cost`: a plain transfer, sandwiched for more than the estimate.
-/

namespace Botmev.Bundles

open Botmev.Rust Botmev.Library Botmev.Core

/-- What the own transactions may cost: the sum of `gas_limit * max_fee_per_gas`. -/
def Bundle.ownCost (bundle : Bundle) : ℕ :=
  (bundle.ownTransactions.map fun tx => tx.gasLimit.toNat * tx.maxFeePerGas.toNat).sum

/-- The gas limits of the own transactions for an opportunity, together. -/
def ownGas : OpportunityType → ℕ
  | .arbitrage .. => 300000
  | .backrun .. => 250000
  | .sandwich .. => 400000
  | _ => 0

/-- The gas limit of the target. -/
def targetGas (opportunity : Opportunity) : ℕ :=
  ((U256.fromStr opportunity.targetTransaction.transaction.gasLimit).getD 0).toNat

/-- What the own transactions pay for a unit of gas beyond the gas price. -/
def feeExcess (params : BundleParams) : ℕ :=
  max (multipliedGasPrice params - params.maxGasPrice.toNat) params.maxPriorityFee.toNat

/-! ### The estimate -/

theorem toNat_of_foldlM_add {txs : List SignedTransaction} {acc total : U256}
    (hsum : txs.foldlM (fun acc tx => U256.add acc tx.gasLimit) acc = .ok total) :
    total.toNat = acc.toNat + (txs.map (·.gasLimit.toNat)).sum := by
  induction txs generalizing acc with
  | nil =>
    cases hsum
    rfl
  | cons tx txs ih =>
    rw [List.foldlM_cons] at hsum
    obtain ⟨next, hadd, hsum⟩ := bind_eq_ok_iff.mp hsum
    rw [ih hsum, U256.add_eq_ok_iff.mp hadd, List.map_cons, List.sum_cons, Nat.add_assoc]

theorem toNat_totalGasLimit {bundle : Bundle} {total : U256} (htotal : bundle.totalGasLimit = .ok total) :
    total.toNat = (bundle.ownTransactions.map (·.gasLimit.toNat)).sum + bundle.targetTransaction.gasLimit.toNat := by
  rw [toNat_of_foldlM_add htotal, Bundle.allTransactions, Bundle.ownTransactions]
  simp only [List.map_append, List.sum_append, List.map_cons, List.map_nil, List.sum_cons, List.sum_nil]
  show 0 + _ = _
  omega

/-- **The estimate** of every strategy. -/
theorem toNat_estimatedGasCost {b : StrategyBundleBuilder} (hb : IsStrategyBuilder b) {bundle : Bundle}
    {opportunity : Opportunity} {validation : BundleValidation}
    (hvalidation : b.validateBundle bundle opportunity = .ok validation) :
    validation.estimatedGasCost.toNat =
      ((bundle.ownTransactions.map (·.gasLimit.toNat)).sum + bundle.targetTransaction.gasLimit.toNat) *
        bundle.maxGasPrice.toNat := by
  obtain ⟨errors, warnings, hvalidation⟩ :
      ∃ errors warnings, bundleValidation bundle errors warnings = .ok validation := by
    cases hb <;> exact ⟨_, _, hvalidation⟩
  simp only [bundleValidation, bind_eq_ok_iff] at hvalidation
  obtain ⟨total, htotal, cost, hcost, hvalidation⟩ := hvalidation
  obtain rfl := Except.ok.inj hvalidation
  rw [← toNat_totalGasLimit htotal, ← U256.mul_eq_ok_iff.mp hcost]

/-! ### The cost -/

theorem IsStrategyBuilder.sum_gasLimit {b : StrategyBundleBuilder} (hb : IsStrategyBuilder b)
    {opportunity : Opportunity} {params : BundleParams} {pre post : List TransactionTemplate}
    (htemplates : b.buildBundleTransactions opportunity params = .ok (pre, post)) :
    ((pre ++ post).map (·.gasLimit.toNat)).sum = ownGas opportunity.opportunityType := by
  cases hb <;>
  · simp only [arbitrageBundleBuilder, backrunBundleBuilder, sandwichBundleBuilder] at htemplates
    split at htemplates
    · rename_i hopportunity
      cases htemplates
      rw [hopportunity]
      rfl
    · cases htemplates

theorem gasLimit_of_createTarget {Wallet Signature : Type} {E : Ethers Wallet Signature}
    {opportunity : Opportunity}
    {target : SignedTransaction} (htarget : createTargetSignedTransaction E opportunity = .ok target) :
    target.gasLimit.toNat = targetGas opportunity := by
  simp only [createTargetSignedTransaction, bind_eq_ok_iff] at htarget
  obtain ⟨_, -, _, -, _, -, _, -, gasLimit, hgas, _, -, _, -, htarget⟩ := htarget
  obtain rfl := Except.ok.inj htarget
  rw [Ethers.parseU256] at hgas
  rw [targetGas]
  cases hparse : U256.fromStr opportunity.targetTransaction.transaction.gasLimit with
  | none =>
    rw [hparse] at hgas
    cases hgas
  | some n =>
    rw [hparse] at hgas
    rw [Option.getD_some, Except.ok.inj hgas]

variable {Wallet Signature σ : Type} {h : Handler (SignerI Wallet) σ} {s s' : σ}
  {B : BundleBuilder Wallet Signature} {call : BuildCall} {bundle : Bundle} {plan : BuildPlan}

theorem BuiltFrom.sum_gasLimit (hbuilt : BuiltFrom B call plan bundle)
    (hb : IsStrategyBuilder plan.strategyBuilder) :
    (bundle.ownTransactions.map (·.gasLimit.toNat)).sum = ownGas call.opportunity.opportunityType := by
  have hgas := congrArg (fun charges => (charges.map fun charge => charge.1.toNat).sum) hbuilt.own
  simp only [charges, chargesOf, List.map_map, Function.comp_def] at hgas
  rw [hgas]
  exact hb.sum_gasLimit (plan_eq_ok hbuilt.planned).2.1

theorem BuiltFrom.ownCost_eq (hbuilt : BuiltFrom B call plan bundle)
    (hb : IsStrategyBuilder plan.strategyBuilder) :
    bundle.ownCost = ownGas call.opportunity.opportunityType * plan.fees.maxFeePerGas.toNat := by
  have hcost := congrArg (fun charges => (charges.map fun charge => charge.1.toNat * charge.2.toNat).sum) hbuilt.own
  simp only [charges, chargesOf, List.map_map, Function.comp_def, List.sum_map_mul_right] at hcost
  rw [Bundle.ownCost, hcost, ← hb.sum_gasLimit (plan_eq_ok hbuilt.planned).2.1]

theorem maxFeePerGas_eq {params : BundleParams} {fees : Fees} (hfees : calculateGasPrices params = .ok fees) :
    fees.maxFeePerGas.toNat = params.maxGasPrice.toNat + feeExcess params := by
  rw [calculateGasPrices_eq_ok hfees, feeExcess]
  omega

/-- **The estimate covers the own transactions** just when what they pay beyond the price is not more
than the target's gas at the price. -/
theorem gas_estimate_covers_iff
    (hbuilders : ∀ name b, B.strategyBuilders name = some b → IsStrategyBuilder b)
    (hrun : (B.buildBundleWithParams call).run h s = (.ok bundle, s')) {b : StrategyBundleBuilder}
    (hb : IsStrategyBuilder b) {validation : BundleValidation}
    (hvalidation : b.validateBundle bundle call.opportunity = .ok validation) :
    bundle.ownCost ≤ validation.estimatedGasCost.toNat ↔
      ownGas call.opportunity.opportunityType * feeExcess call.params ≤
        targetGas call.opportunity * call.params.maxGasPrice.toNat := by
  obtain ⟨plan, hbuilt⟩ := built_of_run_ok hrun
  obtain ⟨hbuilder, -, hfees⟩ := plan_eq_ok hbuilt.planned
  have hplan := hbuilders _ _ hbuilder
  rw [hbuilt.ownCost_eq hplan, toNat_estimatedGasCost hb hvalidation, hbuilt.sum_gasLimit hplan,
    gasLimit_of_createTarget hbuilt.target, hbuilt.price, maxFeePerGas_eq hfees, Nat.mul_add, Nat.add_mul]
  exact Nat.add_le_add_iff_left

/-! ### A sandwich -/

/-- A plain transfer. -/
def plainTransfer : ParsedTransaction :=
  { sampleTarget with transaction := { sampleTarget.transaction with gasLimit := "0x5208", input := "0x" } }

/-- What the sandwich's builder says of a bundle for this target. -/
def validatedSandwich (target : ParsedTransaction) : Result (Bundle × BundleValidation) := do
  let bundle ← (sandwichBuild target).1
  let validation ← sandwichBundleBuilder.validateBundle bundle (BuildCall.sandwich target).opportunity
  pure (bundle, validation)

/-- The sandwich of a swap costs no more than the estimate. -/
theorem swap_estimate_covers :
    ∃ bundle validation, validatedSandwich sampleTarget = .ok (bundle, validation) ∧
      bundle.ownCost ≤ validation.estimatedGasCost.toNat := by
  have hok : (validatedSandwich sampleTarget).isOk = true := by decide +kernel
  obtain ⟨⟨bundle, validation⟩, hvalidated⟩ := exists_ok_of_isOk hok
  obtain ⟨bundle', hbundle, hrest⟩ := bind_eq_ok_iff.mp hvalidated
  obtain ⟨validation', hvalidation, hrest⟩ := bind_eq_ok_iff.mp hrest
  obtain ⟨rfl, rfl⟩ := Prod.mk.inj (Except.ok.inj hrest)
  have hrun : sandwichBuild sampleTarget = (.ok bundle', (sandwichBuild sampleTarget).2) :=
    Prod.ext hbundle rfl
  refine ⟨bundle', validation', hvalidated, ?_⟩
  refine (gas_estimate_covers_iff (fun _ _ => isStrategyBuilder_of_registered) hrun .sandwich hvalidation).mpr ?_
  decide +kernel

/-- **An estimate below the cost**: the two transactions around a plain transfer, with the parameters
that the builder has by default. -/
theorem estimate_below_cost :
    ∃ validated ∈ (validatedSandwich plainTransfer).toOption,
      validated.2.estimatedGasCost.toNat < validated.1.ownCost := by
  decide +kernel

end Botmev.Bundles
