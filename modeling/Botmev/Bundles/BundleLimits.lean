import Botmev.Bundles.Building
import Botmev.Bundles.SignedPayload

/-!
# The limits of a bundle

The parameters of a bundle have a least profit and a most to pay for gas. The fee of the own
transactions is the greater of two: the gas price times the multiplier, and the gas price and the
priority fee together. The least profit is not read.

## What is proved

* `built_of_run_ok`: what a bundle that is returned is made of, whatever other tasks do meanwhile.
* `params_enforced_iff`: a bundle is within its limits just when the opportunity's profit is, there
  is no priority fee, and the multiplier does not raise the gas price.
* `limits_exceeded`: a bundle beyond both.
-/

namespace Botmev.Bundles

open Botmev.Rust Botmev.Library Botmev.Core

/-- **The parameters are enforced**: the profit is not below the least, and no own transaction pays
more than the most. -/
structure ParamsEnforced (params : BundleParams) (bundle : Bundle) : Prop where
  /-- The profit. -/
  profit : params.minProfitWei.toNat ≤ bundle.estimatedProfit.toNat
  /-- The fees. -/
  fees : ∀ tx ∈ bundle.ownTransactions, tx.maxFeePerGas.toNat ≤ params.maxGasPrice.toNat

/-- The builders of the strategies. -/
inductive IsStrategyBuilder : StrategyBundleBuilder → Prop
  | arbitrage : IsStrategyBuilder arbitrageBundleBuilder
  | backrun : IsStrategyBuilder backrunBundleBuilder
  | sandwich : IsStrategyBuilder sandwichBundleBuilder

theorem isStrategyBuilder_of_registered {name : String} {b : StrategyBundleBuilder}
    (h : registeredBuilders name = some b) : IsStrategyBuilder b := by
  unfold registeredBuilders at h
  split at h
  · exact Option.some.inj h ▸ .arbitrage
  · exact Option.some.inj h ▸ .backrun
  · exact Option.some.inj h ▸ .sandwich
  · cases h

/-! ### Fees -/

/-- `(base_fee as f64 * gas_multiplier) as u128`. -/
def multipliedGasPrice (params : BundleParams) : ℕ :=
  (((Binary64.ofNat params.maxGasPrice.toNat).mul params.gasMultiplier).toUint 128).toNat

theorem toNat_ofUint_u128 (x : U128) : (U256.ofUint x).toNat = x.toNat :=
  BitVec.toNat_setWidth_of_le (by decide)

theorem calculateGasPrices_eq_ok {params : BundleParams} {fees : Fees}
    (h : calculateGasPrices params = .ok fees) :
    fees.maxFeePerGas.toNat =
      max (multipliedGasPrice params) (params.maxGasPrice.toNat + params.maxPriorityFee.toNat) := by
  simp only [calculateGasPrices, bind_eq_ok_iff] at h
  obtain ⟨base, hbase, least, hleast, h⟩ := h
  obtain rfl := Except.ok.inj h
  rw [U256.asU128_eq_ok_iff] at hbase
  rw [U256.add_eq_ok_iff] at hleast
  rw [← hleast, multipliedGasPrice, ← hbase, ← toNat_ofUint_u128 (Binary64.toUint 128 _)]
  generalize U256.ofUint (((Binary64.ofNat base.toNat).mul params.gasMultiplier).toUint 128) = product
  show (if product.toNat ≤ least.toNat then least else product).toNat = _
  split
  · exact (Nat.max_eq_right (by assumption)).symm
  · exact (Nat.max_eq_left (by omega)).symm

/-! ### What a bundle is made of -/

variable {Wallet Signature σ : Type} {E : Ethers Wallet Signature} {chainId : U64} {fees : Fees}
  {h : Handler (SignerI Wallet) σ} {s s' : σ}

/-- The gas limits of the templates, each at the one fee. -/
def chargesOf (fees : Fees) (templates : List TransactionTemplate) : List (U256 × U256) :=
  templates.map fun template => (template.gasLimit, fees.maxFeePerGas)

/-- The gas limits and the fees of transactions. -/
def charges (txs : List SignedTransaction) : List (U256 × U256) :=
  txs.map fun tx => (tx.gasLimit, tx.maxFeePerGas)

/-- **The templates signed** have their gas limits, and pay the fee. -/
theorem charges_of_signTemplates {templates : List TransactionTemplate} {nonce next : U256}
    {txs : List SignedTransaction}
    (hrun : (signTemplates E chainId fees templates nonce).run h s = (.ok (txs, next), s')) :
    charges txs = chargesOf fees templates := by
  induction templates generalizing nonce txs s with
  | nil =>
    cases hrun
    rfl
  | cons template templates ih =>
    obtain ⟨n, s₁, -, hrun⟩ := Async.exists_of_run_bind hrun
    obtain ⟨tx, s₂, hsign, hrun⟩ := Async.exists_of_run_bind hrun
    obtain ⟨currentNonce, s₃, -, hrun⟩ := Async.exists_of_run_bind hrun
    obtain ⟨⟨rest, last⟩, s₄, hrest, hrun⟩ := Async.exists_of_run_bind hrun
    cases hrun
    obtain ⟨wallet, s₅, -, hsign⟩ := Async.exists_of_run_bind hsign
    obtain ⟨nonce, signature, rfl⟩ := signed_of_run hsign
    have hcharges : charges rest = chargesOf fees templates := ih hrest
    rw [charges, chargesOf, List.map_cons, List.map_cons, ← charges, ← chargesOf, hcharges]
    rfl

variable {B : BundleBuilder Wallet Signature} {call : BuildCall} {bundle : Bundle}

variable (B call) in
/-- What a bundle is made of that was built as planned. -/
structure BuiltFrom (plan : BuildPlan) (bundle : Bundle) : Prop where
  /-- The plan. -/
  planned : B.plan call.opportunity call.params = .ok plan
  /-- The own transactions. -/
  own : charges bundle.ownTransactions = chargesOf plan.fees (plan.preTemplates ++ plan.postTemplates)
  /-- The target. -/
  target : createTargetSignedTransaction B.ethers call.opportunity = .ok bundle.targetTransaction
  /-- The gas price. -/
  price : bundle.maxGasPrice = call.params.maxGasPrice
  /-- The profit. -/
  profit : bundle.estimatedProfit = U256.ofUint call.opportunity.estimatedProfitWei

/-- **A bundle that is returned** is built from a plan. -/
theorem built_of_run_ok (hrun : (B.buildBundleWithParams call).run h s = (.ok bundle, s')) :
    ∃ plan, BuiltFrom B call plan bundle := by
  obtain ⟨plan, s₁, hplan, hrun⟩ := Async.exists_of_run_bind hrun
  obtain ⟨nonce, s₂, -, hrun⟩ := Async.exists_of_run_bind hrun
  obtain ⟨⟨pre, current⟩, s₃, hpre, hrun⟩ := Async.exists_of_run_bind hrun
  obtain ⟨target, s₄, htarget, hrun⟩ := Async.exists_of_run_bind hrun
  obtain ⟨⟨post, last⟩, s₅, hpost, hrun⟩ := Async.exists_of_run_bind hrun
  obtain rfl := validated_eq_ok (Prod.mk.inj hrun).1
  refine ⟨plan, (Prod.mk.inj hplan).1, ?_, (Prod.mk.inj htarget).1, rfl, rfl⟩
  have hcharges := congrArg₂ (· ++ ·) (charges_of_signTemplates hpre) (charges_of_signTemplates hpost)
  simp only [charges, chargesOf, ← List.map_append] at hcharges
  exact hcharges

theorem plan_eq_ok {plan : BuildPlan} (hplan : B.plan call.opportunity call.params = .ok plan) :
    B.strategyBuilders call.opportunity.strategyName = some plan.strategyBuilder ∧
      plan.strategyBuilder.buildBundleTransactions call.opportunity call.params =
        .ok (plan.preTemplates, plan.postTemplates) ∧
      calculateGasPrices call.params = .ok plan.fees := by
  simp only [BundleBuilder.plan, bind_eq_ok_iff] at hplan
  obtain ⟨b, hb, ⟨pre, post⟩, htemplates, _, -, fees, hfees, hplan⟩ := hplan
  obtain rfl := Except.ok.inj hplan
  refine ⟨?_, htemplates, hfees⟩
  cases hbuilder : B.strategyBuilders call.opportunity.strategyName with
  | none =>
    rw [hbuilder] at hb
    cases hb
  | some b' =>
    rw [hbuilder] at hb
    rw [Except.ok.inj hb]

/-! ### The limits -/

theorem IsStrategyBuilder.templates_ne_nil {b : StrategyBundleBuilder} (hb : IsStrategyBuilder b)
    {opportunity : Opportunity} {params : BundleParams} {pre post : List TransactionTemplate}
    (htemplates : b.buildBundleTransactions opportunity params = .ok (pre, post)) : pre ++ post ≠ [] := by
  cases hb <;>
  · simp only [arbitrageBundleBuilder, backrunBundleBuilder, sandwichBundleBuilder] at htemplates
    split at htemplates
    · cases htemplates
      exact List.cons_ne_nil _ _
    · cases htemplates

/-- All own transactions pay the one fee, and there are some. -/
theorem BuiltFrom.fees_le_iff {plan : BuildPlan} (hbuilt : BuiltFrom B call plan bundle)
    (hb : IsStrategyBuilder plan.strategyBuilder) {most : ℕ} :
    (∀ tx ∈ bundle.ownTransactions, tx.maxFeePerGas.toNat ≤ most) ↔ plan.fees.maxFeePerGas.toNat ≤ most := by
  have hcharges : (∀ tx ∈ bundle.ownTransactions, tx.maxFeePerGas.toNat ≤ most) ↔
      ∀ charge ∈ charges bundle.ownTransactions, charge.2.toNat ≤ most := by
    rw [charges, List.forall_mem_map]
  rw [hcharges, hbuilt.own, chargesOf, List.forall_mem_map]
  constructor
  · intro hall
    obtain ⟨template, htemplate⟩ :=
      List.exists_mem_of_ne_nil _ (hb.templates_ne_nil (plan_eq_ok hbuilt.planned).2.1)
    exact hall template htemplate
  · exact fun hle _ _ => hle

/-- **The parameters are enforced** just when the opportunity promises the profit, there is no
priority fee, and the multiplied price is not above the price. -/
theorem params_enforced_iff
    (hbuilders : ∀ name b, B.strategyBuilders name = some b → IsStrategyBuilder b)
    (hrun : (B.buildBundleWithParams call).run h s = (.ok bundle, s')) :
    ParamsEnforced call.params bundle ↔
      call.params.minProfitWei.toNat ≤ call.opportunity.estimatedProfitWei.toNat ∧
        call.params.maxPriorityFee = 0 ∧ multipliedGasPrice call.params ≤ call.params.maxGasPrice.toNat := by
  obtain ⟨plan, hbuilt⟩ := built_of_run_ok hrun
  obtain ⟨hbuilder, -, hfees⟩ := plan_eq_ok hbuilt.planned
  have hprofit : bundle.estimatedProfit.toNat = call.opportunity.estimatedProfitWei.toNat := by
    rw [hbuilt.profit, toNat_ofUint_u128]
  have hfee : plan.fees.maxFeePerGas.toNat ≤ call.params.maxGasPrice.toNat ↔
      call.params.maxPriorityFee = 0 ∧ multipliedGasPrice call.params ≤ call.params.maxGasPrice.toNat := by
    rw [calculateGasPrices_eq_ok hfees, Nat.max_le, ← BitVec.toNat_inj]
    show _ ↔ call.params.maxPriorityFee.toNat = 0 ∧ _
    omega
  rw [← hfee, ← hbuilt.fees_le_iff (hbuilders _ _ hbuilder), ← hprofit]
  exact ⟨fun henforced => ⟨henforced.profit, henforced.fees⟩, fun ⟨hprofit, hfees⟩ => ⟨hprofit, hfees⟩⟩

/-! ### Two sandwiches -/

/-- A sandwich with these parameters. -/
def sandwichWith (params : BundleParams) : BuildCall := { BuildCall.sandwich sampleTarget with params }

/-- To build it. -/
def buildSandwich (params : BundleParams) : Result Bundle × SignerState Unit :=
  (BundleBuilder.sample.buildBundleWithParams (sandwichWith params)).run signerHandler ⟨fun _ => none, some ()⟩

/-- No priority fee, and nobody to outbid. -/
def modestParams : BundleParams := { BundleParams.default with maxPriorityFee := 0, gasMultiplier := Binary64.ofNat 1 }

/-- Within its limits. -/
theorem modest_sandwich_enforced :
    ∃ bundle, (buildSandwich modestParams).1 = .ok bundle ∧ ParamsEnforced modestParams bundle := by
  have hok : (buildSandwich modestParams).1.isOk = true := by decide
  obtain ⟨bundle, hbundle⟩ := exists_ok_of_isOk hok
  have hrun : buildSandwich modestParams = (.ok bundle, (buildSandwich modestParams).2) :=
    Prod.ext hbundle rfl
  refine ⟨bundle, hbundle, (params_enforced_iff (fun _ _ => isStrategyBuilder_of_registered) hrun).mpr ?_⟩
  decide +kernel

/-- Ten times the profit that the sandwich promises. -/
def demandingParams : BundleParams := { BundleParams.default with minProfitWei := 250000000000000000 }

/-- **Limits exceeded**: a bundle with less than the least profit, and fees of 220 gwei where 200
are the most. -/
theorem limits_exceeded :
    ∃ bundle ∈ (buildSandwich demandingParams).1.toOption,
      bundle.estimatedProfit < demandingParams.minProfitWei ∧
        ∃ tx ∈ bundle.ownTransactions, demandingParams.maxGasPrice < tx.maxFeePerGas := by
  decide +kernel

end Botmev.Bundles
