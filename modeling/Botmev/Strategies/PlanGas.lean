import Botmev.Library.Binary64Error
import Botmev.Strategies.PlanLimits

/-!
# The gas of bundle plans

What the transactions of a plan may cost, and in which order their fees put them. An estimate is
less a gas cost at a fixed price: 150000 units at 50 gwei for a backrun, 400000 units at 80 or at
100 gwei for the others. The plan then has 200000 units for each transaction, and all but the
arbitrage's price follows the one of the target.

Both the backrun and the sandwich pay a premium over the target, for all of their transactions, so
a block that is ordered by fees has none of them after it. Only the front run is meant to be
before it, and it is a gwei ahead of the back run.

## What is proved

* `arbitrage_gas`, `backrun_gas`, `sandwich_gas`: the gas of a plan.
* `gasCovered_iff`: when the cost that an estimate is less covers it.
* `feeOrder_of_plan`: the fees beside that of the target.
-/

namespace Botmev.Strategies

open Botmev.Rust Botmev.Library Botmev.Core

/-! ### Gas limits and gas prices -/

/-- What the transactions of a plan are, and their gas. -/
def BundlePlan.gas (plan : BundlePlan) : List (TransactionType × U128 × U128) :=
  plan.transactions.map fun tx => (tx.transactionType, tx.gasLimit, tx.gasPrice)

/-- What the transactions of a plan may cost, in wei. -/
def BundlePlan.gasCost (plan : BundlePlan) : ℕ :=
  (plan.transactions.map fun tx => tx.gasLimit.toNat * tx.gasPrice.toNat).sum

/-- The fees of a plan, in wei. -/
def BundlePlan.fees (plan : BundlePlan) : List (TransactionType × ℕ) :=
  plan.transactions.map fun tx => (tx.transactionType, tx.gasPrice.toNat)

section
variable {opportunity : ScoredOpportunity} {plan : BundlePlan}

theorem BundlePlan.gasCost_eq (plan : BundlePlan) :
    plan.gasCost = (plan.gas.map fun gas => gas.2.1.toNat * gas.2.2.toNat).sum := by
  rw [gas, List.map_map]
  rfl

theorem BundlePlan.fees_eq (plan : BundlePlan) :
    plan.fees = plan.gas.map fun gas => (gas.1, gas.2.2.toNat) := by
  rw [gas, List.map_map]
  rfl

/-- **The gas of an arbitrage's plan.** -/
theorem arbitrage_gas {strategy : ArbitrageStrategy} (h : strategy.createBundlePlan opportunity = .ok plan) :
    ∃ gasPrice : U128, gasPrice.toNat ≤ 60000000000 ∧
      plan.gas = [(.arbitrage, 200000, gasPrice), (.arbitrage, 200000, gasPrice)] := by
  obtain ⟨maxGasPrice, hmul, -⟩ := exists_maxGasPrice strategy.config
  have hgasPrice : strategy.calculateCompetitiveGasPrice = .ok (Uint.min 60000000000 maxGasPrice) := by
    rw [ArbitrageStrategy.calculateCompetitiveGasPrice, hmul]
    rfl
  refine ⟨Uint.min 60000000000 maxGasPrice, ?_, ?_⟩
  · rw [toNat_min]
    exact min_le_left _ _
  · unfold ArbitrageStrategy.createBundlePlan at h
    split at h
    · simp only [ArbitrageStrategy.createArbitrageTransactions, ArbitrageStrategy.swapOn, hgasPrice,
        bind_eq_ok_iff] at h
      obtain ⟨_, ⟨buyTx, ⟨_, -, _, -, _, ⟨rfl⟩, ⟨rfl⟩⟩, sellTx, ⟨_, -, _, -, _, ⟨rfl⟩, ⟨rfl⟩⟩, ⟨rfl⟩⟩, ⟨rfl⟩⟩ := h
      rfl
    · cases h

theorem BackrunStrategy.toNat_bid {strategy : BackrunStrategy} {gasPrice bid : U128}
    (h : strategy.bid gasPrice = .ok bid) :
    bid.toNat = min (gasPrice.toNat + gasPrice.toNat / 20) strategy.config.maxGasPriceWei := by
  obtain ⟨maxGasPrice, hmul, hvalue⟩ := exists_maxGasPrice strategy.config
  simp only [BackrunStrategy.bid, hmul, bind_eq_ok_iff] at h
  obtain ⟨ourGasPrice, hours, _, ⟨rfl⟩, h⟩ := h
  have hsum : ourGasPrice.toNat = gasPrice.toNat + gasPrice.toNat / 20 := Uint.add_eq_ok_iff.mp hours
  obtain rfl := Except.ok.inj h
  rw [← hsum, ← hvalue]
  split
  · exact (min_eq_left ‹ourGasPrice ≤ maxGasPrice›).symm
  · exact (min_eq_right (BitVec.le_of_lt (BitVec.not_le.mp ‹_›))).symm

/-- **The gas of a backrun's plan.** -/
theorem backrun_gas {strategy : BackrunStrategy} (h : strategy.createBundlePlan opportunity = .ok plan) :
    ∃ bid, strategy.bid (gasPriceWei opportunity.targetTransaction) = .ok bid ∧
      plan.gas = [(.backRun, 200000, bid)] := by
  simp only [BackrunStrategy.createBundlePlan, bind_eq_ok_iff] at h
  obtain ⟨backrunTx, hbackrun, ⟨rfl⟩⟩ := h
  unfold BackrunStrategy.createBackrunTransaction at hbackrun
  split at hbackrun
  · simp only [bind_eq_ok_iff] at hbackrun
    obtain ⟨_, -, bid, hbid, ⟨rfl⟩⟩ := hbackrun
    exact ⟨bid, hbid, rfl⟩
  · cases hbackrun

/-- **The gas of a sandwich's plan.** -/
theorem sandwich_gas {strategy : SandwichStrategy} (h : strategy.createBundlePlan opportunity = .ok plan) :
    ∃ price base : U128, base = (strategy.raisedGasPrice (gasPriceWei opportunity.targetTransaction)).toUint 128 ∧
      price.toNat = base.toNat + 10 ^ 9 ∧ plan.gas = [(.frontRun, 200000, price), (.backRun, 200000, base)] := by
  simp only [SandwichStrategy.createBundlePlan, bind_eq_ok_iff] at h
  obtain ⟨transactions, htransactions, ⟨rfl⟩⟩ := h
  unfold SandwichStrategy.createSandwichTransactions at htransactions
  split at htransactions
  · simp only [bind_eq_ok_iff] at htransactions
    obtain ⟨_, -, price, hprice, ⟨rfl⟩⟩ := htransactions
    unfold gasPriceWei
    generalize (strategy.raisedGasPrice _).toUint 128 = base at hprice ⊢
    exact ⟨price, base, rfl, Uint.add_eq_ok_iff.mp hprice, rfl⟩
  · cases htransactions

end

namespace MevStrategy

/-! ### The cost that an estimate is less -/

/-- The gas cost that the estimate of a strategy is less. -/
def subtractedGasCost : MevStrategy → Result U128
  | .arbitrage _ => estimateGasCost 400000 80
  | .backrun _ => estimateGasCost 150000 50
  | .sandwich _ => estimateGasCost 400000 100

/-- The estimate before that. -/
def grossProfit (tx : ParsedTransaction) : MevStrategy → U128
  | .arbitrage _ =>
    ((ArbitrageStrategy.bestOpportunity (ArbitrageStrategy.findArbitrageOpportunities tx)).map
      (·.expectedProfit)).getD 0
  | .backrun _ =>
    let priceImpact := BackrunStrategy.analyzePriceImpact tx
    let profitRate :=
      match tx.targetType with
      | .uniswapV2 | .sushiSwap => priceImpact.mul (Binary64.ofDecimal 3 1)
      | .uniswapV3 => priceImpact.mul (Binary64.ofDecimal 4 1)
      | .curve => priceImpact.mul (Binary64.ofDecimal 5 1)
      | _ => Binary64.ofNat 0
    ((Binary64.ofNat ((parseUint 128 tx.transaction.value).getD 0).toNat).mul profitRate).toUint 128
  | .sandwich strategy => ((strategy.calculateSandwichProfit tx).toOption.map (·.grossProfit)).getD 0

variable {idTime expiryTime : UtcNow} {tx : ParsedTransaction} {found : ScoredOpportunity} {plan : BundlePlan}

/-- **An estimate is less a gas cost.** -/
theorem estimatedProfit_eq {strategy : MevStrategy} {gasCost : U128}
    (hcost : strategy.subtractedGasCost = .ok gasCost)
    (h : strategy.evaluateTransaction idTime expiryTime tx = .ok (some found)) :
    found.estimatedProfitWei = Uint.saturatingSub (strategy.grossProfit tx) gasCost := by
  cases strategy with
  | arbitrage strategy =>
    obtain ⟨best, netProfit, confidence, hbest, hprofit, hmade⟩ := arbitrage_made h
    simp only [subtractedGasCost] at hcost
    rw [ArbitrageStrategy.calculateArbitrageProfit, hcost, ok_bind] at hprofit
    rw [hmade.estimatedProfitWei, grossProfit, hbest]
    exact (Except.ok.inj hprofit).symm
  | backrun strategy =>
    obtain ⟨-, estimatedProfit, confidence, hprofit, hmade⟩ := backrun_made h
    simp only [subtractedGasCost] at hcost
    unfold BackrunStrategy.calculateBackrunProfit BackrunStrategy.profit at hprofit
    simp only [hcost, ok_bind, pure, Except.pure, Except.ok.injEq] at hprofit
    rw [hmade.estimatedProfitWei, grossProfit]
    exact hprofit.symm
  | sandwich strategy =>
    obtain ⟨-, estimate, hestimate, hmade⟩ := sandwich_made h
    simp only [subtractedGasCost] at hcost
    rw [hmade.estimatedProfitWei, grossProfit, hestimate]
    unfold SandwichStrategy.calculateSandwichProfit SandwichStrategy.profit at hestimate
    simp only [hcost, bind_eq_ok_iff, pure, Except.pure, Except.ok.injEq, exists_eq_left'] at hestimate
    obtain ⟨_, -, hestimate⟩ := hestimate
    change estimate.netProfit = Uint.saturatingSub estimate.grossProfit gasCost
    rw [← hestimate]

/-- **An estimate covers the gas of its plan**: the gas cost that it is less is no less than what
the transactions may cost. -/
def GasCovered (tx : ParsedTransaction) (found : ScoredOpportunity) (plan : BundlePlan)
    (strategy : MevStrategy) : Prop :=
  ∃ gasCost, strategy.subtractedGasCost = .ok gasCost ∧
    found.estimatedProfitWei = Uint.saturatingSub (strategy.grossProfit tx) gasCost ∧
    plan.gasCost ≤ gasCost.toNat

/-- The gas prices of a plan are low enough for that: for the backrun, the bid is 37.5 gwei at
most; for the sandwich, the raised price is less than a wei above 99.5 gwei. -/
def LowGasPrice (tx : ParsedTransaction) : MevStrategy → Prop
  | .arbitrage _ => True
  | .backrun strategy =>
    min ((gasPriceWei tx).toNat + (gasPriceWei tx).toNat / 20) strategy.config.maxGasPriceWei ≤ 37500000000
  | .sandwich strategy => (strategy.raisedGasPrice (gasPriceWei tx)).Below 99500000001

/-- **An estimate covers the gas of its plan** just if the gas prices are that low. -/
theorem gasCovered_iff {strategy : MevStrategy}
    (hfound : strategy.evaluateTransaction idTime expiryTime tx = .ok (some found))
    (hplan : strategy.createBundlePlan found = .ok plan) :
    strategy.GasCovered tx found plan ↔ strategy.LowGasPrice tx := by
  have hgas : (200000 : U128).toNat = 200000 := rfl
  have hcovered {gasCost : U128} (hcost : strategy.subtractedGasCost = .ok gasCost) :
      strategy.GasCovered tx found plan ↔ plan.gasCost ≤ gasCost.toNat := by
    constructor
    · rintro ⟨gasCost', hcost', -, hle⟩
      obtain rfl := Except.ok.inj (hcost.symm.trans hcost')
      exact hle
    · exact fun hle => ⟨gasCost, hcost, estimatedProfit_eq hcost hfound, hle⟩
  cases strategy with
  | arbitrage strategy =>
    have hcost : estimateGasCost 400000 80 = .ok 32000000000000000 := by decide
    rw [hcovered hcost]
    obtain ⟨gasPrice, hle, hplanGas⟩ := arbitrage_gas hplan
    refine iff_of_true ?_ trivial
    rw [plan.gasCost_eq, hplanGas]
    simp only [List.map_cons, List.map_nil, List.sum_cons, List.sum_nil, hgas,
      show (32000000000000000 : U128).toNat = 32000000000000000 from rfl]
    omega
  | backrun strategy =>
    have hcost : estimateGasCost 150000 50 = .ok 7500000000000000 := by decide
    rw [hcovered hcost]
    obtain ⟨bid, hbid, hplanGas⟩ := backrun_gas hplan
    obtain ⟨-, htarget, -⟩ := backrun_found hfound
    rw [htarget] at hbid
    rw [LowGasPrice, ← BackrunStrategy.toNat_bid hbid, plan.gasCost_eq, hplanGas]
    simp only [List.map_cons, List.map_nil, List.sum_cons, List.sum_nil, hgas,
      show (7500000000000000 : U128).toNat = 7500000000000000 from rfl]
    omega
  | sandwich strategy =>
    have hcost : estimateGasCost 400000 100 = .ok 40000000000000000 := by decide
    rw [hcovered hcost]
    obtain ⟨price, base, hbase, hprice, hplanGas⟩ := sandwich_gas hplan
    obtain ⟨-, htarget, -⟩ := sandwich_found hfound
    rw [htarget] at hbase
    rw [LowGasPrice, ← Binary64.toNat_toUint_lt_iff (w := 128) (by decide) (by decide), ← hbase, plan.gasCost_eq,
      hplanGas]
    simp only [List.map_cons, List.map_nil, List.sum_cons, List.sum_nil, hgas,
      show (40000000000000000 : U128).toNat = 40000000000000000 from rfl]
    omega

/-- A backrun at 31.5 gwei, after a swap at 30 gwei. -/
theorem gasCovered_at_30_gwei :
    ∃ found plan, (backrun .new).evaluateTransaction sampleTime sampleTime (largeSwap .uniswapV2 "30000000000") =
        .ok (some found) ∧ (backrun .new).createBundlePlan found = .ok plan ∧
      (backrun .new).GasCovered (largeSwap .uniswapV2 "30000000000") found plan := by
  obtain ⟨found, plan, hfound, hplan⟩ := sampleBackrun_exists List.mem_cons_self
  have hlow : (backrun .new).LowGasPrice (largeSwap .uniswapV2 "30000000000") := by
    unfold LowGasPrice
    decide
  exact ⟨found, plan, hfound, hplan, (gasCovered_iff hfound hplan).mpr hlow⟩

/-- **A plan that costs more than its estimate is less**: a backrun at 52.5 gwei, after a swap at
50 gwei. -/
theorem not_gasCovered_at_50_gwei :
    ∃ found plan, (backrun .new).evaluateTransaction sampleTime sampleTime (largeSwap .uniswapV2 "50000000000") =
        .ok (some found) ∧ (backrun .new).createBundlePlan found = .ok plan ∧
      (backrun .new).subtractedGasCost = .ok 7500000000000000 ∧ plan.gasCost = 10500000000000000 ∧
      ¬ (backrun .new).GasCovered (largeSwap .uniswapV2 "50000000000") found plan := by
  obtain ⟨found, plan, hfound, hplan⟩ := sampleBackrun_exists (List.mem_cons_of_mem _ List.mem_cons_self)
  have hcost : (backrun .new).subtractedGasCost = .ok 7500000000000000 := by decide
  have hgasCost : plan.gasCost = 10500000000000000 := by
    obtain ⟨bid, hbid, hplanGas⟩ := backrun_gas hplan
    obtain ⟨-, htarget, -⟩ := backrun_found hfound
    rw [htarget] at hbid
    have hvalue : BackrunStrategy.new.bid (gasPriceWei (largeSwap .uniswapV2 "50000000000")) = .ok 52500000000 := by
      decide
    obtain rfl := Except.ok.inj (hvalue.symm.trans hbid)
    rw [plan.gasCost_eq, hplanGas]
    decide
  refine ⟨found, plan, hfound, hplan, hcost, hgasCost, ?_⟩
  rintro ⟨gasCost, hcost', -, hle⟩
  obtain rfl := Except.ok.inj (hcost.symm.trans hcost')
  rw [hgasCost] at hle
  exact absurd hle (by decide)

/-! ### The order of the fees -/

/-- The premium of a sandwich raises a price. -/
def Raises (strategy : SandwichStrategy) : Prop :=
  let gasPremiumPercent :=
    (strategy.config.parameter "gas_price_premium_percent" (Binary64.ofDecimal 10 0)).div (Binary64.ofNat 100)
  (Binary64.ofNat 1).lt ((Binary64.ofNat 1).add gasPremiumPercent) = true

theorem le_raisedGasPrice {strategy : SandwichStrategy} (h : Raises strategy) (gasPrice : U128) :
    gasPrice.toNat ≤ ((strategy.raisedGasPrice gasPrice).toUint 128).toNat := by
  rcases Nat.eq_zero_or_pos gasPrice.toNat with hzero | hpos
  · rw [hzero]
    exact Nat.zero_le _
  · have hbelow := Binary64.not_below_ofNat_mul hpos (Binary64.rounded_add _ _) h
    rw [← Binary64.toNat_toUint_lt_iff (w := 128) hpos gasPrice.isLt] at hbelow
    exact Nat.le_of_not_lt hbelow

/-- The fees of a plan beside the one of its target. The backrun has a twentieth more, up to the
cap. The sandwich's back run has the raised one and its front run a gwei on top of that, which is
more than the victim's, if the premium raises a price. -/
def FeeOrder (opportunity : ScoredOpportunity) (plan : BundlePlan) : MevStrategy → Prop
  | .arbitrage _ => True
  | .backrun strategy =>
    let targetFee := (gasPriceWei opportunity.targetTransaction).toNat
    plan.fees = [(.backRun, min (targetFee + targetFee / 20) strategy.config.maxGasPriceWei)]
  | .sandwich strategy =>
    let victimFee := gasPriceWei opportunity.targetTransaction
    let backRunFee := ((strategy.raisedGasPrice victimFee).toUint 128).toNat
    let frontRunFee := backRunFee + 10 ^ 9
    plan.fees = [(.frontRun, frontRunFee), (.backRun, backRunFee)] ∧
      (Raises strategy → victimFee.toNat ≤ backRunFee ∧ victimFee.toNat < frontRunFee)

/-- **The fees of a plan** beside the one of its target. -/
theorem feeOrder_of_plan {strategy : MevStrategy} {opportunity : ScoredOpportunity}
    (hplan : strategy.createBundlePlan opportunity = .ok plan) : strategy.FeeOrder opportunity plan := by
  cases strategy with
  | arbitrage strategy => trivial
  | backrun strategy =>
    obtain ⟨bid, hbid, hgas⟩ := backrun_gas hplan
    simp only [FeeOrder]
    rw [plan.fees_eq, hgas, ← BackrunStrategy.toNat_bid hbid]
    rfl
  | sandwich strategy =>
    obtain ⟨price, base, hbase, hprice, hgas⟩ := sandwich_gas hplan
    simp only [FeeOrder]
    rw [plan.fees_eq, hgas, ← hbase, ← hprice]
    refine ⟨rfl, fun hraises => ?_⟩
    have hle := le_raisedGasPrice hraises (gasPriceWei opportunity.targetTransaction)
    rw [← hbase] at hle
    exact ⟨hle, by omega⟩

/-- An opportunity to sandwich a swap at 50 gwei. -/
def sandwichAt50Gwei : ScoredOpportunity :=
  { sampleSandwich with targetTransaction := largeSwap .uniswapV2 "50000000000" }

/-- An opportunity to follow it. -/
def backrunAt50Gwei : ScoredOpportunity :=
  { sampleBackrun with targetTransaction := largeSwap .uniswapV2 "50000000000" }

/-- The sandwich strategy as it is created, but for a premium of minus 50 percent. -/
def discounted : SandwichStrategy where
  config :=
    { SandwichStrategy.new.config with
      parameters
        | "gas_price_premium_percent" => some (.number (.float (Binary64.ofDecimal 50 0).neg))
        | key => SandwichStrategy.new.config.parameters key }

theorem exists_plan_fees {strategy : MevStrategy} {opportunity : ScoredOpportunity}
    {fees : List (TransactionType × ℕ)}
    (h : (strategy.createBundlePlan opportunity).toOption.map (·.fees) = some fees) :
    ∃ plan, strategy.createBundlePlan opportunity = .ok plan ∧ plan.fees = fees := by
  rcases hplan : strategy.createBundlePlan opportunity with failure | plan
  · rw [hplan] at h
    cases h
  · rw [hplan] at h
    exact ⟨plan, rfl, Option.some.inj h⟩

/-- What a sandwich at 50 gwei bids, as the strategy is created and with a premium of minus 50 percent. -/
theorem sandwich_fees_at_50_gwei :
    ((sandwich .new).createBundlePlan sandwichAt50Gwei).toOption.map (·.fees) =
        some [(.frontRun, 56000000000), (.backRun, 55000000000)] ∧
      ((sandwich discounted).createBundlePlan sandwichAt50Gwei).toOption.map (·.fees) =
        some [(.frontRun, 26000000000), (.backRun, 25000000000)] := by
  decide +kernel

/-- The fees around a swap at 50 gwei. -/
theorem feeOrder_at_50_gwei :
    ∃ plan, (sandwich .new).createBundlePlan sandwichAt50Gwei = .ok plan ∧ Raises .new ∧
      (sandwich .new).FeeOrder sandwichAt50Gwei plan := by
  obtain ⟨plan, hplan, -⟩ := exists_plan_fees sandwich_fees_at_50_gwei.1
  refine ⟨plan, hplan, ?_, feeOrder_of_plan hplan⟩
  unfold Raises
  decide +kernel

/-- A block that is ordered by fees has the front run before the target, and all else after it. -/
def FeesAroundTarget (opportunity : ScoredOpportunity) (plan : BundlePlan) : Prop :=
  let targetFee := (gasPriceWei opportunity.targetTransaction).toNat
  ∀ fee ∈ plan.fees, if fee.1 = .frontRun then targetFee < fee.2 else fee.2 ≤ targetFee

theorem not_feesAroundTarget {opportunity : ScoredOpportunity} {targetFee : ℕ} (fee : TransactionType × ℕ)
    (htarget : (gasPriceWei opportunity.targetTransaction).toNat = targetFee) (hfee : fee ∈ plan.fees)
    (hwrong : ¬ if fee.1 = .frontRun then targetFee < fee.2 else fee.2 ≤ targetFee) :
    ¬ FeesAroundTarget opportunity plan := by
  intro horder
  have hside := horder fee hfee
  rw [htarget] at hside
  exact hwrong hside

/-- **Fees on the wrong side of the target**, which is at 50 gwei: a back run at 55 and a backrun
at 52.5; and a front run at 26, where the configured premium is negative. -/
theorem fees_not_around_target :
    (∃ plan, (sandwich .new).createBundlePlan sandwichAt50Gwei = .ok plan ∧
        plan.fees = [(.frontRun, 56000000000), (.backRun, 55000000000)] ∧
        ¬ FeesAroundTarget sandwichAt50Gwei plan) ∧
      (∃ plan, (backrun .new).createBundlePlan backrunAt50Gwei = .ok plan ∧
        plan.fees = [(.backRun, 52500000000)] ∧ ¬ FeesAroundTarget backrunAt50Gwei plan) ∧
      ∃ plan, (sandwich discounted).createBundlePlan sandwichAt50Gwei = .ok plan ∧
        plan.fees = [(.frontRun, 26000000000), (.backRun, 25000000000)] ∧
        ¬ FeesAroundTarget sandwichAt50Gwei plan := by
  have htarget : (gasPriceWei (largeSwap .uniswapV2 "50000000000")).toNat = 50000000000 := by decide
  have hbackrun : ((backrun .new).createBundlePlan backrunAt50Gwei).toOption.map (·.fees) =
      some [(.backRun, 52500000000)] := by decide
  refine ⟨?_, ?_, ?_⟩
  · obtain ⟨plan, hplan, hfees⟩ := exists_plan_fees sandwich_fees_at_50_gwei.1
    exact ⟨plan, hplan, hfees,
      not_feesAroundTarget (.backRun, 55000000000) htarget (by simp [hfees]) (by decide)⟩
  · obtain ⟨plan, hplan, hfees⟩ := exists_plan_fees hbackrun
    exact ⟨plan, hplan, hfees,
      not_feesAroundTarget (.backRun, 52500000000) htarget (by simp [hfees]) (by decide)⟩
  · obtain ⟨plan, hplan, hfees⟩ := exists_plan_fees sandwich_fees_at_50_gwei.2
    exact ⟨plan, hplan, hfees,
      not_feesAroundTarget (.frontRun, 26000000000) htarget (by simp [hfees]) (by decide)⟩

end MevStrategy

end Botmev.Strategies
