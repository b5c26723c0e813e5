import Botmev.Library.Binary64Rounding
import Botmev.Strategies.Arbitrage
import Botmev.Strategies.Backrun
import Botmev.Strategies.Sandwich

/-!
# Evaluations

What comes out of an evaluation, for each of the three strategies. The id of an opportunity has
eight characters of the hash in it, which are sliced at fixed positions; the hash is whatever
string came with the transaction. The sandwich adds its own trade to that of the victim. All
other arithmetic is saturating, or on doubles, or far from its bounds.

## What is proved

* `opportunityFor_eq_ok_iff`: an opportunity can be made just if the hash can be sliced.
* `evaluateTransaction_total_iff`: when an evaluation returns.
* `arbitrage_made`, `backrun_made`, `sandwich_made`: what is found, and what it is made from.
-/

namespace Botmev.Strategies

open Botmev.Rust Botmev.Library Botmev.Core
open Botmev.Library.Binary64 (finite zero_mul_eq below_finite_iff toNat_toUint_lt_iff)

/-- "All MEV strategies" that there are. -/
inductive MevStrategy where
  /-- `ArbitrageStrategy`. -/
  | arbitrage (strategy : ArbitrageStrategy)
  /-- `BackrunStrategy`. -/
  | backrun (strategy : BackrunStrategy)
  /-- `SandwichStrategy`. -/
  | sandwich (strategy : SandwichStrategy)

namespace MevStrategy

/-- `config()`. -/
def config : MevStrategy → StrategyConfig
  | .arbitrage strategy => strategy.config
  | .backrun strategy => strategy.config
  | .sandwich strategy => strategy.config

/-- `evaluate_transaction`, with the two times it reads. -/
def evaluateTransaction (idTime expiryTime : UtcNow) (tx : ParsedTransaction) :
    MevStrategy → Result (Option ScoredOpportunity)
  | .arbitrage strategy => strategy.evaluateTransaction idTime expiryTime tx
  | .backrun strategy => strategy.evaluateTransaction idTime expiryTime tx
  | .sandwich strategy => strategy.evaluateTransaction idTime expiryTime tx

/-- `create_bundle_plan`. -/
def createBundlePlan (opportunity : ScoredOpportunity) : MevStrategy → Result BundlePlan
  | .arbitrage strategy => strategy.createBundlePlan opportunity
  | .backrun strategy => strategy.createBundlePlan opportunity
  | .sandwich strategy => strategy.createBundlePlan opportunity

end MevStrategy

/-! ### Opportunities -/

/-- The eight characters of the id can be taken from the hash. -/
def HashSliceable (tx : ParsedTransaction) : Prop :=
  isCharBoundary tx.transaction.hash 2 = true ∧ isCharBoundary tx.transaction.hash 10 = true

instance (tx : ParsedTransaction) : Decidable (HashSliceable tx) := inferInstanceAs (Decidable (_ ∧ _))

/-- What an opportunity is made of. -/
structure MadeFor (config : StrategyConfig) (tx : ParsedTransaction) (opportunityType : OpportunityType)
    (estimatedProfitWei : U128) (confidenceScore : Binary64) (opportunity : ScoredOpportunity) : Prop where
  /-- The name is that of the strategy. -/
  strategyName : opportunity.strategyName = config.name
  /-- The transaction is kept. -/
  targetTransaction : opportunity.targetTransaction = tx
  /-- So is the kind. -/
  opportunityType : opportunity.opportunityType = opportunityType
  /-- The profit. -/
  estimatedProfitWei : opportunity.estimatedProfitWei = estimatedProfitWei
  /-- The confidence. -/
  confidenceScore : opportunity.confidenceScore = confidenceScore

section
variable {config : StrategyConfig} {idTime expiryTime : UtcNow} {tx : ParsedTransaction}
  {opportunityType : OpportunityType} {estimatedProfitWei gasLimit gasCost : U128} {gasPriceGwei : U64}
  {confidenceScore : Binary64} {expirySeconds : U64} {opportunity : ScoredOpportunity}

theorem madeFor_of_opportunityFor
    (h : opportunityFor config idTime expiryTime tx opportunityType estimatedProfitWei gasLimit gasPriceGwei
      confidenceScore expirySeconds = .ok opportunity) :
    MadeFor config tx opportunityType estimatedProfitWei confidenceScore opportunity := by
  simp only [opportunityFor, bind_eq_ok_iff] at h
  obtain ⟨_, -, _, -, _, -, _, -, h⟩ := h
  obtain rfl := Except.ok.inj h
  exact ⟨rfl, rfl, rfl, rfl, rfl⟩

/-- **An opportunity is made** just if the hash can be sliced. -/
theorem opportunityFor_eq_ok_iff (hgas : estimateGasCost gasLimit gasPriceGwei = .ok gasCost)
    (hseconds : expirySeconds.toNat ≤ 30) :
    (∃ opportunity, opportunityFor config idTime expiryTime tx opportunityType estimatedProfitWei gasLimit
        gasPriceGwei confidenceScore expirySeconds = .ok opportunity) ↔ HashSliceable tx := by
  rw [HashSliceable, ← generateOpportunityId_ok_iff config.name _ idTime]
  constructor
  · rintro ⟨opportunity, h⟩
    obtain ⟨id, hid, -⟩ := bind_eq_ok_iff.mp h
    exact ⟨id, hid⟩
  · rintro ⟨id, hid⟩
    obtain ⟨priority, hpriority⟩ := calculatePriorityScore_ok estimatedProfitWei confidenceScore config.priority
    obtain ⟨expiry, hexpiry⟩ := expiryTimestamp_ok expiryTime hseconds
    rw [opportunityFor, hid, ok_bind, hgas, ok_bind, hpriority, ok_bind, hexpiry]
    exact ⟨_, rfl⟩

end

/-! ### The arithmetic of an estimate -/

theorem calculateBackrunProfit_ok (tx : ParsedTransaction) (priceImpact : Binary64) :
    ∃ estimatedProfit, BackrunStrategy.calculateBackrunProfit tx priceImpact = .ok estimatedProfit := by
  have hgas : estimateGasCost 150000 50 = .ok 7500000000000000 := by decide
  unfold BackrunStrategy.calculateBackrunProfit BackrunStrategy.profit
  simp only [hgas, ok_bind]
  exact ⟨_, rfl⟩

namespace SandwichStrategy

variable {strategy : SandwichStrategy} {tx : ParsedTransaction}

/-- The value of the victim, as it is read. -/
def victimValueWei (tx : ParsedTransaction) : U128 := (parseUint 128 tx.transaction.value).getD 0

/-- The victim's trade leaves room for the bot's: half of the most it would do, which is a
multiple of the victim's. -/
def TradeFits (strategy : SandwichStrategy) (tx : ParsedTransaction) : Prop :=
  let maxMultiple := strategy.config.parameter "max_front_run_multiple" (Binary64.ofDecimal 3 0)
  (((Binary64.ofNat (victimValueWei tx).toNat).mul maxMultiple).mul (Binary64.ofDecimal 5 1)).Below
    (2 ^ 128 - (victimValueWei tx).toNat)

theorem exists_add_toUint_iff {value : U128} {factor half : Binary64} :
    (∃ total, Uint.add value ((((Binary64.ofNat value.toNat).mul factor).mul half).toUint 128) = .ok total) ↔
      (((Binary64.ofNat value.toNat).mul factor).mul half).Below (2 ^ 128 - value.toNat) := by
  have hvalue := value.isLt
  rw [Uint.exists_add_eq_ok_iff]
  rcases Nat.eq_zero_or_pos value.toNat with hzero | hpos
  · -- A multiple of nothing is nothing, or not a number.
    have hsize : ((finite 0).mul factor).mul half = .finite 0 ∨ ((finite 0).mul factor).mul half = .nan := by
      rcases zero_mul_eq factor with h | h
      · rw [h]
        exact zero_mul_eq half
      · rw [h]
        exact .inr rfl
    rw [hzero, Binary64.ofNat_zero]
    refine iff_of_true (by omega) ?_
    rcases hsize with h | h
    · rw [h, below_finite_iff]
      exact Int.mul_pos (by decide) (Int.natCast_pos.mpr Binary64.one_pos)
    · rw [h]
      rfl
  · rw [← toNat_toUint_lt_iff (w := 128) (by omega) (by omega)]
    omega

theorem calculateSandwichProfit_ok_iff :
    (∃ estimate, strategy.calculateSandwichProfit tx = .ok estimate) ↔ strategy.TradeFits tx := by
  have hgas : estimateGasCost 400000 100 = .ok 40000000000000000 := by decide
  rw [TradeFits, ← exists_add_toUint_iff]
  constructor
  · rintro ⟨estimate, h⟩
    unfold calculateSandwichProfit profit at h
    obtain ⟨total, htotal, -⟩ := bind_eq_ok_iff.mp h
    exact ⟨total, htotal⟩
  · rintro ⟨total, htotal⟩
    unfold victimValueWei at htotal
    unfold calculateSandwichProfit profit
    simp only [htotal, hgas, ok_bind]
    exact ⟨_, rfl⟩

end SandwichStrategy

/-! ### Evaluations -/

/-- How every evaluation ends: with nothing, for too small a profit, or with an opportunity that
is perhaps thrown away again. -/
theorem ends_ok_iff {made : Result ScoredOpportunity} {keep : ScoredOpportunity → Result (Option ScoredOpportunity)}
    {tooSmall : Prop} [Decidable tooSmall] {tx : ParsedTransaction}
    (hmade : (∃ opportunity, made = .ok opportunity) ↔ HashSliceable tx)
    (hkeep : ∀ opportunity, ∃ found, keep opportunity = .ok found) :
    (∃ found, (if tooSmall then pure none else made >>= keep : Result (Option ScoredOpportunity)) = .ok found) ↔
      (¬ tooSmall → HashSliceable tx) := by
  by_cases h : tooSmall
  · rw [if_pos h]
    exact iff_of_true ⟨none, rfl⟩ fun hnot => absurd h hnot
  · rw [if_neg h, ← hmade, forall_prop_of_true h]
    constructor
    · rintro ⟨found, hfound⟩
      obtain ⟨opportunity, hopportunity, -⟩ := bind_eq_ok_iff.mp hfound
      exact ⟨opportunity, hopportunity⟩
    · rintro ⟨opportunity, hopportunity⟩
      obtain ⟨found, hfound⟩ := hkeep opportunity
      exact ⟨found, bind_eq_ok_iff.mpr ⟨opportunity, hopportunity, hfound⟩⟩

namespace MevStrategy

variable {idTime expiryTime : UtcNow} {tx : ParsedTransaction}

/-- The transaction passes the strategy's tests: it is a candidate, and the profit is large
enough. -/
def Promising (tx : ParsedTransaction) : MevStrategy → Prop
  | .arbitrage strategy =>
    strategy.config.enabled = true ∧ ArbitrageStrategy.isArbitrageCandidate tx = true ∧
      tx.targetType = .uniswapV2 ∧ strategy.config.minProfitWei ≤ 18000000000000000
  | .backrun strategy =>
    strategy.config.enabled = true ∧ strategy.isBackrunCandidate tx = true ∧
      (BackrunStrategy.analyzePriceImpact tx).lt (Binary64.ofDecimal 1 3) = false ∧
      ∃ profit, BackrunStrategy.calculateBackrunProfit tx (BackrunStrategy.analyzePriceImpact tx) = .ok profit ∧
        strategy.config.minProfitWei ≤ profit
  | .sandwich strategy =>
    strategy.config.enabled = true ∧ strategy.isSandwichVictim tx = true ∧
      ∃ estimate, strategy.calculateSandwichProfit tx = .ok estimate ∧
        strategy.config.minProfitWei ≤ estimate.netProfit

/-- The sandwich's trade fits beside that of its victim. -/
def TradeFits (tx : ParsedTransaction) : MevStrategy → Prop
  | .arbitrage _ | .backrun _ => True
  | .sandwich strategy =>
    strategy.config.enabled = true → strategy.isSandwichVictim tx = true → strategy.TradeFits tx

theorem arbitrage_total_iff {strategy : ArbitrageStrategy} :
    (∃ found, strategy.evaluateTransaction idTime expiryTime tx = .ok found) ↔
      (Promising tx (.arbitrage strategy) → HashSliceable tx) := by
  have hgas : estimateGasCost 400000 80 = .ok 32000000000000000 := by decide
  unfold ArbitrageStrategy.evaluateTransaction Promising
  by_cases henabled : strategy.config.enabled = false
  · simp [henabled, pure, Except.pure]
  by_cases hcandidate : ArbitrageStrategy.isArbitrageCandidate tx = false
  · simp [hcandidate, henabled, pure, Except.pure]
  rw [if_neg henabled, if_neg hcandidate]
  rw [Bool.not_eq_false] at henabled hcandidate
  by_cases htarget : tx.targetType = .uniswapV2
  · simp only [ArbitrageStrategy.findArbitrageOpportunities, htarget, if_true, ArbitrageStrategy.bestOpportunity,
      List.foldl_nil, ArbitrageStrategy.evaluateOpportunity, ArbitrageStrategy.calculateArbitrageProfit, hgas,
      ok_bind, henabled, hcandidate, true_and]
    rw [← BitVec.not_lt]
    exact ends_ok_iff (opportunityFor_eq_ok_iff hgas (by decide)) fun opportunity => ⟨_, rfl⟩
  · simp [ArbitrageStrategy.findArbitrageOpportunities, htarget, ArbitrageStrategy.bestOpportunity, pure,
      Except.pure]

theorem backrun_total_iff {strategy : BackrunStrategy} :
    (∃ found, strategy.evaluateTransaction idTime expiryTime tx = .ok found) ↔
      (Promising tx (.backrun strategy) → HashSliceable tx) := by
  have hgas : estimateGasCost 200000 50 = .ok 10000000000000000 := by decide
  unfold BackrunStrategy.evaluateTransaction Promising
  by_cases henabled : strategy.config.enabled = false
  · simp [henabled, pure, Except.pure]
  by_cases hcandidate : strategy.isBackrunCandidate tx = false
  · simp [hcandidate, henabled, pure, Except.pure]
  rw [if_neg henabled, if_neg hcandidate]
  rw [Bool.not_eq_false] at henabled hcandidate
  generalize BackrunStrategy.analyzePriceImpact tx = priceImpact
  by_cases himpact : priceImpact.lt (Binary64.ofDecimal 1 3) = true
  · simp [himpact, pure, Except.pure]
  rw [if_neg himpact]
  rw [Bool.not_eq_true] at himpact
  obtain ⟨profit, hprofit⟩ := calculateBackrunProfit_ok tx priceImpact
  simp only [BackrunStrategy.evaluateImpact, hprofit, ok_bind, henabled, hcandidate, himpact, true_and,
    Except.ok.injEq, exists_eq_left']
  rw [← BitVec.not_lt]
  exact ends_ok_iff (opportunityFor_eq_ok_iff hgas (by decide)) fun opportunity => ⟨_, rfl⟩

theorem sandwich_total_iff {strategy : SandwichStrategy} :
    (∃ found, strategy.evaluateTransaction idTime expiryTime tx = .ok found) ↔
      TradeFits tx (.sandwich strategy) ∧ (Promising tx (.sandwich strategy) → HashSliceable tx) := by
  have hgas : estimateGasCost 400000 100 = .ok 40000000000000000 := by decide
  unfold SandwichStrategy.evaluateTransaction Promising TradeFits
  by_cases henabled : strategy.config.enabled = false
  · simp [henabled, pure, Except.pure]
  by_cases hvictim : strategy.isSandwichVictim tx = false
  · simp [hvictim, henabled, pure, Except.pure]
  rw [if_neg henabled, if_neg hvictim]
  rw [Bool.not_eq_false] at henabled hvictim
  simp only [henabled, hvictim, true_and, forall_const, ← SandwichStrategy.calculateSandwichProfit_ok_iff,
    SandwichStrategy.evaluateVictim]
  rcases hestimate : strategy.calculateSandwichProfit tx with failure | estimate
  · exact iff_of_false (by rintro ⟨_, ⟨⟩⟩) (by rintro ⟨⟨_, ⟨⟩⟩, -⟩)
  · simp only [ok_bind, Except.ok.injEq, exists_eq', exists_eq_left', true_and]
    rw [← BitVec.not_lt]
    refine ends_ok_iff (opportunityFor_eq_ok_iff hgas (by decide)) fun opportunity => ?_
    split <;> exact ⟨_, rfl⟩

/-- **An evaluation returns** just if the trade fits and, for a promising transaction, the hash
can be sliced. -/
theorem evaluateTransaction_total_iff (strategy : MevStrategy) (idTime expiryTime : UtcNow)
    (tx : ParsedTransaction) :
    (∃ found, strategy.evaluateTransaction idTime expiryTime tx = .ok found) ↔
      strategy.TradeFits tx ∧ (strategy.Promising tx → HashSliceable tx) := by
  cases strategy with
  | arbitrage strategy => exact arbitrage_total_iff.trans (and_iff_right trivial).symm
  | backrun strategy => exact backrun_total_iff.trans (and_iff_right trivial).symm
  | sandwich strategy => exact sandwich_total_iff

/-! ### What is found -/

variable {found : ScoredOpportunity}

/-- **What an arbitrage is made from**: the best of the price differences, and its profit. -/
theorem arbitrage_made {strategy : ArbitrageStrategy}
    (h : strategy.evaluateTransaction idTime expiryTime tx = .ok (some found)) :
    ∃ best netProfit confidence,
      ArbitrageStrategy.bestOpportunity (ArbitrageStrategy.findArbitrageOpportunities tx) = some best ∧
        ArbitrageStrategy.calculateArbitrageProfit best = .ok netProfit ∧
        MadeFor strategy.config tx (.arbitrage best.tokenIn best.tokenOut best.amountIn netProfit best.dexPath)
          netProfit confidence found := by
  unfold ArbitrageStrategy.evaluateTransaction at h
  split at h
  · cases h
  split at h
  · cases h
  split at h
  · cases h
  rename_i best hbest
  simp only [ArbitrageStrategy.evaluateOpportunity, bind_eq_ok_iff] at h
  obtain ⟨netProfit, hprofit, h⟩ := h
  split at h
  · cases h
  · obtain ⟨opportunity, hopportunity, h⟩ := bind_eq_ok_iff.mp h
    cases h
    exact ⟨best, netProfit, _, hbest, hprofit, madeFor_of_opportunityFor hopportunity⟩

/-- **What a backrun is made from**: a candidate, and its profit. -/
theorem backrun_made {strategy : BackrunStrategy}
    (h : strategy.evaluateTransaction idTime expiryTime tx = .ok (some found)) :
    strategy.isBackrunCandidate tx = true ∧ ∃ estimatedProfit confidence,
      BackrunStrategy.calculateBackrunProfit tx (BackrunStrategy.analyzePriceImpact tx) = .ok estimatedProfit ∧
        MadeFor strategy.config tx
          (.backrun tx.transaction.hash "UNKNOWN" (BackrunStrategy.analyzePriceImpact tx) "arbitrage_swap")
          estimatedProfit confidence found := by
  unfold BackrunStrategy.evaluateTransaction at h
  split at h
  · cases h
  split at h
  · cases h
  rename_i hcandidate
  split at h
  · cases h
  simp only [BackrunStrategy.evaluateImpact, bind_eq_ok_iff] at h
  obtain ⟨estimatedProfit, hprofit, h⟩ := h
  split at h
  · cases h
  · obtain ⟨opportunity, hopportunity, h⟩ := bind_eq_ok_iff.mp h
    cases h
    exact ⟨Bool.not_eq_false _ ▸ hcandidate, estimatedProfit, _, hprofit, madeFor_of_opportunityFor hopportunity⟩

/-- **What a sandwich is made from**: a victim, and the estimate for it. -/
theorem sandwich_made {strategy : SandwichStrategy}
    (h : strategy.evaluateTransaction idTime expiryTime tx = .ok (some found)) :
    strategy.isSandwichVictim tx = true ∧ ∃ estimate, strategy.calculateSandwichProfit tx = .ok estimate ∧
      MadeFor strategy.config tx
        (.sandwich tx.transaction.hash ("ETH", "TOKEN") estimate.frontRunSize estimate.frontRunSize
          estimate.netProfit) estimate.netProfit estimate.confidence found := by
  unfold SandwichStrategy.evaluateTransaction at h
  split at h
  · cases h
  split at h
  · cases h
  rename_i hvictim
  simp only [SandwichStrategy.evaluateVictim, bind_eq_ok_iff] at h
  obtain ⟨estimate, hestimate, h⟩ := h
  split at h
  · cases h
  · obtain ⟨opportunity, hopportunity, h⟩ := bind_eq_ok_iff.mp h
    split at h
    · cases h
    · cases h
      exact ⟨Bool.not_eq_false _ ▸ hvictim, estimate, hestimate, madeFor_of_opportunityFor hopportunity⟩

/-- **An arbitrage** is always the same. -/
theorem arbitrage_found {strategy : ArbitrageStrategy}
    (h : strategy.evaluateTransaction idTime expiryTime tx = .ok (some found)) :
    ∃ netProfit, found.opportunityType =
      .arbitrage "WETH" "USDC" 1000000000000000000 netProfit ["UniswapV2", "SushiSwap"] := by
  obtain ⟨best, netProfit, confidence, hbest, -, hmade⟩ := arbitrage_made h
  unfold ArbitrageStrategy.findArbitrageOpportunities at hbest
  split at hbest
  · obtain rfl := Option.some.inj hbest
    exact ⟨netProfit, hmade.opportunityType⟩
  · cases hbest

/-- **A backrun** is of a candidate. -/
theorem backrun_found {strategy : BackrunStrategy}
    (h : strategy.evaluateTransaction idTime expiryTime tx = .ok (some found)) :
    strategy.isBackrunCandidate tx = true ∧ found.targetTransaction = tx ∧
      ∃ priceImpact, found.opportunityType =
        .backrun tx.transaction.hash "UNKNOWN" priceImpact "arbitrage_swap" := by
  obtain ⟨hcandidate, estimatedProfit, confidence, -, hmade⟩ := backrun_made h
  exact ⟨hcandidate, hmade.targetTransaction, _, hmade.opportunityType⟩

/-- **A sandwich** is of a victim. -/
theorem sandwich_found {strategy : SandwichStrategy}
    (h : strategy.evaluateTransaction idTime expiryTime tx = .ok (some found)) :
    strategy.isSandwichVictim tx = true ∧ found.targetTransaction = tx ∧
      ∃ size netProfit, found.opportunityType =
        .sandwich tx.transaction.hash ("ETH", "TOKEN") size size netProfit := by
  obtain ⟨hvictim, estimate, -, hmade⟩ := sandwich_made h
  exact ⟨hvictim, hmade.targetTransaction, _, _, hmade.opportunityType⟩

/-! ### Panics -/

/-- A swap with this hash, value and gas price. -/
def swapWith (targetType : TargetType) (hash value gasPrice : String) : ParsedTransaction where
  transaction :=
    { hash, fromAddress := "0xfrom", toAddress := some "0xto", value, gasPrice, gasLimit := "200000"
      nonce := 1, input := "0x38ed1739" }
  decodedInput := none
  targetType := targetType

/-- A time in November 2023. -/
def sampleTime : UtcNow := ⟨1700000000000000000, by decide⟩

/-- **An evaluation that panics**: on a hash of nine bytes, on one with an accent across its
tenth byte, and on a swap of the largest value. -/
theorem evaluations_panic :
    panics ((arbitrage .new).evaluateTransaction sampleTime sampleTime
        (swapWith .uniswapV2 "0x1234567" "2000000000000000000" "50000000000")) = true ∧
      panics ((arbitrage .new).evaluateTransaction sampleTime sampleTime
        (swapWith .uniswapV2 "0x1234567é" "2000000000000000000" "50000000000")) = true ∧
      panics ((sandwich .new).evaluateTransaction sampleTime sampleTime
        (swapWith .uniswapV2 "0x1234567890abcdef" "340282366920938463463374607431768211455" "50000000000")) =
        true := by
  decide +kernel

end MevStrategy

end Botmev.Strategies
