import Botmev.Rust.Runtime
import Botmev.Rust.Str
import Botmev.Strategies.Engine

/-!
# Opportunities and bundle plans

What a strategy finds, what it plans to send for it, and the helpers that the strategies share
for both (`mev-strategies/src/strategy_types.rs`). The metadata of an opportunity, which nothing
reads, is left out.
-/

namespace Botmev.Strategies

open Botmev.Rust Botmev.Library Botmev.Core

/-- "MEV opportunity detected by a strategy", with its scores. -/
structure ScoredOpportunity extends DetectedOpportunity where
  /-- `estimated_gas_cost_wei`. -/
  estimatedGasCostWei : U128
  /-- "0.0 to 1.0". -/
  confidenceScore : Binary64
  /-- "0-255, higher = more urgent". -/
  priority : BitVec 8
  deriving DecidableEq, Repr

/-- "Types of transactions in a bundle". -/
inductive TransactionType where
  | frontRun | target | backRun | arbitrage | liquidation
  deriving DecidableEq, Repr

/-- "Individual transaction in a bundle plan". -/
structure PlannedTransaction where
  /-- `transaction_type`. -/
  transactionType : TransactionType
  /-- `to`. -/
  toAddress : String
  /-- `value`. -/
  value : U128
  /-- `gas_limit`. -/
  gasLimit : U128
  /-- `gas_price`. -/
  gasPrice : U128
  /-- `data`. -/
  data : String
  /-- `description`. -/
  description : String
  deriving DecidableEq, Repr

/-- "Bundle plan generated by a strategy". -/
structure BundlePlan where
  /-- `id`. -/
  id : String
  /-- `strategy_name`. -/
  strategyName : String
  /-- `opportunity_id`. -/
  opportunityId : String
  /-- `transactions`. -/
  transactions : List PlannedTransaction
  /-- `estimated_gas_total`. -/
  estimatedGasTotal : U128
  /-- `estimated_profit_wei`. -/
  estimatedProfitWei : U128
  /-- "0.0 to 1.0, higher = riskier". -/
  riskScore : Binary64
  /-- `execution_deadline`. -/
  executionDeadline : U64
  deriving DecidableEq, Repr

/-- `x.min(1.0).max(0.0)`. -/
def clampUnit (x : Binary64) : Binary64 := (x.min (Binary64.ofNat 1)).max (Binary64.ofNat 0)

/-- "Calculate confidence score based on various factors". -/
def calculateConfidenceScore (profitMargin gasPriceStability marketVolatility : Binary64) : Binary64 :=
  let baseConfidence := clampUnit profitMargin
  let gasFactor := clampUnit gasPriceStability
  let volatilityFactor := clampUnit ((Binary64.ofNat 1).add marketVolatility.neg)
  clampUnit (((baseConfidence.mul (Binary64.ofDecimal 5 1)).add
    (gasFactor.mul (Binary64.ofDecimal 3 1))).add (volatilityFactor.mul (Binary64.ofDecimal 2 1)))

/-- "Generate unique opportunity ID". -/
def generateOpportunityId (strategyName txHash : String) (now : UtcNow) : Result String := do
  -- "First 8 chars of hash"
  let chars ← slice txHash 2 10
  pure (strategyName ++ "_" ++ chars ++ "_" ++ toString now.timestampMillis)

/-- The boost of `calculate_priority_score`. -/
def priorityBoost (profitWei : U128) (confidence : Binary64) : BitVec 8 :=
  -- "Normalize to ETH"
  let profitFactor := ((Binary64.ofNat profitWei.toNat).div weiPerEth).min (Binary64.ofNat 2)
  ((profitFactor.mul confidence).mul (Binary64.ofNat 50)).toUint 8

/-- "Calculate priority score based on profit and confidence". -/
def calculatePriorityScore (profitWei : U128) (confidence : Binary64) (basePriority : BitVec 8) :
    Result (BitVec 8) := do
  let priority ← Uint.add (basePriority.setWidth 16) ((priorityBoost profitWei confidence).setWidth 16)
  pure ((Uint.min priority 255).setWidth 8)

/-- `chrono::Utc::now().timestamp() as u64 + seconds`. -/
def expiryTimestamp (now : UtcNow) (seconds : U64) : Result U64 := Uint.add now.timestamp seconds

/-- What the strategies plan to send with every transaction: the selector of
`swapExactTokensForTokens`. -/
def swapCalldata : String := "0x38ed1739"

/-- The opportunity that a strategy makes of a transaction, once it has decided to: the id, the
priority and the expiry are worked out here. -/
def opportunityFor (config : StrategyConfig) (idTime expiryTime : UtcNow) (tx : ParsedTransaction)
    (opportunityType : OpportunityType) (estimatedProfitWei gasLimit : U128) (gasPriceGwei : U64)
    (confidenceScore : Binary64) (expirySeconds : U64) : Result ScoredOpportunity := do
  let id ← generateOpportunityId config.name tx.transaction.hash idTime
  let estimatedGasCostWei ← estimateGasCost gasLimit gasPriceGwei
  let priority ← calculatePriorityScore estimatedProfitWei confidenceScore config.priority
  let expiryTimestamp ← expiryTimestamp expiryTime expirySeconds
  pure
    { id, strategyName := config.name, targetTransaction := tx, opportunityType, estimatedProfitWei
      estimatedGasCostWei, confidenceScore, priority, expiryTimestamp }

/-- The bundle plan that a strategy makes of an opportunity, with these transactions. -/
def planFor (config : StrategyConfig) (idStart : String) (opportunity : ScoredOpportunity)
    (transactions : List PlannedTransaction) (estimatedGasTotal : U128) : BundlePlan where
  id := idStart ++ "_" ++ opportunity.id
  strategyName := config.name
  opportunityId := opportunity.id
  transactions := transactions
  estimatedGasTotal := estimatedGasTotal
  estimatedProfitWei := opportunity.estimatedProfitWei
  -- "Higher confidence = lower risk"
  riskScore := (Binary64.ofNat 1).add opportunity.confidenceScore.neg
  executionDeadline := opportunity.expiryTimestamp

theorem calculatePriorityScore_ok (profitWei : U128) (confidence : Binary64) (basePriority : BitVec 8) :
    ∃ priority, calculatePriorityScore profitWei confidence basePriority = .ok priority := by
  unfold calculatePriorityScore
  generalize priorityBoost profitWei confidence = boost
  have hroom : (basePriority.setWidth 16).toNat + (boost.setWidth 16).toNat < 2 ^ 16 := by
    simp only [BitVec.toNat_setWidth]
    omega
  obtain ⟨priority, hpriority⟩ := Uint.exists_add_eq_ok_iff.mpr hroom
  exact ⟨_, bind_eq_ok_iff.mpr ⟨priority, hpriority, rfl⟩⟩

theorem expiryTimestamp_ok (now : UtcNow) {seconds : U64} (h : seconds.toNat ≤ 30) :
    ∃ expiry, expiryTimestamp now seconds = .ok expiry := by
  have := now.toNat_timestamp_lt
  exact Uint.exists_add_eq_ok_iff.mpr (by omega)

/-- An id can be had just if the slice of the hash can. -/
theorem generateOpportunityId_ok_iff (strategyName txHash : String) (now : UtcNow) :
    (∃ id, generateOpportunityId strategyName txHash now = .ok id) ↔
      isCharBoundary txHash 2 = true ∧ isCharBoundary txHash 10 = true := by
  rw [← isOk_slice_iff (by decide : 2 ≤ 10)]
  constructor
  · rintro ⟨id, h⟩
    obtain ⟨chars, hchars, -⟩ := bind_eq_ok_iff.mp h
    exact ⟨chars, hchars⟩
  · rintro ⟨chars, hchars⟩
    exact ⟨_, bind_eq_ok_iff.mpr ⟨chars, hchars, rfl⟩⟩

end Botmev.Strategies
