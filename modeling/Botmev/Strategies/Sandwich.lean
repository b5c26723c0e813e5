import Botmev.Rust.Str
import Botmev.Strategies.Plans

/-!
# The sandwich strategy

`SandwichStrategy` (`mev-strategies/src/sandwich.rs`): the bot's own transactions go
around a large swap that puts up with a bad price. How large the swap is, is read from the
`value` of the transaction, and how bad a price it puts up with, from its `amountOutMin`,
both as decimal.
-/

namespace Botmev.Strategies

open Botmev.Rust Botmev.Library Botmev.Core

/-- The strategy. -/
structure SandwichStrategy where
  /-- Its configuration. -/
  config : StrategyConfig

namespace SandwichStrategy

/-- `SandwichStrategy::new()`. -/
def new : SandwichStrategy where
  config :=
    { name := "sandwich"
      enabled := true
      priority := 200
      minProfitWei := 10000000000000000 -- 0.01 ETH
      maxGasPriceGwei := 200
      riskTolerance := Binary64.ofDecimal 5 1
      parameters
        | "max_slippage_tolerance" => some (.number (.float (Binary64.ofDecimal 5 0)))
        | "min_victim_value_eth" => some (.number (.float (Binary64.ofDecimal 1 0)))
        | "max_front_run_multiple" => some (.number (.float (Binary64.ofDecimal 3 0)))
        | "gas_price_premium_percent" => some (.number (.float (Binary64.ofDecimal 10 0)))
        | _ => none }

variable (strategy : SandwichStrategy)

/-- The least value of a victim. -/
def minValueWei : U128 :=
  ((strategy.config.parameter "min_victim_value_eth" (Binary64.ofDecimal 1 0)).mul weiPerEth).toUint 128

/-- Whether the victim takes so little for what it gives. -/
def takesSlippage (amountOutMin valueWei : U128) : Bool :=
  let slippageTolerance :=
    if 0 < valueWei then
      (Binary64.ofNat 1).add ((Binary64.ofNat amountOutMin.toNat).div (Binary64.ofNat valueWei.toNat)).neg
    else Binary64.ofNat 1
  let maxSlippage :=
    (strategy.config.parameter "max_slippage_tolerance" (Binary64.ofDecimal 5 0)).div (Binary64.ofNat 100)
  slippageTolerance.ge maxSlippage

/-- The loop of `has_poor_slippage_protection`: the first `amountOutMin` that can be read
decides, if the value could be, too. -/
def poorSlippageProtection (valueWei : Option U128) : List DecodedParameter → Bool
  | [] => true
  | param :: params =>
    if param.name = "amountOutMin" then
      match parseUint 128 param.value, valueWei with
      | some amountOutMin, some valueWei => strategy.takesSlippage amountOutMin valueWei
      | _, _ => poorSlippageProtection valueWei params
    else poorSlippageProtection valueWei params

/-- The test of `is_sandwich_victim`, for the value that was read. -/
def victim (targetType : TargetType) (decodedInput : Option DecodedInput) (valueWei : Option U128) : Bool :=
  match targetType with
  | .uniswapV2 | .uniswapV3 | .sushiSwap =>
    match valueWei with
    | some wei =>
      decide (strategy.minValueWei ≤ wei) &&
        strategy.poorSlippageProtection valueWei ((decodedInput.map (·.parameters)).getD [])
    | none => false
  | _ => false

/-- `is_sandwich_victim`. -/
def isSandwichVictim (tx : ParsedTransaction) : Bool :=
  strategy.victim tx.targetType tx.decodedInput (parseUint 128 tx.transaction.value)

/-- `estimate_price_impact`. -/
def estimatePriceImpact (tradeSizeWei : U128) (targetType : TargetType) : Binary64 :=
  let tradeSizeEth := (Binary64.ofNat tradeSizeWei.toNat).div weiPerEth
  match targetType with
  | .uniswapV2 | .sushiSwap => (tradeSizeEth.mul (Binary64.ofDecimal 5 3)).min (Binary64.ofDecimal 15 2)
  | .uniswapV3 => (tradeSizeEth.mul (Binary64.ofDecimal 3 3)).min (Binary64.ofDecimal 10 2)
  | _ => (tradeSizeEth.mul (Binary64.ofDecimal 2 3)).min (Binary64.ofDecimal 5 2)

/-- What `calculate_sandwich_profit` gives: the size of the front run, and the profit before
and after gas. -/
structure Estimate where
  /-- The front run. -/
  frontRunSize : U128
  /-- The profit before gas. -/
  grossProfit : U128
  /-- The profit after gas. -/
  netProfit : U128
  deriving DecidableEq, Repr

/-- The estimate of `calculate_sandwich_profit`, for the value that was read. -/
def profit (targetType : TargetType) (victimValueWei : U128) : Result Estimate := do
  let maxMultiple := strategy.config.parameter "max_front_run_multiple" (Binary64.ofDecimal 3 0)
  -- "Use 50% of max"
  let frontRunSize :=
    (((Binary64.ofNat victimValueWei.toNat).mul maxMultiple).mul (Binary64.ofDecimal 5 1)).toUint 128
  let tradeSize ← Uint.add victimValueWei frontRunSize
  let priceImpact := estimatePriceImpact tradeSize targetType
  let efficiency :=
    match targetType with
    | .uniswapV2 | .sushiSwap => Binary64.ofDecimal 4 1
    | .uniswapV3 => Binary64.ofDecimal 5 1
    | _ => Binary64.ofDecimal 3 1
  let grossProfit := (((Binary64.ofNat frontRunSize.toNat).mul priceImpact).mul efficiency).toUint 128
  let gasCost ← estimateGasCost 400000 100
  pure { frontRunSize, grossProfit, netProfit := Uint.saturatingSub grossProfit gasCost }

/-- `calculate_sandwich_profit`. -/
def calculateSandwichProfit (tx : ParsedTransaction) : Result Estimate :=
  strategy.profit tx.targetType ((parseUint 128 tx.transaction.value).getD 0)

/-- `get_router_address`. -/
def getRouterAddress : TargetType → Result String := routerAddress "Unsupported target type for sandwich"

/-- The gas price of a victim, raised by the premium. -/
def raisedGasPrice (victimGasPrice : U128) : Binary64 :=
  let gasPremiumPercent :=
    (strategy.config.parameter "gas_price_premium_percent" (Binary64.ofDecimal 10 0)).div (Binary64.ofNat 100)
  (Binary64.ofNat victimGasPrice.toNat).mul ((Binary64.ofNat 1).add gasPremiumPercent)

/-- `create_sandwich_transactions`. -/
def createSandwichTransactions (opportunity : ScoredOpportunity) : Result (List PlannedTransaction) :=
  match opportunity.opportunityType with
  | .sandwich _ _ frontRunAmount _ _ => do
    let victimGasPrice := (parseUint 128 opportunity.targetTransaction.transaction.gasPrice).getD 20000000000
    let ourGasPrice := (strategy.raisedGasPrice victimGasPrice).toUint 128
    let routerAddress ← getRouterAddress opportunity.targetTransaction.targetType
    -- "+1 gwei over our base"
    let frontRunGasPrice ← Uint.add ourGasPrice 1000000000
    let frontRunTx : PlannedTransaction :=
      { transactionType := .frontRun, toAddress := routerAddress, value := frontRunAmount, gasLimit := 200000
        gasPrice := frontRunGasPrice, data := swapCalldata, description := "Sandwich front-run transaction" }
    let backRunTx : PlannedTransaction :=
      { transactionType := .backRun, toAddress := routerAddress, value := 0, gasLimit := 200000
        gasPrice := ourGasPrice, data := swapCalldata, description := "Sandwich back-run transaction" }
    pure [frontRunTx, backRunTx]
  | _ => .error (.err "Invalid opportunity type for sandwich strategy")

/-- "Validate sandwich opportunity against risk parameters". -/
def validateSandwichOpportunity (opportunity : ScoredOpportunity) : Bool :=
  if opportunity.estimatedProfitWei < strategy.config.minProfitWei then false
  else if opportunity.confidenceScore.lt strategy.config.riskTolerance then false
  else
    match opportunity.opportunityType with
    | .sandwich _ _ frontRunAmount _ _ =>
      let victimValue := (parseUint 128 opportunity.targetTransaction.transaction.value).getD 0
      let maxMultiple := strategy.config.parameter "max_front_run_multiple" (Binary64.ofDecimal 3 0)
      decide (frontRunAmount ≤ ((Binary64.ofNat victimValue.toNat).mul maxMultiple).toUint 128)
    | _ => false

/-- The confidence in an estimate. -/
def Estimate.confidence (estimate : Estimate) : Binary64 :=
  calculateConfidenceScore
    ((Binary64.ofNat estimate.netProfit.toNat).div (Binary64.ofNat estimate.grossProfit.toNat))
    (Binary64.ofDecimal 7 1) (Binary64.ofDecimal 3 1)

/-- `evaluate_transaction`, from where the transaction is known to be a victim. -/
def evaluateVictim (idTime expiryTime : UtcNow) (tx : ParsedTransaction) :
    Result (Option ScoredOpportunity) := do
  let estimate ← strategy.calculateSandwichProfit tx
  if estimate.netProfit < strategy.config.minProfitWei then pure none
  else
    let opportunityType := .sandwich tx.transaction.hash ("ETH", "TOKEN") estimate.frontRunSize
      estimate.frontRunSize estimate.netProfit
    let opportunity ← opportunityFor strategy.config idTime expiryTime tx opportunityType estimate.netProfit
      400000 100 estimate.confidence 15
    if strategy.validateSandwichOpportunity opportunity = false then pure none
    else pure (some opportunity)

/-- `evaluate_transaction`. -/
def evaluateTransaction (idTime expiryTime : UtcNow) (tx : ParsedTransaction) :
    Result (Option ScoredOpportunity) :=
  if strategy.config.enabled = false then pure none
  else if strategy.isSandwichVictim tx = false then pure none
  else strategy.evaluateVictim idTime expiryTime tx

/-- `create_bundle_plan`. -/
def createBundlePlan (opportunity : ScoredOpportunity) : Result BundlePlan := do
  let transactions ← strategy.createSandwichTransactions opportunity
  pure (planFor strategy.config "sandwich" opportunity transactions 400000)

end SandwichStrategy

end Botmev.Strategies
