import Botmev.Rust.Str
import Botmev.Strategies.Plans

/-!
# The backrun strategy

`BackrunStrategy` (`mev-strategies/src/backrun.rs`): after a large swap, a transaction of
the bot takes back some of the price that it moved. How large the swap is, is read from
the `value` of the transaction, as decimal.
-/

namespace Botmev.Strategies

open Botmev.Rust Botmev.Library Botmev.Core

/-- The strategy. -/
structure BackrunStrategy where
  /-- Its configuration. -/
  config : StrategyConfig

namespace BackrunStrategy

/-- `BackrunStrategy::new()`. -/
def new : BackrunStrategy where
  config :=
    { name := "backrun"
      enabled := true
      priority := 150
      minProfitWei := 5000000000000000 -- 0.005 ETH
      maxGasPriceGwei := 150
      riskTolerance := Binary64.ofDecimal 7 1
      parameters
        | "min_target_value_eth" => some (.number (.float (Binary64.ofDecimal 5 1)))
        | "max_slippage_percent" => some (.number (.float (Binary64.ofDecimal 2 0)))
        | "target_protocols" => some (.array [.string "UniswapV2", .string "UniswapV3", .string "SushiSwap"])
        | _ => none }

variable (strategy : BackrunStrategy)

/-- The least value of a transaction to follow. -/
def minValueWei : U128 :=
  ((strategy.config.parameter "min_target_value_eth" (Binary64.ofDecimal 5 1)).mul weiPerEth).toUint 128

/-- The test of `is_backrun_candidate`, for the value that was read. -/
def candidate (targetType : TargetType) (valueWei : Option U128) : Bool :=
  match targetType with
  | .uniswapV2 | .uniswapV3 | .sushiSwap | .curve =>
    match valueWei with
    | some valueWei => decide (strategy.minValueWei ≤ valueWei)
    | none => false
  | _ => false

/-- `is_backrun_candidate`. -/
def isBackrunCandidate (tx : ParsedTransaction) : Bool :=
  strategy.candidate tx.targetType (parseUint 128 tx.transaction.value)

/-- The estimate of `analyze_price_impact`, for the value that was read. -/
def priceImpact (targetType : TargetType) (valueWei : U128) : Binary64 :=
  let valueEth := (Binary64.ofNat valueWei.toNat).div weiPerEth
  match targetType with
  | .uniswapV2 | .sushiSwap => (valueEth.mul (Binary64.ofDecimal 3 3)).min (Binary64.ofDecimal 5 2)
  | .uniswapV3 => (valueEth.mul (Binary64.ofDecimal 2 3)).min (Binary64.ofDecimal 3 2)
  | .curve => (valueEth.mul (Binary64.ofDecimal 1 3)).min (Binary64.ofDecimal 1 2)
  | _ => Binary64.ofNat 0

/-- `analyze_price_impact`. -/
def analyzePriceImpact (tx : ParsedTransaction) : Binary64 :=
  priceImpact tx.targetType ((parseUint 128 tx.transaction.value).getD 0)

/-- The estimate of `calculate_backrun_profit`, for the value that was read. -/
def profit (targetType : TargetType) (valueWei : U128) (priceImpact : Binary64) : Result U128 := do
  let profitRate :=
    match targetType with
    | .uniswapV2 | .sushiSwap => priceImpact.mul (Binary64.ofDecimal 3 1)
    | .uniswapV3 => priceImpact.mul (Binary64.ofDecimal 4 1)
    | .curve => priceImpact.mul (Binary64.ofDecimal 5 1)
    | _ => Binary64.ofNat 0
  let estimatedProfitWei := ((Binary64.ofNat valueWei.toNat).mul profitRate).toUint 128
  let gasCostWei ← estimateGasCost 150000 50
  pure (Uint.saturatingSub estimatedProfitWei gasCostWei)

/-- `calculate_backrun_profit`. -/
def calculateBackrunProfit (tx : ParsedTransaction) (priceImpact : Binary64) : Result U128 :=
  profit tx.targetType ((parseUint 128 tx.transaction.value).getD 0) priceImpact

/-- The bid of `calculate_optimal_gas_price`, for the gas price that was read. -/
def bid (targetGasPrice : U128) : Result U128 := do
  -- "5% premium"
  let premium := targetGasPrice / 20
  let ourGasPrice ← Uint.add targetGasPrice premium
  let maxGasPrice ← Uint.mul (strategy.config.maxGasPriceGwei.setWidth 128) 1000000000
  pure (if ourGasPrice ≤ maxGasPrice then ourGasPrice else maxGasPrice)

/-- `calculate_optimal_gas_price`. -/
def calculateOptimalGasPrice (targetTx : ParsedTransaction) : Result U128 :=
  strategy.bid ((parseUint 128 targetTx.transaction.gasPrice).getD 20000000000)

/-- `get_router_address`. -/
def getRouterAddress : TargetType → Result String := routerAddress "Unsupported target type for backrun"

/-- `create_backrun_transaction`. -/
def createBackrunTransaction (opportunity : ScoredOpportunity) : Result PlannedTransaction :=
  match opportunity.opportunityType with
  | .backrun _ _ _ followUpAction => do
    let toAddress ← getRouterAddress opportunity.targetTransaction.targetType
    let gasPrice ← strategy.calculateOptimalGasPrice opportunity.targetTransaction
    pure
      { transactionType := .backRun, toAddress, value := 0, gasLimit := 200000, gasPrice, data := swapCalldata
        description := "Backrun " ++ followUpAction ++ " transaction" }
  | _ => .error (.err "Invalid opportunity type for backrun strategy")

/-- The confidence in a profit, for the value that was read. -/
def confidence (estimatedProfit valueWei : U128) (priceImpact : Binary64) : Binary64 :=
  calculateConfidenceScore ((Binary64.ofNat estimatedProfit.toNat).div (Binary64.ofNat valueWei.toNat))
    (Binary64.ofDecimal 8 1) priceImpact

/-- `evaluate_transaction`, from where the price impact is known to be large enough. -/
def evaluateImpact (idTime expiryTime : UtcNow) (tx : ParsedTransaction) (priceImpact : Binary64) :
    Result (Option ScoredOpportunity) := do
  let estimatedProfit ← calculateBackrunProfit tx priceImpact
  if estimatedProfit < strategy.config.minProfitWei then pure none
  else
    let confidence := confidence estimatedProfit ((parseUint 128 tx.transaction.value).getD 1) priceImpact
    let opportunityType := .backrun tx.transaction.hash "UNKNOWN" priceImpact "arbitrage_swap"
    let opportunity ← opportunityFor strategy.config idTime expiryTime tx opportunityType estimatedProfit 200000 50
      confidence 30
    pure (some opportunity)

/-- `evaluate_transaction`. -/
def evaluateTransaction (idTime expiryTime : UtcNow) (tx : ParsedTransaction) :
    Result (Option ScoredOpportunity) :=
  if strategy.config.enabled = false then pure none
  else if strategy.isBackrunCandidate tx = false then pure none
  -- "Less than 0.1% impact"
  else if (analyzePriceImpact tx).lt (Binary64.ofDecimal 1 3) then pure none
  else strategy.evaluateImpact idTime expiryTime tx (analyzePriceImpact tx)

/-- `create_bundle_plan`. -/
def createBundlePlan (opportunity : ScoredOpportunity) : Result BundlePlan := do
  let backrunTx ← strategy.createBackrunTransaction opportunity
  pure (planFor strategy.config "bundle" opportunity [backrunTx] 200000)

end BackrunStrategy

end Botmev.Strategies
