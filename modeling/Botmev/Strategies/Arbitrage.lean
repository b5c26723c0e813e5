import Botmev.Rust.Str
import Botmev.Strategies.Plans

/-!
# The arbitrage strategy

`ArbitrageStrategy` (`mev-strategies/src/arbitrage.rs`): a swap whose `value`, read as decimal,
is one ether at least may have moved a price, and the bot takes the difference between two
exchanges. The difference itself is assumed.
-/

namespace Botmev.Strategies

open Botmev.Rust Botmev.Library Botmev.Core

/-- The strategy. -/
structure ArbitrageStrategy where
  /-- Its configuration. -/
  config : StrategyConfig

/-- "Arbitrage opportunity details". -/
structure ArbitrageOpportunity where
  /-- `token_in`. -/
  tokenIn : String
  /-- `token_out`. -/
  tokenOut : String
  /-- `amount_in`. -/
  amountIn : U128
  /-- `dex_path`. -/
  dexPath : List String
  /-- `expected_profit`. -/
  expectedProfit : U128
  /-- `price_difference_percent`. -/
  priceDifferencePercent : Binary64

/-- `path[i]`. -/
def dexAt (path : List String) (i : ℕ) : Result String :=
  match path[i]? with
  | some dex => .ok dex
  | none => .error (.panic "index out of bounds")

namespace ArbitrageStrategy

/-- `ArbitrageStrategy::new()`. -/
def new : ArbitrageStrategy where
  config :=
    { name := "arbitrage"
      enabled := true
      priority := 200
      minProfitWei := 10000000000000000 -- 0.01 ETH
      maxGasPriceGwei := 200
      riskTolerance := Binary64.ofDecimal 8 1
      parameters
        | "min_price_difference_percent" => some (.number (.float (Binary64.ofDecimal 5 1)))
        | "max_trade_size_eth" => some (.number (.float (Binary64.ofDecimal 10 0)))
        | "supported_tokens" =>
          some (.array [.string "WETH", .string "USDC", .string "USDT", .string "DAI", .string "WBTC"])
        | _ => none }

/-- The test of `is_arbitrage_candidate`, for the value that was read. -/
def candidate (targetType : TargetType) (valueWei : Option U128) : Bool :=
  match targetType with
  | .uniswapV2 | .uniswapV3 | .sushiSwap =>
    match valueWei with
    | some valueWei => ((Binary64.ofNat valueWei.toNat).div weiPerEth).ge (Binary64.ofNat 1)
    | none => false
  | _ => false

/-- `is_arbitrage_candidate`. -/
def isArbitrageCandidate (tx : ParsedTransaction) : Bool :=
  candidate tx.targetType (parseUint 128 tx.transaction.value)

/-- `find_arbitrage_opportunities`: "Assume we found a price difference with SushiSwap". -/
def findArbitrageOpportunities (tx : ParsedTransaction) : List ArbitrageOpportunity :=
  if tx.targetType = .uniswapV2 then
    [{ tokenIn := "WETH"
       tokenOut := "USDC"
       amountIn := 1000000000000000000 -- 1 ETH
       dexPath := ["UniswapV2", "SushiSwap"]
       expectedProfit := 50000000000000000 -- 0.05 ETH
       priceDifferencePercent := Binary64.ofDecimal 25 1 }]
  else []

/-- `opportunities.max_by_key(|opp| opp.expected_profit)`: of equals, the last. -/
def bestOpportunity : List ArbitrageOpportunity → Option ArbitrageOpportunity
  | [] => none
  | first :: others =>
    some (others.foldl (fun best opp => if best.expectedProfit ≤ opp.expectedProfit then opp else best) first)

/-- `calculate_arbitrage_profit`. -/
def calculateArbitrageProfit (opportunity : ArbitrageOpportunity) : Result U128 := do
  let gasCost ← estimateGasCost 400000 80
  pure (Uint.saturatingSub opportunity.expectedProfit gasCost)

/-- `get_dex_router`. -/
def getDexRouter : String → Result String
  | "UniswapV2" => pure "0x7a250d5630B4cF539739dF2C5dAcb4c659F2488D"
  | "UniswapV3" => pure "0xE592427A0AEce92De3Edee1F18E0157C05861564"
  | "SushiSwap" => pure "0xd9e1cE17f2641f24aE83637ab66a2cca9C378B9F"
  | dexName => .error (.err ("Unsupported DEX: " ++ dexName))

variable (strategy : ArbitrageStrategy)

/-- `calculate_competitive_gas_price`. -/
def calculateCompetitiveGasPrice : Result U128 := do
  let baseGasPrice := 60000000000 -- 60 gwei
  let maxGasPrice ← Uint.mul (strategy.config.maxGasPriceGwei.setWidth 128) 1000000000
  pure (Uint.min baseGasPrice maxGasPrice)

/-- A transaction of `create_arbitrage_transactions`, on the exchange that is the `i`th of the
path. -/
def swapOn (opportunity : ArbitrageOpportunity) (i : ℕ) (value : U128) (action : String) :
    Result PlannedTransaction := do
  let dex ← dexAt opportunity.dexPath i
  let toAddress ← getDexRouter dex
  let gasPrice ← strategy.calculateCompetitiveGasPrice
  pure
    { transactionType := .arbitrage, toAddress, value, gasLimit := 200000, gasPrice, data := swapCalldata
      description := action ++ " " ++ opportunity.tokenOut ++ " on " ++ dex }

/-- `create_arbitrage_transactions`: "Buy on cheaper DEX", "Sell on more expensive DEX". -/
def createArbitrageTransactions (opportunity : ArbitrageOpportunity) : Result (List PlannedTransaction) := do
  let buyTx ← strategy.swapOn opportunity 0 opportunity.amountIn "Buy"
  let sellTx ← strategy.swapOn opportunity 1 0 "Sell"
  pure [buyTx, sellTx]

/-- `evaluate_transaction`, from where the best opportunity is known. -/
def evaluateOpportunity (idTime expiryTime : UtcNow) (tx : ParsedTransaction) (best : ArbitrageOpportunity) :
    Result (Option ScoredOpportunity) := do
  let netProfit ← calculateArbitrageProfit best
  if netProfit < strategy.config.minProfitWei then pure none
  else
    let confidence := calculateConfidenceScore (best.priceDifferencePercent.div (Binary64.ofNat 100))
      (Binary64.ofDecimal 9 1) (Binary64.ofDecimal 2 1)
    let opportunityType := .arbitrage best.tokenIn best.tokenOut best.amountIn netProfit best.dexPath
    let opportunity ← opportunityFor strategy.config idTime expiryTime tx opportunityType netProfit 400000 80
      confidence 15
    pure (some opportunity)

/-- `evaluate_transaction`. -/
def evaluateTransaction (idTime expiryTime : UtcNow) (tx : ParsedTransaction) :
    Result (Option ScoredOpportunity) :=
  if strategy.config.enabled = false then pure none
  else if isArbitrageCandidate tx = false then pure none
  else
    match bestOpportunity (findArbitrageOpportunities tx) with
    | none => pure none
    | some best => strategy.evaluateOpportunity idTime expiryTime tx best

/-- `create_bundle_plan`. -/
def createBundlePlan (opportunity : ScoredOpportunity) : Result BundlePlan :=
  match opportunity.opportunityType with
  | .arbitrage tokenIn tokenOut amountIn _ dexPath => do
    let transactions ← strategy.createArbitrageTransactions
      { tokenIn, tokenOut, amountIn, dexPath, expectedProfit := opportunity.estimatedProfitWei
        priceDifferencePercent := Binary64.ofNat 0 }
    pure (planFor strategy.config "bundle" opportunity transactions 400000)
  | _ => .error (.err "Invalid opportunity type for arbitrage strategy")

end ArbitrageStrategy

end Botmev.Strategies
