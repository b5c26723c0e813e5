import Botmev.Bundles.Builder

/-!
# The strategies' bundle builders

The three implementations of `StrategyBundleBuilder` (`bundle/builder.rs`): an arbitrage
and a backrun put one transaction after the target, a sandwich one before and one after.
The contracts they call and the calldata are placeholders in the source.
-/

namespace Botmev.Bundles

open Botmev.Rust Botmev.Core

/-- A call of one of the bot's contracts, "Address::zero()" as yet. -/
def contractCall (gasLimit : U256) (data : Bytes) : TransactionTemplate where
  toAddress := some 0
  value := 0
  gasLimit := gasLimit
  data := data

/-- The end of every `validate_bundle`: the gas cost, and valid if there are no errors. -/
def bundleValidation (bundle : Bundle) (errors warnings : List String) : Result BundleValidation := do
  let totalGasLimit ← bundle.totalGasLimit
  let estimatedGasCost ← U256.mul totalGasLimit bundle.maxGasPrice
  pure
    { isValid := errors.isEmpty
      errors
      warnings
      estimatedGasCost
      estimatedProfit := bundle.estimatedProfit }

/-- `ArbitrageBundleBuilder`. -/
def arbitrageBundleBuilder : StrategyBundleBuilder where
  buildBundleTransactions opportunity _ :=
    match opportunity.opportunityType with
    | .arbitrage .. => pure ([], [contractCall 300000 [0xde, 0xad, 0xbe, 0xef]])
    | _ => throw (.err "Invalid opportunity type for arbitrage builder")
  validateBundle bundle _ :=
    bundleValidation bundle
      (if bundle.postTransactions.isEmpty then ["Arbitrage bundle must have post-transactions"] else [])
      -- 0.001 ETH
      (if bundle.estimatedProfit.toNat < 1000000000000000 then ["Low profit margin for arbitrage"] else [])

/-- `BackrunBundleBuilder`. -/
def backrunBundleBuilder : StrategyBundleBuilder where
  buildBundleTransactions opportunity _ :=
    match opportunity.opportunityType with
    | .backrun .. => pure ([], [contractCall 250000 [0xca, 0xfe, 0xba, 0xbe]])
    | _ => throw (.err "Invalid opportunity type for backrun builder")
  validateBundle bundle _ :=
    bundleValidation bundle
      (if bundle.postTransactions.isEmpty then ["Backrun bundle must have post-transactions"] else [])
      (if bundle.preTransactions.isEmpty then [] else ["Backrun typically doesn't need pre-transactions"])

/-- `SandwichBundleBuilder`. -/
def sandwichBundleBuilder : StrategyBundleBuilder where
  buildBundleTransactions opportunity _ :=
    match opportunity.opportunityType with
    | .sandwich .. =>
      pure ([contractCall 200000 [0xf0, 0x0d, 0xfa, 0xce]], [contractCall 200000 [0xde, 0xad, 0xc0, 0xde]])
    | _ => throw (.err "Invalid opportunity type for sandwich builder")
  validateBundle bundle _ :=
    bundleValidation bundle
      ((if bundle.preTransactions.isEmpty then ["Sandwich bundle must have pre-transactions (front-run)"] else []) ++
        if bundle.postTransactions.isEmpty then ["Sandwich bundle must have post-transactions (back-run)"] else [])
      (if bundle.preTransactions.length = bundle.postTransactions.length then []
        else ["Unbalanced sandwich transactions"])

/-- The strategies that come with the builder, under their names. -/
def registeredBuilders : String → Option StrategyBundleBuilder
  | "arbitrage" => some arbitrageBundleBuilder
  | "backrun" => some backrunBundleBuilder
  | "sandwich" => some sandwichBundleBuilder
  | _ => none

/-! ### For the examples -/

/-- A builder with its strategies. -/
def BundleBuilder.sample : BundleBuilder Unit Unit where
  ethers := .sample
  chainId := 998
  strategyBuilders := registeredBuilders

/-- A swap that waits to be mined. -/
def sampleTarget : ParsedTransaction where
  transaction :=
    { hash := "0x1234567890abcdef1234567890abcdef1234567890abcdef1234567890abcdef"
      fromAddress := "0x742d35Cc6634C0532925a3b8D4C9db96C4b5Da5e"
      toAddress := some "0x742d35Cc6634C0532925a3b8D4C9db96C4b5Da5e"
      value := "1000000000000000000"
      gasPrice := "50000000000"
      gasLimit := "200000"
      nonce := 1
      input := "0x38ed1739" }
  decodedInput := none
  targetType := .uniswapV2

/-- A sandwich around a target. -/
def BuildCall.sandwich (target : ParsedTransaction) : BuildCall where
  opportunity :=
    { strategyName := "sandwich"
      targetTransaction := target
      opportunityType :=
        .sandwich target.transaction.hash ("WETH", "USDC") 500000000000000000 500000000000000000
          25000000000000000
      estimatedProfitWei := 25000000000000000 }
  params := .default
  uuid := "00000000-0000-4000-8000-000000000000"
  now := 1700000000

/-- To build it alone, with nothing tracked yet. -/
def sandwichBuild (target : ParsedTransaction) : Result Bundle × SignerState Unit :=
  (BundleBuilder.sample.buildBundleWithParams (.sandwich target)).run signerHandler ⟨fun _ => none, some ()⟩

end Botmev.Bundles
