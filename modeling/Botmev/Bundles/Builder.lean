import Botmev.Bundles.Signer
import Botmev.Core.Types

/-!
# The bundle builder

`BundleBuilder` (`bundle/builder.rs`): a bundle is the bot's own transactions around the
target, a pending transaction of somebody else. The strategy says what the own
transactions are; the builder gives them nonces, has them signed, converts the target, and
lets the strategy look at the result.

The starting nonce is read once, from the signer's tracker; the builder counts on from
there by itself and signs with `NonceStrategy::Fixed`, and the signer writes the tracker
once for each transaction signed. The target is converted between the transactions before
and after it, and its `raw_transaction` stays empty: "Would be filled by actual
transaction".

What a call gets from outside, the fresh `uuid` and the time, are arguments. The metadata
is left out, and so is `build_bundle`, which is `build_bundle_with_params` at the
builder's own parameters.
-/

namespace Botmev.Bundles

open Botmev.Rust Botmev.Library Botmev.Core

/-- "Strategy-specific bundle building logic". -/
structure StrategyBundleBuilder where
  /-- The own transactions before and after the target. -/
  buildBundleTransactions : Opportunity → BundleParams →
    Result (List TransactionTemplate × List TransactionTemplate)
  /-- What the strategy says of the finished bundle. -/
  validateBundle : Bundle → Opportunity → Result BundleValidation

/-- The builder, with its signer. -/
structure BundleBuilder (Wallet Signature : Type) where
  /-- The signer's cryptography. -/
  ethers : Ethers Wallet Signature
  /-- The chain the signer signs for. -/
  chainId : U64
  /-- The builders that are registered, by strategy name. -/
  strategyBuilders : String → Option StrategyBundleBuilder

/-- The arguments of `build_bundle_with_params`, with what the call gets from outside. -/
structure BuildCall where
  /-- What to build a bundle for. -/
  opportunity : Opportunity
  /-- How. -/
  params : BundleParams
  /-- The fresh name. -/
  uuid : String
  /-- The time. -/
  now : ℤ

variable {Wallet Signature : Type}

section Parsers

variable (E : Ethers Wallet Signature)

/-- `s.parse::<U256>()`. -/
def Ethers.parseU256 (s : String) : Except String U256 :=
  match U256.fromStr s with
  | some n => .ok n
  | none => .error (E.parseError s)

/-- `hex::decode(s.trim_start_matches("0x"))`. -/
def Ethers.decodeHex (s : String) : Except String Bytes :=
  match hexDecode0x s with
  | some bytes => .ok bytes
  | none => .error (E.parseError s)

/-- `to.as_ref().map(|s| s.parse()).transpose()`. -/
def Ethers.parseTo : Option String → Except String (Option Address)
  | none => .ok none
  | some s => (E.parseAddress s).map some

/-- `create_target_template`. The template is not used: all it does is to fail where the
target cannot be read. -/
def createTargetTemplate (opportunity : Opportunity) : Result TransactionTemplate := do
  let tx := opportunity.targetTransaction.transaction
  let toAddress ← orErr "Invalid to address" (E.parseTo tx.toAddress)
  let value ← orErr "Invalid value" (E.parseU256 tx.value)
  let gasLimit ← orErr "Invalid gas limit" (E.parseU256 tx.gasLimit)
  let data ← orErr "Invalid input data" (E.decodeHex tx.input)
  pure { toAddress, value, gasLimit, data }

/-- `create_target_signed_transaction`. -/
def createTargetSignedTransaction (opportunity : Opportunity) : Result SignedTransaction := do
  let tx := opportunity.targetTransaction.transaction
  let hash ← orErr "Invalid hash" (E.parseH256 tx.hash)
  let fromAddress ← orErr "Invalid from address" (E.parseAddress tx.fromAddress)
  let toAddress ← orErr "Invalid to address" (E.parseTo tx.toAddress)
  let value ← orErr "Invalid value" (E.parseU256 tx.value)
  let gasLimit ← orErr "Invalid gas limit" (E.parseU256 tx.gasLimit)
  let maxFeePerGas ← orErr "Invalid gas price" (E.parseU256 tx.gasPrice)
  let data ← orErr "Invalid input data" (E.decodeHex tx.input)
  pure
    { hash, fromAddress, toAddress, value, gasLimit, maxFeePerGas
      maxPriorityFeePerGas := 2000000000
      nonce := U256.ofUint tx.nonce
      data
      chainId := 998
      rawTransaction := [] }

end Parsers

/-- The fees of the own transactions. -/
structure Fees where
  /-- The most they pay for a unit of gas. -/
  maxFeePerGas : U256
  /-- The most of that which goes to the block's producer. -/
  maxPriorityFeePerGas : U256

/-- `calculate_gas_prices`. -/
def calculateGasPrices (params : BundleParams) : Result Fees := do
  let baseFee := params.maxGasPrice
  let priorityFee := params.maxPriorityFee
  let baseFee128 ← U256.asU128 baseFee
  let maxFeePerGas := U256.ofUint (((Binary64.ofNat baseFee128.toNat).mul params.gasMultiplier).toUint 128)
  -- "Ensure max fee is at least base fee + priority fee"
  let least ← U256.add baseFee priorityFee
  pure ⟨if maxFeePerGas.toNat ≤ least.toNat then least else maxFeePerGas, priorityFee⟩

/-- `get_starting_nonce`: the nonce is read, and not reserved. -/
def getStartingNonce (E : Ethers Wallet Signature) : SignerM Wallet U256 := do
  let wallet ← getDefaultWallet
  let nonce ← getTrackedNonce (E.address wallet)
  pure (nonce.getD 0)

/-- The signing loop: the templates in order, with the nonces from `currentNonce` on. The
nonce after the last comes with the signed transactions. -/
def signTemplates (E : Ethers Wallet Signature) (chainId : U64) (fees : Fees) :
    List TransactionTemplate → U256 → SignerM Wallet (List SignedTransaction × U256)
  | [], currentNonce => pure ([], currentNonce)
  | template :: templates, currentNonce => do
    let nonce ← U256.asU64 currentNonce
    let signedTx ← signTransaction E chainId template (.fixed nonce) fees.maxFeePerGas fees.maxPriorityFeePerGas
    let currentNonce ← U256.add currentNonce 1
    let (signedTxs, currentNonce) ← signTemplates E chainId fees templates currentNonce
    pure (signedTx :: signedTxs, currentNonce)

/-- `format!("{:?}", s)` of a string, without the escapes of unprintable characters. -/
def debugStr (s : String) : String :=
  "\"" ++ String.join (s.toList.map escape) ++ "\""
where
  escape (c : Char) : String :=
    if c = '"' then "\\\"" else if c = '\\' then "\\\\" else if c = '\n' then "\\n" else if c = '\r' then "\\r"
    else if c = '\t' then "\\t" else String.singleton c

/-- `format!("{:?}", strings)`. -/
def debugStrs (strings : List String) : String := "[" ++ ", ".intercalate (strings.map debugStr) ++ "]"

/-- What is settled before the first transaction is signed. -/
structure BuildPlan where
  /-- The strategy's builder. -/
  strategyBuilder : StrategyBundleBuilder
  /-- What to sign before the target. -/
  preTemplates : List TransactionTemplate
  /-- What to sign after the target. -/
  postTemplates : List TransactionTemplate
  /-- The fees to sign with. -/
  fees : Fees

variable (B : BundleBuilder Wallet Signature)

/-- `build_bundle_with_params` up to the starting nonce. -/
def BundleBuilder.plan (opportunity : Opportunity) (params : BundleParams) : Result BuildPlan := do
  let strategyBuilder ← okOr ("No builder registered for strategy: " ++ opportunity.strategyName)
    (B.strategyBuilders opportunity.strategyName)
  let (preTemplates, postTemplates) ← strategyBuilder.buildBundleTransactions opportunity params
  let _ ← createTargetTemplate B.ethers opportunity
  let fees ← calculateGasPrices params
  pure { strategyBuilder, preTemplates, postTemplates, fees }

/-- The bundle made of the signed transactions. -/
def BuildCall.bundle (call : BuildCall) (preTransactions : List SignedTransaction)
    (targetTransaction : SignedTransaction) (postTransactions : List SignedTransaction) : Bundle where
  id := "bundle_" ++ call.uuid
  preTransactions := preTransactions
  targetTransaction := targetTransaction
  postTransactions := postTransactions
  targetBlock := call.params.targetBlock
  maxGasPrice := call.params.maxGasPrice
  estimatedProfit := U256.ofUint call.opportunity.estimatedProfitWei
  createdAt := call.now

/-- The end of `build_bundle_with_params`: the finished bundle is returned if the strategy
says it is valid. -/
def validated (strategyBuilder : StrategyBundleBuilder) (bundle : Bundle) (opportunity : Opportunity) :
    Result Bundle := do
  let validation ← strategyBuilder.validateBundle bundle opportunity
  if validation.isValid then pure bundle
  else throw (.err ("Bundle validation failed: " ++ debugStrs validation.errors))

/-- `build_bundle_with_params`. -/
def BundleBuilder.buildBundleWithParams (call : BuildCall) : SignerM Wallet Bundle := do
  let plan ← B.plan call.opportunity call.params
  let startingNonce ← getStartingNonce B.ethers
  let (preTransactions, currentNonce) ← signTemplates B.ethers B.chainId plan.fees plan.preTemplates startingNonce
  let targetTransaction ← createTargetSignedTransaction B.ethers call.opportunity
  let (postTransactions, _) ← signTemplates B.ethers B.chainId plan.fees plan.postTemplates currentNonce
  validated plan.strategyBuilder (call.bundle preTransactions targetTransaction postTransactions) call.opportunity

end Botmev.Bundles
