import Botmev.Core.Simulation

/-!
# The fork simulator

`ForkSimulator` (`mev-core/src/simulation.rs`) asks a node for an estimate of the gas of each
transaction of a bundle and for the outcome of a call, and adds up what they cost. The node is a
parameter: what it answers may be different each time, so its answers are numbered.
-/

namespace Botmev.Core

open Botmev.Rust Botmev.Library

/-- "Simulation configuration". -/
structure SimulationConfig where
  /-- `timeout_ms`. -/
  timeoutMs : U64
  /-- `enable_state_override`. -/
  enableStateOverride : Bool
  /-- `gas_limit_multiplier`. -/
  gasLimitMultiplier : Binary64

/-- `SimulationConfig::default()`. -/
def SimulationConfig.default : SimulationConfig where
  timeoutMs := 100
  enableStateOverride := true
  gasLimitMultiplier := Binary64.ofDecimal 12 1

/-- What the node answers in one simulation: to the `n`th estimate and to the `n`th call. -/
structure NodeAnswers where
  /-- `provider.get_block_number()`. -/
  blockNumber : Except String U64
  /-- `provider.get_block(Latest)`, with the base fee of the block. -/
  latestBlock : Except String (Option (Option U256))
  /-- `provider.estimate_gas(call_request, block)`. -/
  estimateGas : ℕ → CallRequest → U64 → Except String U256
  /-- `provider.call(call_request, block)`. -/
  call : ℕ → CallRequest → U64 → Except String Bytes

/-- The block to simulate a bundle on: its own, or the one the node names. -/
def NodeAnswers.blockFor (node : NodeAnswers) (bundle : SimulationBundle) : Except String U64 :=
  match bundle.blockNumber with
  | some block => .ok block
  | none => node.blockNumber

/-- "Fork simulation engine". -/
structure ForkSimulator where
  /-- `config`. -/
  config : SimulationConfig

/-- "Extract revert reason from error message". -/
def extractRevertReason (errorMsg : String) : Option String :=
  if contains errorMsg "execution reverted:" then (splitSecond errorMsg "execution reverted:").map trim
  else if contains errorMsg "revert" then some errorMsg
  else none

namespace ForkSimulator

variable (simulator : ForkSimulator) (node : NodeAnswers)

/-- What the gas of the `i`th transaction is estimated to be: "using provided gas limit" if the
estimation fails. -/
def gasEstimate (i : ℕ) (tx : SimulationTransaction) (blockNumber : U64) : U256 :=
  match node.estimateGas i tx.callRequest blockNumber with
  | .ok estimate => estimate
  | .error _ => tx.gasLimit

/-- The call of the `i`th transaction: where the state is overridden, "Fallback to regular call",
which is what the first one is, too. -/
def callResult (overridesState : Bool) (i : ℕ) (tx : SimulationTransaction) (blockNumber : U64) :
    Except String Bytes :=
  if simulator.config.enableStateOverride && overridesState then
    match node.call (2 * i) tx.callRequest blockNumber with
    | .ok returnData => .ok returnData
    | .error _ => node.call (2 * i + 1) tx.callRequest blockNumber
  else node.call (2 * i) tx.callRequest blockNumber

/-- "Apply gas limit multiplier for safety". -/
def adjustedGasLimit (gasEstimate : U256) : Result U256 := do
  let estimate ← U256.asU128 gasEstimate
  pure (U256.ofUint (((Binary64.ofNat estimate.toNat).mul simulator.config.gasLimitMultiplier).toUint 128))

/-- "Simulate a single transaction with state overrides". -/
def simulateTransactionWithOverrides (overridesState : Bool) (i : ℕ) (tx : SimulationTransaction)
    (blockNumber : U64) : Result TransactionResult := do
  let gasEstimate := gasEstimate node i tx blockNumber
  let adjustedGasLimit ← simulator.adjustedGasLimit gasEstimate
  match simulator.callResult node overridesState i tx blockNumber with
  | .ok returnData =>
    pure
      { success := true, gasUsed := gasEstimate, gasEstimate := adjustedGasLimit, returnData := some returnData
        error := none, revertReason := none, effectiveGasPrice := tx.gasPrice }
  | .error errorMsg =>
    pure
      { success := false, gasUsed := 0, gasEstimate, returnData := none, error := some errorMsg
        revertReason := extractRevertReason errorMsg, effectiveGasPrice := tx.gasPrice }

/-- What the loop over the transactions keeps. -/
structure Totals where
  /-- `total_gas_used`. -/
  totalGasUsed : U256
  /-- `total_gas_cost`. -/
  totalGasCost : U256
  /-- `transaction_results`. -/
  transactionResults : List TransactionResult

/-- The loop over the transactions, from the `i`th one on. -/
def simulateTransactions (overridesState : Bool) (blockNumber : U64) :
    ℕ → Totals → List SimulationTransaction → Result Totals
  | _, totals, [] => pure totals
  | i, totals, tx :: txs => do
    let txResult ← simulator.simulateTransactionWithOverrides node overridesState i tx blockNumber
    let totalGasUsed ← U256.add totals.totalGasUsed txResult.gasUsed
    let cost ← U256.mul txResult.effectiveGasPrice txResult.gasUsed
    let totalGasCost ← U256.add totals.totalGasCost cost
    simulateTransactions overridesState blockNumber (i + 1)
      { totalGasUsed, totalGasCost, transactionResults := totals.transactionResults ++ [txResult] } txs

/-- "Assume some profit based on successful transactions". -/
def grossProfit (successfulTxs : U64) : Result U256 :=
  -- "0.001 ETH per successful tx"
  if 0 < successfulTxs then U256.mul (U256.ofUint successfulTxs) 1000000000000000 else pure 0

/-- "Calculate profit estimate for a bundle". -/
def calculateProfitEstimate (transactionResults : List TransactionResult) (totalGasCost : U256) :
    Result ProfitEstimate := do
  let successfulTxs := BitVec.ofNat 64 (transactionResults.countP (·.success))
  let totalTxs := BitVec.ofNat 64 transactionResults.length
  let grossProfitWei ← grossProfit successfulTxs
  let netProfitWei ← netProfit grossProfitWei totalGasCost
  let profitMargin ← profitMargin netProfitWei grossProfitWei
  pure
    { grossProfitWei, gasCostWei := totalGasCost, netProfitWei, profitMargin
      confidence := (Binary64.ofNat successfulTxs.toNat).div (Binary64.ofNat totalTxs.toNat) }

/-- "Internal bundle simulation implementation". -/
def simulateBundleInternal (bundle : SimulationBundle) : Result SimulationResult := do
  let blockNumber ← anyhow (node.blockFor bundle)
  let latestBlock ← anyhow node.latestBlock
  -- "20 gwei fallback"
  let baseFee := (latestBlock.bind id).getD 20000000000
  let totals ← simulator.simulateTransactions node bundle.overridesState blockNumber 0 ⟨0, 0, []⟩
    bundle.transactions
  let profitEstimate ← calculateProfitEstimate totals.transactionResults totals.totalGasCost
  let bundleSuccess := totals.transactionResults.all (·.success)
  pure
    { bundleId := bundle.id
      success := bundleSuccess
      gasUsed := totals.totalGasUsed
      gasCost := totals.totalGasCost
      profitEstimate
      transactionResults := totals.transactionResults
      errorMessage := none
      blockNumber
      effectiveGasPrice := baseFee
      revertReason :=
        if bundleSuccess then none
        else (totals.transactionResults.find? (!·.success)).bind (·.revertReason) }

end ForkSimulator

end Botmev.Core
