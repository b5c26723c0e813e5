import Botmev.Core.Types
import Botmev.Rust.Str

/-!
# Bundles for the simulator, and results

What the simulator is given and what it gives back (`mev-core/src/simulation.rs`). The
conversion of a pending transaction reads the numbers as decimal, and takes zero for what it
cannot read. Times that are measured, and logs, of which there never are any, are left out of
the results.
-/

namespace Botmev.Core

open Botmev.Rust Botmev.Library

/-- "Individual transaction in a bundle". -/
structure SimulationTransaction where
  /-- The sender. -/
  fromAddress : Address
  /-- The recipient; none for a contract creation. -/
  toAddress : Option Address
  /-- The value in wei. -/
  value : U256
  /-- The gas limit. -/
  gasLimit : U256
  /-- The gas price in wei. -/
  gasPrice : U256
  /-- The calldata. -/
  data : Bytes
  /-- The nonce. -/
  nonce : Option U256
  deriving DecidableEq, Repr

/-- `SimulationTransaction::from(&parsed_tx)`; `parseAddress` is `Address::from_str`. -/
def SimulationTransaction.ofParsed (parseAddress : String → Except String Address)
    (parsedTx : ParsedTransaction) :
    SimulationTransaction :=
  let tx := parsedTx.transaction
  { fromAddress := (parseAddress tx.fromAddress).toOption.getD 0
    toAddress := tx.toAddress.bind fun addr => (parseAddress addr).toOption
    value := (U256.fromDecStr tx.value).getD 0
    gasLimit := (U256.fromDecStr tx.gasLimit).getD 0
    gasPrice := (U256.fromDecStr tx.gasPrice).getD 0
    data := (bytesFromStr tx.input).getD []
    nonce := some (U256.ofUint tx.nonce) }

/-- "Transaction bundle for simulation". -/
structure SimulationBundle where
  /-- `id`. -/
  id : String
  /-- `transactions`. -/
  transactions : List SimulationTransaction
  /-- `block_number`. -/
  blockNumber : Option U64
  /-- Whether `state_overrides` is `Some`; what is in it is only logged. -/
  overridesState : Bool

/-- What a `TypedTransaction` is filled with for a call. -/
structure CallRequest where
  /-- `from`. -/
  fromAddress : Address
  /-- `to`. -/
  toAddress : Option Address
  /-- `gas`. -/
  gas : U256
  /-- `gas_price`. -/
  gasPrice : U256
  /-- `value`. -/
  value : U256
  /-- `data`. -/
  data : Bytes

/-- "Create call request using TypedTransaction". -/
def SimulationTransaction.callRequest (tx : SimulationTransaction) : CallRequest where
  fromAddress := tx.fromAddress
  toAddress := tx.toAddress
  gas := tx.gasLimit
  gasPrice := tx.gasPrice
  value := tx.value
  data := tx.data

/-- "Profit estimation". -/
structure ProfitEstimate where
  /-- `gross_profit_wei`. -/
  grossProfitWei : U256
  /-- `gas_cost_wei`. -/
  gasCostWei : U256
  /-- `net_profit_wei`. -/
  netProfitWei : U256
  /-- `profit_margin`. -/
  profitMargin : Binary64
  /-- "0.0 to 1.0". -/
  confidence : Binary64
  deriving DecidableEq, Repr

/-- `ProfitEstimate::default()`. -/
def ProfitEstimate.default : ProfitEstimate where
  grossProfitWei := 0
  gasCostWei := 0
  netProfitWei := 0
  profitMargin := Binary64.ofNat 0
  confidence := Binary64.ofNat 0

/-- "Individual transaction result". -/
structure TransactionResult where
  /-- `success`. -/
  success : Bool
  /-- `gas_used`. -/
  gasUsed : U256
  /-- `gas_estimate`. -/
  gasEstimate : U256
  /-- `return_data`. -/
  returnData : Option Bytes
  /-- `error`. -/
  error : Option String
  /-- `revert_reason`. -/
  revertReason : Option String
  /-- `effective_gas_price`. -/
  effectiveGasPrice : U256
  deriving DecidableEq

/-- "Simulation result". -/
structure SimulationResult where
  /-- `bundle_id`. -/
  bundleId : String
  /-- `success`. -/
  success : Bool
  /-- `gas_used`. -/
  gasUsed : U256
  /-- `gas_cost`. -/
  gasCost : U256
  /-- `profit_estimate`. -/
  profitEstimate : ProfitEstimate
  /-- `transaction_results`. -/
  transactionResults : List TransactionResult
  /-- `error_message`. -/
  errorMessage : Option String
  /-- `block_number`. -/
  blockNumber : U64
  /-- `effective_gas_price`. -/
  effectiveGasPrice : U256
  /-- `revert_reason`. -/
  revertReason : Option String
  deriving DecidableEq

/-- The profit before gas less the gas; nothing where the gas is more. -/
def netProfit (grossProfitWei totalGasCost : U256) : Result U256 :=
  if totalGasCost < grossProfitWei then U256.sub grossProfitWei totalGasCost else pure 0

/-- What part of the profit before gas is left. -/
def profitMargin (netProfitWei grossProfitWei : U256) : Result Binary64 :=
  if 0 < grossProfitWei then do
    let net ← U256.asU128 netProfitWei
    let gross ← U256.asU128 grossProfitWei
    pure ((Binary64.ofNat net.toNat).div (Binary64.ofNat gross.toNat))
  else pure (Binary64.ofNat 0)

end Botmev.Core
