import Botmev.Core.AbiDecoder
import Botmev.Core.SimulationService
import Botmev.Library.Reading

/-!
# The gRPC service

The same simulations for other programs (`mev-core/src/grpc_service.rs`): bundles come as texts
(`proto/simulation.proto`) and are converted, and the results are converted to texts. Maps come with
their entries in some order, which is that of a hash map.

The parsers of the crate `ethers` for addresses and hashes are parameters, and so is what it says of a
text that is no number or no bytes.

## What is proved

* `convertProtoToCoreBundle_ok_iff`: which bundles are accepted; a base fee that is no number does not
  matter.
-/

namespace Botmev.Core

open Botmev.Rust Botmev.Library

/-! ### What comes and goes -/

/-- `SimulationTransaction` of `simulation.proto`. -/
structure ProtoTransaction where
  /-- "Address as hex string". -/
  fromAddress : String
  /-- "Address as hex string". -/
  toAddress : Option String
  /-- "U256 as string". -/
  value : String
  /-- "U256 as string". -/
  gasLimit : String
  /-- "U256 as string". -/
  gasPrice : String
  /-- "Bytes as hex string". -/
  data : String
  /-- "U256 as string". -/
  nonce : Option String

/-- `StateOverride` of `simulation.proto`. -/
structure ProtoStateOverride where
  /-- "U256 as string". -/
  balance : Option String
  /-- "U256 as string". -/
  nonce : Option String
  /-- "Bytes as hex string". -/
  code : Option String
  /-- "H256 -> H256 mapping as hex strings". -/
  state : List (String × String)
  /-- "H256 -> H256 mapping as hex strings". -/
  stateDiff : List (String × String)

/-- `SimulationBundle` of `simulation.proto`. -/
structure ProtoBundle where
  /-- `id`. -/
  id : String
  /-- `transactions`. -/
  transactions : List ProtoTransaction
  /-- `block_number`. -/
  blockNumber : Option U64
  /-- `timestamp`. -/
  timestamp : Option U64
  /-- "U256 as string". -/
  baseFee : Option String
  /-- "Address as string key". -/
  stateOverrides : List (String × ProtoStateOverride)

/-- `ProfitEstimate` of `simulation.proto`. -/
structure ProtoProfit where
  /-- `gross_profit_wei`. -/
  grossProfitWei : String
  /-- `gas_cost_wei`. -/
  gasCostWei : String
  /-- `net_profit_wei`. -/
  netProfitWei : String
  /-- `profit_margin`. -/
  profitMargin : Binary64
  /-- `confidence`. -/
  confidence : Binary64

/-- `SimulationLog` of `simulation.proto`. -/
structure ProtoLog where
  /-- "Address as hex string". -/
  address : String
  /-- "H256 as hex strings". -/
  topics : List String
  /-- "Bytes as hex string". -/
  data : String

/-- `TransactionResult` of `simulation.proto`. -/
structure ProtoTransactionResult where
  /-- `success`. -/
  success : Bool
  /-- `gas_used`. -/
  gasUsed : String
  /-- `gas_estimate`. -/
  gasEstimate : String
  /-- "Bytes as hex string". -/
  returnData : Option String
  /-- `logs`. -/
  logs : List ProtoLog
  /-- `error`. -/
  error : Option String
  /-- `revert_reason`. -/
  revertReason : Option String
  /-- `effective_gas_price`. -/
  effectiveGasPrice : String

/-- `SimulationResult` of `simulation.proto`. -/
structure ProtoResult where
  /-- `bundle_id`. -/
  bundleId : String
  /-- `success`. -/
  success : Bool
  /-- `gas_used`. -/
  gasUsed : String
  /-- `gas_cost`. -/
  gasCost : String
  /-- `profit_estimate`. -/
  profitEstimate : Option ProtoProfit
  /-- `transaction_results`. -/
  transactionResults : List ProtoTransactionResult
  /-- `simulation_time_ms`. -/
  simulationTimeMs : Binary64
  /-- `error_message`. -/
  errorMessage : Option String
  /-- `block_number`. -/
  blockNumber : U64
  /-- `effective_gas_price`. -/
  effectiveGasPrice : String
  /-- `revert_reason`. -/
  revertReason : Option String

/-- `Status`, for the codes that are used. -/
inductive Status where
  /-- `Status::invalid_argument`. -/
  | invalidArgument (message : String)
  /-- `Status::internal`. -/
  | internal (message : String)
  deriving DecidableEq, Repr

/-! ### Reading requests -/

/-- What the conversions use of the crate `ethers`. -/
structure RequestParsers where
  /-- `Address::from_str`. -/
  address : String → Except String Address
  /-- `H256::from_str`. -/
  h256 : String → Except String H256
  /-- What `U256::from_dec_str` says of a text that it does not read. -/
  decimalError : String → String
  /-- What `Bytes::from_str` says of a text that it does not read. -/
  hexError : String → String

namespace RequestParsers

variable (P : RequestParsers)

/-- `U256::from_dec_str`. -/
def u256 (s : String) : Except String U256 :=
  match U256.fromDecStr s with
  | some n => .ok n
  | none => .error (P.decimalError s)

/-- `Bytes::from_str`. -/
def bytes (s : String) : Except String Bytes :=
  match bytesFromStr s with
  | some data => .ok data
  | none => .error (P.hexError s)

end RequestParsers

variable {α β : Type}

/-- A field that is parsed; "Invalid" is what it is if that fails. -/
def readField (what : String) (parse : String → Except String α) (s : String) : Except Status α :=
  match parse s with
  | .ok a => .ok a
  | .error e => .error (.invalidArgument ("Invalid " ++ what ++ ": " ++ e))

/-- A field that may be missing. -/
def readOptional (what : String) (parse : String → Except String α) : Option String → Except Status (Option α)
  | some s => some <$> readField what parse s
  | none => .ok none

/-- A map; without entries there is none. -/
def readMap [DecidableEq α] {ρ : Type} (readEntry : String × ρ → Except Status (α × β))
    (entries : List (String × ρ)) : Except Status (Option (Table α β)) :=
  if entries.isEmpty then .ok none else some <$> readEntries readEntry ∅ entries

variable (P : RequestParsers)

/-- A slot of the storage, and what is in it. -/
def readSlot (what : String) (entry : String × String) : Except Status (H256 × H256) := do
  let key ← readField (what ++ " key") P.h256 entry.1
  let value ← readField (what ++ " value") P.h256 entry.2
  pure (key, value)

/-- "Convert protobuf transaction to core transaction". -/
def convertProtoToCoreTransaction (protoTx : ProtoTransaction) : Except Status SimulationTransaction := do
  let fromAddress ← readField "from address" P.address protoTx.fromAddress
  let toAddress ← readOptional "to address" P.address protoTx.toAddress
  let value ← readField "value" P.u256 protoTx.value
  let gasLimit ← readField "gas_limit" P.u256 protoTx.gasLimit
  let gasPrice ← readField "gas_price" P.u256 protoTx.gasPrice
  let data ← readField "data" P.bytes protoTx.data
  let nonce ← readOptional "nonce" P.u256 protoTx.nonce
  pure { fromAddress, toAddress, value, gasLimit, gasPrice, data, nonce }

/-- "Convert protobuf state override to core state override". -/
def convertProtoToCoreStateOverride (protoOverride : ProtoStateOverride) : Except Status StateOverride := do
  let balance ← readOptional "balance" P.u256 protoOverride.balance
  let nonce ← readOptional "nonce" P.u256 protoOverride.nonce
  let code ← readOptional "code" P.bytes protoOverride.code
  let state ← readMap (readSlot P "state") protoOverride.state
  let stateDiff ← readMap (readSlot P "state_diff") protoOverride.stateDiff
  pure { balance, nonce, code, state, stateDiff }

/-- An address, and what is overridden there. -/
def readOverride (entry : String × ProtoStateOverride) : Except Status (Address × StateOverride) := do
  let address ← readField "address" P.address entry.1
  let overrideObj ← convertProtoToCoreStateOverride P entry.2
  pure (address, overrideObj)

/-- "Convert protobuf bundle to core bundle". -/
def convertProtoToCoreBundle (protoBundle : ProtoBundle) : Except Status BuiltBundle := do
  let transactions ← protoBundle.transactions.mapM (convertProtoToCoreTransaction P)
  let stateOverrides ← readMap (readOverride P) protoBundle.stateOverrides
  pure
    { id := protoBundle.id
      transactions
      blockNumber := protoBundle.blockNumber
      timestamp := protoBundle.timestamp
      baseFee := protoBundle.baseFee.bind U256.fromDecStr
      stateOverrides }

/-! ### Writing responses -/

/-- "Convert core profit estimate to protobuf profit estimate". -/
def convertCoreToProtoProfit (coreProfit : ProfitEstimate) : ProtoProfit where
  grossProfitWei := toString coreProfit.grossProfitWei.toNat
  gasCostWei := toString coreProfit.gasCostWei.toNat
  netProfitWei := toString coreProfit.netProfitWei.toNat
  profitMargin := coreProfit.profitMargin
  confidence := coreProfit.confidence

/-- "Convert core log to protobuf log". -/
def convertCoreToProtoLog (coreLog : SimulationLog) : ProtoLog where
  address := formatAddress coreLog.address
  topics := coreLog.topics.map fun topic => hexEncode0x (U256.toBigEndian topic)
  data := hexEncode0x coreLog.data

/-- "Convert core transaction result to protobuf transaction result". -/
def convertCoreToProtoTxResult (coreTxResult : LoggedTransactionResult) : ProtoTransactionResult where
  success := coreTxResult.success
  gasUsed := toString coreTxResult.gasUsed.toNat
  gasEstimate := toString coreTxResult.gasEstimate.toNat
  returnData := coreTxResult.returnData.map hexEncode0x
  logs := coreTxResult.logs.map convertCoreToProtoLog
  error := coreTxResult.error
  revertReason := coreTxResult.revertReason
  effectiveGasPrice := toString coreTxResult.effectiveGasPrice.toNat

/-- "Convert core result to protobuf result". -/
def convertCoreToProtoResult (coreResult : TimedSimulationResult) : ProtoResult where
  bundleId := coreResult.bundleId
  success := coreResult.success
  gasUsed := toString coreResult.gasUsed.toNat
  gasCost := toString coreResult.gasCost.toNat
  profitEstimate := some (convertCoreToProtoProfit coreResult.profitEstimate)
  transactionResults := coreResult.transactionResults.map convertCoreToProtoTxResult
  simulationTimeMs := coreResult.simulationTimeMs
  errorMessage := coreResult.errorMessage
  blockNumber := coreResult.blockNumber
  effectiveGasPrice := toString coreResult.effectiveGasPrice.toNat
  revertReason := coreResult.revertReason

/-! ### The service -/

namespace SimulationGrpcService

variable (service : SimulationGrpcService)

end SimulationGrpcService

/-! ### What is accepted -/

variable {P}

/-- The text is read. -/
def Reads (parse : String → Except String α) (s : String) : Prop := ∃ a, parse s = .ok a

/-- Every field of the transaction is read. -/
structure ProtoTransaction.Readable (P : RequestParsers) (protoTx : ProtoTransaction) : Prop where
  fromAddress : Reads P.address protoTx.fromAddress
  toAddress : ∀ s ∈ protoTx.toAddress, Reads P.address s
  value : Reads P.u256 protoTx.value
  gasLimit : Reads P.u256 protoTx.gasLimit
  gasPrice : Reads P.u256 protoTx.gasPrice
  data : Reads P.bytes protoTx.data
  nonce : ∀ s ∈ protoTx.nonce, Reads P.u256 s

/-- Every slot is read. -/
def ReadableSlots (P : RequestParsers) (slots : List (String × String)) : Prop :=
  ∀ e ∈ slots, Reads P.h256 e.1 ∧ Reads P.h256 e.2

/-- Every field of the override is read. -/
structure ProtoStateOverride.Readable (P : RequestParsers) (protoOverride : ProtoStateOverride) : Prop where
  balance : ∀ s ∈ protoOverride.balance, Reads P.u256 s
  nonce : ∀ s ∈ protoOverride.nonce, Reads P.u256 s
  code : ∀ s ∈ protoOverride.code, Reads P.bytes s
  state : ReadableSlots P protoOverride.state
  stateDiff : ReadableSlots P protoOverride.stateDiff

/-- Every field of the bundle is read but for the base fee. -/
structure ProtoBundle.Readable (P : RequestParsers) (protoBundle : ProtoBundle) : Prop where
  transactions : ∀ protoTx ∈ protoBundle.transactions, protoTx.Readable P
  stateOverrides : ∀ e ∈ protoBundle.stateOverrides, Reads P.address e.1 ∧ e.2.Readable P

theorem exists_readField_iff {what : String} {parse : String → Except String α} {s : String} :
    (∃ a, readField what parse s = .ok a) ↔ Reads parse s := by
  rw [Reads, readField]
  cases parse s <;> simp

theorem exists_readOptional_iff {what : String} {parse : String → Except String α} {field : Option String} :
    (∃ a, readOptional what parse field = .ok a) ↔ ∀ s ∈ field, Reads parse s := by
  rcases field with _ | s
  · simp [readOptional]
  · simp [readOptional, exists_map_ok_iff, exists_readField_iff]

theorem exists_readMap_iff [DecidableEq α] {ρ : Type} {readEntry : String × ρ → Except Status (α × β)}
    {entries : List (String × ρ)} :
    (∃ t, readMap readEntry entries = .ok t) ↔ ∀ e ∈ entries, ∃ entry, readEntry e = .ok entry := by
  rw [readMap]
  split
  · rename_i hempty
    simp [List.isEmpty_iff.mp hempty]
  · rw [exists_map_ok_iff, readEntries_ok_iff]

theorem exists_readSlot_iff {what : String} {e : String × String} :
    (∃ entry, readSlot P what e = .ok entry) ↔ Reads P.h256 e.1 ∧ Reads P.h256 e.2 := by
  simp [readSlot, exists_bind_ok_iff, exists_and_right, exists_readField_iff, pure, Except.pure]

theorem convertProtoToCoreTransaction_ok_iff {protoTx : ProtoTransaction} :
    (∃ tx, convertProtoToCoreTransaction P protoTx = .ok tx) ↔ protoTx.Readable P := by
  simp only [convertProtoToCoreTransaction, exists_bind_ok_iff, exists_and_right, exists_readField_iff,
    exists_readOptional_iff, pure, Except.pure, Except.ok.injEq, exists_eq', and_true]
  constructor
  · rintro ⟨hfrom, hto, hvalue, hgasLimit, hgasPrice, hdata, hnonce⟩
    exact ⟨hfrom, hto, hvalue, hgasLimit, hgasPrice, hdata, hnonce⟩
  · rintro ⟨hfrom, hto, hvalue, hgasLimit, hgasPrice, hdata, hnonce⟩
    exact ⟨hfrom, hto, hvalue, hgasLimit, hgasPrice, hdata, hnonce⟩

theorem convertProtoToCoreStateOverride_ok_iff {protoOverride : ProtoStateOverride} :
    (∃ overrideObj, convertProtoToCoreStateOverride P protoOverride = .ok overrideObj) ↔
      protoOverride.Readable P := by
  simp only [convertProtoToCoreStateOverride, exists_bind_ok_iff, exists_and_right, exists_readMap_iff,
    exists_readSlot_iff, exists_readOptional_iff, pure, Except.pure, Except.ok.injEq, exists_eq', and_true]
  constructor
  · rintro ⟨hbalance, hnonce, hcode, hstate, hstateDiff⟩
    exact ⟨hbalance, hnonce, hcode, hstate, hstateDiff⟩
  · rintro ⟨hbalance, hnonce, hcode, hstate, hstateDiff⟩
    exact ⟨hbalance, hnonce, hcode, hstate, hstateDiff⟩

/-- **Which bundles are accepted.** -/
theorem convertProtoToCoreBundle_ok_iff {protoBundle : ProtoBundle} :
    (∃ bundle, convertProtoToCoreBundle P protoBundle = .ok bundle) ↔ protoBundle.Readable P := by
  have hoverride (e : String × ProtoStateOverride) :
      (∃ entry, readOverride P e = .ok entry) ↔ Reads P.address e.1 ∧ e.2.Readable P := by
    simp [readOverride, exists_bind_ok_iff, exists_and_right, exists_readField_iff,
      convertProtoToCoreStateOverride_ok_iff, pure, Except.pure]
  simp only [convertProtoToCoreBundle, exists_bind_ok_iff, exists_and_right, exists_mapM_ok_iff, exists_readMap_iff,
    convertProtoToCoreTransaction_ok_iff, hoverride, pure, Except.pure, Except.ok.injEq, exists_eq', and_true]
  constructor
  · rintro ⟨htransactions, hoverrides⟩
    exact ⟨htransactions, hoverrides⟩
  · rintro ⟨htransactions, hoverrides⟩
    exact ⟨htransactions, hoverrides⟩

end Botmev.Core
