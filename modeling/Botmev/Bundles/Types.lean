import Botmev.Library.Binary64
import Botmev.Rust.Basic

/-!
# Bundles

Templates, signed transactions and bundles (`bundle/types.rs`). The metadata of a bundle,
a map of texts for the log, is left out.
-/

namespace Botmev.Bundles

open Botmev.Rust Botmev.Library

/-- What a strategy wants to have signed. -/
structure TransactionTemplate where
  /-- The recipient; none for a contract creation. -/
  toAddress : Option Address
  /-- The value in wei. -/
  value : U256
  /-- The gas limit. -/
  gasLimit : U256
  /-- The calldata. -/
  data : Bytes
  deriving DecidableEq, Repr

/-- "A signed transaction ready for submission". -/
structure SignedTransaction where
  /-- Its hash. -/
  hash : H256
  /-- The signer. -/
  fromAddress : Address
  /-- The recipient; none for a contract creation. -/
  toAddress : Option Address
  /-- The value in wei. -/
  value : U256
  /-- The gas limit. -/
  gasLimit : U256
  /-- The most it pays for a unit of gas. -/
  maxFeePerGas : U256
  /-- The most of that which goes to the block's producer. -/
  maxPriorityFeePerGas : U256
  /-- The nonce. -/
  nonce : U256
  /-- The calldata. -/
  data : Bytes
  /-- The chain. -/
  chainId : U64
  /-- "Raw signed transaction bytes". -/
  rawTransaction : Bytes
  deriving DecidableEq, Repr

/-- "A complete MEV bundle with pre, target, and post transactions". -/
structure Bundle where
  /-- Its name. -/
  id : String
  /-- The bot's own transactions before the target. -/
  preTransactions : List SignedTransaction
  /-- The target. -/
  targetTransaction : SignedTransaction
  /-- The bot's own transactions after the target. -/
  postTransactions : List SignedTransaction
  /-- The block it is meant for. -/
  targetBlock : U64
  /-- The gas price it was built for. -/
  maxGasPrice : U256
  /-- The profit it promises. -/
  estimatedProfit : U256
  /-- When it was built, in seconds. -/
  createdAt : ℤ
  deriving DecidableEq, Repr

/-- How a bundle is to be built. -/
structure BundleParams where
  /-- The block it is meant for. -/
  targetBlock : U64
  /-- The gas price to build for. -/
  maxGasPrice : U256
  /-- The priority fee. -/
  maxPriorityFee : U256
  /-- How far to outbid the gas price. -/
  gasMultiplier : Binary64
  /-- "Minimum profit threshold". -/
  minProfitWei : U256
  deriving DecidableEq, Repr

/-- The parameters a builder has unless it is given others. -/
def BundleParams.default : BundleParams where
  targetBlock := 0
  maxGasPrice := 200000000000
  maxPriorityFee := 2000000000
  gasMultiplier := Binary64.ofDecimal 11 1
  minProfitWei := 1000000000000000

/-- Where a transaction's nonce comes from. -/
inductive NonceStrategy where
  /-- "Use the next available nonce from the network". -/
  | network
  /-- "Use a specific nonce value". -/
  | fixed (nonce : U64)
  /-- "Use the next nonce in sequence from local tracking". -/
  | sequential
  deriving DecidableEq, Repr

/-- What a strategy says of a finished bundle. -/
structure BundleValidation where
  /-- Whether the bundle may be used. -/
  isValid : Bool
  /-- Why not. -/
  errors : List String
  /-- What else was noticed. -/
  warnings : List String
  /-- The gas it may cost. -/
  estimatedGasCost : U256
  /-- The profit it promises. -/
  estimatedProfit : U256
  deriving DecidableEq, Repr

/-- "Get all transactions in execution order". -/
def Bundle.allTransactions (bundle : Bundle) : List SignedTransaction :=
  bundle.preTransactions ++ [bundle.targetTransaction] ++ bundle.postTransactions

/-- The bot's own transactions, before and after the target. -/
def Bundle.ownTransactions (bundle : Bundle) : List SignedTransaction :=
  bundle.preTransactions ++ bundle.postTransactions

/-- "Calculate total gas limit for the bundle". -/
def Bundle.totalGasLimit (bundle : Bundle) : Result U256 :=
  bundle.allTransactions.foldlM (fun acc tx => U256.add acc tx.gasLimit) 0

end Botmev.Bundles
