import Botmev.Library.Binary64
import Botmev.Rust.Basic

/-!
# Transactions and opportunities

The data that passes from the mempool to the strategies and on to the bundle builder
(`mev-core/src/types.rs`, `mev-core/src/strategy_types.rs`). Numbers of a pending
transaction travel as strings; every consumer reads them anew.

Fields that only logs and metrics read (time stamps, processing times, scores, metadata)
are left out.
-/

namespace Botmev.Core

open Botmev.Rust Botmev.Library

/-- A pending transaction, its numbers as the strings the node sent. -/
structure Transaction where
  /-- The hash. -/
  hash : String
  /-- The sender. -/
  fromAddress : String
  /-- The recipient; none for a contract creation. -/
  toAddress : Option String
  /-- The value. -/
  value : String
  /-- The gas price. -/
  gasPrice : String
  /-- The gas limit. -/
  gasLimit : String
  /-- The nonce. -/
  nonce : U64
  /-- The calldata. -/
  input : String
  deriving DecidableEq, Repr

/-- A parameter of a decoded call. -/
structure DecodedParameter where
  /-- Its name. -/
  name : String
  /-- Its type. -/
  paramType : String
  /-- Its value. -/
  value : String
  deriving DecidableEq, Repr

/-- A decoded call. -/
structure DecodedInput where
  /-- The name of the function. -/
  functionName : String
  /-- Its selector. -/
  functionSignature : String
  /-- The parameters. -/
  parameters : List DecodedParameter
  deriving DecidableEq, Repr

/-- The protocol a transaction addresses. -/
inductive TargetType where
  | uniswapV2 | uniswapV3 | sushiSwap | curve | balancer | orderBook | unknown
  deriving DecidableEq, Repr

/-- A pending transaction after the mempool parser. -/
structure ParsedTransaction where
  /-- The transaction. -/
  transaction : Transaction
  /-- Its call, if it could be decoded. -/
  decodedInput : Option DecodedInput
  /-- The protocol it addresses. -/
  targetType : TargetType
  deriving DecidableEq, Repr

/-- What kind of opportunity it is. -/
inductive OpportunityType where
  | arbitrage (tokenIn tokenOut : String) (amountIn expectedProfit : U128) (dexPath : List String)
  | backrun (targetTxHash affectedToken : String) (priceImpact : Binary64) (followUpAction : String)
  | sandwich (victimTxHash : String) (tokenPair : String × String)
      (frontRunAmount backRunAmount expectedProfit : U128)
  | liquidation (protocol positionOwner collateralToken debtToken : String) (liquidationAmount : U128)
      (liquidationBonus : Binary64)
  deriving DecidableEq, Repr

/-- An opportunity that a strategy has found. -/
structure Opportunity where
  /-- The strategy. -/
  strategyName : String
  /-- The transaction it is about. -/
  targetTransaction : ParsedTransaction
  /-- What kind it is. -/
  opportunityType : OpportunityType
  /-- The profit it promises. -/
  estimatedProfitWei : U128
  deriving DecidableEq, Repr

end Botmev.Core
