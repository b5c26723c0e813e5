import Botmev.Core.Types
import Botmev.Rust.Str
import Mathlib.Data.List.Infix

/-!
# The mempool's filters

The conditions of `FilterEngine` (`mev-mempool/src/filters.rs`). `str::to_lowercase`,
which lowers all of Unicode, and the hour of the day are parameters. Machine integers
are those of a build with overflow checks.
-/

namespace Botmev.Mempool

open Botmev.Rust Botmev.Core

/-- "Filter condition types". -/
inductive FilterCondition where
  /-- "Filter by transaction value". -/
  | valueRange (minWei maxWei : Option String)
  /-- "Filter by gas price". -/
  | gasPriceRange (minGwei maxGwei : Option U64)
  /-- "Filter by target contract type". -/
  | targetType (types : List String)
  /-- "Filter by function signature". -/
  | functionSignature (signatures : List String)
  /-- "Filter by contract address". -/
  | contractAddress (addresses : List String) (whitelist : Bool)
  /-- "Filter by sender address". -/
  | senderAddress (addresses : List String) (whitelist : Bool)
  /-- "Filter by transaction size (calldata)". -/
  | dataSize (minBytes maxBytes : Option ℕ)
  /-- "Filter by time of day (UTC hours)". -/
  | timeOfDay (startHour endHour : ℕ)
  /-- "Custom regex pattern on calldata", of which the source makes a substring. -/
  | dataPattern (pattern : String) (caseSensitive : Bool)
  deriving DecidableEq, Repr

/-- `format!("{:?}", target_type)`. -/
def debugTargetType : TargetType → String
  | .uniswapV2 => "UniswapV2"
  | .uniswapV3 => "UniswapV3"
  | .sushiSwap => "SushiSwap"
  | .curve => "Curve"
  | .balancer => "Balancer"
  | .orderBook => "OrderBook"
  | .unknown => "Unknown"

/-- Whether a number is neither below the one bound nor above the other. -/
def inRange (min max : Option ℕ) (n : ℕ) : Bool := min.all (· ≤ n) && max.all (n ≤ ·)

/-- The test of `ValueRange`, for the value that was read. A bound that cannot be read
does not bound. -/
def valueInRange (minWei maxWei : Option String) (value : U128) : Bool :=
  inRange (minWei.map fun min => ((parseUint 128 min).getD 0).toNat)
    (maxWei.map fun max => ((parseUint 128 max).getD (BitVec.allOnes 128)).toNat) value.toNat

/-- The test of `GasPriceRange`, for the gas price that was read, in gwei. -/
def gasPriceInRange (minGwei maxGwei : Option U64) (gasPrice : U64) : Bool :=
  inRange (minGwei.map (·.toNat)) (maxGwei.map (·.toNat)) (gasPrice.toNat / 1000000000)

/-- Whether the address is one of those of a list of addresses to keep, or none of those of
a list to drop, in upper or lower case. -/
def addressPasses (toLowercase : String → String) (addresses : List String) (whitelist : Bool)
    (address : String) :
    Bool :=
  let found := addresses.any fun addr => toLowercase addr == toLowercase address
  if whitelist then found else !found

/-- `evaluate_condition`. -/
def evaluateCondition (toLowercase : String → String) (currentHour : ℕ) (condition : FilterCondition)
    (transaction : ParsedTransaction) : Result Bool :=
  match condition with
  | .valueRange minWei maxWei =>
    pure (valueInRange minWei maxWei ((parseUint 128 transaction.transaction.value).getD 0))
  | .gasPriceRange minGwei maxGwei =>
    pure (gasPriceInRange minGwei maxGwei ((parseUint 64 transaction.transaction.gasPrice).getD 0))
  | .targetType types => pure (types.contains (debugTargetType transaction.targetType))
  | .functionSignature signatures =>
    match transaction.decodedInput with
    | some decoded => pure (signatures.contains decoded.functionSignature)
    | none => pure false
  | .contractAddress addresses whitelist =>
    match transaction.transaction.toAddress with
    | some toAddress => pure (addressPasses toLowercase addresses whitelist toAddress)
    | none => pure !whitelist
  | .senderAddress addresses whitelist =>
    pure (addressPasses toLowercase addresses whitelist transaction.transaction.fromAddress)
  | .dataSize minBytes maxBytes =>
    -- "Remove 0x prefix and convert hex to bytes"
    let half := transaction.transaction.input.utf8ByteSize / 2
    if half = 0 then throw (.panic "attempt to subtract with overflow")
    else pure (inRange minBytes maxBytes (half - 1))
  | .timeOfDay startHour endHour =>
    if startHour ≤ endHour then pure (decide (startHour ≤ currentHour ∧ currentHour ≤ endHour))
    else pure (decide (startHour ≤ currentHour ∨ currentHour ≤ endHour))
  | .dataPattern pattern caseSensitive =>
    let lower := fun s => if caseSensitive then s else toLowercase s
    pure (decide ((lower pattern).toList <:+: (lower transaction.transaction.input).toList))

end Botmev.Mempool
