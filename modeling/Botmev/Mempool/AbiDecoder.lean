import Botmev.Core.Types
import Botmev.Rust.Str

/-!
# The mempool's call decoder

`AbiDecoder` (`mev-mempool/src/abi_decoder.rs`). A call is known by its selector, the
first ten bytes of the calldata string; the strings are sliced at fixed positions, and
two of the parameters of a swap are placeholders in the source.

`str::to_lowercase` is a parameter: it lowers all of Unicode.
-/

namespace Botmev.Mempool

open Botmev.Rust Botmev.Core

/-- The decoder: the calls it knows by their selectors, the last one added first. -/
structure AbiDecoder where
  /-- The name of the function and its protocol, for each selector. -/
  functionSignatures : List (String × String × TargetType)

namespace AbiDecoder

/-- `add_function_signature`. -/
def addFunctionSignature (decoder : AbiDecoder) (signature name : String)
    (targetType : TargetType) : AbiDecoder :=
  ⟨(signature, name, targetType) :: decoder.functionSignatures⟩

/-- `AbiDecoder::new()`. -/
def new : AbiDecoder :=
  AbiDecoder.mk []
    |>.addFunctionSignature "0xa9059cbb" "transfer" .uniswapV2
    |>.addFunctionSignature "0x7ff36ab5" "swapExactETHForTokens" .uniswapV2
    |>.addFunctionSignature "0x38ed1739" "swapExactTokensForTokens" .uniswapV2
    |>.addFunctionSignature "0x18cbafe5" "swapExactTokensForETH" .uniswapV2
    |>.addFunctionSignature "0x414bf389" "exactInputSingle" .uniswapV3
    |>.addFunctionSignature "0xc04b8d59" "exactInput" .uniswapV3
    -- "SushiSwap (similar to Uniswap V2)": takes the place of the entry above.
    |>.addFunctionSignature "0x38ed1739" "swapExactTokensForTokens" .sushiSwap
    |>.addFunctionSignature "0x3df02124" "exchange" .curve
    |>.addFunctionSignature "0xa6417ed6" "exchange_underlying" .curve
    |>.addFunctionSignature "0x52bbbe29" "swap" .balancer

/-- `decode_parameters`. -/
def decodeParameters (input functionSignature : String) : Result (List DecodedParameter) :=
  match functionSignature with
  | "0xa9059cbb" =>
    if 74 ≤ input.utf8ByteSize then do
      let recipient ← slice input 34 74
      let amountHex ← sliceFrom input 74
      pure [⟨"to", "address", "0x" ++ recipient⟩, ⟨"amount", "uint256", "0x" ++ amountHex⟩]
    else pure []
  | "0x38ed1739" =>
    pure [⟨"amountIn", "uint256", "decoded_amount_in"⟩,
      ⟨"amountOutMin", "uint256", "decoded_amount_out_min"⟩]
  | _ => do
    let data ← sliceFrom input 10
    pure [⟨"data", "bytes", data⟩]

/-- `decode_generic_function`. -/
def decodeGenericFunction (input : String) : Result DecodedInput := do
  let functionSignature ← slice input 0 10
  let data ← sliceFrom input 10
  pure { functionName := "unknown", functionSignature, parameters := [⟨"data", "bytes", data⟩] }

variable (decoder : AbiDecoder)

/-- `decode_input`. -/
def decodeInput (input : String) : Result (Option DecodedInput) :=
  if input.utf8ByteSize < 10 then pure none
  else do
    let functionSignature ← slice input 0 10
    match decoder.functionSignatures.lookup functionSignature with
    | some (functionName, _) =>
      let parameters ← decodeParameters input functionSignature
      pure (some { functionName, functionSignature, parameters })
    | none => catchErr (decodeGenericFunction input)

/-- `determine_target_type`: by the selector first, then by the router's address. -/
def determineTargetType (toLowercase : String → String) (toAddress : Option String)
    (functionSignature : String) :
    TargetType :=
  match decoder.functionSignatures.lookup functionSignature with
  | some (_, targetType) => targetType
  | none =>
    match toAddress.map toLowercase with
    | some "0x7a250d5630b4cf539739df2c5dacb4c659f2488d" => .uniswapV2
    | some "0xe592427a0aece92de3edee1f18e0157c05861564" => .uniswapV3
    | some "0xd9e1ce17f2641f24ae83637ab66a2cca9c378b9f" => .sushiSwap
    | _ => .unknown

end AbiDecoder

end Botmev.Mempool
