import Botmev.Core.Types
import Botmev.Rust.Str

/-!
# The optimised decoder

`OptimizedAbiDecoder` (`mev-mempool/src/optimized_abi_decoder.rs`): calldata is bytes, a call is known
by the first four, and its arguments are decoded against the types of the registered function. All
functions are registered without inputs: "Simplified - would need proper inputs for full decoding".

The crate `ethabi` is a parameter. The pool of buffers, the statistics and the time that decoding
takes are left out.
-/

namespace Botmev.Mempool

open Botmev.Rust Botmev.Core

/-- `ethabi::Token`. -/
inductive Token where
  | address (address : Address)
  | fixedBytes (bytes : Bytes)
  | bytes (bytes : Bytes)
  | int (int : U256)
  | uint (uint : U256)
  | bool (b : Bool)
  | string (s : String)
  | fixedArray (tokens : List Token)
  | array (tokens : List Token)
  | tuple (tokens : List Token)

/-- "Efficient parameter value representation". -/
inductive ParameterValue where
  | address (s : String)
  | uint256 (s : String)
  | uint128 (s : String)
  | uint64 (n : U64)
  | uint32 (n : BitVec 32)
  | bool (b : Bool)
  | bytes (bytes : Bytes)
  | string (s : String)
  | array (values : List ParameterValue)
  | tuple (values : List ParameterValue)

/-- What is used of `ethabi`, over its types of parameters. -/
structure Ethabi (ParamType : Type) where
  /-- The values of such parameters in the data. -/
  decode : List ParamType → Bytes → Except String (List Token)
  /-- `format!("{:?}", kind)`. -/
  debugKind : ParamType → String
  /-- `format!("{:?}", token)`. -/
  debugToken : Token → String

/-- `ethabi::Param`. -/
structure Param (ParamType : Type) where
  /-- Its name. -/
  name : String
  /-- Its type. -/
  kind : ParamType

/-- `ethabi::Function`. -/
structure Function (ParamType : Type) where
  /-- Its name. -/
  name : String
  /-- Its parameters. -/
  inputs : List (Param ParamType)

/-- A registered function. -/
structure OptimizedFunctionSignature (ParamType : Type) where
  /-- The text of its signature. -/
  signature : String
  /-- The function. -/
  function : Function ParamType
  /-- The protocol. -/
  targetType : TargetType
  /-- Whether the strategies care. -/
  isMevRelevant : Bool

/-- "Optimized parameter representation". -/
structure OptimizedParameter where
  /-- The name, or the position. -/
  name : String
  /-- The text of the type. -/
  paramType : String
  /-- The value. -/
  value : ParameterValue

/-- A decoded call. -/
structure OptimizedDecodedCall where
  /-- The function. -/
  functionName : String
  /-- The text of its signature. -/
  functionSignature : String
  /-- The protocol. -/
  targetType : TargetType
  /-- The arguments. -/
  parameters : List OptimizedParameter
  /-- Whether the strategies care. -/
  isMevRelevant : Bool

/-- The decoder: the functions by their selectors, the last one added first. -/
structure OptimizedAbiDecoder (ParamType : Type) where
  /-- "Pre-computed function signatures for fast lookup". -/
  signatureCache : List (Bytes × OptimizedFunctionSignature ParamType)

variable {ParamType : Type}

mutual

/-- `convert_token_to_value`. It does not fail. -/
def convertTokenToValue (E : Ethabi ParamType) : Token → ParameterValue
  | .address address => .address (hexEncode0x ((U256.ofUint address).toBigEndian.drop 12))
  | .uint uint =>
    if uint.toNat < 2 ^ 64 then
      if uint.toNat < 2 ^ 32 then .uint32 (BitVec.ofNat 32 uint.toNat) else .uint64 (BitVec.ofNat 64 uint.toNat)
    else if uint.toNat < 2 ^ 128 then .uint128 (toString uint.toNat)
    else .uint256 (toString uint.toNat)
  | .bool b => .bool b
  | .bytes bytes => .bytes bytes
  | .string s => .string s
  | .array tokens => .array (convertTokens E tokens)
  | .tuple tokens => .tuple (convertTokens E tokens)
  | token => .string (E.debugToken token)

/-- The loops over the tokens of an array and of a tuple. -/
def convertTokens (E : Ethabi ParamType) : List Token → List ParameterValue
  | [] => []
  | token :: tokens => convertTokenToValue E token :: convertTokens E tokens

end

namespace OptimizedAbiDecoder

/-- A function that is registered, with no inputs. -/
def addFunctionSignature (decoder : OptimizedAbiDecoder ParamType) (name : String) (selector : Bytes)
    (targetType : TargetType) (isMevRelevant : Bool) : OptimizedAbiDecoder ParamType :=
  ⟨(selector, { signature := name ++ "(...)", function := ⟨name, []⟩, targetType, isMevRelevant }) ::
    decoder.signatureCache⟩

/-- `initialize_mev_signatures`. -/
def new : OptimizedAbiDecoder ParamType :=
  OptimizedAbiDecoder.mk []
    |>.addFunctionSignature "swapExactTokensForTokens" [0x38, 0xed, 0x17, 0x39] .uniswapV2 true
    |>.addFunctionSignature "swapTokensForExactTokens" [0x88, 0x03, 0xdb, 0xee] .uniswapV2 true
    |>.addFunctionSignature "swapExactETHForTokens" [0x7f, 0xf3, 0x6a, 0xb5] .uniswapV2 true
    |>.addFunctionSignature "exactInputSingle" [0x41, 0x4b, 0xf3, 0x89] .uniswapV3 true
    |>.addFunctionSignature "transfer" [0xa9, 0x05, 0x9c, 0xbb] .unknown false
    |>.addFunctionSignature "transferFrom" [0x23, 0xb8, 0x72, 0xdd] .unknown false
    |>.addFunctionSignature "approve" [0x09, 0x5e, 0xa7, 0xb3] .unknown false

/-- A decoded token, with what is known of its parameter. -/
def parameterOf (E : Ethabi ParamType) (function : Function ParamType) (i : ℕ) (token : Token) :
    OptimizedParameter where
  name := (function.inputs[i]?.map (·.name)).getD ("param_" ++ toString i)
  paramType := (function.inputs[i]?.map fun param => E.debugKind param.kind).getD "unknown"
  value := convertTokenToValue E token

/-- `decode_parameters`. -/
def decodeParameters (E : Ethabi ParamType) (function : Function ParamType) (data : Bytes) :
    Except String (List OptimizedParameter) := do
  let tokens ← E.decode (function.inputs.map (·.kind)) data
  pure (tokens.mapIdx (parameterOf E function))

/-- `decode_function_call`. Arguments that cannot be decoded are no error. -/
def decodeFunctionCall (E : Ethabi ParamType) (decoder : OptimizedAbiDecoder ParamType) (calldata : Bytes) :
    Result (Option OptimizedDecodedCall) :=
  if calldata.length < 4 then pure none
  else
    match decoder.signatureCache.lookup (calldata.take 4) with
    | none => pure none
    | some info =>
      match decodeParameters E info.function (calldata.drop 4) with
      | .ok parameters =>
        pure (some
          { functionName := info.function.name
            functionSignature := info.signature
            targetType := info.targetType
            parameters
            isMevRelevant := info.isMevRelevant })
      | .error _ => pure none

end OptimizedAbiDecoder

end Botmev.Mempool
