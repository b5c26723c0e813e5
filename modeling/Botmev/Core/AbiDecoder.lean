import Botmev.Library.Table
import Botmev.Mempool.Calldata

/-!
# The decoder of the core

`OptimizedAbiDecoder` (`mev-core/src/abi_decoder.rs`): a call is known by its first four bytes, looked
up as text. Of a `transfer` and of a swap it takes the first two words of the arguments, if both are
there; the swap's others it does not look at, nor at what comes after. Of any other call that it knows
it takes one word.

The types of the arguments, which are registered and not used to decode, the pool of buffers, the
statistics and the time that decoding takes are left out.

## What is proved

* `fromBigEndian_toBigEndian`, `fromSlice_word`: a word, and its last twenty bytes.
* `decodeInput_total`: every input is decoded, or not known.
* `decodeInput_transfer`, `decodeInput_swap`, `decodeInput_short`: what comes of the calls.
* `decodes_exactly`: these together, and that the texts are those of the encoded values.
-/

namespace Botmev.Core

open Botmev.Rust Botmev.Library
open Botmev.Mempool (Calldata)

/-! ### Slices -/

/-- `&bytes[start..stop]`. -/
def sliceBytes (bytes : Bytes) (start stop : ℕ) : Result Bytes :=
  if start ≤ stop ∧ stop ≤ bytes.length then .ok ((bytes.take stop).drop start)
  else .error (.panic "range out of range for slice")

/-- `U256::from_big_endian(slice)`. -/
def fromBigEndian (bytes : Bytes) : Result U256 :=
  if bytes.length ≤ 32 then .ok (BitVec.ofNat 256 (Numeral.value 256 (bytes.map UInt8.toNat)))
  else .error (.panic "assertion failed: 4 * 8 >= slice.len()")

/-- `Address::from_slice(src)`. -/
def fromSlice (bytes : Bytes) : Result Address :=
  if bytes.length = 20 then .ok (BitVec.ofNat 160 (Numeral.value 256 (bytes.map UInt8.toNat)))
  else .error (.panic "assertion failed: `(left == right)`")

/-- `format!("{:?}", address)`. -/
def formatAddress (address : Address) : String := hexEncode0x ((U256.ofUint address).toBigEndian.drop 12)

/-! ### The decoder -/

/-- `UNISWAP_V2_SIGNATURES`. -/
def uniswapV2Signatures : List (String × String) :=
  [("swapExactETHForTokens", "0x7ff36ab5"), ("swapETHForExactTokens", "0xfb3bdb41"),
    ("swapExactTokensForETH", "0x18cbafe5"), ("swapTokensForExactETH", "0x4a25d94a"),
    ("swapExactTokensForTokens", "0x38ed1739"), ("swapTokensForExactTokens", "0x8803dbee"),
    ("addLiquidity", "0xe8e33700"), ("addLiquidityETH", "0xf305d719"), ("removeLiquidity", "0xbaa2abde"),
    ("removeLiquidityETH", "0x02751cec")]

/-- `UNISWAP_V3_SIGNATURES`. -/
def uniswapV3Signatures : List (String × String) :=
  [("exactInputSingle", "0x414bf389"), ("exactInput", "0xc04b8d59"), ("exactOutputSingle", "0xdb3e2198"),
    ("exactOutput", "0xf28c0498"), ("multicall", "0xac9650d8"), ("mint", "0x88316456"),
    ("increaseLiquidity", "0x219f5d17"), ("decreaseLiquidity", "0x0c49ccbe"), ("collect", "0x4f1eb3d8"),
    ("burn", "0xa34123a7")]

/-- `ERC20_SIGNATURES`. -/
def erc20Signatures : List (String × String) :=
  [("transfer", "0xa9059cbb"), ("transferFrom", "0x23b872dd"), ("approve", "0x095ea7b3"),
    ("balanceOf", "0x70a08231"), ("allowance", "0xdd62ed3e"), ("totalSupply", "0x18160ddd")]

/-- `CURVE_SIGNATURES`. -/
def curveSignatures : List (String × String) :=
  [("exchange", "0x3df02124"), ("exchange_underlying", "0xa6417ed6"), ("add_liquidity", "0x0b4c7e4d"),
    ("remove_liquidity", "0x5b36389c"), ("remove_liquidity_one_coin", "0x1a4d01d2"), ("get_dy", "0x5e0d443f"),
    ("get_dy_underlying", "0x07211ef7")]

/-- "Function information for fast decoding". -/
structure FunctionInfo where
  /-- Its name. -/
  name : String
  /-- Its selector. -/
  signature : String
  deriving DecidableEq, Repr

/-- "Optimized ABI decoder with pre-compiled signatures". -/
structure OptimizedAbiDecoder where
  /-- "Pre-compiled function signatures for fast lookup". -/
  signatureMap : Table String FunctionInfo

/-- The parameters of a `transfer`. -/
def transferParameters (paramData : Bytes) : Result (List DecodedParameter) :=
  if 64 ≤ paramData.length then do
    let toSlice ← sliceBytes paramData 12 32
    let toAddress ← fromSlice toSlice
    let amountSlice ← sliceBytes paramData 32 64
    let amount ← fromBigEndian amountSlice
    pure [⟨"to", "address", formatAddress toAddress⟩, ⟨"amount", "uint256", toString amount.toNat⟩]
  else pure []

/-- The parameters of a swap. -/
def swapParameters (paramData : Bytes) : Result (List DecodedParameter) :=
  if 64 ≤ paramData.length then do
    let inSlice ← sliceBytes paramData 0 32
    let amountIn ← fromBigEndian inSlice
    let outSlice ← sliceBytes paramData 32 64
    let amountOutMin ← fromBigEndian outSlice
    pure
      [⟨"amountIn", "uint256", toString amountIn.toNat⟩, ⟨"amountOutMin", "uint256", toString amountOutMin.toNat⟩]
  else pure []

/-- "Generic parameter extraction for unknown functions". -/
def genericParameters (paramData : Bytes) : Result (List DecodedParameter) :=
  if 32 ≤ paramData.length then do
    let firstSlice ← sliceBytes paramData 0 32
    let firstParam ← fromBigEndian firstSlice
    pure [⟨"param0", "uint256", toString firstParam.toNat⟩]
  else pure []

/-- "Simple decode function without borrowing conflicts". -/
def decodeFunctionSimple (functionInfo : FunctionInfo) (paramData : Bytes) : Result DecodedInput := do
  let parameters ←
    match functionInfo.name with
    | "transfer" => transferParameters paramData
    | "swap" | "swapExactTokensForTokens" => swapParameters paramData
    | _ => genericParameters paramData
  pure { functionName := functionInfo.name, functionSignature := functionInfo.signature, parameters }

namespace OptimizedAbiDecoder

/-- `OptimizedAbiDecoder::new()`: one table after the other. -/
def new : OptimizedAbiDecoder where
  signatureMap :=
    (uniswapV2Signatures ++ uniswapV3Signatures ++ erc20Signatures ++ curveSignatures).foldl
      (fun map (name, sig) => map.insert sig ⟨name, sig⟩) ∅

/-- `decode_input`. -/
def decodeInput (decoder : OptimizedAbiDecoder) (inputData : Bytes) : Result (Option DecodedInput) :=
  if inputData.length < 4 then pure none
  else do
    let selector ← sliceBytes inputData 0 4
    match decoder.signatureMap.lookup (hexEncode0x selector) with
    | none => pure none
    | some functionInfo => do
      let paramData ← sliceBytes inputData 4 inputData.length
      let decoded ← decodeFunctionSimple functionInfo paramData
      pure (some decoded)

end OptimizedAbiDecoder

/-! ### Words -/

theorem sliceBytes_of_le {bytes : Bytes} {start stop : ℕ} (h : start ≤ stop) (h' : stop ≤ bytes.length) :
    sliceBytes bytes start stop = .ok ((bytes.take stop).drop start) := if_pos ⟨h, h'⟩

theorem length_slice {bytes : Bytes} {start stop : ℕ} (h : stop ≤ bytes.length) :
    ((bytes.take stop).drop start).length = stop - start := by
  rw [List.length_drop, List.length_take, Nat.min_eq_left h]

theorem length_word (a : U256) : a.toBigEndian.length = 32 := by simp [U256.toBigEndian]

/-- **A word is read as its number.** -/
theorem fromBigEndian_toBigEndian (a : U256) : fromBigEndian a.toBigEndian = .ok a := by
  rw [fromBigEndian, if_pos (Nat.le_of_eq (length_word a)), value_toBigEndian, BitVec.ofNat_toNat,
    BitVec.setWidth_eq]

theorem length_address (a : U256) : (a.toBigEndian.drop 12).length = 20 := by
  rw [List.length_drop, length_word]

/-- The last twenty bytes of a word are what is left of its number by `2 ^ 160`. -/
theorem value_address (a : U256) :
    Numeral.value 256 ((a.toBigEndian.drop 12).map UInt8.toNat) = a.toNat % 2 ^ 160 := by
  have hvalue := value_toBigEndian a
  rw [← List.take_append_drop 12 a.toBigEndian, List.map_append, Numeral.value_append, List.length_map,
    length_address] at hvalue
  have hbytes : ∀ d ∈ (a.toBigEndian.drop 12).map UInt8.toNat, d < 256 := by
    rw [List.forall_mem_map]
    exact fun b _ => b.toNat_lt
  have hlt := Numeral.value_lt hbytes
  rw [List.length_map, length_address] at hlt
  omega

/-- **The last twenty bytes of a word** are read as an address. -/
theorem fromSlice_word (a : U256) : fromSlice (a.toBigEndian.drop 12) = .ok (a.setWidth 160) := by
  rw [fromSlice, if_pos (length_address a), value_address, Except.ok.injEq, ← BitVec.toNat_inj, BitVec.toNat_ofNat,
    BitVec.toNat_setWidth, Nat.mod_mod]

theorem slices_of_words {first second : Bytes} (hfirst : first.length = 32) (hsecond : second.length = 32)
    (rest : Bytes) :
    64 ≤ (first ++ (second ++ rest)).length ∧ sliceBytes (first ++ (second ++ rest)) 0 32 = .ok first ∧
      sliceBytes (first ++ (second ++ rest)) 12 32 = .ok (first.drop 12) ∧
      sliceBytes (first ++ (second ++ rest)) 32 64 = .ok second := by
  have hlength : 64 ≤ (first ++ (second ++ rest)).length := by
    rw [List.length_append, List.length_append]
    omega
  have hboth : (first ++ second).length = 64 := by rw [List.length_append, hfirst, hsecond]
  have htwo : (first ++ (second ++ rest)).take 64 = first ++ second := by
    rw [← List.append_assoc, List.take_left' hboth]
  refine ⟨hlength, ?_, ?_, ?_⟩
  · rw [sliceBytes_of_le (by decide) (by omega), List.take_left' hfirst, List.drop_zero]
  · rw [sliceBytes_of_le (by decide) (by omega), List.take_left' hfirst]
  · rw [sliceBytes_of_le (by decide) hlength, htwo, List.drop_left' hfirst]

/-! ### Totality -/

theorem exists_wordAt (bytes : Bytes) {start stop : ℕ} (h : stop ≤ bytes.length) (hword : start + 32 = stop) :
    ∃ slice value, sliceBytes bytes start stop = .ok slice ∧ fromBigEndian slice = .ok value :=
  ⟨_, _, sliceBytes_of_le (by omega) h, if_pos (by rw [length_slice h]; omega)⟩

theorem transferParameters_total (paramData : Bytes) :
    ∃ parameters, transferParameters paramData = .ok parameters := by
  unfold transferParameters
  split
  · rename_i hlength
    have hshort : 32 ≤ paramData.length := by omega
    have hto : fromSlice ((paramData.take 32).drop 12) = .ok _ := if_pos (length_slice hshort)
    obtain ⟨amountSlice, amount, hslice, hamount⟩ := exists_wordAt paramData hlength rfl
    rw [sliceBytes_of_le (by decide) hshort, ok_bind, hto, ok_bind, hslice, ok_bind, hamount]
    exact ⟨_, rfl⟩
  · exact ⟨_, rfl⟩

theorem swapParameters_total (paramData : Bytes) : ∃ parameters, swapParameters paramData = .ok parameters := by
  unfold swapParameters
  split
  · rename_i hlength
    have hshort : 32 ≤ paramData.length := by omega
    obtain ⟨inSlice, amountIn, hin, hamountIn⟩ := exists_wordAt paramData hshort (Nat.zero_add 32)
    obtain ⟨outSlice, amountOutMin, hout, hamountOut⟩ := exists_wordAt paramData hlength rfl
    rw [hin, ok_bind, hamountIn, ok_bind, hout, ok_bind, hamountOut]
    exact ⟨_, rfl⟩
  · exact ⟨_, rfl⟩

theorem genericParameters_total (paramData : Bytes) :
    ∃ parameters, genericParameters paramData = .ok parameters := by
  unfold genericParameters
  split
  · rename_i hlength
    obtain ⟨firstSlice, firstParam, hfirst, hparam⟩ := exists_wordAt paramData hlength (Nat.zero_add 32)
    rw [hfirst, ok_bind, hparam]
    exact ⟨_, rfl⟩
  · exact ⟨_, rfl⟩

theorem decodeFunctionSimple_total (functionInfo : FunctionInfo) (paramData : Bytes) :
    ∃ decoded, decodeFunctionSimple functionInfo paramData = .ok decoded := by
  unfold decodeFunctionSimple
  split
  · obtain ⟨parameters, h⟩ := transferParameters_total paramData
    rw [h]
    exact ⟨_, rfl⟩
  · obtain ⟨parameters, h⟩ := swapParameters_total paramData
    rw [h]
    exact ⟨_, rfl⟩
  · obtain ⟨parameters, h⟩ := swapParameters_total paramData
    rw [h]
    exact ⟨_, rfl⟩
  · obtain ⟨parameters, h⟩ := genericParameters_total paramData
    rw [h]
    exact ⟨_, rfl⟩

namespace OptimizedAbiDecoder

/-- **Every input is decoded**, or not known: none makes it panic. -/
theorem decodeInput_total (decoder : OptimizedAbiDecoder) (inputData : Bytes) :
    ∃ decoded, decoder.decodeInput inputData = .ok decoded := by
  unfold decodeInput
  split
  · exact ⟨none, rfl⟩
  · rename_i hlength
    have hlength := Nat.le_of_not_lt hlength
    rw [sliceBytes_of_le (Nat.zero_le 4) hlength, ok_bind]
    split
    · exact ⟨none, rfl⟩
    · rename_i functionInfo _
      obtain ⟨decoded, h⟩ := decodeFunctionSimple_total functionInfo ((inputData.take inputData.length).drop 4)
      rw [sliceBytes_of_le hlength le_rfl, ok_bind, h]
      exact ⟨some decoded, rfl⟩

/-! ### Calls -/

theorem decodeInput_known {selector : Bytes} {functionInfo : FunctionInfo} (hselector : selector.length = 4)
    (hlookup : new.signatureMap.lookup (hexEncode0x selector) = some functionInfo) (arguments : Bytes) :
    new.decodeInput (selector ++ arguments) = some <$> decodeFunctionSimple functionInfo arguments := by
  have hlength : 4 ≤ (selector ++ arguments).length := by
    rw [List.length_append]
    omega
  rw [decodeInput, if_neg (Nat.not_lt.mpr hlength), sliceBytes_of_le (Nat.zero_le 4) hlength, ok_bind,
    List.take_left' hselector, List.drop_zero]
  simp only [hlookup]
  rw [sliceBytes_of_le hlength le_rfl, ok_bind, List.take_length, List.drop_left' hselector]
  rfl

theorem lookup_transfer :
    new.signatureMap.lookup (hexEncode0x [0xa9, 0x05, 0x9c, 0xbb]) = some ⟨"transfer", "0xa9059cbb"⟩ := by
  decide

theorem lookup_swap : new.signatureMap.lookup (hexEncode0x [0x38, 0xed, 0x17, 0x39]) =
    some ⟨"swapExactTokensForTokens", "0x38ed1739"⟩ := by decide

/-- **Two words after the selector of `transfer`**: of the first, the last twenty bytes count. -/
theorem decodeInput_transfer (first second : U256) (rest : Bytes) :
    new.decodeInput ([0xa9, 0x05, 0x9c, 0xbb] ++ (first.toBigEndian ++ (second.toBigEndian ++ rest))) =
      .ok (some ⟨"transfer", "0xa9059cbb",
        [⟨"to", "address", formatAddress (first.setWidth 160)⟩,
          ⟨"amount", "uint256", toString second.toNat⟩]⟩) := by
  obtain ⟨hlength, -, hto, hamount⟩ := slices_of_words (length_word first) (length_word second) rest
  rw [decodeInput_known rfl lookup_transfer]
  simp only [decodeFunctionSimple, transferParameters, if_pos hlength, hto, hamount, ok_bind, fromSlice_word,
    fromBigEndian_toBigEndian]
  rfl

/-- **Two words after the selector of a swap.** -/
theorem decodeInput_swap (first second : U256) (rest : Bytes) :
    new.decodeInput ([0x38, 0xed, 0x17, 0x39] ++ (first.toBigEndian ++ (second.toBigEndian ++ rest))) =
      .ok (some ⟨"swapExactTokensForTokens", "0x38ed1739",
        [⟨"amountIn", "uint256", toString first.toNat⟩, ⟨"amountOutMin", "uint256", toString second.toNat⟩]⟩) := by
  obtain ⟨hlength, hin, -, hout⟩ := slices_of_words (length_word first) (length_word second) rest
  rw [decodeInput_known rfl lookup_swap]
  simp only [decodeFunctionSimple, swapParameters, if_pos hlength, hin, hout, ok_bind, fromBigEndian_toBigEndian]
  rfl

/-- **Less than two words.** -/
theorem decodeInput_short {arguments : Bytes} (h : arguments.length < 64) :
    new.decodeInput ([0xa9, 0x05, 0x9c, 0xbb] ++ arguments) = .ok (some ⟨"transfer", "0xa9059cbb", []⟩) ∧
      new.decodeInput ([0x38, 0xed, 0x17, 0x39] ++ arguments) =
        .ok (some ⟨"swapExactTokensForTokens", "0x38ed1739", []⟩) := by
  rw [decodeInput_known rfl lookup_transfer, decodeInput_known rfl lookup_swap]
  simp only [decodeFunctionSimple, transferParameters, swapParameters, if_neg (Nat.not_le.mpr h)]
  exact ⟨rfl, rfl⟩

end OptimizedAbiDecoder

/-! ### The texts -/

theorem fromDecStr_toString (n : U256) : U256.fromDecStr (toString n.toNat) = some n := by
  obtain ⟨ds, hds, hvalue⟩ := Numeral.digits?_toDigits (by decide : 1 < 10) (by decide) n.toNat
  have htext : (toString n.toNat).toList = Nat.toDigits 10 n.toNat := by simp
  rw [U256.fromDecStr, htext, parseDigits_eq_some_iff]
  exact ⟨ds, hds, hvalue⟩

theorem fromStr_formatAddress (a : Address) : U256.fromStr (formatAddress a) = some (U256.ofUint a) := by
  have hbytes := hexBytes_hexEncode ((U256.ofUint a).toBigEndian.drop 12)
  obtain ⟨ds, hds, hvalue⟩ := digits?_of_hexBytes hbytes
  have hlength := (hexBytes_eq_some hbytes).1
  rw [length_address] at hlength
  have hto : (U256.ofUint a).toNat = a.toNat := by
    rw [U256.ofUint, BitVec.toNat_setWidth]
    omega
  have htext : (formatAddress a).toList =
      '0' :: 'x' :: (hexEncode ((U256.ofUint a).toBigEndian.drop 12)).toList := by
    simp [formatAddress, hexEncode0x]
  simp only [U256.fromStr, htext, stripPrefix0x]
  rw [if_pos (by omega), parseDigits_eq_some_iff]
  refine ⟨ds, hds, ?_⟩
  rw [hvalue, value_address, hto]
  exact Nat.mod_eq_of_lt a.isLt

/-- The call is a `transfer` of this amount to this address. -/
def DecodedInput.IsTransfer (decoded : DecodedInput) (recipient : Address) (amount : U256) : Prop :=
  decoded.functionName = "transfer" ∧ ∃ toText amountText,
    decoded.parameters = [⟨"to", "address", toText⟩, ⟨"amount", "uint256", amountText⟩] ∧
      U256.fromStr toText = some (U256.ofUint recipient) ∧ U256.fromDecStr amountText = some amount

/-- The call is a `swapExactTokensForTokens` of this amount for that. -/
def DecodedInput.IsSwap (decoded : DecodedInput) (amountIn amountOutMin : U256) : Prop :=
  decoded.functionName = "swapExactTokensForTokens" ∧ ∃ inText outText,
    decoded.parameters = [⟨"amountIn", "uint256", inText⟩, ⟨"amountOutMin", "uint256", outText⟩] ∧
      U256.fromDecStr inText = some amountIn ∧ U256.fromDecStr outText = some amountOutMin

/-- **What the decoder makes of calldata**: every input is decoded, or not known; of a `transfer` and
of a swap come the first two arguments, whatever follows; and of less than two words come none. -/
theorem decodes_exactly :
    (∀ inputData, ∃ decoded, OptimizedAbiDecoder.new.decodeInput inputData = .ok decoded) ∧
      (∀ recipient amount trailing, ∃ decoded,
        OptimizedAbiDecoder.new.decodeInput (Calldata.transfer recipient amount trailing).bytes = .ok (some decoded) ∧
          decoded.IsTransfer recipient amount) ∧
      (∀ amountIn amountOutMin path recipient deadline trailing, ∃ decoded,
        OptimizedAbiDecoder.new.decodeInput
            (Calldata.swap amountIn amountOutMin path recipient deadline trailing).bytes = .ok (some decoded) ∧
          decoded.IsSwap amountIn amountOutMin) ∧
      ∀ arguments : Bytes, arguments.length < 64 → ∀ selector ∈ [[0xa9, 0x05, 0x9c, 0xbb], [0x38, 0xed, 0x17, 0x39]],
        ∃ decoded, OptimizedAbiDecoder.new.decodeInput (selector ++ arguments) = .ok (some decoded) ∧
          decoded.parameters = [] := by
  refine ⟨OptimizedAbiDecoder.new.decodeInput_total, ?_, ?_, ?_⟩
  · intro recipient amount trailing
    refine ⟨_, OptimizedAbiDecoder.decodeInput_transfer (U256.ofUint recipient) amount trailing, rfl, _, _, rfl, ?_,
      fromDecStr_toString amount⟩
    have hrecipient : (U256.ofUint recipient).setWidth 160 = recipient := by simp [U256.ofUint]
    rw [hrecipient]
    exact fromStr_formatAddress recipient
  · intro amountIn amountOutMin path recipient deadline trailing
    simp only [Calldata.bytes, List.flatMap_cons, List.append_assoc]
    exact ⟨_, OptimizedAbiDecoder.decodeInput_swap amountIn amountOutMin _, rfl, _, _, rfl,
      fromDecStr_toString amountIn, fromDecStr_toString amountOutMin⟩
  · intro arguments hshort
    obtain ⟨htransfer, hswap⟩ := OptimizedAbiDecoder.decodeInput_short hshort
    simp only [List.forall_mem_cons, List.not_mem_nil, false_imp_iff, implies_true, and_true]
    exact ⟨⟨_, htransfer, rfl⟩, _, hswap, rfl⟩

end Botmev.Core
