import Botmev.Mempool.Calldata
import Botmev.Mempool.OptimizedAbiDecoder

/-!
# Two decoders of one call

Four selectors are known to both decoders. Each decoder has its own table of functions and protocols,
and its own way with the arguments: the optimised one has no types to decode them with.

## What is proved

* `exists_optimized`: the optimised decoder reports no arguments.
* `decoders_disagree`: of no call do both report the same arguments and the same protocol.
* `transfer_reported_twice`: what they report of a transfer.
-/

namespace Botmev.Mempool

open Botmev.Rust Botmev.Library Botmev.Core

variable {ParamType : Type} {E : Ethabi ParamType} {bytes : Bytes} {input : String}
  {call : OptimizedDecodedCall} {decoded : DecodedInput}

variable (ParamType) in
/-- Both decoders know the selector. -/
structure KnownToBoth (bytes : Bytes) : Prop where
  /-- It is whole. -/
  whole : 4 ≤ bytes.length
  /-- The optimised one knows it. -/
  optimized : ((@OptimizedAbiDecoder.new ParamType).signatureCache.lookup (bytes.take 4)).isSome
  /-- The other one does, as text. -/
  plain : (AbiDecoder.new.functionSignatures.lookup (hexEncode0x (bytes.take 4))).isSome

/-- **The decoders agree**: the same function, the same values of the parameters, in some sense, and the
same protocol. -/
structure Agree (same : ParameterValue → String → Prop) (call : OptimizedDecodedCall) (decoded : DecodedInput)
    (targetType : TargetType) : Prop where
  /-- The function. -/
  functionName : call.functionName = decoded.functionName
  /-- The values of the parameters. -/
  parameters : List.Forall₂ (fun p q => same p.value q.value) call.parameters decoded.parameters
  /-- The protocol. -/
  targetType : call.targetType = targetType

/-! ### The optimised decoder -/

theorem inputs_eq_nil {selector : Bytes} {info : OptimizedFunctionSignature ParamType}
    (h : OptimizedAbiDecoder.new.signatureCache.lookup selector = some info) : info.function.inputs = [] := by
  obtain ⟨before, after, hcache, -⟩ := List.lookup_eq_some_iff.mp h
  have hall : ∀ entry ∈ (@OptimizedAbiDecoder.new ParamType).signatureCache, entry.2.function.inputs = [] := by
    intro entry hentry
    simp only [OptimizedAbiDecoder.new, OptimizedAbiDecoder.addFunctionSignature, List.mem_cons,
      List.not_mem_nil, or_false] at hentry
    rcases hentry with rfl | rfl | rfl | rfl | rfl | rfl | rfl <;> rfl
  exact hall (selector, info) (by simp [hcache])

/-- **No arguments** are reported of a call that is known. -/
theorem exists_optimized (hdecode : ∀ data, E.decode [] data = .ok [])
    (hknown : KnownToBoth ParamType bytes) :
    ∃ call, ∃ info : OptimizedFunctionSignature ParamType,
      OptimizedAbiDecoder.new.decodeFunctionCall E bytes = .ok (some call) ∧ call.parameters = [] ∧
        OptimizedAbiDecoder.new.signatureCache.lookup (bytes.take 4) = some info ∧
        call.targetType = info.targetType := by
  obtain ⟨info, hinfo⟩ := Option.isSome_iff_exists.mp hknown.optimized
  have hparameters : OptimizedAbiDecoder.decodeParameters E info.function (bytes.drop 4) = .ok [] := by
    rw [OptimizedAbiDecoder.decodeParameters, inputs_eq_nil hinfo, List.map_nil, hdecode]
    rfl
  have hwhole : ¬ bytes.length < 4 := Nat.not_lt.mpr hknown.whole
  refine ⟨⟨info.function.name, info.signature, info.targetType, [], info.isMevRelevant⟩, info, ?_, rfl, hinfo, rfl⟩
  simp only [OptimizedAbiDecoder.decodeFunctionCall, if_neg hwhole, hinfo, hparameters]
  rfl

/-! ### The two decoders -/

theorem slice_of_decoded (h : AbiDecoder.new.decodeInput input = .ok (some decoded)) :
    slice input 0 10 = .ok decoded.functionSignature := by
  rw [AbiDecoder.decodeInput] at h
  split at h
  · cases h
  · obtain ⟨functionSignature, hslice, h⟩ := bind_eq_ok_iff.mp h
    rw [hslice]
    rcases hlookup : AbiDecoder.new.functionSignatures.lookup functionSignature with _ | ⟨functionName, targetType⟩
    · simp only [hlookup, catchErr_eq_ok_some_iff] at h
      obtain ⟨generic, hgeneric, h⟩ := bind_eq_ok_iff.mp h
      obtain ⟨data, -, h⟩ := bind_eq_ok_iff.mp h
      obtain rfl := Except.ok.inj (hslice.symm.trans hgeneric)
      cases h
      rfl
    · simp only [hlookup] at h
      obtain ⟨params, -, h⟩ := bind_eq_ok_iff.mp h
      cases h
      rfl

/-- **The decoders disagree** on every call that both know: each decodes it, and where both report no
arguments the protocols differ. -/
theorem decoders_disagree (hdecode : ∀ data, E.decode [] data = .ok []) (hknown : KnownToBoth ParamType bytes)
    (hinput : IsHexOf input bytes) (same : ParameterValue → String → Prop) (toLowercase : String → String)
    (toAddress : Option String) :
    ∃ call decoded, OptimizedAbiDecoder.new.decodeFunctionCall E bytes = .ok (some call) ∧
      AbiDecoder.new.decodeInput input = .ok (some decoded) ∧
      ¬ Agree same call decoded
        (AbiDecoder.new.determineTargetType toLowercase toAddress decoded.functionSignature) := by
  obtain ⟨call, info, hcall, hnil, hinfo, htarget⟩ := exists_optimized hdecode hknown
  have hlen := (length_of_isHexOf hinput).1
  have hwhole := hknown.whole
  obtain ⟨decoded, hdecoded⟩ := exists_decoded (ascii_of_isHexOf hinput) (by omega)
  refine ⟨call, decoded, hcall, hdecoded, ?_⟩
  intro hagree
  have hparameters : decoded.parameters = [] := by
    have hforall := hagree.parameters
    rw [hnil, List.forall₂_nil_left_iff] at hforall
    exact hforall
  rcases decodeInput_cases hdecoded with ⟨hstart, -⟩ | ⟨-, hplaceholders | ⟨data, hdata⟩⟩
  · -- A transfer is of no protocol for the one, and of the first for the other.
    have hsplit : IsHexOf input (bytes.take 4 ++ bytes.drop 4) := by rwa [List.take_append_drop]
    have hselector := selector_of_start (List.length_take_of_le hwhole) hsplit hstart
    have hsignature : decoded.functionSignature = transferSelector := by
      have hslice := (slice_ten_eq_ok_iff rfl).mpr hstart
      rw [slice_of_decoded hdecoded] at hslice
      exact Except.ok.inj hslice
    have hprotocol := hagree.targetType
    rw [htarget, hsignature] at hprotocol
    rw [hselector] at hinfo
    cases hinfo
    cases hprotocol
  · rw [hplaceholders] at hparameters
    cases hparameters
  · rw [hdata] at hparameters
    cases hparameters

/-! ### A transfer -/

/-- A crate that has no types of parameters. -/
def Ethabi.untyped : Ethabi Empty where
  decode _ _ := .ok []
  debugKind := Empty.elim
  debugToken _ := ""

/-- The transfer of one ether's worth, by both decoders. -/
theorem transfer_decoded_differently :
    ∃ call decoded,
      OptimizedAbiDecoder.new.decodeFunctionCall Ethabi.untyped oneEther.bytes = .ok (some call) ∧
        AbiDecoder.new.decodeInput (hexEncode0x oneEther.bytes) = .ok (some decoded) ∧
        ¬ Agree (fun _ _ => True) call decoded
          (AbiDecoder.new.determineTargetType id none decoded.functionSignature) := by
  have hknown : KnownToBoth Empty oneEther.bytes := by
    refine ⟨by decide, by decide, by decide⟩
  exact decoders_disagree (fun _ => rfl) hknown (isHexOf_hexEncode0x oneEther.bytes) _ id none

/-- **What they report of it**: nothing of no protocol, and two arguments of the first. -/
theorem transfer_reported_twice :
    (∃ call, OptimizedAbiDecoder.new.decodeFunctionCall Ethabi.untyped oneEther.bytes = .ok (some call) ∧
      call.functionName = "transfer" ∧ call.targetType = .unknown ∧ call.parameters = []) ∧
    (AbiDecoder.new.decodeInput (hexEncode0x oneEther.bytes)).toOption.join =
      some
        { functionName := "transfer"
          functionSignature := "0xa9059cbb"
          parameters :=
            [⟨"to", "address", "0x742d35cc6634c0532925a3b8d4c9db7c4c4c4c4c"⟩,
              ⟨"amount", "uint256", "0x0000000000000000000000000000000000000000000000000de0b6b3a7640000"⟩] } ∧
    AbiDecoder.new.determineTargetType id none "0xa9059cbb" = .uniswapV2 := by
  refine ⟨⟨_, rfl, rfl, rfl, rfl⟩, ?_, rfl⟩
  decide +kernel

end Botmev.Mempool
