import Botmev.Core.AbiDecoder

/-!
# The calldata of a victim

`encode_swap_transaction` (`mev-core/src/bundle/victim_generator.rs`) makes the calldata of the swap
that a victim is to send: a selector, two words, and two addresses that are not padded. The selector
is called that of `swapExactTokensForTokens`, and is the one that the decoder of the core has for
`transfer`.

The fields that make no part of the calldata are left out, and so is the rest of the generator.

## What is proved

* `encodeSwapTransaction_eq_ok_iff`: there is calldata when both tokens are configured.
* `decodeInput_of_encoded`: the decoder makes a `transfer` of it, whatever the swap.
* `roundTrips_iff`: so only a swap without calldata is not misread.
-/

namespace Botmev.Bundles

open Botmev.Rust Botmev.Library
open Botmev.Core (OptimizedAbiDecoder formatAddress)

/-- "Configuration for victim generator". -/
structure VictimGeneratorConfig where
  /-- "Dummy token contract addresses". -/
  dummyTokens : Table String Address

/-- "Victim transaction template for predictable swaps". -/
structure VictimTransaction where
  /-- "Token being sold". -/
  tokenIn : String
  /-- "Token being bought". -/
  tokenOut : String
  /-- "Amount to swap". -/
  amountIn : U256
  /-- "Minimum amount out (slippage protection)". -/
  minAmountOut : U256
  deriving DecidableEq, Repr

/-- `as_bytes` of an address. -/
def addressBytes (address : Address) : Bytes := (U256.ofUint address).toBigEndian.drop 12

namespace VictimGeneratorConfig

/-- `VictimGeneratorConfig::default()`. -/
def default : VictimGeneratorConfig where
  dummyTokens := ((∅ : Table String Address).insert "DUMMY_A" 0).insert "DUMMY_B" 0

/-- The selector, "swapExactTokensForTokens selector" to those who wrote it. -/
def functionSelector : Bytes := [0xa9, 0x05, 0x9c, 0xbb]

/-- `encode_swap_transaction`. -/
def encodeSwapTransaction (config : VictimGeneratorConfig) (victim : VictimTransaction) : Result Bytes := do
  let tokenInAddr ← okOr ("Unknown token: " ++ victim.tokenIn) (config.dummyTokens.lookup victim.tokenIn)
  let tokenOutAddr ← okOr ("Unknown token: " ++ victim.tokenOut) (config.dummyTokens.lookup victim.tokenOut)
  pure (functionSelector ++ victim.amountIn.toBigEndian ++ victim.minAmountOut.toBigEndian ++
    addressBytes tokenInAddr ++ addressBytes tokenOutAddr)

variable {config : VictimGeneratorConfig} {victim : VictimTransaction} {data : Bytes}

theorem encodeSwapTransaction_eq_ok_iff : config.encodeSwapTransaction victim = .ok data ↔
    ∃ tokenIn tokenOut, config.dummyTokens.lookup victim.tokenIn = some tokenIn ∧
      config.dummyTokens.lookup victim.tokenOut = some tokenOut ∧
      data = functionSelector ++ (victim.amountIn.toBigEndian ++ (victim.minAmountOut.toBigEndian ++
        (addressBytes tokenIn ++ addressBytes tokenOut))) := by
  unfold encodeSwapTransaction
  constructor
  · intro h
    obtain ⟨tokenIn, hin, h⟩ := bind_eq_ok_iff.mp h
    obtain ⟨tokenOut, hout, h⟩ := bind_eq_ok_iff.mp h
    refine ⟨tokenIn, tokenOut, okOr_eq_ok_iff.mp hin, okOr_eq_ok_iff.mp hout, ?_⟩
    rw [← Except.ok.inj h]
    simp only [List.append_assoc]
  · rintro ⟨tokenIn, tokenOut, hin, hout, rfl⟩
    rw [okOr_eq_ok_iff.mpr hin, ok_bind, okOr_eq_ok_iff.mpr hout, ok_bind]
    simp only [List.append_assoc]
    rfl

/-- **The calldata of a swap is decoded as a `transfer`**, of the least that is to come out, to the
last twenty bytes of what is put in. -/
theorem decodeInput_of_encoded (h : config.encodeSwapTransaction victim = .ok data) :
    OptimizedAbiDecoder.new.decodeInput data = .ok (some ⟨"transfer", "0xa9059cbb",
      [⟨"to", "address", formatAddress (victim.amountIn.setWidth 160)⟩,
        ⟨"amount", "uint256", toString victim.minAmountOut.toNat⟩]⟩) := by
  obtain ⟨tokenIn, tokenOut, -, -, rfl⟩ := encodeSwapTransaction_eq_ok_iff.mp h
  exact OptimizedAbiDecoder.decodeInput_transfer victim.amountIn victim.minAmountOut _

/-- The calldata of the swap is decoded as that swap. -/
def RoundTrips (config : VictimGeneratorConfig) (victim : VictimTransaction) : Prop :=
  ∀ data, config.encodeSwapTransaction victim = .ok data →
    ∃ decoded, OptimizedAbiDecoder.new.decodeInput data = .ok (some decoded) ∧
      decoded.IsSwap victim.amountIn victim.minAmountOut

theorem not_isSwap_of_encoded {decoded : Core.DecodedInput} {amountIn amountOutMin : U256}
    (h : config.encodeSwapTransaction victim = .ok data)
    (hdecoded : OptimizedAbiDecoder.new.decodeInput data = .ok (some decoded)) :
    ¬decoded.IsSwap amountIn amountOutMin := by
  rw [decodeInput_of_encoded h] at hdecoded
  obtain rfl := Option.some.inj (Except.ok.inj hdecoded)
  rintro ⟨hname, -⟩
  simp at hname

/-- **No calldata is decoded as the swap** that it was made of: the decoder agrees with the encoder
just where a token is not configured, so that there is no calldata. -/
theorem roundTrips_iff (config : VictimGeneratorConfig) (victim : VictimTransaction) :
    config.RoundTrips victim ↔
      victim.tokenIn ∉ config.dummyTokens ∨ victim.tokenOut ∉ config.dummyTokens := by
  constructor
  · intro h
    by_contra hconfigured
    rw [not_or, not_not, not_not] at hconfigured
    obtain ⟨tokenIn, hin⟩ := Option.isSome_iff_exists.mp (AList.lookup_isSome.mpr hconfigured.1)
    obtain ⟨tokenOut, hout⟩ := Option.isSome_iff_exists.mp (AList.lookup_isSome.mpr hconfigured.2)
    have hencoded := encodeSwapTransaction_eq_ok_iff.mpr ⟨tokenIn, tokenOut, hin, hout, rfl⟩
    obtain ⟨decoded, hdecoded, hswap⟩ := h _ hencoded
    exact not_isSwap_of_encoded hencoded hdecoded hswap
  · rintro hmissing data hencoded
    obtain ⟨tokenIn, tokenOut, hin, hout, -⟩ := encodeSwapTransaction_eq_ok_iff.mp hencoded
    rcases hmissing with hmissing | hmissing
    · exact absurd (Table.mem_of_lookup hin) hmissing
    · exact absurd (Table.mem_of_lookup hout) hmissing

/-- A swap of the tokens that are configured by default. -/
def dummySwap : VictimTransaction where
  tokenIn := "DUMMY_A"
  tokenOut := "DUMMY_B"
  amountIn := 1000000000000000000
  minAmountOut := 950000000000000000

/-- Its calldata is not decoded as that swap. -/
theorem dummySwap_misread : ¬default.RoundTrips dummySwap := by
  intro h
  have hencoded : default.encodeSwapTransaction dummySwap = .ok _ :=
    encodeSwapTransaction_eq_ok_iff.mpr ⟨0, 0, by decide, by decide, rfl⟩
  obtain ⟨decoded, hdecoded, hswap⟩ := h _ hencoded
  exact not_isSwap_of_encoded hencoded hdecoded hswap

end VictimGeneratorConfig

end Botmev.Bundles
