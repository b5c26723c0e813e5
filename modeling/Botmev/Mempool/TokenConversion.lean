import Botmev.Core.AbiDecoder
import Botmev.Mempool.OptimizedAbiDecoder

/-!
# The conversion of tokens

What `convert_token_to_value` (`mev-mempool/src/optimized_abi_decoder.rs`) keeps of a token. A number is
kept in the narrowest of four ways, the two wide ones as a decimal text; an address is kept as its text.
Tokens that have no value of their own are kept as the text that is written of them for debugging, which
may be the text of a string, too.

## What is proved

* `tokenOfValue_convertTokenToValue`: a token that has values of its own is read back.
* `convertTokenToValue_determines`: so the value determines the token.
* `convertTokenToValue_not_injective`: among all the tokens it does not.
-/

namespace Botmev.Mempool

open Botmev.Rust

/-- The tokens that have values of their own, arbitrarily nested. -/
inductive Token.Plain : Token → Prop where
  /-- `Token::Address`. -/
  | address (address : Address) : Plain (.address address)
  /-- `Token::Uint`. -/
  | uint (uint : U256) : Plain (.uint uint)
  /-- `Token::Bool`. -/
  | bool (b : Bool) : Plain (.bool b)
  /-- `Token::Bytes`. -/
  | bytes (bytes : Bytes) : Plain (.bytes bytes)
  /-- `Token::String`. -/
  | string (s : String) : Plain (.string s)
  /-- `Token::Array`. -/
  | array {tokens : List Token} : (∀ token ∈ tokens, Plain token) → Plain (.array tokens)
  /-- `Token::Tuple`. -/
  | tuple {tokens : List Token} : (∀ token ∈ tokens, Plain token) → Plain (.tuple tokens)

/-! ### Reading back -/

mutual

/-- The plain token of a value, if it is one's. -/
def tokenOfValue : ParameterValue → Option Token
  | .address s => (U256.fromStr s).map fun n => .address (n.setWidth 160)
  | .uint256 s => (U256.fromDecStr s).map .uint
  | .uint128 s => (U256.fromDecStr s).map .uint
  | .uint64 n => some (.uint (U256.ofUint n))
  | .uint32 n => some (.uint (U256.ofUint n))
  | .bool b => some (.bool b)
  | .bytes bytes => some (.bytes bytes)
  | .string s => some (.string s)
  | .array values => (tokensOfValues values).map .array
  | .tuple values => (tokensOfValues values).map .tuple

/-- Those of the values of an array, or of a tuple. -/
def tokensOfValues : List ParameterValue → Option (List Token)
  | [] => some []
  | value :: values =>
    (tokenOfValue value).bind fun token => (tokensOfValues values).map fun tokens => token :: tokens

end

variable {ParamType : Type} (E : Ethabi ParamType)

theorem convertTokenToValue_address (address : Address) :
    convertTokenToValue E (.address address) = .address (Core.formatAddress address) := by
  simp only [convertTokenToValue, Core.formatAddress]

theorem ofUint_ofNat {w : ℕ} {n : U256} (h : n.toNat < 2 ^ w) :
    U256.ofUint (BitVec.ofNat w n.toNat) = n := by
  apply BitVec.eq_of_toNat_eq
  rw [U256.ofUint, BitVec.toNat_setWidth, BitVec.toNat_ofNat, Nat.mod_eq_of_lt h, Nat.mod_eq_of_lt n.isLt]

theorem tokenOfValue_uint (uint : U256) :
    tokenOfValue (convertTokenToValue E (.uint uint)) = some (.uint uint) := by
  rw [convertTokenToValue]
  split_ifs with h64 h32 h128
  · simp only [tokenOfValue, ofUint_ofNat h32]
  · simp only [tokenOfValue, ofUint_ofNat h64]
  · simp only [tokenOfValue, Core.fromDecStr_toString, Option.map_some]
  · simp only [tokenOfValue, Core.fromDecStr_toString, Option.map_some]

/-- The tokens of an array or of a tuple are read back, if each of them is. -/
theorem tokensOfValues_convertTokens {tokens : List Token}
    (h : ∀ token ∈ tokens, tokenOfValue (convertTokenToValue E token) = some token) :
    tokensOfValues (convertTokens E tokens) = some tokens := by
  induction tokens with
  | nil => simp [convertTokens, tokensOfValues]
  | cons token tokens ih =>
    have hrest := ih fun token' hmem => h token' (List.mem_cons_of_mem token hmem)
    simp [convertTokens, tokensOfValues, h token List.mem_cons_self, hrest]

/-- **A plain token is read back from its value.** -/
theorem tokenOfValue_convertTokenToValue {token : Token} (h : token.Plain) :
    tokenOfValue (convertTokenToValue E token) = some token := by
  induction h with
  | address address =>
    simp [convertTokenToValue_address, tokenOfValue, Core.fromStr_formatAddress, U256.ofUint]
  | uint uint => exact tokenOfValue_uint E uint
  | bool b => simp [convertTokenToValue, tokenOfValue]
  | bytes bytes => simp [convertTokenToValue, tokenOfValue]
  | string s => simp [convertTokenToValue, tokenOfValue]
  | array _ ih => simp [convertTokenToValue, tokenOfValue, tokensOfValues_convertTokens E ih]
  | tuple _ ih => simp [convertTokenToValue, tokenOfValue, tokensOfValues_convertTokens E ih]

/-- **The value of a plain token determines it.** -/
theorem convertTokenToValue_determines {token token' : Token} (h : token.Plain) (h' : token'.Plain)
    (hvalue : convertTokenToValue E token = convertTokenToValue E token') : token = token' := by
  have hback := tokenOfValue_convertTokenToValue E h
  rw [hvalue, tokenOfValue_convertTokenToValue E h', Option.some.injEq] at hback
  exact hback.symm

/-- `ethabi` of no types, for the tokens that are not written for debugging. -/
def noTypes : Ethabi Empty where
  decode _ _ := .error "Invalid data"
  debugKind kind := kind.elim
  debugToken _ := ""

/-- A tuple of an array, a text, and the numbers at the boundaries of the widths. -/
def nestedToken (last : U256) : Token :=
  .tuple [.array [.address 1, .bool true], .string "1", .bytes [1],
    .array [.uint 0xFFFFFFFF, .uint 0x100000000, .uint 0xFFFFFFFFFFFFFFFF, .uint last]]

theorem plain_nestedToken (last : U256) : (nestedToken last).Plain := by
  refine .tuple (List.forall_mem_cons.mpr ⟨.array ?_, ?_⟩)
  · simp [Token.Plain.address, Token.Plain.bool]
  · simp only [List.forall_mem_cons, List.not_mem_nil, false_imp_iff, implies_true, and_true]
    refine ⟨.string _, .bytes _, .array ?_⟩
    simp [Token.Plain.uint]

/-- The last number is the first one that takes a text, however it is computed. -/
theorem nested_determined : nestedToken 0x10000000000000000 = nestedToken (0xFFFFFFFFFFFFFFFF + 1) := by
  have hlast : (0x10000000000000000 : U256) = 0xFFFFFFFFFFFFFFFF + 1 := by decide
  have hvalue := congrArg (fun last => convertTokenToValue noTypes (nestedToken last)) hlast
  exact convertTokenToValue_determines noTypes (plain_nestedToken _) (plain_nestedToken _) hvalue

/-- Among all the tokens: a token without a value of its own is taken for the string that is written of
it. -/
theorem convertTokenToValue_not_injective : ¬ Function.Injective (convertTokenToValue E) := by
  intro hinjective
  have hvalue : convertTokenToValue E (.fixedBytes []) =
      convertTokenToValue E (.string (E.debugToken (.fixedBytes []))) := by
    simp [convertTokenToValue]
  cases hinjective hvalue

end Botmev.Mempool
