import Botmev.Mempool.ParserTotality
import Botmev.Strategies.Sandwich

/-!
# What the decoder makes of calldata

Calldata is a selector of four bytes and the arguments in words of 32, written as `0x` and
hexadecimal digits. Of a `transfer`, the decoder takes the address from the first word and
all that follows it for the amount; it does not look whether a second word is there, or
more than that. Of a `swapExactTokensForTokens`, it takes nothing: the amounts it reports
are placeholders.

## What is proved

* `decoded_faithfully_iff`: the decoder gives the arguments of a call just when it is a
  `transfer` without trailing bytes, its selector in lower case.
* `slippage_check_blind`: whatever was decoded, the sandwich strategy finds no slippage
  protection in it.
-/

namespace Botmev.Mempool

open Botmev.Rust Botmev.Library Botmev.Core Botmev.Strategies

/-! ### Calldata -/

/-- A call of one of the two functions, with any bytes after it; or one that ends within
its fixed words. -/
inductive Calldata where
  /-- `transfer(to, amount)`. -/
  | transfer (recipient : Address) (amount : U256) (trailing : Bytes)
  /-- `swapExactTokensForTokens(amountIn, amountOutMin, path, to, deadline)`. -/
  | swap (amountIn amountOutMin : U256) (path : List Address) (recipient : Address) (deadline : U256)
      (trailing : Bytes)
  /-- `transfer`, with less than its two words. -/
  | shortTransfer (arguments : Bytes) (h : arguments.length < 64)
  /-- `swapExactTokensForTokens`, with less than its five words. -/
  | shortSwap (arguments : Bytes) (h : arguments.length < 160)

namespace Calldata

/-- The bytes of a call: the fixed words and then the path, its length first. -/
def bytes : Calldata → Bytes
  | transfer recipient amount trailing =>
    [0xa9, 0x05, 0x9c, 0xbb] ++ ((U256.ofUint recipient).toBigEndian ++ (amount.toBigEndian ++ trailing))
  | swap amountIn amountOutMin path recipient deadline trailing =>
    [0x38, 0xed, 0x17, 0x39] ++
      ([amountIn, amountOutMin, 160, U256.ofUint recipient, deadline, BitVec.ofNat 256 path.length].flatMap
          U256.toBigEndian ++
        (path.flatMap fun token => (U256.ofUint token).toBigEndian) ++ trailing)
  | shortTransfer arguments _ => [0xa9, 0x05, 0x9c, 0xbb] ++ arguments
  | shortSwap arguments _ => [0x38, 0xed, 0x17, 0x39] ++ arguments

end Calldata

/-- The string is `0x` and the bytes in hexadecimal, in upper or lower case. -/
def IsHexOf (input : String) (bytes : Bytes) : Prop :=
  ∃ digits, input.toList = '0' :: 'x' :: digits ∧ hexBytes digits = some bytes

/-- What the decoder should give: the arguments, as hexadecimal numbers; and no parameters,
if the fixed words are not all there. -/
def DecodedFaithfully (input : String) : Calldata → Prop
  | .transfer recipient amount _ =>
    ∃ decoded toHex amountHex,
      AbiDecoder.new.decodeInput input = .ok (some decoded) ∧
      decoded.parameters = [⟨"to", "address", toHex⟩, ⟨"amount", "uint256", amountHex⟩] ∧
      U256.fromStr toHex = some (U256.ofUint recipient) ∧ U256.fromStr amountHex = some amount
  | .swap amountIn amountOutMin _ _ _ _ =>
    ∃ decoded, AbiDecoder.new.decodeInput input = .ok (some decoded) ∧
      (∃ param ∈ decoded.parameters, param.name = "amountIn" ∧ U256.fromStr param.value = some amountIn) ∧
      ∃ param ∈ decoded.parameters,
        param.name = "amountOutMin" ∧ U256.fromStr param.value = some amountOutMin
  | .shortTransfer _ _ | .shortSwap _ _ =>
    ∀ decoded, AbiDecoder.new.decodeInput input = .ok (some decoded) → decoded.parameters = []

/-- The calls that are decoded right. -/
def Decodable (input : String) : Calldata → Prop
  | .transfer _ _ trailing => transferSelector.toList <+: input.toList ∧ trailing = []
  | .shortTransfer arguments _ => transferSelector.toList <+: input.toList ∧ arguments.length < 32
  | .swap .. | .shortSwap .. => False

theorem isHexOf_hexEncode0x (bytes : Bytes) : IsHexOf (hexEncode0x bytes) bytes :=
  ⟨(hexEncode bytes).toList, by simp [hexEncode0x], hexBytes_hexEncode bytes⟩

/-! ### What is decoded -/

variable {input : String} {decoded : DecodedInput}

/-- The parameters the source has for a swap. -/
def placeholders : List DecodedParameter :=
  [⟨"amountIn", "uint256", "decoded_amount_in"⟩, ⟨"amountOutMin", "uint256", "decoded_amount_out_min"⟩]

theorem decodeParameters_cases {functionSignature : String} {params : List DecodedParameter}
    (h : AbiDecoder.decodeParameters input functionSignature = .ok params) :
    functionSignature = transferSelector ∧
        (74 ≤ input.utf8ByteSize ∧
            (∃ toHex amountHex, slice input 34 74 = .ok toHex ∧ sliceFrom input 74 = .ok amountHex ∧
              params = [⟨"to", "address", "0x" ++ toHex⟩, ⟨"amount", "uint256", "0x" ++ amountHex⟩]) ∨
          input.utf8ByteSize < 74 ∧ params = []) ∨
      functionSignature ≠ transferSelector ∧
        (params = placeholders ∨ ∃ data, params = [⟨"data", "bytes", data⟩]) := by
  unfold AbiDecoder.decodeParameters at h
  split at h
  · refine .inl ⟨rfl, ?_⟩
    split at h
    · rename_i hlen
      obtain ⟨toHex, hto, h⟩ := bind_eq_ok_iff.mp h
      obtain ⟨amountHex, hamount, h⟩ := bind_eq_ok_iff.mp h
      cases h
      exact .inl ⟨hlen, toHex, amountHex, hto, hamount, rfl⟩
    · rename_i hlen
      cases h
      exact .inr ⟨Nat.lt_of_not_le hlen, rfl⟩
  · cases h
    exact .inr ⟨by decide, .inl rfl⟩
  · rename_i hne _
    obtain ⟨data, -, h⟩ := bind_eq_ok_iff.mp h
    cases h
    exact .inr ⟨hne, .inr ⟨data, rfl⟩⟩

/-- **What is decoded**: the two parts of a `transfer`, if it is long enough, or nothing; the
placeholders; or the data as it is. -/
theorem decodeInput_cases (h : AbiDecoder.new.decodeInput input = .ok (some decoded)) :
    transferSelector.toList <+: input.toList ∧
        (74 ≤ input.utf8ByteSize ∧
            (∃ toHex amountHex, slice input 34 74 = .ok toHex ∧ sliceFrom input 74 = .ok amountHex ∧
              decoded.parameters =
                [⟨"to", "address", "0x" ++ toHex⟩, ⟨"amount", "uint256", "0x" ++ amountHex⟩]) ∨
          input.utf8ByteSize < 74 ∧ decoded.parameters = []) ∨
      ¬ transferSelector.toList <+: input.toList ∧
        (decoded.parameters = placeholders ∨ ∃ data, decoded.parameters = [⟨"data", "bytes", data⟩]) := by
  rw [AbiDecoder.decodeInput] at h
  split at h
  · cases h
  · obtain ⟨functionSignature, hf, h⟩ := bind_eq_ok_iff.mp h
    have hstart : functionSignature = transferSelector ↔ transferSelector.toList <+: input.toList := by
      rw [← slice_ten_eq_ok_iff rfl, hf, Except.ok.injEq]
    rw [← hstart]
    rcases hlookup : AbiDecoder.new.functionSignatures.lookup functionSignature with _ | ⟨functionName, targetType⟩
    · have hne : functionSignature ≠ transferSelector := by
        rintro rfl
        cases hlookup
      simp only [hlookup, catchErr_eq_ok_some_iff] at h
      obtain ⟨_, -, h⟩ := bind_eq_ok_iff.mp h
      obtain ⟨data, -, h⟩ := bind_eq_ok_iff.mp h
      cases h
      exact .inr ⟨hne, .inr ⟨data, rfl⟩⟩
    · simp only [hlookup] at h
      obtain ⟨params, hparams, h⟩ := bind_eq_ok_iff.mp h
      cases h
      exact decodeParameters_cases hparams

theorem exists_decoded (hascii : ∀ c ∈ input.toList, c.utf8Size = 1) (hlen : 10 ≤ input.toList.length) :
    ∃ decoded, AbiDecoder.new.decodeInput input = .ok (some decoded) := by
  have hsize : input.utf8ByteSize = input.toList.length := by
    rw [utf8ByteSize_eq, byteLength_of_one hascii]
  have hdata := sliceFrom_of_ascii hascii hlen
  have hselector := slice_of_ascii hascii (Nat.zero_le 10) hlen
  rw [AbiDecoder.decodeInput, if_neg (by omega), hselector, ok_bind]
  rcases hlookup : AbiDecoder.new.functionSignatures.lookup _ with _ | ⟨functionName, targetType⟩
  · exact ⟨_, by simp only [AbiDecoder.decodeGenericFunction, hselector, hdata, ok_bind]; rfl⟩
  · obtain ⟨params, hparams⟩ : ∃ params, AbiDecoder.decodeParameters input
        (String.ofList ((input.toList.take 10).drop 0)) = .ok params := by
      unfold AbiDecoder.decodeParameters
      split
      · split
        · rename_i h74
          rw [slice_of_ascii hascii (by omega : 34 ≤ 74) (by omega), sliceFrom_of_ascii hascii (by omega)]
          exact ⟨_, rfl⟩
        · exact ⟨_, rfl⟩
      · exact ⟨_, rfl⟩
      · rw [hdata]
        exact ⟨_, rfl⟩
    exact ⟨_, by simp only [hparams, ok_bind]; rfl⟩

/-! ### Reading words -/

theorem fromStr_word {digits : List Char} {a : U256} (h : hexBytes digits = some a.toBigEndian) :
    U256.fromStr ("0x" ++ String.ofList digits) = some a := by
  obtain ⟨ds, hds, hv⟩ := digits?_of_hexBytes h
  have hlen := (hexBytes_eq_some h).1
  have hword : a.toBigEndian.length = 32 := by simp [U256.toBigEndian]
  have hlist : ("0x" ++ String.ofList digits).toList = '0' :: 'x' :: digits := by simp
  simp only [U256.fromStr, hlist, stripPrefix0x]
  rw [if_pos (by omega), parseDigits_eq_some_iff]
  exact ⟨ds, hds, by rw [hv, value_toBigEndian]⟩

/-- The last forty digits of an address's word are read as the address. -/
theorem fromStr_address {digits : List Char} {a : Address}
    (h : hexBytes digits = some (U256.ofUint a).toBigEndian) :
    U256.fromStr ("0x" ++ String.ofList (digits.drop 24)) = some (U256.ofUint a) := by
  obtain ⟨ds, hds, hv⟩ := digits?_of_hexBytes h
  have hlen := (hexBytes_eq_some h).1
  have hword : (U256.ofUint a).toBigEndian.length = 32 := by simp [U256.toBigEndian]
  have hlist : ("0x" ++ String.ofList (digits.drop 24)).toList = '0' :: 'x' :: digits.drop 24 := by simp
  rw [← List.take_append_drop 24 digits] at hds
  obtain ⟨es, es', hes, hes', rfl⟩ := Numeral.digits?_append.mp hds
  have hlen' : es'.length = 40 := by
    rw [Numeral.length_of_digits? hes', List.length_drop]
    omega
  have hto : (U256.ofUint a).toNat = a.toNat := by
    rw [U256.ofUint, BitVec.toNat_setWidth]
    have := a.isLt
    omega
  -- The digits before them are zeros, as an address is below `16 ^ 40`.
  rw [value_toBigEndian, hto, Numeral.value_append, hlen'] at hv
  have hlt : a.toNat < 16 ^ 40 := a.isLt
  have hzero : Numeral.value 16 es = 0 := by
    by_contra hne
    have := Nat.le_mul_of_pos_left (16 ^ 40) (Nat.pos_of_ne_zero hne)
    omega
  simp only [U256.fromStr, hlist, stripPrefix0x]
  rw [if_pos (by rw [List.length_drop]; omega), parseDigits_eq_some_iff]
  exact ⟨es', hes', by rw [hto, ← hv, hzero]; simp⟩

/-! ### Faithful decoding -/

theorem ascii_of_isHexOf {bytes : Bytes} (h : IsHexOf input bytes) : ∀ c ∈ input.toList, c.utf8Size = 1 := by
  obtain ⟨digits, hinput, hdigits⟩ := h
  rw [hinput]
  intro c hc
  rcases List.mem_cons.mp hc with rfl | hc
  · rfl
  · rcases List.mem_cons.mp hc with rfl | hc
    · rfl
    · exact (hexBytes_eq_some hdigits).2 c hc

theorem length_of_isHexOf {bytes : Bytes} (h : IsHexOf input bytes) :
    input.toList.length = 2 + 2 * bytes.length ∧ input.utf8ByteSize = 2 + 2 * bytes.length := by
  have hascii := ascii_of_isHexOf h
  obtain ⟨digits, hinput, hdigits⟩ := h
  have hlen : input.toList.length = 2 + 2 * bytes.length := by
    rw [hinput, List.length_cons, List.length_cons, (hexBytes_eq_some hdigits).1]
    omega
  exact ⟨hlen, by rw [utf8ByteSize_eq, byteLength_of_one hascii, hlen]⟩

theorem selector_of_start {selector arguments : Bytes} (hlen : selector.length = 4)
    (h : IsHexOf input (selector ++ arguments)) (hstart : transferSelector.toList <+: input.toList) :
    selector = [0xa9, 0x05, 0x9c, 0xbb] := by
  obtain ⟨digits, hinput, hdigits⟩ := h
  obtain ⟨a, b, rfl, ha, hb⟩ := hexBytes_eq_append_iff.mp hdigits
  obtain ⟨r, hr⟩ := hstart
  have hlist : transferSelector.toList = '0' :: 'x' :: "a9059cbb".toList := by decide
  rw [hinput, hlist, List.cons_append, List.cons_append, List.cons.injEq, List.cons.injEq] at hr
  have ha' : "a9059cbb".toList = a := by
    refine (List.append_inj hr.2.2 ?_).1
    rw [(hexBytes_eq_some ha).1, hlen]
    decide
  have hbytes : hexBytes "a9059cbb".toList = some [0xa9, 0x05, 0x9c, 0xbb] := by decide
  rw [← ha', hbytes, Option.some.injEq] at ha
  exact ha.symm

/-- No parameter that is called an amount of a swap can be read, whatever the input. -/
theorem unreadable_amount (h : AbiDecoder.new.decodeInput input = .ok (some decoded)) :
    ∀ param ∈ decoded.parameters, param.name = "amountIn" ∨ param.name = "amountOutMin" →
      U256.fromStr param.value = none ∧ parseUint 128 param.value = none := by
  have hnames : ∀ param ∈ placeholders, U256.fromStr param.value = none ∧ parseUint 128 param.value = none := by
    decide
  intro param hmem hname
  rcases decodeInput_cases h with ⟨-, ⟨-, toHex, amountHex, -, -, hparams⟩ | ⟨-, hparams⟩⟩ | ⟨-, hparams | ⟨data, hparams⟩⟩
  · rw [hparams] at hmem
    simp only [List.mem_cons, List.not_mem_nil, or_false] at hmem
    rcases hmem with rfl | rfl <;> simp at hname
  · rw [hparams] at hmem
    cases hmem
  · exact hnames param (hparams ▸ hmem)
  · rw [hparams] at hmem
    simp only [List.mem_cons, List.not_mem_nil, or_false] at hmem
    rcases hmem with rfl
    simp at hname

theorem slices_of_transfer {recipient : Address} {amount : U256}
    (h : IsHexOf input (Calldata.transfer recipient amount []).bytes) :
    ∃ word amountDigits, hexBytes word = some (U256.ofUint recipient).toBigEndian ∧
      hexBytes amountDigits = some amount.toBigEndian ∧
      (input.toList.take 74).drop 34 = word.drop 24 ∧ input.toList.drop 74 = amountDigits := by
  have hword : ∀ a : U256, a.toBigEndian.length = 32 := by simp [U256.toBigEndian]
  obtain ⟨digits, hinput, hdigits⟩ := h
  obtain ⟨selector, rest, rfl, hselector, hrest⟩ := hexBytes_eq_append_iff.mp hdigits
  obtain ⟨word, amountDigits, rfl, hto, hamount⟩ := hexBytes_eq_append_iff.mp hrest
  rw [List.append_nil] at hamount
  have hselectorlen := (hexBytes_eq_some hselector).1
  have hwordlen := (hexBytes_eq_some hto).1
  rw [hword] at hwordlen
  have hlist : input.toList = (('0' :: 'x' :: selector) ++ word) ++ amountDigits := by
    rw [hinput, List.append_assoc, List.cons_append, List.cons_append]
  have hhead : ('0' :: 'x' :: selector).length = 10 := by
    rw [List.length_cons, List.length_cons, hselectorlen]
    rfl
  have hlen : (('0' :: 'x' :: selector) ++ word).length = 74 := by
    rw [List.length_append, hhead, hwordlen]
  refine ⟨word, amountDigits, hto, hamount, ?_, ?_⟩
  · have hstart : 34 = ('0' :: 'x' :: selector).length + 24 := by rw [hhead]
    rw [hlist, List.take_left' hlen, hstart, List.drop_length_add_append]
  · rw [hlist, List.drop_left' hlen]

/-- A `transfer` is decoded to its arguments just when nothing comes after them. -/
theorem transfer_decoded_iff {recipient : Address} {amount : U256} {trailing : Bytes}
    (h : IsHexOf input (Calldata.transfer recipient amount trailing).bytes) :
    DecodedFaithfully input (.transfer recipient amount trailing) ↔
      Decodable input (.transfer recipient amount trailing) := by
  have hascii := ascii_of_isHexOf h
  obtain ⟨hlen, hsize⟩ := length_of_isHexOf h
  have hword : ∀ a : U256, a.toBigEndian.length = 32 := by simp [U256.toBigEndian]
  simp only [Calldata.bytes, List.length_append, List.length_cons, List.length_nil, hword] at hlen hsize
  obtain ⟨decoded, hdecoded⟩ := exists_decoded hascii (by omega)
  constructor
  · rintro ⟨decoded', toHex, amountHex, hdecoded', hparams, -, hamount⟩
    rcases decodeInput_cases hdecoded' with
      ⟨hstart, ⟨-, toHex', amountHex', -, hslice, hparams'⟩ | ⟨-, hparams'⟩⟩ | ⟨-, hparams' | ⟨data, hparams'⟩⟩
    · -- All that follows the address must fit in a word.
      refine ⟨hstart, ?_⟩
      rw [sliceFrom_of_ascii hascii (by omega)] at hslice
      cases hslice
      simp only [hparams, List.cons.injEq, DecodedParameter.mk.injEq, true_and, and_true] at hparams'
      obtain ⟨-, rfl⟩ := hparams'
      have hlist : ("0x" ++ String.ofList (input.toList.drop 74)).toList = '0' :: 'x' :: input.toList.drop 74 := by
        simp
      simp only [U256.fromStr, hlist, stripPrefix0x, List.length_drop, Option.ite_none_right_eq_some] at hamount
      exact List.length_eq_zero_iff.mp (by omega)
    · rw [hparams] at hparams'
      cases hparams'
    · rw [hparams] at hparams'
      simp [placeholders] at hparams'
    · rw [hparams] at hparams'
      simp at hparams'
  · rintro ⟨hstart, rfl⟩
    rcases decodeInput_cases hdecoded with ⟨-, ⟨-, toHex, amountHex, hto, hamount, hparams⟩ | ⟨hlt, -⟩⟩ | ⟨hnot, -⟩
    · obtain ⟨word, amountDigits, hword, hdigits, htake, hdrop⟩ := slices_of_transfer h
      rw [slice_of_ascii hascii (by omega : 34 ≤ 74) (by omega), htake] at hto
      rw [sliceFrom_of_ascii hascii (by omega), hdrop] at hamount
      cases hto
      cases hamount
      exact ⟨decoded, _, _, hdecoded, hparams, fromStr_address hword, fromStr_word hdigits⟩
    · omega
    · exact absurd hstart hnot

theorem swap_not_decoded {amountIn amountOutMin : U256} {path : List Address} {recipient : Address}
    {deadline : U256} {trailing : Bytes} :
    ¬ DecodedFaithfully input (.swap amountIn amountOutMin path recipient deadline trailing) := by
  rintro ⟨decoded, hdecoded, ⟨param, hmem, hname, hread⟩, -⟩
  rw [(unreadable_amount hdecoded param hmem (.inl hname)).1] at hread
  cases hread

/-- Of calldata that is too short, no parameters are decoded just when it is a `transfer`
without its first word. -/
theorem short_decoded_iff {selector arguments : Bytes} (hselector : selector.length = 4)
    (h : IsHexOf input (selector ++ arguments)) :
    (∀ decoded, AbiDecoder.new.decodeInput input = .ok (some decoded) → decoded.parameters = []) ↔
      transferSelector.toList <+: input.toList ∧ arguments.length < 32 := by
  have hascii := ascii_of_isHexOf h
  obtain ⟨hlen, hsize⟩ := length_of_isHexOf h
  rw [List.length_append, hselector] at hlen hsize
  constructor
  · intro hall
    obtain ⟨decoded, hdecoded⟩ := exists_decoded hascii (by omega)
    have hnil := hall decoded hdecoded
    rcases decodeInput_cases hdecoded with
      ⟨hstart, ⟨-, toHex, amountHex, -, -, hparams⟩ | ⟨hlt, -⟩⟩ | ⟨-, hparams | ⟨data, hparams⟩⟩
    · rw [hparams] at hnil
      cases hnil
    · exact ⟨hstart, by omega⟩
    · rw [hparams] at hnil
      cases hnil
    · rw [hparams] at hnil
      cases hnil
  · rintro ⟨hstart, hshort⟩ decoded hdecoded
    rcases decodeInput_cases hdecoded with ⟨-, ⟨hle, -⟩ | ⟨-, hparams⟩⟩ | ⟨hnot, -⟩
    · omega
    · exact hparams
    · exact absurd hstart hnot

/-- **Where calldata is decoded right**: a `transfer`, in lower case, with nothing after its
arguments; and a `transfer` without its first word, of which nothing is decoded. -/
theorem decoded_faithfully_iff {call : Calldata} (h : IsHexOf input call.bytes) :
    DecodedFaithfully input call ↔ Decodable input call := by
  cases call with
  | transfer recipient amount trailing => exact transfer_decoded_iff h
  | swap amountIn amountOutMin path recipient deadline trailing =>
    exact iff_of_false swap_not_decoded id
  | shortTransfer arguments hshort => exact short_decoded_iff rfl h
  | shortSwap arguments hshort =>
    refine iff_of_false (fun hall => ?_) id
    obtain ⟨hstart, -⟩ := (short_decoded_iff rfl h).mp hall
    exact absurd (selector_of_start rfl h hstart) (by decide)

/-- The transfer of one ether's worth that the source tests the decoder with. -/
def oneEther : Calldata := .transfer 0x742d35cc6634c0532925a3b8d4c9db7c4c4c4c4c 1000000000000000000 []

/-- It is decoded right. -/
theorem one_ether_decoded : DecodedFaithfully (hexEncode0x oneEther.bytes) oneEther :=
  (decoded_faithfully_iff (isHexOf_hexEncode0x oneEther.bytes)).mpr ⟨by decide +kernel, rfl⟩

/-- A swap of five units of one token for at least four of another. -/
def smallSwap : Calldata := .swap 5 4 [0x0a, 0x0b] 0x0c 1700000000 []

/-- **Placeholders for amounts**: what the decoder gives for this swap are not its amounts. -/
theorem small_swap_not_decoded :
    IsHexOf (hexEncode0x smallSwap.bytes) smallSwap.bytes ∧
      ¬ DecodedFaithfully (hexEncode0x smallSwap.bytes) smallSwap := by
  refine ⟨isHexOf_hexEncode0x smallSwap.bytes, ?_⟩
  unfold smallSwap
  exact swap_not_decoded

/-! ### Slippage -/

/-- Where no `amountOutMin` can be read, no protection is found. -/
theorem poorSlippageProtection_of_unreadable {strategy : SandwichStrategy} {valueWei : Option U128}
    {params : List DecodedParameter}
    (h : ∀ param ∈ params, param.name = "amountOutMin" → parseUint 128 param.value = none) :
    strategy.poorSlippageProtection valueWei params = true := by
  induction params with
  | nil => rfl
  | cons param params ih =>
    have ih := ih fun param hmem => h param (List.mem_cons_of_mem _ hmem)
    by_cases hname : param.name = "amountOutMin"
    · simp only [SandwichStrategy.poorSlippageProtection, hname, if_true, h param List.mem_cons_self hname, ih]
    · simp only [SandwichStrategy.poorSlippageProtection, hname, if_false, ih]

/-- **The slippage check is blind**: whatever calldata a transaction has, and whatever
`amountOutMin` is in it, the strategy takes it to be without protection. -/
theorem slippage_check_blind (strategy : SandwichStrategy) (valueWei : Option U128)
    (h : AbiDecoder.new.decodeInput input = .ok (some decoded)) :
    strategy.poorSlippageProtection valueWei decoded.parameters = true :=
  poorSlippageProtection_of_unreadable fun param hmem hname => (unreadable_amount h param hmem (.inr hname)).2

end Botmev.Mempool
