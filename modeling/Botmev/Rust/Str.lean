import Botmev.Library.Numeral
import Botmev.Rust.Basic

/-!
# Rust strings

Reading and writing numbers and bytes. The primitives differ in the base they read, the
prefix they accept and what they make of an empty string, and the source uses all of
them on the same fields:

* `str::parse::<u64>()` and `::<u128>()` read decimal, with an optional `+`; they accept
  no `0x` and no empty string (`parseUint`).
* `U256::from_dec_str` reads decimal; the empty string is zero (`U256.fromDecStr`).
* `str::parse::<U256>()` reads *hexadecimal*, with at most one `0x`; the empty string is
  zero (`U256.fromStr`).

Strings are UTF-8: lengths and positions count bytes, and to slice at a position inside
a character is a panic.

## What is proved

* `splitAtByte_eq_some_iff`, `slice_eq_ok_iff`: slicing at positions in bytes.
* `hexBytes_hexEncode`: what bytes are written as denotes them.
* `parseUint_formatHex`, `fromDecStr_formatHex`: the decimal parsers read no `0x` string.
* `fromDecStr_getD_eq_iff`: `U256::from_dec_str`, with zero for what it does not read, and
  `str::parse::<U256>()` agree just on one digit after zeros, and on zeros after `0x`.
-/

namespace Botmev.Rust

open Botmev.Library

/-- The number of `w` bits that digits denote, if they are digits and it fits. -/
def parseDigits (w radix : ℕ) (cs : List Char) : Option (BitVec w) :=
  match Numeral.digits? radix cs with
  | some ds =>
    if Numeral.value radix ds < 2 ^ w then some (BitVec.ofNat w (Numeral.value radix ds)) else none
  | none => none

/-- `u{w}::from_str_radix(s, radix).ok()`. -/
def fromStrRadix (w radix : ℕ) (s : String) : Option (BitVec w) :=
  match s.toList with
  | [] => none
  | '+' :: [] => none
  | '+' :: cs => parseDigits w radix cs
  | cs => parseDigits w radix cs

/-- `s.parse::<u{w}>().ok()`. -/
def parseUint (w : ℕ) (s : String) : Option (BitVec w) := fromStrRadix w 10 s

/-- `s.strip_prefix("0x").unwrap_or(s)`. -/
def stripPrefix0x : List Char → List Char
  | '0' :: 'x' :: cs => cs
  | cs => cs

/-- `s.trim_start_matches("0x")`, which takes away every leading `0x`. -/
def trimStartMatches0x : List Char → List Char
  | '0' :: 'x' :: cs => trimStartMatches0x cs
  | cs => cs

/-- `U256::from_dec_str(s).ok()`. -/
def U256.fromDecStr (s : String) : Option U256 := parseDigits 256 10 s.toList

/-- `s.parse::<U256>().ok()`. -/
def U256.fromStr (s : String) : Option U256 :=
  let cs := stripPrefix0x s.toList
  if cs.length ≤ 64 then parseDigits 256 16 cs else none

/-- Two hexadecimal digits make a byte. -/
def hexBytes : List Char → Option Bytes
  | [] => some []
  | [_] => none
  | a :: b :: cs =>
    match Numeral.digit? 16 a, Numeral.digit? 16 b, hexBytes cs with
    | some hi, some lo, some bytes => some (UInt8.ofNat (16 * hi + lo) :: bytes)
    | _, _, _ => none

/-- `hex::decode(s.trim_start_matches("0x")).ok()`. -/
def hexDecode0x (s : String) : Option Bytes := hexBytes (trimStartMatches0x s.toList)

/-- `Bytes::from_str(s).ok()`. -/
def bytesFromStr (s : String) : Option Bytes := hexBytes (stripPrefix0x s.toList)

/-- A hexadecimal digit, in lower case. -/
def hexDigit (d : ℕ) : Char := if d < 10 then Char.ofNat (48 + d) else Char.ofNat (87 + d)

/-- `hex::encode(bytes)`. -/
def hexEncode (bytes : Bytes) : String :=
  String.ofList (bytes.flatMap fun b => [hexDigit (b.toNat / 16), hexDigit (b.toNat % 16)])

/-- `format!("0x{}", hex::encode(bytes))`. -/
def hexEncode0x (bytes : Bytes) : String := "0x" ++ hexEncode bytes

/-- `format!("0x{:x}", n)`. -/
def formatHex (n : ℕ) : String := "0x" ++ String.ofList (Nat.toDigits 16 n)

/-- `s.starts_with(start)`. -/
def startsWith (s start : String) : Bool := start.toList.isPrefixOf s.toList

/-- The characters up to a position in bytes and those from there on, if it is between
two characters. -/
def splitAtByte : ℕ → List Char → Option (List Char × List Char)
  | 0, cs => some ([], cs)
  | _ + 1, [] => none
  | n + 1, c :: cs =>
    if c.utf8Size ≤ n + 1 then (splitAtByte (n + 1 - c.utf8Size) cs).map fun (l, r) => (c :: l, r) else none

/-- `&s[start..]`. -/
def sliceFrom (s : String) (start : ℕ) : Result String :=
  match splitAtByte start s.toList with
  | some (_, cs) => .ok (String.ofList cs)
  | none => .error (.panic "byte index is not a char boundary")

/-- `&s[start..stop]`. -/
def slice (s : String) (start stop : ℕ) : Result String :=
  match splitAtByte stop s.toList with
  | some (cs, _) => sliceFrom (String.ofList cs) start
  | none => .error (.panic "byte index is not a char boundary")

/-- What is before the first occurrence of a pattern, and what is after it. -/
def splitFirst (pattern : List Char) : List Char → Option (List Char × List Char)
  | [] => if pattern = [] then some ([], []) else none
  | c :: cs =>
    if pattern.isPrefixOf (c :: cs) then some ([], (c :: cs).drop pattern.length)
    else (splitFirst pattern cs).map fun (before, after) => (c :: before, after)

/-- `s.contains(pattern)`. -/
def contains (s pattern : String) : Bool := (splitFirst pattern.toList s.toList).isSome

/-- `s.split(pattern).nth(1)`, for a pattern that is not empty. -/
def splitSecond (s pattern : String) : Option String :=
  (splitFirst pattern.toList s.toList).map fun (_, after) =>
    String.ofList (((splitFirst pattern.toList after).map Prod.fst).getD after)

/-- `char::is_whitespace`. -/
def isWhitespace (c : Char) : Bool :=
  let n := c.toNat
  decide (9 ≤ n ∧ n ≤ 13 ∨ 0x2000 ≤ n ∧ n ≤ 0x200a ∨
    n ∈ [0x20, 0x85, 0xa0, 0x1680, 0x2028, 0x2029, 0x202f, 0x205f, 0x3000])

/-- `s.trim()`. -/
def trim (s : String) : String :=
  String.ofList ((s.toList.dropWhile isWhitespace).reverse.dropWhile isWhitespace).reverse

theorem parseDigits_eq_some_iff {w radix : ℕ} {cs : List Char} {n : BitVec w} :
    parseDigits w radix cs = some n ↔
      ∃ ds, Numeral.digits? radix cs = some ds ∧ Numeral.value radix ds = n.toNat := by
  rcases hds : Numeral.digits? radix cs with _ | ds
  · simp [parseDigits, hds]
  · simp only [parseDigits, hds, Option.ite_none_right_eq_some, Option.some.injEq, exists_eq_left']
    constructor
    · rintro ⟨hlt, rfl⟩
      rw [BitVec.toNat_ofNat, Nat.mod_eq_of_lt hlt]
    · intro hv
      refine ⟨hv ▸ n.isLt, ?_⟩
      rw [hv, BitVec.ofNat_toNat, BitVec.setWidth_eq]

theorem parseDigits_eq_none {w radix : ℕ} {c : Char} {cs : List Char} (hc : Numeral.digit? radix c = none)
    (hm : c ∈ cs) : parseDigits w radix cs = none := by
  simp only [parseDigits, Numeral.digits?_eq_none hc hm]

theorem hexEncode0x_eq_nil_iff {bytes : Bytes} : hexEncode0x bytes = hexEncode0x [] ↔ bytes = [] := by
  constructor
  · intro h
    rcases bytes with _ | ⟨b, bytes⟩
    · rfl
    · have h := congrArg (List.length ∘ String.toList) h
      simp [hexEncode0x, hexEncode] at h
  · rintro rfl
    rfl

/-! ### Bytes -/

/-- How many bytes characters are in UTF-8. -/
def byteLength (cs : List Char) : ℕ := (cs.map Char.utf8Size).sum

@[simp] theorem byteLength_nil : byteLength [] = 0 := rfl

@[simp] theorem byteLength_cons (c : Char) (cs : List Char) :
    byteLength (c :: cs) = c.utf8Size + byteLength cs := by
  simp only [byteLength, List.map_cons, List.sum_cons]

@[simp] theorem byteLength_append (cs cs' : List Char) :
    byteLength (cs ++ cs') = byteLength cs + byteLength cs' := by
  simp only [byteLength, List.map_append, List.sum_append]

theorem utf8ByteSize_ofList (cs : List Char) : (String.ofList cs).utf8ByteSize = byteLength cs := by
  induction cs with
  | nil => rfl
  | cons c cs ih =>
    have hcons : String.ofList (c :: cs) = String.singleton c ++ String.ofList cs := by
      apply String.toList_inj.mp
      simp
    rw [hcons, String.utf8ByteSize_append, ih, String.utf8ByteSize_singleton, byteLength_cons]

/-- The length of a string is that of its characters in UTF-8. -/
theorem utf8ByteSize_eq (s : String) : s.utf8ByteSize = byteLength s.toList := by
  rw [← utf8ByteSize_ofList, String.ofList_toList]

theorem byteLength_of_one {cs : List Char} (h : ∀ c ∈ cs, c.utf8Size = 1) :
    byteLength cs = cs.length := by
  induction cs with
  | nil => rfl
  | cons c cs ih =>
    rw [byteLength_cons, h c List.mem_cons_self, ih fun x hx => h x (List.mem_cons_of_mem c hx),
      List.length_cons, Nat.add_comm]

/-- **To split at a position** is to find the characters that are so many bytes. -/
theorem splitAtByte_eq_some_iff {n : ℕ} {cs l r : List Char} :
    splitAtByte n cs = some (l, r) ↔ cs = l ++ r ∧ byteLength l = n := by
  induction cs generalizing n l r with
  | nil =>
    cases n with
    | zero =>
      simp only [splitAtByte, Option.some.injEq, Prod.mk.injEq, List.nil_eq, List.append_eq_nil_iff]
      constructor
      · rintro ⟨rfl, rfl⟩
        exact ⟨⟨rfl, rfl⟩, rfl⟩
      · rintro ⟨⟨rfl, rfl⟩, -⟩
        exact ⟨rfl, rfl⟩
    | succ n =>
      simp only [splitAtByte, List.nil_eq, List.append_eq_nil_iff, reduceCtorEq, false_iff]
      rintro ⟨⟨rfl, -⟩, h⟩
      cases h
  | cons c cs ih =>
    have hpos := c.utf8Size_pos
    cases n with
    | zero =>
      simp only [splitAtByte, Option.some.injEq, Prod.mk.injEq]
      constructor
      · rintro ⟨rfl, rfl⟩
        exact ⟨rfl, rfl⟩
      · rintro ⟨heq, hlen⟩
        rcases l with _ | ⟨d, l⟩
        · exact ⟨rfl, heq⟩
        · have hd := d.utf8Size_pos
          rw [byteLength_cons] at hlen
          omega
    | succ n =>
      rw [splitAtByte]
      constructor
      · intro h
        obtain ⟨hle, h⟩ := Option.ite_none_right_eq_some.mp h
        obtain ⟨⟨l', r'⟩, hsplit, heq⟩ := Option.map_eq_some_iff.mp h
        obtain ⟨rfl, hlen⟩ := ih.mp hsplit
        cases heq
        exact ⟨rfl, by rw [byteLength_cons]; omega⟩
      · rintro ⟨heq, hlen⟩
        rcases l with _ | ⟨d, l⟩
        · cases hlen
        · rw [List.cons_append, List.cons.injEq] at heq
          obtain ⟨rfl, rfl⟩ := heq
          rw [byteLength_cons] at hlen
          rw [if_pos (by omega), ih.mpr ⟨rfl, by omega⟩]
          rfl

/-- `s.is_char_boundary(n)`. -/
def isCharBoundary (s : String) (n : ℕ) : Bool := (splitAtByte n s.toList).isSome

theorem isCharBoundary_iff {s : String} {n : ℕ} :
    isCharBoundary s n = true ↔ ∃ l r, s.toList = l ++ r ∧ byteLength l = n := by
  rw [isCharBoundary, Option.isSome_iff_exists, Prod.exists]
  simp only [splitAtByte_eq_some_iff]

theorem byteLength_eq_zero_iff {cs : List Char} : byteLength cs = 0 ↔ cs = [] := by
  rcases cs with _ | ⟨c, cs⟩
  · simp
  · have hpos := c.utf8Size_pos
    simp only [byteLength_cons, reduceCtorEq, iff_false]
    omega

@[simp] theorem isCharBoundary_zero (s : String) : isCharBoundary s 0 = true :=
  isCharBoundary_iff.mpr ⟨[], s.toList, rfl, rfl⟩

theorem sliceFrom_eq_ok_iff {s t : String} {start : ℕ} :
    sliceFrom s start = .ok t ↔ ∃ l, s.toList = l ++ t.toList ∧ byteLength l = start := by
  rw [sliceFrom]
  constructor
  · intro h
    split at h
    · rename_i l r hsplit
      cases h
      rw [String.toList_ofList]
      exact ⟨l, splitAtByte_eq_some_iff.mp hsplit⟩
    · cases h
  · rintro ⟨l, hl⟩
    rw [splitAtByte_eq_some_iff.mpr hl]
    simp only [String.ofList_toList]

theorem slice_eq_ok_iff {s t : String} {start stop : ℕ} :
    slice s start stop = .ok t ↔
      ∃ l r, s.toList = l ++ t.toList ++ r ∧ byteLength l = start ∧
        byteLength (l ++ t.toList) = stop := by
  rw [slice]
  constructor
  · intro h
    split at h
    · rename_i cs r hsplit
      obtain ⟨l, hl, hstart⟩ := sliceFrom_eq_ok_iff.mp h
      rw [String.toList_ofList] at hl
      obtain ⟨hs, hstop⟩ := splitAtByte_eq_some_iff.mp hsplit
      exact ⟨l, r, hl ▸ hs, hstart, hl ▸ hstop⟩
    · cases h
  · rintro ⟨l, r, hs, hstart, hstop⟩
    rw [splitAtByte_eq_some_iff.mpr ⟨hs, hstop⟩]
    exact sliceFrom_eq_ok_iff.mpr ⟨l, String.toList_ofList, hstart⟩

/-- To slice from a position is to panic, unless it is between two characters. -/
theorem panics_sliceFrom (s : String) (start : ℕ) :
    panics (sliceFrom s start) = !isCharBoundary s start := by
  rw [sliceFrom, isCharBoundary]
  split <;> rename_i hsplit <;> simp [hsplit]

theorem isOk_slice_iff {s : String} {start stop : ℕ} (h : start ≤ stop) :
    (∃ t, slice s start stop = .ok t) ↔ isCharBoundary s start = true ∧ isCharBoundary s stop = true := by
  simp only [slice_eq_ok_iff, isCharBoundary_iff]
  constructor
  · rintro ⟨t, l, r, hs, hstart, hstop⟩
    exact ⟨⟨l, t.toList ++ r, by rw [hs, List.append_assoc], hstart⟩, l ++ t.toList, r, hs, hstop⟩
  · rintro ⟨⟨l, r, hs, hstart⟩, l', r', hs', hstop⟩
    rcases List.append_eq_append_iff.mp (hs ▸ hs') with ⟨m, rfl, -⟩ | ⟨m, rfl, -⟩
    · exact ⟨String.ofList m, l, r', by rw [String.toList_ofList, hs'], hstart, by rwa [String.toList_ofList]⟩
    · rw [byteLength_append] at hstart
      obtain rfl : m = [] := byteLength_eq_zero_iff.mp (by omega)
      exact ⟨"", l', r', by simpa using hs', by simpa using hstart, by simpa using hstop⟩

/-- To slice between two positions is to panic, unless both are between two characters. -/
theorem panics_slice {start stop : ℕ} (s : String) (h : start ≤ stop) :
    panics (slice s start stop) = !(isCharBoundary s start && isCharBoundary s stop) := by
  have hiff := isOk_slice_iff (s := s) h
  rw [← Bool.and_eq_true] at hiff
  have herr : ∀ message, slice s start stop ≠ .error (.err message) := by
    intro message hs
    rw [slice] at hs
    split at hs
    · rw [sliceFrom] at hs
      split at hs <;> cases hs
    · cases hs
  rcases hs : slice s start stop with (message | message) | t
  · exact absurd hs (herr message)
  · simp only [hs, reduceCtorEq, exists_false, false_iff, Bool.not_eq_true] at hiff
    rw [hiff]
    rfl
  · rw [hiff.mp ⟨t, hs⟩]
    rfl

/-- Slicing a string of one-byte characters is slicing the list of them. -/
theorem slice_of_ascii {s : String} {start stop : ℕ} (h : ∀ c ∈ s.toList, c.utf8Size = 1)
    (hle : start ≤ stop)
    (hlen : stop ≤ s.toList.length) :
    slice s start stop = .ok (String.ofList ((s.toList.take stop).drop start)) := by
  have hstart : byteLength (s.toList.take start) = start := by
    rw [byteLength_of_one fun c hc => h c (List.mem_of_mem_take hc), List.length_take]
    omega
  have hstop : byteLength (s.toList.take stop) = stop := by
    rw [byteLength_of_one fun c hc => h c (List.mem_of_mem_take hc), List.length_take]
    omega
  have hsplit : s.toList.take start ++ (s.toList.take stop).drop start = s.toList.take stop := by
    have htake : s.toList.take start = (s.toList.take stop).take start := by
      rw [List.take_take, Nat.min_eq_left hle]
    rw [htake, List.take_append_drop]
  refine slice_eq_ok_iff.mpr ⟨s.toList.take start, s.toList.drop stop, ?_, hstart, ?_⟩
  · rw [String.toList_ofList, hsplit, List.take_append_drop]
  · rw [String.toList_ofList, hsplit, hstop]

theorem sliceFrom_of_ascii {s : String} {start : ℕ} (h : ∀ c ∈ s.toList, c.utf8Size = 1)
    (hlen : start ≤ s.toList.length) : sliceFrom s start = .ok (String.ofList (s.toList.drop start)) := by
  refine sliceFrom_eq_ok_iff.mpr ⟨s.toList.take start, ?_, ?_⟩
  · rw [String.toList_ofList, List.take_append_drop]
  · rw [byteLength_of_one fun c hc => h c (List.mem_of_mem_take hc), List.length_take]
    omega

theorem utf8Size_of_digit? {c : Char} {d : ℕ} (h : Numeral.digit? 16 c = some d) : c.utf8Size = 1 := by
  rw [Char.utf8Size_eq_one_iff]
  simp only [Numeral.digit?] at h
  split_ifs at h with hdigit _ hlower _ hupper _
  · have hrange : decide ('0'.val ≤ c.val) = true ∧ decide (c.val ≤ '9'.val) = true := Bool.and_eq_true_iff.mp hdigit
    exact UInt32.le_trans (of_decide_eq_true hrange.2) (by decide)
  · have hrange : decide ('a'.val ≤ c.val) = true ∧ decide (c.val ≤ 'z'.val) = true := Bool.and_eq_true_iff.mp hlower
    exact UInt32.le_trans (of_decide_eq_true hrange.2) (by decide)
  · have hrange : 'A'.val ≤ c.val ∧ c.val ≤ 'Z'.val := of_decide_eq_true hupper
    exact UInt32.le_trans hrange.2 (by decide)
  · omega

theorem hexBytes_eq_some {cs : List Char} {bytes : Bytes} (h : hexBytes cs = some bytes) :
    cs.length = 2 * bytes.length ∧ ∀ c ∈ cs, c.utf8Size = 1 := by
  fun_induction hexBytes cs generalizing bytes with
  | case1 =>
    cases h
    simp
  | case2 => cases h
  | case3 a b cs hi lo bytes' hcs hb ha ih =>
    cases h
    obtain ⟨hlen, hsize⟩ := ih hcs
    simp only [List.length_cons, List.forall_mem_cons]
    exact ⟨by omega, utf8Size_of_digit? ha, utf8Size_of_digit? hb, hsize⟩
  | case4 => cases h

theorem hexBytes_eq_cons_iff {cs : List Char} {x : UInt8} {xs : Bytes} :
    hexBytes cs = some (x :: xs) ↔
      ∃ a b cs' hi lo, cs = a :: b :: cs' ∧ Numeral.digit? 16 a = some hi ∧
        Numeral.digit? 16 b = some lo ∧
        x = UInt8.ofNat (16 * hi + lo) ∧ hexBytes cs' = some xs := by
  constructor
  · intro h
    fun_cases hexBytes cs with
    | case1 => cases h
    | case2 => cases h
    | case3 a b cs' hi lo bytes hbytes hb ha =>
      rw [hexBytes, ha, hb, hbytes] at h
      cases h
      exact ⟨a, b, cs', hi, lo, rfl, ha, hb, rfl, hbytes⟩
    | case4 a b cs' hnone =>
      rw [hexBytes] at h
      split at h
      · rename_i hi lo bytes ha hb hbytes
        exact absurd hbytes (hnone hi lo bytes ha hb)
      · cases h
  · rintro ⟨a, b, cs', hi, lo, rfl, ha, hb, rfl, hcs⟩
    rw [hexBytes, ha, hb, hcs]

theorem hexBytes_hexEncode (bytes : Bytes) : hexBytes (hexEncode bytes).toList = some bytes := by
  have hdigit : ∀ d < 16, Numeral.digit? 16 (hexDigit d) = some d := by decide
  rw [hexEncode, String.toList_ofList]
  induction bytes with
  | nil => rfl
  | cons x xs ih =>
    have hx := x.toNat_lt
    rw [List.flatMap_cons]
    refine hexBytes_eq_cons_iff.mpr ⟨_, _, _, _, _, rfl, hdigit _ (by omega), hdigit _ (by omega), ?_, ih⟩
    rw [Nat.div_add_mod, UInt8.ofNat_toNat]

theorem hexBytes_eq_append_iff {cs : List Char} {xs ys : Bytes} :
    hexBytes cs = some (xs ++ ys) ↔ ∃ a b, cs = a ++ b ∧ hexBytes a = some xs ∧ hexBytes b = some ys := by
  induction xs generalizing cs with
  | nil =>
    constructor
    · intro h
      exact ⟨[], cs, rfl, rfl, h⟩
    · rintro ⟨a, b, rfl, ha, hb⟩
      have hlen := (hexBytes_eq_some ha).1
      obtain rfl : a = [] := List.length_eq_zero_iff.mp (by simpa using hlen)
      exact hb
  | cons x xs ih =>
    rw [List.cons_append, hexBytes_eq_cons_iff]
    constructor
    · rintro ⟨c, d, cs', hi, lo, rfl, hc, hd, rfl, hcs⟩
      obtain ⟨a, b, rfl, ha, hb⟩ := ih.mp hcs
      exact ⟨c :: d :: a, b, rfl, hexBytes_eq_cons_iff.mpr ⟨c, d, a, hi, lo, rfl, hc, hd, rfl, ha⟩, hb⟩
    · rintro ⟨a, b, rfl, ha, hb⟩
      obtain ⟨c, d, a', hi, lo, rfl, hc, hd, rfl, ha'⟩ := hexBytes_eq_cons_iff.mp ha
      exact ⟨c, d, a' ++ b, hi, lo, rfl, hc, hd, rfl, ih.mpr ⟨a', b, rfl, ha', hb⟩⟩

/-- Bytes are the digits of a number in base 256, and their hexadecimal digits are its digits
in base 16. -/
theorem digits?_of_hexBytes {cs : List Char} {bytes : Bytes} (h : hexBytes cs = some bytes) :
    ∃ ds, Numeral.digits? 16 cs = some ds ∧
      Numeral.value 16 ds = Numeral.value 256 (bytes.map UInt8.toNat) := by
  induction bytes generalizing cs with
  | nil =>
    have hlen := (hexBytes_eq_some h).1
    obtain rfl : cs = [] := List.length_eq_zero_iff.mp (by simpa using hlen)
    exact ⟨[], rfl, rfl⟩
  | cons x xs ih =>
    obtain ⟨a, b, cs', hi, lo, rfl, ha, hb, rfl, hcs⟩ := hexBytes_eq_cons_iff.mp h
    obtain ⟨ds, hds, hv⟩ := ih hcs
    refine ⟨hi :: lo :: ds, Numeral.digits?_cons.mpr ⟨hi, lo :: ds, ha,
      Numeral.digits?_cons.mpr ⟨lo, ds, hb, hds, rfl⟩, rfl⟩, ?_⟩
    have hhi := Numeral.lt_of_digit? ha
    have hlo := Numeral.lt_of_digit? hb
    have hbyte : (UInt8.ofNat (16 * hi + lo)).toNat = 16 * hi + lo := by
      rw [UInt8.toNat_ofNat']
      exact Nat.mod_eq_of_lt (by omega)
    have hpow : 16 ^ ds.length = 256 ^ xs.length := by
      rw [Numeral.length_of_digits? hds, (hexBytes_eq_some hcs).1, Nat.pow_mul]
    rw [List.map_cons, Numeral.value_cons, Numeral.value_cons, Numeral.value_cons, hv, hbyte,
      List.length_cons,
      List.length_map, Nat.pow_succ, hpow, Nat.add_mul, Nat.add_assoc]
    congr 1
    rw [Nat.mul_comm 16 hi, Nat.mul_assoc, Nat.mul_comm 16]

theorem value_bigEndian (n m : ℕ) :
    Numeral.value 256 (((List.range n).map fun i => UInt8.ofNat (m / 2 ^ (8 * (n - 1 - i)))).map UInt8.toNat) =
      m % 256 ^ n := by
  induction n with
  | zero => simp [Nat.mod_one]
  | succ n ih =>
    have htail : ((List.range n).map Nat.succ).map (fun i => UInt8.ofNat (m / 2 ^ (8 * (n + 1 - 1 - i)))) =
        (List.range n).map fun i => UInt8.ofNat (m / 2 ^ (8 * (n - 1 - i))) := by
      rw [List.map_map]
      refine List.map_congr_left fun i _ => ?_
      have hshift : n + 1 - 1 - i.succ = n - 1 - i := by omega
      rw [Function.comp_apply, hshift]
    have hhead : (UInt8.ofNat (m / 2 ^ (8 * (n + 1 - 1 - 0)))).toNat = m / 256 ^ n % 256 := by
      rw [UInt8.toNat_ofNat', Nat.add_sub_cancel, Nat.sub_zero, Nat.pow_mul]
    rw [List.range_succ_eq_map, List.map_cons, htail, List.map_cons, Numeral.value_cons, ih, hhead,
      List.length_map,
      List.length_map, List.length_range, Nat.mod_pow_succ, Nat.add_comm, Nat.mul_comm]

theorem value_toBigEndian (a : U256) : Numeral.value 256 (a.toBigEndian.map UInt8.toNat) = a.toNat := by
  rw [U256.toBigEndian, value_bigEndian 32 a.toNat]
  exact Nat.mod_eq_of_lt a.isLt

/-! ### Hexadecimal strings read as decimal -/

@[simp] theorem toList_formatHex (n : ℕ) : (formatHex n).toList = '0' :: 'x' :: Nat.toDigits 16 n := by
  simp [formatHex]

/-- `str::parse::<u64>()` and `::<u128>()` read no `0x` string. -/
@[simp] theorem parseUint_formatHex (w n : ℕ) : parseUint w (formatHex n) = none := by
  simp only [parseUint, fromStrRadix, toList_formatHex]
  exact parseDigits_eq_none (c := 'x') (by decide) (by simp)

@[simp] theorem fromDecStr_formatHex (n : ℕ) : U256.fromDecStr (formatHex n) = none := by
  rw [U256.fromDecStr, toList_formatHex]
  exact parseDigits_eq_none (c := 'x') (by decide) (by simp)

theorem trimStartMatches0x_of_digits {cs : List Char} {ds : List ℕ}
    (h : Numeral.digits? 16 cs = some ds) :
    trimStartMatches0x cs = cs := by
  unfold trimStartMatches0x
  split
  · rename_i cs
    rw [Numeral.digits?_eq_none (c := 'x') (by decide) (by simp)] at h
    cases h
  · rfl

/-- `u{w}::from_str_radix(s.trim_start_matches("0x"), 16)` reads what `format!("0x{:x}", n)`
writes, if it fits. -/
theorem fromStrRadix_formatHex {w n : ℕ} (h : n < 2 ^ w) :
    fromStrRadix w 16 (String.ofList (trimStartMatches0x (formatHex n).toList)) = some (BitVec.ofNat w n) := by
  obtain ⟨ds, hds, hv⟩ := Numeral.digits?_toDigits (by decide : 1 < 16) (by decide) n
  rw [toList_formatHex, trimStartMatches0x, trimStartMatches0x_of_digits hds, fromStrRadix,
    String.toList_ofList]
  split
  · rename_i hnil
    exact absurd hnil Nat.toDigits_ne_nil
  · rename_i hplus
    rw [hplus, Numeral.digits?_eq_none (c := '+') (by decide) (by simp)] at hds
    cases hds
  · rename_i hplus
    rw [hplus, Numeral.digits?_eq_none (c := '+') (by decide) (by simp)] at hds
    cases hds
  · rw [parseDigits_eq_some_iff, BitVec.toNat_ofNat, Nat.mod_eq_of_lt h]
    exact ⟨ds, hds, hv⟩

theorem fromStr_formatHex {n : ℕ} (h : n < 2 ^ 256) :
    U256.fromStr (formatHex n) = some (BitVec.ofNat 256 n) := by
  obtain ⟨ds, hds, hv⟩ := Numeral.digits?_toDigits (by decide : 1 < 16) (by decide) n
  have hlen : (Nat.toDigits 16 n).length ≤ 64 :=
    (Nat.length_toDigits_le_iff (by omega) (by omega)).mpr (by simpa only [Nat.reducePow] using h)
  rw [U256.fromStr, toList_formatHex]
  simp only [stripPrefix0x, if_pos hlen]
  rw [parseDigits_eq_some_iff, BitVec.toNat_ofNat, Nat.mod_eq_of_lt h]
  exact ⟨ds, hds, hv⟩

/-! ### Decimal strings read as hexadecimal -/

theorem stripPrefix0x_of_digits {cs : List Char} {ds : List ℕ} (h : Numeral.digits? 10 cs = some ds) :
    stripPrefix0x cs = cs := by
  unfold stripPrefix0x
  split
  · rename_i cs
    rw [Numeral.digits?_eq_none (c := 'x') (by decide) (by simp)] at h
    cases h
  · rfl

/-- **The radix drift**: where both `U256::from_dec_str` and `str::parse::<U256>()`
read a string, they read the same number just when it is below ten. -/
theorem fromStr_eq_fromDecStr_iff {s : String} {hex dec : U256} (hh : U256.fromStr s = some hex)
    (hd : U256.fromDecStr s = some dec) : hex = dec ↔ dec.toNat < 10 := by
  obtain ⟨ds, hds, hdec⟩ := parseDigits_eq_some_iff.mp hd
  simp only [U256.fromStr, stripPrefix0x_of_digits hds, Option.ite_none_right_eq_some] at hh
  obtain ⟨ds', hds', hhex⟩ := parseDigits_eq_some_iff.mp hh.2
  rw [Numeral.digits?_mono (by omega) hds, Option.some.injEq] at hds'
  subst hds'
  rw [← BitVec.toNat_inj, ← hhex, ← hdec]
  exact Numeral.value_eq_value_iff (by omega) (by omega) (Numeral.lt_of_digits? hds)

/-! ### Strings on which the bases agree -/

/-- Zeros and then at most one digit, or zeros after `0x`. -/
def radixFree (s : String) : Bool :=
  match s.toList with
  | '0' :: 'x' :: cs => cs.all (· == '0')
  | cs => cs.all Char.isDigit && cs.dropLast.all (· == '0')

/-- **Where the two parsers agree**: `U256::from_dec_str`, with zero for what it does not
read, gives what `str::parse::<U256>()` gives just on these strings. -/
theorem fromDecStr_getD_eq_iff {s : String} {n : U256} (h : U256.fromStr s = some n) :
    (U256.fromDecStr s).getD 0 = n ↔ radixFree s = true := by
  have hzero : (0 : U256) = n ↔ n.toNat = 0 := by
    rw [eq_comm, ← BitVec.toNat_inj]
    rfl
  unfold radixFree
  split
  · -- With a prefix, the decimal parser reads nothing.
    rename_i cs hs
    simp only [U256.fromStr, hs, stripPrefix0x, Option.ite_none_right_eq_some] at h
    obtain ⟨ds, hds, hv⟩ := parseDigits_eq_some_iff.mp h.2
    have hnone : U256.fromDecStr s = none := by
      rw [U256.fromDecStr, hs]
      exact parseDigits_eq_none (c := 'x') (by decide) (by simp)
    rw [hnone, Option.getD_none, hzero, ← hv, Numeral.value_eq_zero_iff (by omega) hds]
    simp
  · rename_i hs
    have hstrip : stripPrefix0x s.toList = s.toList := by
      unfold stripPrefix0x
      split
      · rename_i cs hcs
        exact absurd hcs (hs cs)
      · rfl
    by_cases hdec : ∀ c ∈ s.toList, c.isDigit = true
    · -- Of digits, both read a number, and the larger base no smaller one.
      obtain ⟨ds, hds⟩ : ∃ ds, Numeral.digits? 10 s.toList = some ds :=
        Numeral.exists_digits? fun c hc => Numeral.digit?_ten_ne_none_iff.mpr (hdec c hc)
      have hh := h
      simp only [U256.fromStr, hstrip, Option.ite_none_right_eq_some] at hh
      obtain ⟨ds', hds', hv⟩ := parseDigits_eq_some_iff.mp hh.2
      rw [Numeral.digits?_mono (by omega) hds, Option.some.injEq] at hds'
      have hlt : Numeral.value 10 ds < 2 ^ 256 :=
        Nat.lt_of_le_of_lt (Numeral.value_mono (by omega) ds) (hds' ▸ hv ▸ n.isLt)
      have hread : U256.fromDecStr s = some (BitVec.ofNat 256 (Numeral.value 10 ds)) := by
        rw [U256.fromDecStr, parseDigits_eq_some_iff]
        exact ⟨ds, hds, by rw [BitVec.toNat_ofNat, Nat.mod_eq_of_lt hlt]⟩
      rw [hread, Option.getD_some, eq_comm, fromStr_eq_fromDecStr_iff h hread, BitVec.toNat_ofNat,
        Nat.mod_eq_of_lt hlt, Numeral.value_lt_base_iff (by omega) hds]
      simpa using fun _ => hdec
    · -- Of anything else, the decimal parser reads nothing, and the number is not zero.
      obtain ⟨c, hc, hcdec⟩ : ∃ c ∈ s.toList, ¬ c.isDigit = true := by simpa using hdec
      have hnone : U256.fromDecStr s = none :=
        parseDigits_eq_none (not_not.mp fun hne => hcdec (Numeral.digit?_ten_ne_none_iff.mp hne)) hc
      simp only [U256.fromStr, hstrip, Option.ite_none_right_eq_some] at h
      obtain ⟨ds, hds, hv⟩ := parseDigits_eq_some_iff.mp h.2
      rw [hnone, Option.getD_none, hzero, ← hv, Numeral.value_eq_zero_iff (by omega) hds]
      refine iff_of_false (fun hall => hcdec ?_) (fun hall => ?_)
      · rw [hall c hc]
        rfl
      · simp only [Bool.and_eq_true, List.all_eq_true] at hall
        exact hdec hall.1

end Botmev.Rust
