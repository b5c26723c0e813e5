import Botmev.Mempool.Parser

/-!
# Which transactions can be parsed

The call decoder slices the input string at fixed positions, which count bytes. The node's
own strings are hexadecimal; but the string is taken as it comes, and where a character of
several bytes lies across such a position, the slice panics. One transaction of this kind
takes the whole batch with it.

## What is proved

* `panics_decodeInput`: at which inputs the decoder panics.
* `parser_total_iff`: `parse_transaction` returns just for the other ones, and `parse_batch`
  returns the parseable transactions, in order, just for batches of those.
-/

namespace Botmev.Mempool

open Botmev.Rust Botmev.Library Botmev.Core

/-- `parse_batch`. -/
def parseBatch (decoder : AbiDecoder) (toLowercase : String → String) :
    List Value → Result (List ParsedTransaction)
  | [] => pure []
  | rawTx :: rawTransactions => do
    let parsed ← catchErr (parseTransaction decoder toLowercase rawTx)
    let rest ← parseBatch decoder toLowercase rawTransactions
    pure (parsed.toList ++ rest)

/-- The selector of `transfer`. -/
def transferSelector : String := "0xa9059cbb"

/-- The positions at which the decoder slices an input are between characters. -/
def Sliceable (input : String) : Prop :=
  10 ≤ input.utf8ByteSize →
    isCharBoundary input 10 = true ∧
      (transferSelector.toList <+: input.toList → 74 ≤ input.utf8ByteSize →
        isCharBoundary input 34 = true ∧ isCharBoundary input 74 = true)

theorem slice_ten_eq_ok_iff {input selector : String} (h : byteLength selector.toList = 10) :
    slice input 0 10 = .ok selector ↔ selector.toList <+: input.toList := by
  rw [slice_eq_ok_iff]
  constructor
  · rintro ⟨l, r, hs, hl, -⟩
    obtain rfl := byteLength_eq_zero_iff.mp hl
    exact ⟨r, hs.symm⟩
  · rintro ⟨r, hr⟩
    exact ⟨[], r, hr.symm, rfl, h⟩

/-- Of the parameters, only those of a `transfer` are sliced anew. -/
theorem panics_decodeParameters {input functionSignature : String} (h : isCharBoundary input 10 = true) :
    panics (AbiDecoder.decodeParameters input functionSignature) = true ↔
      functionSignature = transferSelector ∧ 74 ≤ input.utf8ByteSize ∧
        ¬ (isCharBoundary input 34 = true ∧ isCharBoundary input 74 = true) := by
  unfold AbiDecoder.decodeParameters
  split
  · simp only [transferSelector, true_and]
    split
    · rename_i hlen
      simp only [hlen, true_and, panics_bind, panics_slice input (by omega : 34 ≤ 74), panics_sliceFrom, pure,
        Except.pure, panics_ok, Bool.false_eq_true, and_false, exists_false, or_false]
      cases isCharBoundary input 34 <;> cases isCharBoundary input 74 <;> simp
    · rename_i hlen
      simp [hlen, pure, Except.pure]
  · simp [transferSelector, pure, Except.pure]
  · rename_i hne _
    refine iff_of_false ?_ fun htransfer => hne htransfer.1
    simp [panics_bind, panics_sliceFrom, h, pure, Except.pure]

theorem panics_decodeGenericFunction {input : String} (h : isCharBoundary input 10 = true) :
    panics (AbiDecoder.decodeGenericFunction input) = false := by
  rw [← Bool.not_eq_true, AbiDecoder.decodeGenericFunction]
  simp [panics_bind, panics_slice, panics_sliceFrom, h, pure, Except.pure]

/-- **Where the decoder panics.** -/
theorem panics_decodeInput (input : String) :
    panics (AbiDecoder.new.decodeInput input) = true ↔ ¬ Sliceable input := by
  rw [AbiDecoder.decodeInput, Sliceable]
  split
  · rename_i hlt
    simp only [panics_ok, pure, Except.pure]
    refine iff_of_false (by simp) fun h => h fun hle => absurd hle (by omega)
  · rename_i hlt
    have hlen : 10 ≤ input.utf8ByteSize := by omega
    by_cases hb : isCharBoundary input 10 = true
    · obtain ⟨functionSignature, hf⟩ := (isOk_slice_iff (Nat.zero_le 10)).mpr ⟨isCharBoundary_zero input, hb⟩
      have hstart : functionSignature = transferSelector ↔ transferSelector.toList <+: input.toList := by
        rw [← slice_ten_eq_ok_iff rfl, hf, Except.ok.injEq]
      simp only [hf, ok_bind, hlen, hb, forall_const, true_and, ← hstart]
      rcases hlookup : AbiDecoder.new.functionSignatures.lookup functionSignature with _ | ⟨functionName, targetType⟩
      · have hne : functionSignature ≠ transferSelector := by
          rintro rfl
          cases hlookup
        simp only [hne, false_imp_iff, not_true_eq_false, iff_false, Bool.not_eq_true, panics_catchErr]
        exact panics_decodeGenericFunction hb
      · simp only [panics_bind, panics_decodeParameters hb, pure, Except.pure, panics_ok, Bool.false_eq_true,
          and_false, exists_false, or_false, Classical.not_imp]
    · simp [hlen, panics_bind, panics_slice, hb]

/-! ### Parsing -/

variable {toLowercase : String → String} {rawTx : Value}

/-- A transaction that is taken from the node has a hash and a sender, and its input can be
sliced. -/
def Parseable (rawTx : Value) : Prop :=
  (rawTx.getStr "hash").isSome = true → (rawTx.getStr "from").isSome = true →
    Sliceable ((rawTx.getStr "input").getD "0x")

/-- Fields are extracted from an object with a hash and a sender, and its input as it is. -/
theorem extractTransactionFields_cases (rawTx : Value) :
    (∃ transaction, extractTransactionFields rawTx = .ok transaction ∧
        (rawTx.getStr "hash").isSome = true ∧ (rawTx.getStr "from").isSome = true ∧
        transaction.input = (rawTx.getStr "input").getD "0x") ∨
      ∃ message, extractTransactionFields rawTx = .error (.err message) ∧
        ¬ ((rawTx.getStr "hash").isSome = true ∧ (rawTx.getStr "from").isSome = true) := by
  unfold extractTransactionFields
  rcases rawTx.getStr "hash" with _ | hash
  · exact .inr ⟨_, rfl, by simp⟩
  · rcases rawTx.getStr "from" with _ | fromAddress
    · exact .inr ⟨_, rfl, by simp⟩
    · exact .inl ⟨_, rfl, rfl, rfl, rfl⟩

theorem panics_decodeTransactionInput (transaction : Transaction) :
    panics (decodeTransactionInput .new transaction) = true ↔ ¬ Sliceable transaction.input := by
  unfold decodeTransactionInput
  split
  · rw [panics_map, panics_catchErr, panics_decodeInput]
  · rename_i hempty
    have hlen : transaction.input.utf8ByteSize < 10 := by
      by_cases hnil : transaction.input = ""
      · rw [hnil]
        decide
      · have hstart : transaction.input = "0x" := by
          by_contra hne
          exact hempty ⟨hnil, hne⟩
        rw [hstart]
        decide
    refine iff_of_false (by simp [pure, Except.pure]) fun h => h fun hle => ?_
    exact absurd hle (by omega)

/-- **Where the parser panics.** -/
theorem panics_parseTransaction (toLowercase : String → String) (rawTx : Value) :
    panics (parseTransaction .new toLowercase rawTx) = true ↔ ¬ Parseable rawTx := by
  rw [parseTransaction, panics_bind]
  rcases extractTransactionFields_cases rawTx with ⟨transaction, hok, hhash, hfrom, hinput⟩ | ⟨message, herr, hnone⟩
  · simp only [hok, panics_ok, Bool.false_eq_true, false_or, Except.ok.injEq, exists_eq_left', panics_bind,
      panics_decodeTransactionInput, pure, Except.pure, and_false, exists_false, or_false, Parseable, hhash,
      hfrom, forall_const, hinput]
  · simp only [herr, panics_err, Bool.false_eq_true, reduceCtorEq, false_and, exists_false, or_false, false_iff,
      not_not, Parseable]
    exact fun hhash hfrom => absurd ⟨hhash, hfrom⟩ hnone

/-- **A batch of such transactions** is parsed to the parseable ones, in order. -/
theorem parseBatch_eq_ok_iff (toLowercase : String → String) (rawTransactions : List Value) :
    parseBatch .new toLowercase rawTransactions =
        .ok (rawTransactions.filterMap fun rawTx => (parseTransaction .new toLowercase rawTx).toOption) ↔
      ∀ rawTx ∈ rawTransactions, Parseable rawTx := by
  induction rawTransactions with
  | nil => simp [parseBatch, pure, Except.pure]
  | cons rawTx rawTransactions ih =>
    have hpanics := panics_parseTransaction toLowercase rawTx
    simp only [parseBatch, List.filterMap_cons, List.forall_mem_cons, ← ih]
    rcases hparse : parseTransaction .new toLowercase rawTx with (message | message) | parsed
    · -- It is left out.
      simp only [hparse, panics_err, Bool.false_eq_true, false_iff, not_not] at hpanics
      simp only [catchErr, ok_bind, hpanics, true_and, Except.toOption]
      rcases parseBatch .new toLowercase rawTransactions with e | rest
      · rfl
      · rfl
    · simp only [hparse, panics_panic, true_iff] at hpanics
      exact iff_of_false (by simp [catchErr, bind, Except.bind]) fun h => hpanics h.1
    · simp only [hparse, panics_ok, Bool.false_eq_true, false_iff, not_not] at hpanics
      simp only [catchErr, ok_bind, hpanics, true_and, Except.toOption]
      rcases parseBatch .new toLowercase rawTransactions with e | rest
      · simp [bind, Except.bind]
      · simp [bind, Except.bind, pure, Except.pure]

/-- **The parser is total** just on these transactions, and a batch of them is parsed to the
parseable ones, in order. -/
theorem parser_total_iff (toLowercase : String → String) :
    (∀ rawTx, panics (parseTransaction .new toLowercase rawTx) = false ↔ Parseable rawTx) ∧
      ∀ rawTransactions,
        parseBatch .new toLowercase rawTransactions =
            .ok (rawTransactions.filterMap fun rawTx => (parseTransaction .new toLowercase rawTx).toOption) ↔
          ∀ rawTx ∈ rawTransactions, Parseable rawTx := by
  refine ⟨fun rawTx => ?_, parseBatch_eq_ok_iff toLowercase⟩
  rw [← Bool.not_eq_true, panics_parseTransaction, not_not]

/-- A pending transaction with this input. -/
def pendingTransaction (input : String) : Value :=
  .object [("hash", .string "0x01"), ("from", .string "0x02"), ("input", .string input)]

/-- **A slice through a character**: in this input, the tenth byte is the first of two of
the last character, and `parse_transaction` panics; so does `parse_batch`, whatever else is
in the batch. -/
theorem accented_input_panics :
    panics (parseTransaction .new id (pendingTransaction "0x1234567é")) = true ∧
      panics (parseBatch .new id [pendingTransaction "0x", pendingTransaction "0x1234567é"]) = true := by
  decide

end Botmev.Mempool
