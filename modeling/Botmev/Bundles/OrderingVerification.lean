import Botmev.Bundles.Inclusion
import Botmev.Library.Subsequence

/-!
# Verifying the order of a bundle

`verify_transaction_ordering` of the execution tracker (`bundle/execution_tracker.rs`), which
`check_block_for_bundle` asks, for a detailed analysis, about a bundle that is in the block.

The positions in the block are collected in the order in which the transactions are expected, and
so are the hashes: the "actual order" is the expected one, whatever the block's is.

The differences are those of `i32` values, which overflow only in a block of more than 2³¹
transactions; in a build without overflow checks, which has its own value here, they wrap then.

## What is proved

* `verifyTransactionOrdering_total`: a result is reported, up to that size in every build and
  without overflow checks for every block.
* `isCorrectOrder_iff_subsequence`: the order is called correct just when the expected transactions
  are a subsequence of the block's.
* `actualOrder_eq_expected`: the actual order is the expected one.
* `actualOrder_iff_in_order`: so it is the block's just when the expected one is.
* `present_of_found`: the tracker asks only about transactions that are in the block.
-/

namespace Botmev.Bundles

open Botmev.Rust Botmev.Library

/-- "Bundle ordering verification result". -/
structure OrderingVerification where
  /-- Whether the positions ascend. -/
  isCorrectOrder : Bool
  /-- The hashes that were expected. -/
  expectedOrder : List String
  /-- Those that are in the block. -/
  actualOrder : List String
  /-- How far each is from its place in the bundle. -/
  positionDifferences : List (BitVec 32)
  deriving DecidableEq, Repr

/-- The hashes of a block's transactions. -/
def BlockInfo.hashes (block : BlockInfo) : List String := block.transactions.map (·.hash)

/-- `block.transactions.iter().position(|tx| tx.hash == *expected_hash)`. -/
def BlockInfo.position (block : BlockInfo) (expectedHash : String) : Option ℕ :=
  block.transactions.findIdx? fun tx => tx.hash == expectedHash

/-- The transactions that are in the block, each with its position. -/
def actualPositions (block : BlockInfo) (expectedTxHashes : List String) : List (ℕ × String) :=
  expectedTxHashes.filterMap fun expectedHash =>
    (block.position expectedHash).map fun pos => (pos, expectedHash)

/-- `actual_pos as i32 - expected_idx as i32`. -/
def positionDifference (overflowChecks : Bool) (actualPos expectedIdx : ℕ) : Result (BitVec 32) :=
  let actualPos := BitVec.ofNat 32 actualPos
  let expectedIdx := BitVec.ofNat 32 expectedIdx
  if overflowChecks && BitVec.ssubOverflow actualPos expectedIdx then
    .error (.panic "attempt to subtract with overflow")
  else .ok (actualPos - expectedIdx)

/-- The differences, from an index on. -/
def positionDifferences (overflowChecks : Bool) : ℕ → List ℕ → Result (List (BitVec 32))
  | _, [] => .ok []
  | expectedIdx, actualPos :: rest => do
    let difference ← positionDifference overflowChecks actualPos expectedIdx
    let differences ← positionDifferences overflowChecks (expectedIdx + 1) rest
    pure (difference :: differences)

/-- `verify_transaction_ordering`. -/
def verifyTransactionOrdering (overflowChecks : Bool) (block : BlockInfo) (expectedTxHashes : List String) :
    Result OrderingVerification := do
  let found := actualPositions block expectedTxHashes
  let differences ← positionDifferences overflowChecks 0 (found.map Prod.fst)
  pure
    { isCorrectOrder := ascending (found.map Prod.fst)
      expectedOrder := expectedTxHashes
      actualOrder := found.map Prod.snd
      positionDifferences := differences }

variable {overflowChecks : Bool} {block : BlockInfo} {expectedTxHashes : List String}

/-! ### The differences -/

theorem toInt_ofNat_of_lt {pos : ℕ} (h : pos < 2 ^ 31) : (BitVec.ofNat 32 pos).toInt = pos := by
  have hmod : (BitVec.ofNat 32 pos).toNat = pos := by
    rw [BitVec.toNat_ofNat]
    omega
  rw [BitVec.toInt_eq_toNat_of_lt (by omega), hmod]

theorem positionDifference_ok (overflowChecks : Bool) (actualPos expectedIdx : ℕ)
    (h : overflowChecks = false ∨ actualPos < 2 ^ 31 ∧ expectedIdx < 2 ^ 31) :
    ∃ difference, positionDifference overflowChecks actualPos expectedIdx = .ok difference := by
  refine ⟨_, if_neg ?_⟩
  rcases h with rfl | ⟨hpos, hidx⟩
  · exact Bool.false_ne_true
  · rw [Bool.and_eq_true, BitVec.ssubOverflow, toInt_ofNat_of_lt hpos, toInt_ofNat_of_lt hidx]
    simp only [Bool.or_eq_true, decide_eq_true_eq]
    omega

theorem positionDifferences_ok (overflowChecks : Bool) (positions : List ℕ) (expectedIdx : ℕ)
    (h : overflowChecks = false ∨ (∀ pos ∈ positions, pos < 2 ^ 31) ∧ expectedIdx + positions.length ≤ 2 ^ 31) :
    ∃ differences, positionDifferences overflowChecks expectedIdx positions = .ok differences := by
  induction positions generalizing expectedIdx with
  | nil => exact ⟨[], rfl⟩
  | cons pos rest ih =>
    rw [List.forall_mem_cons, List.length_cons] at h
    obtain ⟨difference, hfirst⟩ := positionDifference_ok overflowChecks pos expectedIdx
      (h.imp_right fun ⟨hpos, hlen⟩ => ⟨hpos.1, by omega⟩)
    obtain ⟨differences, hrest⟩ := ih (expectedIdx + 1)
      (h.imp_right fun ⟨hpos, hlen⟩ => ⟨hpos.2, by omega⟩)
    refine ⟨difference :: differences, ?_⟩
    rw [positionDifferences, hfirst, hrest]
    rfl

/-! ### Positions -/

theorem position_of_mem {expectedHash : String} (h : expectedHash ∈ block.hashes) :
    block.position expectedHash = some (block.hashes.idxOf expectedHash) := by
  obtain ⟨tx, htx, hhash⟩ := List.mem_map.mp h
  rw [BlockInfo.position, BlockInfo.hashes, List.idxOf, List.findIdx_map]
  exact List.findIdx?_eq_some_of_exists ⟨tx, htx, beq_iff_eq.mpr hhash⟩

theorem actualPositions_of_present (hpresent : ∀ hash ∈ expectedTxHashes, hash ∈ block.hashes) :
    actualPositions block expectedTxHashes =
      expectedTxHashes.map fun hash => (block.hashes.idxOf hash, hash) := by
  rw [actualPositions, ← List.filterMap_eq_map]
  refine List.filterMap_congr fun hash hhash => ?_
  rw [position_of_mem (hpresent hash hhash)]
  rfl

/-- What is reported, if anything is, of transactions that are all in the block. -/
theorem verifyTransactionOrdering_of_present (hpresent : ∀ hash ∈ expectedTxHashes, hash ∈ block.hashes)
    {verification : OrderingVerification}
    (h : verifyTransactionOrdering overflowChecks block expectedTxHashes = .ok verification) :
    verification.isCorrectOrder = ascending (expectedTxHashes.map fun hash => block.hashes.idxOf hash) ∧
      verification.expectedOrder = expectedTxHashes ∧ verification.actualOrder = expectedTxHashes := by
  obtain ⟨differences, -, h⟩ := bind_eq_ok_iff.mp h
  cases h
  simp [actualPositions_of_present hpresent, Function.comp_def]

/-- **Something is reported** of transactions that are all in the block and pairwise distinct: without
overflow checks always, and with them up to so many transactions. -/
theorem verifyTransactionOrdering_total (hexpected : expectedTxHashes.Nodup)
    (hpresent : ∀ hash ∈ expectedTxHashes, hash ∈ block.hashes)
    (hsize : overflowChecks = false ∨ block.transactions.length ≤ 2 ^ 31) :
    ∃ verification, verifyTransactionOrdering overflowChecks block expectedTxHashes = .ok verification := by
  have hlength : block.hashes.length = block.transactions.length := List.length_map _
  have hlen : expectedTxHashes.length ≤ block.hashes.length :=
    (List.subperm_of_subset hexpected hpresent).length_le
  have hpos : ∀ pos ∈ expectedTxHashes.map (fun hash => block.hashes.idxOf hash), pos < block.hashes.length := by
    rintro _ hpos
    obtain ⟨hash, hhash, rfl⟩ := List.mem_map.mp hpos
    exact List.idxOf_lt_length_of_mem (hpresent hash hhash)
  rw [← hlength] at hsize
  obtain ⟨differences, hdifferences⟩ := positionDifferences_ok overflowChecks
    (expectedTxHashes.map fun hash => block.hashes.idxOf hash) 0
    (hsize.imp_right fun hsize => ⟨fun pos h => Nat.lt_of_lt_of_le (hpos pos h) hsize, by
      rw [List.length_map, Nat.zero_add]
      exact Nat.le_trans hlen hsize⟩)
  refine ⟨_, bind_eq_ok_iff.mpr ⟨differences, ?_, rfl⟩⟩
  rw [actualPositions_of_present hpresent, List.map_map]
  exact hdifferences

/-- **The actual order** that is reported is the expected one. -/
theorem actualOrder_eq_expected (hpresent : ∀ hash ∈ expectedTxHashes, hash ∈ block.hashes)
    {verification : OrderingVerification}
    (h : verifyTransactionOrdering overflowChecks block expectedTxHashes = .ok verification) :
    verification.actualOrder = verification.expectedOrder := by
  obtain ⟨-, hexpected, hactual⟩ := verifyTransactionOrdering_of_present hpresent h
  rw [hactual, hexpected]

/-- **The tracker asks** only about transactions that are in the block, which are all of the bundle. -/
theorem present_of_found {bundle : Bundle} {blockNumber foundIn : U64} {answer : Option Value}
    {hashes : List String}
    (h : checkBlockForBundle blockNumber bundle answer = some (some (foundIn, hashes))) :
    ∃ block, blockByNumber blockNumber answer = some block ∧ hashes = bundle.allTransactions.map (·.hashHex) ∧
      ∀ hash ∈ hashes, hash ∈ block.hashes := by
  rw [checkBlockForBundle] at h
  obtain ⟨block, hblock, h⟩ := Option.bind_eq_some_iff.mp h
  refine ⟨block, hblock, ?_⟩
  dsimp only at h
  split at h
  · next hall =>
    cases h
    have hself : foundHashes bundle block = bundle.allTransactions.map (·.hashHex) :=
      List.filter_sublist.eq_of_length hall
    refine ⟨hself, fun hash hhash => ?_⟩
    obtain ⟨tx, htx, heq⟩ := List.any_eq_true.mp (List.mem_filter.mp hhash).2
    exact List.mem_map.mpr ⟨tx, htx, beq_iff_eq.mp heq⟩
  · cases h

/-- **The order is called correct** just when the expected transactions are a subsequence of the
block's; and something is reported, without overflow checks always and with them up to 2³¹
transactions in the block. -/
theorem isCorrectOrder_iff_subsequence (overflowChecks : Bool) (block : BlockInfo)
    (expectedTxHashes : List String)
    (hblock : block.hashes.Nodup) (hexpected : expectedTxHashes.Nodup)
    (hpresent : ∀ hash ∈ expectedTxHashes, hash ∈ block.hashes) :
    (∀ verification, verifyTransactionOrdering overflowChecks block expectedTxHashes = .ok verification →
        (verification.isCorrectOrder = true ↔ expectedTxHashes.Sublist block.hashes)) ∧
      (overflowChecks = false ∨ block.transactions.length ≤ 2 ^ 31 →
        ∃ verification, verifyTransactionOrdering overflowChecks block expectedTxHashes = .ok verification) := by
  refine ⟨fun verification h => ?_, verifyTransactionOrdering_total hexpected hpresent⟩
  rw [(verifyTransactionOrdering_of_present hpresent h).1]
  exact ascending_idxOf_iff hblock hpresent

/-- A block of transactions with the hashes. -/
def blockOf (hashes : List String) : BlockInfo := ⟨1000, hashes.map TransactionInfo.mk⟩

/-- A block in which another transaction is between those of a bundle. -/
def spacedBlock : BlockInfo := blockOf ["0xaaa", "0xccc", "0xbbb"]

/-- The bundle is in order there. -/
theorem spaced_bundle_in_order :
    (∀ verification, verifyTransactionOrdering true spacedBlock ["0xaaa", "0xbbb"] = .ok verification →
        (verification.isCorrectOrder = true ↔ ["0xaaa", "0xbbb"].Sublist spacedBlock.hashes)) ∧
      (true = false ∨ spacedBlock.transactions.length ≤ 2 ^ 31 →
        ∃ verification,
          verifyTransactionOrdering true spacedBlock ["0xaaa", "0xbbb"] = .ok verification) :=
  isCorrectOrder_iff_subsequence true _ _ (by decide) (by decide) (by decide)

/-- **The actual order is the block's**, and the order is called correct just when it is the expected
one, only where the expected transactions already are a subsequence of the block's. -/
theorem actualOrder_iff_in_order (overflowChecks : Bool) (block : BlockInfo) (expectedTxHashes : List String)
    (hblock : block.hashes.Nodup) (hpresent : ∀ hash ∈ expectedTxHashes, hash ∈ block.hashes)
    (verification : OrderingVerification)
    (h : verifyTransactionOrdering overflowChecks block expectedTxHashes = .ok verification) :
    (verification.actualOrder = block.hashes.filter (fun hash => decide (hash ∈ expectedTxHashes)) ∧
        (verification.isCorrectOrder = true ↔ verification.actualOrder = verification.expectedOrder)) ↔
      expectedTxHashes.Sublist block.hashes := by
  obtain ⟨hcorrect, hexpected, hactual⟩ := verifyTransactionOrdering_of_present hpresent h
  rw [hcorrect, hexpected, hactual, ascending_idxOf_iff hblock hpresent, eq_comm, filter_mem_eq_iff hblock]
  exact and_iff_left_of_imp fun hsub => iff_of_true hsub rfl

/-- A report with its actual order in the block's. -/
theorem spaced_bundle_actual_order :
    ((⟨true, ["0xaaa", "0xbbb"], ["0xaaa", "0xbbb"], [0, 1]⟩ : OrderingVerification).actualOrder =
          spacedBlock.hashes.filter (fun hash => decide (hash ∈ ["0xaaa", "0xbbb"])) ∧
        (true = true ↔ ["0xaaa", "0xbbb"] = ["0xaaa", "0xbbb"])) ↔
      ["0xaaa", "0xbbb"].Sublist spacedBlock.hashes :=
  actualOrder_iff_in_order true spacedBlock ["0xaaa", "0xbbb"] (by decide) (by decide)
    ⟨true, ["0xaaa", "0xbbb"], ["0xaaa", "0xbbb"], [0, 1]⟩ (by decide)

/-- **A bundle in the wrong order** is reported with the order that was expected, which is not the
block's, and yet the order is not called correct. -/
theorem reversed_bundle_reported :
    ∃ verification,
      verifyTransactionOrdering true (blockOf ["0xaaa", "0xbbb"]) ["0xbbb", "0xaaa"] = .ok verification ∧
      verification.actualOrder = ["0xbbb", "0xaaa"] ∧
      (blockOf ["0xaaa", "0xbbb"]).hashes.filter (fun hash => decide (hash ∈ ["0xbbb", "0xaaa"])) ≠
        verification.actualOrder ∧
      verification.actualOrder = verification.expectedOrder ∧ verification.isCorrectOrder = false :=
  ⟨⟨false, ["0xbbb", "0xaaa"], ["0xbbb", "0xaaa"], [1, BitVec.ofInt 32 (-1)]⟩, by decide, rfl,
    by decide, rfl, rfl⟩

end Botmev.Bundles
