import Botmev.Core.StateManager
import Botmev.Core.TimeTexts
import Botmev.Library.LastWrite
import Botmev.Library.Reading

/-!
# Saving and loading pending transactions

`save_pending_transaction` and `load_pending_transactions` (`mev-core/src/persistence.rs`). A row replaces
the one with the same hash. SQLite has signed numbers of 64 bits, and `rusqlite` does not take others; times
are saved as texts, and the rows that are pending are loaded in the order of these texts, the latest first.

In which order rows with the same text come is a parameter, and so is what `chrono` reads from a text.

## What is proved

* `load_toRow`: what is saved in a row is loaded from it.
* `lookup_saveAll`: what is in the table after any number of transactions were saved.
* `save_of_not_storable`: a transaction whose numbers SQLite has not is refused.
* `newest_loaded`: what is loaded then.
-/

namespace Botmev.Core.Persistence

open Botmev.Rust Botmev.Library

/-- A `PendingTransactionState`, with all that is saved of it. -/
structure StoredTransaction extends PendingTransactionState where
  /-- `hash`. -/
  hash : String
  /-- `gas_price`. -/
  gasPrice : U64
  /-- `gas_limit`. -/
  gasLimit : U64
  /-- `value`. -/
  value : String
  /-- `data`. -/
  data : String
  /-- `block_number`. -/
  blockNumber : Option U64
  /-- `block_hash`. -/
  blockHash : Option String
  deriving DecidableEq

/-- A row of `pending_transactions`. -/
structure TransactionRow where
  /-- `hash TEXT PRIMARY KEY`. -/
  hash : String
  /-- `from_address TEXT NOT NULL`. -/
  fromAddress : String
  /-- `to_address TEXT`. -/
  toAddress : Option String
  /-- `nonce INTEGER NOT NULL`. -/
  nonce : ℤ
  /-- `gas_price INTEGER NOT NULL`. -/
  gasPrice : ℤ
  /-- `gas_limit INTEGER NOT NULL`. -/
  gasLimit : ℤ
  /-- `value TEXT NOT NULL`. -/
  value : String
  /-- `data TEXT NOT NULL`. -/
  data : String
  /-- `first_seen DATETIME NOT NULL`. -/
  firstSeen : Text
  /-- `last_seen DATETIME NOT NULL`. -/
  lastSeen : Text
  /-- `seen_count INTEGER NOT NULL`. -/
  seenCount : ℤ
  /-- `block_number INTEGER`. -/
  blockNumber : Option ℤ
  /-- `block_hash TEXT`. -/
  blockHash : Option String
  /-- `status TEXT NOT NULL`. -/
  status : String

/-! ### Rows -/

/-- A `u64` as a parameter of a statement. -/
def toSql (n : U64) : Result ℤ :=
  if n.toNat < 2 ^ 63 then .ok n.toNat else .error (.err "out of range integral type conversion attempted")

/-- `row.get(i)`, for an unsigned number. -/
def fromSql (w : ℕ) (n : ℤ) : Result (BitVec w) :=
  if 0 ≤ n ∧ n < 2 ^ w then .ok (BitVec.ofInt w n) else .error (.err "Integer out of range")

/-- A column that may be `NULL`. -/
def nullable {α β : Type} (f : α → Result β) : Option α → Result (Option β)
  | some a => some <$> f a
  | none => pure none

/-- `format!("{:?}", tx.status)`. -/
def statusText : TransactionStatus → String
  | .pending => "Pending"
  | .included => "Included"
  | .dropped => "Dropped"
  | .replaced => "Replaced"

/-- The status of a text. -/
def statusOf (statusStr : String) : TransactionStatus :=
  if statusStr = "Included" then .included
  else if statusStr = "Dropped" then .dropped
  else if statusStr = "Replaced" then .replaced
  else .pending

/-- The parameters of `INSERT OR REPLACE INTO pending_transactions`. -/
def StoredTransaction.toRow (tx : StoredTransaction) : Result TransactionRow := do
  let nonce ← toSql tx.nonce
  let gasPrice ← toSql tx.gasPrice
  let gasLimit ← toSql tx.gasLimit
  let blockNumber ← nullable toSql tx.blockNumber
  pure
    { hash := tx.hash, fromAddress := tx.fromAddress, toAddress := tx.toAddress, nonce, gasPrice, gasLimit
      value := tx.value, data := tx.data, firstSeen := toRfc3339 tx.firstSeen, lastSeen := toRfc3339 tx.lastSeen
      seenCount := tx.seenCount.toNat, blockNumber, blockHash := tx.blockHash, status := statusText tx.status }

section Loading

variable (parseFromRfc3339 : Text → Except String DateTime)

/-- `chrono::DateTime::parse_from_rfc3339(text).unwrap()`. -/
def parseTime (text : Text) : Result DateTime :=
  match parseFromRfc3339 text with
  | .ok time => .ok time
  | .error e => .error (.panic ("called `Result::unwrap()` on an `Err` value: " ++ e))

/-- What is loaded from a row. -/
def TransactionRow.load (row : TransactionRow) : Result StoredTransaction := do
  let nonce ← fromSql 64 row.nonce
  let gasPrice ← fromSql 64 row.gasPrice
  let gasLimit ← fromSql 64 row.gasLimit
  let firstSeen ← parseTime parseFromRfc3339 row.firstSeen
  let lastSeen ← parseTime parseFromRfc3339 row.lastSeen
  let seenCount ← fromSql 32 row.seenCount
  let blockNumber ← nullable (fromSql 64) row.blockNumber
  pure
    { hash := row.hash, fromAddress := row.fromAddress, toAddress := row.toAddress, nonce, gasPrice, gasLimit
      value := row.value, data := row.data, firstSeen, lastSeen, seenCount, blockNumber
      blockHash := row.blockHash, status := statusOf row.status }

/-! ### The table -/

/-- `pending_transactions`. -/
abbrev TransactionTable := Table String TransactionRow

/-- `ORDER BY first_seen DESC`. -/
structure LatestFirst where
  /-- The rows in this order. -/
  order : List TransactionRow → List TransactionRow
  /-- All of them come. -/
  perm : ∀ rows, (order rows).Perm rows
  /-- None comes before one that is later. -/
  sorted : ∀ rows, (order rows).Pairwise fun row row' => ¬ row.firstSeen < row'.firstSeen

/-- `save_pending_transaction`. -/
def savePendingTransaction (table : TransactionTable) (tx : StoredTransaction) : Result TransactionTable := do
  let row ← tx.toRow
  pure (table.insert tx.hash row)

/-- `load_pending_transactions`. -/
def loadPendingTransactions (latestFirst : LatestFirst) (table : TransactionTable) (limit : U64) :
    Result (List StoredTransaction) := do
  let limit ← toSql limit
  let rows := (table.entries.map Sigma.snd).filter fun row => row.status = "Pending"
  ((latestFirst.order rows).take limit.toNat).mapM (TransactionRow.load parseFromRfc3339)

/-- After some transactions were saved, of which some were not taken. -/
def saveAll (txs : List StoredTransaction) : TransactionTable :=
  txs.foldl (fun table tx => (savePendingTransaction table tx).toOption.getD table) ∅

end Loading

/-! ### What should be loaded -/

/-- The numbers of the transaction are those that SQLite has. -/
structure Storable (tx : StoredTransaction) : Prop where
  nonce : tx.nonce.toNat < 2 ^ 63
  gasPrice : tx.gasPrice.toNat < 2 ^ 63
  gasLimit : tx.gasLimit.toNat < 2 ^ 63
  blockNumber : ∀ n ∈ tx.blockNumber, n.toNat < 2 ^ 63

/-- The year when it was seen has four digits, and `chrono` reads its times back. -/
structure TimesKept (parseFromRfc3339 : Text → Except String DateTime) (tx : StoredTransaction) : Prop where
  inYears : InYears tx.firstSeen
  firstSeen : parseFromRfc3339 (toRfc3339 tx.firstSeen) = .ok tx.firstSeen
  lastSeen : parseFromRfc3339 (toRfc3339 tx.lastSeen) = .ok tx.lastSeen

/-- It is saved if there is a row of it. -/
def saved (tx : StoredTransaction) : Option (String × StoredTransaction) :=
  if tx.toRow.isOk then some (tx.hash, tx) else none

/-- The transaction with this hash, as it was saved last. -/
def lastSaved (txs : List StoredTransaction) (hash : String) : Option StoredTransaction := lastWrite saved txs hash

/-- **The newest transactions that are pending**, as they were saved last, and no more than the limit. -/
structure NewestPending (txs : List StoredTransaction) (limit : ℕ) (loaded : List StoredTransaction) : Prop where
  /-- They are pending, and as they were saved last. -/
  current : ∀ tx ∈ loaded, lastSaved txs tx.hash = some tx ∧ tx.status = .pending
  /-- None comes twice. -/
  nodup : (loaded.map (·.hash)).Nodup
  /-- The newest come first. -/
  newestFirst : loaded.Pairwise fun tx tx' => tx'.firstSeen ≤ tx.firstSeen
  /-- There are no more than the limit. -/
  length_le : loaded.length ≤ limit
  /-- What is left out is older, and there are as many as the limit. -/
  leftOut : ∀ tx, lastSaved txs tx.hash = some tx → tx.status = .pending → tx ∉ loaded →
    loaded.length = limit ∧ ∀ tx' ∈ loaded, tx.firstSeen ≤ tx'.firstSeen

variable {parseFromRfc3339 : Text → Except String DateTime} {tx : StoredTransaction} {row : TransactionRow}
  {txs : List StoredTransaction} {hash : String}

/-! ### A row -/

theorem toSql_eq_ok_iff {n : U64} {m : ℤ} : toSql n = .ok m ↔ n.toNat < 2 ^ 63 ∧ m = n.toNat := by
  rw [toSql]
  split
  · rename_i hlt
    simp only [Except.ok.injEq, hlt, true_and]
    exact eq_comm
  · rename_i hlarge
    simp only [reduceCtorEq, hlarge, false_and]

theorem fromSql_natCast {w : ℕ} (n : BitVec w) : fromSql w n.toNat = .ok n := by
  have hlt : (n.toNat : ℤ) < 2 ^ w := by exact_mod_cast n.isLt
  rw [fromSql, if_pos ⟨Int.natCast_nonneg _, hlt⟩]
  simp

theorem statusOf_statusText (status : TransactionStatus) : statusOf (statusText status) = status := by
  cases status <;> decide

theorem statusText_eq_pending_iff {status : TransactionStatus} :
    statusText status = "Pending" ↔ status = .pending := by
  cases status <;> decide

theorem toRow_eq_ok (h : tx.toRow = .ok row) :
    row.hash = tx.hash ∧ row.firstSeen = toRfc3339 tx.firstSeen ∧ row.status = statusText tx.status := by
  simp only [StoredTransaction.toRow, bind_eq_ok_iff] at h
  obtain ⟨_, -, _, -, _, -, _, -, h⟩ := h
  cases h
  exact ⟨rfl, rfl, rfl⟩

theorem exists_toSql_iff {n : U64} : (∃ m, toSql n = .ok m) ↔ n.toNat < 2 ^ 63 := by
  simp only [toSql_eq_ok_iff, exists_and_left, exists_eq, and_true]

theorem exists_nullable_iff {α β : Type} {f : α → Result β} {column : Option α} :
    (∃ value, nullable f column = .ok value) ↔ ∀ a ∈ column, ∃ b, f a = .ok b := by
  rcases column with _ | a
  · simp [nullable, pure, Except.pure]
  · simp [nullable, exists_map_ok_iff]

theorem exists_of_nullable_eq_error {α β : Type} {f : α → Result β} {column : Option α} {e : Failure}
    (h : nullable f column = .error e) : ∃ a ∈ column, f a = .error e := by
  rcases column with _ | a
  · cases h
  · refine ⟨a, rfl, ?_⟩
    rcases hf : f a with e' | b
    · rw [nullable, hf] at h
      cases h
      rfl
    · rw [nullable, hf] at h
      cases h

/-- What is in a column that may be null is read from it. -/
theorem nullable_fromSql {column : Option U64} {value : Option ℤ} (h : nullable toSql column = .ok value) :
    nullable (fromSql 64) value = .ok column := by
  rcases column with _ | n
  · cases h
    rfl
  · rcases hn : toSql n with e | m
    · rw [nullable, hn] at h
      cases h
    · rw [nullable, hn] at h
      cases h
      obtain ⟨-, rfl⟩ := toSql_eq_ok_iff.mp hn
      rw [nullable, fromSql_natCast]
      rfl

/-- **There is a row** if the numbers are those that SQLite has. -/
theorem exists_toRow_iff : (∃ row, tx.toRow = .ok row) ↔ Storable tx := by
  simp only [StoredTransaction.toRow, exists_bind_ok_iff, exists_and_right, exists_toSql_iff,
    exists_nullable_iff, pure, Except.pure, Except.ok.injEq, exists_eq', and_true]
  constructor
  · rintro ⟨hnonce, hgasPrice, hgasLimit, hblock⟩
    exact ⟨hnonce, hgasPrice, hgasLimit, hblock⟩
  · rintro ⟨hnonce, hgasPrice, hgasLimit, hblock⟩
    exact ⟨hnonce, hgasPrice, hgasLimit, hblock⟩

theorem toSql_eq_error {n : U64} {e : Failure} (h : toSql n = .error e) :
    e = .err "out of range integral type conversion attempted" := by
  rw [toSql] at h
  split at h
  · cases h
  · exact (Except.error.inj h).symm

theorem toRow_eq_error {e : Failure} (h : tx.toRow = .error e) :
    e = .err "out of range integral type conversion attempted" := by
  simp only [StoredTransaction.toRow, bind_eq_error_iff] at h
  rcases h with h | ⟨_, -, h | ⟨_, -, h | ⟨_, -, h | ⟨_, -, h⟩⟩⟩⟩
  · exact toSql_eq_error h
  · exact toSql_eq_error h
  · exact toSql_eq_error h
  · obtain ⟨n, -, hn⟩ := exists_of_nullable_eq_error h
    exact toSql_eq_error hn
  · cases h

/-- **Refused**: what SQLite has no numbers for is not saved. -/
theorem save_of_not_storable (h : ¬ Storable tx) (table : TransactionTable) :
    savePendingTransaction table tx = .error (.err "out of range integral type conversion attempted") := by
  rw [savePendingTransaction]
  rcases hrow : tx.toRow with e | row
  · rw [toRow_eq_error hrow]
    rfl
  · exact absurd (exists_toRow_iff.mp ⟨row, hrow⟩) h

/-- **What is saved in a row is loaded from it.** -/
theorem load_toRow (htimes : TimesKept parseFromRfc3339 tx) (h : tx.toRow = .ok row) :
    row.load parseFromRfc3339 = .ok tx := by
  simp only [StoredTransaction.toRow, bind_eq_ok_iff, toSql_eq_ok_iff] at h
  obtain ⟨_, ⟨-, rfl⟩, _, ⟨-, rfl⟩, _, ⟨-, rfl⟩, blockNumber, hblock, h⟩ := h
  cases h
  simp only [TransactionRow.load, fromSql_natCast, parseTime, htimes.firstSeen, htimes.lastSeen,
    nullable_fromSql hblock, ok_bind, statusOf_statusText]
  rfl

/-! ### The table -/

/-- **What is in the table** is the row of what was saved last. -/
theorem lookup_saveAll (txs : List StoredTransaction) (hash : String) :
    (saveAll txs).lookup hash = (lastSaved txs hash).bind fun tx => tx.toRow.toOption := by
  induction txs using List.reverseRecOn with
  | nil => rfl
  | append_singleton txs tx ih =>
    rw [saveAll, List.foldl_append, List.foldl_cons, List.foldl_nil, ← saveAll, lastSaved, lastWrite_concat,
      ← lastSaved]
    rcases hrow : tx.toRow with failure | row
    · simp only [savePendingTransaction, saved, hrow, Except.isOk, Except.toBool, Bool.false_eq_true, if_false,
        overwrite_none]
      exact ih
    · simp only [savePendingTransaction, saved, hrow, Except.isOk, Except.toBool, if_true, ok_bind]
      change ((saveAll txs).insert tx.hash row).lookup hash = _
      rw [lookup_insert, ih]
      by_cases hhash : tx.hash = hash
      · simp [overwrite, hhash, hrow, Except.toOption]
      · simp [overwrite, hhash]

theorem of_lastSaved (h : lastSaved txs hash = some tx) : tx ∈ txs ∧ tx.hash = hash := by
  obtain ⟨before, e, after, htxs, hsaved, -⟩ := lastWrite_eq_some_iff.mp h
  rw [saved] at hsaved
  split at hsaved
  · cases hsaved
    exact ⟨htxs ▸ List.mem_append_right _ List.mem_cons_self, rfl⟩
  · cases hsaved

theorem isOk_of_lastSaved (h : lastSaved txs hash = some tx) : tx.toRow.isOk = true := by
  obtain ⟨before, e, after, -, hsaved, -⟩ := lastWrite_eq_some_iff.mp h
  rw [saved] at hsaved
  split at hsaved
  · rename_i hok
    cases hsaved
    exact hok
  · cases hsaved

/-- The rows that are pending. -/
def pendingRows (table : TransactionTable) : List TransactionRow :=
  (table.entries.map Sigma.snd).filter fun row => row.status = "Pending"

/-- A row is pending just if it is that of a transaction that is, as it was saved last. -/
theorem mem_pendingRows_iff : row ∈ pendingRows (saveAll txs) ↔
    ∃ tx, lastSaved txs tx.hash = some tx ∧ tx.toRow = .ok row ∧ tx.status = .pending := by
  simp only [pendingRows, List.mem_filter, List.mem_map, decide_eq_true_eq]
  constructor
  · rintro ⟨⟨⟨hash, row⟩, hentry, rfl⟩, hpending⟩
    have hlookup := Table.lookup_eq_some_iff.mpr hentry
    rw [lookup_saveAll] at hlookup
    obtain ⟨tx, hlast, hrow⟩ := Option.bind_eq_some_iff.mp hlookup
    obtain ⟨-, rfl⟩ := of_lastSaved hlast
    rcases htx : tx.toRow with failure | row'
    · rw [htx] at hrow
      cases hrow
    · rw [htx] at hrow
      cases hrow
      exact ⟨tx, hlast, htx, statusText_eq_pending_iff.mp ((toRow_eq_ok htx).2.2 ▸ hpending)⟩
  · rintro ⟨tx, hlast, hrow, hpending⟩
    have hlookup : (saveAll txs).lookup tx.hash = some row := by
      rw [lookup_saveAll, hlast, Option.bind_some, hrow]
      rfl
    refine ⟨⟨⟨tx.hash, row⟩, Table.lookup_eq_some_iff.mp hlookup, rfl⟩, ?_⟩
    rw [(toRow_eq_ok hrow).2.2, hpending]
    rfl

theorem nodup_hashes : ((pendingRows (saveAll txs)).map (·.hash)).Nodup := by
  have hkeys : (saveAll txs).entries.map (fun e => e.2.hash) = (saveAll txs).keys := by
    refine List.map_congr_left fun e he => ?_
    obtain ⟨hash, row⟩ := e
    have hlookup := Table.lookup_eq_some_iff.mpr he
    rw [lookup_saveAll] at hlookup
    obtain ⟨tx, hlast, hrow⟩ := Option.bind_eq_some_iff.mp hlookup
    obtain ⟨-, rfl⟩ := of_lastSaved hlast
    rcases htx : tx.toRow with failure | row'
    · rw [htx] at hrow
      cases hrow
    · rw [htx] at hrow
      cases hrow
      exact (toRow_eq_ok htx).1
  have hall : ((saveAll txs).entries.map Sigma.snd).map (·.hash) = (saveAll txs).keys := by
    rw [List.map_map]
    exact hkeys
  have hsublist : ((pendingRows (saveAll txs)).map (·.hash)).Sublist (saveAll txs).keys := by
    rw [← hall]
    exact List.filter_sublist.map _
  exact hsublist.nodup (saveAll txs).keys_nodup

/-! ### What is loaded -/

/-- The rows that are pending, the latest first, and the transaction of each. -/
structure RowsOf (txs : List StoredTransaction) (rows : List TransactionRow)
    (txOf : TransactionRow → StoredTransaction) : Prop where
  mem : ∀ {tx row}, lastSaved txs tx.hash = some tx → tx.toRow = .ok row →
    tx.status = .pending → row ∈ rows
  lastSaved : ∀ row ∈ rows, lastSaved txs (txOf row).hash = some (txOf row)
  toRow : ∀ row ∈ rows, (txOf row).toRow = .ok row
  status : ∀ row ∈ rows, (txOf row).status = .pending
  sorted : rows.Pairwise fun row row' => ¬ row.firstSeen < row'.firstSeen
  nodup : (rows.map (·.hash)).Nodup

theorem exists_rowsOf (txs : List StoredTransaction) (latestFirst : LatestFirst) :
    ∃ txOf, RowsOf txs (latestFirst.order (pendingRows (saveAll txs))) txOf := by
  have hperm := latestFirst.perm (pendingRows (saveAll txs))
  have hinhabited : Nonempty StoredTransaction :=
    ⟨⟨⟨"", none, 0, 0, 0, 0, .pending⟩, "", 0, 0, "", "", none, none⟩⟩
  have hexists (row : TransactionRow) (hrow : row ∈ latestFirst.order (pendingRows (saveAll txs))) :
      ∃ tx, lastSaved txs tx.hash = some tx ∧ tx.toRow = .ok row ∧ tx.status = .pending :=
    mem_pendingRows_iff.mp (hperm.mem_iff.mp hrow)
  choose! txOf hlast hrow hpending using hexists
  exact ⟨txOf, fun hlast hrow hpending => hperm.mem_iff.mpr (mem_pendingRows_iff.mpr ⟨_, hlast, hrow, hpending⟩),
    hlast, hrow, hpending, latestFirst.sorted _, (hperm.map _).nodup_iff.mpr nodup_hashes⟩

section RowsOf

variable {rows : List TransactionRow} {txOf : TransactionRow → StoredTransaction} {row' : TransactionRow}
  (h : RowsOf txs rows txOf) (htimes : ∀ tx ∈ txs, TimesKept parseFromRfc3339 tx)

include h htimes

/-- **Each row** is loaded as its transaction. -/
theorem load_of_mem (hrow : row ∈ rows) : row.load parseFromRfc3339 = .ok (txOf row) :=
  load_toRow (htimes _ (of_lastSaved (h.lastSaved row hrow)).1) (h.toRow row hrow)

theorem firstSeen_le (hrow : row ∈ rows) (hrow' : row' ∈ rows) (hnot : ¬ row.firstSeen < row'.firstSeen) :
    (txOf row').firstSeen ≤ (txOf row).firstSeen := by
  by_contra hlater
  have hyear := (htimes (txOf row) (of_lastSaved (h.lastSaved row hrow)).1).inYears
  have hyear' := (htimes (txOf row') (of_lastSaved (h.lastSaved row' hrow')).1).inYears
  rw [(toRow_eq_ok (h.toRow row hrow)).2.1, (toRow_eq_ok (h.toRow row' hrow')).2.1] at hnot
  exact hnot (toRfc3339_lt hyear hyear' (not_le.mp hlater))

theorem exists_row (hlast : lastSaved txs tx.hash = some tx) (hpending : tx.status = .pending) :
    ∃ row ∈ rows, txOf row = tx := by
  obtain ⟨row, hrow⟩ := exists_ok_of_isOk (isOk_of_lastSaved hlast)
  have hmem := h.mem hlast hrow hpending
  refine ⟨row, hmem, Except.ok.inj ((load_of_mem h htimes hmem).symm.trans ?_)⟩
  exact load_toRow (htimes tx (of_lastSaved hlast).1) hrow

/-- **The first rows** are those of the newest transactions. -/
theorem newestPending_take (limit : ℕ) : NewestPending txs limit ((rows.take limit).map txOf) := by
  have htaken {row : TransactionRow} (hrow : row ∈ rows.take limit) : row ∈ rows := List.mem_of_mem_take hrow
  constructor
  case current =>
    intro tx htx
    obtain ⟨row, hrow, rfl⟩ := List.mem_map.mp htx
    exact ⟨h.lastSaved row (htaken hrow), h.status row (htaken hrow)⟩
  case nodup =>
    have hhashes : ((rows.take limit).map txOf).map (·.hash) = (rows.take limit).map (·.hash) := by
      rw [List.map_map]
      exact List.map_congr_left fun row hrow => (toRow_eq_ok (h.toRow row (htaken hrow))).1.symm
    rw [hhashes]
    exact h.nodup.sublist ((List.take_sublist _ _).map _)
  case newestFirst =>
    rw [List.pairwise_map]
    refine List.Pairwise.imp_of_mem ?_ (h.sorted.sublist (List.take_sublist limit rows))
    exact fun hrow hrow' hnot => firstSeen_le h htimes (htaken hrow) (htaken hrow') hnot
  case length_le =>
    rw [List.length_map]
    exact List.length_take_le _ _
  case leftOut =>
    intro tx hlast hpending hnot
    obtain ⟨row, hmem, rfl⟩ := exists_row h htimes hlast hpending
    have hsorted := h.sorted
    rw [← List.take_append_drop limit rows, List.pairwise_append] at hsorted
    have hdropped : row ∈ rows.drop limit := by
      rw [← List.take_append_drop limit rows] at hmem
      exact (List.mem_append.mp hmem).resolve_left fun htake => hnot (List.mem_map_of_mem htake)
    constructor
    · have hlength := List.length_pos_of_mem hdropped
      rw [List.length_drop] at hlength
      rw [List.length_map, List.length_take]
      omega
    · intro tx' htx'
      obtain ⟨row', hrow', rfl⟩ := List.mem_map.mp htx'
      exact firstSeen_le h htimes (htaken hrow') hmem (hsorted.2.2 row' hrow' row hdropped)

end RowsOf

theorem load_saveAll (htimes : ∀ tx ∈ txs, TimesKept parseFromRfc3339 tx) (latestFirst : LatestFirst)
    {limit : U64} (hlimit : limit.toNat < 2 ^ 63) :
    ∃ loaded, loadPendingTransactions parseFromRfc3339 latestFirst (saveAll txs) limit = .ok loaded ∧
      NewestPending txs limit.toNat loaded := by
  obtain ⟨txOf, hrows⟩ := exists_rowsOf txs latestFirst
  refine ⟨_, ?_, newestPending_take hrows htimes limit.toNat⟩
  rw [loadPendingTransactions, toSql_eq_ok_iff.mpr ⟨hlimit, rfl⟩, ok_bind, Int.toNat_natCast]
  exact mapM_eq_ok_map fun row hrow => load_of_mem hrows htimes (List.mem_of_mem_take hrow)

/-- **After any number of transactions were saved**, in whichever order rows with the same text come: what is
loaded, if SQLite has the limit, and what one more transaction does. It is saved just if SQLite has its numbers,
and otherwise refused, and the table stays as it was. -/
theorem newest_loaded (htimes : ∀ tx ∈ txs, TimesKept parseFromRfc3339 tx) (latestFirst : LatestFirst)
    (limit : U64) :
    (limit.toNat < 2 ^ 63 → ∃ loaded,
        loadPendingTransactions parseFromRfc3339 latestFirst (saveAll txs) limit = .ok loaded ∧
          NewestPending txs limit.toNat loaded) ∧
      (2 ^ 63 ≤ limit.toNat → loadPendingTransactions parseFromRfc3339 latestFirst (saveAll txs) limit =
        .error (.err "out of range integral type conversion attempted")) ∧
      ∀ tx, (Storable tx → ∃ row, tx.toRow = .ok row ∧
          savePendingTransaction (saveAll txs) tx = .ok ((saveAll txs).insert tx.hash row)) ∧
        (¬ Storable tx → savePendingTransaction (saveAll txs) tx =
            .error (.err "out of range integral type conversion attempted") ∧
          saveAll (txs ++ [tx]) = saveAll txs) := by
  refine ⟨load_saveAll htimes latestFirst, fun hlimit => ?_, fun tx => ⟨fun h => ?_, fun h => ?_⟩⟩
  · rw [loadPendingTransactions, toSql, if_neg (Nat.not_lt.mpr hlimit)]
    rfl
  · obtain ⟨row, hrow⟩ := exists_toRow_iff.mpr h
    refine ⟨row, hrow, ?_⟩
    rw [savePendingTransaction, hrow]
    rfl
  · have hsave := save_of_not_storable h (saveAll txs)
    refine ⟨hsave, ?_⟩
    rw [saveAll, List.foldl_append, List.foldl_cons, List.foldl_nil, ← saveAll, hsave]
    rfl

/-- Rows are ordered by sorting them. -/
def LatestFirst.sort : LatestFirst where
  order rows := rows.mergeSort fun row row' => row'.firstSeen ≤ row.firstSeen
  perm rows := List.mergeSort_perm rows _
  sorted rows := by
    have htrans (row₁ row₂ row₃ : TransactionRow) (h₁₂ : decide (row₂.firstSeen ≤ row₁.firstSeen) = true)
        (h₂₃ : decide (row₃.firstSeen ≤ row₂.firstSeen) = true) : decide (row₃.firstSeen ≤ row₁.firstSeen) = true :=
      decide_eq_true (le_trans (of_decide_eq_true h₂₃) (of_decide_eq_true h₁₂))
    have htotal (row row' : TransactionRow) :
        (decide (row'.firstSeen ≤ row.firstSeen) || decide (row.firstSeen ≤ row'.firstSeen)) = true := by
      simpa only [Bool.or_eq_true, decide_eq_true_eq] using le_total row'.firstSeen row.firstSeen
    have hpairwise := List.pairwise_mergeSort htrans htotal rows
    exact hpairwise.imp fun h => by simpa using h

/-- A transaction that is seen at a time. -/
def seenAt (hash : String) (time : DateTime) (seenCount : BitVec 32) (nonce : U64) : StoredTransaction where
  fromAddress := "0x742d35cc6634c0532925a3b8d4c9db7c4c4c4c4c"
  toAddress := none
  nonce
  firstSeen := time
  lastSeen := time
  seenCount
  status := .pending
  hash
  gasPrice := 20000000000
  gasLimit := 21000
  value := "0"
  data := "0x"
  blockNumber := none
  blockHash := none

/-- One that is saved twice, a newer one, and one whose nonce is too large. -/
def savedTransactions : List StoredTransaction :=
  [seenAt "0xaa" 1710504000500000000 1 0, seenAt "0xbb" 1710504001000000000 1 1,
    seenAt "0xaa" 1710504000500000000 2 0, seenAt "0xcc" 1710504001000000000 1 (BitVec.ofNat 64 (2 ^ 63))]

/-- What `chrono` reads from the texts of these times. -/
def readTimes (text : Text) : Except String DateTime :=
  if text = "2024-03-15T12:00:00.500+00:00".toList then .ok 1710504000500000000
  else if text = "2024-03-15T12:00:01+00:00".toList then .ok 1710504001000000000
  else .error "input contains invalid characters"

/-- The newest one of them is loaded, and only that. -/
theorem savedTransactions_loaded : ∃ loaded,
    loadPendingTransactions readTimes .sort (saveAll savedTransactions) 1 = .ok loaded ∧
      NewestPending savedTransactions 1 loaded := by
  have htimes : ∀ tx ∈ savedTransactions, TimesKept readTimes tx := by
    simp only [savedTransactions, List.forall_mem_cons, List.not_mem_nil, false_imp_iff, implies_true, and_true]
    exact ⟨⟨by decide, by decide, by decide⟩, ⟨by decide, by decide, by decide⟩, ⟨by decide, by decide, by decide⟩,
      ⟨by decide, by decide, by decide⟩⟩
  exact (newest_loaded htimes .sort 1).1 (by decide)

end Botmev.Core.Persistence
