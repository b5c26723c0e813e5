import Botmev.Library.Calendar
import Botmev.Library.FixedWidth
import Botmev.Rust.Basic
import Mathlib.Data.List.Nodup
import Mathlib.Data.List.Perm.Subperm

/-!
# Cleaning up old data

`cleanup_old_data` (`mev-core/src/persistence.rs`) deletes the rows whose `created_at` is less than the
cutoff. Both are texts. SQLite fills `created_at` through `CURRENT_TIMESTAMP`, a blank between the date
and the time; the cutoff is bound as RFC 3339 has it, with a `T`. So on the day of the cutoff every row
is less, at whatever time it was created. Of the blocks, those remain whose number is no more than 10000
below the highest one, which may be 10001.

The statements themselves do not fail. Times are counted from the Unix epoch, that of a row in seconds
and that of the cutoff in nanoseconds.

## What is proved

* `currentTimestamp_lt_toRfc3339_iff`: how the texts compare.
* `cleans_by_time_iff`: when the rows before the cutoff are deleted, and 10000 blocks remain.
* `same_day_deleted`: a row that is deleted too early.
-/

namespace Botmev.Core.Persistence

open Botmev.Rust Botmev.Library Calendar FixedWidth

/-- A text column, compared character by character. -/
abbrev Text := List Char

/-! ### Times as texts -/

/-- The day of a time, in seconds. -/
def dayOf (seconds : ℤ) : ℤ := seconds / 86400 + 719528

/-- `MM-DD`. -/
def monthText (date : Date) : Text := padded 2 date.month ++ '-' :: padded 2 date.day

/-- `HH:MM:SS`. -/
def timeText (seconds : ℤ) : Text :=
  let second := (seconds % 86400).toNat
  padded 2 (second / 3600) ++ ':' :: (padded 2 (second / 60 % 60) ++ ':' :: padded 2 (second % 60))

/-- `CURRENT_TIMESTAMP`. -/
def currentTimestamp (seconds : ℤ) : Text :=
  let date := dateOf (dayOf seconds)
  padded 4 date.year.toNat ++ ('-' :: monthText date ++ ' ' :: timeText seconds)

/-- A year as RFC 3339 has it: with a sign, if it does not have four digits. -/
def rfc3339Year (year : ℤ) : Text :=
  if 0 ≤ year ∧ year ≤ 9999 then padded 4 year.toNat
  else (if year < 0 then '-' else '+') :: (Nat.toDigits 10 year.natAbs).leftpad 4 '0'

/-- A part of a second, with as many digits as it takes: three, six or nine. -/
def fraction (nanos : ℕ) : Text :=
  if nanos = 0 then []
  else if nanos % 1000000 = 0 then '.' :: padded 3 (nanos / 1000000)
  else if nanos % 1000 = 0 then '.' :: padded 6 (nanos / 1000)
  else '.' :: padded 9 nanos

/-- `to_rfc3339`. -/
def toRfc3339 (instant : ℤ) : Text :=
  let seconds := instant / 10 ^ 9
  let date := dateOf (dayOf seconds)
  rfc3339Year date.year ++
    ('-' :: monthText date ++
      'T' :: (timeText seconds ++ fraction (instant % 10 ^ 9).toNat ++ ['+', '0', '0', ':', '0', '0']))

example : currentTimestamp 1710525600 = "2024-03-15 18:00:00".toList := by decide

example : toRfc3339 1710504000500000000 = "2024-03-15T12:00:00.500+00:00".toList := by decide

/-! ### The tables -/

/-- A row that SQLite has filled in, in one of the years it has texts for. -/
structure Row (κ : Type) where
  /-- The primary key. -/
  key : κ
  /-- When it was created. -/
  seconds : ℤ
  inYears : 0 ≤ (dateOf (dayOf seconds)).year ∧ (dateOf (dayOf seconds)).year ≤ 9999

/-- `created_at DATETIME DEFAULT CURRENT_TIMESTAMP`. -/
def Row.createdAt {κ : Type} (row : Row κ) : Text := currentTimestamp row.seconds

/-- What is cleaned up. -/
structure Database where
  /-- `pending_transactions`, with `hash TEXT PRIMARY KEY`. -/
  pendingTransactions : List (Row String)
  /-- `reorg_events`, with `id INTEGER PRIMARY KEY AUTOINCREMENT`. -/
  reorgEvents : List (Row ℤ)
  /-- `block_headers`, with `number INTEGER PRIMARY KEY`. -/
  blockHeaders : List ℕ
  blockHeaders_nodup : blockHeaders.Nodup

/-- `DELETE FROM … WHERE created_at < ?1`. -/
def deleteBefore {κ : Type} (cutoffStr : Text) (rows : List (Row κ)) : List (Row κ) :=
  rows.filter fun row => ¬ row.createdAt < cutoffStr

/-- `DELETE FROM block_headers WHERE number < (SELECT MAX(number) - 10000 FROM block_headers)`: with no
blocks, there is nothing to compare with. -/
def deleteOldBlocks (numbers : List ℕ) : List ℕ :=
  match numbers.max? with
  | some highest => numbers.filter fun number => ¬ (number : ℤ) < highest - 10000
  | none => numbers

/-- `chrono::Utc::now() - chrono::Duration::days(days_to_keep as i64)`, with the earliest time there is. -/
def cutoffDate (earliest now : ℤ) (daysToKeep : BitVec 32) : Result ℤ :=
  let cutoff := now - daysToKeep.toNat * 86400 * 10 ^ 9
  if cutoff < earliest then .error (.panic "DateTime - TimeDelta overflowed") else .ok cutoff

/-- The three statements. -/
def Database.deleteOld (db : Database) (cutoffStr : Text) : Database where
  pendingTransactions := deleteBefore cutoffStr db.pendingTransactions
  reorgEvents := deleteBefore cutoffStr db.reorgEvents
  blockHeaders := deleteOldBlocks db.blockHeaders
  blockHeaders_nodup := by
    unfold deleteOldBlocks
    split
    · exact db.blockHeaders_nodup.filter _
    · exact db.blockHeaders_nodup

/-- `cleanup_old_data`. -/
def cleanupOldData (earliest now : ℤ) (daysToKeep : BitVec 32) (db : Database) : Result Database := do
  let cutoff ← cutoffDate earliest now daysToKeep
  pure (db.deleteOld (toRfc3339 cutoff))

/-! ### How the texts compare -/

variable {seconds cutoff : ℤ} {date date' : Date} {rest rest' : Text}

theorem dayOf_mono {seconds' : ℤ} (h : seconds ≤ seconds') : dayOf seconds ≤ dayOf seconds' := by
  unfold dayOf
  omega

theorem length_monthText (date : Date) : (monthText date).length = 5 := by
  rw [monthText, List.length_append, List.length_cons, length_padded, length_padded]

theorem monthText_lt_iff (hmonth : date.month < 100) (hmonth' : date'.month < 100) (hday : date.day < 100)
    (hday' : date'.day < 100) :
    '-' :: monthText date ++ ' ' :: rest < '-' :: monthText date' ++ 'T' :: rest' ↔
      date.month < date'.month ∨ date.month = date'.month ∧ date.day ≤ date'.day := by
  have hblank : ' ' :: rest < 'T' :: rest' := List.cons_lt_cons_iff.mpr (.inl (by decide))
  have hlength : ('-' :: monthText date).length = ('-' :: monthText date').length := by
    rw [List.length_cons, List.length_cons, length_monthText, length_monthText]
  have hirrefl : ¬ '-' < '-' := by decide
  rw [append_lt_append_iff hlength, List.cons_lt_cons_iff, List.cons.injEq, monthText, monthText,
    append_lt_append_iff (by rw [length_padded, length_padded]),
    append_eq_append_iff (by rw [length_padded, length_padded]), List.cons_lt_cons_iff, List.cons.injEq,
    padded_lt_padded_iff hmonth hmonth', padded_lt_padded_iff hday hday', padded_inj hmonth hmonth',
    padded_inj hday hday']
  simp only [hirrefl, hblank, false_or, true_and, and_true]
  omega

/-- **A `created_at` is less than a cutoff** just where its day is no later, if the year of the cutoff has
no sign. -/
theorem currentTimestamp_lt_toRfc3339_iff (hyears : 0 ≤ (dateOf (dayOf seconds)).year ∧
    (dateOf (dayOf seconds)).year ≤ 9999) :
    currentTimestamp seconds < toRfc3339 cutoff ↔
      (dateOf (dayOf (cutoff / 10 ^ 9))).year ≤ 9999 ∧ dayOf seconds ≤ dayOf (cutoff / 10 ^ 9) := by
  simp only [currentTimestamp, toRfc3339]
  generalize dayOf seconds = day at *
  generalize dayOf (cutoff / 10 ^ 9) = day' at *
  obtain ⟨-, -, hmonth, -, hday⟩ := dateOf_spec day
  obtain ⟨-, -, hmonth', -, hday'⟩ := dateOf_spec day'
  have horder : day ≤ day' ↔ (dateOf day).Before (dateOf day') ∨ dateOf day = dateOf day' := by
    rw [dateOf_before_iff, dateOf_inj]
    omega
  by_cases hyears' : 0 ≤ (dateOf day').year ∧ (dateOf day').year ≤ 9999
  · rw [rfc3339Year, if_pos hyears', append_lt_append_iff (by rw [length_padded, length_padded]),
      padded_lt_padded_iff (by omega) (by omega), padded_inj (by omega) (by omega),
      monthText_lt_iff (by omega) (by omega) (by omega) (by omega), horder, Date.Before, Date.ext_iff]
    omega
  · -- A sign is less than any digit.
    obtain ⟨d, cs, hd, hdigits⟩ := exists_padded_eq_cons 3 (dateOf day).year.toNat
    have hminus : ∀ d < 10, ¬ Nat.digitChar d < '-' ∧ Nat.digitChar d ≠ '-' := by decide
    have hplus : ∀ d < 10, ¬ Nat.digitChar d < '+' ∧ Nat.digitChar d ≠ '+' := by decide
    have hnot : ¬ ((dateOf day').year ≤ 9999 ∧ day ≤ day') := by
      rintro ⟨hle, hday⟩
      have hyear : (dateOf day).year ≤ (dateOf day').year := yearOf_mono hday
      exact hyears' ⟨by omega, hle⟩
    rw [rfc3339Year, if_neg hyears', hdigits, iff_false_right hnot]
    simp only [List.cons_append, List.cons_lt_cons_iff, not_or, not_and]
    split
    · exact ⟨(hminus d hd).1, fun h => absurd h (hminus d hd).2⟩
    · exact ⟨(hplus d hd).1, fun h => absurd h (hplus d hd).2⟩

/-- A row is compared as its time is: the year of the cutoff has no sign, and the row was created on
another day, or before the cutoff. -/
def Comparable (cutoff seconds : ℤ) : Prop :=
  (dateOf (dayOf (cutoff / 10 ^ 9))).year ≤ 9999 ∧
    (dayOf seconds ≠ dayOf (cutoff / 10 ^ 9) ∨ seconds * 10 ^ 9 < cutoff)

/-- **A row is deleted by its time** just where it is comparable. -/
theorem lt_iff_before_iff (hyears : 0 ≤ (dateOf (dayOf seconds)).year ∧
    (dateOf (dayOf seconds)).year ≤ 9999) :
    (currentTimestamp seconds < toRfc3339 cutoff ↔ seconds * 10 ^ 9 < cutoff) ↔ Comparable cutoff seconds := by
  rw [currentTimestamp_lt_toRfc3339_iff hyears, Comparable]
  have hearlier : seconds * 10 ^ 9 < cutoff → dayOf seconds ≤ dayOf (cutoff / 10 ^ 9) :=
    fun h => dayOf_mono (by omega)
  have hlater : cutoff ≤ seconds * 10 ^ 9 → dayOf (cutoff / 10 ^ 9) ≤ dayOf seconds :=
    fun h => dayOf_mono (by omega)
  by_cases hyear : (dateOf (dayOf (cutoff / 10 ^ 9))).year ≤ 9999
  · simp only [hyear, true_and]
    omega
  · have hbefore : seconds * 10 ^ 9 < cutoff := by
      by_contra hge
      have hyear' : (dateOf (dayOf (cutoff / 10 ^ 9))).year ≤ (dateOf (dayOf seconds)).year :=
        yearOf_mono (hlater (by omega))
      omega
    simp only [hyear, hbefore, false_and, false_iff, not_true_eq_false]

/-! ### Blocks -/

/-- All of the blocks down to 10000 below the highest one are there. -/
def FullWindow (numbers : List ℕ) : Prop :=
  ∃ highest, numbers.max? = some highest ∧ 10000 ≤ highest ∧ ∀ i ≤ 10000, highest - i ∈ numbers

theorem mem_deleteOldBlocks_iff {numbers : List ℕ} {number highest : ℕ}
    (hhighest : numbers.max? = some highest) :
    number ∈ deleteOldBlocks numbers ↔ number ∈ numbers ∧ highest ≤ number + 10000 := by
  rw [deleteOldBlocks, hhighest]
  simp only [List.mem_filter, decide_eq_true_eq]
  exact and_congr_right fun _ => by omega

/-- **The blocks that remain** are of the 10000 most recent ones, just where there are no 10001 in a row. -/
theorem deleteOldBlocks_iff {numbers : List ℕ} (hnodup : numbers.Nodup) :
    (∀ number ∈ deleteOldBlocks numbers, numbers.countP (number < ·) < 10000) ↔ ¬ FullWindow numbers := by
  constructor
  · rintro h ⟨highest, hhighest, hlarge, hall⟩
    have hremains : highest - 10000 ∈ deleteOldBlocks numbers :=
      (mem_deleteOldBlocks_iff hhighest).mpr ⟨hall 10000 (Nat.le_refl _), by omega⟩
    have hsubset : List.range' (highest - 10000 + 1) 10000 ⊆ numbers.filter (highest - 10000 < ·) := by
      intro number hnumber
      rw [List.mem_range'_1] at hnumber
      have hnumber' := hall (highest - number) (by omega)
      rw [Nat.sub_sub_self (by omega)] at hnumber'
      exact List.mem_filter.mpr ⟨hnumber', decide_eq_true (by omega)⟩
    have hlength := (List.subperm_of_subset List.nodup_range' hsubset).length_le
    rw [List.length_range', ← List.countP_eq_length_filter] at hlength
    exact Nat.lt_irrefl _ (Nat.lt_of_le_of_lt hlength (h _ hremains))
  · intro hgap number hnumber
    by_contra hcount
    obtain ⟨highest, hhighest⟩ : ∃ highest, numbers.max? = some highest := by
      rcases hmax : numbers.max? with _ | highest
      · rw [List.max?_eq_none_iff.mp hmax] at hnumber
        cases hnumber
      · exact ⟨highest, rfl⟩
    obtain ⟨hmem, hnear⟩ := (mem_deleteOldBlocks_iff hhighest).mp hnumber
    have hle : ∀ other ∈ numbers, other ≤ highest := (List.max?_eq_some_iff.mp hhighest).2
    -- There is no room for more than 10000 numbers above it.
    have hsubset : numbers.filter (number < ·) ⊆ List.range' (number + 1) (highest - number) := by
      intro other hother
      obtain ⟨hother, habove⟩ := List.mem_filter.mp hother
      have hother := hle other hother
      rw [decide_eq_true_eq] at habove
      rw [List.mem_range'_1]
      omega
    have hsubperm := List.subperm_of_subset (hnodup.filter _) hsubset
    have hlength := hsubperm.length_le
    rw [List.length_range', ← List.countP_eq_length_filter] at hlength
    have hperm := hsubperm.perm_of_length_le (by
      rw [List.length_range', ← List.countP_eq_length_filter]
      omega)
    refine hgap ⟨highest, hhighest, by omega, fun i hi => ?_⟩
    rcases Nat.lt_or_ge i 10000 with hlt | hge
    · have hrange : highest - i ∈ List.range' (number + 1) (highest - number) := by
        rw [List.mem_range'_1]
        omega
      exact (List.mem_filter.mp (hperm.mem_iff.mpr hrange)).1
    · have heq : highest - i = number := by omega
      rw [heq]
      exact hmem

/-! ### Cleaning up -/

/-- **Cleaned up by time**: a row is deleted just where it was created before the cutoff, and every block
that remains is one of the 10000 most recent ones. -/
structure CleansByTime (cutoff : ℤ) (db after : Database) : Prop where
  pendingTransactions : ∀ row ∈ db.pendingTransactions,
    row ∉ after.pendingTransactions ↔ row.seconds * 10 ^ 9 < cutoff
  reorgEvents : ∀ row ∈ db.reorgEvents, row ∉ after.reorgEvents ↔ row.seconds * 10 ^ 9 < cutoff
  blockHeaders : ∀ number ∈ after.blockHeaders, db.blockHeaders.countP (number < ·) < 10000

theorem notMem_deleteBefore_iff {κ : Type} {cutoffStr : Text} {rows : List (Row κ)} {row : Row κ}
    (h : row ∈ rows) : row ∉ deleteBefore cutoffStr rows ↔ row.createdAt < cutoffStr := by
  rw [deleteBefore, List.mem_filter, decide_eq_true_eq, not_and, not_not]
  exact forall_prop_of_true h

/-- Rows are deleted by their time, just where all of them are comparable. -/
theorem deleteBefore_iff {κ : Type} (cutoff : ℤ) (rows : List (Row κ)) :
    (∀ row ∈ rows, row ∉ deleteBefore (toRfc3339 cutoff) rows ↔ row.seconds * 10 ^ 9 < cutoff) ↔
      ∀ row ∈ rows, Comparable cutoff row.seconds := by
  refine forall₂_congr fun row hrow => ?_
  rw [notMem_deleteBefore_iff hrow]
  exact lt_iff_before_iff row.inYears

/-- **The clean-up is by time** just where no row is of the day of the cutoff but later, the year of the
cutoff has no sign, if there are any rows, and there are no 10001 blocks in a row. -/
theorem cleans_by_time_iff {earliest now cutoff : ℤ} {daysToKeep : BitVec 32}
    (hcutoff : cutoffDate earliest now daysToKeep = .ok cutoff) (db : Database) :
    ∃ after, cleanupOldData earliest now daysToKeep db = .ok after ∧
      (CleansByTime cutoff db after ↔ (∀ row ∈ db.pendingTransactions, Comparable cutoff row.seconds) ∧
        (∀ row ∈ db.reorgEvents, Comparable cutoff row.seconds) ∧ ¬ FullWindow db.blockHeaders) := by
  refine ⟨db.deleteOld (toRfc3339 cutoff), ?_, ?_⟩
  · rw [cleanupOldData, hcutoff]
    rfl
  · rw [← deleteBefore_iff, ← deleteBefore_iff, ← deleteOldBlocks_iff db.blockHeaders_nodup]
    constructor
    · intro h
      exact ⟨h.pendingTransactions, h.reorgEvents, h.blockHeaders⟩
    · rintro ⟨htransactions, hreorgs, hblocks⟩
      exact ⟨htransactions, hreorgs, hblocks⟩

/-- A transaction that was seen on 14 March 2024 at 18:00, and two blocks. -/
def dayBefore : Database where
  pendingTransactions := [{ key := "0x01", seconds := 1710439200, inYears := by decide }]
  reorgEvents := []
  blockHeaders := [19433000, 19433001]
  blockHeaders_nodup := by decide

/-- It is deleted on 22 March at 12:00, of which seven days are kept. -/
theorem day_before_deleted :
    ∃ after, cleanupOldData (-8334601228800 * 10 ^ 9) (1711108800 * 10 ^ 9) 7 dayBefore = .ok after ∧
      CleansByTime (1710504000 * 10 ^ 9) dayBefore after := by
  have hcutoff : cutoffDate (-8334601228800 * 10 ^ 9) (1711108800 * 10 ^ 9) 7 = .ok (1710504000 * 10 ^ 9) := by
    decide
  obtain ⟨after, hafter, hiff⟩ := cleans_by_time_iff hcutoff dayBefore
  refine ⟨after, hafter, hiff.mpr ⟨fun row hrow => ?_, fun row hrow => ?_, ?_⟩⟩
  · obtain rfl := List.mem_singleton.mp hrow
    exact ⟨by decide, .inr (by decide)⟩
  · cases hrow
  · rintro ⟨highest, hhighest, -, hall⟩
    obtain rfl := Option.some.inj hhighest
    exact absurd (hall 2 (by decide)) (by decide)

/-- The same on 15 March at 18:00. -/
def sameDay : Database where
  pendingTransactions := [{ key := "0x01", seconds := 1710525600, inYears := by decide }]
  reorgEvents := []
  blockHeaders := []
  blockHeaders_nodup := by decide

/-- **A row that is deleted too early**: it was created six hours after the cutoff. -/
theorem same_day_deleted :
    ∃ after, cleanupOldData (-8334601228800 * 10 ^ 9) (1711108800 * 10 ^ 9) 7 sameDay = .ok after ∧
      ¬ CleansByTime (1710504000 * 10 ^ 9) sameDay after := by
  have hcutoff : cutoffDate (-8334601228800 * 10 ^ 9) (1711108800 * 10 ^ 9) 7 = .ok (1710504000 * 10 ^ 9) := by
    decide
  refine ⟨sameDay.deleteOld (toRfc3339 (1710504000 * 10 ^ 9)), ?_, fun h => ?_⟩
  · rw [cleanupOldData, hcutoff]
    rfl
  have hdeleted : (sameDay.deleteOld (toRfc3339 (1710504000 * 10 ^ 9))).pendingTransactions.isEmpty = true := by
    decide
  have hrow := h.pendingTransactions _ List.mem_cons_self
  rw [List.isEmpty_iff.mp hdeleted] at hrow
  exact absurd (hrow.mp List.not_mem_nil) (by decide)

end Botmev.Core.Persistence
