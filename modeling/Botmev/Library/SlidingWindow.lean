import Mathlib.Data.List.Induction
import Mathlib.Data.List.Infix
import Mathlib.Data.List.Sort
import Mathlib.Order.Basic

/-!
# Sliding windows

The last `k` of the values recorded so far, and a window that is kept as a list which loses its
first value when it is full. The list is in the order of recording, so it is the sliding window,
unless it is sorted when it is read: then its first value is the least of those there were at
the last read.

## What is proved

* `lastN_concat`: what one more value does to the last `k`.
* `run_map_record`: a window that is not read is the last `k` values.
* `split_append`: the values of the sliding window, those from before the last read apart.
* `run_perm_iff`: a window that is sorted when it is read keeps the last `k` values just when each
  value that leaves the sliding window, and was there at the last read, is the least of those that
  were.
-/

namespace Botmev.Library

variable {α β : Type}

/-- What is done to a window. -/
inductive WindowOp (α : Type) where
  /-- A value is recorded. -/
  | record (x : α)
  /-- The window is read. -/
  | read

namespace WindowOp

/-- The values recorded. -/
def recorded : List (WindowOp α) → List α := List.filterMap fun
  | record x => some x
  | read => none

@[simp] theorem recorded_concat_record (ops : List (WindowOp α)) (x : α) :
    recorded (ops ++ [record x]) = recorded ops ++ [x] := by
  simp [recorded]

@[simp] theorem recorded_concat_read (ops : List (WindowOp α)) : recorded (ops ++ [read]) = recorded ops := by
  simp [recorded]

@[simp] theorem recorded_map_record (l : List α) : recorded (l.map record) = l := by
  induction l with
  | nil => rfl
  | cons x l ih => exact congrArg (x :: ·) ih

end WindowOp

namespace SlidingWindow

open WindowOp

/-- The last `k` of a list, or all of it. -/
def lastN (k : ℕ) (l : List α) : List α := l.drop (l.length - k)

/-- Adding a value to a window of at most `k`. -/
def push (k : ℕ) (window : List α) (x : α) : List α := (if k ≤ window.length then window.tail else window) ++ [x]

variable {k : ℕ}

theorem length_lastN (k : ℕ) (l : List α) : (lastN k l).length = min l.length k := by
  rw [lastN, List.length_drop]
  omega

/-- **One more value** pushes the oldest one out, where the window is full. -/
theorem lastN_concat (hk : 0 < k) (l : List α) (x : α) : lastN k (l ++ [x]) = push k (lastN k l) x := by
  unfold push
  rw [length_lastN]
  unfold lastN
  by_cases hfull : k ≤ l.length
  · rw [if_pos (le_min hfull le_rfl), List.tail_drop, List.length_append, List.length_singleton,
      List.drop_append_of_le_length (by omega), show l.length + 1 - k = l.length - k + 1 by omega]
  · rw [if_neg (by omega), List.length_append, List.length_singleton, Nat.sub_eq_zero_of_le (by omega),
      Nat.sub_eq_zero_of_le (by omega), List.drop_zero, List.drop_zero]

/-! ### A window that is sorted when it is read -/

section Sorted

variable [LinearOrder α]

/-- What an operation leaves. -/
def step (k : ℕ) (window : List α) : WindowOp α → List α
  | .record x => push k window x
  | .read => window.insertionSort (· ≤ ·)

/-- **The window that is kept.** -/
def run (k : ℕ) (ops : List (WindowOp α)) : List α := ops.foldl (step k) []

theorem run_concat (k : ℕ) (ops : List (WindowOp α)) (op : WindowOp α) :
    run k (ops ++ [op]) = step k (run k ops) op := by
  rw [run, run, List.foldl_append, List.foldl_cons, List.foldl_nil]

/-- Not read, it is the sliding window. -/
theorem run_map_record (hk : 0 < k) (l : List α) : run k (l.map record) = lastN k l := by
  induction l using List.reverseRecOn with
  | nil => exact List.drop_nil.symm
  | append_singleton l x ih =>
    rw [List.map_append, List.map_singleton, run_concat, ih, lastN_concat hk]
    rfl

end Sorted

/-- The sliding window without its oldest value, in the same two parts. -/
def dropOldest : List α × List α → List α × List α
  | ([], new) => ([], new.tail)
  | (_ :: old, new) => (old, new)

/-- What an operation does to the sliding window, the values from before the last read apart. -/
def splitStep (k : ℕ) (window : List α × List α) : WindowOp α → List α × List α
  | .read => (window.1 ++ window.2, [])
  | .record x =>
    let window := if k ≤ (window.1 ++ window.2).length then dropOldest window else window
    (window.1, window.2 ++ [x])

/-- **The sliding window in two parts**: the values from before the last read, and those recorded
since. -/
def split (k : ℕ) (ops : List (WindowOp α)) : List α × List α := ops.foldl (splitStep k) ([], [])

theorem split_concat (k : ℕ) (ops : List (WindowOp α)) (op : WindowOp α) :
    split k (ops ++ [op]) = splitStep k (split k ops) op := by
  rw [split, split, List.foldl_append, List.foldl_cons, List.foldl_nil]

theorem dropOldest_append (window : List α × List α) :
    (dropOldest window).1 ++ (dropOldest window).2 = (window.1 ++ window.2).tail := by
  rcases window with ⟨_ | ⟨oldest, old⟩, new⟩ <;> rfl

/-- Together they are the last `k` values. -/
theorem split_append (hk : 0 < k) (ops : List (WindowOp α)) :
    (split k ops).1 ++ (split k ops).2 = lastN k (recorded ops) := by
  induction ops using List.reverseRecOn with
  | nil => exact List.drop_nil.symm
  | append_singleton ops op ih =>
    rw [split_concat]
    cases op with
    | read =>
      rw [recorded_concat_read, ← ih]
      exact List.append_nil _
    | record x =>
      rw [recorded_concat_record, lastN_concat hk, ← ih, push, splitStep, ← List.append_assoc]
      split
      · rw [dropOldest_append]
      · rfl

/-- The first value of a list is its least. -/
def HeadIsLeast [LE α] (l : List α) : Prop := ∀ first ∈ l.head?, ∀ x ∈ l, first ≤ x

section Sorted

variable [LinearOrder α]

/-- **No read disturbs the order**: at every record on a full window, the oldest value is the least
of those in the window that were there at the last read. -/
def OldestIsLeast (k : ℕ) (ops : List (WindowOp α)) : Prop :=
  ∀ before x, before ++ [record x] <+: ops → k ≤ (recorded before).length → HeadIsLeast (split k before).1

theorem headIsLeast_of_pairwise {l : List α} (h : l.Pairwise (· ≤ ·)) : HeadIsLeast l := by
  rcases l with _ | ⟨first, l⟩
  · rintro _ ⟨⟩
  · rintro _ ⟨⟩ x hx
    rcases List.mem_cons.mp hx with rfl | hx
    · exact le_rfl
    · exact (List.pairwise_cons.mp h).1 x hx

/-- Of the same values, a sorted list and another one lose the same one just when the other one
begins with the least. -/
theorem perm_tail_iff {least oldest : α} {old old' : List α} (hsorted : (least :: old).Pairwise (· ≤ ·))
    (hperm : (least :: old).Perm (oldest :: old')) : old.Perm old' ↔ HeadIsLeast (oldest :: old') := by
  constructor
  · intro htail
    have hfirst : oldest = least := by
      have hcount := hperm.count_eq oldest
      rw [List.count_cons, List.count_cons_self, htail.count_eq] at hcount
      by_contra hne
      rw [if_neg (by simpa using Ne.symm hne)] at hcount
      omega
    rintro _ ⟨⟩ x hx
    rw [hfirst]
    exact headIsLeast_of_pairwise hsorted least rfl x (hperm.mem_iff.mpr hx)
  · intro hleast
    have hle : least ≤ oldest :=
      headIsLeast_of_pairwise hsorted least rfl oldest (hperm.mem_iff.mpr List.mem_cons_self)
    have hge : oldest ≤ least := hleast oldest rfl least (hperm.mem_iff.mp List.mem_cons_self)
    rw [le_antisymm hle hge] at hperm
    exact hperm.cons_inv

/-- The window that is kept: a sorted part, in place of the values from before the last read. -/
def Inv (k : ℕ) (ops : List (WindowOp α)) : Prop :=
  ∃ old, old.Pairwise (· ≤ ·) ∧ old.Perm (split k ops).1 ∧ run k ops = old ++ (split k ops).2

theorem Inv.run_perm (hk : 0 < k) {ops : List (WindowOp α)} (h : Inv k ops) :
    (run k ops).Perm (lastN k (recorded ops)) := by
  obtain ⟨old, -, hperm, hrun⟩ := h
  rw [hrun, ← split_append hk]
  exact hperm.append_right _

theorem Inv.read {ops : List (WindowOp α)} (h : Inv k ops) : Inv k (ops ++ [.read]) := by
  obtain ⟨old, -, hperm, hrun⟩ := h
  refine ⟨(run k ops).insertionSort (· ≤ ·), List.pairwise_insertionSort _ _, ?_, ?_⟩
  · rw [split_concat, hrun]
    exact (List.perm_insertionSort _ _).trans (hperm.append_right _)
  · rw [split_concat, run_concat]
    exact (List.append_nil _).symm

/-- A record keeps the window just when, full, it loses the oldest value. -/
theorem Inv.record_iff (hk : 0 < k) {ops : List (WindowOp α)} (h : Inv k ops) (x : α) :
    (run k (ops ++ [.record x])).Perm (lastN k (recorded (ops ++ [.record x]))) ↔
      (k ≤ (recorded ops).length → HeadIsLeast (split k ops).1) := by
  obtain ⟨old, hsorted, hperm, hrun⟩ := h
  have hlength : k ≤ (run k ops).length ↔ k ≤ (recorded ops).length := by
    rw [hrun, List.length_append, hperm.length_eq, ← List.length_append, split_append hk, length_lastN]
    omega
  rw [recorded_concat_record, lastN_concat hk, run_concat, step, push, push, List.perm_append_right_iff,
    length_lastN, ← split_append hk, hrun]
  rw [hrun] at hlength
  by_cases hfull : k ≤ (recorded ops).length
  · rw [if_pos (hlength.mpr hfull), if_pos (le_min hfull le_rfl)]
    simp only [hfull, true_imp_iff]
    rcases hsplit : split k ops with ⟨_ | ⟨oldest, old'⟩, new⟩
    · -- every value in the window is newer than the last read
      rw [hsplit] at hperm
      rw [List.perm_nil.mp hperm]
      exact iff_of_true (List.Perm.refl _) (by rintro _ ⟨⟩)
    · rw [hsplit] at hperm
      rcases old with _ | ⟨least, old⟩
      · cases List.nil_perm.mp hperm
      · simp only [List.cons_append, List.tail_cons, List.perm_append_right_iff]
        exact perm_tail_iff hsorted hperm
  · rw [if_neg (mt hlength.mp hfull), if_neg (by omega)]
    exact iff_of_true (hperm.append_right _) (absurd · hfull)

theorem Inv.record (hk : 0 < k) {ops : List (WindowOp α)} (h : Inv k ops) (x : α)
    (hleast : k ≤ (recorded ops).length → HeadIsLeast (split k ops).1) : Inv k (ops ++ [.record x]) := by
  obtain ⟨old, hsorted, hperm, hrun⟩ := h
  have hlength : (run k ops).length = ((split k ops).1 ++ (split k ops).2).length := by
    rw [hrun, List.length_append, List.length_append, hperm.length_eq]
  rw [Inv, split_concat, run_concat, step, push, splitStep, hlength]
  split
  · rename_i hfull
    rw [split_append hk, length_lastN] at hfull
    have hleast := hleast (hfull.trans (min_le_left _ _))
    rw [hrun]
    rcases hsplit : split k ops with ⟨_ | ⟨oldest, old'⟩, new⟩
    · rw [hsplit] at hperm
      rw [List.perm_nil.mp hperm]
      exact ⟨[], List.Pairwise.nil, List.Perm.refl _, rfl⟩
    · rw [hsplit] at hperm hleast
      rcases old with _ | ⟨least, old⟩
      · cases List.nil_perm.mp hperm
      · exact ⟨old, (List.pairwise_cons.mp hsorted).2, (perm_tail_iff hsorted hperm).mpr hleast,
          List.append_assoc old new [x]⟩
  · refine ⟨old, hsorted, hperm, ?_⟩
    rw [hrun, List.append_assoc]

theorem oldestIsLeast_concat_iff {ops : List (WindowOp α)} {op : WindowOp α} : OldestIsLeast k (ops ++ [op]) ↔
    OldestIsLeast k ops ∧ ∀ x, op = .record x → k ≤ (recorded ops).length → HeadIsLeast (split k ops).1 := by
  constructor
  · intro h
    refine ⟨fun before x hinit => h before x (hinit.trans (List.prefix_append _ _)), ?_⟩
    rintro x rfl
    exact h ops x List.prefix_rfl
  · rintro ⟨hbefore, hlast⟩ before x hinit
    rcases List.prefix_concat_iff.mp hinit with heq | hinit
    · obtain ⟨rfl, hop⟩ := List.append_inj' heq rfl
      exact hlast x (List.singleton_inj.mp hop).symm
    · exact hbefore before x hinit

theorem inv_of_oldestIsLeast (hk : 0 < k) {ops : List (WindowOp α)} (h : OldestIsLeast k ops) : Inv k ops := by
  induction ops using List.reverseRecOn with
  | nil => exact ⟨[], List.Pairwise.nil, List.Perm.refl _, rfl⟩
  | append_singleton ops op ih =>
    obtain ⟨hbefore, hlast⟩ := oldestIsLeast_concat_iff.mp h
    cases op with
    | read => exact (ih hbefore).read
    | record x => exact (ih hbefore).record hk x (hlast x rfl)

/-- **The window that is kept** has the last `k` values throughout, just when no value leaves the
sliding window that was there at the last read and is not the least of those that were. -/
theorem run_perm_iff (hk : 0 < k) (ops : List (WindowOp α)) :
    (∀ before, before <+: ops → (run k before).Perm (lastN k (recorded before))) ↔ OldestIsLeast k ops := by
  constructor
  · induction ops using List.reverseRecOn with
    | nil =>
      intro _ before x hinit
      simp at hinit
    | append_singleton ops op ih =>
      intro h
      have hbefore := ih fun before hinit => h before (hinit.trans (List.prefix_append _ _))
      refine oldestIsLeast_concat_iff.mpr ⟨hbefore, ?_⟩
      rintro x rfl
      exact ((inv_of_oldestIsLeast hk hbefore).record_iff hk x).mp (h _ List.prefix_rfl)
  · intro h before hinit
    have hbefore : OldestIsLeast k before := fun earlier x hearlier => h earlier x (hearlier.trans hinit)
    exact (inv_of_oldestIsLeast hk hbefore).run_perm hk

end Sorted

end SlidingWindow

end Botmev.Library
