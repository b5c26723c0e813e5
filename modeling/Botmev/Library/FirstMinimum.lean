import Mathlib.Order.Compare
import Mathlib.Order.Lattice

/-!
# The first minimum of a list

The least element of a list under a comparison, the first one where there are several, found by
one pass that keeps the best element so far.

## What is proved

* `minBy_append_cons`: an element that is below all before it and not above any after it is the
  first minimum.
* `exists_minBy`: a list that is not empty has such an element, where the comparison is that of a
  linear order on what the elements are measured by.
-/

namespace Botmev.Library

variable {α β : Type}

/-- The better of the best so far and the next. -/
def better (compare : α → α → Ordering) (best next : α) : α :=
  match compare best next with
  | .gt => next
  | _ => best

/-- `iter.min_by(compare)`. -/
def minBy (compare : α → α → Ordering) : List α → Option α
  | [] => none
  | first :: rest => some (rest.foldl (better compare) first)

variable [LinearOrder β] {measure : α → β} {compare : α → α → Ordering}

theorem better_eq_left (hcompare : ∀ x y, compare x y = Ord.compare (measure x) (measure y)) {best next : α}
    (h : measure best ≤ measure next) : better compare best next = best := by
  have hne : compare best next ≠ .gt := by
    rw [hcompare, ne_eq, compare_gt_iff_gt]
    exact not_lt.mpr h
  unfold better
  split
  · contradiction
  · rfl

theorem better_eq_right (hcompare : ∀ x y, compare x y = Ord.compare (measure x) (measure y)) {best next : α}
    (h : measure next < measure best) : better compare best next = next := by
  have hgt : compare best next = .gt := by
    rw [hcompare, compare_gt_iff_gt]
    exact h
  rw [better, hgt]

/-- The best so far stays, as long as nothing below it comes. -/
theorem foldl_better_eq (hcompare : ∀ x y, compare x y = Ord.compare (measure x) (measure y)) {best : α}
    {rest : List α} (h : ∀ x ∈ rest, measure best ≤ measure x) : rest.foldl (better compare) best = best := by
  induction rest with
  | nil => rfl
  | cons x rest ih =>
    rw [List.foldl_cons, better_eq_left hcompare (h x List.mem_cons_self)]
    exact ih fun y hy => h y (List.mem_cons_of_mem _ hy)

/-- What is below the best so far and all that comes before it is the best when it has come. -/
theorem foldl_better_append_cons (hcompare : ∀ x y, compare x y = Ord.compare (measure x) (measure y))
    {best m : α} {before after : List α} (hbest : measure m < measure best)
    (hbefore : ∀ x ∈ before, measure m < measure x) (hafter : ∀ x ∈ after, measure m ≤ measure x) :
    (before ++ m :: after).foldl (better compare) best = m := by
  induction before generalizing best with
  | nil =>
    rw [List.nil_append, List.foldl_cons, better_eq_right hcompare hbest]
    exact foldl_better_eq hcompare hafter
  | cons x before ih =>
    obtain ⟨hx, hbefore⟩ := List.forall_mem_cons.mp hbefore
    rw [List.cons_append, List.foldl_cons]
    rcases le_or_gt (measure best) (measure x) with hle | hlt
    · rw [better_eq_left hcompare hle]
      exact ih hbest hbefore
    · rw [better_eq_right hcompare hlt]
      exact ih hx hbefore

/-- **The first minimum**: below all before it, and not above any after it. -/
theorem minBy_append_cons (hcompare : ∀ x y, compare x y = Ord.compare (measure x) (measure y)) {m : α}
    {before after : List α} (hbefore : ∀ x ∈ before, measure m < measure x)
    (hafter : ∀ x ∈ after, measure m ≤ measure x) : minBy compare (before ++ m :: after) = some m := by
  rcases before with _ | ⟨x, before⟩
  · exact congrArg some (foldl_better_eq hcompare hafter)
  · obtain ⟨hx, hbefore⟩ := List.forall_mem_cons.mp hbefore
    exact congrArg some (foldl_better_append_cons hcompare hx hbefore hafter)

theorem exists_minBy (hcompare : ∀ x y, compare x y = Ord.compare (measure x) (measure y)) {l : List α}
    (hl : l ≠ []) : ∃ before m after, l = before ++ m :: after ∧ minBy compare l = some m ∧
      (∀ x ∈ before, measure m < measure x) ∧ ∀ x ∈ after, measure m ≤ measure x := by
  have hmin : ∃ before m after, l = before ++ m :: after ∧
      (∀ x ∈ before, measure m < measure x) ∧ ∀ x ∈ after, measure m ≤ measure x := by
    induction l with
    | nil => contradiction
    | cons x l ih =>
      rcases eq_or_ne l [] with rfl | hl
      · exact ⟨[], x, [], rfl, by simp, by simp⟩
      · obtain ⟨before, m, after, rfl, hbefore, hafter⟩ := ih hl
        rcases le_or_gt (measure x) (measure m) with hle | hlt
        · refine ⟨[], x, before ++ m :: after, rfl, by simp, fun y hy => ?_⟩
          rcases List.mem_append.mp hy with hy | hy
          · exact hle.trans (hbefore y hy).le
          · rcases List.mem_cons.mp hy with rfl | hy
            · exact hle
            · exact hle.trans (hafter y hy)
        · exact ⟨x :: before, m, after, rfl, List.forall_mem_cons.mpr ⟨hlt, hbefore⟩, hafter⟩
  obtain ⟨before, m, after, rfl, hbefore, hafter⟩ := hmin
  exact ⟨before, m, after, rfl, minBy_append_cons hcompare hbefore hafter, hbefore, hafter⟩

end Botmev.Library
