import Botmev.Library.Binary64
import Mathlib.Data.List.Sort
import Mathlib.Order.Basic

/-!
# The order of doubles

Doubles that are numbers are in a linear order; one that is not a number is neither above nor
below any double, nor equal to one. A list of numbers can be sorted, and what sorting gives
depends only on which numbers are in the list.

## What is proved

* `Number`: the doubles that are numbers, a linear order.
* `partialCmp_number`: comparing two numbers gives their order.
* `sort_map_val`, `sort_eq_of_perm`: sorting numbers.
-/

namespace Botmev.Library

namespace Binary64

/-- `x.partial_cmp(&y)`. -/
def partialCmp (x y : Binary64) : Option Ordering :=
  if lt x y then some .lt else if lt y x then some .gt else if le x y then some .eq else none

/-- A number: a double other than `NaN`. -/
structure Number where
  /-- The double. -/
  val : Binary64
  ne_nan : val ≠ .nan
  deriving DecidableEq

namespace Number

/-- Whole numbers of units are numbers. -/
def ofUnits (units : ℤ) : Number := ⟨.finite units, Binary64.noConfusion⟩

instance : Inhabited Number := ⟨ofUnits 0⟩

/-- `n as f64`. -/
def ofNat (n : ℕ) : Number where
  val := Binary64.ofNat n
  ne_nan := by
    simp only [Binary64.ofNat, ofRatio]
    generalize 2 ^ 2098 = limit
    split_ifs <;> exact Binary64.noConfusion

theorem ext {x y : Number} (h : x.val = y.val) : x = y := by
  cases x
  cases y
  cases h
  rfl

end Number

theorem le_refl_of_number {x : Binary64} (hx : x ≠ .nan) : le x x = true := by
  rcases x with _ | neg | units
  · contradiction
  · cases neg <;> rfl
  · simp [le, ge]

theorem le_trans_of_le {x y z : Binary64} (hxy : le x y = true) (hyz : le y z = true) : le x z = true := by
  rcases x with _ | neg | units <;> rcases y with _ | neg' | units' <;> rcases z with _ | neg'' | units'' <;>
    simp_all [le, ge]
  · rcases hxy with rfl | rfl
    · exact Or.inl (by simpa using hyz)
    · exact Or.inr rfl
  · exact hxy.trans hyz

theorem eq_of_le_of_le {x y : Binary64} (hxy : le x y = true) (hyx : le y x = true) : x = y := by
  rcases x with _ | neg | units <;> rcases y with _ | neg' | units' <;> simp_all [le, ge]
  · cases neg <;> simp_all
  · exact hxy.antisymm hyx

theorem le_total_of_number {x y : Binary64} (hx : x ≠ .nan) (hy : y ≠ .nan) : le x y = true ∨ le y x = true := by
  rcases x with _ | neg | units <;> rcases y with _ | neg' | units' <;> simp_all [le, ge]
  · cases neg <;> simp
  · exact Int.le_total units units'

theorem lt_iff_not_le {x y : Binary64} (hx : x ≠ .nan) (hy : y ≠ .nan) : lt x y = true ↔ ¬ le y x = true := by
  rcases x with _ | neg | units <;> rcases y with _ | neg' | units' <;> simp_all [lt, le, ge]

/-- **Numbers are in a linear order.** -/
instance : LinearOrder Number where
  le x y := le x.val y.val = true
  lt x y := lt x.val y.val = true
  le_refl x := le_refl_of_number x.ne_nan
  le_trans _ _ _ := le_trans_of_le
  le_antisymm _ _ hxy hyx := Number.ext (eq_of_le_of_le hxy hyx)
  le_total x y := le_total_of_number x.ne_nan y.ne_nan
  lt_iff_le_not_ge x y := by
    rw [lt_iff_not_le x.ne_nan y.ne_nan]
    constructor
    · intro hnot
      exact ⟨(le_total_of_number x.ne_nan y.ne_nan).resolve_right hnot, hnot⟩
    · rintro ⟨-, hnot⟩
      exact hnot
  toDecidableLE x y := inferInstanceAs (Decidable (le x.val y.val = true))
  toDecidableLT x y := inferInstanceAs (Decidable (lt x.val y.val = true))
  toDecidableEq := inferInstance

theorem Number.le_iff {x y : Number} : x ≤ y ↔ le x.val y.val = true := Iff.rfl

theorem Number.lt_iff {x y : Number} : x < y ↔ lt x.val y.val = true := Iff.rfl

/-- Two numbers can be compared. -/
theorem partialCmp_number (x y : Number) : partialCmp x.val y.val = some (compare x y) := by
  unfold partialCmp
  rcases lt_trichotomy x y with hxy | rfl | hyx
  · rw [if_pos (Number.lt_iff.mp hxy), compare_lt_iff_lt.mpr hxy]
  · have hirr : ¬ lt x.val x.val = true := fun h => lt_irrefl x (Number.lt_iff.mpr h)
    rw [if_neg hirr, if_neg hirr, if_pos (le_refl_of_number x.ne_nan), compare_eq_iff_eq.mpr rfl]
  · have hnot : ¬ lt x.val y.val = true := fun h => lt_asymm hyx (Number.lt_iff.mpr h)
    rw [if_neg hnot, if_pos (Number.lt_iff.mp hyx), compare_gt_iff_gt.mpr hyx]

/-! ### Sorting -/

/-- Sorting doubles, the smallest first; those that are equal stay in their order. -/
def sort (l : List Binary64) : List Binary64 := l.insertionSort fun x y => le x y = true

/-- Sorting numbers is sorting doubles. -/
theorem sort_map_val (l : List Number) :
    sort (l.map Number.val) = (l.insertionSort (· ≤ ·)).map Number.val :=
  (List.map_insertionSort (r := fun x y : Number => x ≤ y) (s := fun x y => le x y = true) Number.val l
    fun _ _ _ _ => Number.le_iff).symm

theorem pairwise_sort (l : List Number) : (l.insertionSort (· ≤ ·)).Pairwise (· ≤ ·) :=
  List.pairwise_insertionSort _ l

/-- What sorting gives depends only on which numbers there are. -/
theorem sort_eq_of_perm {l l' : List Number} (h : l.Perm l') :
    l.insertionSort (· ≤ ·) = l'.insertionSort (· ≤ ·) := by
  have hperm : (l.insertionSort (· ≤ ·)).Perm (l'.insertionSort (· ≤ ·)) :=
    ((List.perm_insertionSort _ l).trans h).trans (List.perm_insertionSort _ l').symm
  exact List.Perm.eq_of_pairwise' (pairwise_sort l) (pairwise_sort l') hperm

end Binary64

end Botmev.Library
