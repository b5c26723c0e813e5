import Mathlib.Algebra.Ring.Int.Defs
import Mathlib.Order.Basic

/-!
# The calendar

The Gregorian calendar, extended to all years. Days are numbered from the first of January of the year
zero. The day of a number is found by its year, and in the year by its month.

## What is proved

* `yearOf_spec`: the year of a day.
* `dateOf_spec`: a day has the number that its date says.
* `dateOf_before_iff`: dates are in the order of their days.
-/

namespace Botmev.Library.Calendar

/-! ### Years -/

/-- How many days there are before a year. -/
def daysBeforeYear (year : ℤ) : ℤ := 365 * year + (year + 3) / 4 - (year + 99) / 100 + (year + 399) / 400

/-- A year has one day more than 365. -/
def isLeap (year : ℤ) : Bool := (year % 4 == 0 && year % 100 != 0) || year % 400 == 0

/-- The year of a day: the mean year is 146097 / 400 days long, which is off by one at most. -/
def yearOf (n : ℤ) : ℤ :=
  let year := n * 400 / 146097
  if n < daysBeforeYear year then year - 1 else if daysBeforeYear (year + 1) ≤ n then year + 1 else year

variable {n n' year year' : ℤ}

theorem daysBeforeYear_succ (year : ℤ) :
    daysBeforeYear (year + 1) = daysBeforeYear year + 365 + if isLeap year then 1 else 0 := by
  unfold daysBeforeYear isLeap
  split
  · rename_i h
    simp only [Bool.or_eq_true, Bool.and_eq_true, beq_iff_eq, bne_iff_ne] at h
    omega
  · rename_i h
    simp only [Bool.or_eq_true, Bool.and_eq_true, beq_iff_eq, bne_iff_ne] at h
    omega

theorem daysBeforeYear_mono (h : year ≤ year') : daysBeforeYear year ≤ daysBeforeYear year' := by
  unfold daysBeforeYear
  omega

/-- **The year of a day.** -/
theorem yearOf_spec (n : ℤ) : daysBeforeYear (yearOf n) ≤ n ∧ n < daysBeforeYear (yearOf n + 1) := by
  simp only [yearOf]
  split
  · rename_i hbefore
    rw [Int.sub_add_cancel]
    refine ⟨?_, hbefore⟩
    unfold daysBeforeYear
    omega
  · rename_i hbefore
    split
    · rename_i hafter
      refine ⟨hafter, ?_⟩
      unfold daysBeforeYear
      omega
    · rename_i hafter
      exact ⟨Int.not_lt.mp hbefore, Int.not_le.mp hafter⟩

theorem yearOf_mono (h : n ≤ n') : yearOf n ≤ yearOf n' := by
  have hspec := yearOf_spec n
  have hspec' := yearOf_spec n'
  by_contra hlt
  have hmono : daysBeforeYear (yearOf n' + 1) ≤ daysBeforeYear (yearOf n) := daysBeforeYear_mono (by omega)
  omega

/-! ### Months -/

/-- How many days of a year there are before a month, or before the next year. -/
def daysBeforeMonth (leap : Bool) (month : ℕ) : ℕ :=
  [0, 0, 31, 59, 90, 120, 151, 181, 212, 243, 273, 304, 334, 365].getD month 0 +
    if leap ∧ 2 < month then 1 else 0

/-- The month of a day of a year. -/
def monthOf (leap : Bool) (day : ℕ) : ℕ := (List.range 12).countP fun k => daysBeforeMonth leap (k + 1) ≤ day

theorem monthOf_mono (leap : Bool) {day day' : ℕ} (h : day ≤ day') :
    monthOf leap day ≤ monthOf leap day' := by
  refine List.countP_mono_left fun k _ hk => ?_
  rw [decide_eq_true_eq] at hk ⊢
  exact Nat.le_trans hk h

theorem monthOf_ends : ∀ (leap : Bool), ∀ month < 12,
    monthOf leap (daysBeforeMonth leap (month + 1)) = month + 1 ∧
      monthOf leap (daysBeforeMonth leap (month + 2) - 1) = month + 1 ∧
      daysBeforeMonth leap (month + 2) ≤ daysBeforeMonth leap (month + 1) + 31 := by
  decide

theorem exists_month {leap : Bool} {day n : ℕ} (h : day < daysBeforeMonth leap (n + 1)) :
    ∃ month < n, daysBeforeMonth leap (month + 1) ≤ day ∧ day < daysBeforeMonth leap (month + 2) := by
  induction n with
  | zero =>
    have hnone : daysBeforeMonth leap (0 + 1) = 0 := by cases leap <;> rfl
    rw [hnone] at h
    exact absurd h (Nat.not_lt_zero day)
  | succ n ih =>
    rcases Nat.lt_or_ge day (daysBeforeMonth leap (n + 1)) with hlt | hge
    · obtain ⟨month, hmonth, hday⟩ := ih hlt
      exact ⟨month, Nat.lt_succ_of_lt hmonth, hday⟩
    · exact ⟨n, Nat.lt_succ_self n, hge, h⟩

/-- **The month of a day.** -/
theorem monthOf_spec {leap : Bool} {day : ℕ} (h : day < 365 + if leap then 1 else 0) :
    1 ≤ monthOf leap day ∧ monthOf leap day ≤ 12 ∧ daysBeforeMonth leap (monthOf leap day) ≤ day ∧
      day < daysBeforeMonth leap (monthOf leap day + 1) ∧
      day < daysBeforeMonth leap (monthOf leap day) + 31 := by
  have hyear : daysBeforeMonth leap (12 + 1) = 365 + if leap then 1 else 0 := by cases leap <;> rfl
  obtain ⟨month, hlt, hfirst, hlast⟩ := exists_month (hyear ▸ h)
  obtain ⟨hmonth, hmonth', hlength⟩ := monthOf_ends leap month hlt
  have hlower := monthOf_mono leap hfirst
  have hupper := monthOf_mono leap (Nat.le_sub_one_of_lt hlast)
  rw [hmonth] at hlower
  rw [hmonth'] at hupper
  rw [Nat.le_antisymm hupper hlower]
  exact ⟨Nat.succ_pos month, hlt, hfirst, hlast, Nat.lt_of_lt_of_le hlast hlength⟩

/-! ### Dates -/

/-- A date. -/
@[ext]
structure Date where
  year : ℤ
  month : ℕ
  day : ℕ
  deriving DecidableEq, Repr

/-- The one date is before the other one. -/
def Date.Before (d d' : Date) : Prop :=
  d.year < d'.year ∨ d.year = d'.year ∧ (d.month < d'.month ∨ d.month = d'.month ∧ d.day < d'.day)

/-- The date of a day. -/
def dateOf (n : ℤ) : Date :=
  let year := yearOf n
  let day := (n - daysBeforeYear year).toNat
  let month := monthOf (isLeap year) day
  { year, month, day := day - daysBeforeMonth (isLeap year) month + 1 }

example : dateOf 719528 = ⟨1970, 1, 1⟩ := by decide

example : dateOf 738215 = ⟨2021, 3, 1⟩ := by decide

theorem dayOfYear_spec (n : ℤ) :
    daysBeforeYear (yearOf n) + (n - daysBeforeYear (yearOf n)).toNat = n ∧
      (n - daysBeforeYear (yearOf n)).toNat < 365 + if isLeap (yearOf n) then 1 else 0 := by
  have hspec := yearOf_spec n
  rw [daysBeforeYear_succ] at hspec
  by_cases hleap : isLeap (yearOf n) = true
  · rw [if_pos hleap] at hspec ⊢
    omega
  · rw [if_neg hleap] at hspec ⊢
    omega

/-- **The date of a day** has its number. -/
theorem dateOf_spec (n : ℤ) :
    daysBeforeYear (dateOf n).year + daysBeforeMonth (isLeap (dateOf n).year) (dateOf n).month +
      (dateOf n).day = n + 1 ∧
      1 ≤ (dateOf n).month ∧ (dateOf n).month ≤ 12 ∧ 1 ≤ (dateOf n).day ∧ (dateOf n).day ≤ 31 := by
  obtain ⟨hday, hlt⟩ := dayOfYear_spec n
  obtain ⟨hlower, hupper, hle, -, hmonth⟩ := monthOf_spec hlt
  simp only [dateOf]
  omega

theorem dateOf_inj : dateOf n = dateOf n' ↔ n = n' := by
  constructor
  · intro h
    have hspec := (dateOf_spec n).1
    rw [h, (dateOf_spec n').1] at hspec
    omega
  · rintro rfl
    rfl

theorem Date.Before.irrefl {d d' : Date} (h : d.Before d') : ¬ d'.Before d := by
  unfold Date.Before at h ⊢
  omega

theorem dateOf_before (h : n < n') : (dateOf n).Before (dateOf n') := by
  rcases Int.lt_or_eq_of_le (yearOf_mono (Int.le_of_lt h)) with hlt | heq
  · exact .inl hlt
  · refine .inr ⟨heq, ?_⟩
    have hday := (dayOfYear_spec n).1
    have hday' := (dayOfYear_spec n').1
    have hspec := (dateOf_spec n).1
    have hspec' := (dateOf_spec n').1
    have hmonth : (dateOf n).month ≤ (dateOf n').month := by
      simp only [dateOf]
      rw [← heq] at hday' ⊢
      exact monthOf_mono _ (by omega)
    have hsame : (dateOf n).year = (dateOf n').year := heq
    rw [← hsame] at hspec'
    rcases Nat.lt_or_eq_of_le hmonth with hlt | hmonth
    · exact .inl hlt
    · rw [← hmonth] at hspec' ⊢
      exact .inr ⟨rfl, by omega⟩

/-- **Dates are in the order** of their days. -/
theorem dateOf_before_iff : (dateOf n).Before (dateOf n') ↔ n < n' := by
  refine ⟨fun h => ?_, dateOf_before⟩
  by_contra hle
  rcases Int.lt_or_eq_of_le (Int.not_lt.mp hle) with hlt | rfl
  · exact (dateOf_before hlt).irrefl h
  · exact h.irrefl h

end Botmev.Library.Calendar
