import Botmev.Core.Persistence
import Mathlib.Data.Char
import Mathlib.Data.List.Lex

/-!
# Times as texts

The times that `mev-core/src/persistence.rs` saves are texts as RFC 3339 has them, and SQLite orders the
rows by these texts. The part of a second has as many digits as it takes, so texts of different lengths are
compared.

## What is proved

* `fraction_lt`: how the parts of a second compare.
* `toRfc3339_lt_iff`: in the years from 0 to 9999, the texts are in the order of the times.
-/

namespace Botmev.Core.Persistence

open Botmev.Rust Botmev.Library Calendar FixedWidth

/-- The year of a time has four digits. -/
def InYears (instant : ℤ) : Prop :=
  0 ≤ (dateOf (dayOf (instant / 10 ^ 9))).year ∧ (dateOf (dayOf (instant / 10 ^ 9))).year ≤ 9999

instance (instant : ℤ) : Decidable (InYears instant) := inferInstanceAs (Decidable (_ ∧ _))

/-- What comes after the part of a second. -/
def offset : Text := ['+', '0', '0', ':', '0', '0']

variable {instant instant' : ℤ} {rest rest' : Text}

theorem fraction_cases {nanos : ℕ} (hpos : 0 < nanos) (hlt : nanos < 10 ^ 9) :
    ∃ a x, fraction nanos = '.' :: padded a x ∧ x < 10 ^ a ∧ nanos * 10 ^ a = x * 10 ^ 9 := by
  rw [fraction, if_neg (by omega)]
  split
  · exact ⟨3, nanos / 1000000, rfl, by omega, by omega⟩
  · split
    · exact ⟨6, nanos / 1000, rfl, by omega, by omega⟩
    · exact ⟨9, nanos, rfl, hlt, rfl⟩

/-- **Parts of a second** compare as texts as they do as numbers. -/
theorem fraction_lt {nanos nanos' : ℕ} (hlt : nanos' < 10 ^ 9) (h : nanos < nanos') :
    fraction nanos ++ offset < fraction nanos' ++ offset := by
  obtain ⟨b, y, hfraction', hy, hscaled'⟩ := fraction_cases (by omega) hlt
  rw [hfraction', List.cons_append]
  rcases Nat.eq_zero_or_pos nanos with rfl | hpos
  · exact List.cons_lt_cons_iff.mpr (.inl (by decide))
  · obtain ⟨a, x, hfraction, hx, hscaled⟩ := fraction_cases hpos (by omega)
    rw [hfraction, List.cons_append, List.cons_lt_cons_iff]
    refine .inr ⟨rfl, padded_append_lt (by decide) hx hy ?_⟩
    have hscale : x * 10 ^ b * 10 ^ 9 < y * 10 ^ a * 10 ^ 9 := by
      calc x * 10 ^ b * 10 ^ 9 = nanos * (10 ^ a * 10 ^ b) := by
            rw [Nat.mul_right_comm, ← hscaled, Nat.mul_assoc]
        _ < nanos' * (10 ^ a * 10 ^ b) := Nat.mul_lt_mul_of_pos_right h (by positivity)
        _ = y * 10 ^ a * 10 ^ 9 := by
            rw [Nat.mul_right_comm, ← hscaled', Nat.mul_comm (10 ^ a), Nat.mul_assoc]
    exact Nat.lt_of_mul_lt_mul_right hscale

theorem length_timeText (seconds : ℤ) : (timeText seconds).length = 8 := by
  simp [timeText]

theorem timeText_lt {seconds seconds' : ℤ} (h : seconds % 86400 < seconds' % 86400) :
    timeText seconds ++ rest < timeText seconds' ++ rest' := by
  rw [append_lt_append_iff (by rw [length_timeText, length_timeText])]
  refine .inl ?_
  have hlt : (seconds % 86400).toNat < (seconds' % 86400).toNat := by omega
  have hless : (seconds' % 86400).toNat < 86400 := by omega
  simp only [timeText]
  generalize (seconds % 86400).toNat = n at *
  generalize (seconds' % 86400).toNat = m at *
  rw [append_lt_append_iff (by rw [length_padded, length_padded]),
    padded_lt_padded_iff (by omega) (by omega), padded_inj (by omega) (by omega), List.cons_lt_cons_iff,
    append_lt_append_iff (by rw [length_padded, length_padded]),
    padded_lt_padded_iff (by omega) (by omega), padded_inj (by omega) (by omega), List.cons_lt_cons_iff,
    padded_lt_padded_iff (by omega) (by omega)]
  simp only [Char.lt_irrefl, false_or, true_and]
  omega

theorem dateText_lt {date date' : Date} (h : date.Before date') (hyear : 0 ≤ date.year ∧ date.year ≤ 9999)
    (hyear' : 0 ≤ date'.year ∧ date'.year ≤ 9999) (hmonth : date.month < 100) (hmonth' : date'.month < 100)
    (hday : date.day < 100) (hday' : date'.day < 100) :
    rfc3339Year date.year ++ ('-' :: monthText date ++ rest) <
      rfc3339Year date'.year ++ ('-' :: monthText date' ++ rest') := by
  have hlength : ('-' :: monthText date).length = ('-' :: monthText date').length := by
    rw [List.length_cons, List.length_cons, length_monthText, length_monthText]
  rw [rfc3339Year, rfc3339Year, if_pos hyear, if_pos hyear',
    append_lt_append_iff (by rw [length_padded, length_padded]),
    padded_lt_padded_iff (by omega) (by omega), padded_inj (by omega) (by omega), append_lt_append_iff hlength,
    List.cons_lt_cons_iff, monthText, monthText, append_lt_append_iff (by rw [length_padded, length_padded]),
    padded_lt_padded_iff hmonth hmonth', padded_inj hmonth hmonth', List.cons_lt_cons_iff,
    padded_lt_padded_iff hday hday']
  simp only [Char.lt_irrefl, false_or, true_and]
  rw [Date.Before] at h
  omega

theorem toRfc3339_lt (hyears : InYears instant) (hyears' : InYears instant') (h : instant < instant') :
    toRfc3339 instant < toRfc3339 instant' := by
  simp only [toRfc3339]
  obtain ⟨-, -, hmonth, -, hday⟩ := dateOf_spec (dayOf (instant / 10 ^ 9))
  obtain ⟨-, -, hmonth', -, hday'⟩ := dateOf_spec (dayOf (instant' / 10 ^ 9))
  have hseconds : instant / 10 ^ 9 ≤ instant' / 10 ^ 9 := Int.ediv_le_ediv (by decide) (Int.le_of_lt h)
  rcases Int.lt_or_eq_of_le (dayOf_mono hseconds) with hdays | hdays
  · exact dateText_lt (dateOf_before hdays) hyears hyears' (by omega) (by omega) (by omega) (by omega)
  · rw [← hdays, append_lt_append_iff rfl]
    refine .inr ⟨rfl, ?_⟩
    rw [append_lt_append_iff rfl]
    refine .inr ⟨rfl, List.cons_lt_cons_iff.mpr (.inr ⟨rfl, ?_⟩)⟩
    rw [List.append_assoc, List.append_assoc]
    simp only [dayOf] at hdays
    rcases Int.lt_or_eq_of_le hseconds with hlt | heq
    · exact timeText_lt (by omega)
    · rw [← heq, append_lt_append_iff rfl]
      exact .inr ⟨rfl, fraction_lt (by omega) (by omega)⟩

/-- **The texts are in the order of the times.** -/
theorem toRfc3339_lt_iff (hyears : InYears instant) (hyears' : InYears instant') :
    toRfc3339 instant < toRfc3339 instant' ↔ instant < instant' := by
  constructor
  · intro h
    by_contra hle
    rcases Int.lt_or_eq_of_le (Int.not_lt.mp hle) with hlt | rfl
    · exact List.lt_asymm h (toRfc3339_lt hyears' hyears hlt)
    · exact List.lt_irrefl _ h
  · exact toRfc3339_lt hyears hyears'

example : toRfc3339 1710504000500000000 < toRfc3339 1710504000500000001 := by decide

end Botmev.Core.Persistence
