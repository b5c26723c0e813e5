import Mathlib.Algebra.Group.Nat.Defs
import Mathlib.Tactic.Positivity

/-!
# Numbers of a fixed width

A number that is written with leading zeros, so that it has a fixed number of decimal digits. Compared as
texts, such numbers are in their order; and a text that is put together of parts of fixed widths is
compared part by part.

## What is proved

* `append_lt_append_iff`, `append_eq_append_iff`: texts of two parts.
* `padded_lt_padded_iff`, `padded_inj`: numbers of the same width.
* `padded_append_lt`: parts of a unit, each with as many digits as it takes.
-/

namespace Botmev.Library.FixedWidth

/-! ### Texts of two parts -/

/-- **Part by part**, where the first parts are as long as each other. -/
theorem append_lt_append_iff {a b c d : List Char} (h : a.length = b.length) :
    a ++ c < b ++ d ↔ a < b ∨ a = b ∧ c < d := by
  induction a generalizing b with
  | nil =>
    obtain rfl := List.length_eq_zero_iff.mp h.symm
    simp
  | cons x a ih =>
    cases b with
    | nil => cases h
    | cons y b =>
      rw [List.cons_append, List.cons_append, List.cons_lt_cons_iff, List.cons_lt_cons_iff,
        ih (Nat.succ.inj h), List.cons.injEq]
      constructor
      · rintro (hlt | ⟨hx, hlt | ⟨ha, hlt⟩⟩)
        · exact .inl (.inl hlt)
        · exact .inl (.inr ⟨hx, hlt⟩)
        · exact .inr ⟨⟨hx, ha⟩, hlt⟩
      · rintro ((hlt | ⟨hx, hlt⟩) | ⟨⟨hx, ha⟩, hlt⟩)
        · exact .inl hlt
        · exact .inr ⟨hx, .inl hlt⟩
        · exact .inr ⟨hx, .inr ⟨ha, hlt⟩⟩

theorem append_eq_append_iff {a b c d : List Char} (h : a.length = b.length) :
    a ++ c = b ++ d ↔ a = b ∧ c = d := by
  constructor
  · intro heq
    exact List.append_inj heq h
  · rintro ⟨rfl, rfl⟩
    rfl

/-! ### Numbers -/

/-- So many decimal digits of a number. -/
def padded : ℕ → ℕ → List Char
  | 0, _ => []
  | w + 1, n => padded w (n / 10) ++ [Nat.digitChar (n % 10)]

example : padded 4 75 = ['0', '0', '7', '5'] := by decide

@[simp] theorem length_padded (w n : ℕ) : (padded w n).length = w := by
  induction w generalizing n with
  | zero => rfl
  | succ w ih => rw [padded, List.length_append, ih, List.length_singleton]

theorem digitChar_lt_digitChar_iff {m n : ℕ} (hm : m < 10) (hn : n < 10) :
    [Nat.digitChar m] < [Nat.digitChar n] ↔ m < n := by
  have h : ∀ m < 10, ∀ n < 10, [Nat.digitChar m] < [Nat.digitChar n] ↔ m < n := by decide
  exact h m hm n hn

theorem digitChar_inj {m n : ℕ} (hm : m < 10) (hn : n < 10) :
    [Nat.digitChar m] = [Nat.digitChar n] ↔ m = n := by
  have h : ∀ m < 10, ∀ n < 10, [Nat.digitChar m] = [Nat.digitChar n] ↔ m = n := by decide
  exact h m hm n hn

variable {w m n : ℕ}

theorem padded_inj (hm : m < 10 ^ w) (hn : n < 10 ^ w) : padded w m = padded w n ↔ m = n := by
  induction w generalizing m n with
  | zero =>
    rw [Nat.pow_zero] at hm hn
    simp only [padded, true_iff]
    omega
  | succ w ih =>
    rw [Nat.pow_succ] at hm hn
    rw [padded, padded, append_eq_append_iff (by rw [length_padded, length_padded]), ih (by omega) (by omega),
      digitChar_inj (Nat.mod_lt m (by decide)) (Nat.mod_lt n (by decide))]
    omega

/-- **Numbers of the same width** are in their order. -/
theorem padded_lt_padded_iff (hm : m < 10 ^ w) (hn : n < 10 ^ w) : padded w m < padded w n ↔ m < n := by
  induction w generalizing m n with
  | zero =>
    rw [Nat.pow_zero] at hm hn
    simp only [padded, List.not_lt_nil, false_iff]
    omega
  | succ w ih =>
    rw [Nat.pow_succ] at hm hn
    rw [padded, padded, append_lt_append_iff (by rw [length_padded, length_padded]), ih (by omega) (by omega),
      padded_inj (by omega) (by omega),
      digitChar_lt_digitChar_iff (Nat.mod_lt m (by decide)) (Nat.mod_lt n (by decide))]
    omega

theorem padded_add (w c n : ℕ) : padded (w + c) n = padded w (n / 10 ^ c) ++ padded c (n % 10 ^ c) := by
  induction c generalizing n with
  | zero => simp [padded]
  | succ c ih =>
    have hfirst : n / 10 / 10 ^ c = n / 10 ^ (c + 1) := by rw [Nat.div_div_eq_div_mul, Nat.pow_succ']
    have hlast : n / 10 % 10 ^ c = n % 10 ^ (c + 1) / 10 := by
      rw [Nat.pow_succ', Nat.mod_mul_right_div_self]
    have hdigit : n % 10 = n % 10 ^ (c + 1) % 10 :=
      (Nat.mod_mod_of_dvd n (Dvd.intro_left (10 ^ c) (Nat.pow_succ 10 c).symm)).symm
    rw [← Nat.add_assoc, padded, ih, padded, List.append_assoc, hfirst, hlast, hdigit]

theorem exists_padded_eq_cons (w n : ℕ) : ∃ d cs, d < 10 ∧ padded (w + 1) n = Nat.digitChar d :: cs := by
  induction w generalizing n with
  | zero => exact ⟨n % 10, [], Nat.mod_lt n (by decide), rfl⟩
  | succ w ih =>
    obtain ⟨d, cs, hd, heq⟩ := ih (n / 10)
    exact ⟨d, cs ++ [Nat.digitChar (n % 10)], hd, by rw [padded, heq, List.cons_append]⟩

/-- **Parts of a unit**, with as many digits as each takes, are in their order if what comes after the digits
is less than any. -/
theorem padded_append_lt {a b x y : ℕ} {stop : Char} {rest rest' : List Char}
    (hstop : ∀ d < 10, stop < Nat.digitChar d) (hx : x < 10 ^ a) (hy : y < 10 ^ b)
    (h : x * 10 ^ b < y * 10 ^ a) : padded a x ++ stop :: rest < padded b y ++ stop :: rest' := by
  rcases Nat.le_total a b with hle | hle
  · obtain ⟨c, rfl⟩ := Nat.exists_eq_add_of_le hle
    have hpow : 0 < 10 ^ a := by positivity
    have hless : x * 10 ^ c < y := by
      rw [Nat.pow_add, ← Nat.mul_assoc, Nat.mul_right_comm] at h
      exact Nat.lt_of_mul_lt_mul_right h
    have hsplit := Nat.div_add_mod' y (10 ^ c)
    have hlast : y % 10 ^ c < 10 ^ c := Nat.mod_lt y (by positivity)
    have hfirst : y / 10 ^ c < 10 ^ a := Nat.div_lt_of_lt_mul (by rwa [← Nat.pow_add, Nat.add_comm])
    rw [padded_add, List.append_assoc, append_lt_append_iff (by rw [length_padded, length_padded])]
    rcases Nat.lt_or_ge x (y / 10 ^ c) with hlt | hge
    · exact .inl ((padded_lt_padded_iff hx hfirst).mpr hlt)
    · -- The first digits are the same, and there are others.
      have hx_le : x ≤ y / 10 ^ c := (Nat.le_div_iff_mul_le (by positivity)).mpr (Nat.le_of_lt hless)
      obtain rfl := Nat.le_antisymm hx_le hge
      refine .inr ⟨rfl, ?_⟩
      cases c with
      | zero =>
        rw [Nat.pow_zero, Nat.div_one] at hless
        omega
      | succ c =>
        obtain ⟨d, cs, hd, hdigits⟩ := exists_padded_eq_cons c (y % 10 ^ (c + 1))
        rw [hdigits, List.cons_append]
        exact List.cons_lt_cons_iff.mpr (.inl (hstop d hd))
  · obtain ⟨c, rfl⟩ := Nat.exists_eq_add_of_le hle
    have hless : x < y * 10 ^ c := by
      rw [Nat.add_comm, Nat.pow_add, ← Nat.mul_assoc] at h
      exact Nat.lt_of_mul_lt_mul_right h
    have hfirst : x / 10 ^ c < y := Nat.div_lt_of_lt_mul (by rwa [Nat.mul_comm])
    rw [padded_add, List.append_assoc, append_lt_append_iff (by rw [length_padded, length_padded])]
    exact .inl ((padded_lt_padded_iff (Nat.lt_trans hfirst hy) hy).mpr hfirst)

end Botmev.Library.FixedWidth
