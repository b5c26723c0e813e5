import Botmev.Library.Binary64
import Mathlib.Algebra.Order.Ring.Nat
import Mathlib.Tactic.Ring

/-!
# Rounded doubles

What an operation has rounded has 53 significant bits at most, so the doubles below a power
of two keep a distance from it. Truncated to a machine integer, a double that is less than
`2^w` leaves room for what is added to it.

## What is proved

* `short_roundUnits`, `rounded_mul`: what is rounded has so few bits.
* `Short.add_le_of_lt`, `Short.two_pow_add_le`: how far it stays from a power of two.
* `toNat_toUint_lt_iff`, `Rounded.toUint_add_le`: what becomes of it as a machine integer.
-/

namespace Botmev.Library.Binary64

/-! ### Significant bits -/

/-- These units have 53 significant bits at most. -/
def Short (units : ℕ) : Prop := ∃ m e, m ≤ 2 ^ 53 ∧ units = m * 2 ^ e

theorem roundDiv_le (n d : ℕ) : roundDiv n d ≤ n / d + 1 := by
  unfold roundDiv
  split
  · omega
  · split
    · omega
    · have := Nat.mod_lt (n / d) (by decide : 0 < 2)
      omega

/-- Without the bits that do not count, a number has 53 of them. -/
theorem div_two_pow_lt (q : ℕ) : q / 2 ^ (q.log2 - 52) < 2 ^ 53 := by
  have hlt : q < 2 ^ (q.log2 + 1) := Nat.lt_log2_self
  have hle : 2 ^ (q.log2 + 1) ≤ 2 ^ (53 + (q.log2 - 52)) := Nat.pow_le_pow_right (by decide) (by omega)
  rw [Nat.div_lt_iff_lt_mul (Nat.two_pow_pos _), ← Nat.pow_add]
  omega

/-- **What is rounded is short.** -/
theorem short_roundUnits (n d : ℕ) : Short (roundUnits n d) := by
  refine ⟨_, _, ?_, rfl⟩
  have hdiv : n / (d * 2 ^ ((n / d).log2 - 52)) < 2 ^ 53 := by
    rw [← Nat.div_div_eq_div_mul]
    exact div_two_pow_lt (n / d)
  exact (roundDiv_le _ _).trans hdiv

/-- **The distance to a power of two.** -/
theorem Short.add_le_of_lt {units k : ℕ} (hshort : Short units) (hlt : units < 2 ^ k) (hk : 53 ≤ k) :
    units + 2 ^ (k - 53) ≤ 2 ^ k := by
  obtain ⟨m, e, hm, rfl⟩ := hshort
  rcases Nat.lt_or_ge e (k - 53) with hsmall | hlarge
  · -- It has not come halfway.
    have hhalf : m * 2 ^ e ≤ 2 ^ (k - 1) := by
      calc m * 2 ^ e ≤ 2 ^ 53 * 2 ^ e := Nat.mul_le_mul_right _ hm
        _ = 2 ^ (53 + e) := (Nat.pow_add ..).symm
        _ ≤ 2 ^ (k - 1) := Nat.pow_le_pow_right (by decide) (by omega)
    have hgap : 2 ^ (k - 53) ≤ 2 ^ (k - 1) := Nat.pow_le_pow_right (by decide) (by omega)
    have hdouble : 2 ^ k = 2 ^ (k - 1) * 2 := by
      rw [← Nat.pow_succ]
      congr 1
      omega
    omega
  · -- Both are multiples of the distance.
    have hunits : 2 ^ (k - 53) ∣ m * 2 ^ e := (Nat.pow_dvd_pow 2 hlarge).mul_left m
    have hpower : 2 ^ (k - 53) ∣ 2 ^ k := Nat.pow_dvd_pow 2 (by omega)
    have := Nat.le_of_dvd (by omega) (Nat.dvd_sub hpower hunits)
    omega

/-- **The next double after a power of two.** -/
theorem Short.two_pow_add_le {units k : ℕ} (hshort : Short units) (hlt : 2 ^ k < units) (hk : 52 ≤ k) :
    2 ^ k + 2 ^ (k - 52) ≤ units := by
  obtain ⟨m, e, hm, rfl⟩ := hshort
  rcases Nat.lt_or_ge e (k - 52) with hsmall | hlarge
  · -- 53 bits of so little worth do not reach that far.
    have hle : m * 2 ^ e ≤ 2 ^ k := by
      calc m * 2 ^ e ≤ 2 ^ 53 * 2 ^ e := Nat.mul_le_mul_right _ hm
        _ = 2 ^ (53 + e) := (Nat.pow_add ..).symm
        _ ≤ 2 ^ k := Nat.pow_le_pow_right (by decide) (by omega)
    omega
  · -- Both are multiples of the distance.
    have hunits : 2 ^ (k - 52) ∣ m * 2 ^ e := (Nat.pow_dvd_pow 2 hlarge).mul_left m
    have hpower : 2 ^ (k - 52) ∣ 2 ^ k := Nat.pow_dvd_pow 2 (by omega)
    have := Nat.le_of_dvd (by omega) (Nat.dvd_sub hunits hpower)
    omega

/-! ### Results of operations -/

/-- If it is finite, it is what an operation can have rounded. -/
def Rounded (x : Binary64) : Prop := ∀ units, x = .finite units → Short units.natAbs

theorem ofRatio_cases (neg : Bool) (n d : ℕ) :
    ofRatio neg n d = .inf neg ∨
      ofRatio neg n d = .finite (if neg then -(roundUnits n d : ℤ) else roundUnits n d) := by
  unfold ofRatio
  generalize 2 ^ 2098 = bound
  exact ite_eq_or_eq _ _ _

theorem rounded_ofRatio (neg : Bool) (n d : ℕ) : (ofRatio neg n d).Rounded := by
  intro units hunits
  rcases ofRatio_cases neg n d with h | h
  · rw [h] at hunits
    cases hunits
  · rw [h] at hunits
    obtain rfl := Binary64.finite.inj hunits
    have habs : (if neg then -(roundUnits n d : ℤ) else roundUnits n d).natAbs = roundUnits n d := by
      cases neg <;> simp
    rw [habs]
    exact short_roundUnits n d

theorem rounded_mul (x y : Binary64) : (x.mul y).Rounded := by
  unfold mul
  split
  case h_6 => exact rounded_ofRatio _ _ _
  case h_4 => split <;> rintro _ ⟨⟩
  case h_5 => split <;> rintro _ ⟨⟩
  all_goals rintro _ ⟨⟩

theorem rounded_add (x y : Binary64) : (x.add y).Rounded := by
  unfold add
  split
  case h_6 => exact rounded_ofRatio _ _ _
  case h_3 => split <;> rintro _ ⟨⟩
  all_goals rintro _ ⟨⟩

theorem roundUnits_zero (d : ℕ) : roundUnits 0 d = 0 := by
  simp [roundUnits, roundDiv]

theorem ofRatio_zero (neg : Bool) (d : ℕ) : ofRatio neg 0 d = .finite 0 := by
  have hsmall (k : ℕ) : ¬ 2 ^ k ≤ 0 := by simp
  have hsign : (if neg then -((0 : ℕ) : ℤ) else ((0 : ℕ) : ℤ)) = 0 := by cases neg <;> rfl
  unfold ofRatio
  rw [roundUnits_zero]
  exact (if_neg (hsmall 2098)).trans (congrArg Binary64.finite hsign)

@[simp] theorem ofNat_zero : ofNat 0 = .finite 0 := by
  rw [ofNat, Nat.zero_mul, ofRatio_zero]

theorem zero_mul_eq (x : Binary64) : (finite 0).mul x = .finite 0 ∨ (finite 0).mul x = .nan := by
  cases x with
  | nan => exact .inr rfl
  | inf neg => exact .inr rfl
  | finite units =>
    rw [mul, Int.natAbs_zero, Nat.zero_mul, ofRatio_zero]
    exact .inl rfl

/-! ### As machine integers -/

/-- It is not at least this whole number: it is less, or not a number. -/
def Below (x : Binary64) (n : ℕ) : Prop := x.ge (.finite (n * one)) = false

instance (x : Binary64) (n : ℕ) : Decidable (x.Below n) := inferInstanceAs (Decidable (_ = _))

theorem exists_one_eq : ∃ k, one = 2 ^ k := ⟨1074, rfl⟩

theorem one_pos : 0 < one := by
  obtain ⟨k, hk⟩ := exists_one_eq
  rw [hk]
  exact Nat.two_pow_pos k

theorem below_finite_iff {units : ℤ} {n : ℕ} : (finite units).Below n ↔ units < n * one := by
  unfold Below ge
  rw [decide_eq_false_iff_not, not_le]

theorem Below.mono {x : Binary64} {n m : ℕ} (h : x.Below n) (hle : n ≤ m) : x.Below m := by
  cases x with
  | nan => rfl
  | inf neg =>
    cases neg
    · cases h
    · rfl
  | finite units =>
    rw [below_finite_iff] at h ⊢
    generalize one = k at h ⊢
    have hmul : n * k ≤ m * k := Nat.mul_le_mul_right k hle
    exact h.trans_le (by exact_mod_cast hmul)

theorem toNat_toUint_finite (w : ℕ) (units : ℤ) :
    (toUint w (.finite units)).toNat = Nat.min (units.toNat / one) (2 ^ w - 1) := by
  have hpos : 0 < 2 ^ w := Nat.two_pow_pos w
  have hle : Nat.min (units.toNat / one) (2 ^ w - 1) ≤ 2 ^ w - 1 := Nat.min_le_right _ _
  rw [toUint, BitVec.toNat_ofNat, Nat.mod_eq_of_lt (by omega)]

theorem toNat_div_one_lt_iff {units : ℤ} {n : ℕ} (hn : 0 < n) : units.toNat / one < n ↔ units < n * one := by
  have hpos : 0 < n * one := Nat.mul_pos hn one_pos
  rw [Nat.div_lt_iff_lt_mul one_pos, ← Nat.cast_mul]
  omega

/-- A double that is truncated is less than a number, if it was, unless it is the last one. -/
theorem toNat_toUint_lt_iff {w n : ℕ} {x : Binary64} (hpos : 0 < n) (hlt : n < 2 ^ w) :
    (toUint w x).toNat < n ↔ x.Below n := by
  cases x with
  | nan => simpa [toUint, Below, ge] using hpos
  | inf neg =>
    cases neg
    · have hlast : 2 ^ w - 1 < 2 ^ w := by omega
      simp only [toUint, Below, ge, BitVec.toNat_ofNat, Nat.mod_eq_of_lt hlast, Bool.not_false, Bool.true_eq_false,
        iff_false]
      omega
    · simpa [toUint, Below, ge] using hpos
  | finite units =>
    rw [toNat_toUint_finite, below_finite_iff, ← toNat_div_one_lt_iff hpos]
    exact min_lt_iff.trans (or_iff_left (by omega))

theorem toNat_toUint_of_not_below {w : ℕ} {x : Binary64} (h : ¬ x.Below (2 ^ w)) :
    (toUint w x).toNat = 2 ^ w - 1 := by
  have hpos : 0 < 2 ^ w := Nat.two_pow_pos w
  cases x with
  | nan => exact absurd rfl h
  | inf neg =>
    cases neg
    · rw [toUint, BitVec.toNat_ofNat, Nat.mod_eq_of_lt (by omega)]
    · exact absurd rfl h
  | finite units =>
    rw [below_finite_iff, ← toNat_div_one_lt_iff hpos] at h
    rw [toNat_toUint_finite]
    exact Nat.min_eq_right (by omega)

/-- **A rounded double leaves room**, if it is less than `2^w`. -/
theorem Rounded.toUint_add_le {w : ℕ} {x : Binary64} (hx : x.Rounded) (hw : 53 ≤ w) (hbelow : x.Below (2 ^ w)) :
    (toUint w x).toNat + 2 ^ (w - 53) ≤ 2 ^ w := by
  have hgap : 2 ^ (w - 53) ≤ 2 ^ w := Nat.pow_le_pow_right (by decide) (by omega)
  cases x with
  | nan => simpa [toUint] using hgap
  | inf neg =>
    cases neg
    · cases hbelow
    · simpa [toUint] using hgap
  | finite units =>
    rw [below_finite_iff] at hbelow
    rw [toNat_toUint_finite]
    rcases le_or_gt units 0 with hneg | hpos
    · rw [Int.toNat_of_nonpos hneg, Nat.zero_div]
      simpa using hgap
    · obtain ⟨m, rfl⟩ := Int.eq_ofNat_of_zero_le hpos.le
      obtain ⟨k, hk⟩ := exists_one_eq
      -- In units, the distance is that to another power of two.
      have hlt : m < 2 ^ (w + k) := by
        rw [Nat.pow_add, ← hk]
        exact_mod_cast hbelow
      have hroom : m + 2 ^ (w + k - 53) ≤ 2 ^ (w + k) := Short.add_le_of_lt (hx m rfl) hlt (by omega)
      have hsplit : w + k - 53 = (w - 53) + k := by omega
      rw [hsplit, Nat.pow_add, Nat.pow_add, ← hk] at hroom
      have hdiv : m / one + 2 ^ (w - 53) ≤ 2 ^ w := by
        rw [← Nat.add_mul_div_right _ _ one_pos]
        exact Nat.div_le_of_le_mul (hroom.trans_eq (Nat.mul_comm _ _))
      exact (Nat.add_le_add_right (Nat.min_le_left _ _) _).trans hdiv

end Botmev.Library.Binary64
