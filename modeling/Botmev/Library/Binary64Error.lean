import Botmev.Library.Binary64Rounding
import Mathlib.Algebra.Order.Field.Basic
import Mathlib.Data.Nat.Cast.Order.Field
import Mathlib.Tactic.FieldSimp
import Mathlib.Tactic.Linarith
import Mathlib.Tactic.Positivity

/-!
# Rounding errors

Rounding is to the nearest, so it is off by half a step at most, it keeps the order, and a power
of two is kept as it is. A share of a whole is computed in doubles as one minus a quotient: it is
between zero and one, and off by a few roundings. A product with a factor above one is not below
what was multiplied, as such a factor is above one by the last of its bits at least.

## What is proved

* `roundUnits_mono`, `roundUnits_two_pow_mul`: rounding keeps the order, and powers of two.
* `abs_roundUnits_sub_le`: how far it is off.
* `exists_complement`: one minus the quotient of a part and the whole.
* `sub_ge_zero_iff`: which differences are not negative.
* `not_below_ofNat_mul`: a whole number and its product with a factor above one.
* `toUint_ofNat_mul_mono`, `half_le_toUint_ofNat_mul`: products that are truncated.
-/

namespace Botmev.Library.Binary64

/-! ### The order -/

theorem div_le_roundDiv (n d : ℕ) : n / d ≤ roundDiv n d := by
  unfold roundDiv
  split
  · exact le_rfl
  · split <;> exact Nat.le_add_right _ _

theorem roundDiv_mono {n m d : ℕ} (h : n ≤ m) : roundDiv n d ≤ roundDiv m d := by
  rcases (Nat.div_le_div_right (c := d) h).lt_or_eq with hlt | heq
  · exact (roundDiv_le n d).trans (Nat.succ_le_of_lt hlt |>.trans (div_le_roundDiv m d))
  · have hmod : n % d ≤ m % d := by
      have hn := Nat.div_add_mod n d
      have hm := Nat.div_add_mod m d
      rw [heq] at hn
      omega
    unfold roundDiv
    rw [heq]
    split_ifs <;> omega

theorem two_pow_le_div {q : ℕ} (h : 0 < q.log2 - 52) : 2 ^ 52 ≤ q / 2 ^ (q.log2 - 52) := by
  have hq : q ≠ 0 := by
    rintro rfl
    simp at h
  rw [Nat.le_div_iff_mul_le (Nat.two_pow_pos _), ← Nat.pow_add, Nat.add_sub_cancel' (by omega)]
  exact Nat.log2_self_le hq

theorem log2_mono {q r : ℕ} (h : q ≤ r) : q.log2 ≤ r.log2 := by
  rcases Nat.eq_zero_or_pos q with rfl | hq
  · simp
  · rw [Nat.le_log2 (by omega)]
    exact (Nat.log2_self_le hq.ne').trans h

/-- **Rounding keeps the order.** -/
theorem roundUnits_mono {n m : ℕ} (d : ℕ) (h : n ≤ m) : roundUnits n d ≤ roundUnits m d := by
  have hdiv : n / d ≤ m / d := Nat.div_le_div_right h
  unfold roundUnits
  rcases (Nat.sub_le_sub_right (log2_mono hdiv) 52).lt_or_eq with hlt | heq
  · -- the steps of the larger one are wider, and its first 53 bits are no fewer than those of the other
    have hsmall : roundDiv n (d * 2 ^ ((n / d).log2 - 52)) ≤ 2 ^ 53 := by
      refine (roundDiv_le _ _).trans ?_
      rw [← Nat.div_div_eq_div_mul]
      exact div_two_pow_lt (n / d)
    have hlarge : 2 ^ 52 ≤ roundDiv m (d * 2 ^ ((m / d).log2 - 52)) := by
      refine le_trans ?_ (div_le_roundDiv _ _)
      rw [← Nat.div_div_eq_div_mul]
      exact two_pow_le_div (by omega)
    calc roundDiv n (d * 2 ^ ((n / d).log2 - 52)) * 2 ^ ((n / d).log2 - 52)
        ≤ 2 ^ 53 * 2 ^ ((n / d).log2 - 52) := Nat.mul_le_mul_right _ hsmall
      _ = 2 ^ 52 * 2 ^ ((n / d).log2 - 52 + 1) := by rw [Nat.pow_succ, Nat.pow_succ]; ring
      _ ≤ 2 ^ 52 * 2 ^ ((m / d).log2 - 52) := Nat.mul_le_mul_left _ (Nat.pow_le_pow_right (by decide) hlt)
      _ ≤ roundDiv m (d * 2 ^ ((m / d).log2 - 52)) * 2 ^ ((m / d).log2 - 52) := Nat.mul_le_mul_right _ hlarge
  · rw [heq]
    exact Nat.mul_le_mul_right _ (roundDiv_mono h)

theorem roundDiv_mul_self (m : ℕ) {d : ℕ} (hd : 0 < d) : roundDiv (m * d) d = m := by
  unfold roundDiv
  rw [Nat.mul_mod_left, Nat.mul_div_cancel _ hd]
  exact if_pos (by omega)

theorem roundUnits_two_pow_mul (k : ℕ) {d : ℕ} (hd : 0 < d) : roundUnits (2 ^ k * d) d = 2 ^ k := by
  have hle : k - 52 ≤ k := Nat.sub_le k 52
  have hsplit : 2 ^ k * d = 2 ^ (k - (k - 52)) * (d * 2 ^ (k - 52)) := by
    calc 2 ^ k * d = 2 ^ (k - (k - 52)) * 2 ^ (k - 52) * d := by rw [← Nat.pow_add, Nat.sub_add_cancel hle]
      _ = 2 ^ (k - (k - 52)) * (d * 2 ^ (k - 52)) := by ring
  simp only [roundUnits]
  rw [Nat.mul_div_cancel _ hd, Nat.log2_two_pow, hsplit,
    roundDiv_mul_self _ (Nat.mul_pos hd (Nat.two_pow_pos _)),
    ← Nat.pow_add, Nat.sub_add_cancel hle]

/-! ### The error -/

theorem two_mul_roundDiv_bounds (n : ℕ) {d : ℕ} (hd : 0 < d) :
    2 * (roundDiv n d * d) ≤ 2 * n + d ∧ 2 * n ≤ 2 * (roundDiv n d * d) + d := by
  have hn := Nat.div_add_mod n d
  have hlt := Nat.mod_lt n hd
  have hpar : n / d % 2 = 0 ∨ n / d % 2 = 1 := Nat.mod_two_eq_zero_or_one _
  rw [Nat.mul_comm] at hn
  unfold roundDiv
  split
  · omega
  · split
    · rw [Nat.add_mul, Nat.one_mul]
      omega
    · rcases hpar with hpar | hpar
      · rw [hpar, Nat.add_zero]
        omega
      · rw [hpar, Nat.add_mul, Nat.one_mul]
        omega

theorem abs_roundDiv_sub_le (n : ℕ) {d : ℕ} (hd : 0 < d) : |(roundDiv n d : ℚ) - n / d| ≤ 1 / 2 := by
  have hd' : (0 : ℚ) < d := by exact_mod_cast hd
  obtain ⟨hle, hge⟩ := two_mul_roundDiv_bounds n hd
  have hle' : 2 * ((roundDiv n d : ℚ) * d) ≤ 2 * n + d := by exact_mod_cast hle
  have hge' : 2 * (n : ℚ) ≤ 2 * (roundDiv n d * d) + d := by exact_mod_cast hge
  have hmul : (n : ℚ) / d * d = n := div_mul_cancel₀ _ hd'.ne'
  rw [abs_le]
  constructor
  · rw [neg_le_sub_iff_le_add, ← mul_le_mul_iff_left₀ hd', hmul]
    linarith
  · rw [sub_le_iff_le_add, ← mul_le_mul_iff_left₀ hd', add_mul, hmul]
    linarith

/-- **The rounding error** is half a unit, or half of the last of 53 bits. -/
theorem abs_roundUnits_sub_le (n : ℕ) {d : ℕ} (hd : 0 < d) :
    |(roundUnits n d : ℚ) - n / d| ≤ 1 / 2 + (n : ℚ) / d / 2 ^ 53 := by
  simp only [roundUnits]
  generalize he : (n / d).log2 - 52 = e
  have hstep : (0 : ℚ) < 2 ^ e := by positivity
  have herror := abs_roundDiv_sub_le n (Nat.mul_pos hd (Nat.two_pow_pos e))
  have hscale : ((roundDiv n (d * 2 ^ e) * 2 ^ e : ℕ) : ℚ) - n / d =
      ((roundDiv n (d * 2 ^ e) : ℚ) - n / (d * 2 ^ e : ℕ)) * 2 ^ e := by
    push_cast
    field_simp
  rw [hscale, abs_mul, abs_of_pos hstep]
  have hhalf := mul_le_mul_of_nonneg_right herror hstep.le
  rcases Nat.eq_zero_or_pos e with rfl | hpos
  · have hquotient : (0 : ℚ) ≤ n / d / 2 ^ 53 := by positivity
    linarith
  · -- the step is below the last bit of the quotient
    have hbits := two_pow_le_div (he ▸ hpos : 0 < (n / d).log2 - 52)
    rw [he, Nat.le_div_iff_mul_le (Nat.two_pow_pos e)] at hbits
    have hquotient : ((n / d : ℕ) : ℚ) ≤ n / d := Nat.cast_div_le
    have hbits' : (2 : ℚ) ^ 52 * 2 ^ e ≤ (n / d : ℕ) := by exact_mod_cast hbits
    have hlast : (1 : ℚ) / 2 * 2 ^ e ≤ n / d / 2 ^ 53 := by
      rw [le_div_iff₀ (by positivity)]
      calc (1 : ℚ) / 2 * 2 ^ e * 2 ^ 53 = 2 ^ 52 * 2 ^ e := by ring
        _ ≤ (n : ℚ) / d := hbits'.trans hquotient
    linarith

/-- The value of a finite double. -/
def value? : Binary64 → Option ℚ
  | .finite units => some (units / one)
  | _ => none

theorem lt_zero_eq_false {x : Binary64} {value : ℚ} (hx : x.value? = some value) (hvalue : 0 ≤ value) :
    x.lt (.finite 0) = false := by
  rcases x with _ | _ | units
  · cases hx
  · cases hx
  · have hone : (0 : ℚ) < one := by exact_mod_cast one_pos
    obtain rfl := Option.some.inj hx
    have hunits : (0 : ℚ) ≤ units := by
      have := mul_nonneg hvalue hone.le
      rwa [div_mul_cancel₀ _ hone.ne'] at this
    have hunits' : 0 ≤ units := by exact_mod_cast hunits
    simpa [lt] using hunits'

/-! ### A part of a whole -/

theorem exists_one_eq_two_pow : ∃ k, 100 ≤ k ∧ k ≤ 1100 ∧ one = 2 ^ k := ⟨1074, by decide, by decide, rfl⟩

theorem ofRatio_of_le {neg : Bool} {n d k : ℕ} (h : roundUnits n d ≤ 2 ^ k) (hk : k < 2098) :
    ofRatio neg n d = .finite (if neg then -(roundUnits n d : ℤ) else roundUnits n d) := by
  have hpow : ∀ limit, 2098 = limit → 2 ^ k < 2 ^ limit := fun limit hlimit =>
    Nat.pow_lt_pow_right Nat.one_lt_two (hlimit ▸ hk)
  unfold ofRatio
  generalize hlimit : 2098 = limit
  exact if_neg (not_le.mpr (h.trans_lt (hpow limit hlimit)))

theorem roundUnits_one : roundUnits one 1 = one := by
  obtain ⟨k, -, -, hk⟩ := exists_one_eq_two_pow
  rw [hk]
  simpa using roundUnits_two_pow_mul k Nat.one_pos

theorem ofNat_of_lt {n : ℕ} (hn : n < 2 ^ 64) : ofNat n = .finite (roundUnits (n * one) 1) := by
  obtain ⟨k, -, hle, hk⟩ := exists_one_eq_two_pow
  refine ofRatio_of_le (k := 64 + k) ?_ (by omega)
  calc roundUnits (n * one) 1 ≤ roundUnits (2 ^ (64 + k) * 1) 1 := by
        rw [Nat.mul_one, Nat.pow_add, hk]
        exact roundUnits_mono 1 (Nat.mul_le_mul_right _ hn.le)
    _ = 2 ^ (64 + k) := roundUnits_two_pow_mul _ Nat.one_pos

theorem ofNat_one : ofNat 1 = .finite one := by rw [ofNat_of_lt (by decide), Nat.one_mul, roundUnits_one]

@[simp] theorem value?_ofNat_one : (ofNat 1).value? = some 1 := by
  have hone : (one : ℚ) ≠ 0 := by exact_mod_cast one_pos.ne'
  rw [ofNat_one, value?]
  exact congrArg some (div_self hone)

/-- A machine integer is off by a half of the last of 53 bits. -/
theorem abs_ofNat_sub_le {n : ℕ} (hn : 0 < n) :
    |(roundUnits (n * one) 1 : ℚ) - n * one| ≤ n * one / 2 ^ 52 := by
  obtain ⟨k, hge, -, hk⟩ := exists_one_eq_two_pow
  have herror := abs_roundUnits_sub_le (n * one) Nat.one_pos
  have hlarge : (2 : ℚ) ^ 100 ≤ n * one := by
    have hlarge : 2 ^ 100 ≤ n * one := by
      rw [hk]
      exact (Nat.pow_le_pow_right (by decide) hge).trans (Nat.le_mul_of_pos_left _ hn)
    exact_mod_cast hlarge
  push_cast at herror
  rw [div_one] at herror
  generalize (n : ℚ) * one = m at *
  linarith

theorem abs_ofNat_sub_le_of_le {part whole : ℕ} (hle : part ≤ whole) :
    |(roundUnits (part * one) 1 : ℚ) - part * one| ≤ 1 / 2 ^ 52 * (whole * one) := by
  have hpos : (0 : ℚ) < one := by exact_mod_cast one_pos
  have hle' : (part : ℚ) ≤ whole := by exact_mod_cast hle
  rcases Nat.eq_zero_or_pos part with hzero | hpart
  · have hv : roundUnits (part * one) 1 = 0 := by rw [hzero, Nat.zero_mul, roundUnits_zero]
    have hwhole : (0 : ℚ) ≤ whole := Nat.cast_nonneg whole
    rw [hv, hzero]
    generalize (one : ℚ) = u at *
    rw [Nat.cast_zero, zero_mul, sub_zero, abs_zero]
    positivity
  · refine (abs_ofNat_sub_le hpart).trans ?_
    generalize (one : ℚ) = u at *
    rw [one_div_mul_eq_div]
    gcongr

/-- The quotient of two values that are each off by a little. -/
theorem abs_div_sub_div_le {v n part whole u δ : ℚ} (hwhole : 0 < whole) (hu : 0 < u) (hpart : 0 ≤ part)
    (hle : part ≤ whole) (hδ : δ ≤ 1 / 2) (hδ' : 0 ≤ δ) (hv : |v - part * u| ≤ δ * (whole * u))
    (hn : |n - whole * u| ≤ δ * (whole * u)) : |v * u / n - part / whole * u| ≤ 4 * δ * u := by
  have hhalf : whole * u / 2 ≤ n := by
    have hsmall : δ * (whole * u) ≤ 1 / 2 * (whole * u) := mul_le_mul_of_nonneg_right hδ (by positivity)
    linarith [(abs_le.mp hn).1]
  have hpos : 0 < n := lt_of_lt_of_le (by positivity) hhalf
  have hcross : |v * whole - part * n| ≤ 2 * δ * (whole * u) * whole := by
    calc |v * whole - part * n| = |(v - part * u) * whole - part * (n - whole * u)| := by
          congr 1
          ring
      _ ≤ |v - part * u| * whole + part * |n - whole * u| := by
          refine (abs_sub _ _).trans_eq ?_
          rw [abs_mul, abs_mul, abs_of_pos hwhole, abs_of_nonneg hpart]
      _ ≤ δ * (whole * u) * whole + whole * (δ * (whole * u)) := by gcongr
      _ = 2 * δ * (whole * u) * whole := by ring
  have heq : v * u / n - part / whole * u = (v * whole - part * n) * u / (n * whole) := by
    field_simp
  rw [heq, abs_div, abs_mul, abs_of_pos hu, abs_of_pos (mul_pos hpos hwhole),
    div_le_iff₀ (mul_pos hpos hwhole)]
  calc |v * whole - part * n| * u ≤ 2 * δ * (whole * u) * whole * u := by gcongr
    _ = 4 * δ * u * (whole * u / 2 * whole) := by ring
    _ ≤ 4 * δ * u * (n * whole) := by gcongr

/-- The quotient of a part by a whole is at most one, and no step of it overflows. -/
theorem div_of_le {v n : ℕ} (hn : 0 < n) (hle : v ≤ n) :
    (finite (v : ℤ)).div (finite (n : ℤ)) = .finite (roundUnits (v * one) n) ∧
      roundUnits (v * one) n ≤ one := by
  obtain ⟨k, -, hk1100, hk⟩ := exists_one_eq_two_pow
  have hquotient : roundUnits (v * one) n ≤ one := by
    calc roundUnits (v * one) n ≤ roundUnits (2 ^ k * n) n := by
          rw [Nat.mul_comm, hk]
          exact roundUnits_mono n (Nat.mul_le_mul_left _ hle)
      _ = one := by rw [roundUnits_two_pow_mul k hn, hk]
  refine ⟨?_, hquotient⟩
  have hne : (n : ℤ) ≠ 0 := by exact_mod_cast hn.ne'
  have hsign : opposite (v : ℤ) (n : ℤ) = false := by
    simp only [opposite, Int.not_ofNat_neg, decide_false, bne_self_eq_false]
  rw [div, if_neg hne, hsign, Int.natAbs_natCast, Int.natAbs_natCast]
  exact ofRatio_of_le (hquotient.trans_eq hk) (by omega)

theorem one_add_neg_of_le {q : ℕ} (hq : q ≤ one) :
    (finite (one : ℤ)).add (finite (q : ℤ)).neg = .finite (roundUnits (one - q) 1) ∧
      roundUnits (one - q) 1 ≤ one := by
  obtain ⟨k, -, hk1100, hk⟩ := exists_one_eq_two_pow
  have hle : roundUnits (one - q) 1 ≤ one := by
    conv_rhs => rw [← roundUnits_one]
    exact roundUnits_mono 1 (Nat.sub_le _ _)
  refine ⟨?_, hle⟩
  have hdiff : (one : ℤ) + -(q : ℤ) = (one - q : ℕ) := by omega
  have hsign : decide (((one - q : ℕ) : ℤ) < 0) = false := by simp
  rw [neg, add, hdiff, hsign, Int.natAbs_natCast]
  exact ofRatio_of_le (hle.trans_eq hk) (by omega)

/-- **What is left of the whole**: one minus the quotient of a part and the whole is between zero
and one, and off by a few roundings. -/
theorem exists_complement {part whole : ℕ} (hpos : 0 < whole) (hle : part ≤ whole) (hlt : whole < 2 ^ 64) :
    ∃ rate, ((ofNat 1).add ((ofNat part).div (ofNat whole)).neg).value? = some rate ∧ 0 ≤ rate ∧ rate ≤ 1 ∧
      |rate - (1 - part / whole)| ≤ 1 / 2 ^ 49 := by
  obtain ⟨k, hk100, -, hk⟩ := exists_one_eq_two_pow
  rw [ofNat_of_lt (hle.trans_lt hlt), ofNat_of_lt hlt, ofNat_one]
  have hvn : roundUnits (part * one) 1 ≤ roundUnits (whole * one) 1 :=
    roundUnits_mono 1 (Nat.mul_le_mul_right _ hle)
  have hnpos : 0 < roundUnits (whole * one) 1 := by
    refine one_pos.trans_le ?_
    rw [← roundUnits_one]
    exact roundUnits_mono 1 (by rw [roundUnits_one]; exact Nat.le_mul_of_pos_left _ hpos)
  have hwhole := abs_ofNat_sub_le hpos
  have hpart := abs_ofNat_sub_le_of_le hle
  generalize roundUnits (part * one) 1 = v at *
  generalize roundUnits (whole * one) 1 = n at *
  obtain ⟨hdiv, hquotient⟩ := div_of_le hnpos hvn
  have herror := abs_roundUnits_sub_le (v * one) hnpos
  rw [hdiv]
  generalize roundUnits (v * one) n = q at *
  obtain ⟨hadd, hr⟩ := one_add_neg_of_le hquotient
  have herror' := abs_roundUnits_sub_le (one - q) Nat.one_pos
  have hu : (0 : ℚ) < one := by exact_mod_cast one_pos
  have hr' : (roundUnits (one - q) 1 : ℚ) ≤ one := by exact_mod_cast hr
  refine ⟨roundUnits (one - q) 1 / one, by rw [hadd, value?, Int.cast_natCast], ?_⟩
  have hwhole' : (0 : ℚ) < whole := by exact_mod_cast hpos
  have hn' : (0 : ℚ) < n := by exact_mod_cast hnpos
  have hvn' : (v : ℚ) ≤ n := by exact_mod_cast hvn
  have hlarge : (2 : ℚ) ^ 100 ≤ one := by
    have hlarge : 2 ^ 100 ≤ one := by
      rw [hk]
      exact Nat.pow_le_pow_right (by decide) hk100
    exact_mod_cast hlarge
  have hfraction := abs_div_sub_div_le hwhole' hu (Nat.cast_nonneg part) (by exact_mod_cast hle) (by norm_num)
    (by norm_num) hpart (hwhole.trans_eq (by rw [one_div_mul_eq_div]))
  generalize roundUnits (one - q) 1 = r at *
  push_cast [hquotient] at herror herror'
  generalize (one : ℚ) = u at *
  refine ⟨div_nonneg (Nat.cast_nonneg r) hu.le, (div_le_one₀ hu).mpr hr', ?_⟩
  have hle : (v : ℚ) * u / n ≤ u := by
    rw [div_le_iff₀ hn', mul_comm]
    gcongr
  have hq : (0 : ℚ) ≤ q := Nat.cast_nonneg q
  have hsplit : (r : ℚ) / u - (1 - part / whole) = (r - (u - part / whole * u)) / u := by
    field_simp
  rw [hsplit, abs_div, abs_of_pos hu, div_le_iff₀ hu]
  generalize (v : ℚ) * u / n = x at *
  generalize (part : ℚ) / whole * u = y at *
  rw [abs_le] at herror herror' hfraction ⊢
  constructor <;> linarith [herror.1, herror.2, herror'.1, herror'.2, hfraction.1, hfraction.2]

/-! ### A difference -/

theorem roundUnits_pos {n : ℕ} (h : 0 < n) : 0 < roundUnits n 1 := by
  have hone : roundUnits 1 1 = 1 := by simpa using roundUnits_two_pow_mul 0 Nat.one_pos
  calc 0 < roundUnits 1 1 := by rw [hone]; exact Nat.one_pos
    _ ≤ roundUnits n 1 := roundUnits_mono 1 h

theorem ofRatio_ge_zero_iff {neg : Bool} {n : ℕ} :
    (ofRatio neg n 1).ge (.finite 0) = true ↔ neg = false ∨ n = 0 := by
  rcases Nat.eq_zero_or_pos n with rfl | hn
  · rw [ofRatio_zero]
    simp [ge]
  · have hpos := roundUnits_pos hn
    rcases ofRatio_cases neg n 1 with h | h
    · rw [h]
      simp [ge, hn.ne']
    · rw [h]
      cases neg <;> simp [ge, hn.ne', hpos.ne']

/-- **A difference is not negative** where the order is right, and the two are not one infinity. -/
theorem sub_ge_zero_iff {x y : Binary64} :
    (y.add x.neg).ge (.finite 0) = true ↔ x.le y = true ∧ ∀ sign, ¬(x = .inf sign ∧ y = .inf sign) := by
  rcases x with _ | sign | a
  · cases y <;> simp [neg, add, le, ge]
  · rcases y with _ | sign' | b
    · simp [add, le, ge]
    · cases sign <;> cases sign' <;> simp [neg, add, le, ge]
    · simp [neg, add, le, ge]
  · rcases y with _ | sign' | b
    · simp [add, le, ge]
    · simp [neg, add, le, ge]
    · -- Both are finite: the difference is exact before it is rounded.
      rw [neg, add, ofRatio_ge_zero_iff]
      simp only [le, ge, decide_eq_false_iff_not, decide_eq_true_eq, reduceCtorEq, and_self, not_false_eq_true,
        implies_true, and_true, Int.natAbs_eq_zero]
      omega

/-! ### A product -/

theorem roundUnits_mul_self_of_log2 {m d : ℕ} (hd : 0 < d) (h : m.log2 ≤ 52) : roundUnits (m * d) d = m := by
  have hbits : m.log2 - 52 = 0 := by omega
  simp only [roundUnits]
  rw [Nat.mul_div_cancel _ hd, hbits, Nat.pow_zero, Nat.mul_one, Nat.mul_one, roundDiv_mul_self m hd]

/-- **A factor above one** makes up for what was rounded off before and is rounded off after. -/
theorem le_roundUnits_mul (x : ℕ) {u k : ℕ} (hu : 2 ^ k + 2 ^ (k - 52) ≤ u) (hk : 52 ≤ k) :
    x ≤ roundUnits (roundUnits (x * 1) 1 * u) (2 ^ k) := by
  have hd : 0 < 2 ^ k := Nat.two_pow_pos k
  rcases Nat.lt_or_ge 52 x.log2 with hlarge | hsmall
  case inr =>
    -- Nothing was rounded off.
    rw [roundUnits_mul_self_of_log2 Nat.one_pos hsmall]
    calc x = roundUnits (x * 2 ^ k) (2 ^ k) := (roundUnits_mul_self_of_log2 hd hsmall).symm
      _ ≤ roundUnits (x * u) (2 ^ k) := roundUnits_mono _ (Nat.mul_le_mul_left x ((Nat.le_add_right _ _).trans hu))
  have hx : x ≠ 0 := by
    rintro rfl
    simp at hlarge
  obtain ⟨e, he⟩ : ∃ e, x.log2 = 52 + e := ⟨x.log2 - 52, by omega⟩
  have hbelow : x < 2 ^ (53 + e) := (Nat.log2_lt hx).mp (by omega)
  have habove : 2 ^ (52 + e) ≤ x := (Nat.le_log2 hx).mp he.ge
  have hrounded : 2 ^ (52 + e) ≤ roundUnits (x * 1) 1 := by
    rw [← roundUnits_two_pow_mul (52 + e) Nat.one_pos]
    exact roundUnits_mono 1 (Nat.mul_le_mul_right 1 habove)
  -- What was rounded off is less than the step.
  obtain ⟨m, hm, hnear⟩ : ∃ m, roundUnits (x * 1) 1 = m * 2 ^ e ∧ x ≤ (m + 1) * 2 ^ e := by
    have hstep : (x * 1 / 1).log2 - 52 = e := by
      rw [Nat.mul_one, Nat.div_one]
      omega
    refine ⟨roundDiv (x * 1) (1 * 2 ^ e), by simp only [roundUnits, hstep], ?_⟩
    have hpos := Nat.two_pow_pos e
    have hbounds := (two_mul_roundDiv_bounds (x * 1) (Nat.mul_pos Nat.one_pos hpos)).2
    rw [Nat.mul_one, Nat.one_mul] at hbounds
    rw [Nat.mul_one, Nat.one_mul, Nat.add_mul, Nat.one_mul]
    omega
  rw [hm] at hrounded ⊢
  have hproduct : (m + 1) * 2 ^ e * 2 ^ k ≤ m * 2 ^ e * u := by
    have hgain : 2 ^ e * 2 ^ k ≤ m * 2 ^ e * 2 ^ (k - 52) := by
      calc 2 ^ e * 2 ^ k = 2 ^ (52 + e) * 2 ^ (k - 52) := by
            rw [← Nat.pow_add, ← Nat.pow_add]
            congr 1
            omega
        _ ≤ m * 2 ^ e * 2 ^ (k - 52) := Nat.mul_le_mul_right _ hrounded
    calc (m + 1) * 2 ^ e * 2 ^ k = m * 2 ^ e * 2 ^ k + 2 ^ e * 2 ^ k := by ring
      _ ≤ m * 2 ^ e * 2 ^ k + m * 2 ^ e * 2 ^ (k - 52) := Nat.add_le_add_left hgain _
      _ = m * 2 ^ e * (2 ^ k + 2 ^ (k - 52)) := (Nat.mul_add ..).symm
      _ ≤ m * 2 ^ e * u := Nat.mul_le_mul_left _ hu
  have hquotient : (m + 1) * 2 ^ e ≤ m * 2 ^ e * u / 2 ^ k := (Nat.le_div_iff_mul_le hd).mpr hproduct
  rcases Nat.lt_or_ge (m * 2 ^ e * u / 2 ^ k) (2 ^ (53 + e)) with hwithin | hbeyond
  · -- The step is the same.
    have hlog : (m * 2 ^ e * u / 2 ^ k).log2 - 52 = e := by
      have hpos : m * 2 ^ e * u / 2 ^ k ≠ 0 := by omega
      have hupper := (Nat.log2_lt hpos).mpr hwithin
      have hlower := (Nat.le_log2 hpos).mpr ((habove.trans hnear).trans hquotient)
      omega
    simp only [roundUnits, hlog]
    refine hnear.trans (Nat.mul_le_mul_right _ (le_trans ?_ (div_le_roundDiv _ _)))
    rw [← Nat.div_div_eq_div_mul, Nat.le_div_iff_mul_le (Nat.two_pow_pos e)]
    exact hquotient
  · calc x ≤ 2 ^ (53 + e) := hbelow.le
      _ = roundUnits (2 ^ (53 + e) * 2 ^ k) (2 ^ k) := (roundUnits_two_pow_mul _ hd).symm
      _ ≤ roundUnits (m * 2 ^ e * u) (2 ^ k) :=
        roundUnits_mono _ ((Nat.le_div_iff_mul_le hd).mp hbeyond)

theorem not_below_inf (n : ℕ) : ¬ (inf false).Below n := by simp [Below, ge]

theorem not_below_ofRatio {n m d : ℕ} (h : n * one ≤ roundUnits m d) : ¬ (ofRatio false m d).Below n := by
  rcases ofRatio_cases false m d with hratio | hratio
  · rw [hratio]
    exact not_below_inf n
  · rw [hratio, below_finite_iff]
    simp only [Bool.false_eq_true, if_false, not_lt]
    exact_mod_cast h

theorem mul_natCast (a b : ℕ) : (finite a).mul (finite b) = ofRatio false (a * b) one := by
  have hsign : opposite (a : ℤ) (b : ℤ) = false := by
    simp only [opposite, Int.not_ofNat_neg, decide_false, bne_self_eq_false]
  rw [mul, hsign, Int.natAbs_natCast, Int.natAbs_natCast]

/-- **A whole number is no more than its product** with a factor above one. -/
theorem not_below_ofNat_mul {n : ℕ} {factor : Binary64} (hn : 0 < n) (hrounded : factor.Rounded)
    (hfactor : (ofNat 1).lt factor = true) : ¬ ((ofNat n).mul factor).Below n := by
  obtain ⟨k, hk100, -, hk⟩ := exists_one_eq_two_pow
  have hpos : 0 < roundUnits (n * one) 1 := by
    refine one_pos.trans_le ?_
    rw [← roundUnits_one]
    exact roundUnits_mono 1 (by rw [roundUnits_one]; exact Nat.le_mul_of_pos_left _ hn)
  rw [ofNat_one] at hfactor
  cases factor with
  | nan => cases hfactor
  | inf neg =>
    obtain rfl : neg = false := by simpa [lt] using hfactor
    rcases ofRatio_cases false (n * one) 1 with h | h
    · rw [ofNat, h, mul, bne_self_eq_false]
      exact not_below_inf n
    · have hne : (roundUnits (n * one) 1 : ℤ) ≠ 0 := by exact_mod_cast hpos.ne'
      rw [ofNat, h]
      simp only [Bool.false_eq_true, if_false, mul, if_neg hne, Int.not_ofNat_neg, decide_false, bne_self_eq_false]
      exact not_below_inf n
  | finite units =>
    have hunits : (one : ℤ) < units := by simpa only [lt, decide_eq_true_eq] using hfactor
    obtain ⟨u, rfl⟩ := Int.eq_ofNat_of_zero_le ((Int.natCast_nonneg one).trans hunits.le)
    have hunits : one < u := by exact_mod_cast hunits
    have hshort : Short u := hrounded u rfl
    have hne : (u : ℤ) ≠ 0 := by exact_mod_cast (Nat.zero_lt_of_lt hunits).ne'
    have hmul : n * one ≤ roundUnits (roundUnits (n * one * 1) 1 * u) one := by
      rw [hk] at hunits ⊢
      exact le_roundUnits_mul _ (hshort.two_pow_add_le hunits (by omega)) (by omega)
    rw [Nat.mul_one] at hmul
    rcases ofRatio_cases false (n * one) 1 with h | h
    · rw [ofNat, h]
      simp only [mul, if_neg hne, Int.not_ofNat_neg, decide_false, bne_self_eq_false]
      exact not_below_inf n
    · rw [ofNat, h, if_neg Bool.false_ne_true, mul_natCast]
      exact not_below_ofRatio hmul

/-! ### Truncated products -/

theorem below_ofRatio_of_le {n m d e k : ℕ} (h : roundUnits n d ≤ roundUnits m e)
    (hbelow : (ofRatio false m e).Below k) : (ofRatio false n d).Below k := by
  unfold ofRatio at hbelow ⊢
  generalize 2 ^ 2098 = limit at hbelow ⊢
  by_cases hm : limit ≤ roundUnits m e
  · rw [if_pos hm] at hbelow
    exact absurd hbelow (not_below_inf k)
  · rw [if_neg hm, below_finite_iff] at hbelow
    rw [if_neg (by omega), below_finite_iff]
    simp only [Bool.false_eq_true, if_false] at hbelow ⊢
    exact lt_of_le_of_lt (by exact_mod_cast h) hbelow

theorem toUint_ofRatio_mono {w n m d e : ℕ} (h : roundUnits n d ≤ roundUnits m e) :
    (toUint w (ofRatio false n d)).toNat ≤ (toUint w (ofRatio false m e)).toNat := by
  by_contra hlt
  have hlt := Nat.lt_of_not_le hlt
  have hpos := Nat.zero_lt_of_lt hlt
  have hbound := (toUint w (ofRatio false n d)).isLt
  have hbelow := below_ofRatio_of_le h ((toNat_toUint_lt_iff hpos hbound).mp hlt)
  exact Nat.lt_irrefl _ ((toNat_toUint_lt_iff hpos hbound).mpr hbelow)

/-- **A larger factor** gives no less. -/
theorem toUint_ofNat_mul_mono {w n u u' : ℕ} (hn : n < 2 ^ 64) (h : u ≤ u') :
    (toUint w ((ofNat n).mul (finite u))).toNat ≤ (toUint w ((ofNat n).mul (finite u'))).toNat := by
  rw [ofNat_of_lt hn, mul_natCast, mul_natCast]
  exact toUint_ofRatio_mono (roundUnits_mono _ (Nat.mul_le_mul_left _ h))

/-- **Three quarters** of a whole number, rounded twice, are a half of it at least. -/
theorem mul_one_le_roundUnits {n u : ℕ} (hn : 0 < n) (hu : 3 * one ≤ 4 * u) :
    n * one ≤ 2 * roundUnits (roundUnits (n * one) 1 * u) one := by
  have hcount := (abs_le.mp (abs_ofNat_sub_le hn)).1
  have herror := (abs_le.mp (abs_roundUnits_sub_le (roundUnits (n * one) 1 * u) one_pos)).1
  have hlarge : (100 : ℚ) ≤ n * one := by
    obtain ⟨k, hge, -, hk⟩ := exists_one_eq_two_pow
    have hone : 100 ≤ one := by
      rw [hk]
      exact Nat.le_trans (by decide) (Nat.pow_le_pow_right (by decide : 0 < 2) hge)
    exact_mod_cast Nat.le_trans hone (Nat.le_mul_of_pos_left _ hn)
  have hone : (0 : ℚ) < one := by exact_mod_cast one_pos
  have hu' : (3 : ℚ) / 4 ≤ u / one := by
    rw [le_div_iff₀ hone]
    have : (3 : ℚ) * one ≤ 4 * u := by exact_mod_cast hu
    linarith
  suffices h : (n : ℚ) * one ≤ 2 * roundUnits (roundUnits (n * one) 1 * u) one by exact_mod_cast h
  have hproduct : (3 : ℚ) / 4 * (n * one * (1 - 1 / 2 ^ 52)) ≤
      ((roundUnits (n * one) 1 * u : ℕ) : ℚ) / one := by
    rw [Nat.cast_mul, mul_div_assoc, mul_comm]
    have hcount' : (n : ℚ) * one * (1 - 1 / 2 ^ 52) ≤ roundUnits (n * one) 1 := by linarith
    have hnonneg : (0 : ℚ) ≤ n * one * (1 - 1 / 2 ^ 52) := by
      refine mul_nonneg (by linarith) (by norm_num)
    exact mul_le_mul hcount' hu' (by norm_num) (hnonneg.trans hcount')
  generalize ((roundUnits (n * one) 1 * u : ℕ) : ℚ) / one = product at *
  generalize (n : ℚ) * one = whole at *
  linarith

/-- **Half of a whole number** is no more than its product with three quarters, truncated. -/
theorem half_le_toUint_ofNat_mul {n u : ℕ} (hn : 0 < n) (hlt : n < 2 ^ 64) (hu : 3 * one ≤ 4 * u) :
    n / 2 ≤ (toUint 64 ((ofNat n).mul (finite u))).toNat := by
  rcases Nat.eq_zero_or_pos (n / 2) with hzero | hpos
  · rw [hzero]
    exact Nat.zero_le _
  · rw [ofNat_of_lt hlt, mul_natCast, ← Nat.not_lt, toNat_toUint_lt_iff hpos (by omega)]
    apply not_below_ofRatio
    have hhalf : 2 * (n / 2 * one) ≤ n * one := by
      rw [← Nat.mul_assoc]
      exact Nat.mul_le_mul_right _ (Nat.mul_div_le n 2)
    have hrounded := mul_one_le_roundUnits hn hu
    omega

end Botmev.Library.Binary64
