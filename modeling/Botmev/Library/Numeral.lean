import Mathlib.Algebra.Group.Nat.Defs
import Mathlib.Data.List.Induction
import Mathlib.Tactic.Basic

/-!
# Numerals

Strings of digits, most significant first, and the numbers they denote in a base.

## What is proved

* `value_eq_value_iff`: the same digits denote the same number in two bases just when that
  number is below the smaller base.
* `value_lt_base_iff`: that is when every digit but the last is zero.
* `digits?_toDigits`: what a number is written as denotes it.
-/

namespace Botmev.Library.Numeral

/-- The value of a digit, in either case, if it is one of the base. -/
def digit? (base : ℕ) (c : Char) : Option ℕ :=
  let v :=
    if c.isDigit then c.toNat - '0'.toNat
    else if c.isLower then c.toNat - 'a'.toNat + 10
    else if c.isUpper then c.toNat - 'A'.toNat + 10
    else base
  if v < base then some v else none

/-- The values of the digits of a numeral, if all its characters are digits. -/
def digits? (base : ℕ) : List Char → Option (List ℕ)
  | [] => some []
  | c :: cs =>
    match digit? base c, digits? base cs with
    | some d, some ds => some (d :: ds)
    | _, _ => none

/-- The number that digits denote. -/
def value (base : ℕ) (ds : List ℕ) : ℕ := ds.foldl (fun acc d => base * acc + d) 0

@[simp] theorem value_nil (base : ℕ) : value base [] = 0 := rfl

@[simp] theorem value_append_singleton (base : ℕ) (ds : List ℕ) (d : ℕ) :
    value base (ds ++ [d]) = base * value base ds + d := by
  simp only [value, List.foldl_append, List.foldl_cons, List.foldl_nil]

/-- The first digit counts for the power of the base that the others leave room for. -/
theorem value_cons (base d : ℕ) (ds : List ℕ) : value base (d :: ds) = d * base ^ ds.length + value base ds := by
  induction ds using List.reverseRecOn with
  | nil => simp [value]
  | append_singleton ds e ih =>
    rw [← List.cons_append, value_append_singleton, ih, value_append_singleton, List.length_append,
      List.length_singleton, Nat.pow_succ, Nat.mul_add]
    have hcomm : base * (d * base ^ ds.length) = d * (base ^ ds.length * base) := by
      rw [Nat.mul_comm base, Nat.mul_assoc]
    omega

theorem value_append (base : ℕ) (ds es : List ℕ) :
    value base (ds ++ es) = value base ds * base ^ es.length + value base es := by
  induction ds with
  | nil => simp
  | cons d ds ih =>
    rw [List.cons_append, value_cons, value_cons, ih, List.length_append, Nat.pow_add, Nat.add_mul,
      Nat.mul_assoc, Nat.add_assoc]

theorem value_lt {base : ℕ} {ds : List ℕ} (h : ∀ d ∈ ds, d < base) : value base ds < base ^ ds.length := by
  induction ds with
  | nil => exact Nat.one_pos
  | cons d ds ih =>
    rw [List.forall_mem_cons] at h
    have hd : (d + 1) * base ^ ds.length ≤ base * base ^ ds.length := Nat.mul_le_mul_right _ h.1
    have hds := ih h.2
    rw [Nat.add_mul, Nat.one_mul] at hd
    rw [value_cons, List.length_cons, Nat.pow_succ, Nat.mul_comm _ base]
    omega

theorem lt_of_digit? {base d : ℕ} {c : Char} (h : digit? base c = some d) : d < base := by
  simp only [digit?, Option.ite_none_right_eq_some, Option.some.injEq] at h
  exact h.2 ▸ h.1

theorem digits?_cons {base : ℕ} {c : Char} {cs : List Char} {ds : List ℕ} :
    digits? base (c :: cs) = some ds ↔
      ∃ d ds', digit? base c = some d ∧ digits? base cs = some ds' ∧ ds = d :: ds' := by
  rcases hc : digit? base c with _ | d <;> rcases hcs : digits? base cs with _ | ds' <;>
    simp [digits?, hc, hcs, eq_comm]

theorem digits?_append {base : ℕ} {cs cs' : List Char} {ds : List ℕ} :
    digits? base (cs ++ cs') = some ds ↔
      ∃ es es', digits? base cs = some es ∧ digits? base cs' = some es' ∧ ds = es ++ es' := by
  induction cs generalizing ds with
  | nil => simp [digits?, eq_comm]
  | cons c cs ih =>
    rw [List.cons_append, digits?_cons]
    constructor
    · rintro ⟨d, ds', hd, hds, rfl⟩
      obtain ⟨es, es', hes, hes', rfl⟩ := ih.mp hds
      exact ⟨d :: es, es', digits?_cons.mpr ⟨d, es, hd, hes, rfl⟩, hes', rfl⟩
    · rintro ⟨es, es', hes, hes', rfl⟩
      obtain ⟨d, fs, hd, hfs, rfl⟩ := digits?_cons.mp hes
      exact ⟨d, fs ++ es', hd, ih.mpr ⟨fs, es', hfs, hes', rfl⟩, rfl⟩

theorem length_of_digits? {base : ℕ} {cs : List Char} {ds : List ℕ} (h : digits? base cs = some ds) :
    ds.length = cs.length := by
  induction cs generalizing ds with
  | nil =>
    cases h
    rfl
  | cons c cs ih =>
    obtain ⟨d, ds', -, hds, rfl⟩ := digits?_cons.mp h
    rw [List.length_cons, List.length_cons, ih hds]

/-- A string with a character that is no digit is no numeral. -/
theorem digits?_eq_none {base : ℕ} {c : Char} {cs : List Char} (hc : digit? base c = none) (hm : c ∈ cs) :
    digits? base cs = none := by
  induction cs with
  | nil => cases hm
  | cons a cs ih =>
    rcases List.mem_cons.mp hm with rfl | hm
    · simp [digits?, hc]
    · cases ha : digit? base a <;> simp [digits?, ha, ih hm]

theorem lt_of_digits? {base : ℕ} {cs : List Char} {ds : List ℕ} (h : digits? base cs = some ds) :
    ∀ d ∈ ds, d < base := by
  induction cs generalizing ds with
  | nil =>
    cases h
    simp
  | cons c cs ih =>
    obtain ⟨d, ds', hd, hds, rfl⟩ := digits?_cons.mp h
    intro x hx
    rcases List.mem_cons.mp hx with rfl | hx
    · exact lt_of_digit? hd
    · exact ih hds x hx

theorem exists_digits? {base : ℕ} {cs : List Char} (h : ∀ c ∈ cs, digit? base c ≠ none) :
    ∃ ds, digits? base cs = some ds := by
  induction cs with
  | nil => exact ⟨[], rfl⟩
  | cons c cs ih =>
    obtain ⟨d, hd⟩ := Option.ne_none_iff_exists'.mp (h c (by simp))
    obtain ⟨ds, hds⟩ := ih fun x hx => h x (List.mem_cons_of_mem c hx)
    exact ⟨d :: ds, digits?_cons.mpr ⟨d, ds, hd, hds, rfl⟩⟩

theorem digit?_ten_ne_none_iff {c : Char} : digit? 10 c ≠ none ↔ c.isDigit = true := by
  by_cases h : c.isDigit = true
  · have hlt : c.toNat - '0'.toNat < 10 := by
      simp only [Char.isDigit, Bool.and_eq_true, decide_eq_true_eq] at h
      exact Nat.sub_lt_left_of_lt_add h.1 (Nat.lt_succ_of_le h.2)
    simp only [digit?, h, if_true, if_pos hlt, ne_eq, reduceCtorEq, not_false_eq_true]
  · simp only [digit?, h, if_false, Bool.false_eq_true, ne_eq, iff_false, not_not]
    rw [if_neg]
    split_ifs <;> omega

/-- A digit of one base is the same digit of every larger one. -/
theorem digit?_mono {b c d : ℕ} {ch : Char} (hbc : b ≤ c) (h : digit? b ch = some d) :
    digit? c ch = some d := by
  have hd := lt_of_digit? h
  simp only [digit?] at h ⊢
  split_ifs at h ⊢ <;> simp_all <;> omega

/-- A numeral of one base is a numeral of every larger one, with the same digits. -/
theorem digits?_mono {b c : ℕ} {cs : List Char} {ds : List ℕ} (hbc : b ≤ c) (h : digits? b cs = some ds) :
    digits? c cs = some ds := by
  induction cs generalizing ds with
  | nil => exact h
  | cons ch cs ih =>
    obtain ⟨d, ds', hd, hds, rfl⟩ := digits?_cons.mp h
    exact digits?_cons.mpr ⟨d, ds', digit?_mono hbc hd, ih hds, rfl⟩

theorem value_mono {b c : ℕ} (hbc : b ≤ c) (ds : List ℕ) : value b ds ≤ value c ds := by
  induction ds using List.reverseRecOn with
  | nil => exact Nat.le_refl 0
  | append_singleton ds d ih =>
    rw [value_append_singleton, value_append_singleton]
    exact Nat.add_le_add_right (Nat.mul_le_mul hbc ih) d

/-- **Two bases agree on a numeral** just when the number is below the smaller base. -/
theorem value_eq_value_iff {b c : ℕ} (hb : 0 < b) (hbc : b < c) {ds : List ℕ} (hds : ∀ d ∈ ds, d < b) :
    value c ds = value b ds ↔ value b ds < b := by
  induction ds using List.reverseRecOn with
  | nil => simpa only [value_nil, true_iff] using hb
  | append_singleton ds d ih =>
    have ih := ih fun x hx => hds x (List.mem_append_left _ hx)
    have hd : d < b := hds d (by simp)
    rw [value_append_singleton, value_append_singleton, Nat.add_right_cancel_iff]
    rcases Nat.eq_zero_or_pos (value b ds) with h0 | hpos
    · -- The digits before the last denote zero in both bases.
      have hc0 : value c ds = 0 := by rw [ih.mpr (by omega), h0]
      simp only [h0, hc0, Nat.mul_zero, Nat.zero_add, true_iff]
      exact hd
    · -- They denote something, and more of it in the larger base.
      have hlt : b * value b ds < c * value c ds :=
        Nat.lt_of_lt_of_le (Nat.mul_lt_mul_of_pos_right hbc hpos)
          (Nat.mul_le_mul_left c (value_mono (Nat.le_of_lt hbc) ds))
      have hge : b ≤ b * value b ds := Nat.le_mul_of_pos_right b hpos
      constructor <;> intro h <;> omega

/-! ### Zero, one digit, and writing numbers -/

theorem digit?_eq_some_zero_iff {base : ℕ} {c : Char} (hb : 0 < base) :
    digit? base c = some 0 ↔ c = '0' := by
  constructor
  · intro h
    simp only [digit?, Option.ite_none_right_eq_some, Option.some.injEq] at h
    obtain ⟨-, h⟩ := h
    split_ifs at h with hdigit hlower hupper
    · -- Only `'0'` is zero away from `'0'`.
      have hge : '0'.toNat ≤ c.toNat := by
        simp only [Char.isDigit, Bool.and_eq_true, decide_eq_true_eq] at hdigit
        exact hdigit.1
      exact Char.toNat_inj.mp (Nat.le_antisymm (Nat.sub_eq_zero_iff_le.mp h) hge)
    · omega
  · rintro rfl
    simp [digit?, hb]

theorem digits?_append_singleton {base : ℕ} {c : Char} {cs : List Char} {ds : List ℕ} :
    digits? base (cs ++ [c]) = some ds ↔
      ∃ ds' d, digits? base cs = some ds' ∧ digit? base c = some d ∧ ds = ds' ++ [d] := by
  induction cs generalizing ds with
  | nil =>
    rw [List.nil_append, digits?_cons]
    simp only [digits?, Option.some.injEq, exists_and_left, exists_eq_left', List.nil_append]
  | cons a cs ih =>
    simp only [List.cons_append, digits?_cons, ih]
    constructor
    · rintro ⟨x, _, hx, ⟨ds', d, hds', hd, rfl⟩, rfl⟩
      exact ⟨x :: ds', d, ⟨x, ds', hx, hds', rfl⟩, hd, rfl⟩
    · rintro ⟨_, d, ⟨x, ds', hx, hds', rfl⟩, hd, rfl⟩
      exact ⟨x, ds' ++ [d], hx, ⟨ds', d, hds', hd, rfl⟩, rfl⟩

/-- A numeral denotes zero just when all its digits are zero. -/
theorem value_eq_zero_iff {base : ℕ} {cs : List Char} {ds : List ℕ} (hb : 0 < base)
    (h : digits? base cs = some ds) : value base ds = 0 ↔ ∀ c ∈ cs, c = '0' := by
  induction cs using List.reverseRecOn generalizing ds with
  | nil =>
    cases h
    simp
  | append_singleton cs c ih =>
    obtain ⟨ds, d, hds, hd, rfl⟩ := digits?_append_singleton.mp h
    have hzero : c = '0' ↔ d = 0 := by
      rw [← digit?_eq_some_zero_iff hb, hd, Option.some.injEq]
    rw [value_append_singleton, Nat.add_eq_zero_iff, Nat.mul_eq_zero,
      or_iff_right (Nat.ne_of_gt hb), ih hds,
      ← hzero]
    simp [or_imp, forall_and]

/-- A numeral denotes a number below the base just when every digit but the last is zero. -/
theorem value_lt_base_iff {base : ℕ} {cs : List Char} {ds : List ℕ} (hb : 0 < base)
    (h : digits? base cs = some ds) : value base ds < base ↔ ∀ c ∈ cs.dropLast, c = '0' := by
  induction cs using List.reverseRecOn with
  | nil =>
    cases h
    simpa using hb
  | append_singleton cs c _ =>
    obtain ⟨ds, d, hds, hd, rfl⟩ := digits?_append_singleton.mp h
    have hd := lt_of_digit? hd
    rw [value_append_singleton, List.dropLast_concat, ← value_eq_zero_iff hb hds]
    constructor
    · intro hlt
      by_contra hne
      have := Nat.le_mul_of_pos_right base (Nat.pos_of_ne_zero hne)
      omega
    · intro hzero
      rw [hzero]
      omega

theorem digit?_digitChar {base d : ℕ} (hb : base ≤ 16) (hd : d < base) :
    digit? base d.digitChar = some d := by
  have h : ∀ base ≤ 16, ∀ d < base, digit? base d.digitChar = some d := by decide
  exact h base hb d hd

theorem digits?_toDigits {base : ℕ} (hb : 1 < base) (hb' : base ≤ 16) (n : ℕ) :
    ∃ ds, digits? base (Nat.toDigits base n) = some ds ∧ value base ds = n := by
  induction n using Nat.strongRecOn with
  | ind n ih =>
    have hmod : n % base < base := Nat.mod_lt n (by omega)
    have hdigit := digit?_digitChar hb' hmod
    rcases Nat.lt_or_ge n base with hlt | hge
    · rw [Nat.mod_eq_of_lt hlt] at hdigit
      refine ⟨[n], ?_, by simp [value]⟩
      rw [Nat.toDigits_of_lt_base hlt]
      exact digits?_cons.mpr ⟨n, [], hdigit, rfl, rfl⟩
    · obtain ⟨ds, hds, hv⟩ := ih (n / base) (Nat.div_lt_self (by omega) hb)
      refine ⟨ds ++ [n % base], ?_, ?_⟩
      · rw [← Nat.div_add_mod n base, ← Nat.toDigits_append_toDigits hb (Nat.div_pos hge (by omega)) hmod,
          Nat.toDigits_of_lt_base hmod]
        simp only [Nat.div_add_mod]
        exact digits?_append_singleton.mpr ⟨ds, n % base, hds, hdigit, rfl⟩
      · rw [value_append_singleton, hv, Nat.div_add_mod]

end Botmev.Library.Numeral
