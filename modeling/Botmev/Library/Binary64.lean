import Mathlib.Algebra.Ring.Int.Defs
import Mathlib.Algebra.Ring.Nat

/-!
# Double precision arithmetic

Every finite double is a whole number of *units*, the unit being the smallest positive
double `2^–1074`; a finite double is kept as that whole number. So comparisons are
comparisons of integers, sums are exact before they are rounded, and products and
quotients are ratios of integers before they are rounded. Rounding is to nearest, ties
to even, with 53 significant bits.

The two zeros are one value here: a quotient by zero takes the sign of its dividend.
-/

namespace Botmev.Library

/-- A double. -/
inductive Binary64 where
  /-- Not a number. -/
  | nan
  /-- An infinity; `neg` for the negative one. -/
  | inf (neg : Bool)
  /-- A finite value, in units of `2^–1074`. -/
  | finite (units : ℤ)
  deriving DecidableEq, Repr

namespace Binary64

/-- `n / d` to the nearest whole number, ties to even. -/
def roundDiv (n d : ℕ) : ℕ :=
  if 2 * (n % d) < d then n / d
  else if d < 2 * (n % d) then n / d + 1
  else n / d + n / d % 2

/-- `n / d` units to the nearest multiple of a unit with 53 significant bits. -/
def roundUnits (n d : ℕ) : ℕ :=
  let e := (n / d).log2 - 52
  roundDiv n (d * 2 ^ e) * 2 ^ e

/-- The double nearest to `n / d` units; from `2^1024` on, the infinity. -/
def ofRatio (neg : Bool) (n d : ℕ) : Binary64 :=
  let units := roundUnits n d
  if 2 ^ 2098 ≤ units then .inf neg else .finite (if neg then -units else units)

/-- How many units make one. -/
def one : ℕ := 2 ^ 1074

/-- `n as f64`. -/
def ofNat (n : ℕ) : Binary64 := ofRatio false (n * one) 1

/-- The literal `n / 10^k`. -/
def ofDecimal (n k : ℕ) : Binary64 := ofRatio false (n * one) (10 ^ k)

/-- Whether the sign bit of a product or quotient is set. -/
def opposite (a b : ℤ) : Bool := decide (a < 0) != decide (b < 0)

/-- `x * y`. -/
def mul : Binary64 → Binary64 → Binary64
  | .nan, _ | _, .nan => .nan
  | .inf s, .inf t => .inf (s != t)
  | .inf s, .finite b => if b = 0 then .nan else .inf (s != decide (b < 0))
  | .finite a, .inf t => if a = 0 then .nan else .inf (decide (a < 0) != t)
  | .finite a, .finite b => ofRatio (opposite a b) (a.natAbs * b.natAbs) one

/-- `x / y`. -/
def div : Binary64 → Binary64 → Binary64
  | .nan, _ | _, .nan => .nan
  | .inf _, .inf _ => .nan
  | .inf s, .finite b => .inf (s != decide (b < 0))
  | .finite _, .inf _ => .finite 0
  | .finite a, .finite b =>
    if b = 0 then if a = 0 then .nan else .inf (decide (a < 0))
    else ofRatio (opposite a b) (a.natAbs * one) b.natAbs

/-- `x + y`. -/
def add : Binary64 → Binary64 → Binary64
  | .nan, _ | _, .nan => .nan
  | .inf s, .inf t => if s = t then .inf s else .nan
  | .inf s, .finite _ | .finite _, .inf s => .inf s
  | .finite a, .finite b => ofRatio (decide (a + b < 0)) (a + b).natAbs 1

/-- `-x`. -/
def neg : Binary64 → Binary64
  | .nan => .nan
  | .inf s => .inf (!s)
  | .finite a => .finite (-a)

/-- `x < y`: false if either is not a number. -/
def lt : Binary64 → Binary64 → Bool
  | .nan, _ | _, .nan => false
  | .inf s, .inf t => s && !t
  | .inf s, .finite _ => s
  | .finite _, .inf t => !t
  | .finite a, .finite b => decide (a < b)

/-- `x >= y`: false if either is not a number. -/
def ge : Binary64 → Binary64 → Bool
  | .nan, _ | _, .nan => false
  | .inf s, .inf t => !s || t
  | .inf s, .finite _ => !s
  | .finite _, .inf t => t
  | .finite a, .finite b => decide (b ≤ a)

/-- `x <= y`: false if either is not a number. -/
def le (x y : Binary64) : Bool := ge y x

/-- It is a number, no infinity, and above zero. -/
def PositiveFinite (x : Binary64) : Prop := ∃ units, 0 < units ∧ x = .finite units

/-- What is not below or at zero may be positive and finite, the infinity, or not a number. -/
theorem le_zero_eq_false_iff {x : Binary64} :
    le x (.finite 0) = false ↔ x.PositiveFinite ∨ x = .nan ∨ x = .inf false := by
  cases x with
  | nan => simp [le, ge]
  | inf neg => simp [le, ge, PositiveFinite]
  | finite units => simp [le, ge, PositiveFinite]

/-- `x.min(y)`: the other one, if one is not a number. -/
def min (x y : Binary64) : Binary64 :=
  match x, y with
  | .nan, y => y
  | x, .nan => x
  | x, y => if lt y x then y else x

/-- `x.max(y)`: the other one, if one is not a number. -/
def max (x y : Binary64) : Binary64 :=
  match x, y with
  | .nan, y => y
  | x, .nan => x
  | x, y => if lt x y then y else x

/-- `x as u{w}`: towards zero, and to the nearest end of the range outside it; a value
that is not a number is zero. -/
def toUint (w : ℕ) : Binary64 → BitVec w
  | .nan => 0
  | .inf true => 0
  | .inf false => BitVec.ofNat w (2 ^ w - 1)
  | .finite a => BitVec.ofNat w (Nat.min (a.toNat / one) (2 ^ w - 1))

example : toUint 128 (mul (ofNat 50000000000) (ofDecimal 12 1)) = 60000000000 := by decide +kernel

end Binary64

end Botmev.Library
