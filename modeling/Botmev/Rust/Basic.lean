import Botmev.Library.Reading
import Mathlib.Algebra.Ring.Nat

/-!
# Rust values

The types the source is written with: machine integers are bit vectors of their width,
hashes and addresses are the bit vectors of their bytes, `Bytes` and `Vec<u8>` are lists
of bytes. A call fails with an `anyhow` error or by panicking, and the two are kept
apart. The arithmetic of `U256` panics when it overflows, in every build; that of machine
integers panics in a build with overflow checks, which is the one modelled.
-/

namespace Botmev.Rust

/-- Why a call has no value: an `Err` with its message, or a panic. -/
inductive Failure where
  /-- `Err(anyhow!(message))`. -/
  | err (message : String)
  /-- A panic. -/
  | panic (message : String)
  deriving DecidableEq, Repr

/-- What a fallible call gives. -/
abbrev Result (α : Type) := Except Failure α

/-- `u64`. -/
abbrev U64 := BitVec 64

/-- `u128`. -/
abbrev U128 := BitVec 128

/-- `ethers::types::U256`. -/
abbrev U256 := BitVec 256

/-- `ethers::types::Address`. -/
abbrev Address := BitVec 160

/-- `ethers::types::H256`. -/
abbrev H256 := BitVec 256

/-- `ethers::types::Bytes` and `Vec<u8>`. -/
abbrev Bytes := List UInt8

/-- `result.map_err(|e| anyhow!("{what}: {e}"))?`. -/
def orErr {α : Type} (what : String) : Except String α → Result α
  | .ok a => .ok a
  | .error e => .error (.err (what ++ ": " ++ e))

/-- `result?`, the error turned into an `anyhow` one. -/
def anyhow {α : Type} : Except String α → Result α
  | .ok a => .ok a
  | .error e => .error (.err e)

/-- `result.context(what)?`: the error is the context, for one who prints it. -/
def context {α : Type} (what : String) : Except String α → Result α
  | .ok a => .ok a
  | .error _ => .error (.err what)

/-- The same of an `anyhow` result. -/
def recontext {α : Type} (what : String) : Result α → Result α
  | .error (.err _) => .error (.err what)
  | result => result

/-- `option.ok_or_else(|| anyhow!(message))?`. -/
def okOr {α : Type} (message : String) : Option α → Result α
  | some a => .ok a
  | none => .error (.err message)

/-- `if condition { return Err(anyhow!(message)); }`. -/
def bailIf (condition : Bool) (message : String) : Result Unit :=
  if condition then .error (.err message) else .ok ()

/-- `result.ok()`: a panic goes on. -/
def catchErr {α : Type} : Result α → Result (Option α)
  | .ok a => .ok (some a)
  | .error (.err _) => .ok none
  | .error (.panic message) => .error (.panic message)

@[simp] theorem orErr_eq_ok_iff {α : Type} {what : String} {r : Except String α} {a : α} :
    orErr what r = .ok a ↔ r = .ok a := by
  cases r <;> simp [orErr]

@[simp] theorem anyhow_eq_ok_iff {α : Type} {r : Except String α} {a : α} :
    anyhow r = .ok a ↔ r = .ok a := by
  cases r <;> simp [anyhow]

@[simp] theorem context_eq_ok_iff {α : Type} {what : String} {r : Except String α} {a : α} :
    context what r = .ok a ↔ r = .ok a := by
  cases r <;> simp [context]

@[simp] theorem okOr_eq_ok_iff {α : Type} {message : String} {o : Option α} {a : α} :
    okOr message o = .ok a ↔ o = some a := by
  cases o <;> simp [okOr]

@[simp] theorem bailIf_eq_ok_iff {condition : Bool} {message : String} {u : Unit} :
    bailIf condition message = .ok u ↔ condition = false := by
  cases condition <;> simp [bailIf]

@[simp] theorem catchErr_eq_ok_some_iff {α : Type} {r : Result α} {a : α} :
    catchErr r = .ok (some a) ↔ r = .ok a := by
  rcases r with (_ | _) | _ <;> simp [catchErr]

theorem exists_ok_of_isOk {α : Type} {r : Result α} (h : r.isOk = true) : ∃ a, r = .ok a := by
  rcases r with e | a
  · cases h
  · exact ⟨a, rfl⟩

theorem ok_bind {α β : Type} (a : α) (f : α → Result β) : ((.ok a : Result α) >>= f) = f a := rfl

/-- Whether a call panics. -/
def panics {α : Type} : Result α → Bool
  | .error (.panic _) => true
  | _ => false

@[simp] theorem panics_ok {α : Type} (a : α) : panics (.ok a : Result α) = false := rfl

@[simp] theorem panics_err {α : Type} (message : String) : panics (.error (.err message) : Result α) = false := rfl

@[simp] theorem panics_panic {α : Type} (message : String) :
    panics (.error (.panic message) : Result α) = true := rfl

@[simp] theorem panics_okOr {α : Type} (message : String) (o : Option α) : panics (okOr message o) = false := by
  cases o <;> rfl

@[simp] theorem panics_catchErr {α : Type} (r : Result α) : panics (catchErr r) = panics r := by
  rcases r with (_ | _) | _ <;> rfl

@[simp] theorem panics_map {α β : Type} (f : α → β) (r : Result α) : panics (f <$> r) = panics r := by
  rcases r with (_ | _) | _ <;> rfl

/-- A sequence panics where one of its calls does, if those before it return. -/
theorem panics_bind {α β : Type} {r : Result α} {f : α → Result β} :
    panics (r >>= f) = true ↔ panics r = true ∨ ∃ a, r = .ok a ∧ panics (f a) = true := by
  rcases r with (_ | _) | a
  · simp [bind, Except.bind]
  · simp [bind, Except.bind]
  · simp [bind, Except.bind]

/-- The panics of machine integers that overflow. -/
def overflowMessages : List String :=
  ["attempt to add with overflow", "attempt to subtract with overflow", "attempt to multiply with overflow"]

/-- Whether a call panics because a machine integer overflows. -/
def overflows {α : Type} : Result α → Bool
  | .error (.panic message) => decide (message ∈ overflowMessages)
  | _ => false

@[simp] theorem overflows_ok {α : Type} (a : α) : overflows (.ok a : Result α) = false := rfl

@[simp] theorem overflows_err {α : Type} (message : String) :
    overflows (.error (.err message) : Result α) = false := rfl

/-- A sequence overflows where one of its calls does, if those before it return. -/
theorem overflows_bind {α β : Type} {r : Result α} {f : α → Result β} :
    overflows (r >>= f) = true ↔ overflows r = true ∨ ∃ a, r = .ok a ∧ overflows (f a) = true := by
  rcases r with (_ | _) | a
  · simp [bind, Except.bind]
  · simp [bind, Except.bind, overflows]
  · simp [bind, Except.bind]

namespace Uint

variable {w : ℕ}

/-- `a + b`. -/
def add (a b : BitVec w) : Result (BitVec w) :=
  if a.toNat + b.toNat < 2 ^ w then .ok (a + b) else .error (.panic "attempt to add with overflow")

/-- `a - b`. -/
def sub (a b : BitVec w) : Result (BitVec w) :=
  if b ≤ a then .ok (a - b) else .error (.panic "attempt to subtract with overflow")

/-- `a + b`, in a build with overflow checks or in one that wraps around. -/
def addIn (overflowChecks : Bool) (a b : BitVec w) : Result (BitVec w) :=
  if overflowChecks then add a b else .ok (a + b)

/-- `a - b`, the same. -/
def subIn (overflowChecks : Bool) (a b : BitVec w) : Result (BitVec w) :=
  if overflowChecks then sub a b else .ok (a - b)

/-- `a * b`. -/
def mul (a b : BitVec w) : Result (BitVec w) :=
  if a.toNat * b.toNat < 2 ^ w then .ok (a * b) else .error (.panic "attempt to multiply with overflow")

/-- `a.pow(n)`. -/
def pow (a : BitVec w) (n : ℕ) : Result (BitVec w) :=
  if a.toNat ^ n < 2 ^ w then .ok (BitVec.ofNat w (a.toNat ^ n))
  else .error (.panic "attempt to multiply with overflow")

/-- `std::cmp::max(a, b)`. -/
def max (a b : BitVec w) : BitVec w := if a ≤ b then b else a

/-- `a.min(b)`. -/
def min (a b : BitVec w) : BitVec w := if a ≤ b then a else b

/-- `a.saturating_sub(b)`. -/
def saturatingSub (a b : BitVec w) : BitVec w := BitVec.ofNat w (a.toNat - b.toNat)

theorem max_le_iff {a b c : BitVec w} : max a b ≤ c ↔ a ≤ c ∧ b ≤ c := by
  simp only [max, BitVec.le_def]
  split <;> omega

/-- What an operation with an overflow check gives is the number it computes. -/
theorem checked_eq_ok_iff {x c : BitVec w} {n : ℕ} {failure : Failure} (hx : x.toNat = n % 2 ^ w) :
    (if n < 2 ^ w then .ok x else .error failure : Result (BitVec w)) = .ok c ↔ c.toNat = n := by
  split
  · rename_i hlt
    rw [Except.ok.injEq, ← BitVec.toNat_inj, hx, Nat.mod_eq_of_lt hlt]
    exact eq_comm
  · have := c.isLt
    simp only [reduceCtorEq, false_iff]
    omega

theorem add_eq_ok_iff {a b c : BitVec w} : add a b = .ok c ↔ c.toNat = a.toNat + b.toNat :=
  checked_eq_ok_iff (BitVec.toNat_add a b)

theorem exists_add_eq_ok_iff {a b : BitVec w} : (∃ c, add a b = .ok c) ↔ a.toNat + b.toNat < 2 ^ w := by
  constructor
  · rintro ⟨c, h⟩
    rw [← add_eq_ok_iff.mp h]
    exact c.isLt
  · intro hlt
    exact ⟨_, if_pos hlt⟩

/-- A sum that is no sum overflows. -/
theorem overflows_add_iff {a b : BitVec w} : overflows (add a b) = true ↔ 2 ^ w ≤ a.toNat + b.toNat := by
  unfold add
  split
  · simpa using ‹_›
  · exact iff_of_true (by simp [overflows, overflowMessages]) (Nat.le_of_not_lt ‹_›)

theorem sub_of_le {a b : BitVec w} (h : b ≤ a) : sub a b = .ok (a - b) := if_pos h

theorem subIn_of_le {overflowChecks : Bool} {a b : BitVec w} (h : b ≤ a) :
    subIn overflowChecks a b = .ok (a - b) := by
  cases overflowChecks
  · rfl
  · exact sub_of_le h

theorem mul_eq_ok_iff {a b c : BitVec w} : mul a b = .ok c ↔ c.toNat = a.toNat * b.toNat :=
  checked_eq_ok_iff (BitVec.toNat_mul a b)

theorem exists_mul_eq_ok {a b : BitVec w} (h : a.toNat * b.toNat < 2 ^ w) :
    ∃ c, mul a b = .ok c ∧ c.toNat = a.toNat * b.toNat := by
  have hmul : mul a b = .ok (a * b) := if_pos h
  exact ⟨_, hmul, mul_eq_ok_iff.mp hmul⟩

theorem pow_eq_ok_iff {a c : BitVec w} {n : ℕ} : pow a n = .ok c ↔ c.toNat = a.toNat ^ n :=
  checked_eq_ok_iff (BitVec.toNat_ofNat _ w)

theorem toNat_saturatingSub (a b : BitVec w) : (saturatingSub a b).toNat = a.toNat - b.toNat := by
  have hlt : a.toNat - b.toNat < 2 ^ w := Nat.lt_of_le_of_lt (Nat.sub_le _ _) a.isLt
  rw [saturatingSub, BitVec.toNat_ofNat, Nat.mod_eq_of_lt hlt]

end Uint

@[simp] theorem toNat_min {w : ℕ} (a b : BitVec w) : (Uint.min a b).toNat = min a.toNat b.toNat := by
  simp only [Uint.min, BitVec.le_def, Nat.min_def]
  split <;> rfl

namespace U256

/-- `a + b`. -/
def add (a b : U256) : Result U256 :=
  if a.toNat + b.toNat < 2 ^ 256 then .ok (a + b) else .error (.panic "arithmetic operation overflow")

/-- `a - b`. -/
def sub (a b : U256) : Result U256 :=
  if b ≤ a then .ok (a - b) else .error (.panic "arithmetic operation overflow")

/-- `a * b`. -/
def mul (a b : U256) : Result U256 :=
  if a.toNat * b.toNat < 2 ^ 256 then .ok (a * b) else .error (.panic "arithmetic operation overflow")

/-- `a.as_u64()`. -/
def asU64 (a : U256) : Result U64 :=
  if a.toNat < 2 ^ 64 then .ok (a.setWidth 64) else .error (.panic "Integer overflow when casting to u64")

/-- `a.as_u128()`. -/
def asU128 (a : U256) : Result U128 :=
  if a.toNat < 2 ^ 128 then .ok (a.setWidth 128) else .error (.panic "Integer overflow when casting to u128")

/-- `U256::from(x)`, for an unsigned integer that is no wider. -/
def ofUint {w : ℕ} (x : BitVec w) : U256 := x.setWidth 256

/-- `a.to_big_endian(..)`. -/
def toBigEndian (a : U256) : Bytes :=
  (List.range 32).map fun i => UInt8.ofNat (a.toNat / 2 ^ (8 * (31 - i)))

theorem add_eq_ok_iff {a b c : U256} : add a b = .ok c ↔ c.toNat = a.toNat + b.toNat :=
  Uint.checked_eq_ok_iff (BitVec.toNat_add a b)

theorem add_one_eq_ok_iff {a b : U256} : add a 1 = .ok b ↔ b.toNat = a.toNat + 1 := add_eq_ok_iff

theorem add_one_of_lt {a : U256} (h : a.toNat < 2 ^ 64) : add a 1 = .ok (a + 1) := by
  have hone : (1 : U256).toNat = 1 := rfl
  rw [add, if_pos (by omega)]

theorem sub_of_le {a b : U256} (h : b ≤ a) : sub a b = .ok (a - b) := if_pos h

theorem mul_eq_ok_iff {a b c : U256} : mul a b = .ok c ↔ c.toNat = a.toNat * b.toNat :=
  Uint.checked_eq_ok_iff (BitVec.toNat_mul a b)

theorem exists_add_eq_ok_iff {a b : U256} : (∃ c, add a b = .ok c) ↔ a.toNat + b.toNat < 2 ^ 256 := by
  constructor
  · rintro ⟨c, h⟩
    rw [← add_eq_ok_iff.mp h]
    exact c.isLt
  · intro hlt
    exact ⟨_, if_pos hlt⟩

theorem exists_mul_eq_ok_iff {a b : U256} : (∃ c, mul a b = .ok c) ↔ a.toNat * b.toNat < 2 ^ 256 := by
  constructor
  · rintro ⟨c, h⟩
    rw [← mul_eq_ok_iff.mp h]
    exact c.isLt
  · intro hlt
    exact ⟨_, if_pos hlt⟩

theorem asU128_eq_ok_iff {a : U256} {b : U128} : asU128 a = .ok b ↔ b.toNat = a.toNat := by
  unfold asU128
  split
  · rw [Except.ok.injEq, ← BitVec.toNat_inj, BitVec.toNat_setWidth]
    omega
  · have := b.isLt
    simp only [reduceCtorEq, false_iff]
    omega

theorem exists_asU128_eq_ok_iff {a : U256} : (∃ b, asU128 a = .ok b) ↔ a.toNat < 2 ^ 128 := by
  constructor
  · rintro ⟨b, h⟩
    rw [← asU128_eq_ok_iff.mp h]
    exact b.isLt
  · intro hlt
    exact ⟨_, if_pos hlt⟩

theorem asU64_eq_ok_iff {a : U256} {b : U64} : asU64 a = .ok b ↔ b.toNat = a.toNat := by
  unfold asU64
  split
  · rw [Except.ok.injEq, ← BitVec.toNat_inj, BitVec.toNat_setWidth]
    omega
  · have := b.isLt
    simp only [reduceCtorEq, false_iff]
    omega

@[simp] theorem toNat_ofUint_u64 (x : U64) : (ofUint x).toNat = x.toNat := by
  rw [ofUint, BitVec.toNat_setWidth]
  have := x.isLt
  omega

@[simp] theorem toNat_ofUint_u128 (x : U128) : (ofUint x).toNat = x.toNat := by
  rw [ofUint, BitVec.toNat_setWidth]
  have := x.isLt
  omega

end U256

end Botmev.Rust
