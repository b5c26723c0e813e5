import Botmev.Rust.Basic
import Mathlib.Algebra.Ring.Int.Defs

/-!
# Locks and times

A `std::sync::RwLock` is poisoned by a panic of the one that holds it for writing; to
`unwrap` its guard panics from then on. A `chrono::DateTime<Utc>` is the nanoseconds
since the epoch. Not all are representable: the `Calendar` says which.
-/

namespace Botmev.Rust

/-- `std::sync::RwLock<T>`. -/
structure RwLock (α : Type) where
  /-- What it guards. -/
  value : α
  /-- Whether a holder has panicked. -/
  poisoned : Bool

/-- `RwLock::new(value)`. -/
def RwLock.new {α : Type} (value : α) : RwLock α := ⟨value, false⟩

/-- `lock.write().unwrap()`. -/
def RwLock.write {α : Type} (lock : RwLock α) : Result α :=
  if lock.poisoned then .error (.panic "called `Result::unwrap()` on an `Err` value: PoisonError { .. }")
  else .ok lock.value

/-- `lock.read().unwrap()`. -/
def RwLock.read {α : Type} (lock : RwLock α) : Result α := lock.write

/-- `chrono::DateTime<Utc>`. -/
abbrev DateTime := ℤ

/-- The instants that a `DateTime<Utc>` can be. -/
structure Calendar where
  /-- `DateTime::<Utc>::MIN_UTC`. -/
  first : DateTime
  /-- `DateTime::<Utc>::MAX_UTC`. -/
  last : DateTime

/-- The years from -262143 to 262142. -/
def Calendar.utc : Calendar where
  first := -8334601228800 * 10 ^ 9
  last := 8210266876799 * 10 ^ 9 + 999999999

/-- What `chrono::Utc::now()` can be: it panics at a system time before the epoch. -/
abbrev UtcNow := { time : DateTime // 0 ≤ time ∧ time ≤ Calendar.utc.last }

/-- `now.timestamp() as u64`. -/
def UtcNow.timestamp (now : UtcNow) : U64 := BitVec.ofInt 64 (now.val / 1000000000)

/-- `now.timestamp_millis()`. -/
def UtcNow.timestampMillis (now : UtcNow) : ℤ := now.val / 1000000

theorem UtcNow.toNat_timestamp_lt (now : UtcNow) : now.timestamp.toNat < 2 ^ 63 := by
  have hbound (time : ℤ) (hfirst : 0 ≤ time) (hlast : time ≤ 8210266876799999999999) :
      (BitVec.ofInt 64 (time / 1000000000)).toNat < 2 ^ 63 := by
    rw [BitVec.toNat_ofInt]
    omega
  exact hbound now.val now.property.1 now.property.2

/-- `chrono::Duration::seconds(n)`, in nanoseconds. -/
def durationSeconds (n : ℤ) : Result ℤ :=
  if n.natAbs ≤ (2 ^ 63 - 1) / 1000 then .ok (n * 10 ^ 9) else .error (.panic "TimeDelta::seconds out of bounds")

/-- `time - duration`. -/
def Calendar.sub (calendar : Calendar) (time : DateTime) (duration : ℤ) : Result DateTime :=
  if calendar.first ≤ time - duration ∧ time - duration ≤ calendar.last then .ok (time - duration)
  else .error (.panic "`DateTime - TimeDelta` overflowed")

end Botmev.Rust
