import Mathlib.Logic.Function.Basic

/-!
# Asynchronous functions

An asynchronous function runs undisturbed between two of its suspension points. What
is left of one, at a suspension point, is an `Async`: it has returned (`done`), or it
asks for one atomic operation on the state it shares with the other functions (a
section under a lock, a request) and continues with the answer (`await`).

The operations an `Async` may ask for form an `Interface`; a `Handler` says what each
does to the shared state. The same `Async` is read in two ways. Alone, its operations
follow each other with nothing in between: `Async.run`. Among others, every operation
may be separated from the next by operations of the others: `Interleaving`.
-/

namespace Botmev.Library

/-- The atomic operations a function may ask for, and what each answers. -/
structure Interface where
  /-- The operations. -/
  Op : Type
  /-- The answers to an operation. -/
  Reply : Op → Type

/-- What each operation answers, and what it does to the shared state. -/
abbrev Handler (I : Interface) (σ : Type) := (op : I.Op) → σ → I.Reply op × σ

/-- What is left of an asynchronous function that returns `α` or fails with `ε`. -/
inductive Async (I : Interface) (ε α : Type) where
  /-- It has returned, or failed. -/
  | done (r : Except ε α)
  /-- It asks for an operation, and continues with the answer. -/
  | await (op : I.Op) (k : I.Reply op → Async I ε α)

namespace Async

variable {I : Interface} {ε α β γ σ : Type}

/-- One function after another; a failure of the first is the failure of both. -/
def bind : Async I ε α → (α → Async I ε β) → Async I ε β
  | .done (.ok a), f => f a
  | .done (.error e), _ => .done (.error e)
  | .await op k, f => .await op fun reply => (k reply).bind f

instance : Monad (Async I ε) where
  pure a := .done (.ok a)
  bind := bind

/-- A computation that touches no shared state has no suspension point. -/
instance : MonadLift (Except ε) (Async I ε) where
  monadLift r := .done r

/-- Ask for one operation. -/
def request (op : I.Op) : Async I ε (I.Reply op) := .await op fun reply => .done (.ok reply)

/-- The operation it is waiting for, unless it has returned. -/
def next? : Async I ε α → Option I.Op
  | .done _ => none
  | .await op _ => some op

/-- What it has returned, if it has. -/
def result? : Async I ε α → Option (Except ε α)
  | .done r => some r
  | .await _ _ => none

theorem result?_eq_some_iff {t : Async I ε α} {r : Except ε α} : t.result? = some r ↔ t = .done r := by
  cases t <;> simp [result?]

theorem exists_returned {t : Async I ε α} {f : α → β} {b : β}
    (h : t.result?.map (Except.map f) = some (.ok b)) : ∃ a, t = .done (.ok a) ∧ f a = b := by
  rcases t with (e | a) | ⟨op, k⟩
  · cases h
  · cases h
    exact ⟨a, rfl, rfl⟩
  · cases h

@[simp] theorem next?_await (op : I.Op) (k : I.Reply op → Async I ε α) : (await op k).next? = some op := rfl

@[simp] theorem pure_eq (a : α) : (pure a : Async I ε α) = .done (.ok a) := rfl

@[simp] theorem lift_eq (r : Except ε α) : (liftM r : Async I ε α) = .done r := rfl

@[simp] theorem ok_bind (a : α) (f : α → Async I ε β) : (.done (.ok a) : Async I ε α) >>= f = f a := rfl

@[simp] theorem error_bind (e : ε) (f : α → Async I ε β) :
    (.done (.error e) : Async I ε α) >>= f = .done (.error e) := rfl

@[simp] theorem await_bind (op : I.Op) (k : I.Reply op → Async I ε α) (f : α → Async I ε β) :
    Async.await op k >>= f = .await op fun reply => k reply >>= f := rfl

/-! ### Running alone -/

/-- Run with no other function in between: the result, and the state it leaves. -/
def run (h : Handler I σ) : Async I ε α → σ → Except ε α × σ
  | .done r, s => (r, s)
  | .await op k, s => (k (h op s).1).run h (h op s).2

variable {h : Handler I σ} {s s' : σ}

@[simp] theorem run_done (r : Except ε α) (s : σ) : (done r : Async I ε α).run h s = (r, s) := rfl

@[simp] theorem run_await (op : I.Op) (k : I.Reply op → Async I ε α) (s : σ) :
    (Async.await op k).run h s = (k (h op s).1).run h (h op s).2 := rfl

/-- Running on after an operation. -/
theorem run_request_bind (op : I.Op) (f : I.Reply op → Async I ε α) (s : σ) :
    (request op >>= f).run h s = (f (h op s).1).run h (h op s).2 := rfl

/-- Running one after the other, when the first returns. -/
theorem run_bind_of_ok {t : Async I ε α} {a : α} (f : α → Async I ε β) (ht : t.run h s = (.ok a, s')) :
    (t >>= f).run h s = (f a).run h s' := by
  induction t generalizing s with
  | done r =>
    cases ht
    rfl
  | await op k ih => exact ih _ ht

/-- Running one after the other, when the first fails. -/
theorem run_bind_of_error {t : Async I ε α} {e : ε} (f : α → Async I ε β)
    (ht : t.run h s = (.error e, s')) : (t >>= f).run h s = (.error e, s') := by
  induction t generalizing s with
  | done r =>
    cases ht
    rfl
  | await op k ih => exact ih _ ht

/-- Where both return, the first does, and the second after it. -/
theorem exists_of_run_bind {t : Async I ε α} {f : α → Async I ε β} {b : β}
    (h₀ : (t >>= f).run h s = (.ok b, s')) :
    ∃ a s₁, t.run h s = (.ok a, s₁) ∧ (f a).run h s₁ = (.ok b, s') := by
  rcases ht : t.run h s with ⟨e | a, s₁⟩
  · rw [run_bind_of_error f ht] at h₀
    cases h₀
  · rw [run_bind_of_ok f ht] at h₀
    exact ⟨a, s₁, rfl, h₀⟩

end Async

end Botmev.Library
