import Botmev.Library.Select

/-!
# What a function asks for

Run alone, a function asks for one operation after the other and gets their answers: its
trace. A function can be used by one that may ask for more (`Async.inl`), and by one that
goes on where it fails (`Async.attempt`).

## What is proved

* `trace_bind_of_ok`: the trace of one function after another.
* `run_attempt`, `trace_attempt` and `run_inl`, `trace_inl`: used by others, a function
  does what it does by itself.
* `run_of_lifts`: and so it does where the state has more in it.
* `Follows.attempt`, `Follows.toSum`: and follows the protocol that it follows by itself.
-/

namespace Botmev.Library

/-- The operations of both. -/
@[reducible] def Interface.sum (I J : Interface) : Interface where
  Op := I.Op ⊕ J.Op
  Reply
    | .inl op => I.Reply op
    | .inr op => J.Reply op

namespace Async

variable {I J : Interface} {ε α β σ τ : Type}

/-- What it asks for, with the answers. -/
def trace (h : Handler I σ) : Async I ε α → σ → List (Sigma I.Reply)
  | .done _, _ => []
  | .await op k, s => ⟨op, (h op s).1⟩ :: (k (h op s).1).trace h (h op s).2

/-- Its result as a value, be it a failure. -/
def attempt : Async I ε α → Async I ε (Except ε α)
  | .done r => .done (.ok r)
  | .await op k => .await op fun reply => (k reply).attempt

/-- The same function, where more may be asked for. -/
def inl : Async I ε α → Async (I.sum J) ε α
  | .done r => .done r
  | .await op k => .await (.inl op) fun reply => (k reply).inl

/-- The operation and its answer, where more may be asked for. -/
def liftStep (step : Sigma I.Reply) : Sigma (I.sum J).Reply := ⟨.inl step.1, step.2⟩

variable {h : Handler I σ} {t : Async I ε α} {s s' : σ}

@[simp] theorem trace_await (op : I.Op) (k : I.Reply op → Async I ε α) (s : σ) :
    (Async.await op k).trace h s = ⟨op, (h op s).1⟩ :: (k (h op s).1).trace h (h op s).2 := rfl

theorem trace_request_bind (op : I.Op) (f : I.Reply op → Async I ε α) (s : σ) :
    (request op >>= f).trace h s = ⟨op, (h op s).1⟩ :: (f (h op s).1).trace h (h op s).2 := rfl

theorem trace_bind_of_ok {a : α} (f : α → Async I ε β) (ht : t.run h s = (.ok a, s')) :
    (t >>= f).trace h s = t.trace h s ++ (f a).trace h s' := by
  induction t generalizing s with
  | done r =>
    cases ht
    rfl
  | await op k ih => exact congrArg _ (ih _ ht)

theorem Within.of_mem_trace {S : I.Op → Prop} (ht : t.Within S) {step : Sigma I.Reply}
    (hstep : step ∈ t.trace h s) : S step.1 := by
  induction t generalizing s with
  | done r => cases hstep
  | await op k ih =>
    rcases List.mem_cons.mp hstep with rfl | hstep
    · exact ht.1
    · exact ih _ (ht.2 _) hstep

theorem Within.attempt {S : I.Op → Prop} (ht : t.Within S) : t.attempt.Within S := by
  induction t with
  | done r => trivial
  | await op k ih => exact ⟨ht.1, fun reply => ih reply (ht.2 reply)⟩

theorem Within.toSum {S : (I.sum J).Op → Prop} (ht : t.Within fun op => S (.inl op)) : t.inl.Within S := by
  induction t with
  | done r => trivial
  | await op k ih => exact ⟨ht.1, fun reply => ih reply (ht.2 reply)⟩

theorem run_attempt (t : Async I ε α) (s : σ) :
    t.attempt.run h s = (.ok (t.run h s).1, (t.run h s).2) := by
  induction t generalizing s with
  | done r => rfl
  | await op k ih => exact ih _ _

theorem trace_attempt (t : Async I ε α) (s : σ) :
    t.attempt.trace h s = t.trace h s := by
  induction t generalizing s with
  | done r => rfl
  | await op k ih => exact congrArg _ (ih _ _)

theorem trace_bind_done (t : Async I ε α) (f : α → Except ε β) (s : σ) :
    (t >>= fun a => .done (f a)).trace h s = t.trace h s := by
  induction t generalizing s with
  | done r => cases r <;> rfl
  | await op k ih => exact congrArg _ (ih _ _)

/-! ### How it ends -/

/-- Whatever it is answered, it ends so. -/
def Ends (Q : Except ε α → Prop) : Async I ε α → Prop
  | .done r => Q r
  | .await _ k => ∀ reply, (k reply).Ends Q

theorem Ends.run {Q : Except ε α → Prop} (ht : t.Ends Q) (h : Handler I σ) (s : σ) : Q (t.run h s).1 := by
  induction t generalizing s with
  | done r => exact ht
  | await op k ih => exact ih _ (ht _) _

theorem Ends.bind {Q : Except ε α → Prop} {Q' : Except ε β → Prop} {f : α → Async I ε β} (ht : t.Ends Q)
    (hok : ∀ a, Q (.ok a) → (f a).Ends Q') (herr : ∀ e, Q (.error e) → Q' (.error e)) : (t >>= f).Ends Q' := by
  induction t with
  | done r =>
    cases r with
    | ok a => exact hok a ht
    | error e => exact herr e ht
  | await op k ih => exact fun reply => ih reply (ht reply)

theorem ends_attempt (t : Async I ε α) : t.attempt.Ends fun r => ∃ result, r = .ok result := by
  induction t with
  | done r => exact ⟨r, rfl⟩
  | await op k ih => exact fun reply => ih reply

/-! ### A state with more in it -/

/-- The operations do the same on a part of the state. -/
def Lifts (g : Handler I τ) (h : Handler I σ) (view : τ → σ) : Prop :=
  ∀ op u, (g op u).1 = (h op (view u)).1 ∧ view (g op u).2 = (h op (view u)).2

theorem run_of_lifts {g : Handler I τ} {view : τ → σ} (hg : Lifts g h view) (t : Async I ε α) (u : τ) :
    (t.run g u).1 = (t.run h (view u)).1 ∧ view (t.run g u).2 = (t.run h (view u)).2 := by
  induction t generalizing u with
  | done r => exact ⟨rfl, rfl⟩
  | await op k ih =>
    obtain ⟨hreply, hview⟩ := hg op u
    rw [run_await, run_await, ← hreply, ← hview]
    exact ih _ _

/-! ### Where more may be asked for -/

variable {g : Handler (I.sum J) τ} {view : τ → σ}

/-- The operations of the one interface do what they do by themselves, on a part of the
state. -/
def Extends (g : Handler (I.sum J) τ) (h : Handler I σ) (view : τ → σ) : Prop :=
  ∀ op u, (g (.inl op) u).1 = (h op (view u)).1 ∧ view (g (.inl op) u).2 = (h op (view u)).2

theorem run_inl (hg : Extends g h view) (t : Async I ε α) (u : τ) :
    (t.inl.run g u).1 = (t.run h (view u)).1 ∧ view (t.inl.run g u).2 = (t.run h (view u)).2 := by
  induction t generalizing u with
  | done r => exact ⟨rfl, rfl⟩
  | await op k ih =>
    obtain ⟨hreply, hview⟩ := hg op u
    rw [run_await, ← hreply, ← hview]
    exact ih _ _

theorem trace_inl (hg : Extends g h view) (t : Async I ε α) (u : τ) :
    t.inl.trace g u = (t.trace h (view u)).map liftStep := by
  induction t generalizing u with
  | done r => rfl
  | await op k ih =>
    obtain ⟨hreply, hview⟩ := hg op u
    rw [trace_await, List.map_cons, ← hreply, ← hview, ← ih]
    rfl

end Async

namespace Protocol

variable {I J : Interface} {ε α β : Type}

/-- A step that touches no shared state, and what is done with its result. -/
theorem follows_lift_bind {P : Protocol I} {ends : P.Phase → Except ε β → Prop} {φ : P.Phase} {r : Except ε α}
    {f : α → Async I ε β} (hok : ∀ a, r = .ok a → P.Follows ends φ (f a))
    (herr : ∀ e, r = .error e → ends φ (.error e)) : P.Follows ends φ ((liftM r : Async I ε α) >>= f) := by
  rcases r with e | a
  · exact herr e rfl
  · exact hok a rfl

theorem Follows.mono {P : Protocol I} {ends ends' : P.Phase → Except ε α → Prop} {φ : P.Phase} {t : Async I ε α}
    (hends : ∀ φ r, ends φ r → ends' φ r) (ht : P.Follows ends φ t) : P.Follows ends' φ t := by
  induction t generalizing φ with
  | done r => exact hends φ r ht
  | await op k ih =>
    intro reply hl
    obtain ⟨φ', hm, hk⟩ := ht reply hl
    exact ⟨φ', hm, ih reply hk⟩

/-- What the protocol says of the operations of the one interface. -/
@[reducible] def left (P : Protocol (I.sum J)) : Protocol I where
  Phase := P.Phase
  legal op reply := P.legal (.inl op) reply
  move φ op reply φ' := P.move φ (.inl op) reply φ'

theorem Follows.toSum {P : Protocol (I.sum J)} {ends : P.Phase → Except ε α → Prop} {φ : P.Phase} {t : Async I ε α}
    (ht : P.left.Follows ends φ t) : P.Follows ends φ t.inl := by
  induction t generalizing φ with
  | done r => exact ht
  | await op k ih =>
    intro reply hl
    obtain ⟨φ', hm, hk⟩ := ht reply hl
    exact ⟨φ', hm, ih reply hk⟩

theorem Follows.attempt {P : Protocol I} {ends : P.Phase → Except ε α → Prop} {φ : P.Phase} {t : Async I ε α}
    (ht : P.Follows ends φ t) :
    P.Follows (fun φ (r : Except ε (Except ε α)) => ∃ r', r = .ok r' ∧ ends φ r') φ t.attempt := by
  induction t generalizing φ with
  | done r => exact ⟨r, rfl, ht⟩
  | await op k ih =>
    intro reply hl
    obtain ⟨φ', hm, hk⟩ := ht reply hl
    exact ⟨φ', hm, ih reply hk⟩

end Protocol

end Botmev.Library
