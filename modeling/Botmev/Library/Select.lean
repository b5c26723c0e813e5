import Botmev.Library.Interleaving
import Mathlib.Data.Nat.Notation

/-!
# Whichever returns first

`select pick left right` runs two functions side by side, inside one: it is polled, does
an operation of one of them, and returns as soon as one has returned, with what that one
returned; the other is dropped where it is. `pick` says which of the two is ready when
both wait.

## What is proved

* `run_select`: where the two do not get in each other's way, the result is the result
  that the first to return has by itself.
* `Protocol.FollowsTo.select`: two functions that stay in one phase of a protocol up to
  their last operation can be selected from.
-/

namespace Botmev.Library

variable {I : Interface} {ε α σ L R : Type}

namespace Async

/-- The left function waits for `op`, and has `left` to do then. -/
def selectAwait (pick : Async I ε Bool) (op : I.Op) (left : I.Reply op → Async I ε α → Async I ε α) :
    Async I ε α → Async I ε α
  | .done r => .done r
  | .await op' k' => do
    if ← pick then .await op fun reply => left reply (.await op' k')
    else .await op' fun reply => selectAwait pick op left (k' reply)

/-- Both, until one of them returns. -/
def select (pick : Async I ε Bool) : Async I ε α → Async I ε α → Async I ε α
  | .done r, _ => .done r
  | .await op k, right => selectAwait pick op (fun reply => select pick (k reply)) right

variable {pick : Async I ε Bool}

@[simp] theorem select_done (r : Except ε α) (right : Async I ε α) :
    select pick (.done r) right = .done r := rfl

@[simp] theorem select_await_done (op : I.Op) (k : I.Reply op → Async I ε α) (r : Except ε α) :
    select pick (.await op k) (.done r) = .done r := rfl

theorem select_await_await (op op' : I.Op) (k : I.Reply op → Async I ε α) (k' : I.Reply op' → Async I ε α) :
    select pick (.await op k) (.await op' k') = (pick >>= fun b =>
      if b then .await op fun reply => select pick (k reply) (.await op' k')
      else .await op' fun reply => select pick (.await op k) (k' reply)) := rfl

/-! ### The result -/

/-- How many operations it takes to return. -/
def steps (h : Handler I σ) : Async I ε α → σ → ℕ
  | .done _, _ => 0
  | .await op k, s => (k (h op s).1).steps h (h op s).2 + 1

/-- Whether the left function, with `m` operations to go, returns before the right one,
with `n` to go, when they are picked in the given order. -/
def leftFirst : (ℕ → Bool) → ℕ → ℕ → Bool
  | _, 0, _ => true
  | _, _ + 1, 0 => false
  | order, m + 1, n + 1 =>
    if order 0 then leftFirst (fun i => order (i + 1)) m (n + 1) else leftFirst (fun i => order (i + 1)) (m + 1) n

/-- All operations it may ask for are in `S`. -/
def Within (S : I.Op → Prop) : Async I ε α → Prop
  | .done _ => True
  | .await op k => S op ∧ ∀ reply, (k reply).Within S

theorem Within.bind {β : Type} {S : I.Op → Prop} {t : Async I ε α} {f : α → Async I ε β} (ht : t.Within S)
    (hf : ∀ a, (f a).Within S) : (t >>= f).Within S := by
  induction t with
  | done r =>
    cases r with
    | ok a => exact hf a
    | error e => trivial
  | await op k ih => exact ⟨ht.1, fun reply => ih reply (ht.2 reply)⟩

theorem Within.request {S : I.Op → Prop} {op : I.Op} (hop : S op) :
    (Async.request op : Async I ε (I.Reply op)).Within S := ⟨hop, fun _ => trivial⟩

theorem Within.lift {S : I.Op → Prop} (r : Except ε α) : (liftM r : Async I ε α).Within S := trivial

theorem Within.mono {S S' : I.Op → Prop} (hS : ∀ op, S op → S' op) {t : Async I ε α} (ht : t.Within S) :
    t.Within S' := by
  induction t with
  | done r => trivial
  | await op k ih => exact ⟨hS op ht.1, fun reply => ih reply (ht.2 reply)⟩

/-- What no operation in `S` touches is the same after a run. -/
theorem Within.view_run {h : Handler I σ} {S : I.Op → Prop} {t : Async I ε α} (ht : t.Within S) (view : σ → L)
    (hview : ∀ op s, S op → view (h op s).2 = view s) (s : σ) : view (t.run h s).2 = view s := by
  induction t generalizing s with
  | done r => rfl
  | await op k ih => exact (ih _ (ht.2 _) _).trans (hview op s ht.1)

/-- What the operations in `S` answer and do to the part `view` of the state depends on
that part only. -/
def Local (h : Handler I σ) (S : I.Op → Prop) (view : σ → L) : Prop :=
  ∀ op s s', S op → view s = view s' → (h op s).1 = (h op s').1 ∧ view (h op s).2 = view (h op s').2

variable {h : Handler I σ} {S : I.Op → Prop} {view : σ → L} {t : Async I ε α} {s s' : σ}

/-- What a function returns depends on its part of the state only. -/
theorem run_eq_of_view_eq (hl : Local h S view) (ht : t.Within S) (hv : view s = view s') :
    (t.run h s).1 = (t.run h s').1 ∧ t.steps h s = t.steps h s' := by
  induction t generalizing s s' with
  | done r => exact ⟨rfl, rfl⟩
  | await op k ih =>
    obtain ⟨hreply, hv'⟩ := hl op s s' ht.1 hv
    have := ih (h op s).1 (ht.2 _) hv'
    rw [steps, steps, run, run, this.1, this.2, hreply]
    exact ⟨rfl, rfl⟩

/-- The two functions, with operations in `SL` and `SR`, have parts of the state of their
own, and the order in which they are picked is another part. -/
structure Separate (h : Handler I σ) (pick : Async I ε Bool) (SL SR : I.Op → Prop) (viewL : σ → L)
    (viewR : σ → R) (order : σ → ℕ → Bool) : Prop where
  /-- The left function's part. -/
  left : Local h SL viewL
  /-- The right function's part. -/
  right : Local h SR viewR
  /-- The left function leaves the other parts alone. -/
  left_frame : ∀ op s, SL op → viewR (h op s).2 = viewR s ∧ order (h op s).2 = order s
  /-- The right function leaves the other parts alone. -/
  right_frame : ∀ op s, SR op → viewL (h op s).2 = viewL s ∧ order (h op s).2 = order s
  /-- To pick takes the next of the order. -/
  pick : ∀ s, ∃ s', pick.run h s = (.ok (order s 0), s') ∧ (order s' = fun i => order s (i + 1)) ∧
    viewL s' = viewL s ∧ viewR s' = viewR s

variable {SL SR : I.Op → Prop} {viewL : σ → L} {viewR : σ → R} {order : σ → ℕ → Bool}
  {left right : Async I ε α}

/-- **The first to return decides**: the result is what it returns by itself. -/
theorem run_select (hsep : Separate h pick SL SR viewL viewR order) (hl : left.Within SL)
    (hr : right.Within SR)
    (s : σ) :
    ((select pick left right).run h s).1 =
      if leftFirst (order s) (left.steps h s) (right.steps h s) then (left.run h s).1 else (right.run h s).1 := by
  induction left generalizing right s with
  | done r => simp only [select_done, run_done, steps, leftFirst, if_true]
  | await op k ihl =>
    induction right generalizing s with
    | done r => simp only [select_await_done, run_done, steps, leftFirst, Bool.false_eq_true, if_false]
    | await op' k' ihr =>
      obtain ⟨s', hpick, horder, hvl, hvr⟩ := hsep.pick s
      -- Both run from `s'` as they do from `s`.
      have hleft := run_eq_of_view_eq (t := Async.await op k) hsep.left hl hvl
      have hright := run_eq_of_view_eq (t := Async.await op' k') hsep.right hr hvr
      rw [select_await_await, run_bind_of_ok _ hpick, ← hleft.1, ← hleft.2, ← hright.1, ← hright.2]
      cases hb : order s 0 with
      | true =>
        have hframe := hsep.left_frame op s' hl.1
        have hright' := run_eq_of_view_eq hsep.right hr hframe.1
        rw [if_pos rfl, run_await, ihl _ (hl.2 _) hr _, hframe.2, horder, hright'.1, hright'.2]
        simp only [steps, leftFirst, hb, if_true, run_await]
        rfl
      | false =>
        have hframe := hsep.right_frame op' s' hr.1
        have hleft' := run_eq_of_view_eq hsep.left hl hframe.1
        rw [if_neg Bool.false_ne_true, run_await, ihr _ (hr.2 _) _, hframe.2, horder, hleft'.1, hleft'.2]
        simp only [steps, leftFirst, hb, Bool.false_eq_true, if_false, run_await]
        rfl

end Async

namespace Protocol

variable {P : Protocol I} {ends : P.Phase → Except ε α → Prop} {φ : P.Phase} {pick : Async I ε Bool}

/-- The function stays in phase `φ` up to its last operation. -/
def FollowsTo (ends : P.Phase → Except ε α → Prop) (φ : P.Phase) : Async I ε α → Prop
  | .done r => ends φ r
  | .await op k => ∀ reply, P.legal op reply →
      P.move φ op reply φ ∧ FollowsTo ends φ (k reply) ∨
        ∃ φ' r, P.move φ op reply φ' ∧ k reply = .done r ∧ ends φ' r

theorem FollowsTo.follows {t : Async I ε α} (ht : P.FollowsTo ends φ t) : P.Follows ends φ t := by
  induction t with
  | done r => exact ht
  | await op k ih =>
    intro reply hl
    rcases ht reply hl with ⟨hm, hk⟩ | ⟨φ', r, hm, hk, he⟩
    · exact ⟨φ, hm, ih reply hk⟩
    · exact ⟨φ', hm, hk ▸ he⟩

/-- One function after another, the first of which stays in the phase throughout. -/
theorem FollowsTo.bind {β : Type} {t : Async I ε β} {f : β → Async I ε α}
    (ht : P.FollowsTo (fun φ' _ => φ' = φ) φ t) (hf : ∀ b, P.FollowsTo ends φ (f b))
    (herr : ∀ e, ends φ (.error e)) : P.FollowsTo ends φ (t >>= f) := by
  have hdone : ∀ r : Except ε β, P.FollowsTo ends φ ((.done r : Async I ε β) >>= f) := by
    rintro (e | b)
    · exact herr e
    · exact hf b
  induction t with
  | done r => exact hdone r
  | await op k ih =>
    intro reply hl
    refine .inl ?_
    show P.move φ op reply φ ∧ P.FollowsTo ends φ (k reply >>= f)
    rcases ht reply hl with ⟨hm, hk⟩ | ⟨_, r, hm, hk, rfl⟩
    · exact ⟨hm, ih reply hk⟩
    · rw [hk]
      exact ⟨hm, hdone r⟩

/-- **Selecting follows the protocol**: the first to leave the phase has returned then,
and the other is dropped. -/
theorem FollowsTo.select {left right : Async I ε α} (hl : P.FollowsTo ends φ left)
    (hr : P.FollowsTo ends φ right)
    (hpick : P.FollowsTo (fun φ' _ => φ' = φ) φ pick) (herr : ∀ e, ends φ (.error e)) :
    P.FollowsTo ends φ (Async.select pick left right) := by
  induction left generalizing right with
  | done r => exact hl
  | await op k ihl =>
    induction right with
    | done r => exact hr
    | await op' k' ihr =>
      rw [Async.select_await_await]
      refine hpick.bind (fun b => ?_) herr
      cases b with
      | true =>
        intro reply hlegal
        rcases hl reply hlegal with ⟨hm, hk⟩ | ⟨φ', r, hm, hk, he⟩
        · exact .inl ⟨hm, ihl reply hk hr⟩
        · refine .inr ⟨φ', r, hm, ?_, he⟩
          show Async.select pick (k reply) (.await op' k') = .done r
          rw [hk, Async.select_done]
      | false =>
        intro reply hlegal
        rcases hr reply hlegal with ⟨hm, hk⟩ | ⟨φ', r, hm, hk, he⟩
        · exact .inl ⟨hm, ihr reply hk⟩
        · refine .inr ⟨φ', r, hm, ?_, he⟩
          show Async.select pick (.await op k) (k' reply) = .done r
          rw [hk, Async.select_await_done]

end Protocol

end Botmev.Library
