import Botmev.Library.Trace
import Mathlib.Algebra.BigOperators.Group.Finset.Piecewise
import Mathlib.Data.Fintype.Basic
import Mathlib.Tactic.Abel

/-!
# Two components

Functions over two components ask now for an operation of the one, now for one of the other. What they do
to a component is what is done to it alone, by functions that follow the protocol of the component: what is
known of it alone goes on to hold.

## What is proved

* `Protocol.Follows.widen`: a function of the first component, among those of both.
* `Protocol.follows_of_within`: a function that asks only for what changes nothing.
* `Pool.left_after_inl`, `Pool.left_after_inr`: what a step does to the first component.
* `Pool.exists_left_phases`: an invariant of the first component alone is one of it among both.
* `Pool.Reach.guarded`: what is known of every run may be made use of in each step.
* `sum_update_add`: a sum over all functions, after one of them has moved on.
-/

namespace Botmev.Library

open Relation

variable {I J : Interface} {ε α β σ τ ι : Type}

/-- What the operations do: each to its own component. -/
def Handler.sum (h₁ : Handler I σ) (h₂ : Handler J τ) : Handler (I.sum J) (σ × τ)
  | .inl op, (s, t) => ((h₁ op s).1, (h₁ op s).2, t)
  | .inr op, (s, t) => ((h₂ op t).1, s, (h₂ op t).2)

/-! ### Protocols -/

namespace Protocol

/-- The protocol of the first component: the operations of the other one change nothing. -/
@[reducible] def widen (P : Protocol I) (J : Interface) : Protocol (I.sum J) where
  Phase := P.Phase
  legal
    | .inl op, reply => P.legal op reply
    | .inr _, _ => True
  move
    | φ, .inl op, reply, φ' => P.move φ op reply φ'
    | φ, .inr _, _, φ' => φ' = φ

variable {P : Protocol I} {ends : P.Phase → Except ε α → Prop} {φ : P.Phase}

theorem Follows.widen {t : Async I ε α} (ht : P.Follows ends φ t) :
    (P.widen J).Follows ends φ (t.inl : Async (I.sum J) ε α) := Follows.toSum ht

theorem follows_inr {op : J.Op} {k : J.Reply op → Async (I.sum J) ε α}
    (hk : ∀ reply, (P.widen J).Follows ends φ (k reply)) : (P.widen J).Follows ends φ (.await (.inr op) k) :=
  fun reply _ => ⟨φ, rfl, hk reply⟩

theorem follows_of_within {S : I.Op → Prop} {t : Async I ε α} (ht : t.Within S)
    (hmove : ∀ op reply, S op → P.move φ op reply φ) (hends : ∀ r, ends φ r) : P.Follows ends φ t := by
  induction t with
  | done r => exact hends r
  | await op k ih => exact fun reply _ => ⟨φ, hmove op reply ht.1, ih reply (ht.2 reply)⟩

end Protocol

/-! ### Pools -/

namespace Pool

/-- What was done to the first component. -/
def leftEvent? : Event (I.sum J) ι → Option (Event I ι)
  | ⟨task, .inl op, reply⟩ => some ⟨task, op, reply⟩
  | ⟨_, .inr _, _⟩ => none

/-- The first component, with what was done to it. -/
def left (p : Pool (I.sum J) ε α (σ × τ) ι) : Pool I ε Unit σ ι where
  shared := p.shared.1
  tasks _ := .done (.ok ())
  history := p.history.filterMap leftEvent?

variable [DecidableEq ι] {h₁ : Handler I σ} {h₂ : Handler J τ} {p p₀ : Pool (I.sum J) ε α (σ × τ) ι} {i : ι}

@[simp] theorem sum_inl (op : I.Op) (s : σ × τ) : h₁.sum h₂ (.inl op) s = ((h₁ op s.1).1, (h₁ op s.1).2, s.2) := rfl

@[simp] theorem sum_inr (op : J.Op) (s : σ × τ) : h₁.sum h₂ (.inr op) s = ((h₂ op s.2).1, s.1, (h₂ op s.2).2) := rfl

/-- **A step of the first component** is one of it alone. -/
theorem left_after_inl (op : I.Op) (k : I.Reply op → Async (I.sum J) ε α) :
    (p.after (h₁.sum h₂) i (.inl op) k).left = p.left.after h₁ i op fun _ => .done (.ok ()) := by
  simp only [left, after, List.filterMap_append, mk.injEq]
  exact ⟨rfl, (Function.update_eq_self i _).symm, rfl⟩

theorem left_after_inr (op : J.Op) (k : J.Reply op → Async (I.sum J) ε α) :
    (p.after (h₁.sum h₂) i (.inr op) k).left = p.left := by
  simp only [left, after, List.filterMap_append, mk.injEq]
  exact ⟨rfl, trivial, List.append_nil _⟩

variable {G : Pool (I.sum J) ε α (σ × τ) ι → ι → Prop} {P : Protocol I} {ends : P.Phase → Except ε α → Prop}

/-- **A component keeps its invariants**: what every step of it preserves, as long as its protocol is
followed, holds of it whatever is done to the other one in between. -/
theorem exists_left_phases (hr : Reach (h₁.sum h₂) G p₀ p) {φ₀ : ι → P.Phase}
    (hφ₀ : ∀ i, (P.widen J).Follows ends (φ₀ i) (p₀.tasks i)) (Inv : Pool I ε Unit σ ι → (ι → P.Phase) → Prop)
    (h₀ : Inv p₀.left φ₀) (hlegal : ∀ p φ op, Inv p φ → P.legal op (h₁ op p.shared).1)
    (hstep : ∀ p φ i op k φ', Inv p φ → P.move (φ i) op (h₁ op p.shared).1 φ' →
      Inv (p.after h₁ i op k) (Function.update φ i φ')) :
    ∃ φ, Inv p.left φ ∧ ∀ i, (P.widen J).Follows ends (φ i) (p.tasks i) := by
  refine Protocol.exists_phases hr hφ₀ (fun p φ => Inv p.left φ) h₀ ?_ ?_
  · rintro p φ (op | op) hI
    · exact hlegal p.left φ op hI
    · trivial
  · rintro p φ i (op | op) k φ' hI - - hm
    · rw [left_after_inl]
      exact hstep p.left φ i op _ φ' hI hm
    · obtain rfl : φ' = φ i := hm
      rwa [left_after_inr, Function.update_eq_self]

end Pool

/-! ### Steps -/

section Guard

variable {h : Handler I σ} {G Q : Pool I ε α σ ι → ι → Prop} {p p₀ : Pool I ε α σ ι} [DecidableEq ι]

/-- **What is known of every run** is a guard that every step meets. -/
theorem Pool.Reach.guarded (hr : Pool.Reach h G p₀ p) (hQ : ∀ p i, Pool.Reach h G p₀ p → Q p i) :
    Pool.Reach h (fun p i => G p i ∧ Q p i) p₀ p := by
  induction hr with
  | refl => exact .refl
  | tail hr hs ih =>
    obtain ⟨i, hG, hs⟩ := hs
    exact ih.tail ⟨i, ⟨hG, hQ _ i hr⟩, hs⟩

end Guard

variable [Fintype ι] [DecidableEq ι] {φ M : Type} [AddCommMonoid M]

/-- A sum over all functions, after one of them has moved on. -/
theorem sum_update_add (w : φ → M) (f : ι → φ) (i : ι) (x : φ) :
    ∑ j, w (Function.update f i x j) + w (f i) = ∑ j, w (f j) + w x := by
  have hupdate : ∀ j, w (Function.update f i x j) = Function.update (fun j => w (f j)) i (w x) j :=
    fun j => Function.apply_update (fun _ => w) f i x j
  simp only [hupdate]
  rw [Finset.sum_update_of_mem (Finset.mem_univ i), ← Finset.add_sum_erase _ _ (Finset.mem_univ i),
    Finset.sdiff_singleton_eq_erase]
  abel

end Botmev.Library
