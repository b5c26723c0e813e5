import Botmev.Library.Interleaving
import Mathlib.Data.DFinsupp.WellFounded
import Mathlib.SetTheory.Cardinal.Order

/-!
# Runs that can be completed

A function has only so much left to do, whatever it is answered. So finitely many of them cannot take
steps for ever, and if someone can always take one until all have returned, then they do return.

## What is proved

* `Pool.wellFounded_after`: there is no infinite run.
* `Pool.exists_completed`: a run that never gets stuck can be completed.
-/

namespace Botmev.Library

open Relation

variable {I : Interface} {ε α σ ι : Type}

/-- What is left of a function after an operation is answered. -/
def Async.LeftOf (t t' : Async I ε α) : Prop := ∃ op k reply, t' = .await op k ∧ t = k reply

/-- A function has only so much left. -/
theorem Async.wellFounded_leftOf : WellFounded (LeftOf (I := I) (ε := ε) (α := α)) := by
  refine ⟨fun t => ?_⟩
  induction t with
  | done r =>
    refine ⟨_, ?_⟩
    rintro t ⟨op, k, reply, h, -⟩
    cases h
  | await op k ih =>
    refine ⟨_, ?_⟩
    rintro t ⟨op', k', reply, h, rfl⟩
    cases h
    exact ih reply

namespace Pool

variable [DecidableEq ι] {h : Handler I σ} {p p' : Pool I ε α σ ι} {G : Pool I ε α σ ι → ι → Prop}

/-- **There is no infinite run** of finitely many functions. -/
theorem wellFounded_after [Finite ι] (h : Handler I σ) :
    WellFounded fun p' p : Pool I ε α σ ι => ∃ i, p.step h i = some p' := by
  have hlex : WellFounded (Pi.Lex (WellOrderingRel (α := ι)) fun {_} => Async.LeftOf (I := I) (ε := ε) (α := α)) :=
    Pi.Lex.wellFounded _ fun _ => Async.wellFounded_leftOf
  refine Subrelation.wf ?_ (InvImage.wf (fun p : Pool I ε α σ ι => p.tasks) hlex)
  rintro p' p ⟨i, hs⟩
  obtain ⟨op, k, hi, rfl⟩ := step_eq_some_iff.mp hs
  refine ⟨i, fun j hj => ?_, op, k, (h op p.shared).1, hi, after_tasks_self op k⟩
  exact after_tasks_of_ne op k fun hji => irrefl i (hji ▸ hj)

/-- **A run that never gets stuck can be completed.** -/
theorem exists_completed [Finite ι] (hstuck : ∀ p', Reach h G p p' → (∃ i, (p'.tasks i).result? = none) →
    ∃ i p'', G p' i ∧ p'.step h i = some p'') :
    ∃ p', Reach h G p p' ∧ ∀ i, ∃ r, p'.tasks i = .done r := by
  have hacc := (wellFounded_after h).apply p
  induction hacc with
  | intro p _ ih =>
    by_cases hunfinished : ∃ i, (p.tasks i).result? = none
    · obtain ⟨i, p₁, hG, hs⟩ := hstuck p .refl hunfinished
      obtain ⟨p', hr, hdone⟩ := ih p₁ ⟨i, hs⟩ fun p' hr => hstuck p' (.head ⟨i, hG, hs⟩ hr)
      exact ⟨p', .head ⟨i, hG, hs⟩ hr, hdone⟩
    · refine ⟨p, .refl, fun i => ?_⟩
      obtain ⟨r, hr⟩ := Option.ne_none_iff_exists'.mp fun hnone => hunfinished ⟨i, hnone⟩
      exact ⟨r, Async.result?_eq_some_iff.mp hr⟩

end Pool

end Botmev.Library
