import Botmev.Library.Async
import Mathlib.Data.List.Nodup
import Mathlib.Logic.Relation

/-!
# Interleaving asynchronous functions

A `Pool` is any number of asynchronous functions over one shared state. A step of the
pool lets one of them do the operation it is waiting for; the others may come in
between any two operations of one function, so `Reach` ranges over all interleavings.
A guard restricts the steps a run may take, to state what holds of the runs that meet
a condition.

## What is proved

* `Reach.invariant`: what holds at the start and is preserved by every step the guard
  admits holds of every pool reached.
* `Reach.exists_answering`: an answer is what a pool reached before gives.
* `own_gather_after`: what each function has of what the operations gave, after one more.
* `Protocol.exists_phases`: a `Protocol` says from outside what a function may ask for
  and in which order (its *phases*); if every function of the pool follows the protocol,
  an invariant of the phases alone is an invariant of the pool.
-/

namespace Botmev.Library

open Relation

variable {I : Interface} {ε α β σ ι : Type}

/-- An operation that was done, with the function that asked for it and the answer. -/
structure Event (I : Interface) (ι : Type) where
  /-- The function. -/
  task : ι
  /-- The operation. -/
  op : I.Op
  /-- The answer. -/
  reply : I.Reply op

/-- Functions over one shared state, in the middle of running. -/
structure Pool (I : Interface) (ε α σ ι : Type) where
  /-- The shared state. -/
  shared : σ
  /-- What is left of each function. -/
  tasks : ι → Async I ε α
  /-- The operations done so far. -/
  history : List (Event I ι)

namespace Pool

/-- Functions that have not done anything yet. -/
def start (s : σ) (tasks : ι → Async I ε α) : Pool I ε α σ ι := ⟨s, tasks, []⟩

/-- What the operations of a history give, each with the function that asked for it. -/
def gather (f : (op : I.Op) → I.Reply op → Option β) (history : List (Event I ι)) : List (ι × β) :=
  history.filterMap fun e => (f e.op e.reply).map fun b => (e.task, b)

variable [DecidableEq ι] {h : Handler I σ} {p p' p₀ : Pool I ε α σ ι} {i j : ι}

/-- After function `i`, waiting for `op`, has got its answer. -/
def after (h : Handler I σ) (p : Pool I ε α σ ι) (i : ι) (op : I.Op) (k : I.Reply op → Async I ε α) :
    Pool I ε α σ ι where
  shared := (h op p.shared).2
  tasks := Function.update p.tasks i (k (h op p.shared).1)
  history := p.history ++ [⟨i, op, (h op p.shared).1⟩]

/-- A step of function `i`, unless it has returned. -/
def step (h : Handler I σ) (p : Pool I ε α σ ι) (i : ι) : Option (Pool I ε α σ ι) :=
  match p.tasks i with
  | .done _ => none
  | .await op k => some (p.after h i op k)

theorem step_of_await {op : I.Op} {k : I.Reply op → Async I ε α} (hi : p.tasks i = .await op k) :
    p.step h i = some (p.after h i op k) := by
  simp only [step, hi]

theorem step_eq_some_iff :
    p.step h i = some p' ↔ ∃ op k, p.tasks i = .await op k ∧ p' = p.after h i op k := by
  constructor
  · intro hs
    unfold step at hs
    split at hs
    · cases hs
    · rename_i op k hi
      exact ⟨op, k, hi, (Option.some.inj hs).symm⟩
  · rintro ⟨op, k, hi, rfl⟩
    exact step_of_await hi

@[simp] theorem after_shared (op : I.Op) (k : I.Reply op → Async I ε α) :
    (p.after h i op k).shared = (h op p.shared).2 := rfl

@[simp] theorem after_tasks_self (op : I.Op) (k : I.Reply op → Async I ε α) :
    (p.after h i op k).tasks i = k (h op p.shared).1 := Function.update_self ..

theorem after_tasks_of_ne (op : I.Op) (k : I.Reply op → Async I ε α) (hj : j ≠ i) :
    (p.after h i op k).tasks j = p.tasks j := Function.update_of_ne hj ..

@[simp] theorem after_history (op : I.Op) (k : I.Reply op → Async I ε α) :
    (p.after h i op k).history = p.history ++ [⟨i, op, (h op p.shared).1⟩] := rfl

/-- **The runs**: the pools reached from `p₀` by steps that meet the guard `G`, which
sees the pool before the step and the function that is to take it. -/
def Reach (h : Handler I σ) (G : Pool I ε α σ ι → ι → Prop) : Pool I ε α σ ι → Pool I ε α σ ι → Prop :=
  ReflTransGen fun p p' => ∃ i, G p i ∧ p.step h i = some p'

/-- Any step. -/
def AnyStep : Pool I ε α σ ι → ι → Prop := fun _ _ => True

variable {G : Pool I ε α σ ι → ι → Prop}

/-- **Invariants**: what every admitted step preserves, every run preserves. -/
theorem Reach.invariant (hr : Reach h G p₀ p) (Inv : Pool I ε α σ ι → Prop) (h₀ : Inv p₀)
    (hstep : ∀ p i op k, Inv p → G p i → p.tasks i = .await op k → Inv (p.after h i op k)) : Inv p := by
  induction hr with
  | refl => exact h₀
  | tail _ hs ih =>
    obtain ⟨i, hG, hs⟩ := hs
    obtain ⟨op, k, hi, rfl⟩ := step_eq_some_iff.mp hs
    exact hstep _ i op k ih hG hi

theorem Reach.mono {G' : Pool I ε α σ ι → ι → Prop} (hG : ∀ p i, G p i → G' p i) (hr : Reach h G p₀ p) :
    Reach h G' p₀ p := by
  induction hr with
  | refl => exact .refl
  | tail _ hs ih =>
    obtain ⟨i, hi, hs⟩ := hs
    exact ih.tail ⟨i, hG _ _ hi, hs⟩

/-! ### Histories -/

theorem Reach.history_grows (hr : Reach h G p₀ p) : p₀.history <+: p.history := by
  apply hr.invariant fun p => p₀.history <+: p.history
  · exact List.prefix_rfl
  · intro p i op k hstart _ _
    exact hstart.trans (List.prefix_append _ _)

/-- **What was answered** was answered by a pool reached before. -/
theorem Reach.exists_answering (hr : Reach h G p₀ p) {before after : List (Event I ι)} {e : Event I ι}
    (h₀ : p₀.history <+: before) (hp : p.history = before ++ e :: after) :
    ∃ p', Reach h G p₀ p' ∧ p'.history = before ∧ e.reply = (h e.op p'.shared).1 := by
  induction hr generalizing after with
  | refl =>
    have hlength := h₀.length_le
    rw [hp, List.length_append, List.length_cons] at hlength
    omega
  | @tail p₁ p₂ hr hs ih =>
    obtain ⟨i, -, hs⟩ := hs
    obtain ⟨op, k, -, rfl⟩ := step_eq_some_iff.mp hs
    rw [after_history] at hp
    rcases List.eq_nil_or_concat after with rfl | ⟨after, last, rfl⟩
    · obtain ⟨hbefore, he⟩ := List.append_inj' hp rfl
      obtain rfl := List.singleton_injective he
      exact ⟨p₁, hr, hbefore, rfl⟩
    · rw [List.concat_eq_append, ← List.cons_append, ← List.append_assoc] at hp
      exact ih (List.append_inj' hp rfl).1

theorem Reach.gather_grows (f : (op : I.Op) → I.Reply op → Option β) (hr : Reach h G p₀ p) :
    gather f p₀.history <+: gather f p.history :=
  hr.history_grows.filterMap _

theorem gather_after (f : (op : I.Op) → I.Reply op → Option β) (op : I.Op)
    (k : I.Reply op → Async I ε α) :
    gather f (p.after h i op k).history =
      gather f p.history ++ ((f op (h op p.shared).1).map fun b => (i, b)).toList := by
  rw [after_history, gather, List.filterMap_append]
  rcases hb : f op (h op p.shared).1 with _ | b <;> simp [gather, hb]

/-- What function `i` has of it. -/
def own (i : ι) (l : List (ι × β)) : List β := l.filterMap fun x => if x.1 = i then some x.2 else none

theorem mem_own {l : List (ι × β)} {b : β} : b ∈ own i l ↔ (i, b) ∈ l := by
  simp only [own, List.mem_filterMap, Option.ite_none_right_eq_some, Option.some.injEq]
  constructor
  · rintro ⟨⟨j, b⟩, hmem, rfl, rfl⟩
    exact hmem
  · intro hmem
    exact ⟨(i, b), hmem, rfl, rfl⟩

theorem count_map_fst (i : ι) (l : List (ι × β)) : (l.map Prod.fst).count i = (own i l).length := by
  induction l with
  | nil => rfl
  | cons x l ih =>
    rw [own] at ih ⊢
    by_cases hx : x.1 = i
    · simp [hx, ih]
    · simp [hx, List.count_cons_of_ne hx, ih]

theorem nodup_map_fst {l : List (ι × β)} (h : ∀ i, (own i l).length ≤ 1) : (l.map Prod.fst).Nodup := by
  rw [List.nodup_iff_count_le_one]
  intro i
  rw [count_map_fst]
  exact h i

/-- Two lists are as long if every function has as much of the one as of the other. -/
theorem length_eq_of_own {γ : Type} {l : List (ι × β)} {l' : List (ι × γ)}
    (h : ∀ i, (own i l).length = (own i l').length) : l.length = l'.length := by
  have hperm : (l.map Prod.fst).Perm (l'.map Prod.fst) := by
    rw [List.perm_iff_count]
    intro i
    rw [count_map_fst, count_map_fst]
    exact h i
  simpa using hperm.length_eq

theorem own_append (l l' : List (ι × β)) : own i (l ++ l') = own i l ++ own i l' := List.filterMap_append

theorem own_append_self (l : List (ι × β)) (b : Option β) :
    own i (l ++ (b.map fun b => (i, b)).toList) = own i l ++ b.toList := by
  rw [own_append]
  rcases b with _ | b <;> simp [own]

theorem own_append_of_ne (hj : j ≠ i) (l : List (ι × β)) (b : Option β) :
    own j (l ++ (b.map fun b => (i, b)).toList) = own j l := by
  rw [own_append]
  rcases b with _ | b <;> simp [own, hj.symm]

/-- **What each function has** is kept by a step, when what the step gives is added. -/
theorem own_gather_after {φ : Type} {f : (op : I.Op) → I.Reply op → Option β} {view : φ → List β}
    {phase : ι → φ}
    {phase' : φ} {op : I.Op} {k : I.Reply op → Async I ε α}
    (hI : ∀ j, own j (gather f p.history) = view (phase j))
    (hview : view phase' = view (phase i) ++ (f op (h op p.shared).1).toList) (j : ι) :
    own j (gather f (p.after h i op k).history) = view (Function.update phase i phase' j) := by
  rw [gather_after]
  by_cases hj : j = i
  · subst hj
    rw [own_append_self, Function.update_self, hI, hview]
  · rw [own_append_of_ne hj, Function.update_of_ne hj, hI]

/-! ### Schedules -/

/-- Let the functions take turns as `sched` says; a turn of one that has returned
passes. -/
def runSchedule (h : Handler I σ) : List ι → Pool I ε α σ ι → Pool I ε α σ ι
  | [], p => p
  | i :: sched, p => ((p.step h i).getD p).runSchedule h sched

/-- Every turn of the schedule meets the guard. -/
def Admits (h : Handler I σ) (G : Pool I ε α σ ι → ι → Prop) : List ι → Pool I ε α σ ι → Prop
  | [], _ => True
  | i :: sched, p => G p i ∧ Admits h G sched ((p.step h i).getD p)

instance [hG : ∀ p i, Decidable (G p i)] : ∀ sched p, Decidable (Admits h G sched p)
  | [], _ => isTrue trivial
  | i :: sched, p => @instDecidableAnd _ _ (hG p i) (instDecidableAdmits sched _)

theorem reach_of_admits {sched : List ι} {p : Pool I ε α σ ι} (ha : Admits h G sched p) :
    Reach h G p (p.runSchedule h sched) := by
  induction sched generalizing p with
  | nil => exact .refl
  | cons i sched ih =>
    obtain ⟨hi, ha⟩ := ha
    rcases hs : p.step h i with _ | p'
    · rw [hs] at ha
      rw [runSchedule, hs]
      exact ih ha
    · rw [hs] at ha
      rw [runSchedule, hs]
      exact ReflTransGen.head ⟨i, hi, hs⟩ (ih ha)

theorem admits_anyStep (sched : List ι) (p : Pool I ε α σ ι) : Admits h AnyStep sched p := by
  induction sched generalizing p with
  | nil => trivial
  | cons i sched ih => exact ⟨trivial, ih _⟩

theorem reach_runSchedule (sched : List ι) (p : Pool I ε α σ ι) :
    Reach h AnyStep p (p.runSchedule h sched) :=
  reach_of_admits (admits_anyStep sched p)

end Pool

/-! ### Protocols -/

/-- What functions may ask for, seen from outside: which answers the operations can
have, and how an operation and its answer move a function from one phase to the next. -/
structure Protocol (I : Interface) where
  /-- Where a function is. -/
  Phase : Type
  /-- The answers an operation can have. -/
  legal : (op : I.Op) → I.Reply op → Prop
  /-- What an operation, with its answer, does to the phase. -/
  move : Phase → (op : I.Op) → I.Reply op → Phase → Prop

namespace Protocol

variable (P : Protocol I)

/-- `P.Follows ends φ t`: from phase `φ` on, `t` asks only for operations the protocol
allows, and ends in a phase where it may end with the result it has. -/
def Follows (ends : P.Phase → Except ε α → Prop) : P.Phase → Async I ε α → Prop
  | φ, .done r => ends φ r
  | φ, .await op k => ∀ reply, P.legal op reply → ∃ φ', P.move φ op reply φ' ∧ Follows ends φ' (k reply)

variable {P} {ends : P.Phase → Except ε α → Prop} {φ : P.Phase}

theorem follows_request_bind {op : I.Op} {f : I.Reply op → Async I ε α} :
    P.Follows ends φ (Async.request op >>= f) ↔
      ∀ reply, P.legal op reply → ∃ φ', P.move φ op reply φ' ∧ P.Follows ends φ' (f reply) := Iff.rfl

theorem Follows.bind {ends' : P.Phase → Except ε β → Prop} {t : Async I ε α} {f : α → Async I ε β}
    (ht : P.Follows ends φ t) (hok : ∀ φ a, ends φ (.ok a) → P.Follows ends' φ (f a))
    (herr : ∀ φ e, ends φ (.error e) → ends' φ (.error e)) : P.Follows ends' φ (t >>= f) := by
  induction t generalizing φ with
  | done r =>
    cases r with
    | ok a => exact hok _ _ ht
    | error e => exact herr _ _ ht
  | await op k ih =>
    intro reply hl
    obtain ⟨φ', hm, hk⟩ := ht reply hl
    exact ⟨φ', hm, ih reply hk⟩

variable [DecidableEq ι] {h : Handler I σ} {G : Pool I ε α σ ι → ι → Prop} {p₀ p : Pool I ε α σ ι}

/-- **A pool follows its protocol**, and a step may make use of that: if every function follows the
protocol from its first phase on, an invariant of the phases that every admitted step of functions
that follow it preserves holds of the phases of every pool reached. -/
theorem exists_phases_of_follows (hr : Pool.Reach h G p₀ p) {φ₀ : ι → P.Phase}
    (hφ₀ : ∀ i, P.Follows ends (φ₀ i) (p₀.tasks i)) (Inv : Pool I ε α σ ι → (ι → P.Phase) → Prop)
    (h₀ : Inv p₀ φ₀) (hlegal : ∀ p φ op, Inv p φ → P.legal op (h op p.shared).1)
    (hstep : ∀ p φ i op k φ', Inv p φ → (∀ i, P.Follows ends (φ i) (p.tasks i)) → G p i →
      p.tasks i = .await op k → P.move (φ i) op (h op p.shared).1 φ' →
        Inv (p.after h i op k) (Function.update φ i φ')) :
    ∃ φ, Inv p φ ∧ ∀ i, P.Follows ends (φ i) (p.tasks i) := by
  refine hr.invariant (fun p => ∃ φ, Inv p φ ∧ ∀ i, P.Follows ends (φ i) (p.tasks i)) ⟨φ₀, h₀, hφ₀⟩ ?_
  rintro p i op k ⟨φ, hI, hφ⟩ hG hi
  have hi' := hφ i
  rw [hi] at hi'
  obtain ⟨φ', hm, hk⟩ := hi' _ (hlegal p φ op hI)
  refine ⟨Function.update φ i φ', hstep p φ i op k φ' hI hφ hG hi hm, fun j => ?_⟩
  by_cases hj : j = i
  · subst hj
    simpa using hk
  · rw [Function.update_of_ne hj, Pool.after_tasks_of_ne _ _ hj]
    exact hφ j

theorem exists_phases (hr : Pool.Reach h G p₀ p) {φ₀ : ι → P.Phase}
    (hφ₀ : ∀ i, P.Follows ends (φ₀ i) (p₀.tasks i)) (Inv : Pool I ε α σ ι → (ι → P.Phase) → Prop)
    (h₀ : Inv p₀ φ₀) (hlegal : ∀ p φ op, Inv p φ → P.legal op (h op p.shared).1)
    (hstep : ∀ p φ i op k φ', Inv p φ → G p i → p.tasks i = .await op k →
      P.move (φ i) op (h op p.shared).1 φ' → Inv (p.after h i op k) (Function.update φ i φ')) :
    ∃ φ, Inv p φ ∧ ∀ i, P.Follows ends (φ i) (p.tasks i) :=
  exists_phases_of_follows hr hφ₀ Inv h₀ hlegal fun p φ i op k φ' hI _ => hstep p φ i op k φ' hI

end Protocol

end Botmev.Library
