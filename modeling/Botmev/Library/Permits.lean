import Mathlib.Algebra.BigOperators.Group.Finset.Piecewise
import Mathlib.Algebra.Order.BigOperators.Group.Finset
import Mathlib.Data.Finset.Card
import Mathlib.Data.List.Count

/-!
# Permits of several semaphores

Holders that each take a permit of one semaphore, all semaphores with the same number of permits. How
many may hold one at once, `demand`, is for each semaphore the number of those who use it, or of its
permits if that is less.

## What is proved

* `demand_concat`: what one more user demands.
* `demand_le_of_forall_eq`: users of one semaphore demand no more than it has.
* `card_le_demand`: no more than that hold a permit, if no semaphore gives more than it has.
-/

namespace Botmev.Library

variable {S τ : Type} [DecidableEq S]

/-- How many permits may be held at once by users of these semaphores. -/
def demand (permits : ℕ) (users : List S) : ℕ := ∑ s ∈ users.toFinset, min (users.count s) permits

variable {permits : ℕ} {users : List S}

@[simp] theorem demand_nil : demand permits ([] : List S) = 0 := rfl

theorem demand_eq_sum {T : Finset S} (hT : users.toFinset ⊆ T) :
    demand permits users = ∑ s ∈ T, min (users.count s) permits := by
  refine Finset.sum_subset hT fun s _ hs => ?_
  rw [List.count_eq_zero.mpr (fun hmem => hs (List.mem_toFinset.mpr hmem)), Nat.zero_min]

/-- **One more user** holds a permit too if its semaphore has one left. -/
theorem demand_concat (permits : ℕ) (users : List S) (s : S) :
    demand permits (users ++ [s]) = demand permits users + if users.count s < permits then 1 else 0 := by
  have hall : (users ++ [s]).toFinset ⊆ insert s users.toFinset := by
    intro t ht
    simpa [or_comm] using ht
  have hone : ∀ t, min ((users ++ [s]).count t) permits =
      min (users.count t) permits + if t = s then (if users.count s < permits then 1 else 0) else 0 := by
    intro t
    by_cases hts : t = s
    · subst hts
      simp only [List.count_append, List.count_singleton_self, if_true]
      split <;> omega
    · rw [List.count_append, List.count_singleton, if_neg (by simpa using fun h => hts h.symm), if_neg hts]
      rfl
  rw [demand_eq_sum hall, demand_eq_sum (Finset.subset_insert s users.toFinset),
    Finset.sum_congr rfl fun t _ => hone t,
    Finset.sum_add_distrib, Finset.sum_ite_eq' _ s, if_pos (Finset.mem_insert_self ..)]

theorem demand_le_of_forall_eq {s : S} (h : ∀ t ∈ users, t = s) : demand permits users ≤ permits := by
  have hone : users.toFinset ⊆ {s} := fun t ht => Finset.mem_singleton.mpr (h t (List.mem_toFinset.mp ht))
  rw [demand_eq_sum hone, Finset.sum_singleton]
  exact Nat.min_le_right _ _

/-- **No more than that hold a permit.** -/
theorem card_le_demand {holders : Finset τ} {tasks : List τ} (semaphore : τ → S)
    (hsub : ∀ i ∈ holders, i ∈ tasks) (hpermits : ∀ s, {i ∈ holders | semaphore i = s}.card ≤ permits) :
    holders.card ≤ demand permits (tasks.map semaphore) := by
  classical
  have hmaps : ∀ i ∈ holders, semaphore i ∈ (tasks.map semaphore).toFinset :=
    fun i hi => List.mem_toFinset.mpr (List.mem_map_of_mem (hsub i hi))
  rw [Finset.card_eq_sum_card_fiberwise hmaps]
  refine Finset.sum_le_sum fun s _ => le_min ?_ (hpermits s)
  calc {i ∈ holders | semaphore i = s}.card
      ≤ (tasks.filter fun i => semaphore i = s).toFinset.card := by
        refine Finset.card_le_card fun i hi => ?_
        obtain ⟨hi, hs⟩ := Finset.mem_filter.mp hi
        exact List.mem_toFinset.mpr (List.mem_filter.mpr ⟨hsub i hi, decide_eq_true hs⟩)
    _ ≤ (tasks.filter fun i => semaphore i = s).length := List.toFinset_card_le _
    _ = (tasks.map semaphore).count s := by
        rw [List.count, List.countP_map, List.countP_eq_length_filter]
        congr 1

end Botmev.Library
