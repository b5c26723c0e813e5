import Mathlib.Data.List.Nodup
import Mathlib.Data.List.Perm.Subperm

/-!
# Subsequences by position

One list is a subsequence of another that repeats nothing just when the positions of its elements in
the other ascend; and then it is what is left of the other when only these elements are kept.

## What is proved

* `ascending_iff`: comparing each position with the next is enough.
* `ascending_idxOf_iff`: the positions ascend just when the list is a subsequence.
* `filter_mem_eq_iff`: the elements kept in their order are the list itself just then.
-/

namespace Botmev.Library

/-- Whether each number is less than the next. -/
def ascending : List ℕ → Bool
  | a :: b :: rest => decide (a < b) && ascending (b :: rest)
  | _ => true

/-- Each less than the next: **each less than all after it**. -/
theorem ascending_iff (positions : List ℕ) : ascending positions = true ↔ positions.Pairwise (· < ·) := by
  rw [← List.isChain_iff_pairwise]
  induction positions with
  | nil => exact iff_of_true rfl .nil
  | cons a rest ih =>
    cases rest with
    | nil => exact iff_of_true rfl (.singleton a)
    | cons b rest =>
      rw [ascending, Bool.and_eq_true, decide_eq_true_iff, ih, List.isChain_cons_cons]

variable {α : Type} [DecidableEq α] {l e : List α}

theorem map_idxOf_self (hl : l.Nodup) : l.map (fun a => l.idxOf a) = List.range l.length := by
  refine List.ext_getElem (by simp) fun i hi _ => ?_
  rw [List.getElem_map, List.getElem_range, hl.idxOf_getElem]

theorem pairwise_idxOf_of_sublist (hl : l.Nodup) (h : e.Sublist l) :
    (e.map fun a => l.idxOf a).Pairwise (· < ·) := by
  refine List.Pairwise.sublist (h.map _) ?_
  rw [map_idxOf_self hl]
  exact List.pairwise_lt_range

theorem pairwise_idxOf_cons {a : α} (hne : ∀ b ∈ e, b ≠ a)
    (h : (e.map fun b => (a :: l).idxOf b).Pairwise (· < ·)) :
    (e.map fun b => l.idxOf b).Pairwise (· < ·) := by
  have hshift : (e.map fun b => (a :: l).idxOf b) = (e.map fun b => l.idxOf b).map (· + 1) := by
    rw [List.map_map]
    exact List.map_congr_left fun b hb => List.idxOf_cons_ne l (Ne.symm (hne b hb))
  rw [hshift, List.pairwise_map] at h
  exact h.imp Nat.lt_of_add_lt_add_right

theorem sublist_of_pairwise_idxOf (hmem : ∀ b ∈ e, b ∈ l) (h : (e.map fun b => l.idxOf b).Pairwise (· < ·)) :
    e.Sublist l := by
  induction l generalizing e with
  | nil => exact List.eq_nil_iff_forall_not_mem.mpr (fun b hb => List.not_mem_nil (hmem b hb)) ▸ .slnil
  | cons a l ih =>
    have hrest : ∀ e' : List α, (∀ b ∈ e', b ∈ a :: l) → (∀ b ∈ e', b ≠ a) →
        (e'.map fun b => (a :: l).idxOf b).Pairwise (· < ·) → e'.Sublist l := fun e' hmem' hne h' =>
      ih (fun b hb => (List.mem_cons.mp (hmem' b hb)).resolve_left (hne b hb)) (pairwise_idxOf_cons hne h')
    cases e with
    | nil => exact List.nil_sublist _
    | cons b e =>
      obtain ⟨hlater, htail⟩ := List.pairwise_cons.mp h
      -- what comes later is further on than the first element, whether `b` is that or not
      have hne : ∀ c ∈ e, c ≠ a := by
        rintro c hc rfl
        have hlt := hlater _ (List.mem_map_of_mem hc)
        rw [List.idxOf_cons_self] at hlt
        exact absurd hlt (Nat.not_lt_zero _)
      by_cases hb : b = a
      · subst hb
        exact (hrest e (fun c hc => hmem c (List.mem_cons_of_mem _ hc)) hne htail).cons_cons b
      · exact (hrest (b :: e) hmem (List.forall_mem_cons.mpr ⟨hb, hne⟩) h).cons a

/-- **The positions ascend** just when the list is a subsequence. -/
theorem ascending_idxOf_iff (hl : l.Nodup) (hmem : ∀ b ∈ e, b ∈ l) :
    ascending (e.map fun b => l.idxOf b) = true ↔ e.Sublist l :=
  (ascending_iff _).trans ⟨sublist_of_pairwise_idxOf hmem, pairwise_idxOf_of_sublist hl⟩

/-- **The elements kept**, in the order of the list, are the other list just when it is a
subsequence. -/
theorem filter_mem_eq_iff (hl : l.Nodup) : l.filter (fun a => decide (a ∈ e)) = e ↔ e.Sublist l := by
  constructor
  · intro h
    rw [← h]
    exact List.filter_sublist
  · intro h
    have hself : e.filter (fun a => decide (a ∈ e)) = e :=
      List.filter_eq_self.mpr fun a ha => decide_eq_true ha
    have hsub := h.filter fun a => decide (a ∈ e)
    rw [hself] at hsub
    have hlen : (l.filter fun a => decide (a ∈ e)).length ≤ e.length :=
      (List.subperm_of_subset (hl.filter _) fun a ha => of_decide_eq_true (List.mem_filter.mp ha).2).length_le
    exact (hsub.eq_of_length_le hlen).symm

end Botmev.Library
