import Mathlib.Data.List.Nodup
import Mathlib.Logic.Function.Basic

/-!
# Entries by key

A list of entries that have keys is a finite map: what it has for a key is its first entry with it. The
first entry with a key can be changed, and an entry can be put in the place of the first with its key, or at
the end where there is none.

## What is proved

* `get_modify`, `get_put`: they are updates of that map, whether keys are distinct or not.
* `nodup_put`: distinct keys stay distinct.
* `get_eq_some_iff`: with distinct keys, the list has for a key the one entry with it.
-/

namespace Botmev.Library.Keyed

variable {α κ : Type} [DecidableEq κ] {key : α → κ} {k : κ} {f : α → α} {entry x : α}
  {entries changed : List α}

/-- The first entry with the key: `iter().find(|entry| entry.key == k)`. -/
def get (key : α → κ) (k : κ) (entries : List α) : Option α := entries.find? fun entry => key entry = k

/-- The first entry with the key is changed, if there is one: `if let Some(entry) = iter_mut().find(..)`. -/
def modify (key : α → κ) (k : κ) (f : α → α) : List α → Option (List α)
  | [] => none
  | entry :: entries =>
    if key entry = k then some (f entry :: entries) else (modify key k f entries).map (entry :: ·)

/-- The entry stands where the first with its key was, or at the end. -/
def put (key : α → κ) (entry : α) (entries : List α) : List α :=
  (modify key (key entry) (fun _ => entry) entries).getD (entries ++ [entry])

/-! ### Keys -/

theorem get_eq_none_iff : get key k entries = none ↔ k ∉ entries.map key := by
  simp [get]

theorem of_get (h : get key k entries = some x) : x ∈ entries ∧ key x = k :=
  ⟨List.mem_of_find?_eq_some h, by simpa using List.find?_some h⟩

theorem modify_eq_none_iff : modify key k f entries = none ↔ k ∉ entries.map key := by
  induction entries with
  | nil => simp [modify]
  | cons entry entries ih =>
    by_cases hkey : key entry = k
    · simp [modify, hkey]
    · rw [modify, if_neg hkey, Option.map_eq_none_iff, ih, List.map_cons, List.mem_cons, not_or]
      exact (and_iff_right (Ne.symm hkey)).symm

/-- Changing an entry leaves the keys, if it leaves the key of that entry. -/
theorem map_key_modify (hf : ∀ entry, key entry = k → key (f entry) = k)
    (h : modify key k f entries = some changed) : changed.map key = entries.map key := by
  induction entries generalizing changed with
  | nil => cases h
  | cons entry entries ih =>
    by_cases hkey : key entry = k
    · rw [modify, if_pos hkey, Option.some.injEq] at h
      rw [← h, List.map_cons, List.map_cons, hf entry hkey, hkey]
    · rw [modify, if_neg hkey] at h
      obtain ⟨rest, hrest, rfl⟩ := Option.map_eq_some_iff.mp h
      rw [List.map_cons, List.map_cons, ih hrest]

theorem map_key_put : (put key entry entries).map key =
    if key entry ∈ entries.map key then entries.map key else entries.map key ++ [key entry] := by
  unfold put
  rcases hmodify : modify key (key entry) (fun _ => entry) entries with _ | changed
  · rw [if_neg (modify_eq_none_iff.mp hmodify), Option.getD_none, List.map_append, List.map_singleton]
  · have hmem : key entry ∈ entries.map key := by
      by_contra hnot
      rw [modify_eq_none_iff.mpr hnot] at hmodify
      cases hmodify
    rw [if_pos hmem, Option.getD_some, map_key_modify (fun _ _ => rfl) hmodify]

/-- **Distinct keys** stay distinct. -/
theorem nodup_put (h : (entries.map key).Nodup) : ((put key entry entries).map key).Nodup := by
  rw [map_key_put]
  split_ifs with hmem
  · exact h
  · exact List.nodup_append'.mpr ⟨h, List.nodup_singleton _, List.disjoint_singleton.mpr hmem⟩

/-! ### Entries -/

theorem mem_modify (h : modify key k f entries = some changed) (hx : x ∈ changed) :
    x ∈ entries ∨ ∃ entry ∈ entries, x = f entry := by
  induction entries generalizing changed with
  | nil => cases h
  | cons entry entries ih =>
    by_cases hkey : key entry = k
    · rw [modify, if_pos hkey, Option.some.injEq] at h
      rcases List.mem_cons.mp (h ▸ hx) with hfirst | hrest
      · exact .inr ⟨entry, List.mem_cons_self, hfirst⟩
      · exact .inl (List.mem_cons_of_mem _ hrest)
    · rw [modify, if_neg hkey] at h
      obtain ⟨rest, hrest, rfl⟩ := Option.map_eq_some_iff.mp h
      rcases List.mem_cons.mp hx with rfl | hx
      · exact .inl List.mem_cons_self
      · rcases ih hrest hx with hmem | ⟨entry', hmem, heq⟩
        · exact .inl (List.mem_cons_of_mem _ hmem)
        · exact .inr ⟨entry', List.mem_cons_of_mem _ hmem, heq⟩

theorem mem_put (hx : x ∈ put key entry entries) : x ∈ entries ∨ x = entry := by
  unfold put at hx
  rcases hmodify : modify key (key entry) (fun _ => entry) entries with _ | changed
  · rw [hmodify, Option.getD_none, List.mem_append, List.mem_singleton] at hx
    exact hx
  · rw [hmodify, Option.getD_some] at hx
    rcases mem_modify hmodify hx with hmem | ⟨-, -, heq⟩
    · exact .inl hmem
    · exact .inr heq

/-! ### Looking up -/

/-- **A change** is an update of the map. -/
theorem get_modify (hf : ∀ entry, key entry = k → key (f entry) = k)
    (h : modify key k f entries = some changed) (k' : κ) :
    get key k' changed = Function.update (get key · entries) k ((get key k entries).map f) k' := by
  induction entries generalizing changed with
  | nil => cases h
  | cons entry entries ih =>
    by_cases hkey : key entry = k
    · rw [modify, if_pos hkey, Option.some.injEq] at h
      subst h
      by_cases hk' : k' = k
      · rw [hk', Function.update_self]
        simp [get, hkey, hf entry hkey]
      · rw [Function.update_of_ne hk']
        simp [get, hkey, hf entry hkey, Ne.symm hk']
    · rw [modify, if_neg hkey] at h
      obtain ⟨rest, hrest, rfl⟩ := Option.map_eq_some_iff.mp h
      have hrest' := ih hrest
      by_cases hk' : k' = k
      · rw [hk', Function.update_self] at hrest' ⊢
        simpa [get, hkey] using hrest'
      · rw [Function.update_of_ne hk'] at hrest' ⊢
        by_cases hfirst : key entry = k'
        · simp [get, hfirst]
        · simpa [get, hfirst] using hrest'

/-- **Putting an entry** is one as well. -/
theorem get_put (k' : κ) :
    get key k' (put key entry entries) = Function.update (get key · entries) (key entry) (some entry) k' := by
  unfold put
  rcases hmodify : modify key (key entry) (fun _ => entry) entries with _ | changed
  · have hnone : get key (key entry) entries = none := get_eq_none_iff.mpr (modify_eq_none_iff.mp hmodify)
    by_cases hk' : k' = key entry
    · rw [hk', Function.update_self]
      rw [get] at hnone ⊢
      simp [List.find?_append, hnone]
    · rw [Function.update_of_ne hk']
      simp [get, List.find?_append, Ne.symm hk']
  · obtain ⟨old, hold⟩ : ∃ old, get key (key entry) entries = some old := by
      refine Option.ne_none_iff_exists'.mp fun hnone => ?_
      rw [modify_eq_none_iff.mpr (get_eq_none_iff.mp hnone)] at hmodify
      cases hmodify
    rw [Option.getD_some, get_modify (fun _ _ => rfl) hmodify, hold, Option.map_some]

/-- **With distinct keys**, what the list has for a key is the entry with it. -/
theorem get_eq_some_iff (hnodup : (entries.map key).Nodup) :
    get key k entries = some x ↔ x ∈ entries ∧ key x = k := by
  refine ⟨of_get, ?_⟩
  rintro ⟨hx, rfl⟩
  rcases hget : get key (key x) entries with _ | y
  · exact absurd (List.mem_map_of_mem hx) (get_eq_none_iff.mp hget)
  · obtain ⟨hy, hkey⟩ := of_get hget
    rw [List.inj_on_of_nodup_map hnodup hy hx hkey]

end Botmev.Library.Keyed
