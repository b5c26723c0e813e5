import Mathlib.Data.List.AList

/-!
# Tables

A table is a finite map: an association list without duplicate keys. Mathlib has looking
up, inserting and erasing (`AList`); here are its size, changing every entry, the keys whose
entries meet a condition, and the two ways to take such entries away: one key after the other
(`eraseAll`), or all at once (`retain`).

## What is proved

* `lookup_mapValues`: what the entries are then.
* `lookup_eraseAll`, `lookup_retain`: what is left.
* `size_insert_of_notMem`, `size_insert_of_mem`, `size_eraseAll_lt_iff`,
  `size_eraseAll_of_nodup`: how many entries there are then.
-/

namespace Botmev.Library

/-- A finite map. -/
abbrev Table (κ ν : Type) := AList fun _ : κ => ν

namespace Table

variable {κ ν : Type} {t : Table κ ν} {k : κ} {v : ν}

/-- How many entries there are. -/
def size (t : Table κ ν) : ℕ := t.keys.length

/-- The keys whose entries meet the condition. -/
def keysWhere (p : κ → ν → Bool) (t : Table κ ν) : List κ :=
  (t.entries.filter fun e => p e.1 e.2).map Sigma.fst

variable [DecidableEq κ]

/-- Erase one key after the other. -/
def eraseAll (ks : List κ) (t : Table κ ν) : Table κ ν := ks.foldl (fun t k => t.erase k) t

/-- Keep the entries that meet the condition. -/
def retain (p : κ → ν → Bool) (t : Table κ ν) : Table κ ν where
  entries := t.entries.filter fun e => p e.1 e.2
  nodupKeys := t.nodupKeys.sublist List.filter_sublist

/-- Change every entry. -/
def mapValues (f : ν → ν) (t : Table κ ν) : Table κ ν where
  entries := t.entries.map fun e => ⟨e.1, f e.2⟩
  nodupKeys := List.NodupKeys.map₂ (fun _ => f) t.entries t.nodupKeys

theorem lookup_mapValues (f : ν → ν) (t : Table κ ν) (k : κ) : (t.mapValues f).lookup k = (t.lookup k).map f :=
  List.dlookup_map₂ (l := t.entries) (f := fun _ => f) k

theorem mem_of_lookup (h : t.lookup k = some v) : k ∈ t := AList.lookup_isSome.mp (by rw [h]; rfl)

theorem lookup_eq_some_iff : t.lookup k = some v ↔ ⟨k, v⟩ ∈ t.entries := AList.mem_lookup_iff

theorem size_insert_of_notMem (h : k ∉ t) : size (t.insert k v) = size t + 1 := by
  rw [size, AList.keys_insert, List.length_cons, List.erase_of_not_mem h, size]

theorem size_insert_of_mem (h : k ∈ t) : size (t.insert k v) = size t := by
  have hpos : 0 < t.keys.length := List.length_pos_of_mem h
  rw [size, AList.keys_insert, List.length_cons, List.length_erase_of_mem h, size]
  omega

theorem size_erase_le (t : Table κ ν) (k : κ) : size (t.erase k) ≤ size t := by
  rw [size, AList.keys_erase]
  exact List.length_erase_le

theorem size_erase_of_mem (h : k ∈ t) : size (t.erase k) + 1 = size t := by
  have hpos : 0 < t.keys.length := List.length_pos_of_mem h
  rw [size, AList.keys_erase, List.length_erase_of_mem h, size]
  omega

theorem mem_keysWhere {p : κ → ν → Bool} :
    k ∈ keysWhere p t ↔ ∃ v, t.lookup k = some v ∧ p k v = true := by
  constructor
  · intro h
    obtain ⟨⟨k', v⟩, he, rfl⟩ := List.mem_map.mp h
    obtain ⟨he, hp⟩ := List.mem_filter.mp he
    exact ⟨v, lookup_eq_some_iff.mpr he, hp⟩
  · rintro ⟨v, hv, hp⟩
    exact List.mem_map.mpr ⟨⟨k, v⟩, List.mem_filter.mpr ⟨lookup_eq_some_iff.mp hv, hp⟩, rfl⟩

theorem keysWhere_ne_nil_iff {p : κ → ν → Bool} :
    keysWhere p t ≠ [] ↔ ∃ k v, t.lookup k = some v ∧ p k v = true := by
  constructor
  · intro h
    obtain ⟨k, hk⟩ := List.exists_mem_of_ne_nil _ h
    exact ⟨k, mem_keysWhere.mp hk⟩
  · rintro ⟨k, hk⟩
    exact List.ne_nil_of_mem (mem_keysWhere.mpr hk)

/-- An entry of a table with a new one is the new one, or one that was there. -/
theorem exists_insert_iff {P : κ → ν → Prop} (h : k ∉ t) :
    (∃ k' v', (t.insert k v).lookup k' = some v' ∧ P k' v') ↔
      P k v ∨ ∃ k' v', t.lookup k' = some v' ∧ P k' v' := by
  constructor
  · rintro ⟨k', v', hv', hP⟩
    by_cases hk : k' = k
    · subst hk
      rw [AList.lookup_insert, Option.some.injEq] at hv'
      exact .inl (hv' ▸ hP)
    · rw [AList.lookup_insert_ne hk] at hv'
      exact .inr ⟨k', v', hv', hP⟩
  · rintro (hP | ⟨k', v', hv', hP⟩)
    · exact ⟨k, v, AList.lookup_insert t, hP⟩
    · have hk : k' ≠ k := by
        rintro rfl
        exact h (mem_of_lookup hv')
      exact ⟨k', v', by rw [AList.lookup_insert_ne hk, hv'], hP⟩

@[simp] theorem eraseAll_nil (t : Table κ ν) : eraseAll [] t = t := rfl

@[simp] theorem eraseAll_cons (k : κ) (ks : List κ) (t : Table κ ν) :
    eraseAll (k :: ks) t = eraseAll ks (t.erase k) := rfl

/-- What is left after erasing is what was there under the other keys. -/
theorem lookup_eraseAll (ks : List κ) (t : Table κ ν) (k : κ) :
    (eraseAll ks t).lookup k = if k ∈ ks then none else t.lookup k := by
  induction ks generalizing t with
  | nil => rfl
  | cons k' ks ih =>
    rw [eraseAll_cons, ih]
    by_cases hk : k = k'
    · subst hk
      simp only [AList.lookup_erase, List.mem_cons, true_or, if_true, ite_self]
    · simp only [AList.lookup_erase_ne hk, List.mem_cons, hk, false_or]

theorem size_eraseAll_le (ks : List κ) (t : Table κ ν) : size (eraseAll ks t) ≤ size t := by
  induction ks generalizing t with
  | nil => exact Nat.le_refl _
  | cons k ks ih => exact Nat.le_trans (ih _) (size_erase_le t k)

/-- Erasing keys of the table makes it smaller, unless there are none. -/
theorem size_eraseAll_lt_iff {ks : List κ} (h : ∀ k ∈ ks, k ∈ t) :
    size (eraseAll ks t) < size t ↔ ks ≠ [] := by
  rcases ks with _ | ⟨k, ks⟩
  · simp
  · refine iff_of_true ?_ (List.cons_ne_nil k ks)
    have hle := size_eraseAll_le ks (t.erase k)
    have hsize := size_erase_of_mem (h k List.mem_cons_self)
    rw [eraseAll_cons]
    omega

/-- Erasing different keys of the table makes it smaller by as many. -/
theorem size_eraseAll_of_nodup {ks : List κ} (hnodup : ks.Nodup) (h : ∀ k ∈ ks, k ∈ t) :
    size (eraseAll ks t) + ks.length = size t := by
  induction ks generalizing t with
  | nil => rfl
  | cons k ks ih =>
    obtain ⟨hk, hnodup⟩ := List.nodup_cons.mp hnodup
    have hothers : ∀ k' ∈ ks, k' ∈ t.erase k := by
      intro k' hk'
      refine AList.mem_erase.mpr ⟨?_, h k' (List.mem_cons_of_mem _ hk')⟩
      rintro rfl
      exact hk hk'
    rw [eraseAll_cons, List.length_cons, ← Nat.add_assoc, ih hnodup hothers]
    exact size_erase_of_mem (h k List.mem_cons_self)

omit [DecidableEq κ] in
theorem size_retain_le (p : κ → ν → Bool) (t : Table κ ν) : size (retain p t) ≤ size t := by
  simp only [size, AList.keys, List.keys, List.length_map]
  exact List.length_filter_le _ _

/-- What is retained is what was there and meets the condition. -/
theorem lookup_retain {p : κ → ν → Bool} :
    (retain p t).lookup k = some v ↔ t.lookup k = some v ∧ p k v = true := by
  rw [lookup_eq_some_iff, lookup_eq_some_iff]
  exact List.mem_filter

theorem mem_keys_iff : k ∈ t.keys ↔ ∃ v, t.lookup k = some v := by
  rw [← AList.mem_keys, ← AList.lookup_isSome, Option.isSome_iff_exists]

theorem mem_keys_retain {p : κ → ν → Bool} :
    k ∈ (retain p t).keys ↔ ∃ v, t.lookup k = some v ∧ p k v = true := by
  simp only [mem_keys_iff, lookup_retain]

end Table

end Botmev.Library
