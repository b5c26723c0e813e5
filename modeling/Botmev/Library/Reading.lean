import Botmev.Library.Table

/-!
# Reading lists and tables

What is read from texts, or an error: one text after the other, and the first that is not read is the
error. For a table each is read as a key and a value. Two texts may be read as the same key, and then the
later value counts.

## What is proved

* `exists_mapM_ok_iff`: a list is read if every text is.
* `readEntries_ok_iff`: so is a table, in whichever order the texts come.
* `readEntries_error`: an error is that of one of the texts.
* `exists_of_lookup`, `exists_lookup`: what is in the table was read, and what was read is in it.
* `sameTable_of_sameEntries`: if no two texts have the same key, the order does not matter.
-/

namespace Botmev.Library

section Except

variable {α β ε : Type}

theorem exists_map_ok_iff {r : Except ε α} {f : α → β} : (∃ b, f <$> r = .ok b) ↔ ∃ a, r = .ok a := by
  cases r <;> simp [Functor.map, Except.map]

/-- **What `?` does**: a sequence succeeds if every call in it does. -/
theorem bind_eq_ok_iff {r : Except ε α} {f : α → Except ε β} {b : β} :
    r >>= f = .ok b ↔ ∃ a, r = .ok a ∧ f a = .ok b := by
  cases r <;> simp [bind, Except.bind]

theorem bind_eq_error_iff {r : Except ε α} {f : α → Except ε β} {e : ε} :
    r >>= f = .error e ↔ r = .error e ∨ ∃ a, r = .ok a ∧ f a = .error e := by
  cases r <;> simp [bind, Except.bind]

theorem exists_bind_ok_iff {r : Except ε α} {f : α → Except ε β} :
    (∃ b, r >>= f = .ok b) ↔ ∃ a, r = .ok a ∧ ∃ b, f a = .ok b := by
  cases r <;> simp [bind, Except.bind]

/-- **A list is read** if everything in it is. -/
theorem exists_mapM_ok_iff {f : α → Except ε β} {as : List α} :
    (∃ bs, as.mapM f = .ok bs) ↔ ∀ a ∈ as, ∃ b, f a = .ok b := by
  induction as with
  | nil => simp [pure, Except.pure]
  | cons a as ih =>
    simp only [List.mapM_cons, exists_bind_ok_iff, List.forall_mem_cons]
    constructor
    · rintro ⟨b, hb, bs, hbs, -⟩
      exact ⟨⟨b, hb⟩, ih.mp ⟨bs, hbs⟩⟩
    · rintro ⟨⟨b, hb⟩, hrest⟩
      obtain ⟨bs, hbs⟩ := ih.mpr hrest
      exact ⟨b, hb, bs, hbs, b :: bs, rfl⟩

theorem mapM_eq_ok_map {f : α → Except ε β} {g : α → β} {as : List α} (h : ∀ a ∈ as, f a = .ok (g a)) :
    as.mapM f = .ok (as.map g) := by
  induction as with
  | nil => rfl
  | cons a as ih =>
    obtain ⟨hfirst, hrest⟩ := List.forall_mem_cons.mp h
    rw [List.mapM_cons, hfirst, ih hrest]
    rfl

end Except

variable {κ ν ε τ : Type} [DecidableEq κ]

/-- What a table is read as, from texts one after the other. -/
def readEntries (read : τ → Except ε (κ × ν)) : Table κ ν → List τ → Except ε (Table κ ν)
  | t, [] => .ok t
  | t, text :: texts =>
    match read text with
    | .ok (k, v) => readEntries read (t.insert k v) texts
    | .error e => .error e

variable {read : τ → Except ε (κ × ν)} {t t' : Table κ ν} {texts : List τ} {k : κ} {v : ν} {e : ε}

theorem readEntries_cons_ok_iff {text : τ} :
    readEntries read t (text :: texts) = .ok t' ↔
      ∃ k v, read text = .ok (k, v) ∧ readEntries read (t.insert k v) texts = .ok t' := by
  rcases h : read text with e | ⟨k, v⟩ <;> simp [readEntries, h]

/-- **When a table is read.** -/
theorem readEntries_ok_iff :
    (∃ t', readEntries read t texts = .ok t') ↔ ∀ text ∈ texts, ∃ entry, read text = .ok entry := by
  induction texts generalizing t with
  | nil => simp [readEntries]
  | cons text texts ih =>
    simp only [readEntries_cons_ok_iff, List.forall_mem_cons]
    constructor
    · rintro ⟨t', k, v, htext, hrest⟩
      exact ⟨⟨_, htext⟩, ih.mp ⟨t', hrest⟩⟩
    · rintro ⟨⟨⟨k, v⟩, htext⟩, hrest⟩
      obtain ⟨t', ht'⟩ := ih.mpr hrest
      exact ⟨t', k, v, htext, ht'⟩

/-- **Whose error it is.** -/
theorem readEntries_error (h : readEntries read t texts = .error e) : ∃ text ∈ texts, read text = .error e := by
  induction texts generalizing t with
  | nil => cases h
  | cons text texts ih =>
    rcases htext : read text with e' | ⟨k, v⟩
    · simp only [readEntries, htext, Except.error.injEq] at h
      exact ⟨text, List.mem_cons_self, h ▸ htext⟩
    · simp only [readEntries, htext] at h
      obtain ⟨text', hmem, herror⟩ := ih h
      exact ⟨text', List.mem_cons_of_mem _ hmem, herror⟩

/-- **What is in the table** was there before, or was read. -/
theorem exists_of_lookup (h : readEntries read t texts = .ok t') (hlookup : t'.lookup k = some v) :
    t.lookup k = some v ∨ ∃ text ∈ texts, read text = .ok (k, v) := by
  induction texts generalizing t with
  | nil =>
    cases h
    exact .inl hlookup
  | cons text texts ih =>
    obtain ⟨k₁, v₁, htext, hrest⟩ := readEntries_cons_ok_iff.mp h
    rcases ih hrest with hbefore | ⟨text', hmem, hread⟩
    · by_cases hk : k = k₁
      · subst hk
        rw [AList.lookup_insert, Option.some.injEq] at hbefore
        exact .inr ⟨text, List.mem_cons_self, hbefore ▸ htext⟩
      · rw [AList.lookup_insert_ne hk] at hbefore
        exact .inl hbefore
    · exact .inr ⟨text', List.mem_cons_of_mem _ hmem, hread⟩

theorem mem_readEntries (h : readEntries read t texts = .ok t') (hk : k ∈ t) : k ∈ t' := by
  induction texts generalizing t with
  | nil =>
    cases h
    exact hk
  | cons text texts ih =>
    obtain ⟨k₁, v₁, -, hrest⟩ := readEntries_cons_ok_iff.mp h
    exact ih hrest (AList.mem_insert t |>.mpr (.inr hk))

/-- **What was read is in the table**, under some value. -/
theorem exists_lookup (h : readEntries read t texts = .ok t') {text : τ} (hmem : text ∈ texts)
    (hread : read text = .ok (k, v)) : ∃ v', t'.lookup k = some v' := by
  induction texts generalizing t with
  | nil => cases hmem
  | cons text₁ texts ih =>
    obtain ⟨k₁, v₁, htext, hrest⟩ := readEntries_cons_ok_iff.mp h
    rcases List.mem_cons.mp hmem with rfl | hmem
    · obtain ⟨rfl, rfl⟩ := Prod.ext_iff.mp (Except.ok.inj (htext.symm.trans hread))
      exact Option.isSome_iff_exists.mp
        (AList.lookup_isSome.mpr (mem_readEntries hrest (AList.mem_insert t |>.mpr (.inl rfl))))
    · exact ih hrest hmem

/-! ### The order -/

/-- Lists of entries with the same keys, and with values that are the same in some sense. -/
def SameEntries {σ ρ : Type} (R : ρ → ρ → Prop) (entries entries' : List (σ × ρ)) : Prop :=
  (∀ e ∈ entries, ∃ e' ∈ entries', e.1 = e'.1 ∧ R e.2 e'.2) ∧
    ∀ e' ∈ entries', ∃ e ∈ entries, e.1 = e'.1 ∧ R e.2 e'.2

/-- Tables with the same keys, and with values that are the same in some sense. -/
def SameTable (R : ν → ν → Prop) (t t' : Table κ ν) : Prop := ∀ k, Option.Rel R (t.lookup k) (t'.lookup k)

/-- No two entries have keys that are read as the same. -/
def Unambiguous {κ σ ρ : Type} (readKey : σ → Except ε κ) (entries : List (σ × ρ)) : Prop :=
  ∀ e ∈ entries, ∀ e' ∈ entries, ∀ k, readKey e.1 = .ok k → readKey e'.1 = .ok k → e = e'

theorem sameEntries_nil_iff {σ ρ : Type} {R : ρ → ρ → Prop} {entries entries' : List (σ × ρ)}
    (h : SameEntries R entries entries') : entries = [] ↔ entries' = [] := by
  constructor
  · rintro rfl
    exact List.eq_nil_iff_forall_not_mem.mpr fun e' he' => by simpa using h.2 e' he'
  · rintro rfl
    exact List.eq_nil_iff_forall_not_mem.mpr fun e he => by simpa using h.1 e he

/-- **The order does not matter** if no two keys are read as the same. -/
theorem sameTable_of_sameEntries {ε' σ ρ : Type} {S : ρ → ρ → Prop} {R : ν → ν → Prop}
    {readKey : σ → Except ε' κ} {read : σ × ρ → Except ε (κ × ν)} {entries entries' : List (σ × ρ)}
    (hkey : ∀ e k v, read e = .ok (k, v) → readKey e.1 = .ok k)
    (hvalue : ∀ e ∈ entries, ∀ e' k v k' v', S e.2 e'.2 → read e = .ok (k, v) →
      read e' = .ok (k', v') → R v v')
    (hsame : SameEntries S entries entries') (hunambiguous : Unambiguous readKey entries)
    (ht : readEntries read ∅ entries = .ok t) (ht' : readEntries read ∅ entries' = .ok t') :
    SameTable R t t' := by
  have hread : ∀ e ∈ entries, ∃ entry, read e = .ok entry := readEntries_ok_iff.mp ⟨t, ht⟩
  have hread' : ∀ e ∈ entries', ∃ entry, read e = .ok entry := readEntries_ok_iff.mp ⟨t', ht'⟩
  intro k
  rcases hv : t.lookup k with _ | v <;> rcases hv' : t'.lookup k with _ | v'
  · exact .none
  · obtain ⟨e', he', hk'⟩ := (exists_of_lookup ht' hv').resolve_left (by simp)
    obtain ⟨e, he, hkeys, -⟩ := hsame.2 e' he'
    obtain ⟨⟨k₁, v₁⟩, hk₁⟩ := hread e he
    have hk : k₁ = k := Except.ok.inj ((hkey e k₁ v₁ hk₁).symm.trans (hkeys ▸ hkey e' k v' hk'))
    obtain ⟨v, hlookup⟩ := exists_lookup ht he (hk ▸ hk₁)
    rw [hv] at hlookup
    cases hlookup
  · obtain ⟨e, he, hk⟩ := (exists_of_lookup ht hv).resolve_left (by simp)
    obtain ⟨e', he', hkeys, -⟩ := hsame.1 e he
    obtain ⟨⟨k₁, v₁⟩, hk₁⟩ := hread' e' he'
    have hk' : k₁ = k := Except.ok.inj ((hkey e' k₁ v₁ hk₁).symm.trans (hkeys ▸ hkey e k v hk))
    obtain ⟨v', hlookup⟩ := exists_lookup ht' he' (hk' ▸ hk₁)
    rw [hv'] at hlookup
    cases hlookup
  · obtain ⟨e, he, hk⟩ := (exists_of_lookup ht hv).resolve_left (by simp)
    obtain ⟨e', he', hk'⟩ := (exists_of_lookup ht' hv').resolve_left (by simp)
    -- The entry that this one stands for has the same key, so it is the same.
    obtain ⟨e₁, he₁, hkeys, hvalues⟩ := hsame.2 e' he'
    have hsameKey := hkey e' k v' hk'
    rw [← hkeys] at hsameKey
    obtain rfl := hunambiguous e he e₁ he₁ k (hkey e k v hk) hsameKey
    exact .some (hvalue e he e' k v k v' hvalues hk hk')

end Botmev.Library
