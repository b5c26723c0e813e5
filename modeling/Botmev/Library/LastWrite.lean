import Botmev.Library.Table
import Mathlib.Data.List.Induction

/-!
# What was written last

Of a list of events, some of which write a value under a key, the value that was written last
under each key.

## What is proved

* `lastWrite_concat`: what one more event does.
* `lastWrite_eq_some_iff`: it is the value of an event with none after it that writes the key.
* `exists_lastWrite`, `lastWrite_eq_none`: there is one just when the key is written.
* `lookup_insert`: a table that is written has what was written last.
-/

namespace Botmev.Library

variable {ε κ ν : Type} [DecidableEq κ]

/-- After one more write, if it is one. -/
def overwrite (write : Option (κ × ν)) (k : κ) (last : Option ν) : Option ν :=
  match write with
  | some (k', v) => if k' = k then some v else last
  | none => last

/-- The value that was written last under a key. -/
def lastWrite (writes : ε → Option (κ × ν)) (events : List ε) (k : κ) : Option ν :=
  events.foldl (fun last e => overwrite (writes e) k last) none

variable {writes : ε → Option (κ × ν)} {events : List ε} {k : κ} {v : ν}

@[simp] theorem overwrite_none (last : Option ν) : overwrite none k last = last := rfl

theorem overwrite_eq_some_iff {write : Option (κ × ν)} {last : Option ν} :
    overwrite write k last = some v ↔ write = some (k, v) ∨ (∀ v', write ≠ some (k, v')) ∧ last = some v := by
  rcases write with _ | ⟨k', v'⟩
  · simp [overwrite]
  · by_cases hk : k' = k <;> simp [overwrite, hk]

@[simp] theorem lastWrite_nil (writes : ε → Option (κ × ν)) (k : κ) : lastWrite writes [] k = none := rfl

@[simp] theorem lastWrite_concat (writes : ε → Option (κ × ν)) (events : List ε) (e : ε) (k : κ) :
    lastWrite writes (events ++ [e]) k = overwrite (writes e) k (lastWrite writes events k) := by
  simp only [lastWrite, List.foldl_append, List.foldl_cons, List.foldl_nil]

/-- Where an event stands when there is one more: it is that one, or it stands among the others. -/
theorem concat_eq_append_cons {before after : List ε} {last e : ε} (h : events ++ [last] = before ++ e :: after) :
    (events = before ∧ last = e ∧ after = []) ∨
      ∃ after', after = after' ++ [last] ∧ events = before ++ e :: after' := by
  rcases List.eq_nil_or_concat' after with rfl | ⟨after', e', rfl⟩
  · obtain ⟨hevents, hlast⟩ := List.append_inj' h rfl
    exact .inl ⟨hevents, List.head_eq_of_cons_eq hlast, rfl⟩
  · rw [← List.cons_append, ← List.append_assoc] at h
    obtain ⟨hevents, hlast⟩ := List.append_inj' h rfl
    cases hlast
    exact .inr ⟨after', rfl, hevents⟩

/-- **The last write** has none of its key after it. -/
theorem lastWrite_eq_some_iff :
    lastWrite writes events k = some v ↔
      ∃ before e after, events = before ++ e :: after ∧ writes e = some (k, v) ∧
        ∀ e' ∈ after, ∀ v', writes e' ≠ some (k, v') := by
  induction events using List.reverseRecOn with
  | nil => simp
  | append_singleton events last ih =>
    rw [lastWrite_concat, overwrite_eq_some_iff, ih]
    constructor
    · rintro (hlast | ⟨hother, before, e, after, rfl, he, hafter⟩)
      · exact ⟨events, last, [], rfl, hlast, by simp⟩
      · refine ⟨before, e, after ++ [last], by simp, he, fun e' he' => ?_⟩
        rcases List.mem_append.mp he' with he' | he'
        · exact hafter e' he'
        · rw [List.mem_singleton.mp he']
          exact hother
    · rintro ⟨before, e, after, hevents, he, hafter⟩
      rcases concat_eq_append_cons hevents with ⟨-, rfl, -⟩ | ⟨after, rfl, hbefore⟩
      · exact .inl he
      · exact .inr ⟨hafter last (by simp), before, e, after, hbefore, he, fun e' he' => hafter e' (by simp [he'])⟩

theorem exists_lastWrite {e : ε} (he : e ∈ events) (hwrite : writes e = some (k, v)) :
    ∃ v', lastWrite writes events k = some v' := by
  induction events using List.reverseRecOn with
  | nil => cases he
  | append_singleton events last ih =>
    simp only [lastWrite_concat, overwrite_eq_some_iff]
    by_cases hlast : ∃ v', writes last = some (k, v')
    · obtain ⟨v', hv'⟩ := hlast
      exact ⟨v', .inl hv'⟩
    · rcases List.mem_append.mp he with he | he
      · obtain ⟨v', hv'⟩ := ih he
        exact ⟨v', .inr ⟨not_exists.mp hlast, hv'⟩⟩
      · rw [List.mem_singleton.mp he] at hwrite
        exact absurd ⟨v, hwrite⟩ hlast

theorem lastWrite_eq_none (h : ∀ e ∈ events, writes e = none) : lastWrite writes events k = none := by
  induction events using List.reverseRecOn with
  | nil => rfl
  | append_singleton events last ih =>
    rw [lastWrite_concat, h last (by simp), overwrite_none]
    exact ih fun e he => h e (List.mem_append_left _ he)

theorem lookup_insert (t : Table κ ν) (k k' : κ) (v : ν) :
    (t.insert k v).lookup k' = overwrite (some (k, v)) k' (t.lookup k') := by
  by_cases hk : k = k'
  · subst hk
    simp [overwrite]
  · simp [overwrite, hk, AList.lookup_insert_ne (Ne.symm hk)]

end Botmev.Library
