import Botmev.Library.Trace
import Mathlib.Data.List.TakeWhile

/-!
# Fair read-write locks

A lock has a queue of those who have asked for it, holders first. Whoever asks is put at its end, and
nobody overtakes: the lock is held by the first of the queue alone if that is to write, and otherwise
by all before the first who is to write.

The tasks of a `Pool` ask for locks, wait until they hold them and give them back, and between that
they do the operations of an interface of their own. A task that waits makes no step before it holds
the lock, `CanProceed`.

## What is proved

* `mem_holders_iff`: who holds a lock; `holders_eq_of_write`: who writes is alone.
* `mem_holders_concat`, `mem_holders_release`: nobody loses a lock by what the others do.
* `exists_mem_holders`: a lock that is asked for is held by someone.
-/

namespace Botmev.Library

/-- How a lock is taken. -/
inductive Access where
  /-- With others that read. -/
  | read
  /-- Alone. -/
  | write
  deriving DecidableEq, Repr

/-! ### A queue -/

namespace LockQueue

variable {ι : Type} {i j : ι} {access : Access} {queue : List (ι × Access)}

/-- Those of a queue who hold the lock. -/
def holders : List (ι × Access) → List (ι × Access)
  | [] => []
  | (i, .write) :: _ => [(i, .write)]
  | (i, .read) :: rest => (i, .read) :: rest.takeWhile fun entry => entry.2 = .read

/-- **Who holds the lock**: the first, and those who read with nobody before them who is to write. -/
theorem mem_holders_iff : (i, access) ∈ holders queue ↔ ∃ before after, queue = before ++ (i, access) :: after ∧
    (before = [] ∨ access = .read ∧ ∀ entry ∈ before, entry.2 = Access.read) := by
  match queue with
  | [] => simp [holders]
  | (j, .write) :: rest =>
    rw [holders, List.mem_singleton]
    constructor
    · intro h
      exact ⟨[], rest, by rw [h, List.nil_append], .inl rfl⟩
    · rintro ⟨_ | ⟨entry, before⟩, after, h, hbefore⟩
      · exact (List.cons.inj h).1.symm
      · obtain ⟨rfl, -⟩ := List.cons.inj h
        rcases hbefore with hnil | ⟨-, hread⟩
        · cases hnil
        · exact nomatch hread _ List.mem_cons_self
  | (j, .read) :: rest =>
    rw [holders]
    constructor
    · intro h
      rcases List.mem_cons.mp h with h | h
      · exact ⟨[], rest, by rw [h, List.nil_append], .inl rfl⟩
      · have hread : ∀ entry ∈ rest.takeWhile fun entry => entry.2 = .read, entry.2 = Access.read :=
          fun entry hentry => by simpa using List.mem_takeWhile_imp hentry
        obtain ⟨before, after, hsplit⟩ := List.append_of_mem h
        refine ⟨(j, .read) :: before, after ++ rest.dropWhile fun entry => entry.2 = .read, ?_,
          .inr ⟨hread _ h, ?_⟩⟩
        · rw [List.cons_append, ← List.cons_append (a := (i, access)), ← List.append_assoc, ← hsplit,
            List.takeWhile_append_dropWhile]
        · rintro entry (_ | ⟨_, hentry⟩)
          · rfl
          · exact hread entry (hsplit ▸ List.mem_append_left _ hentry)
    · rintro ⟨_ | ⟨entry, before⟩, after, h, hbefore⟩
      · rw [(List.cons.inj h).1]
        exact List.mem_cons_self
      · obtain ⟨rfl, hrest⟩ := List.cons.inj h
        rcases hbefore with hnil | ⟨rfl, hread⟩
        · cases hnil
        · have hread' : ∀ entry ∈ before, decide (entry.2 = Access.read) = true :=
            fun entry hentry => decide_eq_true (hread entry (List.mem_cons_of_mem _ hentry))
          refine List.mem_cons_of_mem _ ?_
          rw [hrest, List.append_eq, List.takeWhile_append_of_pos hread', List.takeWhile_cons_of_pos rfl]
          exact List.mem_append_right _ List.mem_cons_self

theorem mem_of_mem_holders (h : (i, access) ∈ holders queue) : (i, access) ∈ queue := by
  obtain ⟨before, after, rfl, -⟩ := mem_holders_iff.mp h
  simp

/-- **Who writes is alone.** -/
theorem holders_eq_of_write (h : (i, .write) ∈ holders queue) : holders queue = [(i, .write)] := by
  match queue with
  | (j, .write) :: rest => rw [List.mem_singleton.mp h, holders]
  | (j, .read) :: rest =>
    rcases List.mem_cons.mp h with h | h
    · cases h
    · simpa using List.mem_takeWhile_imp h

theorem eq_of_write_mem_holders (hi : (i, .write) ∈ holders queue) (hj : (j, access) ∈ holders queue) :
    j = i ∧ access = .write := by
  rw [holders_eq_of_write hi] at hj
  exact Prod.mk.inj (List.mem_singleton.mp hj)

theorem exists_mem_holders (h : queue ≠ []) : ∃ entry, entry ∈ holders queue := by
  match queue with
  | (i, .write) :: _ => exact ⟨_, List.mem_singleton_self _⟩
  | (i, .read) :: _ => exact ⟨_, List.mem_cons_self⟩

theorem mem_holders_of_read (h : ∀ entry ∈ queue, entry.2 = Access.read) (hi : (i, access) ∈ queue) :
    (i, access) ∈ holders queue := by
  obtain ⟨before, after, rfl⟩ := List.append_of_mem hi
  exact mem_holders_iff.mpr ⟨before, after, rfl,
    .inr ⟨h _ hi, fun entry hentry => h entry (List.mem_append_left _ hentry)⟩⟩

theorem mem_holders_concat (new : ι × Access) (h : (i, access) ∈ holders queue) :
    (i, access) ∈ holders (queue ++ [new]) := by
  obtain ⟨before, after, rfl, hbefore⟩ := mem_holders_iff.mp h
  exact mem_holders_iff.mpr ⟨before, after ++ [new], by simp, hbefore⟩

variable [DecidableEq ι]

/-- A queue after one has left it. -/
def release (i : ι) (queue : List (ι × Access)) : List (ι × Access) := queue.filter fun entry => entry.1 ≠ i

@[simp] theorem mem_release {entry : ι × Access} : entry ∈ release i queue ↔ entry ∈ queue ∧ entry.1 ≠ i := by
  simp [release]

theorem mem_holders_release (hj : j ≠ i) (h : (j, access) ∈ holders queue) :
    (j, access) ∈ holders (release i queue) := by
  obtain ⟨before, after, rfl, hbefore⟩ := mem_holders_iff.mp h
  refine mem_holders_iff.mpr ⟨release i before, release i after, ?_, ?_⟩
  · simp [release, hj]
  · refine hbefore.imp (fun h => ?_) fun ⟨hread, h⟩ => ⟨hread, fun entry hentry => h entry ?_⟩
    · rw [h]
      rfl
    · exact (mem_release.mp hentry).1

end LockQueue

/-! ### Tasks with locks -/

/-- The operations of tasks that share locks, and data that is read and changed by the operations `Op`. -/
inductive LockedOp (ι L Op : Type) where
  /-- The task asks for the lock. -/
  | request (i : ι) (l : L) (access : Access)
  /-- It has waited until it holds the lock. -/
  | acquire (i : ι) (l : L)
  /-- It gives the lock back. -/
  | release (i : ι) (l : L)
  /-- It reads or changes the data. -/
  | data (op : Op)

/-- The interface of tasks that share locks, and data with the interface `J`. -/
@[reducible] def LockedI (ι L : Type) (J : Interface) : Interface where
  Op := LockedOp ι L J.Op
  Reply
    | .data op => J.Reply op
    | _ => Unit

/-- Locks, and data. -/
structure Locked (ι L σ : Type) where
  /-- Who has asked for each lock, in order. -/
  queue : L → List (ι × Access)
  /-- The data. -/
  data : σ

variable {ι L σ ε α : Type} {J : Interface}

/-- What the operations do. -/
def lockedHandler [DecidableEq ι] [DecidableEq L] (h : Handler J σ) : Handler (LockedI ι L J) (Locked ι L σ)
  | .request i l access, s => ((), { s with queue := Function.update s.queue l (s.queue l ++ [(i, access)]) })
  | .acquire _ _, s => ((), s)
  | .release i l, s => ((), { s with queue := Function.update s.queue l (LockQueue.release i (s.queue l)) })
  | .data op, s => ((h op s.data).1, { s with data := (h op s.data).2 })

/-- The task has the lock. -/
def Locked.Holds (s : Locked ι L σ) (i : ι) (l : L) : Prop := i ∈ (LockQueue.holders (s.queue l)).map Prod.fst

instance [DecidableEq ι] (s : Locked ι L σ) (i : ι) (l : L) : Decidable (s.Holds i l) :=
  inferInstanceAs (Decidable (i ∈ (LockQueue.holders (s.queue l)).map Prod.fst))

theorem Locked.holds_iff {s : Locked ι L σ} {i : ι} {l : L} :
    s.Holds i l ↔ ∃ access, (i, access) ∈ LockQueue.holders (s.queue l) := by
  simp [Locked.Holds]

/-- Tasks with locks, in the middle of running. -/
abbrev LockPool (ι L : Type) (J : Interface) (ε α σ : Type) := Pool (LockedI ι L J) ε α (Locked ι L σ) ι

/-- A task takes its next step if it does not have to wait for a lock. -/
def CanGoOn (p : LockPool ι L J ε α σ) (i : ι) : Prop :=
  match (p.tasks i).next? with
  | some (.acquire j l) => p.shared.Holds j l
  | _ => True

instance [DecidableEq ι] (p : LockPool ι L J ε α σ) (i : ι) : Decidable (CanGoOn p i) := by
  unfold CanGoOn
  split <;> infer_instance

/-- An operation on the data. -/
def onData (op : J.Op) : Async (LockedI ι L J) ε (J.Reply op) := Async.request (I := LockedI ι L J) (.data op)

/-- What a task does under a lock, which it gives back however that ends. -/
def withLock (i : ι) (l : L) (access : Access) (body : Async (LockedI ι L J) ε α) : Async (LockedI ι L J) ε α := do
  Async.request (I := LockedI ι L J) (.request i l access)
  Async.request (I := LockedI ι L J) (.acquire i l)
  let result ← body.attempt
  Async.request (I := LockedI ι L J) (.release i l)
  .done result

/-- Tasks that have not asked for anything yet. -/
def LockPool.start (data : σ) (tasks : ι → Async (LockedI ι L J) ε α) : LockPool ι L J ε α σ :=
  Pool.start ⟨fun _ => [], data⟩ tasks

end Botmev.Library
