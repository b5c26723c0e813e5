import Botmev.Library.Completion
import Botmev.Library.FairLocks
import Mathlib.Order.WellFounded

/-!
# Locks taken in order

A discipline says which locks are ever taken to write and in which order these are taken: whoever asks
for one of them has only earlier ones. A lock that is only read may be asked for at any time. Beside
that, the discipline may say at which stage a task is, as far as the data goes, and which locks it has
at that stage.

## What is proved

* `withLock_follows`: what is done under a lock.
* `LocksHeld.step`: who holds what, after one step.
* `exists_locksHeld`: in every run of tasks that keep the discipline, each has the locks that it has
  taken, and who writes is alone.
* `exists_canGoOn`: someone can go on as long as not all have ended.
* `exists_completed_of_ordered`: so every run can be completed.
* `WaitForEachOther.unfinished`: two that wait for each other do so for ever.
-/

namespace Botmev.Library

/-- In which order locks are taken, and what a task does meanwhile. -/
structure LockDiscipline (L : Type) (J : Interface) where
  /-- The locks that may be taken to write. -/
  written : L → Prop
  /-- The order of the locks. -/
  before : L → L → Prop
  /-- Where a task is, as far as the data goes. -/
  Stage : Type
  /-- Which locks a task may have there. -/
  fits : Stage → List (L × Access) → Prop
  /-- Where an operation on the data, with its answer, takes a task. -/
  move : Stage → (op : J.Op) → J.Reply op → Stage → Prop

/-- Where a task is. -/
structure LockPhase (ι L Stage : Type) where
  /-- The task. -/
  task : ι
  /-- The locks it has. -/
  held : List (L × Access)
  /-- The lock it has asked for and does not have. -/
  pending : Option (L × Access)
  /-- Where it is, as far as the data goes. -/
  stage : Stage

variable {ι L σ ε α : Type} {J : Interface}

/-- A task that has no lock. -/
def LockPhase.free {Stage : Type} (i : ι) (stage : Stage) : LockPhase ι L Stage := ⟨i, [], none, stage⟩

/-- A task has the locks of its phase. -/
structure TaskLocks (D : LockDiscipline L J) (queue : L → List (ι × Access)) (i : ι)
    (φ : LockPhase ι L D.Stage) : Prop where
  /-- The phase is its own. -/
  task : φ.task = i
  /-- Its locks fit its stage. -/
  fits : D.fits φ.stage φ.held
  /-- It is in the queues of the locks it has or has asked for. -/
  asked : ∀ l access, (i, access) ∈ queue l ↔ (l, access) ∈ φ.held ∨ φ.pending = some (l, access)
  /-- It is in each queue once. -/
  once : ∀ l access access', (i, access) ∈ queue l → (i, access') ∈ queue l → access = access'
  /-- It holds the locks it has. -/
  held : ∀ l access, (l, access) ∈ φ.held → (i, access) ∈ LockQueue.holders (queue l)
  /-- It asks for them in order. -/
  ordered : ∀ l access, φ.pending = some (l, access) → D.written l →
    ∀ entry ∈ φ.held, D.written entry.1 → D.before entry.1 l

/-- All tasks have the locks of their phases. -/
structure LocksHeld (D : LockDiscipline L J) (queue : L → List (ι × Access)) (φ : ι → LockPhase ι L D.Stage) :
    Prop where
  /-- Each task does. -/
  tasks : ∀ i, TaskLocks D queue i (φ i)
  /-- A lock that is only read is asked for to read. -/
  readOnly : ∀ l, ¬D.written l → ∀ entry ∈ queue l, entry.2 = Access.read

variable {D : LockDiscipline L J} {queue queue' : L → List (ι × Access)} {φ : ι → LockPhase ι L D.Stage}
  {φᵢ φ' : LockPhase ι L D.Stage} {i j : ι} {l : L} {access : Access}

theorem TaskLocks.of_queue (hT : TaskLocks D queue i φᵢ)
    (hsame : ∀ l access, (i, access) ∈ queue' l ↔ (i, access) ∈ queue l)
    (hholds : ∀ l access, (i, access) ∈ LockQueue.holders (queue l) → (i, access) ∈ LockQueue.holders (queue' l)) :
    TaskLocks D queue' i φᵢ where
  task := hT.task
  fits := hT.fits
  asked l access := (hsame l access).trans (hT.asked l access)
  once l access access' h h' := hT.once l access access' ((hsame l access).mp h) ((hsame l access').mp h')
  held l access h := hholds l access (hT.held l access h)
  ordered := hT.ordered

/-- **Who writes is alone.** -/
theorem LocksHeld.eq_of_write (hI : LocksHeld D queue φ) (hi : (l, .write) ∈ (φ i).held)
    (hj : (l, access) ∈ (φ j).held) : j = i :=
  (LockQueue.eq_of_write_mem_holders ((hI.tasks i).held l _ hi) ((hI.tasks j).held l _ hj)).1

theorem TaskLocks.acquire (hT : TaskLocks D queue i φᵢ) (hpending : φᵢ.pending = some (l, access))
    (hholds : ∃ a, (i, a) ∈ LockQueue.holders (queue l)) (hfits : D.fits φᵢ.stage ((l, access) :: φᵢ.held)) :
    TaskLocks D queue i { φᵢ with held := (l, access) :: φᵢ.held, pending := none } where
  task := hT.task
  fits := hfits
  asked l' a := by
    rw [hT.asked, hpending]
    simp only [Option.some.injEq, Prod.mk.injEq, List.mem_cons, reduceCtorEq, or_false]
    exact or_comm.trans (or_congr_left ⟨fun ⟨h, h'⟩ => ⟨h.symm, h'.symm⟩, fun ⟨h, h'⟩ => ⟨h.symm, h'.symm⟩⟩)
  once := hT.once
  held l' a h := by
    rcases List.mem_cons.mp h with h | h
    · obtain ⟨rfl, rfl⟩ := Prod.mk.inj h
      obtain ⟨a', ha'⟩ := hholds
      obtain rfl := hT.once l' _ _ (LockQueue.mem_of_mem_holders ha') ((hT.asked l' a).mpr (.inr hpending))
      exact ha'
    · exact hT.held l' a h
  ordered l' a h := by cases h

theorem LocksHeld.start {stage : ι → D.Stage} (hfits : ∀ i, D.fits (stage i) []) :
    LocksHeld D (fun _ => []) fun i => LockPhase.free i (stage i) where
  tasks i :=
    { task := rfl
      fits := hfits i
      asked := fun l access => by simp [LockPhase.free]
      once := fun l access access' h => by cases h
      held := fun l access h => by cases h
      ordered := fun l access h => by cases h }
  readOnly l _ entry h := by cases h

/-! ### What a task may do -/

variable [DecidableEq L]

/-- After a lock is given back. -/
def LockPhase.released {Stage : Type} (φ : LockPhase ι L Stage) (l : L) : LockPhase ι L Stage :=
  { φ with held := φ.held.filter fun entry => entry.1 ≠ l }

/-- What a task may do, and where it is then. -/
inductive LockMove (D : LockDiscipline L J) :
    LockPhase ι L D.Stage → (op : LockedOp ι L J.Op) → (LockedI ι L J).Reply op → LockPhase ι L D.Stage → Prop
  /-- It asks for a lock that it does not have. -/
  | request {φ : LockPhase ι L D.Stage} {l : L} {access : Access} (hfree : φ.pending = none)
      (hnew : ∀ a, (l, a) ∉ φ.held) (hwritten : access = .write → D.written l)
      (horder : D.written l → ∀ entry ∈ φ.held, D.written entry.1 → D.before entry.1 l) :
      LockMove D φ (.request φ.task l access) () { φ with pending := some (l, access) }
  /-- It gets the lock. -/
  | acquire {φ : LockPhase ι L D.Stage} {l : L} {access : Access} (hpending : φ.pending = some (l, access))
      (hfits : D.fits φ.stage ((l, access) :: φ.held)) :
      LockMove D φ (.acquire φ.task l) () { φ with held := (l, access) :: φ.held, pending := none }
  /-- It gives a lock back. -/
  | release {φ : LockPhase ι L D.Stage} {l : L} (hfree : φ.pending = none)
      (hfits : D.fits φ.stage (φ.released l).held) : LockMove D φ (.release φ.task l) () (φ.released l)
  /-- It does something with the data. -/
  | data {φ : LockPhase ι L D.Stage} {op : J.Op} {reply : J.Reply op} {stage : D.Stage} (hfree : φ.pending = none)
      (hmove : D.move φ.stage op reply stage) (hfits : D.fits stage φ.held) :
      LockMove D φ (.data op) reply { φ with stage := stage }

/-- The protocol of the discipline. -/
@[reducible] def LockDiscipline.protocol (D : LockDiscipline L J) (ι : Type) : Protocol (LockedI ι L J) where
  Phase := LockPhase ι L D.Stage
  legal _ _ := True
  move := LockMove D

/-- A task ends without locks. -/
def LockDiscipline.Ends (D : LockDiscipline L J) (ends : D.Stage → Except ε α → Prop)
    (φ : LockPhase ι L D.Stage) (r : Except ε α) : Prop :=
  φ.held = [] ∧ φ.pending = none ∧ ends φ.stage r

/-- A part of a task ends with these locks. -/
def LockDiscipline.EndsWith (D : LockDiscipline L J) (i : ι) (held : List (L × Access))
    (ends : D.Stage → Except ε α → Prop) (φ : LockPhase ι L D.Stage) (r : Except ε α) : Prop :=
  ∃ stage, φ = ⟨i, held, none, stage⟩ ∧ ends stage r

/-! ### Parts of a task -/

section parts

variable {held : List (L × Access)} {stage : D.Stage} {ends : D.Stage → Except ε α → Prop}

theorem follows_of_endsWith {t : Async (LockedI ι L J) ε α}
    (ht : (D.protocol ι).Follows (D.EndsWith i [] ends) (LockPhase.free i stage) t) :
    (D.protocol ι).Follows (D.Ends ends) (LockPhase.free i stage) t := by
  refine ht.mono ?_
  rintro φ r ⟨stage, rfl, h⟩
  exact ⟨rfl, rfl, h⟩

theorem onData_follows {op : J.Op} {ends : D.Stage → Except ε (J.Reply op) → Prop}
    (h : ∀ reply, ∃ stage', D.move stage op reply stage' ∧ D.fits stage' held ∧ ends stage' (.ok reply)) :
    (D.protocol ι).Follows (D.EndsWith i held ends) ⟨i, held, none, stage⟩ (onData op) := by
  intro reply _
  obtain ⟨stage', hmove, hfits, hends⟩ := h reply
  exact ⟨_, .data rfl hmove hfits, stage', rfl, hends⟩

theorem follows_bind {β : Type} {t : Async (LockedI ι L J) ε α} {f : α → Async (LockedI ι L J) ε β}
    {ends' : D.Stage → Except ε β → Prop} {φ : LockPhase ι L D.Stage}
    (ht : (D.protocol ι).Follows (D.EndsWith i held ends) φ t)
    (hok : ∀ stage a, ends stage (.ok a) →
      (D.protocol ι).Follows (D.EndsWith i held ends') ⟨i, held, none, stage⟩ (f a))
    (herr : ∀ stage e, ends stage (.error e) → ends' stage (.error e)) :
    (D.protocol ι).Follows (D.EndsWith i held ends') φ (t >>= f) := by
  refine ht.bind ?_ ?_
  · rintro φ a ⟨stage, rfl, h⟩
    exact hok stage a h
  · rintro φ e ⟨stage, rfl, h⟩
    exact ⟨stage, rfl, herr stage e h⟩

/-- **What is done under a lock**: the lock is asked for in order, and given back. -/
theorem withLock_follows {body : Async (LockedI ι L J) ε α} (hnew : ∀ a, (l, a) ∉ held)
    (hwritten : access = .write → D.written l)
    (horder : D.written l → ∀ entry ∈ held, D.written entry.1 → D.before entry.1 l)
    (hfits : D.fits stage ((l, access) :: held))
    (hbody : (D.protocol ι).Follows (D.EndsWith i ((l, access) :: held) ends) ⟨i, (l, access) :: held, none, stage⟩
      body)
    (hends : ∀ stage r, ends stage r → D.fits stage held) :
    (D.protocol ι).Follows (D.EndsWith i held ends) ⟨i, held, none, stage⟩ (withLock i l access body) := by
  rintro ⟨⟩ -
  refine ⟨_, LockMove.request (φ := ⟨i, held, none, stage⟩) rfl hnew hwritten horder, ?_⟩
  rintro ⟨⟩ -
  refine ⟨_, LockMove.acquire (φ := ⟨i, held, some (l, access), stage⟩) rfl hfits, ?_⟩
  refine hbody.attempt.bind ?_ ?_
  · rintro φ result ⟨_, ⟨⟩, stage', rfl, h⟩ ⟨⟩ -
    have hreleased : (LockPhase.released ⟨i, (l, access) :: held, none, stage'⟩ l : LockPhase ι L D.Stage) =
        ⟨i, held, none, stage'⟩ := by
      have hkept : held.filter (fun entry => entry.1 ≠ l) = held := by
        refine List.filter_eq_self.mpr fun entry hentry => decide_eq_true fun hl => ?_
        exact hnew entry.2 (hl ▸ hentry)
      rw [LockPhase.released, List.filter_cons_of_neg (by simp), hkept]
    refine ⟨_, LockMove.release (φ := ⟨i, (l, access) :: held, none, stage'⟩) rfl ?_, stage', hreleased, h⟩
    rw [hreleased]
    exact hends stage' _ h
  · rintro φ e ⟨_, ⟨⟩, -⟩

end parts

/-! ### One step -/

theorem mem_update_concat {new : ι × Access} {l' : L} {entry : ι × Access} :
    entry ∈ Function.update queue l (queue l ++ [new]) l' ↔ entry ∈ queue l' ∨ l' = l ∧ entry = new := by
  by_cases hl : l' = l
  · subst hl
    simp
  · simp [hl]

theorem holders_update_concat {new : ι × Access} {l' : L} (h : (i, access) ∈ LockQueue.holders (queue l')) :
    (i, access) ∈ LockQueue.holders (Function.update queue l (queue l ++ [new]) l') := by
  by_cases hl : l' = l
  · subst hl
    simpa using LockQueue.mem_holders_concat new h
  · simpa [hl] using h

theorem TaskLocks.request (hT : TaskLocks D queue i φᵢ) (hfree : φᵢ.pending = none) (hnew : ∀ a, (l, a) ∉ φᵢ.held)
    (horder : D.written l → ∀ entry ∈ φᵢ.held, D.written entry.1 → D.before entry.1 l) :
    TaskLocks D (Function.update queue l (queue l ++ [(i, access)])) i { φᵢ with pending := some (l, access) } where
  task := hT.task
  fits := hT.fits
  asked l' access' := by
    rw [mem_update_concat, hT.asked, hfree]
    simp only [reduceCtorEq, or_false, Prod.mk.injEq, true_and, Option.some.injEq]
    exact or_congr_right ⟨fun ⟨h, h'⟩ => ⟨h.symm, h'.symm⟩, fun ⟨h, h'⟩ => ⟨h.symm, h'.symm⟩⟩
  once l' a a' h h' := by
    have hnone : ∀ a, (i, a) ∉ queue l := by
      intro a ha
      rcases (hT.asked l a).mp ha with ha | ha
      · exact hnew a ha
      · rw [hfree] at ha
        cases ha
    rcases mem_update_concat.mp h with h₁ | ⟨hl, h₁⟩ <;> rcases mem_update_concat.mp h' with h₂ | ⟨hl', h₂⟩
    · exact hT.once l' a a' h₁ h₂
    · exact absurd (hl' ▸ h₁) (hnone a)
    · exact absurd (hl ▸ h₂) (hnone a')
    · exact (Prod.mk.inj h₁).2.trans (Prod.mk.inj h₂).2.symm
  held l' a h := holders_update_concat (hT.held l' a h)
  ordered l' a h := by
    obtain ⟨rfl, rfl⟩ := Prod.mk.inj (Option.some.inj h)
    exact horder

variable [DecidableEq ι]

theorem mem_update_release {l' : L} {entry : ι × Access} :
    entry ∈ Function.update queue l (LockQueue.release i (queue l)) l' ↔
      entry ∈ queue l' ∧ ¬(l' = l ∧ entry.1 = i) := by
  by_cases hl : l' = l
  · subst hl
    simp
  · simp [hl]

theorem holders_update_release {l' : L} (hother : l' = l → j ≠ i) (h : (j, access) ∈ LockQueue.holders (queue l')) :
    (j, access) ∈ LockQueue.holders (Function.update queue l (LockQueue.release i (queue l)) l') := by
  by_cases hl : l' = l
  · subst hl
    simpa using LockQueue.mem_holders_release (hother rfl) h
  · simpa [hl] using h

theorem TaskLocks.release (hT : TaskLocks D queue i φᵢ) (hfree : φᵢ.pending = none)
    (hfits : D.fits φᵢ.stage (φᵢ.released l).held) :
    TaskLocks D (Function.update queue l (LockQueue.release i (queue l))) i (φᵢ.released l) where
  task := hT.task
  fits := hfits
  asked l' a := by
    rw [mem_update_release, hT.asked, hfree]
    simp [LockPhase.released, hfree]
  once l' a a' h h' := hT.once l' a a' (mem_update_release.mp h).1 (mem_update_release.mp h').1
  held l' a h := by
    obtain ⟨hmem, hl⟩ := List.mem_filter.mp h
    exact holders_update_release (fun hl' => absurd hl' (by simpa using hl)) (hT.held l' a hmem)
  ordered l' a h := by
    rw [LockPhase.released, hfree] at h
    cases h

variable {p p₀ : LockPool ι L J ε α σ} {h : Handler J σ}

/-- **One step** of a task that keeps the discipline. -/
theorem LocksHeld.step (hI : LocksHeld D p.shared.queue φ) {op : LockedOp ι L J.Op}
    {k : (LockedI ι L J).Reply op → Async (LockedI ι L J) ε α} (hG : CanGoOn p i) (hi : p.tasks i = .await op k)
    (hm : LockMove D (φ i) op (lockedHandler h op p.shared).1 φ') :
    LocksHeld D (p.after (lockedHandler h) i op k).shared.queue (Function.update φ i φ') := by
  have hT := hI.tasks i
  rw [CanGoOn, hi, Async.next?_await] at hG
  rw [Pool.after_shared]
  generalize hφ : φ i = φᵢ at hm hT
  generalize (lockedHandler h op p.shared).1 = reply at hm
  obtain rfl := hT.task
  cases hm with
  | @request l access hfree hnew hwritten horder =>
    refine ⟨(Function.forall_update_iff φ fun j => TaskLocks D _ j).mpr
      ⟨hT.request hfree hnew horder, fun j hj => ?_⟩, ?_⟩
    · refine (hI.tasks j).of_queue (fun l' a => ?_) fun l' a => holders_update_concat
      rw [lockedHandler, mem_update_concat]
      simp [hj]
    · intro l' hl' entry hentry
      rcases mem_update_concat.mp hentry with hentry | ⟨rfl, rfl⟩
      · exact hI.readOnly l' hl' entry hentry
      · rcases access with _ | _
        · rfl
        · exact absurd (hwritten rfl) hl'
  | acquire hpending hfits =>
    refine ⟨(Function.forall_update_iff φ fun j => TaskLocks D _ j).mpr
      ⟨hT.acquire hpending (Locked.holds_iff.mp hG) hfits, fun j _ => hI.tasks j⟩, hI.readOnly⟩
  | @release l hfree hfits =>
    refine ⟨(Function.forall_update_iff φ fun j => TaskLocks D _ j).mpr ⟨hT.release hfree hfits, fun j hj => ?_⟩, ?_⟩
    · refine (hI.tasks j).of_queue (fun l' a => ?_) fun l' a => holders_update_release fun _ => hj
      rw [lockedHandler, mem_update_release]
      simp [hj]
    · intro l' hl' entry hentry
      exact hI.readOnly l' hl' entry (mem_update_release.mp hentry).1
  | data hfree hmove hfits =>
    refine ⟨(Function.forall_update_iff φ fun j => TaskLocks D _ j).mpr ⟨?_, fun j _ => hI.tasks j⟩, hI.readOnly⟩
    exact ⟨hT.task, hfits, hT.asked, hT.once, hT.held, hT.ordered⟩

variable {p₀ : LockPool ι L J ε α σ} {ends : D.Stage → Except ε α → Prop}

/-- **Who has which lock, in every run** of tasks that keep the discipline, with an invariant of the data
and the stages. -/
theorem exists_locksHeld (hr : Pool.Reach (lockedHandler h) CanGoOn p₀ p) {φ₀ : ι → LockPhase ι L D.Stage}
    (hφ₀ : ∀ i, (D.protocol ι).Follows (D.Ends ends) (φ₀ i) (p₀.tasks i)) (h₀ : LocksHeld D p₀.shared.queue φ₀)
    (Inv : σ → (ι → D.Stage) → Prop) (hInv : Inv p₀.shared.data fun i => (φ₀ i).stage)
    (hstep : ∀ s (φ : ι → LockPhase ι L D.Stage) i op stage, (∀ i, D.fits (φ i).stage (φ i).held) →
      (∀ i j l access, (l, .write) ∈ (φ i).held → (l, access) ∈ (φ j).held → j = i) →
      Inv s (fun i => (φ i).stage) → D.move (φ i).stage op (h op s).1 stage → D.fits stage (φ i).held →
        Inv (h op s).2 (Function.update (fun i => (φ i).stage) i stage)) :
    ∃ φ, (LocksHeld D p.shared.queue φ ∧ Inv p.shared.data fun i => (φ i).stage) ∧
      ∀ i, (D.protocol ι).Follows (D.Ends ends) (φ i) (p.tasks i) := by
  refine Protocol.exists_phases hr hφ₀ (fun p φ => LocksHeld D p.shared.queue φ ∧ Inv p.shared.data fun i => (φ i).stage)
    ⟨h₀, hInv⟩ (fun _ _ _ _ => trivial) ?_
  rintro p φ i op k φ' ⟨hI, hInv⟩ hG hi hm
  refine ⟨hI.step hG hi hm, ?_⟩
  have hstages : (fun j => (Function.update φ i φ' j).stage) = Function.update (fun j => (φ j).stage) i φ'.stage :=
    (Function.comp_update LockPhase.stage φ i φ').trans rfl
  have hsame : φ'.stage = (φ i).stage → (fun j => (Function.update φ i φ' j).stage) = fun j => (φ j).stage := by
    intro hstage
    rw [hstages, hstage, Function.update_eq_self i fun j => (φ j).stage]
  rw [Pool.after_shared]
  generalize hφ : φ i = φᵢ at hm hsame
  generalize hreply : (lockedHandler h op p.shared).1 = reply at hm
  cases hm with
  | request => exact hsame rfl ▸ hInv
  | acquire => exact hsame rfl ▸ hInv
  | release => exact hsame rfl ▸ hInv
  | data hfree hmove hfits =>
    rw [hstages]
    refine hstep _ φ i _ _ (fun j => (hI.tasks j).fits) (fun i j l access => hI.eq_of_write) hInv ?_ ?_
    · rw [hφ]
      rwa [← hreply] at hmove
    · rwa [hφ]

/-! ### Nobody waits for ever -/

omit [DecidableEq ι] in
theorem exists_pending_of_acquire {k : Unit → Async (LockedI ι L J) ε α}
    (hφ : (D.protocol ι).Follows (D.Ends ends) φᵢ (.await (.acquire j l) k)) :
    ∃ access, φᵢ.pending = some (l, access) := by
  obtain ⟨φ', hm, -⟩ := hφ () trivial
  cases hm with
  | acquire hpending => exact ⟨_, hpending⟩

omit [DecidableEq ι] in
/-- A task that cannot go on waits for a lock that is written. -/
theorem exists_pending_of_blocked (hφ : (D.protocol ι).Follows (D.Ends ends) (φ i) (p.tasks i))
    (hI : LocksHeld D p.shared.queue φ) {op : LockedOp ι L J.Op}
    {k : (LockedI ι L J).Reply op → Async (LockedI ι L J) ε α} (hi : p.tasks i = .await op k) (hblocked : ¬CanGoOn p i) :
    ∃ l access, (φ i).pending = some (l, access) ∧ D.written l := by
  rw [CanGoOn, hi, Async.next?_await] at hblocked
  rw [hi] at hφ
  cases op with
  | acquire j l =>
    obtain ⟨access, hpending⟩ := exists_pending_of_acquire hφ
    refine ⟨l, access, hpending, by_contra fun hread => hblocked ?_⟩
    have htask : j = i := by
      obtain ⟨φ', hm, -⟩ := hφ () trivial
      have htask := (hI.tasks i).task
      generalize φ i = φᵢ at hm htask
      cases hm with
      | acquire => exact htask
    have hasked := ((hI.tasks i).asked l access).mpr (.inr hpending)
    exact Locked.holds_iff.mpr ⟨access, htask ▸ LockQueue.mem_holders_of_read (hI.readOnly l hread) hasked⟩
  | _ => exact absurd trivial hblocked

theorem canGoOn_of_pending (h : Handler J σ) (hφ : (D.protocol ι).Follows (D.Ends ends) (φ i) (p.tasks i))
    (hI : LocksHeld D p.shared.queue φ) (hpending : (φ i).pending = some (l, access)) (hholds : p.shared.Holds i l) :
    ∃ op k, p.tasks i = .await op k ∧ CanGoOn p i := by
  rcases hi : p.tasks i with r | ⟨op, k⟩
  · rw [hi] at hφ
    obtain ⟨-, hnone, -⟩ := hφ
    rw [hpending] at hnone
    cases hnone
  · refine ⟨op, k, rfl, ?_⟩
    rw [hi] at hφ
    obtain ⟨φ', hm, -⟩ := hφ (lockedHandler h op p.shared).1 trivial
    rw [CanGoOn, hi, Async.next?_await]
    have htask := (hI.tasks i).task
    generalize φ i = φᵢ at hm hpending htask
    generalize (lockedHandler h op p.shared).1 = reply at hm
    cases hm with
    | acquire hpending' =>
      obtain ⟨rfl, -⟩ := Prod.mk.inj (Option.some.inj (hpending'.symm.trans hpending))
      rwa [htask]
    | request hfree | release hfree | data hfree =>
      rw [hfree] at hpending
      cases hpending

/-- **As long as not all have ended, someone can go on.** -/
theorem exists_canGoOn (hwf : WellFounded fun l' l => D.before l l') (h : Handler J σ)
    (hφ : ∀ i, (D.protocol ι).Follows (D.Ends ends) (φ i) (p.tasks i)) (hI : LocksHeld D p.shared.queue φ)
    (hunfinished : (p.tasks i).result? = none) :
    ∃ j p', CanGoOn p j ∧ p.step (lockedHandler h) j = some p' := by
  by_contra hstuck
  have hblocked : ∀ j op k, p.tasks j = .await op k → ¬CanGoOn p j :=
    fun j op k hj hG => hstuck ⟨j, _, hG, Pool.step_of_await hj⟩
  -- A task that waits, waits for one that waits for a later lock.
  have hnone : ∀ l j access, (φ j).pending = some (l, access) → D.written l → False := by
    intro l
    induction l using hwf.induction with
    | _ l ih =>
      intro j access hpending hwritten
      have hasked := ((hI.tasks j).asked l access).mpr (.inr hpending)
      obtain ⟨⟨j', access'⟩, hholds⟩ := LockQueue.exists_mem_holders (List.ne_nil_of_mem hasked)
      rcases ((hI.tasks j').asked l access').mp (LockQueue.mem_of_mem_holders hholds) with hheld | hpending'
      · rcases hj' : p.tasks j' with r | ⟨op, k⟩
        · have hends := hφ j'
          rw [hj'] at hends
          obtain ⟨hnil, -⟩ := hends
          rw [hnil] at hheld
          cases hheld
        · obtain ⟨l', a, hpending', hwritten'⟩ := exists_pending_of_blocked (hφ j') hI hj' (hblocked j' op k hj')
          exact ih l' ((hI.tasks j').ordered l' a hpending' hwritten' _ hheld hwritten) j' a hpending' hwritten'
      · obtain ⟨op, k, hj', hG⟩ := canGoOn_of_pending h (hφ j') hI hpending' (Locked.holds_iff.mpr ⟨_, hholds⟩)
        exact hblocked j' op k hj' hG
  rcases hi : p.tasks i with r | ⟨op, k⟩
  · rw [hi] at hunfinished
    cases hunfinished
  · obtain ⟨l, access, hpending, hwritten⟩ := exists_pending_of_blocked (hφ i) hI hi (hblocked i op k hi)
    exact hnone l i access hpending hwritten

/-- **Tasks that take their locks in order can always end.** -/
theorem exists_completed_of_ordered [Finite ι] (hwf : WellFounded fun l' l => D.before l l')
    (hr : Pool.Reach (lockedHandler h) CanGoOn p₀ p)
    {φ₀ : ι → LockPhase ι L D.Stage} (hφ₀ : ∀ i, (D.protocol ι).Follows (D.Ends ends) (φ₀ i) (p₀.tasks i))
    (h₀ : LocksHeld D p₀.shared.queue φ₀) :
    ∃ p', Pool.Reach (lockedHandler h) CanGoOn p p' ∧ ∀ i, ∃ r, p'.tasks i = .done r := by
  refine Pool.exists_completed fun p' hr' hunfinished => ?_
  obtain ⟨i, hi⟩ := hunfinished
  obtain ⟨φ, ⟨hI, -⟩, hφ⟩ := exists_locksHeld (hr.trans hr') hφ₀ h₀ (fun _ _ => True) trivial
    fun _ _ _ _ _ _ _ _ _ _ => trivial
  exact exists_canGoOn hwf h hφ hI hi

/-! ### Waiting for ever -/

/-- Two tasks wait for each other, each to write or for one that writes. -/
structure WaitForEachOther (φ : ι → LockPhase ι L D.Stage) (i j : ι) (l l' : L) : Prop where
  /-- They are two. -/
  ne : j ≠ i
  /-- The first has a lock to write. -/
  first : (l, .write) ∈ (φ i).held
  /-- The second has the other. -/
  second : ∃ access, (l', access) ∈ (φ j).held
  /-- The first waits for the one of the second, to write. -/
  pending : (φ i).pending = some (l', .write)
  /-- The second waits for the one of the first. -/
  pending' : ∃ access, (φ j).pending = some (l, access)

variable {l' : L}

omit [DecidableEq L] [DecidableEq ι] in
theorem WaitForEachOther.not_holds (hw : WaitForEachOther (D := D) φ i j l l') (hI : LocksHeld D p.shared.queue φ) :
    ¬p.shared.Holds i l' ∧ ¬p.shared.Holds j l := by
  constructor
  · intro hholds
    obtain ⟨access, hi⟩ := Locked.holds_iff.mp hholds
    obtain ⟨access', hheld⟩ := hw.second
    have hasked := ((hI.tasks i).asked l' .write).mpr (.inr hw.pending)
    obtain rfl := (hI.tasks i).once l' _ _ hasked (LockQueue.mem_of_mem_holders hi)
    exact hw.ne (LockQueue.eq_of_write_mem_holders hi ((hI.tasks j).held l' access' hheld)).1
  · intro hholds
    obtain ⟨access, hj⟩ := Locked.holds_iff.mp hholds
    exact hw.ne (LockQueue.eq_of_write_mem_holders ((hI.tasks i).held l _ hw.first) hj).1

/-- A task that waits does nothing but get the lock that it waits for. -/
theorem holds_of_pending {op : LockedOp ι L J.Op} {k : (LockedI ι L J).Reply op → Async (LockedI ι L J) ε α}
    (hG : CanGoOn p i) (hi : p.tasks i = .await op k) (htask : (φ i).task = i)
    (hm : LockMove D (φ i) op (lockedHandler h op p.shared).1 φ') (hpending : (φ i).pending = some (l, access)) :
    p.shared.Holds i l := by
  rw [CanGoOn, hi, Async.next?_await] at hG
  generalize φ i = φᵢ at hm hpending htask
  generalize (lockedHandler h op p.shared).1 = reply at hm
  cases hm with
  | acquire hpending' =>
    obtain ⟨rfl, -⟩ := Prod.mk.inj (Option.some.inj (hpending'.symm.trans hpending))
    rwa [htask] at hG
  | request hfree | release hfree | data hfree =>
    rw [hfree] at hpending
    cases hpending

/-- **Two tasks that wait for each other do so for ever.** -/
theorem WaitForEachOther.unfinished (hr : Pool.Reach (lockedHandler h) CanGoOn p₀ p)
    {φ₀ : ι → LockPhase ι L D.Stage} (hφ₀ : ∀ i, (D.protocol ι).Follows (D.Ends ends) (φ₀ i) (p₀.tasks i))
    (h₀ : LocksHeld D p₀.shared.queue φ₀) (hw : WaitForEachOther (D := D) φ₀ i j l l') :
    (p.tasks i).result? = none ∧ (p.tasks j).result? = none := by
  have hrun : ∃ φ, (LocksHeld D p.shared.queue φ ∧ WaitForEachOther (D := D) φ i j l l') ∧
      ∀ i, (D.protocol ι).Follows (D.Ends ends) (φ i) (p.tasks i) := by
    refine Protocol.exists_phases hr hφ₀
      (fun p φ => LocksHeld D p.shared.queue φ ∧ WaitForEachOther (D := D) φ i j l l') ⟨h₀, hw⟩
      (fun _ _ _ _ => trivial) ?_
    rintro p φ t op k φ' ⟨hI, hw⟩ hG ht hm
    refine ⟨hI.step hG ht hm, ?_⟩
    have hti : t ≠ i := by
      rintro rfl
      exact (hw.not_holds hI).1 (holds_of_pending hG ht (hI.tasks t).task hm hw.pending)
    have htj : t ≠ j := by
      rintro rfl
      obtain ⟨access, hpending⟩ := hw.pending'
      exact (hw.not_holds hI).2 (holds_of_pending hG ht (hI.tasks t).task hm hpending)
    have hφi := Function.update_of_ne hti.symm φ' φ
    have hφj := Function.update_of_ne htj.symm φ' φ
    exact ⟨hw.ne, hφi ▸ hw.first, hφj ▸ hw.second, hφi ▸ hw.pending, hφj ▸ hw.pending'⟩
  obtain ⟨φ, ⟨-, hw⟩, hφ⟩ := hrun
  -- A task that has ended waits for nothing.
  have hunfinished : ∀ t entry, (φ t).pending = some entry → (p.tasks t).result? = none := by
    intro t entry hpending
    rcases ht : p.tasks t with r | ⟨op, k⟩
    · have hends := hφ t
      rw [ht] at hends
      obtain ⟨-, hnone, -⟩ := hends
      rw [hpending] at hnone
      cases hnone
    · rfl
  obtain ⟨access, hpending⟩ := hw.pending'
  exact ⟨hunfinished i _ hw.pending, hunfinished j _ hpending⟩

end Botmev.Library
