import Botmev.Hyperliquid.Shutdown

/-!
# Starting the services again

`stop` sets the manager's flag, and nothing ever clears it; nor that of the WebSocket service, once it
was shut down. A later `start` finds no tasks, so it starts new ones, with the same two flags: each
task that finds its flag set ends by itself.

## What is proved

* `shutdown_iff`: the manager's flag is set in a run just if `stop` was called.
* `runsUnsignalled_run`: tasks without a signal run until they get one, or panic.
* `restarts_iff`: in a run, every start leads to tasks that run until they are stopped just if none
  comes after a `stop`, or after a shutdown of the WebSocket service.
* `restart_ends`: start, stop and start again.
-/

namespace Botmev.Hyperliquid

namespace RunningManager

variable {m m' : RunningManager} {event : ManagerEvent} {events : List ManagerEvent}

/-! ### The flag of the manager -/

@[simp] theorem shutdown_start : m.start.shutdown = m.shutdown := by
  unfold start
  split <;> rfl

@[simp] theorem shutdown_joinWs : m.joinWs.shutdown = m.shutdown := by
  unfold joinWs
  split <;> rfl

@[simp] theorem shutdown_stop : m.stop.shutdown = true := by
  unfold stop joinRpc
  split
  · rfl
  · exact shutdown_joinWs

theorem shutdown_of_step (h : m.step event = some m') :
    m'.shutdown = true ↔ m.shutdown = true ∨ event = .stop := by
  rcases step_cases h with ⟨rfl, -, rfl⟩ | ⟨rfl, -, rfl⟩ | ⟨_, rfl, -, rfl⟩ | ⟨_, rfl, -, -, rfl⟩ | ⟨rfl, rfl⟩ |
    ⟨rfl, rfl⟩ | ⟨_, _, _, _, rfl, -, -, rfl⟩ | ⟨_, _, _, _, rfl, -, -, rfl⟩ <;> simp

/-- **Only `stop`** sets the manager's flag, and nothing clears it. -/
theorem shutdown_iff (hrun : new.run events = some m) : m.shutdown = true ↔ .stop ∈ events := by
  induction events using List.reverseRecOn generalizing m with
  | nil =>
    cases hrun
    exact iff_of_false Bool.false_ne_true List.not_mem_nil
  | append_singleton events event ih =>
    obtain ⟨m₁, hrun, hstep⟩ := exists_of_run_append hrun
    rw [shutdown_of_step hstep, ih hrun, List.mem_append, List.mem_singleton, @eq_comm _ _ event]

/-! ### Tasks without a signal -/

/-- Two tasks run, and neither has a signal to end. -/
structure RunsUnsignalled (m : RunningManager) (ws rpc : ℕ) : Prop where
  /-- The manager's flag is not set. -/
  shutdown : m.shutdown = false
  /-- Nor is that of the WebSocket service. -/
  wsShutdown : m.wsShutdown = false
  /-- The WebSocket task runs. -/
  wsRuns : ∃ t, m.wsTasks[ws]? = some t ∧ t ≠ .ended
  /-- The polling task runs. -/
  rpcRuns : ∃ t, m.rpcTasks[rpc]? = some t ∧ t ≠ .ended

/-- A signal for the tasks, or a panic of one. -/
def EndsTasks : ManagerEvent → Prop
  | .stop | .wsShutdown | .ws _ .panic | .rpc _ true => True
  | _ => False

theorem rpc_after_ne_ended {t t' : RpcTask} (h : t.after false false = some t') : t' ≠ .ended := by
  rintro rfl
  cases t <;> cases h

theorem exists_append {α : Type} {tasks : List α} {i : ℕ} {p : α → Prop} (h : ∃ t, tasks[i]? = some t ∧ p t)
    (task : α) : ∃ t, (tasks ++ [task])[i]? = some t ∧ p t := by
  obtain ⟨t, ht, hp⟩ := h
  refine ⟨t, ?_, hp⟩
  rw [List.getElem?_append_left (List.getElem?_eq_some_iff.mp ht).1]
  exact ht

theorem exists_set {α : Type} {tasks : List α} {i j : ℕ} {p : α → Prop} (h : ∃ t, tasks[i]? = some t ∧ p t)
    {task : α} (htask : p task) : ∃ t, (tasks.set j task)[i]? = some t ∧ p t := by
  obtain ⟨t, ht, hp⟩ := h
  by_cases hj : j = i
  · subst hj
    exact ⟨task, List.getElem?_set_self (List.getElem?_eq_some_iff.mp ht).1, htask⟩
  · exact ⟨t, by rw [List.getElem?_set_ne hj, ht], hp⟩

/-- Appending to both lists of tasks leaves the two tasks as they are. -/
theorem RunsUnsignalled.start {ws rpc : ℕ} (hruns : m.RunsUnsignalled ws rpc) :
    m.start.RunsUnsignalled ws rpc := by
  unfold RunningManager.start
  split
  · exact hruns
  · exact ⟨hruns.shutdown, hruns.wsShutdown, exists_append hruns.wsRuns _, exists_append hruns.rpcRuns _⟩

theorem RunsUnsignalled.joinWs {ws rpc : ℕ} (hruns : m.RunsUnsignalled ws rpc) :
    m.joinWs.RunsUnsignalled ws rpc := by
  unfold RunningManager.joinWs
  split <;> exact ⟨hruns.shutdown, hruns.wsShutdown, hruns.wsRuns, hruns.rpcRuns⟩

/-- **Tasks without a signal go on.** -/
theorem runsUnsignalled_step {ws rpc : ℕ} (h : m.step event = some m') (hruns : m.RunsUnsignalled ws rpc)
    (hevent : ¬ EndsTasks event) : m'.RunsUnsignalled ws rpc := by
  rcases step_cases h with ⟨rfl, -, rfl⟩ | ⟨rfl, -, rfl⟩ | ⟨_, rfl, -, rfl⟩ | ⟨_, rfl, -, -, rfl⟩ | ⟨rfl, rfl⟩ |
    ⟨rfl, rfl⟩ | ⟨task, e, t, t', rfl, -, hafter, rfl⟩ | ⟨task, panic, t, t', rfl, -, hafter, rfl⟩
  · exact hruns.start
  · exact absurd trivial hevent
  · exact hruns.joinWs
  · exact ⟨hruns.shutdown, hruns.wsShutdown, hruns.wsRuns, hruns.rpcRuns⟩
  · exact ⟨hruns.shutdown, hruns.wsShutdown, hruns.wsRuns, hruns.rpcRuns⟩
  · exact absurd trivial hevent
  · rw [hruns.wsShutdown] at hafter
    have hne : e ≠ .panic := by
      rintro rfl
      exact hevent trivial
    exact ⟨hruns.shutdown, hruns.wsShutdown, exists_set hruns.wsRuns (after_ne_ended hafter hne), hruns.rpcRuns⟩
  · cases panic with
    | true => exact absurd trivial hevent
    | false =>
      rw [hruns.shutdown] at hafter
      exact ⟨hruns.shutdown, hruns.wsShutdown, hruns.wsRuns,
        exists_set hruns.rpcRuns (rpc_after_ne_ended hafter)⟩

/-- **Tasks without a signal run** until they get one, or panic. -/
theorem runsUnsignalled_run {ws rpc : ℕ} (hrun : m.run events = some m') (hruns : m.RunsUnsignalled ws rpc)
    (hevents : ∀ event ∈ events, ¬ EndsTasks event) : m'.RunsUnsignalled ws rpc := by
  induction events using List.reverseRecOn generalizing m' with
  | nil =>
    cases hrun
    exact hruns
  | append_singleton events event ih =>
    obtain ⟨m₁, hrun, hstep⟩ := exists_of_run_append hrun
    have hruns₁ := ih hrun fun event hevent => hevents event (List.mem_append_left _ hevent)
    exact runsUnsignalled_step hstep hruns₁ (hevents event (List.mem_append_right _ (List.mem_singleton_self _)))

/-! ### Starts -/

/-- `start` is not turned down. -/
def CanStart (m : RunningManager) : Prop := m.call = .idle ∧ m.wsTask = none ∧ m.rpcTask = none

/-- **A start that works**: neither flag is set after it, and the two tasks it has started run
until they get a signal, or panic. -/
def StartWorks (m : RunningManager) : Prop :=
  m.start.shutdown = false ∧ m.start.wsShutdown = false ∧
    ∀ later m', m.start.run later = some m' → (∀ event ∈ later, ¬ EndsTasks event) →
      (∃ t, m'.wsTasks[m.wsTasks.length]? = some t ∧ t ≠ .ended) ∧
        ∃ t, m'.rpcTasks[m.rpcTasks.length]? = some t ∧ t ≠ .ended

theorem startWorks_iff (h : m.CanStart) : m.StartWorks ↔ m.shutdown = false ∧ m.wsShutdown = false := by
  obtain ⟨-, hws, hrpc⟩ := h
  constructor
  · rintro ⟨hshutdown, hwsShutdown, -⟩
    rw [shutdown_start] at hshutdown
    rw [wsShutdown_start] at hwsShutdown
    exact ⟨hshutdown, hwsShutdown⟩
  · rintro ⟨hshutdown, hwsShutdown⟩
    have hruns : m.start.RunsUnsignalled m.wsTasks.length m.rpcTasks.length := by
      refine ⟨by simpa using hshutdown, by simpa using hwsShutdown, ?_, ?_⟩
      · exact ⟨.checking, by simp [start, hws, hrpc], by decide⟩
      · exact ⟨.checking, by simp [start, hws, hrpc], by decide⟩
    refine ⟨hruns.shutdown, hruns.wsShutdown, fun later m' hrun hlater => ?_⟩
    have hruns' := runsUnsignalled_run hrun hruns hlater
    exact ⟨hruns'.wsRuns, hruns'.rpcRuns⟩

/-- **Every start works**, in a run, just if none comes after a `stop`, or after a shutdown of the
WebSocket service. -/
theorem restarts_iff (events : List ManagerEvent) :
    (∀ before m, before ++ [.start] <+: events → new.run before = some m → m.CanStart → m.StartWorks) ↔
      ∀ before m, before ++ [.start] <+: events → new.run before = some m → m.CanStart →
        .stop ∉ before ∧ .wsShutdown ∉ before := by
  refine forall_congr' fun before => forall_congr' fun m => forall_congr' fun _ => forall_congr' fun hrun =>
    forall_congr' fun hcan => ?_
  rw [startWorks_iff hcan, ← shutdown_iff hrun, ← wsShutdown_iff hrun, Bool.not_eq_true, Bool.not_eq_true]

/-- **Start, stop and start again**: the polling task ends and is waited for, and the wait for the
WebSocket task is given up. The second start goes well; the polling task that it starts ends with the
first look at the flag. -/
theorem restart_ends :
    ∃ m m', new.run [.start, .stop, .rpc 0 false, .rpcJoined, .dropped] = some m ∧ m.CanStart ∧
      m.start.shutdown = true ∧ ¬ m.StartWorks ∧ m.start.run [.rpc 1 false] = some m' ∧
      m'.rpcTasks[1]? = some .ended := by
  refine ⟨_, _, rfl, ⟨rfl, rfl, rfl⟩, rfl, fun hworks => ?_, rfl, rfl⟩
  exact Bool.noConfusion hworks.1

end RunningManager

end Botmev.Hyperliquid
