import Botmev.Hyperliquid.ServiceManager
import Mathlib.Data.List.Infix

/-!
# Starting and stopping the services

`start` and `stop` of the service manager, with the tasks they start and wait for
(`mev-hyperliquid/src/service_manager.rs`, `websocket.rs`). `start` spawns a task for each service and
`stop` waits for both, first for the polling task. Before it does, it sets the manager's own flag,
which the polling task looks at. The WebSocket task looks at a flag of its own service, which
`HyperLiquidWsService::shutdown` sets and `stop` does not.

`start` and `stop` need the manager for themselves and come one after another; a call of `stop` that is
waiting can be dropped. Whoever has the WebSocket service from the manager can shut it down at any
time.

## What is proved

* `wsShutdown_iff`: only a call of the WebSocket service's `shutdown` sets its flag.
* `waits_of_step`: how `stop` comes to wait for a task that has no signal to end.
* `wait_goes_on_run`: such a wait does not end by itself.
* `stop_signals_iff`: in a run, `stop` waits only for a task that has its signal just when, each time
  it gets as far as to wait for it, the service was shut down before, or the task has ended.
* `stop_waits_unsignalled`: start and stop.
-/

namespace Botmev.Hyperliquid

/-! ### The tasks -/

/-- Where the WebSocket task is (`HyperLiquidWsService::start`). -/
inductive WsTask where
  /-- At the top of its loop. -/
  | checking
  /-- "Attempt to connect". -/
  | connecting
  /-- In the message loop. -/
  | connected
  /-- The connection has ended, or could not be made. -/
  | disconnected
  /-- "Wait with periodic shutdown checks", so many seconds. -/
  | waiting (remaining : ℕ)
  /-- It has returned, or panicked. -/
  | ended
  deriving DecidableEq, Repr

/-- What happens to the WebSocket task. -/
inductive WsEvent where
  /-- It goes on, to wait so many seconds where it waits. -/
  | proceed (backoff : ℕ)
  /-- It has a connection. -/
  | opened
  /-- A message is handled, a ping sent or a subscription repeated. -/
  | message
  /-- Nothing for 100 ms. -/
  | quiet
  /-- The connection fails, or is closed. -/
  | lost
  /-- It panics. -/
  | panic
  deriving DecidableEq, Repr

/-- The WebSocket task after an event, with its service's flag. -/
def WsTask.after (shutdown : Bool) : WsTask → WsEvent → Option WsTask
  | .ended, _ => none
  | _, .panic => some .ended
  | .checking, .proceed _ => some (if shutdown then .ended else .connecting)
  | .connecting, .opened => some .connected
  | .connecting, .lost => some .disconnected
  | .connected, .message => some .connected
  | .connected, .quiet => some (if shutdown then .disconnected else .connected)
  | .connected, .lost => some .disconnected
  -- "Don't reconnect if shutting down".
  | .disconnected, .proceed backoff => some (if shutdown then .ended else .waiting backoff)
  | .waiting remaining, .proceed _ =>
    some (if remaining = 0 ∨ shutdown then .checking else .waiting (remaining - 1))
  | _, _ => none

/-- Where the polling task is (`run_rpc_polling`). -/
inductive RpcTask where
  /-- At the top of its loop. -/
  | checking
  /-- "Poll blockchain state". -/
  | polling
  /-- It has returned, or panicked. -/
  | ended
  deriving DecidableEq, Repr

/-- The polling task when it goes on, or panics, with the manager's flag. -/
def RpcTask.after (shutdown panic : Bool) : RpcTask → Option RpcTask
  | .ended => none
  | .checking => some (if shutdown || panic then .ended else .polling)
  | .polling => some (if panic then .ended else .checking)

/-! ### The manager -/

/-- What the owner of the manager is in the middle of. -/
inductive ManagerCall where
  /-- Nothing. -/
  | idle
  /-- `stop`, that waits for a polling task. -/
  | joiningRpc (task : ℕ)
  /-- `stop`, that waits for a WebSocket task. -/
  | joiningWs (task : ℕ)
  deriving DecidableEq, Repr

/-- The service manager with all the tasks it has started, by their numbers. -/
structure RunningManager where
  /-- The manager's flag. -/
  shutdown : Bool
  /-- The WebSocket service's flag. -/
  wsShutdown : Bool
  /-- "WebSocket service task handle". -/
  wsTask : Option ℕ
  /-- "RPC polling task handle". -/
  rpcTask : Option ℕ
  /-- The WebSocket tasks. -/
  wsTasks : List WsTask
  /-- The polling tasks. -/
  rpcTasks : List RpcTask
  /-- What the owner is in the middle of. -/
  call : ManagerCall
  deriving DecidableEq, Repr

/-- What happens. -/
inductive ManagerEvent where
  /-- `start` is called. -/
  | start
  /-- `stop` is called. -/
  | stop
  /-- The polling task that `stop` waits for has ended. -/
  | rpcJoined
  /-- The WebSocket task that `stop` waits for has ended. -/
  | wsJoined
  /-- The waiting `stop` is dropped. -/
  | dropped
  /-- `shutdown` of the WebSocket service is called. -/
  | wsShutdown
  /-- A WebSocket task goes on. -/
  | ws (task : ℕ) (event : WsEvent)
  /-- A polling task goes on, or panics. -/
  | rpc (task : ℕ) (panic : Bool)
  deriving DecidableEq, Repr

namespace RunningManager

/-- The manager before the services are started. -/
def new : RunningManager where
  shutdown := false
  wsShutdown := false
  wsTask := none
  rpcTask := none
  wsTasks := []
  rpcTasks := []
  call := .idle

variable (m : RunningManager)

/-- `start`. -/
def start : RunningManager :=
  if m.wsTask.isSome || m.rpcTask.isSome then m
  else
    { m with
      wsTask := some m.wsTasks.length
      rpcTask := some m.rpcTasks.length
      wsTasks := m.wsTasks ++ [.checking]
      rpcTasks := m.rpcTasks ++ [.checking] }

/-- "Wait for WebSocket task to complete". -/
def joinWs : RunningManager :=
  match m.wsTask with
  | some task => { m with wsTask := none, call := .joiningWs task }
  | none => { m with call := .idle }

/-- "Wait for RPC task to complete". -/
def joinRpc : RunningManager :=
  match m.rpcTask with
  | some task => { m with rpcTask := none, call := .joiningRpc task }
  | none => m.joinWs

/-- `stop`, up to the first wait. -/
def stop : RunningManager := joinRpc { m with shutdown := true }

/-- The manager after an event, if it can happen. -/
def step : ManagerEvent → Option RunningManager
  | .start => if m.call = .idle then some m.start else none
  | .stop => if m.call = .idle then some m.stop else none
  | .rpcJoined =>
    match m.call with
    | .joiningRpc task => if m.rpcTasks[task]? = some .ended then some m.joinWs else none
    | _ => none
  | .wsJoined =>
    match m.call with
    | .joiningWs task => if m.wsTasks[task]? = some .ended then some { m with call := .idle } else none
    | _ => none
  | .dropped => if m.call = .idle then none else some { m with call := .idle }
  | .wsShutdown => some { m with wsShutdown := true }
  | .ws task event => do
    let t ← m.wsTasks[task]?
    let t' ← t.after m.wsShutdown event
    pure { m with wsTasks := m.wsTasks.set task t' }
  | .rpc task panic => do
    let t ← m.rpcTasks[task]?
    let t' ← t.after m.shutdown panic
    pure { m with rpcTasks := m.rpcTasks.set task t' }

/-- The manager after some events. -/
def run (events : List ManagerEvent) : Option RunningManager := events.foldlM step m

/-- `stop` waits for a WebSocket task that has no signal to end. -/
def WaitsUnsignalled : Prop :=
  ∃ task, m.call = .joiningWs task ∧ m.wsTasks[task]? ≠ some .ended ∧ m.wsShutdown = false

/-- With this event, `stop` gets as far as to wait for the WebSocket task, if there is one. -/
def ReachesWsTask : ManagerEvent → Prop
  | .stop => m.rpcTask = none
  | .rpcJoined => True
  | _ => False

/-- There is a WebSocket task to wait for. -/
def WsRunning : Prop := ∃ task, m.wsTask = some task ∧ m.wsTasks[task]? ≠ some .ended

/-! ### The tasks -/

theorem ne_ended_of_after {shutdown : Bool} {t t' : WsTask} {event : WsEvent}
    (h : t.after shutdown event = some t') :
    t ≠ .ended := by
  rintro rfl
  cases h

theorem after_ne_ended {t t' : WsTask} {event : WsEvent} (h : t.after false event = some t')
    (hne : event ≠ .panic) :
    t' ≠ .ended := by
  rintro rfl
  cases event with
  | panic => exact hne rfl
  | proceed backoff =>
    cases t with
    | waiting remaining =>
      simp only [WsTask.after, Option.some.injEq] at h
      split at h <;> cases h
    | checking | connecting | connected | disconnected | ended => cases h
  | opened | message | quiet | lost => cases t <;> cases h

theorem getElem?_set_of_some {tasks : List WsTask} {i : ℕ} {t : WsTask} (ht : tasks[i]? = some t)
    (t' : WsTask)
    (task : ℕ) : (tasks.set i t')[task]? = if i = task then some t' else tasks[task]? := by
  have hlt : i < tasks.length := (List.getElem?_eq_some_iff.mp ht).1
  rw [List.getElem?_set, if_pos hlt]

/-! ### One step -/

section step

variable {m} {m' : RunningManager} {event : ManagerEvent}

theorem step_cases (h : m.step event = some m') :
    event = .start ∧ m.call = .idle ∧ m' = m.start ∨
    event = .stop ∧ m.call = .idle ∧ m' = m.stop ∨
    (∃ task, event = .rpcJoined ∧ m.call = .joiningRpc task ∧ m' = m.joinWs) ∨
    (∃ task, event = .wsJoined ∧ m.call = .joiningWs task ∧ m.wsTasks[task]? = some .ended ∧
      m' = { m with call := .idle }) ∨
    event = .dropped ∧ m' = { m with call := .idle } ∨
    event = .wsShutdown ∧ m' = { m with wsShutdown := true } ∨
    (∃ task e t t', event = .ws task e ∧ m.wsTasks[task]? = some t ∧ t.after m.wsShutdown e = some t' ∧
      m' = { m with wsTasks := m.wsTasks.set task t' }) ∨
    ∃ task panic t t', event = .rpc task panic ∧ m.rpcTasks[task]? = some t ∧
      t.after m.shutdown panic = some t' ∧ m' = { m with rpcTasks := m.rpcTasks.set task t' } := by
  cases event with
  | start =>
    obtain ⟨hidle, hm'⟩ := Option.ite_none_right_eq_some.mp h
    exact .inl ⟨rfl, hidle, (Option.some.inj hm').symm⟩
  | stop =>
    obtain ⟨hidle, hm'⟩ := Option.ite_none_right_eq_some.mp h
    exact .inr (.inl ⟨rfl, hidle, (Option.some.inj hm').symm⟩)
  | rpcJoined =>
    simp only [step] at h
    split at h
    · rename_i task hcall
      obtain ⟨-, hm'⟩ := Option.ite_none_right_eq_some.mp h
      exact .inr (.inr (.inl ⟨task, rfl, hcall, (Option.some.inj hm').symm⟩))
    · cases h
  | wsJoined =>
    simp only [step] at h
    split at h
    · rename_i task hcall
      obtain ⟨hended, hm'⟩ := Option.ite_none_right_eq_some.mp h
      exact .inr (.inr (.inr (.inl ⟨task, rfl, hcall, hended, (Option.some.inj hm').symm⟩)))
    · cases h
  | dropped =>
    obtain ⟨-, hm'⟩ := Option.ite_none_left_eq_some.mp h
    exact .inr (.inr (.inr (.inr (.inl ⟨rfl, (Option.some.inj hm').symm⟩))))
  | wsShutdown => exact .inr (.inr (.inr (.inr (.inr (.inl ⟨rfl, (Option.some.inj h).symm⟩)))))
  | ws task e =>
    obtain ⟨t, ht, h⟩ := Option.bind_eq_some_iff.mp h
    obtain ⟨t', ht', h⟩ := Option.bind_eq_some_iff.mp h
    exact .inr (.inr (.inr (.inr (.inr (.inr (.inl ⟨task, e, t, t', rfl, ht, ht', (Option.some.inj h).symm⟩))))))
  | rpc task panic =>
    obtain ⟨t, ht, h⟩ := Option.bind_eq_some_iff.mp h
    obtain ⟨t', ht', h⟩ := Option.bind_eq_some_iff.mp h
    exact .inr (.inr (.inr (.inr (.inr (.inr (.inr ⟨task, panic, t, t', rfl, ht, ht', (Option.some.inj h).symm⟩))))))

theorem waits_joinWs : m.joinWs.WaitsUnsignalled ↔ m.WsRunning ∧ m.wsShutdown = false := by
  unfold joinWs WaitsUnsignalled WsRunning
  cases m.wsTask with
  | none => simp
  | some task => simp

/-- A call of `stop` waits for it at once if there is no polling task. -/
theorem waits_stop : m.stop.WaitsUnsignalled ↔ m.rpcTask = none ∧ m.WsRunning ∧ m.wsShutdown = false := by
  unfold stop joinRpc
  split
  · rename_i task hrpc
    have hrpc : m.rpcTask = some task := hrpc
    simp [WaitsUnsignalled, hrpc]
  · rename_i hrpc
    have hrpc : m.rpcTask = none := hrpc
    rw [waits_joinWs]
    simp [WsRunning, hrpc]

@[simp] theorem wsShutdown_start : m.start.wsShutdown = m.wsShutdown := by
  unfold start
  split <;> rfl

@[simp] theorem call_start : m.start.call = m.call := by
  unfold start
  split <;> rfl

@[simp] theorem wsShutdown_joinWs : m.joinWs.wsShutdown = m.wsShutdown := by
  unfold joinWs
  split <;> rfl

@[simp] theorem wsShutdown_stop : m.stop.wsShutdown = m.wsShutdown := by
  unfold stop joinRpc
  split
  · rfl
  · exact wsShutdown_joinWs

theorem wsShutdown_of_step (h : m.step event = some m') :
    m'.wsShutdown = true ↔ m.wsShutdown = true ∨ event = .wsShutdown := by
  rcases step_cases h with ⟨rfl, -, rfl⟩ | ⟨rfl, -, rfl⟩ | ⟨_, rfl, -, rfl⟩ | ⟨_, rfl, -, -, rfl⟩ | ⟨rfl, rfl⟩ |
    ⟨rfl, rfl⟩ | ⟨_, _, _, _, rfl, -, -, rfl⟩ | ⟨_, _, _, _, rfl, -, -, rfl⟩ <;> simp

/-- **How an unsignalled wait begins**: it has begun before, or `stop` gets to a task that runs. -/
theorem waits_of_step (h : m.step event = some m') (hwaits : m'.WaitsUnsignalled) :
    m.WaitsUnsignalled ∨ m.ReachesWsTask event ∧ m.WsRunning ∧ m.wsShutdown = false := by
  rcases step_cases h with ⟨rfl, hidle, rfl⟩ | ⟨rfl, -, rfl⟩ | ⟨_, rfl, -, rfl⟩ | ⟨_, rfl, -, -, rfl⟩ | ⟨rfl, rfl⟩ |
    ⟨rfl, rfl⟩ | ⟨i, e, t, t', rfl, ht, hafter, rfl⟩ | ⟨_, _, _, _, rfl, -, -, rfl⟩
  · obtain ⟨task, hcall, -⟩ := hwaits
    rw [call_start, hidle] at hcall
    cases hcall
  · exact .inr (waits_stop.mp hwaits)
  · exact .inr ⟨trivial, waits_joinWs.mp hwaits⟩
  · obtain ⟨task, hcall, -⟩ := hwaits
    cases hcall
  · obtain ⟨task, hcall, -⟩ := hwaits
    cases hcall
  · obtain ⟨task, -, -, hflag⟩ := hwaits
    cases hflag
  · obtain ⟨task, hcall, hrunning, hflag⟩ := hwaits
    refine .inl ⟨task, hcall, ?_, hflag⟩
    by_cases hi : i = task
    · subst hi
      rw [ht]
      exact fun hended => ne_ended_of_after hafter (Option.some.inj hended)
    · rwa [getElem?_set_of_some ht, if_neg hi] at hrunning
  · exact .inl hwaits

theorem waits_of_reaches (h : m.step event = some m') (hreaches : m.ReachesWsTask event)
    (hrunning : m.WsRunning)
    (hflag : m.wsShutdown = false) : m'.WaitsUnsignalled := by
  rcases step_cases h with ⟨rfl, -, rfl⟩ | ⟨rfl, -, rfl⟩ | ⟨_, rfl, -, rfl⟩ | ⟨_, rfl, -, -, rfl⟩ | ⟨rfl, rfl⟩ |
    ⟨rfl, rfl⟩ | ⟨_, _, _, _, rfl, -, -, rfl⟩ | ⟨_, _, _, _, rfl, -, -, rfl⟩
  · exact hreaches.elim
  · exact waits_stop.mpr ⟨hreaches, hrunning, hflag⟩
  · exact waits_joinWs.mpr ⟨hrunning, hflag⟩
  all_goals exact hreaches.elim

/-- **An unsignalled wait goes on**, whatever happens but a shutdown of the service, a panic of the task
or that the call is dropped. -/
theorem wait_goes_on (h : m.step event = some m') (hwaits : m.WaitsUnsignalled)
    (hshutdown : event ≠ .wsShutdown)
    (hdropped : event ≠ .dropped) (hpanic : ∀ task, event ≠ .ws task .panic) : m'.WaitsUnsignalled := by
  obtain ⟨task, hcall, hrunning, hflag⟩ := hwaits
  rcases step_cases h with ⟨rfl, hidle, -⟩ | ⟨rfl, hidle, -⟩ | ⟨_, rfl, hjoining, -⟩ | ⟨_, rfl, hjoining, hended, rfl⟩ |
    ⟨rfl, -⟩ | ⟨rfl, -⟩ | ⟨i, e, t, t', rfl, ht, hafter, rfl⟩ | ⟨_, _, _, _, rfl, -, -, rfl⟩
  · rw [hcall] at hidle
    cases hidle
  · rw [hcall] at hidle
    cases hidle
  · rw [hcall] at hjoining
    cases hjoining
  · rw [hcall] at hjoining
    cases hjoining
    exact absurd hended hrunning
  · exact absurd rfl hdropped
  · exact absurd rfl hshutdown
  · refine ⟨task, hcall, ?_, hflag⟩
    rw [getElem?_set_of_some ht]
    split
    · rw [hflag] at hafter
      have hne : e ≠ .panic := fun he => hpanic i (by rw [he])
      exact fun hended => after_ne_ended hafter hne (Option.some.inj hended)
    · exact hrunning
  · exact ⟨task, hcall, hrunning, hflag⟩

end step

/-! ### Runs -/

section run

variable {m} {m' : RunningManager} {events : List ManagerEvent}

theorem exists_of_run_append {event : ManagerEvent} (h : m.run (events ++ [event]) = some m') :
    ∃ m₁, m.run events = some m₁ ∧ m₁.step event = some m' := by
  rw [run, List.foldlM_append] at h
  obtain ⟨m₁, hrun, hstep⟩ := Option.bind_eq_some_iff.mp h
  rw [List.foldlM_cons] at hstep
  obtain ⟨m₂, hstep, hnil⟩ := Option.bind_eq_some_iff.mp hstep
  cases hnil
  exact ⟨m₁, hrun, hstep⟩

theorem run_append {m₁ : RunningManager} {event : ManagerEvent} (hrun : m.run events = some m₁)
    (hstep : m₁.step event = some m') : m.run (events ++ [event]) = some m' := by
  rw [run, List.foldlM_append, ← run, hrun]
  exact congrArg (fun next => next.bind some) hstep

/-- **Only a call of the service's `shutdown`** sets its flag. -/
theorem wsShutdown_iff (hrun : new.run events = some m) : m.wsShutdown = true ↔ .wsShutdown ∈ events := by
  induction events using List.reverseRecOn generalizing m with
  | nil =>
    cases hrun
    exact iff_of_false Bool.false_ne_true List.not_mem_nil
  | append_singleton events event ih =>
    obtain ⟨m₁, hrun, hstep⟩ := exists_of_run_append hrun
    rw [wsShutdown_of_step hstep, ih hrun, List.mem_append, List.mem_singleton, @eq_comm _ _ event]

/-- **A `stop` that waits unsignalled goes on waiting**, however long the run, as long as nobody shuts
the service down, drops the call, or makes a WebSocket task panic. -/
theorem wait_goes_on_run (hrun : m.run events = some m') (hwaits : m.WaitsUnsignalled)
    (hevents : ∀ event ∈ events, event ≠ .wsShutdown ∧ event ≠ .dropped ∧ ∀ task, event ≠ .ws task .panic) :
    m'.WaitsUnsignalled := by
  induction events using List.reverseRecOn generalizing m' with
  | nil =>
    cases hrun
    exact hwaits
  | append_singleton events event ih =>
    obtain ⟨m₁, hrun, hstep⟩ := exists_of_run_append hrun
    obtain ⟨hshutdown, hdropped, hpanic⟩ := hevents event (List.mem_append_right _ (List.mem_singleton_self _))
    have hwaits₁ := ih hrun fun event hevent => hevents event (List.mem_append_left _ hevent)
    exact wait_goes_on hstep hwaits₁ hshutdown hdropped hpanic

/-- **`stop` waits only for a task that has its signal**, in a run, just when the service was shut down
before each event with which `stop` gets to a WebSocket task that runs. -/
theorem stop_signals_iff (events : List ManagerEvent) :
    (∀ before m, before <+: events → new.run before = some m → ¬ m.WaitsUnsignalled) ↔
      ∀ before event m, before ++ [event] <+: events → new.run before = some m → (m.step event).isSome →
        m.ReachesWsTask event → m.WsRunning → .wsShutdown ∈ before := by
  constructor
  · intro hnever before event m hevents hrun hstep hreaches hrunning
    obtain ⟨m', hstep⟩ := Option.isSome_iff_exists.mp hstep
    by_contra hnot
    have hflag : m.wsShutdown = false := by
      rw [← wsShutdown_iff hrun] at hnot
      exact eq_false_of_ne_true hnot
    exact hnever _ m' hevents (run_append hrun hstep) (waits_of_reaches hstep hreaches hrunning hflag)
  · intro hsignalled before
    induction before using List.reverseRecOn with
    | nil =>
      intro m _ hrun hwaits
      cases hrun
      obtain ⟨task, hcall, -⟩ := hwaits
      cases hcall
    | append_singleton before event ih =>
      intro m' hevents hrun hwaits
      obtain ⟨m, hrun, hstep⟩ := exists_of_run_append hrun
      rcases waits_of_step hstep hwaits with hwaits | ⟨hreaches, hrunning, hflag⟩
      · exact ih m ((List.prefix_append _ _).trans hevents) hrun hwaits
      · have hmem := hsignalled before event m hevents hrun (by rw [hstep]; rfl) hreaches hrunning
        rw [← wsShutdown_iff hrun, hflag] at hmem
        cases hmem

/-- **Start and stop**: the connection is made, `stop` is called, the polling task ends at once, and
`stop` waits for the other one. -/
theorem stop_waits_unsignalled :
    ∃ m, new.run [.start, .ws 0 (.proceed 0), .ws 0 .opened, .stop, .rpc 0 false, .rpcJoined] = some m ∧
      m.WaitsUnsignalled := by
  refine ⟨_, rfl, 0, rfl, ?_, rfl⟩
  decide

end run

end RunningManager

end Botmev.Hyperliquid
