import Botmev.Core.RpcConcurrency
import Botmev.Library.Permits

/-!
# How many operations are in flight

The request semaphore bounds the operations in flight through one clone of the client. Every clone has a
semaphore of its own, and a batch makes a clone for each item, so that the operations of a batch are
bounded by nothing but their number.

## What is proved

* `rpcTasks_follows`: a task has an operation in flight only while it has a permit of its clone.
* `PermitsHeld.step`: the permits of a semaphore that are not free are held by tasks that call.
* `atMostInFlight_demand`, `exists_inFlight_demand`: what some calls can have in flight at most, and that
  they can.
* `concurrency_limited_iff`: the limit holds for some calls just when that is no more than the limit.
* `one_clone_limited`: it holds for calls of `call_with_retry` through one clone.
* `batch_exceeds_limit`: a batch of two with a limit of one.
-/

namespace Botmev.Core

open Botmev.Rust Botmev.Library

variable {T : Type}

/-! ### Who calls -/

/-- The clone that a call is made through. -/
def RpcCall.client : RpcCall → ℕ
  | .callWithRetry client => client
  | .getBlockNumbersBatch client _ => client
  | .ethCallBatch client _ => client

/-- The tasks of a call that themselves call `call_with_retry`. -/
def RpcCall.callers (n : ℕ) : RpcCall → List RpcTask
  | .callWithRetry _ => [.call n]
  | .getBlockNumbersBatch _ count => (List.range count.toNat).map (.item n)
  | .ethCallBatch _ calls => (List.range calls).map (.item n)

/-- The tasks of some calls that themselves call `call_with_retry`. -/
def callers (calls : List RpcCall) : List RpcTask := calls.zipIdx.flatMap fun call => call.1.callers call.2

/-- The semaphore of the clone that a task calls through. -/
def semaphoreOf (calls : List RpcCall) : RpcTask → RpcSemaphore
  | .call n => .ofClone ((calls[n]?.map RpcCall.client).getD 0)
  | .item n k => .ofItem n k

theorem mem_callers {calls : List RpcCall} {n : ℕ} {call : RpcCall} {i : RpcTask}
    (hcall : calls[n]? = some call)
    (hi : i ∈ call.callers n) : i ∈ callers calls :=
  List.mem_flatMap.mpr ⟨(call, n), List.mk_mem_zipIdx_iff_getElem?.mpr hcall, hi⟩

theorem exists_of_call_mem {calls : List RpcCall} {n : ℕ} (h : .call n ∈ callers calls) :
    ∃ client, calls[n]? = some (.callWithRetry client) := by
  obtain ⟨⟨call, m⟩, hcall, hmem⟩ := List.mem_flatMap.mp h
  rw [List.mk_mem_zipIdx_iff_getElem?] at hcall
  cases call with
  | callWithRetry client =>
    obtain rfl := RpcTask.call.inj (List.mem_singleton.mp hmem)
    exact ⟨client, hcall⟩
  | getBlockNumbersBatch | ethCallBatch =>
    obtain ⟨k, -, hk⟩ := List.mem_map.mp hmem
    cases hk

theorem exists_of_item_mem {calls : List RpcCall} {n k : ℕ} (h : .item n k ∈ callers calls) :
    ∃ call, calls[n]? = some call ∧ .item n k ∈ call.callers n := by
  obtain ⟨⟨call, m⟩, hcall, hmem⟩ := List.mem_flatMap.mp h
  rw [List.mk_mem_zipIdx_iff_getElem?] at hcall
  cases call with
  | callWithRetry client => cases List.mem_singleton.mp hmem
  | getBlockNumbersBatch | ethCallBatch =>
    obtain ⟨k', -, hk⟩ := List.mem_map.mp hmem
    cases hk
    exact ⟨_, hcall, hmem⟩

theorem callers_nodup (calls : List RpcCall) : (callers calls).Nodup := by
  have hown : ∀ n (call : RpcCall), ∀ i ∈ call.callers n, i = .call n ∨ ∃ k, i = .item n k := by
    intro n call i hi
    cases call with
    | callWithRetry client => exact .inl (List.mem_singleton.mp hi)
    | getBlockNumbersBatch | ethCallBatch =>
      obtain ⟨k, -, rfl⟩ := List.mem_map.mp hi
      exact .inr ⟨k, rfl⟩
  have hindices : calls.zipIdx.Pairwise fun a b => a.2 < b.2 := by
    rw [← List.pairwise_map (f := Prod.snd), List.zipIdx_map_snd]
    exact List.pairwise_lt_range'
  refine List.nodup_flatMap.mpr ⟨fun call _ => ?_, hindices.imp fun {a b} hlt => ?_⟩
  · rcases call with ⟨⟨client⟩ | ⟨client, count⟩ | ⟨client, count⟩, n⟩
    · exact List.nodup_singleton _
    · exact List.nodup_range.map fun _ _ h => (RpcTask.item.inj h).2
    · exact List.nodup_range.map fun _ _ h => (RpcTask.item.inj h).2
  · intro i hi hi'
    rcases hown _ _ i hi with rfl | ⟨k, rfl⟩ <;> rcases hown _ _ _ hi' with h | ⟨k', h⟩
    · exact absurd (RpcTask.call.inj h) hlt.ne
    · cases h
    · cases h
    · exact absurd (RpcTask.item.inj h).1 hlt.ne

/-! ### The protocol of the tasks -/

/-- Where a task is. -/
inductive RpcPhase where
  /-- It calls through the clone of a semaphore, and has its permit or not. -/
  | calling (semaphore : RpcSemaphore) (holding : Bool)
  /-- It is a batch of call `n`, with so many items. -/
  | batch (n count : ℕ)
  /-- It is the task of an item that has not begun. -/
  | waiting (n k : ℕ)
  deriving DecidableEq

/-- What a task may ask for, with so many endpoints and attempts. -/
inductive RpcMove (endpoints attempts : ℕ) : RpcPhase → (op : RpcOp T) → (RpcI T).Reply op → RpcPhase → Prop
  /-- It takes a permit. -/
  | acquire {semaphore : RpcSemaphore} :
      RpcMove endpoints attempts (.calling semaphore false) (.acquire semaphore) () (.calling semaphore true)
  /-- It gets a provider, or there is none. -/
  | getBestProvider {φ : RpcPhase} {best : Result ℕ} : RpcMove endpoints attempts φ .getBestProvider best φ
  /-- It has an operation in flight, with a permit. -/
  | operation {semaphore : RpcSemaphore} {task : RpcTask} {attempt provider : ℕ}
      {answer : Except String T × Binary64.Number} (hattempt : attempt < attempts)
        (hendpoints : 0 < endpoints) :
      RpcMove endpoints attempts (.calling semaphore true) (.operation task attempt provider) answer
        (.calling semaphore true)
  /-- It records a success. -/
  | recordSuccess {φ : RpcPhase} {provider : ℕ} {responseTimeMs : Binary64.Number} {recorded : Result Unit} :
      RpcMove endpoints attempts φ (.recordSuccess provider responseTimeMs) recorded φ
  /-- It records an error. -/
  | recordError {φ : RpcPhase} {provider : ℕ} {recorded : Result Unit} :
      RpcMove endpoints attempts φ (.recordError provider) recorded φ
  /-- It sleeps. -/
  | sleep {φ : RpcPhase} {delay : U64} : RpcMove endpoints attempts φ (.sleep delay) () φ
  /-- It gives the permit back. -/
  | release {semaphore : RpcSemaphore} :
      RpcMove endpoints attempts (.calling semaphore true) (.release semaphore) () (.calling semaphore false)
  /-- A batch spawns the task of an item. -/
  | spawn {n count k : ℕ} (hk : k < count) :
      RpcMove endpoints attempts (.batch n count) (.spawn n k) () (.batch n count)
  /-- The task of an item begins. -/
  | begin {n k : ℕ} : RpcMove endpoints attempts (.waiting n k) (.begin n k) () (.calling (.ofItem n k) false)
  /-- The task of an item ends. -/
  | finish {n k : ℕ} {result : Result T} :
      RpcMove endpoints attempts (.calling (.ofItem n k) false) (.finish n k result) () (.calling (.ofItem n k) false)
  /-- A batch gets the result of an item. -/
  | join {φ : RpcPhase} {n k : ℕ} {joined : Except String (Except String T)} :
      RpcMove endpoints attempts φ (.join n k) joined φ

/-- The protocol of the tasks. -/
@[reducible] def rpcProtocol (T : Type) (endpoints attempts : ℕ) : Protocol (RpcI T) where
  Phase := RpcPhase
  legal
    | .getBestProvider, best => ∀ provider, best = .ok provider → 0 < endpoints
    | _, _ => True
  move := RpcMove endpoints attempts

section protocol

variable {config : RpcClientConfig} {endpoints attempts : ℕ} {task : RpcTask} {semaphore : RpcSemaphore}

theorem retryAttempts_follows {l : List ℕ} (hl : ∀ attempt ∈ l, attempt < attempts) :
    (rpcProtocol T endpoints attempts).Follows (fun φ _ => φ = .calling semaphore true) (.calling semaphore true)
      (retryAttempts config task l) := by
  induction l with
  | nil => rfl
  | cons attempt rest ih =>
    rw [List.forall_mem_cons] at hl
    intro best hbest
    refine ⟨_, .getBestProvider, Protocol.follows_lift_bind (r := best) (fun provider hprovider => ?_) fun _ _ => rfl⟩
    rintro ⟨message | result, responseTimeMs⟩ -
    · refine ⟨_, .operation hl.1 (hbest provider hprovider), fun recorded _ => ⟨_, .recordError, ?_⟩⟩
      refine Protocol.follows_lift_bind (r := recorded) (fun _ _ => ?_) fun _ _ => rfl
      split
      · refine Protocol.follows_lift_bind (fun delay _ => ?_) fun _ _ => rfl
        exact fun _ _ => ⟨_, .sleep, ih hl.2⟩
      · rfl
    · refine ⟨_, .operation hl.1 (hbest provider hprovider), fun recorded _ => ⟨_, .recordSuccess, ?_⟩⟩
      exact Protocol.follows_lift_bind (r := recorded) (fun _ _ => rfl) fun _ _ => rfl

theorem callWithRetry_follows :
    (rpcProtocol T endpoints config.retryAttempts.toNat).Follows (fun φ _ => φ = .calling semaphore false)
      (.calling semaphore false) (callWithRetry config task semaphore) := by
  intro _ _
  refine ⟨_, .acquire, ?_⟩
  refine (retryAttempts_follows fun attempt hattempt => by simpa using hattempt).attempt.bind ?_ ?_
  · rintro φ result ⟨_, -, rfl⟩ _ -
    exact ⟨_, .release, rfl⟩
  · rintro φ e ⟨_, he, -⟩
    cases he

theorem spawnItems_follows (n count : ℕ) {items : List ℕ} (hitems : ∀ k ∈ items, k < count) :
    (rpcProtocol T endpoints attempts).Follows (fun φ _ => φ = .batch n count) (.batch n count)
      (spawnItems n items) := by
  induction items with
  | nil => rfl
  | cons k rest ih =>
    rw [List.forall_mem_cons] at hitems
    exact fun _ _ => ⟨_, .spawn hitems.1, ih hitems.2⟩

theorem joinItems_follows {n count : ℕ} (items : List ℕ) :
    (rpcProtocol T endpoints attempts).Follows (fun φ _ => φ = .batch n count) (.batch n count)
      (joinItems n items) := by
  induction items with
  | nil => rfl
  | cons k rest ih =>
    refine fun joined _ => ⟨_, .join, Protocol.follows_lift_bind (r := anyhow joined) (fun result _ => ?_) fun _ _ => rfl⟩
    refine ih.bind ?_ fun _ _ h => h
    rintro φ results rfl
    rfl

theorem itemTask_follows (n k : ℕ) :
    (rpcProtocol T endpoints config.retryAttempts.toNat).Follows (fun _ _ => True) (.waiting n k)
      (itemTask config n k) := by
  intro _ _
  refine ⟨_, .begin, callWithRetry_follows.bind ?_ fun _ _ _ => trivial⟩
  rintro φ result rfl _ -
  exact ⟨_, .finish, trivial⟩

/-- Where a task is before the calls begin. -/
def startPhase (calls : List RpcCall) : RpcTask → RpcPhase
  | .call n =>
    match calls[n]? with
    | some (.callWithRetry client) => .calling (.ofClone client) false
    | some (.getBlockNumbersBatch _ count) => .batch n count.toNat
    | some (.ethCallBatch _ calls) => .batch n calls
    | none => .batch n 0
  | .item n k => .waiting n k

/-- A task is to call through a clone of its own, or is a batch, or is to wait until it is spawned. -/
theorem startPhase_cases (calls : List RpcCall) (i : RpcTask) :
    (∃ client, i ∈ callers calls ∧ semaphoreOf calls i = .ofClone client ∧
        startPhase calls i = .calling (.ofClone client) false) ∨
      (∃ n count, startPhase calls i = .batch n count ∧ ∀ k < count, .item n k ∈ callers calls) ∨
      ∃ n k, i = .item n k ∧ startPhase calls i = .waiting n k := by
  cases i with
  | item n k => exact .inr (.inr ⟨n, k, rfl, rfl⟩)
  | call n =>
    rcases hcall : calls[n]? with _ | ⟨client⟩ | ⟨client, count⟩ | ⟨client, count⟩
    · exact .inr (.inl ⟨n, 0, by rw [startPhase, hcall], fun k hk => absurd hk (Nat.not_lt_zero k)⟩)
    · refine .inl ⟨client, mem_callers hcall (List.mem_singleton_self _), ?_, by rw [startPhase, hcall]⟩
      rw [semaphoreOf, hcall]
      rfl
    · refine .inr (.inl ⟨n, count.toNat, by rw [startPhase, hcall], fun k hk => ?_⟩)
      exact mem_callers hcall (List.mem_map_of_mem (List.mem_range.mpr hk))
    · refine .inr (.inl ⟨n, count, by rw [startPhase, hcall], fun k hk => ?_⟩)
      exact mem_callers hcall (List.mem_map_of_mem (List.mem_range.mpr hk))

theorem rpcTasks_follows (calls : List RpcCall) (i : RpcTask) :
    (rpcProtocol T endpoints config.retryAttempts.toNat).Follows (fun _ _ => True) (startPhase calls i)
      (rpcTasks config calls i) := by
  have hbatch : ∀ n count (f : List (Except String T) → RpcReturn T),
      (rpcProtocol T endpoints config.retryAttempts.toNat).Follows (fun _ _ => True) (.batch n count) (do
        spawnItems n (List.range count)
        let results ← joinItems n (List.range count)
        pure (f results)) := by
    intro n count f
    refine (spawnItems_follows n count fun k hk => List.mem_range.mp hk).bind ?_ fun _ _ _ => trivial
    rintro φ ⟨⟩ rfl
    exact (joinItems_follows (List.range count)).bind (fun _ _ _ => trivial) fun _ _ _ => trivial
  cases i with
  | item n k => exact itemTask_follows n k
  | call n =>
    rw [startPhase, rpcTasks]
    rcases calls[n]? with _ | ⟨client⟩ | ⟨client, count⟩ | ⟨client, count⟩
    · trivial
    · refine callWithRetry_follows.bind (fun φ returned _ => ?_) fun _ _ _ => trivial
      exact Protocol.follows_lift_bind (r := returned) (fun _ _ => trivial) fun _ _ => trivial
    · exact hbatch n count.toNat _
    · exact hbatch n count _

theorem holding_of_next {φ : RpcPhase} {t : RpcM T (RpcReturn T)}
    {ends : RpcPhase → Result (RpcReturn T) → Prop}
    {attempt provider : ℕ} (ht : (rpcProtocol T endpoints attempts).Follows ends φ t)
    (hnext : t.next? = some (.operation task attempt provider)) :
    (∃ semaphore, φ = .calling semaphore true) ∧ 0 < attempts ∧ 0 < endpoints := by
  cases t with
  | done r => cases hnext
  | await op k =>
    cases hnext
    obtain ⟨φ', hm, -⟩ := ht (.error "", .ofUnits 0) trivial
    cases hm with
    | operation hattempt hendpoints => exact ⟨⟨_, rfl⟩, Nat.zero_lt_of_lt hattempt, hendpoints⟩

end protocol

/-! ### Permits and holders -/

theorem pos_of_getBestProvider {health : List EndpointHealth} {provider : ℕ}
    (h : OptimizedRpcClient.getBestProvider health = .ok provider) : 0 < health.length := by
  rcases health with _ | ⟨endpoint, health⟩
  · cases h
  · exact Nat.succ_pos _

theorem length_recordOutcome {health health' : List EndpointHealth} {provider : ℕ}
    {outcome : EndpointHealth.Outcome}
    (h : OptimizedRpcClient.recordOutcome health provider outcome = .ok health') :
      health'.length = health.length := by
  rw [OptimizedRpcClient.recordOutcome] at h
  split at h
  · obtain ⟨endpoint', -, hhealth⟩ := bind_eq_ok_iff.mp h
    cases hhealth
    exact List.length_set
  · cases h
    rfl

theorem setHealth_recordOutcome (s : RpcState T) (provider : ℕ) (outcome : EndpointHealth.Outcome) :
    ∃ health, (s.setHealth (OptimizedRpcClient.recordOutcome s.endpointHealth provider outcome)).2 =
      { s with endpointHealth := health } ∧ health.length = s.endpointHealth.length := by
  cases hrecord : OptimizedRpcClient.recordOutcome s.endpointHealth provider outcome with
  | error e => exact ⟨s.endpointHealth, rfl, rfl⟩
  | ok health => exact ⟨health, rfl, length_recordOutcome hrecord⟩

theorem availablePermits_acquire (answers : ProviderAnswers T) (semaphore : RpcSemaphore) (s : RpcState T) :
    (rpcHandler answers (.acquire semaphore) s).2.availablePermits =
      Function.update s.availablePermits semaphore (s.availablePermits semaphore - 1) := rfl

theorem availablePermits_release (answers : ProviderAnswers T) (semaphore : RpcSemaphore) (s : RpcState T) :
    (rpcHandler answers (.release semaphore) s).2.availablePermits =
      Function.update s.availablePermits semaphore (s.availablePermits semaphore + 1) := rfl

/-- The permits that are not free are held, by tasks that call. -/
structure PermitsHeld (calls : List RpcCall) (limit endpoints : ℕ) (p : RpcPool T)
    (φ : RpcTask → RpcPhase) : Prop where
  /-- The endpoints stay. -/
  health : p.shared.endpointHealth.length = endpoints
  /-- Who calls is one of the callers, and does it through the clone that is its own. -/
  calling : ∀ i semaphore holding, φ i = .calling semaphore holding →
    i ∈ callers calls ∧ semaphoreOf calls i = semaphore
  /-- The items of a batch are callers. -/
  batch : ∀ i n count, φ i = .batch n count → ∀ k < count, .item n k ∈ callers calls
  /-- Who waits is the task of an item. -/
  waiting : ∀ i n k, φ i = .waiting n k → i = .item n k
  /-- What is spawned is a caller. -/
  spawned : ∀ n k, (p.shared.handles (n, k)).isRunning = true → .item n k ∈ callers calls
  /-- A permit of a semaphore is free or held. -/
  permits : ∀ semaphore, ∃ holders : Finset RpcTask, (∀ i, i ∈ holders ↔ φ i = .calling semaphore true) ∧
    holders.card + p.shared.availablePermits semaphore = limit

namespace PermitsHeld

variable {answers : ProviderAnswers T} {calls : List RpcCall} {limit endpoints attempts : ℕ}
  {p p' : RpcPool T}
  {φ : RpcTask → RpcPhase} {φ' : RpcPhase} {i : RpcTask} {semaphore : RpcSemaphore}

theorem start (client : OptimizedRpcClient) (calls : List RpcCall) :
    PermitsHeld (T := T) calls client.config.maxConcurrentRequests.toNat client.endpointHealth.length
      (startCalls client calls) (startPhase calls) where
  health := rfl
  calling i semaphore holding h := by
    rcases startPhase_cases calls i with ⟨c, hi, hsem, hphase⟩ | ⟨n, count, hphase, -⟩ | ⟨n, k, -, hphase⟩ <;>
      rw [hphase] at h <;> cases h
    exact ⟨hi, hsem⟩
  batch i n count h := by
    rcases startPhase_cases calls i with ⟨c, -, -, hphase⟩ | ⟨n', count', hphase, hitems⟩ | ⟨n', k, -, hphase⟩ <;>
      rw [hphase] at h <;> cases h
    exact hitems
  waiting i n k h := by
    rcases startPhase_cases calls i with ⟨c, -, -, hphase⟩ | ⟨n', count, hphase, -⟩ | ⟨n', k', hi, hphase⟩ <;>
      rw [hphase] at h <;> cases h
    exact hi
  spawned n k h := by cases h
  permits semaphore := by
    refine ⟨∅, fun i => ⟨fun h => absurd h (Finset.notMem_empty i), fun h => ?_⟩, Nat.zero_add _⟩
    rcases startPhase_cases calls i with ⟨c, -, -, hphase⟩ | ⟨n, count, hphase, -⟩ | ⟨n, k, -, hphase⟩ <;>
      rw [hphase] at h <;> cases h

/-- A step after which the task is where it was, and the permits are. -/
theorem of_same (hI : PermitsHeld calls limit endpoints p φ)
    (hhealth : p'.shared.endpointHealth.length = p.shared.endpointHealth.length)
    (hpermits : p'.shared.availablePermits = p.shared.availablePermits)
    (hspawned : ∀ n k, (p'.shared.handles (n, k)).isRunning = true → .item n k ∈ callers calls) :
    PermitsHeld calls limit endpoints p' φ where
  health := hhealth.trans hI.health
  calling := hI.calling
  batch := hI.batch
  waiting := hI.waiting
  spawned := hspawned
  permits semaphore := by
    rw [hpermits]
    exact hI.permits semaphore

theorem of_record (hI : PermitsHeld calls limit endpoints p φ) {health : List EndpointHealth}
    (hs : p'.shared = { p.shared with endpointHealth := health })
    (hlength : health.length = p.shared.endpointHealth.length) : PermitsHeld calls limit endpoints p' φ := by
  refine hI.of_same ?_ ?_ fun n k hrunning => ?_
  · rw [hs, hlength]
  · rw [hs]
  · rw [hs] at hrunning
    exact hI.spawned n k hrunning

theorem of_calling (hI : PermitsHeld calls limit endpoints p φ) {holding : Bool}
    (hhealth : p'.shared.endpointHealth = p.shared.endpointHealth) (hhandles : p'.shared.handles = p.shared.handles)
    (hcaller : i ∈ callers calls ∧ semaphoreOf calls i = semaphore)
    (hpermits : ∀ semaphore', ∃ holders : Finset RpcTask,
      (∀ j, j ∈ holders ↔ Function.update φ i (.calling semaphore holding) j = .calling semaphore' true) ∧
        holders.card + p'.shared.availablePermits semaphore' = limit) :
    PermitsHeld calls limit endpoints p' (Function.update φ i (.calling semaphore holding)) where
  health := by rw [hhealth, hI.health]
  calling j semaphore' holding' h := by
    by_cases hj : j = i
    · subst hj
      rw [Function.update_self] at h
      cases h
      exact hcaller
    · rw [Function.update_of_ne hj] at h
      exact hI.calling j semaphore' holding' h
  batch j n count h := by
    by_cases hj : j = i
    · subst hj
      rw [Function.update_self] at h
      cases h
    · rw [Function.update_of_ne hj] at h
      exact hI.batch j n count h
  waiting j n k h := by
    by_cases hj : j = i
    · subst hj
      rw [Function.update_self] at h
      cases h
    · rw [Function.update_of_ne hj] at h
      exact hI.waiting j n k h
  spawned n k h := hI.spawned n k (by rwa [← hhandles])
  permits := hpermits

theorem acquire (hI : PermitsHeld calls limit endpoints p φ) (hi : φ i = .calling semaphore false)
    (hfree : 0 < p.shared.availablePermits semaphore) {k : Unit → RpcM T (RpcReturn T)} :
    PermitsHeld calls limit endpoints (p.after (rpcHandler answers) i (.acquire semaphore) k)
      (Function.update φ i (.calling semaphore true)) := by
  refine hI.of_calling rfl rfl (hI.calling i semaphore false hi) fun semaphore' => ?_
  obtain ⟨holders, hmem, hcard⟩ := hI.permits semaphore'
  have hnot : i ∉ holders := by
    rw [hmem, hi]
    simp
  by_cases hsem : semaphore' = semaphore
  · subst hsem
    refine ⟨insert i holders, fun j => ?_, ?_⟩
    · by_cases hj : j = i
      · subst hj
        simp
      · rw [Finset.mem_insert, Function.update_of_ne hj, hmem]
        simp [hj]
    · rw [Pool.after_shared, availablePermits_acquire, Finset.card_insert_of_notMem hnot,
        Function.update_self]
      omega
  · refine ⟨holders, fun j => ?_, ?_⟩
    · by_cases hj : j = i
      · subst hj
        rw [Function.update_self]
        simp [hnot, Ne.symm hsem]
      · rw [Function.update_of_ne hj, hmem]
    · rw [Pool.after_shared, availablePermits_acquire, Function.update_of_ne hsem, hcard]

theorem release (hI : PermitsHeld calls limit endpoints p φ) (hi : φ i = .calling semaphore true)
    {k : Unit → RpcM T (RpcReturn T)} :
    PermitsHeld calls limit endpoints (p.after (rpcHandler answers) i (.release semaphore) k)
      (Function.update φ i (.calling semaphore false)) := by
  refine hI.of_calling rfl rfl (hI.calling i semaphore true hi) fun semaphore' => ?_
  obtain ⟨holders, hmem, hcard⟩ := hI.permits semaphore'
  have hmoved : ∀ j, j ∈ holders.erase i ↔
      Function.update φ i (.calling semaphore false) j = .calling semaphore' true := by
    intro j
    by_cases hj : j = i
    · subst hj
      rw [Function.update_self]
      simp
    · rw [Finset.mem_erase, Function.update_of_ne hj, hmem]
      simp [hj]
  refine ⟨holders.erase i, hmoved, ?_⟩
  by_cases hsem : semaphore' = semaphore
  · subst hsem
    have hheld : i ∈ holders := (hmem i).mpr hi
    have hpos := Finset.card_pos.mpr ⟨i, hheld⟩
    rw [Pool.after_shared, availablePermits_release, Finset.card_erase_of_mem hheld, Function.update_self]
    omega
  · have hnot : i ∉ holders := by
      rw [hmem, hi]
      simp [Ne.symm hsem]
    rw [Pool.after_shared, availablePermits_release, Finset.erase_eq_of_notMem hnot,
      Function.update_of_ne hsem, hcard]

theorem begin {n k : ℕ} (hI : PermitsHeld calls limit endpoints p φ) (hi : φ i = .waiting n k)
    (hspawned : (p.shared.handles (n, k)).isRunning = true) {f : Unit → RpcM T (RpcReturn T)} :
    PermitsHeld calls limit endpoints (p.after (rpcHandler answers) i (.begin n k) f)
      (Function.update φ i (.calling (.ofItem n k) false)) := by
  obtain rfl := hI.waiting i n k hi
  refine hI.of_calling rfl rfl ⟨hI.spawned n k hspawned, rfl⟩ fun semaphore' => ?_
  obtain ⟨holders, hmem, hcard⟩ := hI.permits semaphore'
  refine ⟨holders, fun j => ?_, hcard⟩
  by_cases hj : j = .item n k
  · subst hj
    rw [Function.update_self, hmem, hi]
    simp
  · rw [Function.update_of_ne hj, hmem]

/-- What a task spawned by a batch, or finished, leaves of what is spawned. -/
theorem isRunning_of_update {handles : ℕ × ℕ → RpcHandle T} {n k n' k' : ℕ} {handle : RpcHandle T}
    (h : (Function.update handles (n, k) handle (n', k')).isRunning = true) :
    (n' = n ∧ k' = k ∧ handle.isRunning = true) ∨ (handles (n', k')).isRunning = true := by
  by_cases hkey : (n', k') = (n, k)
  · rw [hkey, Function.update_self] at h
    cases hkey
    exact .inl ⟨rfl, rfl, h⟩
  · rw [Function.update_of_ne hkey] at h
    exact .inr h

/-- **A step** of a task that follows the protocol. -/
theorem step (hI : PermitsHeld calls limit endpoints p φ) {op : RpcOp T}
    {k : (RpcI T).Reply op → RpcM T (RpcReturn T)}
    (hG : CanProceed p i) (hi : p.tasks i = .await op k)
    (hm : RpcMove endpoints attempts (φ i) op (rpcHandler answers op p.shared).1 φ') :
    PermitsHeld calls limit endpoints (p.after (rpcHandler answers) i op k) (Function.update φ i φ') := by
  rw [CanProceed, hi, Async.next?_await] at hG
  generalize hφ : φ i = φi at hm
  have hsame : Function.update φ i φi = φ := by rw [← hφ, Function.update_eq_self]
  generalize (rpcHandler answers op p.shared).1 = reply at hm
  cases hm with
  | acquire => exact hI.acquire hφ hG
  | release => exact hI.release hφ
  | begin => exact hI.begin hφ hG
  | getBestProvider | operation | sleep | join =>
    rw [hsame]
    exact hI.of_same rfl rfl hI.spawned
  | recordSuccess =>
    rw [hsame]
    obtain ⟨health, hs, hlength⟩ := setHealth_recordOutcome p.shared _ _
    exact hI.of_record hs hlength
  | recordError =>
    rw [hsame]
    obtain ⟨health, hs, hlength⟩ := setHealth_recordOutcome p.shared _ _
    exact hI.of_record hs hlength
  | spawn hk =>
    rw [hsame]
    refine hI.of_same rfl rfl fun n' k' hrunning => ?_
    rcases isRunning_of_update hrunning with ⟨rfl, rfl, -⟩ | hrunning
    · exact hI.batch i _ _ hφ _ hk
    · exact hI.spawned n' k' hrunning
  | finish =>
    rw [hsame]
    refine hI.of_same rfl rfl fun n' k' hrunning => ?_
    rcases isRunning_of_update hrunning with ⟨-, -, hfinished⟩ | hrunning
    · cases hfinished
    · exact hI.spawned n' k' hrunning

end PermitsHeld

/-! ### No more than the callers may hold -/

section bound

variable {answers : ProviderAnswers T} {client : OptimizedRpcClient} {calls : List RpcCall} {p : RpcPool T}

/-- In a run, every task follows the protocol, and the permits that are not free are held. -/
theorem exists_permitsHeld (hr : Pool.Reach (rpcHandler answers) CanProceed (startCalls client calls) p) :
    ∃ φ, PermitsHeld calls client.config.maxConcurrentRequests.toNat client.endpointHealth.length p φ ∧
      ∀ i, (rpcProtocol T client.endpointHealth.length client.config.retryAttempts.toNat).Follows
        (fun _ _ => True) (φ i) (p.tasks i) := by
  refine Protocol.exists_phases hr (rpcTasks_follows calls) _ (PermitsHeld.start client calls) ?_ ?_
  · intro p φ op hI
    cases op with
    | getBestProvider =>
      intro provider hprovider
      rw [← hI.health]
      exact pos_of_getBestProvider hprovider
    | _ => trivial
  · exact fun p φ i op k φ' hI hG hi hm => hI.step hG hi hm

/-- **Callers that hold no permit have nothing in flight**, and no semaphore has more holders than permits. -/
theorem atMostInFlight_demand (hr : Pool.Reach (rpcHandler answers) CanProceed (startCalls client calls) p) :
    AtMostInFlight (demand client.config.maxConcurrentRequests.toNat ((callers calls).map (semaphoreOf calls))) p := by
  intro tasks htasks
  obtain ⟨φ, hI, hφ⟩ := exists_permitsHeld hr
  have hholding : ∀ i ∈ tasks, i ∈ callers calls ∧ φ i = .calling (semaphoreOf calls i) true := by
    intro i hi
    obtain ⟨attempt, provider, hnext⟩ := htasks i hi
    obtain ⟨⟨semaphore, hphase⟩, -, -⟩ := holding_of_next (hφ i) hnext
    obtain ⟨hcaller, rfl⟩ := hI.calling i semaphore true hphase
    exact ⟨hcaller, hphase⟩
  refine card_le_demand (semaphoreOf calls) (fun i hi => (hholding i hi).1) fun semaphore => ?_
  obtain ⟨holders, hmem, hcard⟩ := hI.permits semaphore
  calc {i ∈ tasks | semaphoreOf calls i = semaphore}.card
      ≤ holders.card := by
        refine Finset.card_le_card fun i hi => ?_
        obtain ⟨htask, rfl⟩ := Finset.mem_filter.mp hi
        exact (hmem i).mpr (hholding i htask).2
    _ ≤ client.config.maxConcurrentRequests.toNat := by omega

theorem not_inFlight (hr : Pool.Reach (rpcHandler answers) CanProceed (startCalls client calls) p)
    (h : client.config.retryAttempts = 0 ∨ client.endpointHealth = []) (i : RpcTask) : ¬ InFlight p i := by
  rintro ⟨attempt, provider, hnext⟩
  obtain ⟨φ, -, hφ⟩ := exists_permitsHeld hr
  obtain ⟨-, hattempts, hendpoints⟩ := holding_of_next (hφ i) hnext
  rcases h with h | h
  · rw [h] at hattempts
    exact Nat.lt_irrefl 0 hattempts
  · rw [h] at hendpoints
    exact Nat.lt_irrefl 0 hendpoints

end bound

/-! ### As many as they may hold -/

section reached

variable (answers : ProviderAnswers T) {config : RpcClientConfig} {calls : List RpcCall} {p : RpcPool T}
  {i : RpcTask} {semaphore : RpcSemaphore} {n : ℕ}

theorem exists_getBestProvider {health : List EndpointHealth} (h : health ≠ []) :
    ∃ provider, OptimizedRpcClient.getBestProvider health = .ok provider := by
  rw [OptimizedRpcClient.getBestProvider]
  split
  · exact ⟨_, rfl⟩
  · exact ⟨0, if_neg h⟩

theorem reach_after {op : RpcOp T} {k : (RpcI T).Reply op → RpcM T (RpcReturn T)}
    (hi : p.tasks i = .await op k)
    (hG : CanProceed p i) :
    Pool.Reach (rpcHandler answers) CanProceed p (p.after (rpcHandler answers) i op k) :=
  .single ⟨i, hG, Pool.step_of_await hi⟩

/-- How a call begins: it takes a permit, asks for the best provider and has an operation in flight. -/
theorem callWithRetry_begins (hattempts : config.retryAttempts ≠ 0) (task : RpcTask)
    (semaphore : RpcSemaphore)
    (f : Result T → RpcM T (RpcReturn T)) :
    ∃ k k', callWithRetry config task semaphore >>= f = .await (.acquire semaphore) k ∧
      k () = .await .getBestProvider k' ∧ ∀ provider, (k' (.ok provider)).next? = some (.operation task 0 provider) := by
  obtain ⟨attempts, hsucc⟩ : ∃ attempts, config.retryAttempts.toNat = attempts + 1 :=
    Nat.exists_eq_succ_of_ne_zero fun h => hattempts (BitVec.eq_of_toNat_eq h)
  rw [callWithRetry, hsucc]
  exact ⟨_, _, rfl, rfl, fun _ => rfl⟩

/-- A call through a clone with a free permit gets as far as to its operation. -/
theorem reach_inFlight {f : Result T → RpcM T (RpcReturn T)}
    (hi : p.tasks i = callWithRetry config i semaphore >>= f) (hfree : 0 < p.shared.availablePermits semaphore)
    (hattempts : config.retryAttempts ≠ 0) (hhealth : p.shared.endpointHealth ≠ []) :
    ∃ p', Pool.Reach (rpcHandler answers) CanProceed p p' ∧ InFlight p' i ∧
      (∀ j ≠ i, p'.tasks j = p.tasks j) ∧
      p'.shared = (rpcHandler answers (.acquire semaphore) p.shared).2 := by
  obtain ⟨k, k', hbegins, hk, hk'⟩ := callWithRetry_begins hattempts i semaphore f
  obtain ⟨provider, hprovider⟩ := exists_getBestProvider hhealth
  have hi₁ : (p.after (rpcHandler answers) i (.acquire semaphore) k).tasks i = .await .getBestProvider k' :=
    (Pool.after_tasks_self ..).trans hk
  refine ⟨_, (reach_after answers (hi.trans hbegins) ?_).trans (reach_after answers hi₁ ?_), ⟨0, provider, ?_⟩, fun j hj => ?_, rfl⟩
  · rw [CanProceed, hi, hbegins]
    exact hfree
  · rw [CanProceed, hi₁]
    trivial
  · rw [Pool.after_tasks_self, ← hk' provider, ← hprovider]
    rfl
  · rw [Pool.after_tasks_of_ne _ _ hj, Pool.after_tasks_of_ne _ _ hj]

theorem reach_caller (hcaller : i ∈ callers calls) (hi : p.tasks i = rpcTasks config calls i)
    (hspawned : ∀ n k, i = .item n k → (p.shared.handles (n, k)).isRunning = true)
    (hfree : 0 < p.shared.availablePermits (semaphoreOf calls i)) (hattempts : config.retryAttempts ≠ 0)
    (hhealth : p.shared.endpointHealth ≠ []) :
    ∃ p', Pool.Reach (rpcHandler answers) CanProceed p p' ∧ InFlight p' i ∧
      (∀ j ≠ i, p'.tasks j = p.tasks j) ∧
      p'.shared = (rpcHandler answers (.acquire (semaphoreOf calls i)) p.shared).2 := by
  cases i with
  | call n =>
    obtain ⟨client, hcall⟩ := exists_of_call_mem hcaller
    have hsem : semaphoreOf calls (.call n) = .ofClone client := by
      rw [semaphoreOf, hcall]
      rfl
    rw [rpcTasks, hcall] at hi
    rw [hsem] at hfree ⊢
    exact reach_inFlight answers hi hfree hattempts hhealth
  | item n k =>
    obtain ⟨k₁, f, hitem, hk₁⟩ : ∃ k₁ f, rpcTasks config calls (T := T) (.item n k) = .await (.begin n k) k₁ ∧
        k₁ () = callWithRetry config (.item n k) (.ofItem n k) >>= f := ⟨_, _, rfl, rfl⟩
    have hG : CanProceed p (.item n k) := by
      rw [CanProceed, hi]
      exact hspawned n k rfl
    have hi₁ : (p.after (rpcHandler answers) (.item n k) (.begin n k) k₁).tasks (.item n k) =
        callWithRetry config (.item n k) (.ofItem n k) >>= f := (Pool.after_tasks_self ..).trans hk₁
    obtain ⟨p', hr, hflight, hothers, hshared⟩ :=
      reach_inFlight answers hi₁ hfree hattempts hhealth
    exact ⟨p', (reach_after answers (hi.trans hitem) hG).trans hr, hflight,
      fun j hj => (hothers j hj).trans (Pool.after_tasks_of_ne _ _ hj), hshared⟩

theorem reach_spawnItems {items : List ℕ} {f : Unit → RpcM T (RpcReturn T)}
    (hi : p.tasks (.call n) = spawnItems n items >>= f) :
    ∃ p', Pool.Reach (rpcHandler answers) CanProceed p p' ∧ (∀ j ≠ .call n, p'.tasks j = p.tasks j) ∧
      p'.shared.endpointHealth = p.shared.endpointHealth ∧
      p'.shared.availablePermits = p.shared.availablePermits ∧
      (∀ k ∈ items, (p'.shared.handles (n, k)).isRunning = true) ∧
      ∀ key, (p.shared.handles key).isRunning = true → (p'.shared.handles key).isRunning = true := by
  induction items generalizing p with
  | nil => exact ⟨p, .refl, fun _ _ => rfl, rfl, rfl, fun k hk => absurd hk List.not_mem_nil, fun _ h => h⟩
  | cons k rest ih =>
    have hG : CanProceed p (.call n) := by
      rw [CanProceed, hi]
      trivial
    have hspawn : ∀ key, key = (n, k) ∨ (p.shared.handles key).isRunning = true →
        (Function.update p.shared.handles (n, k) .running key).isRunning = true := by
      intro key hkey
      by_cases hnk : key = (n, k)
      · rw [hnk, Function.update_self]
        rfl
      · rw [Function.update_of_ne hnk]
        exact hkey.resolve_left hnk
    obtain ⟨p', hr, hothers, hhealth, hpermits, hrest, hkept⟩ :=
      ih (p := p.after (rpcHandler answers) (.call n) (.spawn n k) fun _ => spawnItems n rest >>= f)
        (Pool.after_tasks_self ..)
    refine ⟨p', (reach_after answers hi hG).trans hr, fun j hj => (hothers j hj).trans (Pool.after_tasks_of_ne _ _ hj),
      hhealth, hpermits, ?_, fun key hkey => hkept key (hspawn key (.inr hkey))⟩
    exact List.forall_mem_cons.mpr ⟨hkept _ (hspawn _ (.inl rfl)), hrest⟩

/-- A call either has no items that are callers, or spawns them and is none itself. -/
theorem callers_or_spawns (config : RpcClientConfig) (calls : List RpcCall) (n : ℕ) :
    (∀ k, .item n k ∉ callers calls) ∨
      .call n ∉ callers calls ∧ ∃ items f, rpcTasks (T := T) config calls (.call n) = spawnItems n items >>= f ∧
        ∀ k, .item n k ∈ callers calls → k ∈ items := by
  have hbatch : ∀ items : List ℕ, (∀ client, calls[n]? ≠ some (.callWithRetry client)) →
      (∀ call, calls[n]? = some call → call.callers n = items.map (.item n)) →
      .call n ∉ callers calls ∧ ∀ k, .item n k ∈ callers calls → k ∈ items := by
    intro items hnone hitems
    refine ⟨fun h => ?_, fun k hk => ?_⟩
    · obtain ⟨client, hcall⟩ := exists_of_call_mem h
      exact hnone client hcall
    · obtain ⟨call, hcall, hmem⟩ := exists_of_item_mem hk
      rw [hitems call hcall] at hmem
      obtain ⟨k', hk', heq⟩ := List.mem_map.mp hmem
      obtain ⟨-, rfl⟩ := RpcTask.item.inj heq
      exact hk'
  rw [rpcTasks]
  rcases hcall : calls[n]? with _ | ⟨client⟩ | ⟨client, count⟩ | ⟨client, count⟩
  · refine .inl fun k hk => ?_
    obtain ⟨call, hcall', -⟩ := exists_of_item_mem hk
    rw [hcall] at hcall'
    cases hcall'
  · refine .inl fun k hk => ?_
    obtain ⟨call, hcall', hmem⟩ := exists_of_item_mem hk
    rw [hcall] at hcall'
    cases hcall'
    cases List.mem_singleton.mp hmem
  · obtain ⟨hnot, hmem⟩ := hbatch (List.range count.toNat) (fun _ h => by rw [hcall] at h; cases h)
      (fun call h => by rw [hcall] at h; cases h; rfl)
    exact .inr ⟨hnot, _, _, rfl, hmem⟩
  · obtain ⟨hnot, hmem⟩ := hbatch (List.range count) (fun _ h => by rw [hcall] at h; cases h)
      (fun call h => by rw [hcall] at h; cases h; rfl)
    exact .inr ⟨hnot, _, _, rfl, hmem⟩

/-- **All items can be spawned** before any task calls. -/
theorem reach_spawned (client : OptimizedRpcClient) (calls : List RpcCall) (m : ℕ) :
    ∃ p, Pool.Reach (rpcHandler answers) CanProceed (startCalls client calls) p ∧
      p.shared.endpointHealth = client.endpointHealth ∧
      p.shared.availablePermits = (fun _ => client.config.maxConcurrentRequests.toNat) ∧
      (∀ i ∈ callers calls, p.tasks i = rpcTasks client.config calls i) ∧
      (∀ n, m ≤ n → p.tasks (.call n) = rpcTasks client.config calls (.call n)) ∧
      ∀ n k, n < m → .item n k ∈ callers calls → (p.shared.handles (n, k)).isRunning = true := by
  induction m with
  | zero => exact ⟨_, .refl, rfl, rfl, fun _ _ => rfl, fun _ _ => rfl, fun n k hn => absurd hn (Nat.not_lt_zero n)⟩
  | succ m ih =>
    obtain ⟨p, hr, hhealth, hpermits, hcallers, hothers, hspawned⟩ := ih
    rcases callers_or_spawns (T := T) client.config calls m with hnone | ⟨hnot, items, f, hspawns, hitems⟩
    · refine ⟨p, hr, hhealth, hpermits, hcallers, fun n hn => hothers n (by omega), fun n k hn hk => ?_⟩
      by_cases hnm : n = m
      · exact absurd (hnm ▸ hk) (hnone k)
      · exact hspawned n k (by omega) hk
    · obtain ⟨p', hr', hothers', hhealth', hpermits', hrunning, hkept⟩ :=
        reach_spawnItems answers ((hothers m le_rfl).trans hspawns)
      have hne : ∀ n, m < n → RpcTask.call n ≠ .call m := fun n hn h => hn.ne (RpcTask.call.inj h).symm
      refine ⟨p', hr.trans hr', hhealth'.trans hhealth, hpermits'.trans hpermits, fun i hi => ?_, fun n hn => ?_,
        fun n k hn hk => ?_⟩
      · exact (hothers' i fun h => hnot (h ▸ hi)).trans (hcallers i hi)
      · exact (hothers' _ (hne n hn)).trans (hothers n (by omega))
      · by_cases hnm : n = m
        · subst hnm
          exact hrunning k (hitems k hk)
        · exact hkept _ (hspawned n k (by omega) hk)

/-- Some callers are served: as many of them as get a permit have an operation in flight, and the other callers
have not begun. -/
structure Served (client : OptimizedRpcClient) (calls : List RpcCall) (served : List RpcTask)
    (p : RpcPool T) :
    Prop where
  /-- Nothing is recorded. -/
  health : p.shared.endpointHealth = client.endpointHealth
  /-- The items are spawned. -/
  spawned : ∀ n k, .item n k ∈ callers calls → (p.shared.handles (n, k)).isRunning = true
  /-- Each of them has taken a permit if there was one. -/
  permits : ∀ semaphore, p.shared.availablePermits semaphore =
    client.config.maxConcurrentRequests.toNat - (served.map (semaphoreOf calls)).count semaphore
  /-- The others have not begun. -/
  waiting : ∀ i ∈ callers calls, i ∉ served → p.tasks i = rpcTasks client.config calls i
  /-- What is in flight. -/
  inFlight : ∃ tasks : Finset RpcTask, (∀ i ∈ tasks, i ∈ served ∧ InFlight p i) ∧
    tasks.card = demand client.config.maxConcurrentRequests.toNat (served.map (semaphoreOf calls))

variable {client : OptimizedRpcClient} {served : List RpcTask}

/-- The next caller takes a permit, if its semaphore has one left. -/
theorem Served.next (h : Served client calls served p) (hcaller : i ∈ callers calls) (hnot : i ∉ served)
    (hattempts : client.config.retryAttempts ≠ 0) (hhealth : client.endpointHealth ≠ []) :
    ∃ p', Pool.Reach (rpcHandler answers) CanProceed p p' ∧ Served client calls (served ++ [i]) p' := by
  obtain ⟨tasks, htasks, hcard⟩ := h.inFlight
  have hcount : ∀ semaphore, ((served ++ [i]).map (semaphoreOf calls)).count semaphore =
      (served.map (semaphoreOf calls)).count semaphore + if semaphoreOf calls i = semaphore then 1 else 0 := by
    intro semaphore
    rw [List.map_append, List.map_singleton, List.count_append, List.count_singleton]
    simp only [beq_iff_eq]
  have hdemand : demand client.config.maxConcurrentRequests.toNat ((served ++ [i]).map (semaphoreOf calls)) =
      tasks.card + if (served.map (semaphoreOf calls)).count (semaphoreOf calls i) <
        client.config.maxConcurrentRequests.toNat then 1 else 0 := by
    rw [List.map_append, List.map_singleton, demand_concat, hcard]
  by_cases hfree : (served.map (semaphoreOf calls)).count (semaphoreOf calls i) <
      client.config.maxConcurrentRequests.toNat
  · obtain ⟨p', hr, hflight, hothers, hshared⟩ := reach_caller answers hcaller
      (h.waiting i hcaller hnot) (fun n k hi => h.spawned n k (hi ▸ hcaller))
      (by rw [h.permits]; omega) hattempts (by rwa [h.health])
    refine ⟨p', hr, ⟨?_, ?_, fun semaphore => ?_, fun j hj hnew => ?_, insert i tasks, fun j hj => ?_, ?_⟩⟩
    · rw [hshared]
      exact h.health
    · rw [hshared]
      exact h.spawned
    · rw [hshared, availablePermits_acquire, hcount]
      by_cases hsem : semaphore = semaphoreOf calls i
      · subst hsem
        rw [Function.update_self, if_pos rfl, h.permits]
        omega
      · rw [Function.update_of_ne hsem, if_neg (Ne.symm hsem), h.permits, Nat.add_zero]
    · rw [List.mem_append, List.mem_singleton, not_or] at hnew
      exact (hothers j hnew.2).trans (h.waiting j hj hnew.1)
    · rcases Finset.mem_insert.mp hj with rfl | hj
      · exact ⟨List.mem_append_right _ (List.mem_singleton_self _), hflight⟩
      · obtain ⟨hserved, attempt, provider, hnext⟩ := htasks j hj
        refine ⟨List.mem_append_left _ hserved, attempt, provider, ?_⟩
        rw [hothers j fun hji => hnot (hji ▸ hserved), hnext]
    · rw [hdemand, if_pos hfree, Finset.card_insert_of_notMem fun hi => hnot (htasks i hi).1]
  · refine ⟨p, .refl, ⟨h.health, h.spawned, fun semaphore => ?_, fun j hj hnew => ?_, tasks, fun j hj => ?_, ?_⟩⟩
    · rw [h.permits, hcount]
      split
      · rename_i hsem
        rw [hsem] at hfree
        omega
      · rw [Nat.add_zero]
    · exact h.waiting j hj fun hserved => hnew (List.mem_append_left _ hserved)
    · exact ⟨List.mem_append_left _ (htasks j hj).1, (htasks j hj).2⟩
    · rw [hdemand, if_neg hfree, Nat.add_zero]

/-- **As many operations as the callers may hold permits can be in flight at once.** -/
theorem exists_inFlight_demand (calls : List RpcCall)
    (hattempts : client.config.retryAttempts ≠ 0) (hhealth : client.endpointHealth ≠ []) :
    ∃ p, Pool.Reach (rpcHandler answers) CanProceed (startCalls client calls) p ∧
      ∃ tasks : Finset RpcTask, (∀ i ∈ tasks, InFlight p i) ∧
        tasks.card = demand client.config.maxConcurrentRequests.toNat ((callers calls).map (semaphoreOf calls)) := by
  have hserved : ∀ served : List RpcTask, served.Nodup → served ⊆ callers calls →
      ∃ p, Pool.Reach (rpcHandler answers) CanProceed (startCalls client calls) p ∧
        Served client calls served p := by
    intro served
    induction served using List.reverseRecOn with
    | nil =>
      intro _ _
      obtain ⟨p, hr, hhealth, hpermits, hcallers, -, hspawned⟩ :=
        reach_spawned answers client calls calls.length
      refine ⟨p, hr, ⟨hhealth, fun n k hk => ?_, fun semaphore => congrFun hpermits semaphore,
        fun i hi _ => hcallers i hi, ∅, fun i hi => absurd hi (Finset.notMem_empty i), rfl⟩⟩
      obtain ⟨call, hcall, -⟩ := exists_of_item_mem hk
      exact hspawned n k (List.getElem?_eq_some_iff.mp hcall).1 hk
    | append_singleton served i ih =>
      intro hnodup hsub
      obtain ⟨hnodup, -, hdisjoint⟩ := List.nodup_append.mp hnodup
      have hmem : i ∈ [i] := List.mem_singleton_self i
      obtain ⟨p, hr, hp⟩ := ih hnodup fun j hj => hsub (List.mem_append_left _ hj)
      obtain ⟨p', hr', hp'⟩ := hp.next answers (hsub (List.mem_append_right _ hmem))
        (fun h => hdisjoint i h i hmem rfl) hattempts hhealth
      exact ⟨p', hr.trans hr', hp'⟩
  obtain ⟨p, hr, hp⟩ := hserved (callers calls) (callers_nodup calls) fun _ h => h
  obtain ⟨tasks, htasks, hcard⟩ := hp.inFlight
  exact ⟨p, hr, tasks, fun i hi => (htasks i hi).2, hcard⟩

end reached

/-- **The limit holds** for some calls, in whatever order their tasks take their steps, just when there are no
attempts or no endpoints, or when the tasks that call through the same clone, up to the limit for each
clone, are together no more than the limit; the task of each item of a batch has a clone of its own. -/
theorem concurrency_limited_iff (answers : ProviderAnswers T) (client : OptimizedRpcClient)
    (calls : List RpcCall) :
    (∀ p, Pool.Reach (rpcHandler answers) CanProceed (startCalls client calls) p →
      AtMostInFlight client.config.maxConcurrentRequests.toNat p) ↔
    client.config.retryAttempts = 0 ∨ client.endpointHealth = [] ∨
      demand client.config.maxConcurrentRequests.toNat ((callers calls).map (semaphoreOf calls)) ≤
        client.config.maxConcurrentRequests.toNat := by
  constructor
  · intro hlimit
    by_contra hnot
    obtain ⟨hattempts, hhealth, hdemand⟩ : client.config.retryAttempts ≠ 0 ∧
      client.endpointHealth ≠ [] ∧ _ := by
      simpa only [not_or] using hnot
    obtain ⟨p, hr, tasks, htasks, hcard⟩ := exists_inFlight_demand answers calls hattempts hhealth
    exact hdemand (hcard ▸ hlimit p hr tasks htasks)
  · intro h p hr tasks htasks
    rcases or_assoc.mpr h with hnone | hdemand
    · rcases tasks.eq_empty_or_nonempty with rfl | ⟨i, hi⟩
      · exact Nat.zero_le _
      · exact absurd (htasks i hi) (not_inFlight hr hnone i)
    · exact (atMostInFlight_demand hr tasks htasks).trans hdemand

/-- Calls of `call_with_retry` through one clone stay within the limit. -/
theorem one_clone_limited (answers : ProviderAnswers T) (client : OptimizedRpcClient)
    {calls : List RpcCall} {c : ℕ}
    (hcalls : ∀ call ∈ calls, call = .callWithRetry c) {p : RpcPool T}
    (hr : Pool.Reach (rpcHandler answers) CanProceed (startCalls client calls) p) :
    AtMostInFlight client.config.maxConcurrentRequests.toNat p := by
  refine fun tasks htasks => (atMostInFlight_demand hr tasks htasks).trans (demand_le_of_forall_eq (s := .ofClone c) ?_)
  intro semaphore hsemaphore
  obtain ⟨i, hi, rfl⟩ := List.mem_map.mp hsemaphore
  cases i with
  | call n =>
    obtain ⟨client', hcall⟩ := exists_of_call_mem hi
    cases hcalls _ (List.mem_of_getElem? hcall)
    rw [semaphoreOf, hcall]
    rfl
  | item n k =>
    obtain ⟨call, hcall, hmem⟩ := exists_of_item_mem hi
    cases hcalls _ (List.mem_of_getElem? hcall)
    cases List.mem_singleton.mp hmem

/-- A client that is to have one request at a time. -/
def oneRequestClient : OptimizedRpcClient :=
  .new { endpoints := ["http://localhost:8545"], maxConcurrentRequests := 1, retryAttempts := 3, retryDelayMs := 100 }

/-- Providers that answer. -/
def emptyAnswers : ProviderAnswers Bytes where
  operations _ := { answer := fun _ _ => .ok [], responseTimeMs := fun _ => .ofUnits 0 }
  joinError _ _ message := message

/-- A batch of two calls that gets as far as to have both in flight. -/
def twoInFlight : RpcPool Bytes :=
  .runSchedule (rpcHandler emptyAnswers)
    [.call 0, .call 0, .item 0 0, .item 0 0, .item 0 0, .item 0 1, .item 0 1, .item 0 1]
    (startCalls oneRequestClient [.ethCallBatch 0 2])

/-- **Two in flight with a limit of one**: a batch of two calls. -/
theorem batch_exceeds_limit :
    Pool.Reach (rpcHandler emptyAnswers) CanProceed (startCalls oneRequestClient [.ethCallBatch 0 2]) twoInFlight ∧
      ¬ AtMostInFlight oneRequestClient.config.maxConcurrentRequests.toNat twoInFlight := by
  refine ⟨Pool.reach_of_admits (by decide), fun h => ?_⟩
  have hboth : ∀ i ∈ ({.item 0 0, .item 0 1} : Finset RpcTask), InFlight twoInFlight i := by
    intro i hi
    rcases Finset.mem_insert.mp hi with rfl | hi
    · exact ⟨0, 0, rfl⟩
    · rw [Finset.mem_singleton.mp hi]
      exact ⟨0, 0, rfl⟩
  exact absurd (h _ hboth) (by decide)

end Botmev.Core
