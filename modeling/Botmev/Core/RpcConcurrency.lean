import Botmev.Core.RpcClient
import Botmev.Library.Trace
import Mathlib.Data.Finset.Card

/-!
# Calls on clones of an RPC client

`call_with_retry`, `get_block_numbers_batch` and `eth_call_batch` (`mev-core/src/rpc_client.rs`) as
asynchronous functions, through any number of clones of one client. The clones share what is known of
the endpoints. The request semaphore is not shared: `Clone` makes a new one, with as many permits. A
batch clones the client for each of its items and spawns a task for it.

What the providers answer is a parameter. A permit is given back when `call_with_retry` ends, however
it ends.

## What is proved

* `run_callWithRetry`: with nothing in between, a call is that of the client alone.
-/

namespace Botmev.Core

open Botmev.Rust Botmev.Library

/-- `clone`: the request semaphore is a new one, with all its permits. -/
def OptimizedRpcClient.clone (client : OptimizedRpcClient) : OptimizedRpcClient :=
  { client with availablePermits := client.config.maxConcurrentRequests.toNat }

/-- A request semaphore. -/
inductive RpcSemaphore where
  /-- That of a clone. -/
  | ofClone (client : ℕ)
  /-- That of the clone that call `n`, a batch, makes for its item `k`. -/
  | ofItem (n k : ℕ)
  deriving DecidableEq, Repr

/-- A task. -/
inductive RpcTask where
  /-- That of call `n`. -/
  | call (n : ℕ)
  /-- The one that call `n`, a batch, spawns for its item `k`. -/
  | item (n k : ℕ)
  deriving DecidableEq, Repr

/-- What a batch knows of the task of an item. -/
inductive RpcHandle (T : Type) where
  /-- It is not spawned. -/
  | none
  /-- It is spawned. -/
  | running
  /-- It has ended. -/
  | finished (result : Result T)

/-- The task runs. -/
def RpcHandle.isRunning {T : Type} : RpcHandle T → Bool
  | .running => true
  | _ => false

/-- The task has ended. -/
def RpcHandle.isFinished {T : Type} : RpcHandle T → Bool
  | .finished _ => true
  | _ => false

/-- What a call waits for. -/
inductive RpcOp (T : Type) where
  /-- A permit. -/
  | acquire (semaphore : RpcSemaphore)
  /-- `get_best_provider`. -/
  | getBestProvider
  /-- The answer of a provider. -/
  | operation (task : RpcTask) (attempt provider : ℕ)
  /-- `record_success`. -/
  | recordSuccess (provider : ℕ) (responseTimeMs : Binary64.Number)
  /-- `record_error`. -/
  | recordError (provider : ℕ)
  /-- So many ms. -/
  | sleep (delay : U64)
  /-- The permit is given back. -/
  | release (semaphore : RpcSemaphore)
  /-- `tokio::spawn`, with a clone of the client. -/
  | spawn (n k : ℕ)
  /-- A spawned task begins. -/
  | begin (n k : ℕ)
  /-- A spawned task ends. -/
  | finish (n k : ℕ) (result : Result T)
  /-- `handle.await`. -/
  | join (n k : ℕ)

/-- The operations, with what they answer. -/
@[reducible] def RpcI (T : Type) : Interface where
  Op := RpcOp T
  Reply
    | .getBestProvider => Result ℕ
    | .operation _ _ _ => Except String T × Binary64.Number
    | .recordSuccess _ _ | .recordError _ => Result Unit
    | .join _ _ => Except String (Except String T)
    | _ => Unit

/-- An asynchronous function of the client. -/
abbrev RpcM (T : Type) := Async (RpcI T) Failure

/-- What the clones share, and what their semaphores have. -/
structure RpcState (T : Type) where
  /-- "RPC endpoint health status". -/
  endpointHealth : List EndpointHealth
  /-- The permits of each semaphore that are free. -/
  availablePermits : RpcSemaphore → ℕ
  /-- The handles of the batches. -/
  handles : ℕ × ℕ → RpcHandle T

variable {T : Type}

/-- The endpoints once an outcome is recorded, unless that panicked. -/
def RpcState.setHealth (s : RpcState T) : Result (List EndpointHealth) → Result Unit × RpcState T
  | .ok health => (.ok (), { s with endpointHealth := health })
  | .error e => (.error e, s)

/-- What the calls get from outside. -/
structure ProviderAnswers (T : Type) where
  /-- What the providers answer to each task. -/
  operations : RpcTask → OptimizedRpcClient.Operation T
  /-- What is said of the task of an item that panicked with a message. -/
  joinError : ℕ → ℕ → String → String

/-- What an operation does. -/
def rpcHandler (answers : ProviderAnswers T) : Handler (RpcI T) (RpcState T)
  | .acquire semaphore, s =>
    ((), { s with
      availablePermits := Function.update s.availablePermits semaphore (s.availablePermits semaphore - 1) })
  | .getBestProvider, s => (OptimizedRpcClient.getBestProvider s.endpointHealth, s)
  | .operation task attempt provider, s =>
    (((answers.operations task).answer attempt provider, (answers.operations task).responseTimeMs attempt), s)
  | .recordSuccess provider responseTimeMs, s =>
    s.setHealth (OptimizedRpcClient.recordSuccess s.endpointHealth provider responseTimeMs)
  | .recordError provider, s => s.setHealth (OptimizedRpcClient.recordError s.endpointHealth provider)
  | .sleep _, s => ((), s)
  | .release semaphore, s =>
    ((), { s with
      availablePermits := Function.update s.availablePermits semaphore (s.availablePermits semaphore + 1) })
  | .spawn n k, s => ((), { s with handles := Function.update s.handles (n, k) .running })
  | .begin _ _, s => ((), s)
  | .finish n k result, s => ((), { s with handles := Function.update s.handles (n, k) (.finished result) })
  | .join n k, s =>
    (match s.handles (n, k) with
      | .finished (.ok result) => .ok (.ok result)
      | .finished (.error (.err message)) => .ok (.error message)
      | .finished (.error (.panic message)) => .error (answers.joinError n k message)
      | _ => .error "still running", s)

/-! ### The functions -/

section functions

variable (config : RpcClientConfig)

/-- The loop of `call_with_retry` over the attempts. -/
def retryAttempts (task : RpcTask) : List ℕ → RpcM T T
  | [] => .done (.error (.err "All retry attempts exhausted"))
  | attempt :: rest => do
    let best ← Async.request (I := RpcI T) .getBestProvider
    let provider ← best
    let answer ← Async.request (I := RpcI T) (.operation task attempt provider)
    match answer.1 with
    | .ok result =>
      let recorded ← Async.request (I := RpcI T) (.recordSuccess provider answer.2)
      recorded
      pure result
    | .error message =>
      let recorded ← Async.request (I := RpcI T) (.recordError provider)
      recorded
      if attempt < config.retryAttempts.toNat - 1 then
        let delay ← Uint.mul config.retryDelayMs (BitVec.ofNat 64 (attempt + 1))
        Async.request (I := RpcI T) (.sleep delay)
        retryAttempts task rest
      else .done (.error (.err message))

/-- `call_with_retry`, through the clone of a semaphore. -/
def callWithRetry (task : RpcTask) (semaphore : RpcSemaphore) : RpcM T (Result T) := do
  Async.request (I := RpcI T) (.acquire semaphore)
  let result ← (retryAttempts config task (List.range' 0 config.retryAttempts.toNat)).attempt
  -- The permit is dropped.
  Async.request (I := RpcI T) (.release semaphore)
  pure result

/-- A call. -/
inductive RpcCall where
  /-- `call_with_retry`. -/
  | callWithRetry (client : ℕ)
  /-- `get_block_numbers_batch`. -/
  | getBlockNumbersBatch (client : ℕ) (count : U64)
  /-- `eth_call_batch`, with so many calls. -/
  | ethCallBatch (client : ℕ) (calls : ℕ)
  deriving DecidableEq, Repr

/-- What a task returns. -/
inductive RpcReturn (T : Type) where
  /-- What `call_with_retry` returns. -/
  | answer (result : T)
  /-- What `get_block_numbers_batch` returns. -/
  | blockNumbers (results : List T)
  /-- What `eth_call_batch` returns. -/
  | results (results : List (Except String T))
  /-- Nothing. -/
  | unit

/-- "Create concurrent requests". -/
def spawnItems (n : ℕ) : List ℕ → RpcM T Unit
  | [] => pure ()
  | k :: rest => do
    Async.request (I := RpcI T) (.spawn n k)
    spawnItems n rest

/-- `handle.await?`, for each item in turn. -/
def joinItems (n : ℕ) : List ℕ → RpcM T (List (Except String T))
  | [] => pure []
  | k :: rest => do
    let joined ← Async.request (I := RpcI T) (.join n k)
    let result ← anyhow joined
    let results ← joinItems n rest
    pure (result :: results)

/-- The task of an item. -/
def itemTask (n k : ℕ) : RpcM T (RpcReturn T) := do
  Async.request (I := RpcI T) (.begin n k)
  let result ← callWithRetry config (.item n k) (.ofItem n k)
  Async.request (I := RpcI T) (.finish n k result)
  pure .unit

/-- The task of a call. -/
def RpcCall.task (n : ℕ) : RpcCall → RpcM T (RpcReturn T)
  | .callWithRetry client => do
    let returned ← Core.callWithRetry config (.call n) (.ofClone client)
    let result ← returned
    pure (.answer result)
  | .getBlockNumbersBatch _ count => do
    spawnItems n (List.range count.toNat)
    let results ← joinItems n (List.range count.toNat)
    -- A request that failed is left out.
    pure (.blockNumbers (results.filterMap Except.toOption))
  | .ethCallBatch _ calls => do
    spawnItems n (List.range calls)
    let results ← joinItems n (List.range calls)
    pure (.results results)

/-- The tasks of some calls. -/
def rpcTasks (calls : List RpcCall) : RpcTask → RpcM T (RpcReturn T)
  | .call n =>
    match calls[n]? with
    | some call => call.task config n
    | none => pure .unit
  | .item n k => itemTask config n k

end functions

/-! ### One call alone -/

section alone

variable {config : RpcClientConfig} {answers : ProviderAnswers T} {task : RpcTask} {semaphore : RpcSemaphore}

theorem run_retryAttempts (attempts : List ℕ) (s : RpcState T) :
    (retryAttempts config task attempts).run (rpcHandler answers) s =
      ((OptimizedRpcClient.retryLoop config (answers.operations task) attempts s.endpointHealth).1,
        { s with endpointHealth :=
            (OptimizedRpcClient.retryLoop config (answers.operations task) attempts s.endpointHealth).2 }) := by
  induction attempts generalizing s with
  | nil => rfl
  | cons attempt rest ih =>
    rw [retryAttempts, Async.run_request_bind, OptimizedRpcClient.retryLoop]
    change Async.run _ (liftM (OptimizedRpcClient.getBestProvider s.endpointHealth) >>= _) s = _
    rcases OptimizedRpcClient.getBestProvider s.endpointHealth with e | provider
    · rfl
    rw [Async.lift_eq, Async.ok_bind, Async.run_request_bind]
    dsimp only [rpcHandler]
    rcases (answers.operations task).answer attempt provider with message | result
    · dsimp only
      rw [Async.run_request_bind]
      simp only [rpcHandler]
      rcases OptimizedRpcClient.recordError s.endpointHealth provider with e | health
      · rfl
      rw [RpcState.setHealth, Async.lift_eq, Async.ok_bind]
      by_cases hlast : attempt < config.retryAttempts.toNat - 1
      · simp only [if_pos hlast]
        rcases Uint.mul config.retryDelayMs (BitVec.ofNat 64 (attempt + 1)) with e | delay
        · rfl
        · exact ih _
      · simp only [if_neg hlast]
        rfl
    · dsimp only
      rw [Async.run_request_bind]
      simp only [rpcHandler]
      rcases OptimizedRpcClient.recordSuccess s.endpointHealth provider _ with e | health
      · rfl
      · rfl

/-- **A call alone** is that of the client, and gives its permit back. -/
theorem run_callWithRetry {s : RpcState T} (hfree : 0 < s.availablePermits semaphore) :
    ∃ result client',
      OptimizedRpcClient.callWithRetry ⟨config, s.endpointHealth, s.availablePermits semaphore⟩
        (answers.operations task) = some (result, client') ∧
      (callWithRetry config task semaphore).run (rpcHandler answers) s =
        (.ok result, { s with endpointHealth := client'.endpointHealth }) := by
  refine ⟨_, _, if_neg hfree.ne', ?_⟩
  rw [callWithRetry, Async.run_request_bind, Async.run_bind_of_ok _ (Async.run_attempt ..), run_retryAttempts,
    Async.run_request_bind]
  simp only [rpcHandler, Function.update_self, Function.update_idem, Nat.sub_add_cancel hfree,
    Function.update_eq_self]
  rfl

end alone

/-! ### Runs -/

/-- Calls through clones of a client, in the middle of running. -/
abbrev RpcPool (T : Type) := Pool (RpcI T) Failure (RpcReturn T) (RpcState T) RpcTask

/-- Calls that have not begun, through clones of a client. -/
def startCalls (client : OptimizedRpcClient) (calls : List RpcCall) : RpcPool T :=
  .start
    { endpointHealth := client.endpointHealth
      availablePermits := fun _ => client.clone.availablePermits
      handles := fun _ => .none }
    (rpcTasks client.config calls)

/-- A task takes its next step if it does not have to wait. -/
def CanProceed (p : RpcPool T) (i : RpcTask) : Prop :=
  match (p.tasks i).next? with
  | some (.acquire semaphore) => 0 < p.shared.availablePermits semaphore
  | some (.begin n k) => (p.shared.handles (n, k)).isRunning = true
  | some (.join n k) => (p.shared.handles (n, k)).isFinished = true
  | _ => True

instance (p : RpcPool T) (i : RpcTask) : Decidable (CanProceed p i) := by
  unfold CanProceed
  split <;> infer_instance

/-- An operation of this task is in flight. -/
def InFlight (p : RpcPool T) (i : RpcTask) : Prop :=
  ∃ attempt provider, (p.tasks i).next? = some (.operation i attempt provider)

/-- Never more than so many operations are in flight. -/
def AtMostInFlight (limit : ℕ) (p : RpcPool T) : Prop :=
  ∀ tasks : Finset RpcTask, (∀ i ∈ tasks, InFlight p i) → tasks.card ≤ limit

end Botmev.Core
