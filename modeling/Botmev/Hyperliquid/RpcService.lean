import Botmev.Library.Trace
import Botmev.Rust.Basic

/-!
# Calls of the HyperLiquid node

`HyperLiquidRpcService` (`mev-hyperliquid/src/rpc_service.rs`) makes its calls through
`execute_with_retry`: up to three attempts with a pause between two of them, behind a circuit
breaker. The breaker opens after five consecutive failures, lets a request pass when thirty
seconds have gone by, and closes again on a success. A call reports to it once, when it ends.

The service is shared, and its methods run concurrently: each method of the breaker is one
step of a call. Times are seconds since the epoch. The arithmetic of the breaker is that of a build
with overflow checks or of one without; a call has the former. The log is left out.
-/

namespace Botmev.Hyperliquid

open Botmev.Rust Botmev.Library

/-! ### The circuit breaker -/

/-- "Circuit breaker state". -/
inductive CircuitBreakerState where
  /-- "Circuit is closed, operations proceed normally". -/
  | closed
  /-- "Circuit is open, operations are blocked". -/
  | opened
  /-- "Circuit is half-open, testing if service has recovered". -/
  | halfOpen
  deriving DecidableEq, Repr

/-- "Circuit breaker for RPC operations". -/
structure CircuitBreaker where
  /-- "Current state of the circuit breaker". -/
  state : CircuitBreakerState
  /-- "Number of consecutive failures". -/
  consecutiveFailures : U64
  /-- "Timestamp when circuit breaker opened". -/
  openedAt : U64
  deriving DecidableEq, Repr

namespace CircuitBreaker

/-- `CIRCUIT_BREAKER_THRESHOLD`. -/
def threshold : U64 := 5

/-- `CIRCUIT_BREAKER_COOLDOWN_SECS`. -/
def cooldownSecs : U64 := 30

/-- `CircuitBreaker::new()`. -/
def new : CircuitBreaker where
  state := .closed
  consecutiveFailures := 0
  openedAt := 0

variable (overflowChecks : Bool) (breaker : CircuitBreaker) (now : U64)

/-- `should_allow_request`. -/
def shouldAllowRequestWith : Result Bool × CircuitBreaker :=
  match breaker.state with
  | .closed => (.ok true, breaker)
  | .opened =>
    match Uint.subIn overflowChecks now breaker.openedAt with
    | .ok elapsed =>
      if cooldownSecs ≤ elapsed then (.ok true, { breaker with state := .halfOpen }) else (.ok false, breaker)
    | .error failure => (.error failure, breaker)
  | .halfOpen => (.ok true, breaker)

/-- `record_success`. -/
def recordSuccess : CircuitBreaker :=
  match breaker.state with
  | .closed => { breaker with consecutiveFailures := 0 }
  | .halfOpen => { breaker with state := .closed, consecutiveFailures := 0 }
  -- "Should not happen, but reset if it does".
  | .opened => { breaker with state := .closed, consecutiveFailures := 0 }

/-- `record_failure`. The counter is increased first, in any case. -/
def recordFailureWith : Result Unit × CircuitBreaker :=
  let counted := { breaker with consecutiveFailures := breaker.consecutiveFailures + 1 }
  match Uint.addIn overflowChecks breaker.consecutiveFailures 1 with
  | .error failure => (.error failure, counted)
  | .ok failures =>
    match breaker.state with
    | .closed =>
      if threshold ≤ failures then (.ok (), { counted with state := .opened, openedAt := now })
      else (.ok (), counted)
    | .halfOpen => (.ok (), { counted with state := .opened, openedAt := now })
    | .opened => (.ok (), counted)

/-- `should_allow_request`, with overflow checks. -/
abbrev shouldAllowRequest : Result Bool × CircuitBreaker := breaker.shouldAllowRequestWith true now

/-- `record_failure`, with overflow checks. -/
abbrev recordFailure : Result Unit × CircuitBreaker := breaker.recordFailureWith true now

end CircuitBreaker

theorem shouldAllow_opened {overflowChecks : Bool} {breaker : CircuitBreaker} {now : U64}
    (hopened : breaker.state = .opened) (hle : breaker.openedAt ≤ now) :
    breaker.shouldAllowRequestWith overflowChecks now =
      if breaker.openedAt.toNat + CircuitBreaker.cooldownSecs.toNat ≤ now.toNat then
        (.ok true, { breaker with state := .halfOpen })
      else (.ok false, breaker) := by
  have hiff : CircuitBreaker.cooldownSecs ≤ now - breaker.openedAt ↔
      breaker.openedAt.toNat + CircuitBreaker.cooldownSecs.toNat ≤ now.toNat := by
    rw [BitVec.le_def, BitVec.toNat_sub_of_le hle]
    rw [BitVec.le_def] at hle
    omega
  simp only [CircuitBreaker.shouldAllowRequestWith, hopened, Uint.subIn_of_le hle, hiff]

/-! ### Retrying -/

/-- The methods of the breaker that a call uses. -/
inductive BreakerOp where
  /-- `should_allow_request`. -/
  | shouldAllowRequest
  /-- `record_success`. -/
  | recordSuccess
  /-- `record_failure`. -/
  | recordFailure
  deriving DecidableEq, Repr

/-- What they return. -/
@[reducible] def BreakerOp.Reply : BreakerOp → Type
  | .shouldAllowRequest => Result Bool
  | .recordSuccess => Unit
  | .recordFailure => Result Unit

/-- What they do, at a reading of the clock. -/
def BreakerOp.applyWith (overflowChecks : Bool) (now : U64) : (op : BreakerOp) → CircuitBreaker →
    op.Reply × CircuitBreaker
  | .shouldAllowRequest, breaker => breaker.shouldAllowRequestWith overflowChecks now
  | .recordSuccess, breaker => ((), breaker.recordSuccess)
  | .recordFailure, breaker => breaker.recordFailureWith overflowChecks now

/-- What they do with overflow checks. -/
abbrev BreakerOp.apply (now : U64) (op : BreakerOp) (breaker : CircuitBreaker) : op.Reply × CircuitBreaker :=
  op.applyWith true now breaker

/-- What a call asks for, besides its operation. -/
inductive RetryOp where
  /-- A method of the breaker. -/
  | breaker (op : BreakerOp)
  /-- `time::sleep`, in milliseconds. -/
  | sleep (ms : U64)

/-- The interface of it. -/
@[reducible] def RetryI : Interface where
  Op := RetryOp
  Reply
    | .breaker op => op.Reply
    | .sleep _ => Unit

/-- `MAX_RETRY_ATTEMPTS`. -/
def maxRetryAttempts : ℕ := 3

/-- `INITIAL_BACKOFF_MS`. -/
def initialBackoffMs : U64 := 100

/-- `MAX_BACKOFF_MS`. -/
def maxBackoffMs : U64 := 10000

variable {J : Interface} {α : Type}

/-- A call of a service whose operations ask for `J`. -/
abbrev RetryM (J : Interface) (α : Type) := Async (J.sum RetryI) Failure α

/-- Ask the breaker. -/
def askBreaker (op : BreakerOp) : RetryM J op.Reply := Async.request (I := J.sum RetryI) (.inr (.breaker op))

/-- The attempts that are left, and what is done after the last one. -/
def retryLoop (operation : Async J Failure α) : ℕ → U64 → Option String → RetryM J α
  | 0, _, lastError => do
    let recorded ← askBreaker .recordFailure
    recorded
    Async.done (.error (.err (lastError.getD "Operation failed after 3 attempts")))
  | remaining + 1, backoffMs, _ => do
    let result ← operation.attempt.inl
    match result with
    | .ok value => do
      askBreaker .recordSuccess
      pure value
    | .error (.panic message) => Async.done (.error (.panic message))
    | .error (.err e) =>
      -- "Don't sleep after the last attempt".
      if remaining = 0 then retryLoop operation remaining backoffMs (some e)
      else do
        Async.request (I := J.sum RetryI) (.inr (.sleep backoffMs))
        let doubled ← (Uint.mul backoffMs 2 : Result U64)
        retryLoop operation remaining (Uint.min doubled maxBackoffMs) (some e)

/-- `execute_with_retry`. The operation fails with the message of a timeout when it takes too
long. -/
def executeWithRetry (operation : Async J Failure α) : RetryM J α := do
  let allowed ← askBreaker .shouldAllowRequest
  if ← allowed then retryLoop operation maxRetryAttempts initialBackoffMs none
  else Async.done (.error (.err "Circuit breaker is open. RPC service is temporarily unavailable."))

section Follows

variable {P : Protocol (J.sum RetryI)} {Good : P.Phase → Prop} {operation : Async J Failure α} {φ : P.Phase}

theorem follows_retryLoop (hstay : ∀ φ op reply, Good φ → P.move φ (.inr op) reply φ)
    (hoperation : ∀ φ, Good φ → P.left.Follows (fun φ' _ => Good φ') φ operation)
    {remaining : ℕ} {backoffMs : U64}
    {lastError : Option String} (hφ : Good φ) :
    P.Follows (fun φ' _ => Good φ') φ (retryLoop operation remaining backoffMs lastError) := by
  induction remaining generalizing φ backoffMs lastError with
  | zero =>
    intro recorded _
    refine ⟨φ, hstay φ _ recorded hφ, ?_⟩
    show P.Follows _ φ ((liftM recorded : RetryM J Unit) >>= _)
    exact Protocol.follows_lift_bind (fun _ _ => hφ) fun _ _ => hφ
  | succ remaining ih =>
    refine Protocol.Follows.bind (Protocol.Follows.toSum (hoperation φ hφ).attempt) ?_ ?_
    · rintro φ' result ⟨_, -, hφ'⟩
      split
      · rintro ⟨⟩ -
        exact ⟨φ', hstay φ' (.breaker .recordSuccess) () hφ', hφ'⟩
      · exact hφ'
      · split
        · exact ih hφ'
        · rintro ⟨⟩ -
          refine ⟨φ', hstay φ' (.sleep backoffMs) () hφ', ?_⟩
          show P.Follows _ φ' ((liftM (Uint.mul backoffMs 2) : RetryM J U64) >>= _)
          exact Protocol.follows_lift_bind (fun _ _ => ih hφ') fun _ _ => hφ'
    · rintro φ' e ⟨r, hr, -⟩
      cases hr

/-- **Retrying follows a protocol** when what is retried does, in each of some phases that the
breaker and the pauses do not leave. -/
theorem follows_executeWithRetry (hstay : ∀ φ op reply, Good φ → P.move φ (.inr op) reply φ)
    (hoperation : ∀ φ, Good φ → P.left.Follows (fun φ' _ => Good φ') φ operation) (hφ : Good φ) :
    P.Follows (fun φ' _ => Good φ') φ (executeWithRetry operation) := by
  intro allowed _
  refine ⟨φ, hstay φ _ allowed hφ, ?_⟩
  show P.Follows _ φ ((liftM allowed : RetryM J Bool) >>= _)
  refine Protocol.follows_lift_bind (fun allowed _ => ?_) fun _ _ => hφ
  cases allowed with
  | true => exact follows_retryLoop hstay hoperation hφ
  | false => exact hφ

end Follows

theorem within_retryLoop {S : (J.sum RetryI).Op → Prop} (hretry : ∀ op, S (.inr op))
    {operation : Async J Failure α}
    (hoperation : operation.Within fun op => S (.inl op))
    (remaining : ℕ) (backoffMs : U64) (lastError : Option String) :
    (retryLoop operation remaining backoffMs lastError).Within S := by
  induction remaining generalizing backoffMs lastError with
  | zero => exact ⟨hretry _, fun recorded => (Async.Within.lift recorded).bind fun _ => trivial⟩
  | succ remaining ih =>
    refine hoperation.attempt.toSum.bind fun result => ?_
    split
    · exact ⟨hretry _, fun _ => trivial⟩
    · trivial
    · split
      · exact ih _ _
      · exact ⟨hretry _, fun _ => (Async.Within.lift (Uint.mul backoffMs 2)).bind fun _ => ih _ _⟩

theorem within_executeWithRetry {S : (J.sum RetryI).Op → Prop} (hretry : ∀ op, S (.inr op))
    {operation : Async J Failure α} (hoperation : operation.Within fun op => S (.inl op)) :
    (executeWithRetry operation).Within S := by
  refine ⟨hretry _, fun allowed => (Async.Within.lift allowed).bind fun allowed => ?_⟩
  cases allowed with
  | true => exact within_retryLoop hretry hoperation _ _ _
  | false => trivial

/-! ### The service -/

/-- `HyperLiquidRpcService`, without what the service shares. -/
structure HyperLiquidRpcService (Wallet : Type) where
  /-- `config.timeout_secs`. -/
  timeoutSecs : U64
  /-- `wallet`. -/
  wallet : Option Wallet
  /-- `state_tx.is_some()`. -/
  stateTx : Bool

/-- How an attempt, or a request of it, ends. -/
inductive Outcome (α : Type) where
  /-- `Ok(Ok(value))`. -/
  | ok (value : α)
  /-- `Ok(Err(e))`. -/
  | err (e : String)
  /-- `Err(_)`: it took too long. -/
  | timedOut

/-- Requests, with what they answer. -/
@[reducible] def RequestI (Op : Type) (Value : Op → Type) : Interface where
  Op := Op
  Reply op := Outcome (Value op)

/-- A request. The timeout of the attempt ends all of it, wherever it is. -/
def ask {Op : Type} {Value : Op → Type} (timeoutSecs : U64) (op : Op) :
    Async (RequestI Op Value) Failure (Except String (Value op)) := do
  match ← Async.request (I := RequestI Op Value) op with
  | .ok value => pure (.ok value)
  | .err e => pure (.error e)
  | .timedOut => Async.done (.error (.err s!"Operation timed out after {timeoutSecs.toNat}s"))

/-! ### Calls, seen from the breaker -/

/-- An operation, of which just the outcomes are known. -/
@[reducible] def AttemptI (α : Type) : Interface where
  Op := Unit
  Reply _ := Outcome α

/-- One attempt at it. -/
def attemptOnce (timeoutSecs : U64) : Async (AttemptI α) Failure α := do
  match ← Async.request (I := AttemptI α) () with
  | .ok value => pure value
  | .err e => Async.done (.error (.err e))
  | .timedOut => Async.done (.error (.err s!"Operation timed out after {timeoutSecs.toNat}s"))

/-- A step of the breaker. -/
structure BreakerEvent where
  /-- The method. -/
  op : BreakerOp
  /-- What the clock says. -/
  now : U64
  /-- The breaker before the step. -/
  before : CircuitBreaker
  /-- The breaker after it. -/
  after : CircuitBreaker
  /-- Whether a request is admitted. -/
  admits : Bool
  deriving DecidableEq, Repr

/-- A request is admitted. -/
def BreakerOp.admits : (op : BreakerOp) → op.Reply → Bool
  | .shouldAllowRequest, .ok allowed => allowed
  | _, _ => false

/-- What the calls share, and what happens to them. -/
structure RpcWorld (α : Type) where
  /-- The breaker. -/
  breaker : CircuitBreaker
  /-- What the clock says at its readings. -/
  clock : ℕ → U64
  /-- How the attempts end. -/
  outcomes : ℕ → Outcome α
  /-- How many attempts have been made. -/
  attempts : ℕ
  /-- The steps of the breaker so far. -/
  log : List BreakerEvent

namespace RpcWorld

/-- Before any call. -/
def start (clock : ℕ → U64) (outcomes : ℕ → Outcome α) : RpcWorld α := ⟨.new, clock, outcomes, 0, []⟩

variable (world : RpcWorld α)

/-- The next reading of the clock. -/
def now : U64 := world.clock world.log.length

/-- A step of the breaker, as it is logged. -/
def event (op : BreakerOp) : BreakerEvent where
  op := op
  now := world.now
  before := world.breaker
  after := (op.apply world.now world.breaker).2
  admits := op.admits (op.apply world.now world.breaker).1

/-- After a step of the breaker. -/
def afterBreaker (op : BreakerOp) : RpcWorld α :=
  { world with breaker := (world.event op).after, log := world.log ++ [world.event op] }

/-- After an attempt. -/
def afterAttempt : RpcWorld α := { world with attempts := world.attempts + 1 }

end RpcWorld

/-- What the operations do. -/
def rpcHandler : Handler ((AttemptI α).sum RetryI) (RpcWorld α)
  | .inl (), world => (world.outcomes world.attempts, world.afterAttempt)
  | .inr (.breaker op), world => ((op.apply world.now world.breaker).1, world.afterBreaker op)
  | .inr (.sleep _), world => ((), world)

/-- The clock does not go back. -/
def MonotoneClock (clock : ℕ → U64) : Prop := ∀ i j, i ≤ j → clock i ≤ clock j

theorem monotone_const (now : U64) : MonotoneClock fun _ => now := fun _ _ _ => BitVec.le_refl now

/-- A clock that stands still up to a reading, and is later from then on. -/
theorem monotone_jump {early late : U64} (n : ℕ) (h : early ≤ late) :
    MonotoneClock fun i => if i < n then early else late := by
  intro i j hij
  dsimp only
  split
  · split
    · exact BitVec.le_refl _
    · exact h
  · rw [if_neg (by omega)]
    exact BitVec.le_refl _

theorem now_le_afterBreaker (world : RpcWorld α) (hclock : MonotoneClock world.clock) (op : BreakerOp) :
    world.now ≤ (world.afterBreaker op).now := by
  simp only [RpcWorld.now, RpcWorld.afterBreaker, List.length_append, List.length_singleton]
  exact hclock _ _ (Nat.le_succ _)

end Botmev.Hyperliquid
