import Botmev.Hyperliquid.RpcService
import Mathlib.Data.List.Basic

/-!
# The circuit breaker, one call after another

When no two calls overlap, a call that the breaker lets pass reports exactly once, whatever its
attempts come to, and the next call finds the breaker closed or open. The counter goes on while
the breaker opens again and again, but it cannot overflow: between two openings lie thirty
seconds, and the clock counts seconds in as many bits.

## What is proved

* `run_retryLoop`: what the attempts come to, and what is reported.
* `betweenCalls_call`: from one call to the next.
* `sequential_breaker`: the state agrees with the counter in every state reached, and every
  call keeps to its attempts and its one report.
-/

namespace Botmev.Hyperliquid

open Botmev.Rust Botmev.Library

variable {α : Type}

/-- An attempt succeeds. -/
def Outcome.isOk : Outcome α → Bool
  | .ok _ => true
  | .err _ | .timedOut => false

/-- "Number of consecutive failures before circuit breaker opens". -/
structure CircuitBreaker.Agrees (breaker : CircuitBreaker) : Prop where
  /-- While it is closed there are fewer. -/
  closed : breaker.state = .closed → breaker.consecutiveFailures < threshold
  /-- While it is not there are as many, or more. -/
  opened : breaker.state ≠ .closed → threshold ≤ breaker.consecutiveFailures

/-- What a method makes of the number of consecutive failures. -/
def BreakerOp.count : BreakerOp → ℕ → ℕ
  | .shouldAllowRequest, n => n
  | .recordSuccess, _ => 0
  | .recordFailure, n => n + 1

/-- The failures that were reported since the last success. -/
def recordedFailures (log : List BreakerEvent) : ℕ := log.foldl (fun n e => e.op.count n) 0

/-- What a call does: it is blocked, and nothing is tried or reported; or it is admitted, tries
at most three times, returns the first success or an error, and reports which, once. -/
inductive Disciplined (world : RpcWorld α) : Except Failure α × RpcWorld α → Prop where
  /-- Blocked. -/
  | blocked {world' : RpcWorld α} {e : BreakerEvent} {message : String} : e.op = .shouldAllowRequest →
      e.admits = false → world'.log = world.log ++ [e] → world'.attempts = world.attempts →
      Disciplined world (.error (.err message), world')
  /-- The attempt after `n` others succeeds. -/
  | succeeds {world' : RpcWorld α} {e report : BreakerEvent} {n : ℕ} {value : α} :
      e.op = .shouldAllowRequest →
      e.admits = true → n < maxRetryAttempts → (∀ k < n, (world.outcomes (world.attempts + k)).isOk = false) →
      world.outcomes (world.attempts + n) = .ok value → world'.attempts = world.attempts + n + 1 →
      report.op = .recordSuccess → world'.log = world.log ++ [e, report] →
        Disciplined world (.ok value, world')
  /-- All attempts fail. -/
  | fails {world' : RpcWorld α} {e report : BreakerEvent} {message : String} : e.op = .shouldAllowRequest →
      e.admits = true → (∀ k < maxRetryAttempts, (world.outcomes (world.attempts + k)).isOk = false) →
      world'.attempts = world.attempts + maxRetryAttempts → report.op = .recordFailure →
      world'.log = world.log ++ [e, report] → Disciplined world (.error (.err message), world')

/-- The states between calls that are run one after another. -/
inductive Sequential (clock : ℕ → U64) (outcomes : ℕ → Outcome α) : RpcWorld α → Prop where
  /-- No call yet. -/
  | start : Sequential clock outcomes (.start clock outcomes)
  /-- One more call. -/
  | call {world : RpcWorld α} (timeoutSecs : U64) : Sequential clock outcomes world →
      Sequential clock outcomes ((executeWithRetry (attemptOnce timeoutSecs)).run rpcHandler world).2

/-- **The breaker is an automaton**: in every state since the start its counter agrees with its
state, and so does the next call with its discipline. -/
structure BreakerAutomaton (world : RpcWorld α) : Prop where
  /-- The counter counts. -/
  counts : world.breaker.consecutiveFailures.toNat = recordedFailures world.log
  /-- It agrees now. -/
  agrees : world.breaker.Agrees
  /-- It has agreed after every step. -/
  agreed : ∀ e ∈ world.log, e.after.Agrees
  /-- It agrees in the middle of the next call. -/
  next : ∀ timeoutSecs, ∀ e ∈ ((executeWithRetry (attemptOnce timeoutSecs)).run rpcHandler world).2.log,
    e.after.Agrees
  /-- The next call is disciplined. -/
  disciplined : ∀ timeoutSecs, Disciplined world
    ((executeWithRetry (attemptOnce timeoutSecs)).run rpcHandler world)

variable {world : RpcWorld α} {timeoutSecs backoffMs : U64} {remaining : ℕ} {lastError : Option String}

/-! ### The attempts -/

theorem run_attemptOnce_ok {value : α} (h : world.outcomes world.attempts = .ok value) :
    ((attemptOnce timeoutSecs).attempt.inl : RetryM (AttemptI α) (Except Failure α)).run rpcHandler world =
      (.ok (.ok value), world.afterAttempt) := by
  show Async.run rpcHandler ((match world.outcomes world.attempts with
    | .ok value => Async.done (.ok value)
    | .err e => Async.done (.error (.err e))
    | .timedOut => Async.done (.error (.err s!"Operation timed out after {timeoutSecs.toNat}s")) :
      Async (AttemptI α) Failure α).attempt.inl) world.afterAttempt = _
  rw [h]
  rfl

theorem run_attemptOnce_fail (h : (world.outcomes world.attempts).isOk = false) :
    ∃ e, ((attemptOnce timeoutSecs).attempt.inl : RetryM (AttemptI α) (Except Failure α)).run rpcHandler world =
      (.ok (.error (.err e)), world.afterAttempt) := by
  show ∃ e, Async.run rpcHandler ((match world.outcomes world.attempts with
    | .ok value => Async.done (.ok value)
    | .err e => Async.done (.error (.err e))
    | .timedOut => Async.done (.error (.err s!"Operation timed out after {timeoutSecs.toNat}s")) :
      Async (AttemptI α) Failure α).attempt.inl) world.afterAttempt = (.ok (.error (.err e)), world.afterAttempt)
  cases hout : world.outcomes world.attempts with
  | ok value =>
    rw [hout] at h
    cases h
  | err e => exact ⟨e, rfl⟩
  | timedOut => exact ⟨_, rfl⟩

theorem run_retryLoop_ok {value : α} (h : world.outcomes world.attempts = .ok value) :
    (retryLoop (attemptOnce timeoutSecs) (remaining + 1) backoffMs lastError).run rpcHandler world =
      (.ok value, world.afterAttempt.afterBreaker .recordSuccess) := by
  rw [retryLoop, Async.run_bind_of_ok _ (run_attemptOnce_ok h)]
  rfl

variable (timeoutSecs remaining lastError) in
/-- The loop, after one that does not: the pause is within its bound, so doubling it does not
overflow. -/
theorem run_retryLoop_fail (hbackoff : backoffMs ≤ maxBackoffMs)
    (h : (world.outcomes world.attempts).isOk = false) :
    ∃ backoffMs' e, backoffMs' ≤ maxBackoffMs ∧
      (retryLoop (attemptOnce timeoutSecs) (remaining + 1) backoffMs lastError).run rpcHandler world =
        (retryLoop (attemptOnce timeoutSecs) remaining backoffMs' (some e)).run rpcHandler
          world.afterAttempt := by
  obtain ⟨e, hattempt⟩ := run_attemptOnce_fail h
  rw [retryLoop, Async.run_bind_of_ok _ hattempt]
  dsimp only
  split
  · exact ⟨backoffMs, e, hbackoff, rfl⟩
  · obtain ⟨doubled, hdoubled⟩ : ∃ doubled, Uint.mul backoffMs 2 = .ok doubled := by
      refine ⟨_, if_pos ?_⟩
      rw [BitVec.le_def] at hbackoff
      have hmax : maxBackoffMs.toNat = 10000 := rfl
      have htwo : (2 : U64).toNat = 2 := rfl
      rw [htwo]
      omega
    refine ⟨Uint.min doubled maxBackoffMs, e, ?_, ?_⟩
    · rw [BitVec.le_def, toNat_min]
      exact min_le_right _ _
    · rw [hdoubled]
      rfl

/-- After so many attempts. -/
def RpcWorld.afterAttempts (world : RpcWorld α) (n : ℕ) : RpcWorld α :=
  { world with attempts := world.attempts + n }

theorem afterAttempt_afterAttempts (n : ℕ) :
    world.afterAttempt.afterAttempts n = world.afterAttempts (n + 1) := by
  simp only [RpcWorld.afterAttempt, RpcWorld.afterAttempts, Nat.add_assoc, Nat.add_comm 1]

theorem attempts_afterAttempt_add (k : ℕ) : world.afterAttempt.attempts + k = world.attempts + (k + 1) := by
  rw [RpcWorld.afterAttempt, Nat.add_assoc, Nat.add_comm 1]

variable (world timeoutSecs remaining lastError) in
/-- **What the attempts come to**: the first that succeeds ends them, and the success is
reported; or none does, and the failure is. -/
theorem run_retryLoop (hbackoff : backoffMs ≤ maxBackoffMs) :
    (∃ n value, n < remaining ∧ (∀ k < n, (world.outcomes (world.attempts + k)).isOk = false) ∧
        world.outcomes (world.attempts + n) = .ok value ∧
        (retryLoop (attemptOnce timeoutSecs) remaining backoffMs lastError).run rpcHandler world =
          (.ok value, (world.afterAttempts (n + 1)).afterBreaker .recordSuccess)) ∨
      ((∀ k < remaining, (world.outcomes (world.attempts + k)).isOk = false) ∧
        ∃ message, (retryLoop (attemptOnce timeoutSecs) remaining backoffMs lastError).run rpcHandler world =
          ((world.breaker.recordFailure world.now).1 >>= fun _ => .error (.err message),
            (world.afterAttempts remaining).afterBreaker .recordFailure)) := by
  induction remaining generalizing backoffMs lastError world with
  | zero =>
    refine .inr ⟨by simp, lastError.getD "Operation failed after 3 attempts", ?_⟩
    show Async.run rpcHandler ((liftM (world.breaker.recordFailure world.now).1 : RetryM (AttemptI α) Unit) >>=
      fun _ =>
      Async.done (.error (.err _))) (world.afterBreaker .recordFailure) = _
    cases (world.breaker.recordFailure world.now).1 <;> rfl
  | succ remaining ih =>
    cases hout : world.outcomes world.attempts with
    | ok value => exact .inl ⟨0, value, Nat.succ_pos _, by simp, hout, run_retryLoop_ok hout⟩
    | err _ | timedOut =>
      have hfail : (world.outcomes world.attempts).isOk = false := by rw [hout]; rfl
      obtain ⟨backoffMs', e, hbackoff', hrun⟩ :=
        run_retryLoop_fail timeoutSecs remaining lastError hbackoff hfail
      -- The attempts of the loop are the first one and those after it.
      have hfirst : ∀ n, (∀ k < n, (world.outcomes (world.afterAttempt.attempts + k)).isOk = false) →
          ∀ k < n + 1, (world.outcomes (world.attempts + k)).isOk = false := by
        intro n hrest
        simp only [attempts_afterAttempt_add] at hrest
        exact Nat.forall_lt_succ_left.mpr ⟨hfail, hrest⟩
      rcases ih world.afterAttempt (some e) hbackoff' with ⟨n, value, hn, hbefore, hok, hr⟩ | ⟨hall, message, hr⟩
      · refine .inl ⟨n + 1, value, Nat.succ_lt_succ hn, hfirst n hbefore, ?_, ?_⟩
        · rw [← attempts_afterAttempt_add]
          exact hok
        · rw [hrun, hr, afterAttempt_afterAttempts]
      · refine .inr ⟨hfirst remaining hall, message, ?_⟩
        rw [hrun, hr, afterAttempt_afterAttempts]
        rfl

/-! ### The breaker -/

/-- The breaker between two calls, at a time: closed with fewer failures than the threshold, or
open. The failures from the first opening on are at least thirty seconds apart. -/
structure CircuitBreaker.AtRest (breaker : CircuitBreaker) (now : U64) : Prop where
  /-- It was opened before. -/
  openedAt : breaker.openedAt.toNat ≤ now.toNat
  /-- Its state. -/
  state : breaker.state = .closed ∧ breaker.consecutiveFailures.toNat < 5 ∨
    breaker.state = .opened ∧ 5 ≤ breaker.consecutiveFailures.toNat ∧
      breaker.consecutiveFailures.toNat ≤ 5 + breaker.openedAt.toNat / 30

/-- The breaker within a call that it has let pass. -/
structure CircuitBreaker.Admitted (breaker : CircuitBreaker) (now : U64) : Prop where
  /-- It was opened before. -/
  openedAt : breaker.openedAt.toNat ≤ now.toNat
  /-- Its state. -/
  state : breaker.state = .closed ∧ breaker.consecutiveFailures.toNat < 5 ∨
    breaker.state = .halfOpen ∧ 5 ≤ breaker.consecutiveFailures.toNat ∧
      breaker.consecutiveFailures.toNat ≤ 5 + breaker.openedAt.toNat / 30 ∧
        breaker.openedAt.toNat + 30 ≤ now.toNat

namespace CircuitBreaker

variable {breaker : CircuitBreaker} {now later : U64}

theorem toNat_threshold : threshold.toNat = 5 := rfl

/-- The counter agrees with the state where this says on which side of the threshold it is. -/
theorem agrees_of_counts (h : breaker.state = .closed ∧ breaker.consecutiveFailures.toNat < 5 ∨
    breaker.state ≠ .closed ∧ 5 ≤ breaker.consecutiveFailures.toNat) : breaker.Agrees := by
  constructor
  · intro hclosed
    rw [BitVec.lt_def, toNat_threshold]
    rcases h with ⟨-, hlt⟩ | ⟨hopened, -⟩
    · exact hlt
    · exact absurd hclosed hopened
  · intro hopened
    rw [BitVec.le_def, toNat_threshold]
    rcases h with ⟨hclosed, -⟩ | ⟨-, hle⟩
    · exact absurd hclosed hopened
    · exact hle

theorem AtRest.agrees (h : breaker.AtRest now) : breaker.Agrees :=
  agrees_of_counts (h.state.imp_right fun ⟨hopened, hge, _⟩ => ⟨by simp [hopened], hge⟩)

theorem Admitted.agrees (h : breaker.Admitted now) : breaker.Agrees :=
  agrees_of_counts (h.state.imp_right fun ⟨hhalf, hge, _⟩ => ⟨by simp [hhalf], hge⟩)

theorem AtRest.mono (h : breaker.AtRest now) (hle : now ≤ later) : breaker.AtRest later :=
  ⟨Nat.le_trans h.openedAt hle, h.state⟩

theorem Admitted.mono (h : breaker.Admitted now) (hle : now ≤ later) : breaker.Admitted later := by
  rw [BitVec.le_def] at hle
  refine ⟨Nat.le_trans h.openedAt hle, ?_⟩
  rcases h.state with hclosed | ⟨hhalf, hge, hbound, hcool⟩
  · exact .inl hclosed
  · exact .inr ⟨hhalf, hge, hbound, Nat.le_trans hcool hle⟩

theorem AtRest.shouldAllowRequest (h : breaker.AtRest now) :
    (breaker.shouldAllowRequest now).1 = .ok true ∧ (breaker.shouldAllowRequest now).2.Admitted now ∨
      breaker.shouldAllowRequest now = (.ok false, breaker) := by
  rcases h.state with ⟨hclosed, hlt⟩ | ⟨hopened, hge, hbound⟩
  · refine .inl ?_
    simp only [CircuitBreaker.shouldAllowRequestWith, hclosed, true_and]
    exact ⟨h.openedAt, .inl ⟨hclosed, hlt⟩⟩
  · have hle : breaker.openedAt ≤ now := h.openedAt
    have hreply : breaker.shouldAllowRequest now = _ := shouldAllow_opened hopened hle
    by_cases hcool : breaker.openedAt.toNat + cooldownSecs.toNat ≤ now.toNat
    · rw [hreply, if_pos hcool]
      exact .inl ⟨rfl, h.openedAt, .inr ⟨rfl, hge, hbound, hcool⟩⟩
    · exact .inr (hreply.trans (if_neg hcool))

theorem consecutiveFailures_shouldAllowRequest :
    (breaker.shouldAllowRequest now).2.consecutiveFailures = breaker.consecutiveFailures := by
  unfold CircuitBreaker.shouldAllowRequest CircuitBreaker.shouldAllowRequestWith
  split
  · rfl
  · split
    · split <;> rfl
    · rfl
  · rfl

theorem Admitted.recordSuccess (h : breaker.Admitted now) :
    breaker.recordSuccess.AtRest now ∧ breaker.recordSuccess.consecutiveFailures.toNat = 0 := by
  have hzero : (0 : U64).toNat < 5 := by decide
  unfold CircuitBreaker.recordSuccess
  split
  next hclosed => exact ⟨⟨h.openedAt, .inl ⟨hclosed, hzero⟩⟩, rfl⟩
  next => exact ⟨⟨h.openedAt, .inl ⟨rfl, hzero⟩⟩, rfl⟩
  next => exact ⟨⟨h.openedAt, .inl ⟨rfl, hzero⟩⟩, rfl⟩

/-- A failure is counted, without overflow, and opens it from the fifth on. -/
theorem Admitted.recordFailure (h : breaker.Admitted now) :
    (breaker.recordFailure now).1 = .ok () ∧ (breaker.recordFailure now).2.AtRest now ∧
      (breaker.recordFailure now).2.consecutiveFailures.toNat = breaker.consecutiveFailures.toNat + 1 := by
  have hlt := now.isLt
  have hopenedAt := h.openedAt
  have hsmall : breaker.consecutiveFailures.toNat + 1 < 2 ^ 64 := by
    rcases h.state with ⟨-, hlt⟩ | ⟨-, -, hbound, -⟩ <;> omega
  have hone : (1 : U64).toNat = 1 := rfl
  have hadd : Uint.add breaker.consecutiveFailures 1 = .ok (breaker.consecutiveFailures + 1) := by
    rw [Uint.add_eq_ok_iff, hone, BitVec.toNat_add_of_lt (by rw [hone]; exact hsmall), hone]
  have hcount : (breaker.consecutiveFailures + 1).toNat = breaker.consecutiveFailures.toNat + 1 :=
    Uint.add_eq_ok_iff.mp hadd
  simp only [CircuitBreaker.recordFailureWith, Uint.addIn, ↓reduceIte, hadd]
  rcases h.state with ⟨hclosed, hfew⟩ | ⟨hhalf, hge, hbound, hcool⟩
  · simp only [hclosed]
    split
    next hthreshold =>
      rw [BitVec.le_def, toNat_threshold, hcount] at hthreshold
      refine ⟨rfl, ⟨Nat.le_refl _, .inr ⟨rfl, ?_, ?_⟩⟩, hcount⟩
      · rw [hcount]
        exact hthreshold
      · rw [hcount]
        omega
    next hthreshold =>
      rw [BitVec.le_def, toNat_threshold, hcount] at hthreshold
      refine ⟨rfl, ⟨h.openedAt, .inl ⟨rfl, ?_⟩⟩, hcount⟩
      rw [hcount]
      omega
  · simp only [hhalf, true_and]
    refine ⟨⟨Nat.le_refl _, .inr ⟨rfl, ?_, ?_⟩⟩, hcount⟩
    · rw [hcount]
      omega
    · rw [hcount]
      dsimp only
      omega

end CircuitBreaker

/-! ### Calls -/

/-- What holds between two calls. -/
structure BetweenCalls (clock : ℕ → U64) (world : RpcWorld α) : Prop where
  /-- The clock. -/
  clock : world.clock = clock
  /-- The breaker. -/
  breaker : world.breaker.AtRest world.now
  /-- Its counter. -/
  counts : world.breaker.consecutiveFailures.toNat = recordedFailures world.log
  /-- After every step the counter has agreed. -/
  agreed : ∀ e ∈ world.log, e.after.Agrees

variable (timeoutSecs world) in
theorem run_executeWithRetry :
    (executeWithRetry (attemptOnce timeoutSecs)).run rpcHandler world =
      match (world.breaker.shouldAllowRequest world.now).1 with
      | .ok true => (retryLoop (attemptOnce timeoutSecs) maxRetryAttempts initialBackoffMs none).run rpcHandler
          (world.afterBreaker .shouldAllowRequest)
      | .ok false => (.error (.err "Circuit breaker is open. RPC service is temporarily unavailable."),
          world.afterBreaker .shouldAllowRequest)
      | .error failure => (.error failure, world.afterBreaker .shouldAllowRequest) := by
  show Async.run rpcHandler ((liftM (world.breaker.shouldAllowRequest world.now).1 : RetryM (AttemptI α) Bool) >>=
    fun allowed =>
      if allowed then retryLoop (attemptOnce timeoutSecs) maxRetryAttempts initialBackoffMs none
      else Async.done (.error (.err "Circuit breaker is open. RPC service is temporarily unavailable.")))
        (world.afterBreaker .shouldAllowRequest) = _
  rcases (world.breaker.shouldAllowRequest world.now).1 with failure | allowed
  · rfl
  · cases allowed <;> rfl

variable (timeoutSecs) in
theorem run_blocked (h : world.breaker.shouldAllowRequest world.now = (.ok false, world.breaker)) :
    ∃ message, (executeWithRetry (attemptOnce timeoutSecs)).run rpcHandler world =
      (.error (.err message), world.afterBreaker .shouldAllowRequest) := by
  rw [run_executeWithRetry, h]
  exact ⟨_, rfl⟩

variable (timeoutSecs) in
theorem run_admitted (h : (world.breaker.shouldAllowRequest world.now).1 = .ok true) :
    (executeWithRetry (attemptOnce timeoutSecs)).run rpcHandler world =
      (retryLoop (attemptOnce timeoutSecs) maxRetryAttempts initialBackoffMs none).run rpcHandler
        (world.afterBreaker .shouldAllowRequest) := by
  rw [run_executeWithRetry, h]

variable (world) in
theorem recordedFailures_afterBreaker (op : BreakerOp) :
    recordedFailures (world.afterBreaker op).log = op.count (recordedFailures world.log) := by
  simp only [recordedFailures, RpcWorld.afterBreaker, List.foldl_append, List.foldl_cons, List.foldl_nil]
  rfl

theorem betweenCalls_report {clock : ℕ → U64} {n : ℕ} {op : BreakerOp} (hclock : MonotoneClock clock)
    (h : BetweenCalls clock world)
    (hadmitted : (world.breaker.shouldAllowRequest world.now).2.Admitted world.now)
    (hreport : ∀ {breaker : CircuitBreaker} {now : U64}, breaker.Admitted now →
      (op.apply now breaker).2.AtRest now ∧
        (op.apply now breaker).2.consecutiveFailures.toNat = op.count breaker.consecutiveFailures.toNat) :
    BetweenCalls clock (((world.afterBreaker .shouldAllowRequest).afterAttempts n).afterBreaker op) := by
  have hworld : MonotoneClock world.clock := h.clock ▸ hclock
  have hmid : (world.afterBreaker .shouldAllowRequest).breaker.Admitted
      (world.afterBreaker .shouldAllowRequest).now :=
    CircuitBreaker.Admitted.mono hadmitted (now_le_afterBreaker world hworld _)
  obtain ⟨hrest, hcount⟩ := hreport hmid
  have hasked : (world.afterBreaker .shouldAllowRequest).breaker.consecutiveFailures =
      world.breaker.consecutiveFailures :=
    CircuitBreaker.consecutiveFailures_shouldAllowRequest
  refine ⟨h.clock, ?_, ?_, ?_⟩
  · exact hrest.mono (now_le_afterBreaker ((world.afterBreaker .shouldAllowRequest).afterAttempts n) hworld _)
  · refine hcount.trans ?_
    rw [hasked, h.counts, recordedFailures_afterBreaker]
    exact congrArg op.count (recordedFailures_afterBreaker world .shouldAllowRequest).symm
  · intro e he
    rcases List.mem_append.mp he with he | he
    · rcases List.mem_append.mp he with he | he
      · exact h.agreed e he
      · cases List.mem_singleton.mp he
        exact hadmitted.agrees
    · cases List.mem_singleton.mp he
      exact hrest.agrees

variable (timeoutSecs) in
/-- **From one call to the next**: the call is disciplined, and leaves the breaker at rest. -/
theorem betweenCalls_call {clock : ℕ → U64} (hclock : MonotoneClock clock) (h : BetweenCalls clock world) :
    BetweenCalls clock ((executeWithRetry (attemptOnce timeoutSecs)).run rpcHandler world).2 ∧
      Disciplined world ((executeWithRetry (attemptOnce timeoutSecs)).run rpcHandler world) := by
  rcases h.breaker.shouldAllowRequest with ⟨hallow, hadmitted⟩ | hblocked
  · have hadmits : (world.event .shouldAllowRequest).admits = true := by
      simp only [RpcWorld.event, BreakerOp.apply, BreakerOp.applyWith, hallow, BreakerOp.admits]
    have hmid := hadmitted.mono (now_le_afterBreaker world (h.clock ▸ hclock) .shouldAllowRequest)
    rw [run_admitted timeoutSecs hallow]
    have hbackoff : initialBackoffMs ≤ maxBackoffMs := by decide
    rcases run_retryLoop (world.afterBreaker .shouldAllowRequest) timeoutSecs maxRetryAttempts none hbackoff
      with ⟨n, value, hn, hbefore, hok, hrun⟩ | ⟨hall, message, hrun⟩
    · rw [hrun]
      refine ⟨betweenCalls_report hclock h hadmitted fun hadm => hadm.recordSuccess, ?_⟩
      exact .succeeds rfl hadmits hn hbefore hok rfl rfl (List.append_assoc ..)
    · have hrecorded : ((world.afterBreaker .shouldAllowRequest).breaker.recordFailure
          (world.afterBreaker .shouldAllowRequest).now).1 = .ok () :=
        (CircuitBreaker.Admitted.recordFailure hmid).1
      rw [hrun, hrecorded]
      refine ⟨betweenCalls_report hclock h hadmitted fun hadm => hadm.recordFailure.2, ?_⟩
      exact .fails rfl hadmits hall rfl rfl (List.append_assoc ..)
  · obtain ⟨message, hrun⟩ := run_blocked timeoutSecs hblocked
    have hsame : (world.afterBreaker .shouldAllowRequest).breaker = world.breaker :=
      congrArg Prod.snd hblocked
    have hadmits : (world.event .shouldAllowRequest).admits = false := by
      simp only [RpcWorld.event, BreakerOp.apply, BreakerOp.applyWith, hblocked, BreakerOp.admits]
    rw [hrun]
    refine ⟨⟨h.clock, ?_, ?_, ?_⟩, .blocked rfl hadmits rfl rfl⟩
    · rw [hsame]
      exact h.breaker.mono (now_le_afterBreaker world (h.clock ▸ hclock) _)
    · rw [hsame, h.counts]
      exact (recordedFailures_afterBreaker world .shouldAllowRequest).symm
    · intro e he
      rcases List.mem_append.mp he with he | he
      · exact h.agreed e he
      · cases List.mem_singleton.mp he
        have hafter : (world.event .shouldAllowRequest).after = world.breaker := hsame
        rw [hafter]
        exact h.breaker.agrees

theorem betweenCalls_of_sequential {clock : ℕ → U64} {outcomes : ℕ → Outcome α} (hclock : MonotoneClock clock)
    (h : Sequential clock outcomes world) : BetweenCalls clock world := by
  induction h with
  | start =>
    have hzero : (0 : U64).toNat < 5 := by decide
    exact ⟨rfl, ⟨Nat.zero_le _, .inl ⟨rfl, hzero⟩⟩, rfl, by simp [RpcWorld.start]⟩
  | call timeoutSecs _ ih => exact (betweenCalls_call timeoutSecs hclock ih).1

/-- **The breaker is an automaton**, as long as the calls do not overlap and the clock does not
go back. -/
theorem sequential_breaker {clock : ℕ → U64} {outcomes : ℕ → Outcome α} (hclock : MonotoneClock clock)
    (h : Sequential clock outcomes world) : BreakerAutomaton world := by
  have hrest := betweenCalls_of_sequential hclock h
  exact ⟨hrest.counts, hrest.breaker.agrees, hrest.agreed,
    fun timeoutSecs => (betweenCalls_call timeoutSecs hclock hrest).1.agreed,
    fun timeoutSecs => (betweenCalls_call timeoutSecs hclock hrest).2⟩

/-- Two calls of a node that is down for five attempts. -/
theorem two_calls_counted :
    BreakerAutomaton ((executeWithRetry (attemptOnce 10)).run rpcHandler
      ((executeWithRetry (attemptOnce 10)).run rpcHandler
        (.start (fun _ => 0) fun n => if n < 5 then .err "connection refused" else .ok n)).2).2 :=
  sequential_breaker (monotone_const 0) (.call 10 (.call 10 .start))

end Botmev.Hyperliquid
