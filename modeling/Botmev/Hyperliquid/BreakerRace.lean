import Botmev.Hyperliquid.RpcService
import Botmev.Library.Interleaving
import Botmev.Library.LastWrite

/-!
# The circuit breaker among concurrent calls

A request that was admitted before the breaker opened reports afterwards, and its success
closes the open breaker at once ("should not happen, but reset if it does"). While the breaker
is half-open every request is admitted, whether or not another one is testing the service.

## What is proved

* `guarded_event`: what a step of the breaker does unless it is one of these two.
* `breaker_guards`: in every run without them, a request is admitted only when the cooldown has
  gone by since the last opening, and at most one while the breaker is half-open.
* `breaker_bypassed`: with either, it is not so.
-/

namespace Botmev.Hyperliquid

open Botmev.Rust Botmev.Library

/-- The step opens the breaker. -/
def BreakerEvent.opens (e : BreakerEvent) : Bool :=
  e.before.state != .opened && e.after.state == .opened

/-- When the breaker was opened last. -/
def lastOpening (log : List BreakerEvent) : Option U64 :=
  log.foldl (fun last e => if e.opens then some e.now else last) none

/-- How many requests have been admitted since the breaker became half-open, if it still is. -/
def probes (log : List BreakerEvent) : ℕ :=
  log.foldl (fun n e => if e.after.state = .halfOpen then n + e.admits.toNat else 0) 0

/-- **The breaker guards the service**: no request is admitted before the cooldown has elapsed
since the last opening, and at most one while it is half-open. -/
structure BreakerGuards (log : List BreakerEvent) : Prop where
  /-- The cooldown has elapsed at every admission. -/
  cooldown : ∀ before e after openedAt, log = before ++ e :: after → e.admits = true →
    lastOpening before = some openedAt → openedAt.toNat + CircuitBreaker.cooldownSecs.toNat ≤ e.now.toNat
  /-- One probe, until its outcome is recorded. -/
  probe : ∀ before after, log = before ++ after → probes before ≤ 1

/-- The step is none of the two that get around the breaker: a success that is recorded while
it is open, and a request while it is half-open. -/
def Guarded (breaker : CircuitBreaker) : BreakerOp → Prop
  | .recordSuccess => breaker.state ≠ .opened
  | .shouldAllowRequest => breaker.state ≠ .halfOpen
  | .recordFailure => True

instance (breaker : CircuitBreaker) : (op : BreakerOp) → Decidable (Guarded breaker op)
  | .recordSuccess => inferInstanceAs (Decidable (_ ≠ _))
  | .shouldAllowRequest => inferInstanceAs (Decidable (_ ≠ _))
  | .recordFailure => inferInstanceAs (Decidable True)

/-- Concurrent calls of `execute_with_retry`. -/
abbrev RpcPool (α ι : Type) := Pool ((AttemptI α).sum RetryI) Failure α (RpcWorld α) ι

variable {α ι : Type}

/-- The method of the breaker, if it is one. -/
def breakerOp? : ((AttemptI α).sum RetryI).Op → Option BreakerOp
  | .inr (.breaker op) => some op
  | .inr (.sleep _) | .inl () => none

/-- The step that the call takes next is none of the two. -/
def StepsGuarded (p : RpcPool α ι) (i : ι) : Prop :=
  ∀ op ∈ (p.tasks i).next?.bind breakerOp?, Guarded p.shared.breaker op

instance (p : RpcPool α ι) (i : ι) : Decidable (StepsGuarded p i) := Option.decidableForallMem ..

variable {world : RpcWorld α} {op : BreakerOp} {log : List BreakerEvent} {e : BreakerEvent}

/-! ### One step -/

/-- What a guarded step that does not open the breaker does: it starts the test when the
cooldown has elapsed, leaves the closed breaker closed, ends the test or goes on with it, or
keeps the breaker open. -/
inductive KeepsShut (e : BreakerEvent) : Prop where
  /-- The test starts, with the request that is admitted. -/
  | tests : e.before.state = .opened → e.after.state = .halfOpen → e.admits = true →
      e.before.openedAt.toNat + CircuitBreaker.cooldownSecs.toNat ≤ e.now.toNat → KeepsShut e
  /-- It is closed. -/
  | closed : e.before.state = .closed → e.after.state = .closed → KeepsShut e
  /-- The test ends with a success, or goes on. -/
  | tested : e.before.state = .halfOpen → e.after.state ≠ .opened → e.admits = false → KeepsShut e
  /-- It is open. -/
  | blocks : e.before.state = .opened → e.after.state = .opened → e.admits = false → KeepsShut e

/-- A request that is let pass by the open breaker finds the cooldown elapsed. -/
theorem shouldAllowRequest_opened {breaker : CircuitBreaker} (now : U64) (h : breaker.state = .opened) :
    breaker.shouldAllowRequest now = (.ok true, { breaker with state := .halfOpen }) ∧
        breaker.openedAt.toNat + CircuitBreaker.cooldownSecs.toNat ≤ now.toNat ∨
      (breaker.shouldAllowRequest now).2 = breaker ∧ (breaker.shouldAllowRequest now).1 ≠ .ok true := by
  by_cases hle : breaker.openedAt ≤ now
  · have hreply : breaker.shouldAllowRequest now = _ := shouldAllow_opened h hle
    by_cases hcool : breaker.openedAt.toNat + CircuitBreaker.cooldownSecs.toNat ≤ now.toNat
    · exact .inl ⟨hreply.trans (if_pos hcool), hcool⟩
    · rw [hreply, if_neg hcool]
      exact .inr ⟨rfl, by simp⟩
  · refine .inr ?_
    simp [CircuitBreaker.shouldAllowRequestWith, h, Uint.subIn, Uint.sub, if_neg hle]

theorem admits_shouldAllowRequest_iff {reply : Result Bool} :
    BreakerOp.admits .shouldAllowRequest reply = true ↔ reply = .ok true := by
  rcases reply with _ | allowed <;> simp [BreakerOp.admits]

/-- A failure opens the breaker, or leaves the state as it is. -/
theorem recordFailureWith_cases {overflowChecks : Bool} (breaker : CircuitBreaker) (now : U64) :
    (breaker.state ≠ .opened ∧ (breaker.recordFailureWith overflowChecks now).2.state = .opened ∧
        (breaker.recordFailureWith overflowChecks now).2.openedAt = now) ∨
      ((breaker.recordFailureWith overflowChecks now).2.state = breaker.state ∧
        (breaker.recordFailureWith overflowChecks now).2.openedAt = breaker.openedAt) := by
  unfold CircuitBreaker.recordFailureWith
  split
  · exact .inr ⟨rfl, rfl⟩
  · split
    next hstate =>
      split
      · exact .inl ⟨by simp [hstate], rfl, rfl⟩
      · exact .inr ⟨rfl, rfl⟩
    next hstate => exact .inl ⟨by simp [hstate], rfl, rfl⟩
    next => exact .inr ⟨rfl, rfl⟩

/-- A request that asks the breaker, while this is not half-open. -/
theorem guarded_shouldAllowRequest (h : world.breaker.state ≠ .halfOpen) :
    (world.event .shouldAllowRequest).opens = false ∧
      (world.event .shouldAllowRequest).after.openedAt = world.breaker.openedAt ∧
        KeepsShut (world.event .shouldAllowRequest) := by
  cases hstate : world.breaker.state with
  | closed =>
    have hevent : world.event .shouldAllowRequest =
        ⟨.shouldAllowRequest, world.now, world.breaker, world.breaker, true⟩ := by
      simp [RpcWorld.event, BreakerOp.apply, BreakerOp.applyWith, CircuitBreaker.shouldAllowRequestWith, hstate,
        BreakerOp.admits]
    rw [hevent]
    exact ⟨by simp [BreakerEvent.opens, hstate], rfl, .closed hstate hstate⟩
  | opened =>
    rcases shouldAllowRequest_opened world.now hstate with ⟨hallow, hcool⟩ | ⟨hsame, hblocked⟩
    · have hevent : world.event .shouldAllowRequest =
          ⟨.shouldAllowRequest, world.now, world.breaker, { world.breaker with state := .halfOpen }, true⟩ := by
        simp [RpcWorld.event, BreakerOp.apply, BreakerOp.applyWith, hallow, BreakerOp.admits]
      rw [hevent]
      exact ⟨by simp [BreakerEvent.opens, hstate], rfl, .tests hstate rfl rfl hcool⟩
    · have hadmits : BreakerOp.admits .shouldAllowRequest (world.breaker.shouldAllowRequest world.now).1 =
          false :=
        Bool.eq_false_iff.mpr fun hadmits => hblocked (admits_shouldAllowRequest_iff.mp hadmits)
      have hevent : world.event .shouldAllowRequest =
          ⟨.shouldAllowRequest, world.now, world.breaker, world.breaker, false⟩ := by
        simp [RpcWorld.event, BreakerOp.apply, BreakerOp.applyWith, hsame, hadmits]
      rw [hevent]
      exact ⟨by simp [BreakerEvent.opens, hstate], rfl, .blocks hstate hstate rfl⟩
  | halfOpen => exact absurd hstate h

theorem guarded_recordSuccess (h : world.breaker.state ≠ .opened) :
    (world.event .recordSuccess).opens = false ∧
      (world.event .recordSuccess).after.openedAt = world.breaker.openedAt ∧
        KeepsShut (world.event .recordSuccess) := by
  cases hstate : world.breaker.state with
  | closed =>
    refine ⟨?_, ?_, .closed hstate ?_⟩
    all_goals
      simp [RpcWorld.event, BreakerEvent.opens, BreakerOp.apply, BreakerOp.applyWith, CircuitBreaker.recordSuccess,
        hstate]
  | opened => exact absurd hstate h
  | halfOpen =>
    refine ⟨?_, ?_, .tested hstate ?_ rfl⟩
    all_goals
      simp [RpcWorld.event, BreakerEvent.opens, BreakerOp.apply, BreakerOp.applyWith, CircuitBreaker.recordSuccess,
        hstate]

/-- **What a guarded step does**: it opens the breaker at the reading of the clock, or keeps it
shut with the time of its last opening. -/
theorem guarded_event (h : Guarded world.breaker op) :
    ((world.event op).opens = true ∧ (world.event op).admits = false ∧
        (world.event op).after.openedAt = world.now ∧
        (world.event op).after.state = .opened) ∨
      ((world.event op).opens = false ∧ (world.event op).after.openedAt = world.breaker.openedAt ∧
        KeepsShut (world.event op)) := by
  cases op with
  | shouldAllowRequest => exact .inr (guarded_shouldAllowRequest h)
  | recordSuccess => exact .inr (guarded_recordSuccess h)
  | recordFailure =>
    rcases recordFailureWith_cases world.breaker world.now with ⟨hshut, hopened, hnow⟩ | ⟨hsame, hopenedAt⟩
    · refine .inl ⟨?_, rfl, hnow, hopened⟩
      simp [RpcWorld.event, BreakerEvent.opens, BreakerOp.apply, BreakerOp.applyWith, hshut, hopened]
    · refine .inr ⟨?_, hopenedAt, ?_⟩
      · simp [RpcWorld.event, BreakerEvent.opens, BreakerOp.apply, BreakerOp.applyWith, hsame]
      · cases hstate : world.breaker.state with
        | closed => exact .closed hstate (hsame.trans hstate)
        | opened => exact .blocks hstate (hsame.trans hstate) rfl
        | halfOpen =>
          have hafter : (world.event .recordFailure).after.state = .halfOpen := hsame.trans hstate
          exact .tested hstate (by rw [hafter]; decide) rfl

/-! ### Runs -/

theorem lastOpening_append : lastOpening (log ++ [e]) = if e.opens then some e.now else lastOpening log := by
  simp only [lastOpening, List.foldl_append, List.foldl_cons, List.foldl_nil]

theorem probes_append :
    probes (log ++ [e]) = if e.after.state = .halfOpen then probes log + e.admits.toNat else 0 := by
  simp only [probes, List.foldl_append, List.foldl_cons, List.foldl_nil]

theorem BreakerGuards.append (h : BreakerGuards log)
    (hcool : e.admits = true → ∀ openedAt, lastOpening log = some openedAt →
      openedAt.toNat + CircuitBreaker.cooldownSecs.toNat ≤ e.now.toNat)
    (hprobe : probes (log ++ [e]) ≤ 1) : BreakerGuards (log ++ [e]) := by
  constructor
  · intro before e' after openedAt hlog hadmits hlast
    rcases concat_eq_append_cons hlog with ⟨rfl, rfl, -⟩ | ⟨after, -, rfl⟩
    · exact hcool hadmits openedAt hlast
    · exact h.cooldown before e' after openedAt rfl hadmits hlast
  · intro before after hlog
    rcases List.eq_nil_or_concat' after with rfl | ⟨after, last, rfl⟩
    · rw [List.append_nil] at hlog
      rw [← hlog]
      exact hprobe
    · rw [← List.append_assoc] at hlog
      obtain ⟨rfl, -⟩ := List.append_inj' hlog rfl
      exact h.probe before after rfl

/-- What holds of the breaker and its log in every guarded run. -/
structure GuardInvariant (clock : ℕ → U64) (world : RpcWorld α) : Prop where
  /-- The clock. -/
  clock : world.clock = clock
  /-- The breaker keeps the time of the last opening. -/
  openedAt : ∀ openedAt, lastOpening world.log = some openedAt → world.breaker.openedAt = openedAt
  /-- When it is not open, the cooldown has elapsed. -/
  elapsed : world.breaker.state ≠ .opened → ∀ openedAt, lastOpening world.log = some openedAt →
    openedAt.toNat + CircuitBreaker.cooldownSecs.toNat ≤ world.now.toNat
  /-- There are no probes but while it is half-open. -/
  probes : world.breaker.state ≠ .halfOpen → probes world.log = 0
  /-- It guards the service. -/
  guards : BreakerGuards world.log

/-- A step that does not open the breaker: where it admits a request, or leaves the breaker not
open, the cooldown has elapsed, and there is at most one probe. -/
theorem guards_of_keepsShut {clock : ℕ → U64} (h : GuardInvariant clock world)
    (hshut : KeepsShut (world.event op)) :
    ((world.event op).admits = true ∨ (world.event op).after.state ≠ .opened →
      ∀ openedAt, lastOpening world.log = some openedAt →
        openedAt.toNat + CircuitBreaker.cooldownSecs.toNat ≤ world.now.toNat) ∧
      probes (world.log ++ [world.event op]) ≤ 1 ∧
      ((world.event op).after.state ≠ .halfOpen → probes (world.log ++ [world.event op]) = 0) := by
  have hzero : (world.event op).after.state ≠ .halfOpen → probes (world.log ++ [world.event op]) = 0 := by
    intro hafter
    rw [probes_append, if_neg hafter]
  cases hshut with
  | tests hbefore hafter hadmits hcool =>
    refine ⟨fun _ openedAt hlast => h.openedAt openedAt hlast ▸ hcool, ?_, hzero⟩
    have hnone : probes world.log = 0 :=
      h.probes (by rw [show world.breaker.state = .opened from hbefore]; decide)
    rw [probes_append, if_pos hafter, hadmits, hnone]
    decide
  | closed hbefore hafter =>
    have hne : (world.event op).after.state ≠ .halfOpen := by rw [hafter]; decide
    refine ⟨fun _ => h.elapsed ?_, ?_, hzero⟩
    · rw [show world.breaker.state = .closed from hbefore]
      decide
    · rw [hzero hne]
      exact Nat.zero_le _
  | tested hbefore hafter hadmits =>
    refine ⟨fun _ => h.elapsed ?_, ?_, hzero⟩
    · rw [show world.breaker.state = .halfOpen from hbefore]
      decide
    · rw [probes_append, hadmits]
      split
      · exact h.guards.probe world.log [] (List.append_nil _).symm
      · exact Nat.zero_le _
  | blocks hbefore hafter hadmits =>
    have hne : (world.event op).after.state ≠ .halfOpen := by rw [hafter]; decide
    refine ⟨?_, ?_, hzero⟩
    · rintro (hadmits' | hafter')
      · rw [hadmits] at hadmits'
        cases hadmits'
      · exact absurd hafter hafter'
    · rw [hzero hne]
      exact Nat.zero_le _

/-- **A guarded step keeps the guards.** -/
theorem guardInvariant_afterBreaker {clock : ℕ → U64} (hclock : MonotoneClock clock)
    (h : GuardInvariant clock world)
    (hguarded : Guarded world.breaker op) : GuardInvariant clock (world.afterBreaker op) := by
  have hnow : world.now.toNat ≤ (world.afterBreaker op).now.toNat :=
    now_le_afterBreaker world (h.clock ▸ hclock) op
  have hlog : (world.afterBreaker op).log = world.log ++ [world.event op] := rfl
  have hbreaker : (world.afterBreaker op).breaker = (world.event op).after := rfl
  rcases guarded_event hguarded with ⟨hopens, hadmits, hopenedAt, hopened⟩ | ⟨hopens, hopenedAt, hshut⟩
  · -- It opens now: the cooldown starts, and there is no probe.
    have hprobes : probes (world.log ++ [world.event op]) = 0 := by
      rw [probes_append, hopened]
      rfl
    refine ⟨h.clock, ?_, ?_, fun _ => hlog ▸ hprobes, ?_⟩
    · intro openedAt hlast
      rw [hlog, lastOpening_append, hopens] at hlast
      cases hlast
      exact hopenedAt
    · intro hshut
      exact absurd hopened hshut
    · exact h.guards.append (by simp [hadmits]) (hprobes ▸ Nat.zero_le _)
  · have hlast : lastOpening (world.afterBreaker op).log = lastOpening world.log := by
      rw [hlog, lastOpening_append, hopens]
      rfl
    obtain ⟨helapsed, hone, hzero⟩ := guards_of_keepsShut h hshut
    refine ⟨h.clock, ?_, ?_, hzero, h.guards.append (fun hadmits => helapsed (.inl hadmits)) hone⟩
    · intro openedAt hopened
      rw [hlast] at hopened
      rw [hbreaker, hopenedAt, h.openedAt openedAt hopened]
    · intro hafter openedAt hopened
      rw [hlast] at hopened
      exact Nat.le_trans (helapsed (.inr hafter) openedAt hopened) hnow

variable [DecidableEq ι] {p : RpcPool α ι} {clock : ℕ → U64} {outcomes : ℕ → Outcome α}

/-- **The breaker guards the service** in every run of concurrent calls whose steps are none of
the two that get around it. -/
theorem breaker_guards (timeoutSecs : U64) (hclock : MonotoneClock clock)
    (hr : Pool.Reach rpcHandler StepsGuarded
      (.start (.start clock outcomes) fun _ : ι => executeWithRetry (attemptOnce timeoutSecs)) p) :
    BreakerGuards p.shared.log := by
  refine (hr.invariant (fun p => GuardInvariant clock p.shared) ?_ ?_).guards
  · refine ⟨rfl, by simp [Pool.start, RpcWorld.start, lastOpening],
      by simp [Pool.start, RpcWorld.start, lastOpening],
      fun _ => rfl, ?_, ?_⟩
    · intro before e after _ hlog
      simp [Pool.start, RpcWorld.start] at hlog
    · intro before after hlog
      obtain ⟨rfl, -⟩ := List.append_eq_nil_iff.mp hlog.symm
      exact Nat.zero_le _
  · intro p i op k h hguarded hi
    rw [StepsGuarded, hi] at hguarded
    match op with
    | .inl () => exact ⟨h.clock, h.openedAt, h.elapsed, h.probes, h.guards⟩
    | .inr (.breaker op) => exact guardInvariant_afterBreaker hclock h (hguarded op rfl)
    | .inr (.sleep _) => exact h

/-- Calls that fail at their first fifteen attempts, and succeed from then on. -/
def outage (n : ℕ) : Outcome Unit := if n < 15 then .err "connection refused" else .ok ()

/-- Concurrent calls meanwhile. -/
def outagePool (clock : ℕ → U64) : RpcPool Unit ℕ :=
  .start (.start clock outage) fun _ => executeWithRetry (attemptOnce 10)

/-- The turns of calls that fail, one after another. -/
def failing (calls : List ℕ) : List ℕ := calls.flatMap fun i => List.replicate 7 i

/-- Five calls fail, and the next one is not admitted. -/
theorem outage_guarded : BreakerGuards
    ((outagePool fun _ => 0).runSchedule rpcHandler (failing [1, 2, 3, 4, 5] ++ [6])).shared.log :=
  breaker_guards 10 (monotone_const 0) (Pool.reach_of_admits (by decide))

/-- **The breaker is bypassed**: a request that was admitted before five others fail succeeds
after them, and the next one is admitted at once; thirty seconds after five failures, two
requests are admitted to the half-open breaker. -/
theorem breaker_bypassed :
    (MonotoneClock (fun _ => 0) ∧ ∃ p, Pool.Reach rpcHandler Pool.AnyStep (outagePool fun _ => 0) p ∧
        ¬ BreakerGuards p.shared.log) ∧
      MonotoneClock (fun n => if n < 10 then 0 else 30) ∧
        ∃ p, Pool.Reach rpcHandler Pool.AnyStep (outagePool fun n => if n < 10 then 0 else 30) p ∧
          ¬ BreakerGuards p.shared.log := by
  refine ⟨⟨monotone_const 0, _, Pool.reach_runSchedule (0 :: failing [1, 2, 3, 4, 5] ++ [0, 0, 6]) _, ?_⟩,
    monotone_jump 10 (by decide), _, Pool.reach_runSchedule (failing [1, 2, 3, 4, 5] ++ [6, 7]) _, ?_⟩
  · intro hguards
    have hcooldown := hguards.cooldown
      ((outagePool fun _ => 0).runSchedule rpcHandler (0 :: failing [1, 2, 3, 4, 5] ++ [0, 0])).shared.log
      ⟨.shouldAllowRequest, 0, ⟨.closed, 0, 0⟩, ⟨.closed, 0, 0⟩, true⟩ [] 0
      (by decide) rfl (by decide)
    exact absurd hcooldown (by decide)
  · intro hguards
    have hprobes := hguards.probe _ [] (List.append_nil _).symm
    exact absurd hprobes (by decide)

end Botmev.Hyperliquid
