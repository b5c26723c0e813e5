import Botmev.Hyperliquid.BreakerRace
import Mathlib.Data.List.Induction

/-!
# The circuit breaker and the clock

The breaker takes its times from the clock of the system, which may be set back. An open breaker
subtracts the time at which it opened from that of the request, without asking which is the later one.
Where it is not the request's, the subtraction panics, in a build with overflow checks; in one without,
as the release build is, it wraps around, and the request is admitted at once.

Each method is one step, at one reading of the clock. The readings are any seconds since the epoch, in
any order.

## What is proved

* `lastOpening_runCalls`: an open breaker keeps the reading at which it was opened last.
* `shouldAllow_before_opening`: what an earlier reading does.
* `time_safe_iff`: for which runs the arithmetic is right.
* `exists_runCalls`: concurrent calls run the breaker in the same way.
* `time_safe_of_monotone`: while the clock does not go back the arithmetic is right.
-/

namespace Botmev.Hyperliquid

open Botmev.Rust Botmev.Library

namespace BreakerOp

variable (overflowChecks : Bool) (now : U64)

/-- What they subtract, if they do. -/
def elapsed : BreakerOp → CircuitBreaker → Option (Result U64)
  | .shouldAllowRequest, breaker =>
    if breaker.state = .opened then some (Uint.subIn overflowChecks now breaker.openedAt) else none
  | .recordSuccess, _ | .recordFailure, _ => none

/-- Whether they panic by an underflow. -/
def underflows : (op : BreakerOp) → op.Reply → Bool
  | .shouldAllowRequest, .error (.panic message) => message == "attempt to subtract with overflow"
  | .recordFailure, .error (.panic message) => message == "attempt to subtract with overflow"
  | _, _ => false

end BreakerOp

/-! ### Runs -/

/-- A call of a method, and what the clock says. -/
structure BreakerCall where
  op : BreakerOp
  now : U64

/-- A step of the breaker, with its arithmetic. -/
structure ClockedEvent extends BreakerEvent where
  /-- What it subtracts, if it does. -/
  elapsed : Option (Result U64)
  /-- Whether it panics by an underflow. -/
  underflows : Bool
  deriving DecidableEq

/-- The breaker, and its steps so far. -/
structure ClockedBreaker where
  breaker : CircuitBreaker
  log : List ClockedEvent

namespace ClockedBreaker

variable (overflowChecks : Bool)

/-- A step, as it is logged. -/
def event (s : ClockedBreaker) (call : BreakerCall) : ClockedEvent where
  op := call.op
  now := call.now
  before := s.breaker
  after := (call.op.applyWith overflowChecks call.now s.breaker).2
  admits := call.op.admits (call.op.applyWith overflowChecks call.now s.breaker).1
  elapsed := call.op.elapsed overflowChecks call.now s.breaker
  underflows := call.op.underflows (call.op.applyWith overflowChecks call.now s.breaker).1

/-- After a step. -/
def call (s : ClockedBreaker) (call : BreakerCall) : ClockedBreaker where
  breaker := (s.event overflowChecks call).after
  log := s.log ++ [s.event overflowChecks call]

/-- After some calls. -/
def runCalls (calls : List BreakerCall) : ClockedBreaker :=
  calls.foldl (fun s call => s.call overflowChecks call) ⟨.new, []⟩

/-- When it was opened last. -/
def lastOpening (log : List ClockedEvent) : Option U64 :=
  Hyperliquid.lastOpening (log.map ClockedEvent.toBreakerEvent)

end ClockedBreaker

/-- **The arithmetic of the times is right**: nothing underflows, and the open breaker admits no request
before the cooldown has elapsed. -/
structure TimeSafe (log : List ClockedEvent) : Prop where
  /-- No method panics. -/
  noPanic : ∀ e ∈ log, e.underflows = false
  /-- What is subtracted is the difference. -/
  exact : ∀ e ∈ log, ∀ elapsed ∈ e.elapsed, ∃ secs, elapsed = .ok secs ∧
    secs.toNat + e.before.openedAt.toNat = e.now.toNat
  /-- The cooldown has elapsed since the reading at which it was opened last. -/
  cooldown : ∀ before e after, log = before ++ e :: after → e.before.state = .opened → e.admits = true →
    ∃ openedAt, ClockedBreaker.lastOpening before = some openedAt ∧
      openedAt.toNat + CircuitBreaker.cooldownSecs.toNat ≤ e.now.toNat

/-- The step does not ask the open breaker at a reading before the one that it keeps. -/
def ReadsForward (e : ClockedEvent) : Prop :=
  e.op = .shouldAllowRequest → e.before.state = .opened → e.before.openedAt ≤ e.now

instance (e : ClockedEvent) : Decidable (ReadsForward e) := inferInstanceAs (Decidable (_ → _ → _))

variable {overflowChecks : Bool} {breaker : CircuitBreaker} {s : ClockedBreaker} {c : BreakerCall}
  {calls : List BreakerCall} {log : List ClockedEvent} {e : ClockedEvent} {now : U64}

/-! ### One step -/

/-- **A reading before the one that the open breaker keeps**: the request panics, or is admitted but for
the differences that are less than the cooldown after they have wrapped around. -/
theorem shouldAllow_before_opening (hopened : breaker.state = .opened) (hearlier : now < breaker.openedAt) :
    breaker.shouldAllowRequestWith true now = (.error (.panic "attempt to subtract with overflow"), breaker) ∧
      (breaker.openedAt.toNat + CircuitBreaker.cooldownSecs.toNat ≤ now.toNat + 2 ^ 64 →
        breaker.shouldAllowRequestWith false now = (.ok true, { breaker with state := .halfOpen })) := by
  have hnot : ¬ breaker.openedAt ≤ now := BitVec.not_le.mpr hearlier
  constructor
  · simp [CircuitBreaker.shouldAllowRequestWith, hopened, Uint.subIn, Uint.sub, if_neg hnot]
  · intro hwraps
    have hcool : CircuitBreaker.cooldownSecs ≤ now - breaker.openedAt := by
      rw [BitVec.lt_def] at hearlier
      rw [BitVec.le_def, BitVec.toNat_sub]
      have hlt := breaker.openedAt.isLt
      rw [Nat.mod_eq_of_lt (by omega)]
      omega
    simp [CircuitBreaker.shouldAllowRequestWith, hopened, Uint.subIn, hcool]

theorem underflows_recordFailureWith (breaker : CircuitBreaker) (now : U64) :
    BreakerOp.underflows .recordFailure (breaker.recordFailureWith overflowChecks now).1 = false := by
  rw [CircuitBreaker.recordFailureWith]
  split
  · rename_i failure hadd
    cases overflowChecks with
    | false => cases hadd
    | true =>
      simp only [Uint.addIn, if_true, Uint.add] at hadd
      split at hadd
      · cases hadd
      · cases hadd
        rfl
  · split
    · split <;> rfl
    · rfl
    · rfl

/-- **A step at a later reading**, or of a breaker that is not open: its arithmetic is right. -/
theorem event_safe (h : ReadsForward (s.event overflowChecks c)) :
    (s.event overflowChecks c).underflows = false ∧
      (∀ elapsed ∈ (s.event overflowChecks c).elapsed, ∃ secs, elapsed = .ok secs ∧
        secs.toNat + s.breaker.openedAt.toNat = c.now.toNat) ∧
      (s.breaker.state = .opened → (s.event overflowChecks c).admits = true →
        s.breaker.openedAt.toNat + CircuitBreaker.cooldownSecs.toNat ≤ c.now.toNat) := by
  obtain ⟨op, now⟩ := c
  cases op with
  | shouldAllowRequest =>
    by_cases hopened : s.breaker.state = .opened
    · have hle : s.breaker.openedAt ≤ now := h rfl hopened
      have hreply : BreakerOp.applyWith overflowChecks now .shouldAllowRequest s.breaker = _ :=
        shouldAllow_opened hopened hle
      have helapsed : BreakerOp.elapsed overflowChecks now .shouldAllowRequest s.breaker =
          some (.ok (now - s.breaker.openedAt)) := by
        rw [BreakerOp.elapsed, if_pos hopened, Uint.subIn_of_le hle]
      refine ⟨?_, ?_, fun _ hadmits => ?_⟩
      · simp only [ClockedBreaker.event, hreply]
        split <;> rfl
      · simp only [ClockedBreaker.event, helapsed, Option.mem_some_iff, forall_eq']
        refine ⟨_, rfl, ?_⟩
        rw [BitVec.toNat_sub_of_le hle]
        exact Nat.sub_add_cancel (BitVec.le_def.mp hle)
      · by_contra hcool
        simp [ClockedBreaker.event, hreply, hcool, BreakerOp.admits] at hadmits
    · have hreply : BreakerOp.applyWith overflowChecks now .shouldAllowRequest s.breaker = (.ok true, s.breaker) := by
        simp only [BreakerOp.applyWith, CircuitBreaker.shouldAllowRequestWith]
        split
        · rfl
        · rename_i hstate
          exact absurd hstate hopened
        · rfl
      refine ⟨?_, ?_, fun hstate => absurd hstate hopened⟩
      · simp only [ClockedBreaker.event, hreply]
        rfl
      · simp [ClockedBreaker.event, BreakerOp.elapsed, hopened]
  | recordSuccess =>
    refine ⟨rfl, ?_, fun _ hadmits => ?_⟩
    · rintro _ ⟨⟩
    · cases hadmits
  | recordFailure =>
    refine ⟨underflows_recordFailureWith s.breaker now, ?_, fun _ hadmits => ?_⟩
    · rintro _ ⟨⟩
    · cases hadmits

/-- **Where the arithmetic is right**, the reading is a later one. -/
theorem readsForward_of_exact (h : ∀ elapsed ∈ (s.event overflowChecks c).elapsed, ∃ secs, elapsed = .ok secs ∧
    secs.toNat + s.breaker.openedAt.toNat = c.now.toNat) : ReadsForward (s.event overflowChecks c) := by
  obtain ⟨op, now⟩ := c
  rintro ⟨⟩ hopened
  have helapsed : (s.event overflowChecks ⟨.shouldAllowRequest, now⟩).elapsed =
      some (Uint.subIn overflowChecks now s.breaker.openedAt) := if_pos hopened
  obtain ⟨secs, -, hsum⟩ := h _ helapsed
  show s.breaker.openedAt ≤ now
  rw [BitVec.le_def]
  exact Nat.le.intro ((Nat.add_comm _ _).trans hsum)

theorem shouldAllowRequestWith_cases (breaker : CircuitBreaker) (now : U64) :
    (breaker.shouldAllowRequestWith overflowChecks now).2 = breaker ∨
      (breaker.shouldAllowRequestWith overflowChecks now).2.state = .halfOpen := by
  rw [CircuitBreaker.shouldAllowRequestWith]
  split
  · exact .inl rfl
  · split
    · split
      · exact .inr rfl
      · exact .inl rfl
    · exact .inl rfl
  · exact .inl rfl

theorem state_recordSuccess (breaker : CircuitBreaker) : breaker.recordSuccess.state = .closed := by
  rw [CircuitBreaker.recordSuccess]
  split
  · assumption
  · rfl
  · rfl

/-- A step opens the breaker at the reading of the clock, or it is open as it was before, or not open. -/
theorem event_opening (s : ClockedBreaker) (c : BreakerCall) :
    ((s.event overflowChecks c).opens = true ∧ (s.event overflowChecks c).after.openedAt = c.now) ∨
      ((s.event overflowChecks c).opens = false ∧
        ((s.event overflowChecks c).after.state = .opened → s.breaker.state = .opened ∧
          (s.event overflowChecks c).after.openedAt = s.breaker.openedAt)) := by
  -- What stays open was not opened by the step.
  have hkept : (s.event overflowChecks c).after.state = s.breaker.state →
      (s.event overflowChecks c).opens = false := by
    intro hstate
    have hbefore : (s.event overflowChecks c).before = s.breaker := rfl
    rw [BreakerEvent.opens, hstate, hbefore]
    cases s.breaker.state <;> rfl
  have hshut : (s.event overflowChecks c).after.state ≠ .opened → (s.event overflowChecks c).opens = false := by
    intro hstate
    simp [BreakerEvent.opens, hstate]
  obtain ⟨op, now⟩ := c
  cases op with
  | shouldAllowRequest =>
    rcases shouldAllowRequestWith_cases s.breaker now with hsame | hhalf
    · refine .inr ⟨hkept (congrArg _ hsame), fun hopened => ⟨?_, congrArg _ hsame⟩⟩
      exact (congrArg CircuitBreaker.state hsame).symm.trans hopened
    · have hne : (s.event overflowChecks ⟨.shouldAllowRequest, now⟩).after.state ≠ .opened :=
        fun hopened => CircuitBreakerState.noConfusion (hhalf.symm.trans hopened)
      exact .inr ⟨hshut hne, fun hopened => absurd hopened hne⟩
  | recordSuccess =>
    have hne : (s.event overflowChecks ⟨.recordSuccess, now⟩).after.state ≠ .opened :=
      fun hopened => CircuitBreakerState.noConfusion ((state_recordSuccess s.breaker).symm.trans hopened)
    exact .inr ⟨hshut hne, fun hopened => absurd hopened hne⟩
  | recordFailure =>
    rcases recordFailureWith_cases s.breaker now with
      ⟨hshut', hopened, hnow⟩ | ⟨hsame, hopenedAt⟩
    · refine .inl ⟨?_, hnow⟩
      have hafter : (s.event overflowChecks ⟨.recordFailure, now⟩).after.state = .opened := hopened
      have hbefore : (s.event overflowChecks ⟨.recordFailure, now⟩).before.state ≠ .opened := hshut'
      simp [BreakerEvent.opens, hafter, hbefore]
    · exact .inr ⟨hkept hsame, fun hopened => ⟨hsame.symm.trans hopened, hopenedAt⟩⟩

/-! ### Runs -/

namespace ClockedBreaker

theorem runCalls_concat (calls : List BreakerCall) (c : BreakerCall) :
    runCalls overflowChecks (calls ++ [c]) = (runCalls overflowChecks calls).call overflowChecks c := by
  simp [runCalls]

theorem lastOpening_concat (log : List ClockedEvent) (e : ClockedEvent) :
    lastOpening (log ++ [e]) = if e.opens then some e.now else lastOpening log := by
  rw [lastOpening, List.map_append, List.map_singleton, lastOpening_append, lastOpening]

/-- **An open breaker keeps the reading at which it was opened last.** -/
theorem lastOpening_runCalls (calls : List BreakerCall)
    (hopened : (runCalls overflowChecks calls).breaker.state = .opened) :
    lastOpening (runCalls overflowChecks calls).log =
      some (runCalls overflowChecks calls).breaker.openedAt := by
  induction calls using List.reverseRecOn with
  | nil => cases hopened
  | append_singleton calls c ih =>
    rw [runCalls_concat] at hopened ⊢
    have hlog : ((runCalls overflowChecks calls).call overflowChecks c).log =
        (runCalls overflowChecks calls).log ++ [(runCalls overflowChecks calls).event overflowChecks c] := rfl
    have hbreaker : ((runCalls overflowChecks calls).call overflowChecks c).breaker =
        ((runCalls overflowChecks calls).event overflowChecks c).after := rfl
    rw [hbreaker] at hopened
    rw [hlog, hbreaker, lastOpening_concat]
    rcases event_opening (runCalls overflowChecks calls) c with
      ⟨hopens, hnow⟩ | ⟨hopens, hstays⟩
    · rw [hopens, if_pos rfl, hnow]
      rfl
    · obtain ⟨hbefore, hopenedAt⟩ := hstays hopened
      rw [hopens, if_neg Bool.false_ne_true, hopenedAt]
      exact ih hbefore

end ClockedBreaker

theorem TimeSafe.concat (h : TimeSafe log) (hpanic : e.underflows = false)
    (hexact : ∀ elapsed ∈ e.elapsed, ∃ secs, elapsed = .ok secs ∧
      secs.toNat + e.before.openedAt.toNat = e.now.toNat)
    (hcool : e.before.state = .opened → e.admits = true → ∃ openedAt,
      ClockedBreaker.lastOpening log = some openedAt ∧
        openedAt.toNat + CircuitBreaker.cooldownSecs.toNat ≤ e.now.toNat) : TimeSafe (log ++ [e]) := by
  refine ⟨?_, ?_, ?_⟩
  · intro e' hmem
    rcases List.mem_append.mp hmem with hmem | hmem
    · exact h.noPanic e' hmem
    · rw [List.mem_singleton.mp hmem]
      exact hpanic
  · intro e' hmem
    rcases List.mem_append.mp hmem with hmem | hmem
    · exact h.exact e' hmem
    · rw [List.mem_singleton.mp hmem]
      exact hexact
  · intro before e' after hlog hopened hadmits
    rcases concat_eq_append_cons hlog with ⟨rfl, rfl, -⟩ | ⟨after, -, rfl⟩
    · exact hcool hopened hadmits
    · exact h.cooldown before e' after rfl hopened hadmits

/-- **Readings that go forward** while the breaker is open: the arithmetic is right in the whole run. -/
theorem timeSafe_of_readsForward (calls : List BreakerCall)
    (h : ∀ e ∈ (ClockedBreaker.runCalls overflowChecks calls).log, ReadsForward e) :
    TimeSafe (ClockedBreaker.runCalls overflowChecks calls).log := by
  induction calls using List.reverseRecOn with
  | nil =>
    refine ⟨fun _ hmem => ?_, fun _ hmem => ?_, fun before _ after hlog => ?_⟩
    · cases hmem
    · cases hmem
    · exact absurd hlog.symm (List.append_ne_nil_of_right_ne_nil before (List.cons_ne_nil _ after))
  | append_singleton calls c ih =>
    have hlog : (ClockedBreaker.runCalls overflowChecks (calls ++ [c])).log =
        (ClockedBreaker.runCalls overflowChecks calls).log ++
          [(ClockedBreaker.runCalls overflowChecks calls).event overflowChecks c] := by
      rw [ClockedBreaker.runCalls_concat]
      rfl
    rw [hlog] at h ⊢
    obtain ⟨hpanic, hexact, hcool⟩ := event_safe (h _ (List.mem_append_right _ (List.mem_singleton_self _)))
    refine (ih fun e hmem => h e (List.mem_append_left _ hmem)).concat hpanic hexact fun hopened hadmits => ?_
    exact ⟨_, ClockedBreaker.lastOpening_runCalls calls hopened, hcool hopened hadmits⟩

theorem exists_event_of_mem (calls : List BreakerCall)
    (hmem : e ∈ (ClockedBreaker.runCalls overflowChecks calls).log) :
    ∃ s c, e = ClockedBreaker.event overflowChecks s c := by
  induction calls using List.reverseRecOn with
  | nil => cases hmem
  | append_singleton calls c ih =>
    rw [ClockedBreaker.runCalls_concat] at hmem
    rcases List.mem_append.mp hmem with hmem | hmem
    · exact ih hmem
    · exact ⟨_, c, List.mem_singleton.mp hmem⟩

theorem readsForward_of_timeSafe (calls : List BreakerCall)
    (h : TimeSafe (ClockedBreaker.runCalls overflowChecks calls).log)
    (hmem : e ∈ (ClockedBreaker.runCalls overflowChecks calls).log) : ReadsForward e := by
  have hexact := h.exact e hmem
  obtain ⟨s, c, rfl⟩ := exists_event_of_mem calls hmem
  exact readsForward_of_exact hexact

/-- **The arithmetic of a run is right** just where no request asks the open breaker at a reading before
the one at which it opened, in either build. -/
theorem time_safe_iff (overflowChecks : Bool) (calls : List BreakerCall) :
    TimeSafe (ClockedBreaker.runCalls overflowChecks calls).log ↔
      ∀ e ∈ (ClockedBreaker.runCalls overflowChecks calls).log, ReadsForward e :=
  ⟨fun h _ hmem => readsForward_of_timeSafe calls h hmem, timeSafe_of_readsForward calls⟩

/-- Five failures, and a request at the second before. -/
def setBack : List BreakerCall := List.replicate 5 ⟨.recordFailure, 1000⟩ ++ [⟨.shouldAllowRequest, 999⟩]

/-- **The clock is set back** by a second: the request panics, and without overflow checks it is admitted
at once. -/
theorem set_back_unsafe :
    (∃ e ∈ (ClockedBreaker.runCalls true setBack).log, e.underflows = true) ∧
      (∃ e ∈ (ClockedBreaker.runCalls false setBack).log, e.before.state = .opened ∧ e.admits = true ∧
        e.before.openedAt = 1000 ∧ e.now = 999) ∧
      ¬ TimeSafe (ClockedBreaker.runCalls true setBack).log ∧
      ¬ TimeSafe (ClockedBreaker.runCalls false setBack).log := by
  refine ⟨by decide, by decide, fun h => ?_, fun h => ?_⟩
  · have hall : ∀ e ∈ (ClockedBreaker.runCalls true setBack).log, ReadsForward e :=
      fun _ hmem => readsForward_of_timeSafe setBack h hmem
    exact absurd hall (by decide)
  · have hall : ∀ e ∈ (ClockedBreaker.runCalls false setBack).log, ReadsForward e :=
      fun _ hmem => readsForward_of_timeSafe setBack h hmem
    exact absurd hall (by decide)

/-! ### Concurrent calls -/

variable {α ι : Type} [DecidableEq ι] {p : RpcPool α ι}

theorem call_afterBreaker (world : RpcWorld α) (op : BreakerOp) (hbreaker : world.breaker = s.breaker) :
    (s.call true ⟨op, world.now⟩).breaker = (world.afterBreaker op).breaker ∧
      (s.event true ⟨op, world.now⟩).toBreakerEvent = world.event op := by
  simp only [ClockedBreaker.call, ClockedBreaker.event, RpcWorld.afterBreaker, RpcWorld.event,
    hbreaker, and_self]

/-- **Concurrent calls** of the service run the breaker so, in whatever order their steps come. -/
theorem exists_runCalls {clock : ℕ → U64} {outcomes : ℕ → Outcome α} {programs : ι → RetryM (AttemptI α) α}
    (hr : Pool.Reach rpcHandler Pool.AnyStep (.start (.start clock outcomes) programs) p) :
    ∃ calls, p.shared.breaker = (ClockedBreaker.runCalls true calls).breaker ∧
      p.shared.log = (ClockedBreaker.runCalls true calls).log.map ClockedEvent.toBreakerEvent := by
  refine hr.invariant (fun p => ∃ calls, p.shared.breaker = (ClockedBreaker.runCalls true calls).breaker ∧
    p.shared.log = (ClockedBreaker.runCalls true calls).log.map ClockedEvent.toBreakerEvent) ?_ ?_
  · exact ⟨[], rfl, rfl⟩
  · rintro p i op k ⟨calls, hbreaker, hlog⟩ - -
    match op with
    | .inl () => exact ⟨calls, hbreaker, hlog⟩
    | .inr (.breaker op) =>
      obtain ⟨hcall, hevent⟩ := call_afterBreaker p.shared op hbreaker
      refine ⟨calls ++ [⟨op, p.shared.now⟩], ?_, ?_⟩
      · rw [ClockedBreaker.runCalls_concat, hcall]
        rfl
      · rw [ClockedBreaker.runCalls_concat, ClockedBreaker.call, List.map_append, List.map_singleton, hevent, ← hlog]
        rfl
    | .inr (.sleep _) => exact ⟨calls, hbreaker, hlog⟩

/-! ### A clock that does not go back -/

namespace ClockedBreaker

theorem now_runCalls (calls : List BreakerCall) :
    (runCalls overflowChecks calls).log.map (·.now) = calls.map BreakerCall.now := by
  induction calls using List.reverseRecOn with
  | nil => rfl
  | append_singleton calls c ih =>
    rw [runCalls_concat, List.map_append, ← ih]
    simp [call, event]

theorem mem_of_lastOpening (h : lastOpening log = some now) : now ∈ log.map (·.now) := by
  induction log using List.reverseRecOn with
  | nil => cases h
  | append_singleton log e ih =>
    rw [lastOpening_concat] at h
    rw [List.map_append, List.mem_append]
    split at h
    · cases h
      exact .inr (List.mem_singleton_self _)
    · exact .inl (ih h)

end ClockedBreaker

/-- **While the clock does not go back**, the arithmetic is right. -/
theorem time_safe_of_monotone (overflowChecks : Bool) {calls : List BreakerCall}
    (hclock : (calls.map BreakerCall.now).Pairwise (· ≤ ·)) :
    TimeSafe (ClockedBreaker.runCalls overflowChecks calls).log := by
  apply timeSafe_of_readsForward
  induction calls using List.reverseRecOn with
  | nil =>
    intro _ hmem
    cases hmem
  | append_singleton calls c ih =>
    rw [List.map_append, List.pairwise_append] at hclock
    intro e hmem
    rw [ClockedBreaker.runCalls_concat] at hmem
    rcases List.mem_append.mp hmem with hmem | hmem
    · exact ih hclock.1 e hmem
    · rw [List.mem_singleton.mp hmem]
      intro _ hopened
      have hlast := ClockedBreaker.mem_of_lastOpening (ClockedBreaker.lastOpening_runCalls calls hopened)
      rw [ClockedBreaker.now_runCalls] at hlast
      exact hclock.2.2 _ hlast _ (List.mem_singleton_self _)

end Botmev.Hyperliquid
