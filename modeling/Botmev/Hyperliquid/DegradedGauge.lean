import Botmev.Hyperliquid.Reconnection
import Mathlib.Data.List.Infix

/-!
# The gauge of the degraded state

The loop of `HyperLiquidWsService::start` (`mev-hyperliquid/src/websocket.rs`): it connects, records
how the connection ended, and waits before it connects again. It also writes the metric of the
degraded state. With a failure it looks whether the state has become degraded, which is kept from
before. With a connection that was closed it looks whether the state is degraded after the success was
recorded, and by then it never is.

## What is proved

* `not_writesOnClose`: a connection that is closed never writes the metric.
* `gauge_iterate`: what one time around the loop does to the metric and the state.
* `gauge_follows_iff`: in a run, the metric always follows the state just if no connection is closed
  gracefully in the degraded state.
* `gauge_stays`: three failures and a close.
-/

namespace Botmev.Hyperliquid

open Botmev.Rust Botmev.Library

/-- What comes of "Attempt to connect and run", and what the clock says when it is recorded. -/
inductive ConnectionOutcome where
  /-- "WebSocket connection closed gracefully". -/
  | closed (now later : Instant)
  /-- "WebSocket connection error". -/
  | failed (now : Instant)

/-- It was closed gracefully. -/
def ConnectionOutcome.isClosed : ConnectionOutcome → Bool
  | .closed .. => true
  | .failed _ => false

/-- What one time around the loop meets. -/
structure Iteration where
  /-- The time of the warning. -/
  warned : Instant
  /-- What comes of the connection. -/
  outcome : ConnectionOutcome
  /-- Whether the flag is set by then: "Don't reconnect if shutting down". -/
  shuttingDown : Bool

/-- The service as far as the loop keeps it. -/
structure Reconnecting where
  /-- `reconnection_state`. -/
  state : ReconnectionState
  /-- What was last written to the metric of the degraded state. -/
  gauge : Bool
  /-- `total_reconnection_attempts`. -/
  attempts : BitVec 32
  /-- Whether the loop has seen the flag. -/
  stopped : Bool

namespace Reconnecting

/-- The service when it is made: the metric is written there, too. -/
def new (now : Instant) : Reconnecting where
  state := .new now
  gauge := false
  attempts := 0
  stopped := false

/-- "Update degraded state metric", if that is so. -/
def writeIf (condition value : Bool) (gauge : Bool) : Bool := if condition then value else gauge

variable (config : ReconnectConfig) (service : Reconnecting)

/-- The outcome is recorded. -/
def record : ConnectionOutcome → Result Reconnecting
  | .closed now later =>
    let state := service.state.recordSuccess now later
    -- "if exiting degraded state": looked up in the state as it is now
    pure { service with state, gauge := writeIf state.degraded false service.gauge }
  | .failed now => do
    let wasDegraded := service.state.degraded
    let state ← service.state.recordFailure config.maxConsecutiveFailures now
    pure { service with state, gauge := writeIf (!wasDegraded && state.degraded) true service.gauge }

/-- Once around the loop. -/
def iterate (iteration : Iteration) : Result Reconnecting :=
  if service.stopped then pure service
  else do
    let warned := { service with state := (service.state.shouldLogDegradedWarning iteration.warned).2 }
    let recorded ← warned.record config iteration.outcome
    if iteration.shuttingDown then pure { recorded with stopped := true }
    else do
      let _ ← recorded.state.getBackoff config
      let attempts ← Uint.add recorded.attempts 1
      pure { recorded with attempts }

/-- The loop, from when the service is made. -/
def run (start : Instant) (iterations : List Iteration) : Result Reconnecting :=
  iterations.foldlM (iterate config) (new start)

variable {config} {service} {service' : Reconnecting} {iteration : Iteration} {start : Instant}
  {iterations : List Iteration}

/-! ### Once around the loop -/

@[simp] theorem degraded_warned (now : Instant) :
    (service.state.shouldLogDegradedWarning now).2.degraded = service.state.degraded := by
  unfold ReconnectionState.shouldLogDegradedWarning
  split
  · rfl
  · split
    · rfl
    · split <;> rfl

/-- **A connection that is closed never writes the metric.** -/
theorem not_writesOnClose (now later : Instant) :
    service.record config (.closed now later) =
      .ok { service with state := service.state.recordSuccess now later } := rfl

theorem degraded_of_recordFailure {state state' : ReconnectionState} {maxFailures : BitVec 32} {now : Instant}
    (h : state.recordFailure maxFailures now = .ok state') (hdegraded : state.degraded = true) :
    state'.degraded = true := by
  simp only [ReconnectionState.recordFailure, hdegraded, bind_eq_ok_iff, Bool.true_eq_false, and_false,
    if_false] at h
  obtain ⟨_, -, ⟨rfl⟩⟩ := h
  rfl

theorem record_cases {outcome : ConnectionOutcome} (h : service.record config outcome = .ok service') :
    service'.stopped = service.stopped ∧
      (outcome.isClosed = true ∧ service'.state.degraded = false ∧ service'.gauge = service.gauge ∨
        outcome.isClosed = false ∧ (service.state.degraded = true → service'.state.degraded = true) ∧
          service'.gauge = (service.gauge || !service.state.degraded && service'.state.degraded)) := by
  rcases outcome with ⟨now, later⟩ | ⟨now⟩
  · rw [not_writesOnClose] at h
    cases h
    exact ⟨rfl, .inl ⟨rfl, rfl, rfl⟩⟩
  · obtain ⟨state, hstate, h⟩ := bind_eq_ok_iff.mp h
    cases h
    refine ⟨rfl, .inr ⟨rfl, degraded_of_recordFailure hstate, ?_⟩⟩
    unfold writeIf
    cases service.state.degraded <;> cases state.degraded <;> simp

/-- **Once around the loop**: the outcome is recorded, or the loop had ended before. -/
theorem iterate_cases (h : service.iterate config iteration = .ok service') :
    service.stopped = true ∧ service' = service ∨
      service.stopped = false ∧ ∃ warned recorded : Reconnecting, warned.gauge = service.gauge ∧
        warned.state.degraded = service.state.degraded ∧
        warned.record config iteration.outcome = .ok recorded ∧ service'.gauge = recorded.gauge ∧
        service'.state = recorded.state := by
  unfold iterate at h
  split at h
  · rename_i hstopped
    cases h
    exact .inl ⟨hstopped, rfl⟩
  · rename_i hstopped
    obtain ⟨recorded, hrecorded, h⟩ := bind_eq_ok_iff.mp h
    let warned := { service with state := (service.state.shouldLogDegradedWarning iteration.warned).2 }
    refine .inr ⟨eq_false_of_ne_true hstopped, warned, recorded, rfl, degraded_warned _, hrecorded, ?_⟩
    split at h
    · cases h
      exact ⟨rfl, rfl⟩
    · obtain ⟨_, -, h⟩ := bind_eq_ok_iff.mp h
      obtain ⟨_, -, h⟩ := bind_eq_ok_iff.mp h
      cases h
      exact ⟨rfl, rfl⟩

/-- The metric follows the state. -/
def Follows (service : Reconnecting) : Prop := service.gauge = service.state.degraded

/-- **What one time around the loop does to it**: it goes on to follow, unless a connection is
closed in the degraded state. -/
theorem gauge_iterate (h : service.iterate config iteration = .ok service') (hfollows : service.Follows) :
    service'.Follows ↔
      ¬ (service.stopped = false ∧ service.state.degraded = true ∧ iteration.outcome.isClosed = true) := by
  unfold Follows at hfollows ⊢
  rcases iterate_cases h with
    ⟨hstopped, rfl⟩ | ⟨hstopped, warned, recorded, hgauge, hdegraded, hrecord, hgauge', hstate'⟩
  · simp [hstopped, hfollows]
  · obtain ⟨-, ⟨hcloses, hleft, hkept⟩ | ⟨hcloses, hkeeps, hwritten⟩⟩ := record_cases hrecord
    · -- closed: the state is left, and the metric is not written
      rw [hgauge', hstate', hleft, hkept, hgauge, hfollows]
      simp [hcloses, hstopped]
    · rw [hgauge', hstate', hwritten, hgauge, hfollows]
      rw [hdegraded] at hkeeps ⊢
      rw [hcloses]
      cases hbefore : service.state.degraded
      · simp
      · simp [hkeeps hbefore]

/-! ### Runs -/

theorem exists_of_run_append (h : run config start (iterations ++ [iteration]) = .ok service') :
    ∃ service, run config start iterations = .ok service ∧ service.iterate config iteration = .ok service' := by
  rw [run, List.foldlM_append] at h
  obtain ⟨service, hrun, h⟩ := bind_eq_ok_iff.mp h
  rw [List.foldlM_cons] at h
  obtain ⟨service₁, hiterate, h⟩ := bind_eq_ok_iff.mp h
  cases h
  exact ⟨service, hrun, hiterate⟩

theorem exists_of_isPrefix {before : List Iteration} (hbefore : before <+: iterations)
    (hrun : run config start iterations = .ok service) : ∃ service, run config start before = .ok service := by
  obtain ⟨rest, rfl⟩ := hbefore
  rw [run, List.foldlM_append] at hrun
  obtain ⟨middle, hmiddle, -⟩ := bind_eq_ok_iff.mp hrun
  exact ⟨middle, hmiddle⟩

/-- **The metric follows the state**, each time around the loop, just if no connection is closed
gracefully in the degraded state. -/
theorem gauge_follows_iff (hrun : run config start iterations = .ok service) :
    (∀ before service, before <+: iterations → run config start before = .ok service → service.Follows) ↔
      ∀ before iteration service, before ++ [iteration] <+: iterations → run config start before = .ok service →
        ¬ (service.stopped = false ∧ service.state.degraded = true ∧ iteration.outcome.isClosed = true) := by
  constructor
  · intro hfollows before iteration service hprefix hbefore
    obtain ⟨service', hservice'⟩ := exists_of_isPrefix hprefix hrun
    obtain ⟨service₁, hbefore₁, hiterate⟩ := exists_of_run_append hservice'
    obtain rfl := Except.ok.inj (hbefore.symm.trans hbefore₁)
    rw [← gauge_iterate hiterate (hfollows before service ((List.prefix_append _ _).trans hprefix) hbefore)]
    exact hfollows _ service' hprefix hservice'
  · intro hcloses before
    induction before using List.reverseRecOn with
    | nil =>
      rintro service - ⟨⟩
      rfl
    | append_singleton before iteration ih =>
      intro service' hprefix hservice'
      obtain ⟨service₁, hbefore, hiterate⟩ := exists_of_run_append hservice'
      rw [gauge_iterate hiterate (ih service₁ ((List.prefix_append _ _).trans hprefix) hbefore)]
      exact hcloses before iteration service₁ hprefix hbefore

/-- A configuration that enters the degraded state with the third failure. -/
def sampleReconnectConfig : ReconnectConfig := ⟨1, 60, 3⟩

/-- A failure, and no shutdown. -/
def failure : Iteration := ⟨0, .failed 0, false⟩

/-- A graceful close, and no shutdown. -/
def close : Iteration := ⟨0, .closed 0 0, false⟩

/-- Two failures and a close: the state was not degraded. -/
theorem gauge_follows_two_failures :
    ∃ service, run sampleReconnectConfig 0 [failure, failure, close] = .ok service ∧ service.Follows := by
  have hrun : run sampleReconnectConfig 0 [failure, failure, close] = .ok _ := rfl
  refine ⟨_, hrun, (gauge_follows_iff hrun).mpr ?_ _ _ List.prefix_rfl hrun⟩
  rintro before iteration service hprefix hbefore ⟨-, hdegraded, -⟩
  have hlength := hprefix.length_le
  rw [List.length_append] at hlength
  have htake := List.prefix_iff_eq_take.mp ((List.prefix_append before [iteration]).trans hprefix)
  obtain ⟨n, hn, rfl⟩ : ∃ n ≤ 2, before = [failure, failure, close].take n := ⟨_, Nat.le_of_succ_le_succ hlength, htake⟩
  -- none of the three states before an outcome is degraded
  have hcases : n = 0 ∨ n = 1 ∨ n = 2 := by omega
  rcases hcases with rfl | rfl | rfl <;> cases hbefore <;> cases hdegraded

/-- **The metric stays**: the third failure enters the degraded state, and the close leaves it. -/
theorem gauge_stays :
    ∃ service, run sampleReconnectConfig 0 [failure, failure, failure, close] = .ok service ∧
      service.state.degraded = false ∧ service.gauge = true ∧ ¬ service.Follows := by
  refine ⟨_, rfl, rfl, rfl, ?_⟩
  unfold Follows
  decide

end Reconnecting

end Botmev.Hyperliquid
