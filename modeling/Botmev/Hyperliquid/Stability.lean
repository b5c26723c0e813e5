import Botmev.Hyperliquid.Reconnection

/-!
# The failure count after a stable connection

`record_success` is to "reset failure count if connection was stable for 5 minutes". It first
writes the time of this success over that of the last one and then asks how long ago the time
it has just written was, so what it waits for is five minutes between two lines of its own.

## What is proved

* `failuresSinceReset_of_prompt`: where no success takes that long to record, the count is of
  all the failures there have been.
* `resetsAfterStability_iff`: a run resets the count after each stable connection just when at
  each there was nothing to reset, or the clock moved on by five minutes in between.
* `failures_eq_zero_of_resetsAfterStability`: where no success takes that long to record, one
  failure is enough for it not to be.
* `stable_connection_keeps_count`: by default, a failure is still counted after five minutes
  without one.
-/

namespace Botmev.Hyperliquid

open Botmev.Rust

/-- "Connection was stable for 5 minutes". -/
def stabilityPeriod : ℕ := fromSecs 300

/-- What the clock says at a call, in the order it is read. -/
def Call.readings : Call → List Instant
  | .success now later => [now, later]
  | .failure now => [now]
  | .warning now => [now]

/-- The clock does not go back from the start of the service on. -/
def Nondecreasing (start : Instant) (calls : List Call) : Prop :=
  (start :: calls.flatMap Call.readings).Pairwise (· ≤ ·)

instance (start : Instant) (calls : List Call) : Decidable (Nondecreasing start calls) :=
  inferInstanceAs (Decidable (List.Pairwise _ _))

/-- Whether no failure is recorded after the last success, or at all. -/
def quietSinceSuccess (calls : List Call) : Bool :=
  calls.foldl (fun quiet call =>
    match call with
    | .success _ _ => true
    | .failure _ => false
    | .warning _ => quiet) true

/-- A call of `record_success` in a run, at least five minutes after the last success that is
recorded, without a failure in between. -/
structure StableSuccess (config : ReconnectConfig) (start : Instant) (calls before : List Call)
    (state : ReconnectionState) (now later : Instant) : Prop where
  /-- It is a call of the run. -/
  called : ∃ after, calls = before ++ .success now later :: after
  /-- It is reached in this state. -/
  reached : ReconnectionState.run config start before = .ok state
  /-- The last success is so long ago. -/
  period : state.lastSuccess + stabilityPeriod ≤ now
  /-- No failure is recorded since. -/
  quiet : quietSinceSuccess before = true

/-- **The count is reset after stability**: after each such call it is zero, and the delay is
the minimum again. -/
def ResetsAfterStability (config : ReconnectConfig) (start : Instant) (calls : List Call) : Prop :=
  ∀ before state now later, StableSuccess config start calls before state now later →
    (state.recordSuccess now later).consecutiveFailures = 0 ∧
      (state.recordSuccess now later).getBackoff config = .ok config.minBackoffSecs

variable {config : ReconnectConfig} {state : ReconnectionState} {start now later : Instant}
  {calls : List Call}

/-! ### What a success does -/

/-- After a success the count is zero where it was so before, or where the clock moved on by
five minutes while the success was recorded. -/
theorem consecutiveFailures_recordSuccess_eq_zero_iff :
    (state.recordSuccess now later).consecutiveFailures = 0 ↔
      state.consecutiveFailures = 0 ∨ stabilityPeriod ≤ later - now := by
  simp only [ReconnectionState.recordSuccess, stabilityPeriod]
  split
  next hlong => simp [hlong]
  next hshort => simp [hshort]

/-- With nothing counted the delay after a success is the minimum. -/
theorem getBackoff_recordSuccess (h : (state.recordSuccess now later).consecutiveFailures = 0) :
    (state.recordSuccess now later).getBackoff config = .ok config.minBackoffSecs := by
  have hnormal : (state.recordSuccess now later).degraded = false := rfl
  simp only [ReconnectionState.getBackoff, hnormal, h, Bool.false_eq_true, if_false, if_true]
  rfl

/-! ### The whole run -/

/-- Whether a call is a `record_failure`. -/
def Call.isFailure : Call → Bool
  | .failure _ => true
  | .success _ _ | .warning _ => false

/-- How many failures are recorded. -/
def failures (calls : List Call) : ℕ := calls.countP Call.isFailure

/-- No success takes five minutes to record. -/
def Prompt (calls : List Call) : Prop :=
  ∀ now later, Call.success now later ∈ calls → later < now + stabilityPeriod

theorem not_long_of_lt {now later : ℕ} (h : later < now + stabilityPeriod) :
    ¬ stabilityPeriod ≤ later - now := by
  have hpos : 0 < stabilityPeriod := by decide
  omega

/-- **Nothing is ever reset** where no success takes five minutes to record: the count is of
all the failures so far. -/
theorem failuresSinceReset_of_prompt (hprompt : Prompt calls) :
    failuresSinceReset calls = failures calls := by
  induction calls using List.reverseRecOn with
  | nil => rfl
  | append_singleton calls call ih =>
    have hbefore : Prompt calls := fun now later hmem => hprompt now later (List.mem_append_left _ hmem)
    have ih := ih hbefore
    have hfailures : failures (calls ++ [call]) = failures calls + failures [call] := List.countP_append
    rw [failuresSinceReset] at ih ⊢
    rw [List.foldl_append, ih, hfailures]
    cases call with
    | success now later =>
      have hshort : ¬ fromSecs 300 ≤ later - now := not_long_of_lt (hprompt now later (by simp))
      simp only [List.foldl_cons, List.foldl_nil, if_neg hshort]
      rfl
    | failure now => rfl
    | warning now => rfl

theorem StableSuccess.consecutiveFailures_eq_zero_iff
    (hstable : StableSuccess config start calls before state now later) :
    (state.recordSuccess now later).consecutiveFailures = 0 ↔
      failuresSinceReset before = 0 ∨ stabilityPeriod ≤ later - now := by
  rw [consecutiveFailures_recordSuccess_eq_zero_iff, ← consecutiveFailures_run hstable.reached, ← BitVec.toNat_inj]
  rfl

/-- **Where the count is reset after stability**: where at each such success there is nothing
to reset, or the clock moves on by five minutes while it is recorded. -/
theorem resetsAfterStability_iff :
    ResetsAfterStability config start calls ↔
      ∀ before state now later, StableSuccess config start calls before state now later →
        failuresSinceReset before = 0 ∨ stabilityPeriod ≤ later - now := by
  constructor
  · intro hresets before state now later hstable
    exact hstable.consecutiveFailures_eq_zero_iff.mp (hresets before state now later hstable).1
  · intro h before state now later hstable
    have hzero := hstable.consecutiveFailures_eq_zero_iff.mpr (h before state now later hstable)
    exact ⟨hzero, getBackoff_recordSuccess hzero⟩

/-- **One failure is enough**: where no success takes five minutes to record, the count is reset
after stability only as long as there has not been any failure. -/
theorem failures_eq_zero_of_resetsAfterStability (hresets : ResetsAfterStability config start calls)
    {before : List Call} (hprompt : Prompt before) (hnow : later < now + stabilityPeriod)
    (hstable : StableSuccess config start calls before state now later) : failures before = 0 := by
  rw [← failuresSinceReset_of_prompt hprompt]
  rcases hstable.consecutiveFailures_eq_zero_iff.mp (hresets before state now later hstable).1 with hzero | hlong
  · exact hzero
  · exact absurd hlong (not_long_of_lt hnow)

/-- A failure, a success, and another one five minutes later. -/
def stableConnection : List Call :=
  [.failure 1, .success 2 3, .success (2 + stabilityPeriod) (3 + stabilityPeriod)]

/-- **A stable connection does not reset the count**: by default, with a failure before it, the
next delay is twice the minimum. -/
theorem stable_connection_keeps_count :
    Nondecreasing 0 stableConnection ∧
      StableSuccess HyperLiquidConfig.default.reconnectConfig 0 stableConnection [.failure 1, .success 2 3]
        ⟨1, 2, false, none⟩ (2 + stabilityPeriod) (3 + stabilityPeriod) ∧
      (ReconnectionState.recordSuccess ⟨1, 2, false, none⟩ (2 + stabilityPeriod)
        (3 + stabilityPeriod)).consecutiveFailures = 1 ∧
      ¬ ResetsAfterStability HyperLiquidConfig.default.reconnectConfig 0 stableConnection := by
  have hstable : StableSuccess HyperLiquidConfig.default.reconnectConfig 0 stableConnection
      [.failure 1, .success 2 3] ⟨1, 2, false, none⟩ (2 + stabilityPeriod) (3 + stabilityPeriod) :=
    ⟨⟨[], rfl⟩, rfl, le_rfl, rfl⟩
  have hcount : (ReconnectionState.recordSuccess ⟨1, 2, false, none⟩ (2 + stabilityPeriod)
      (3 + stabilityPeriod)).consecutiveFailures = 1 := by decide
  refine ⟨by decide, hstable, hcount, ?_⟩
  intro hresets
  have hzero := (hresets _ _ _ _ hstable).1
  rw [hcount] at hzero
  exact absurd hzero (by decide)

end Botmev.Hyperliquid
