import Botmev.Hyperliquid.Config

/-!
# Reconnecting to the HyperLiquid feed

`ReconnectionState` (`mev-hyperliquid/src/websocket.rs`) counts the failures to connect and
says how long to wait before the next attempt: the minimum, doubled for each failure, up to
the maximum; in the degraded state, five minutes. A success leaves the degraded state but
keeps the count, unless five minutes pass while it is recorded. The delay is multiplied out
before it is capped, and the source's cap does not keep it from overflowing.

## What is proved

* `consecutiveFailures_run`: the count after any run of calls.
* `bounded_backoff_iff`: for a valid configuration, outside the degraded state, the delay is
  between the bounds, grows with the failures and is `calculate_backoff`'s just when the
  product fits in 64 bits.
* `long_outage_overflows`: by default it does not after 64 failures and a success.
-/

namespace Botmev.Hyperliquid

open Botmev.Rust Botmev.Library

/-- A reading of the monotonic clock, in nanoseconds. -/
abbrev Instant := ℕ

/-- `Duration::from_secs(n)`, in nanoseconds. -/
def fromSecs (n : ℕ) : ℕ := n * 10 ^ 9

/-- "Configuration for WebSocket reconnection behavior". -/
structure ReconnectConfig where
  /-- "Minimum backoff time in seconds". -/
  minBackoffSecs : U64
  /-- "Maximum backoff time in seconds". -/
  maxBackoffSecs : U64
  /-- "Maximum number of consecutive connection failures before entering degraded state". -/
  maxConsecutiveFailures : BitVec 32

/-- What the service makes of its configuration. -/
def HyperLiquidConfig.reconnectConfig (config : HyperLiquidConfig) : ReconnectConfig where
  minBackoffSecs := config.reconnectMinBackoffSecs
  maxBackoffSecs := config.reconnectMaxBackoffSecs
  maxConsecutiveFailures := config.maxConsecutiveFailures

/-- `calculate_backoff`. -/
def ReconnectConfig.calculateBackoff (config : ReconnectConfig) (attempt : BitVec 32) : Result U64 := do
  let power ← Uint.pow 2 (Uint.saturatingSub attempt 1).toNat
  let backoff ← Uint.mul config.minBackoffSecs power
  pure (Uint.min backoff config.maxBackoffSecs)

/-- "Reconnection state tracking". -/
structure ReconnectionState where
  /-- "Number of consecutive connection failures". -/
  consecutiveFailures : BitVec 32
  /-- "Timestamp of last successful connection". -/
  lastSuccess : Instant
  /-- "Whether the service is in degraded state". -/
  degraded : Bool
  /-- "Timestamp of last degraded state warning". -/
  lastDegradedWarning : Option Instant
  deriving DecidableEq, Repr

namespace ReconnectionState

/-- `ReconnectionState::new()`. -/
def new (now : Instant) : ReconnectionState where
  consecutiveFailures := 0
  lastSuccess := now
  degraded := false
  lastDegradedWarning := none

variable (state : ReconnectionState)

/-- `record_success`: the clock is read for the time of the success, and once more to see how
long ago that was. -/
def recordSuccess (now later : Instant) : ReconnectionState where
  consecutiveFailures := if fromSecs 300 ≤ later - now then 0 else state.consecutiveFailures
  lastSuccess := now
  degraded := false
  lastDegradedWarning := if state.degraded then none else state.lastDegradedWarning

/-- `record_failure`. -/
def recordFailure (maxFailures : BitVec 32) (now : Instant) : Result ReconnectionState := do
  let consecutiveFailures ← Uint.add state.consecutiveFailures 1
  pure
    (if maxFailures ≤ consecutiveFailures ∧ state.degraded = false then
      { state with consecutiveFailures, degraded := true, lastDegradedWarning := some now }
    else { state with consecutiveFailures })

/-- `should_log_degraded_warning`: whether to, and the state after it. -/
def shouldLogDegradedWarning (now : Instant) : Bool × ReconnectionState :=
  if state.degraded = false then (false, state)
  else
    match state.lastDegradedWarning with
    | none => (true, { state with lastDegradedWarning := some now })
    | some last =>
      if fromSecs 1800 ≤ now - last then (true, { state with lastDegradedWarning := some now })
      else (false, state)

/-- `get_backoff`, in seconds. -/
def getBackoff (config : ReconnectConfig) : Result U64 :=
  if state.degraded then pure 300
  else if state.consecutiveFailures = 0 then pure config.minBackoffSecs
  else do
    let power ← Uint.pow 2 state.consecutiveFailures.toNat
    let backoff ← Uint.mul config.minBackoffSecs power
    pure (Uint.min backoff config.maxBackoffSecs)

end ReconnectionState

/-- What the service does to the state, and what the clock says then. -/
inductive Call where
  /-- `record_success`. -/
  | success (now later : Instant)
  /-- `record_failure`. -/
  | failure (now : Instant)
  /-- `should_log_degraded_warning`. -/
  | warning (now : Instant)

/-- A call. -/
def ReconnectionState.step (config : ReconnectConfig) (state : ReconnectionState) : Call →
    Result ReconnectionState
  | .success now later => pure (state.recordSuccess now later)
  | .failure now => state.recordFailure config.maxConsecutiveFailures now
  | .warning now => pure (state.shouldLogDegradedWarning now).2

/-- The calls of a service from its start on. -/
def ReconnectionState.run (config : ReconnectConfig) (start : Instant) (calls : List Call) :
    Result ReconnectionState :=
  calls.foldlM (ReconnectionState.step config) (ReconnectionState.new start)

/-- The failures since the last success that took five minutes to record. -/
def failuresSinceReset (calls : List Call) : ℕ :=
  calls.foldl (fun n call =>
    match call with
    | .success now later => if fromSecs 300 ≤ later - now then 0 else n
    | .failure _ => n + 1
    | .warning _ => n) 0

/-- **The delay is as it should be**: bounded, not more for fewer failures, and what
`calculate_backoff` gives for the next attempt. -/
structure BoundedBackoff (config : ReconnectConfig) (state : ReconnectionState) (backoff : U64) : Prop where
  /-- It is computed, without overflow. -/
  computed : state.getBackoff config = .ok backoff
  /-- It is no less than the minimum. -/
  minBackoff : config.minBackoffSecs ≤ backoff
  /-- It is no more than the maximum. -/
  maxBackoff : backoff ≤ config.maxBackoffSecs
  /-- After fewer failures it is no more. -/
  nondecreasing : ∀ start calls state', ReconnectionState.run config start calls = .ok state' →
    state'.degraded = false → state'.consecutiveFailures ≤ state.consecutiveFailures →
      ∃ backoff', state'.getBackoff config = .ok backoff' ∧ backoff' ≤ backoff
  /-- It is `calculate_backoff(consecutive_failures + 1)`. -/
  calculated : (do config.calculateBackoff (← Uint.add state.consecutiveFailures 1)) = .ok backoff

variable {config : ReconnectConfig} {state state' : ReconnectionState} {start : Instant} {calls : List Call}
  {backoff : U64}

/-! ### The count -/

theorem consecutiveFailures_step {call : Call} (h : state.step config call = .ok state') :
    state'.consecutiveFailures.toNat =
      match call with
      | .success now later => if fromSecs 300 ≤ later - now then 0 else state.consecutiveFailures.toNat
      | .failure _ => state.consecutiveFailures.toNat + 1
      | .warning _ => state.consecutiveFailures.toNat := by
  cases call with
  | success now later =>
    cases h
    simp only [ReconnectionState.recordSuccess]
    split <;> rfl
  | failure now =>
    obtain ⟨consecutiveFailures, hadd, h⟩ := bind_eq_ok_iff.mp h
    rw [Uint.add_eq_ok_iff] at hadd
    cases h
    split <;> exact hadd
  | warning now =>
    cases h
    simp only [ReconnectionState.shouldLogDegradedWarning]
    split
    · rfl
    · split
      · rfl
      · split <;> rfl

/-- **What the count is** after any run of calls. -/
theorem consecutiveFailures_run (h : ReconnectionState.run config start calls = .ok state) :
    state.consecutiveFailures.toNat = failuresSinceReset calls := by
  induction calls using List.reverseRecOn generalizing state with
  | nil =>
    cases h
    rfl
  | append_singleton calls call ih =>
    simp only [ReconnectionState.run, List.foldlM_append, List.foldlM_cons, List.foldlM_nil] at h
    obtain ⟨before, hbefore, h⟩ := bind_eq_ok_iff.mp h
    obtain ⟨after, hstep, h⟩ := bind_eq_ok_iff.mp h
    cases h
    rw [consecutiveFailures_step hstep, ih hbefore, failuresSinceReset, failuresSinceReset, List.foldl_append]
    cases call <;> rfl

/-! ### The delay -/

theorem doubled_eq_ok_iff (hmin : 0 < config.minBackoffSecs.toNat) (n : ℕ) :
    (do
      let power ← Uint.pow 2 n
      let backoff ← Uint.mul config.minBackoffSecs power
      pure (Uint.min backoff config.maxBackoffSecs) : Result U64) = .ok backoff ↔
      config.minBackoffSecs.toNat * 2 ^ n < 2 ^ 64 ∧
        backoff.toNat = min (config.minBackoffSecs.toNat * 2 ^ n) config.maxBackoffSecs.toNat := by
  simp only [bind_eq_ok_iff, Uint.pow_eq_ok_iff, Uint.mul_eq_ok_iff]
  constructor
  · rintro ⟨power, hpower, product, hproduct, h⟩
    cases h
    rw [toNat_min, hproduct, hpower]
    refine ⟨?_, rfl⟩
    have := product.isLt
    rw [hproduct, hpower] at this
    exact this
  · rintro ⟨hlt, hbackoff⟩
    have hle : 2 ^ n ≤ config.minBackoffSecs.toNat * 2 ^ n := Nat.le_mul_of_pos_left _ hmin
    refine ⟨BitVec.ofNat 64 (2 ^ n), ?_, BitVec.ofNat 64 (config.minBackoffSecs.toNat * 2 ^ n), ?_, ?_⟩
    · rw [BitVec.toNat_ofNat, Nat.mod_eq_of_lt (by omega)]
      rfl
    · rw [BitVec.toNat_ofNat, BitVec.toNat_ofNat, Nat.mod_eq_of_lt hlt, Nat.mod_eq_of_lt (by omega)]
    · rw [show (pure _ : Result U64) = .ok _ from rfl, Except.ok.injEq, ← BitVec.toNat_inj, toNat_min,
        BitVec.toNat_ofNat, Nat.mod_eq_of_lt hlt]
      exact hbackoff.symm

variable (config) in
/-- Outside the degraded state, the delay is the minimum, doubled for each failure and capped. -/
theorem getBackoff_eq_ok_iff (hmin : 0 < config.minBackoffSecs.toNat)
    (hmax : config.minBackoffSecs.toNat ≤ config.maxBackoffSecs.toNat) (hnormal : state.degraded = false) :
    state.getBackoff config = .ok backoff ↔
      config.minBackoffSecs.toNat * 2 ^ state.consecutiveFailures.toNat < 2 ^ 64 ∧
        backoff.toNat = min (config.minBackoffSecs.toNat * 2 ^ state.consecutiveFailures.toNat)
          config.maxBackoffSecs.toNat := by
  rw [← doubled_eq_ok_iff hmin]
  by_cases hzero : state.consecutiveFailures = 0
  · have hpow : config.minBackoffSecs.toNat * 2 ^ (0 : BitVec 32).toNat = config.minBackoffSecs.toNat :=
      Nat.mul_one _
    rw [doubled_eq_ok_iff hmin, hzero, hpow, Nat.min_eq_left hmax]
    simp only [ReconnectionState.getBackoff, hnormal, hzero, if_true, Bool.false_eq_true, if_false]
    rw [show (pure _ : Result U64) = .ok _ from rfl, Except.ok.injEq, ← BitVec.toNat_inj, eq_comm]
    exact (and_iff_right config.minBackoffSecs.isLt).symm
  · simp only [ReconnectionState.getBackoff, hnormal, hzero, Bool.false_eq_true, if_false]

variable (config) in
theorem calculateBackoff_eq_ok_iff (hmin : 0 < config.minBackoffSecs.toNat) :
    (do config.calculateBackoff (← Uint.add state.consecutiveFailures 1)) = .ok backoff ↔
      state.consecutiveFailures.toNat + 1 < 2 ^ 32 ∧
        config.minBackoffSecs.toNat * 2 ^ state.consecutiveFailures.toNat < 2 ^ 64 ∧
        backoff.toNat = min (config.minBackoffSecs.toNat * 2 ^ state.consecutiveFailures.toNat)
          config.maxBackoffSecs.toNat := by
  have hsub : ∀ attempt : BitVec 32, attempt.toNat = state.consecutiveFailures.toNat + 1 →
      (Uint.saturatingSub attempt 1).toNat = state.consecutiveFailures.toNat := by
    intro attempt h
    have hone : (1 : BitVec 32).toNat = 1 := rfl
    have := state.consecutiveFailures.isLt
    rw [Uint.saturatingSub, BitVec.toNat_ofNat, h, hone, Nat.add_sub_cancel, Nat.mod_eq_of_lt this]
  simp only [bind_eq_ok_iff, Uint.add_eq_ok_iff]
  constructor
  · rintro ⟨attempt, hattempt, h⟩
    have hone : (1 : BitVec 32).toNat = 1 := rfl
    have := attempt.isLt
    rw [hone] at hattempt
    rw [ReconnectConfig.calculateBackoff, doubled_eq_ok_iff hmin, hsub attempt hattempt] at h
    exact ⟨by omega, h⟩
  · rintro ⟨hlt, h⟩
    have hattempt : (BitVec.ofNat 32 (state.consecutiveFailures.toNat + 1)).toNat =
        state.consecutiveFailures.toNat + 1 := by
      rw [BitVec.toNat_ofNat, Nat.mod_eq_of_lt hlt]
    refine ⟨_, hattempt, ?_⟩
    rw [ReconnectConfig.calculateBackoff, doubled_eq_ok_iff hmin, hsub _ hattempt]
    exact h

variable (config) in
theorem exists_backoff (hmin : 0 < config.minBackoffSecs.toNat)
    (hmax : config.minBackoffSecs.toNat ≤ config.maxBackoffSecs.toNat) (hnormal : state.degraded = false)
    (hlt : config.minBackoffSecs.toNat * 2 ^ state.consecutiveFailures.toNat < 2 ^ 64) :
    ∃ backoff, state.getBackoff config = .ok backoff ∧
      backoff.toNat = min (config.minBackoffSecs.toNat * 2 ^ state.consecutiveFailures.toNat)
        config.maxBackoffSecs.toNat := by
  have hvalue : (BitVec.ofNat 64 (min (config.minBackoffSecs.toNat * 2 ^ state.consecutiveFailures.toNat)
      config.maxBackoffSecs.toNat)).toNat =
        min (config.minBackoffSecs.toNat * 2 ^ state.consecutiveFailures.toNat)
        config.maxBackoffSecs.toNat := by
    rw [BitVec.toNat_ofNat, Nat.mod_eq_of_lt (by omega)]
  exact ⟨_, (getBackoff_eq_ok_iff config hmin hmax hnormal).mpr ⟨hlt, hvalue⟩, hvalue⟩

/-- **Where the delay is as it should be**: where the minimum, doubled for each failure since
the last reset, fits in 64 bits. -/
theorem bounded_backoff_iff {config : HyperLiquidConfig} (hvalid : config.validate = .ok ())
    (hrun : ReconnectionState.run config.reconnectConfig start calls = .ok state)
    (hnormal : state.degraded = false) :
    (∃ backoff, BoundedBackoff config.reconnectConfig state backoff) ↔
      config.reconnectMinBackoffSecs.toNat * 2 ^ failuresSinceReset calls < 2 ^ 64 := by
  obtain ⟨hmin, hmax, -⟩ := HyperLiquidConfig.backoff_of_validate hvalid
  rw [← consecutiveFailures_run hrun]
  constructor
  · rintro ⟨backoff, h⟩
    exact ((getBackoff_eq_ok_iff config.reconnectConfig hmin hmax hnormal).mp h.computed).1
  · intro hlt
    obtain ⟨backoff, hbackoff, hvalue⟩ := exists_backoff config.reconnectConfig hmin hmax hnormal hlt
    have hdouble := Nat.le_mul_of_pos_right config.reconnectMinBackoffSecs.toNat
      (Nat.two_pow_pos state.consecutiveFailures.toNat)
    refine ⟨backoff, hbackoff, ?_, ?_, ?_, ?_⟩
    · rw [BitVec.le_def, hvalue]
      exact le_min hdouble hmax
    · rw [BitVec.le_def, hvalue]
      exact min_le_right _ _
    · intro _ _ state' _ hnormal' hle
      have hpow : 2 ^ state'.consecutiveFailures.toNat ≤ 2 ^ state.consecutiveFailures.toNat :=
        Nat.pow_le_pow_right (by decide) hle
      have hmul := Nat.mul_le_mul_left config.reconnectMinBackoffSecs.toNat hpow
      obtain ⟨backoff', hbackoff', hvalue'⟩ := exists_backoff config.reconnectConfig hmin hmax hnormal'
        (Nat.lt_of_le_of_lt hmul hlt)
      refine ⟨backoff', hbackoff', ?_⟩
      rw [BitVec.le_def, hvalue, hvalue']
      exact le_min (Nat.le_trans (Nat.min_le_left _ _) hmul) (Nat.min_le_right _ _)
    · -- As the power fits in 64 bits, the count is far from its own limit.
      have hcount : state.consecutiveFailures.toNat < 64 := by
        apply (Nat.pow_lt_pow_iff_right (by decide : 1 < 2)).mp
        exact Nat.lt_of_le_of_lt (Nat.le_mul_of_pos_left _ hmin) hlt
      exact (calculateBackoff_eq_ok_iff config.reconnectConfig hmin).mpr
        ⟨by omega, hlt, hvalue⟩

/-- After three failures it is as it should be, by default. -/
theorem three_failures_bounded : ∃ backoff, BoundedBackoff HyperLiquidConfig.default.reconnectConfig
    ⟨3, 0, false, none⟩ backoff := by
  have hrun : ReconnectionState.run HyperLiquidConfig.default.reconnectConfig 0
      [.failure 1, .failure 2, .failure 3] =
      .ok ⟨3, 0, false, none⟩ := rfl
  exact (bounded_backoff_iff HyperLiquidConfig.validate_default hrun rfl).mpr (by decide)

/-- Sixty-four failures and a success. -/
def longOutage : List Call := List.replicate 64 (.failure 1) ++ [.success 2 3]

/-- **The delay overflows before it is capped**: after sixty-four failures and a success, by
default, the service is not degraded, and computing how long to wait panics. -/
theorem long_outage_overflows :
    HyperLiquidConfig.default.validate = .ok () ∧
      ∃ state, ReconnectionState.run HyperLiquidConfig.default.reconnectConfig 0 longOutage = .ok state ∧
        state.degraded = false ∧ state.consecutiveFailures = 64 ∧
        panics (state.getBackoff HyperLiquidConfig.default.reconnectConfig) = true ∧
        ¬ ∃ backoff, BoundedBackoff HyperLiquidConfig.default.reconnectConfig state backoff := by
  refine ⟨HyperLiquidConfig.validate_default, ⟨64, 2, false, none⟩, by decide, rfl, rfl,
    by decide, ?_⟩
  rintro ⟨backoff, h⟩
  have hpanics : panics
      (ReconnectionState.getBackoff ⟨64, 2, false, none⟩ HyperLiquidConfig.default.reconnectConfig) =
      true := by decide
  rw [h.computed] at hpanics
  cases hpanics

end Botmev.Hyperliquid
