import Botmev.Library.FairLocks
import Botmev.Library.Table
import Botmev.Rust.Runtime

/-!
# The health checker

`HealthChecker` (`mev-core/src/monitoring/health.rs`) runs the checks that are registered, one after the
other, and keeps a result for each. The checks and the results are behind a lock each. A check is
registered under both of them, the one of the checks first; a check is run under the one of the
checks, and its result recorded under both. Whether the system is ready is read under both, too, but
with the one of the results first. The monitoring server (`mev-core/src/monitoring/mod.rs`) answers
with what it is told.

What a check does is a parameter: what it returns, or that it has timed out, how long it took, and the
time after it. So is the order in which the map of the checks gives its keys. A loop that never ends is
modelled by its first rounds, of which there may be any number. A duration is in nanoseconds. The
time, the uptime and the version in a status are left out, and so is the configured number of
failures, which nothing reads.
-/

namespace Botmev.Core

open Botmev.Rust Botmev.Library

/-- "Health check status enum". -/
inductive CheckStatus where
  | healthy
  | warning
  | critical
  | unknown
  deriving DecidableEq, Repr

/-- `CheckStatus::Healthy | CheckStatus::Warning`. -/
def CheckStatus.isFine (status : CheckStatus) : Bool := status = .healthy || status = .warning

/-- "Individual health check result". -/
structure CheckResult where
  /-- `status`. -/
  status : CheckStatus
  /-- `message`. -/
  message : String
  /-- `duration_ms`. -/
  durationMs : U64
  /-- `last_success`. -/
  lastSuccess : Option DateTime
  /-- `failure_count`. -/
  failureCount : BitVec 32
  deriving DecidableEq

/-- "Health checker configuration": what running a check reads. -/
structure HealthConfig where
  /-- `timeout`. -/
  timeout : ℕ
  /-- `warning_threshold`. -/
  warningThreshold : ℕ
  /-- `critical_threshold`. -/
  criticalThreshold : ℕ

/-- `HealthConfig::default()`. -/
def HealthConfig.default : HealthConfig where
  timeout := 5 * 10 ^ 9
  warningThreshold := 10 ^ 9
  criticalThreshold := 5 * 10 ^ 9

/-- What comes of running a check. -/
structure CheckOutcome where
  /-- What it returns; none if it has timed out. -/
  result : Option (Except String String)
  /-- `start.elapsed()`. -/
  duration : ℕ
  /-- `chrono::Utc::now()`, after it. -/
  now : DateTime

/-- A `HealthCheck`. -/
structure HealthCheck where
  /-- `name`. -/
  name : String
  /-- `is_critical`. -/
  isCritical : Bool

/-- `duration.as_millis() as u64`. -/
def asMillis (duration : ℕ) : U64 := BitVec.ofNat 64 (duration / 10 ^ 6)

namespace CheckResult

/-- The result of a check that is newly registered. -/
def notYetChecked : CheckResult := ⟨.unknown, "Not yet checked", 0, none, 0⟩

/-- `failure_count += 1`, after the rest of the result is written. -/
def countFailure (result : CheckResult) : Result Unit × CheckResult :=
  match Uint.add result.failureCount 1 with
  | .ok failureCount => (.ok (), { result with failureCount := failureCount })
  | .error e => (.error e, result)

/-- How a check that was successful did. -/
def statusOf (config : HealthConfig) (duration : ℕ) : CheckStatus :=
  if config.criticalThreshold < duration then .critical
  else if config.warningThreshold < duration then .warning
  else .healthy

/-- What `run_single_check` makes of the result it finds. -/
def record (config : HealthConfig) (isCritical : Bool) (outcome : CheckOutcome) (current : CheckResult) :
    Result Unit × CheckResult :=
  match outcome.result with
  -- "Success"
  | some (.ok message) =>
    (.ok (),
      { status := statusOf config outcome.duration
        message := message
        durationMs := asMillis outcome.duration
        lastSuccess := some outcome.now
        failureCount := 0 })
  -- "Check failed"
  | some (.error e) =>
    countFailure
      { current with
        status := if isCritical then .critical else .warning
        message := "Check failed: " ++ e
        durationMs := asMillis outcome.duration }
  -- "Timeout"
  | none =>
    countFailure
      { current with
        status := .critical
        message := "Check timed out"
        durationMs := asMillis config.timeout }

end CheckResult

/-- "Health check status". -/
structure HealthStatus where
  /-- `is_healthy`. -/
  isHealthy : Bool
  /-- `checks`. -/
  checks : Table String CheckResult

/-! ### The state -/

/-- The locks. -/
inductive HealthLock where
  /-- `checks`. -/
  | checks
  /-- `results`. -/
  | results
  deriving DecidableEq, Repr

/-- An order in which the map of the checks may give its keys. -/
structure CheckOrder where
  /-- The keys, in that order. -/
  order : List String → List String
  /-- All of them, and no others. -/
  perm : ∀ keys, (order keys).Perm keys

/-- What is behind the locks, with what the checks will do. -/
structure HealthState where
  /-- `checks`. -/
  checks : Table String HealthCheck
  /-- `results`. -/
  results : Table String CheckResult
  /-- What comes of the next check, and of those after it. -/
  outcomes : ℕ → CheckOutcome
  /-- In which order the map of the checks will give its keys. -/
  keyOrder : ℕ → CheckOrder

namespace HealthState

/-- `HealthChecker::new`. -/
def new (outcomes : ℕ → CheckOutcome) (keyOrder : ℕ → CheckOrder) : HealthState :=
  ⟨∅, ∅, outcomes, keyOrder⟩

/-- What `unwrap` says of a result that is missing. -/
def unwrapNone : Failure := .panic "called `Option::unwrap()` on a `None` value"

/-- `results.get_mut(name).unwrap()`, and what is made of it. -/
def recordOutcome (config : HealthConfig) (s : HealthState) (name : String) (isCritical : Bool)
    (outcome : CheckOutcome) : Result Unit × HealthState :=
  match s.results.lookup name with
  | some current =>
    let recorded := current.record config isCritical outcome
    (recorded.1, { s with results := s.results.insert name recorded.2 })
  | none => (.error unwrapNone, s)

/-- What `get_health_status` makes of the results. -/
def healthStatus (s : HealthState) : HealthStatus where
  isHealthy := s.results.entries.all fun entry => entry.2.status.isFine
  checks := s.results

/-- What `is_ready` makes of the checks and the results: "all critical checks passing". -/
def isReady (s : HealthState) : Bool :=
  s.checks.entries.all fun entry =>
    !(entry.2.isCritical && (s.results.lookup entry.1).any fun result => result.status = .critical)

end HealthState

/-! ### The functions -/

/-- What is done under the locks. -/
inductive HealthOp where
  /-- `checks.insert(name, check)`. -/
  | insertCheck (check : HealthCheck)
  /-- `results.insert(name, ..)`. -/
  | insertResult (name : String)
  /-- `checks.keys().cloned().collect()`. -/
  | checkNames
  /-- `checks.get(&name)`. -/
  | getCheck (name : String)
  /-- `timeout(self.config.timeout, check.check()).await`. -/
  | perform
  /-- `results.get_mut(name).unwrap()`, and what is made of it. -/
  | recordOutcome (name : String) (isCritical : Bool) (outcome : CheckOutcome)
  /-- What `get_health_status` reads. -/
  | healthStatus
  /-- What `is_ready` reads. -/
  | isReady

/-- What that gives. -/
@[reducible] def HealthI : Interface where
  Op := HealthOp
  Reply
    | .insertCheck _ => Unit
    | .insertResult _ => Unit
    | .checkNames => List String
    | .getCheck _ => Option HealthCheck
    | .perform => CheckOutcome
    | .recordOutcome _ _ _ => Result Unit
    | .healthStatus => HealthStatus
    | .isReady => Bool

/-- What that does. -/
def healthHandler (config : HealthConfig) : Handler HealthI HealthState
  | .insertCheck check, s => ((), { s with checks := s.checks.insert check.name check })
  | .insertResult name, s => ((), { s with results := s.results.insert name .notYetChecked })
  | .checkNames, s => ((s.keyOrder 0).order s.checks.keys, { s with keyOrder := fun n => s.keyOrder (n + 1) })
  | .getCheck name, s => (s.checks.lookup name, s)
  | .perform, s => (s.outcomes 0, { s with outcomes := fun n => s.outcomes (n + 1) })
  | .recordOutcome name isCritical outcome, s => s.recordOutcome config name isCritical outcome
  | .healthStatus, s => (s.healthStatus, s)
  | .isReady, s => (s.isReady, s)

/-- A function of the health checker, called by one of the tasks `ι`. -/
abbrev HealthM (ι α : Type) := Async (LockedI ι HealthLock HealthI) Failure α

variable {ι : Type} (i : ι)

/-- `register_check`. -/
def registerCheck (check : HealthCheck) : HealthM ι Unit :=
  withLock i .checks .write do
    onData (J := HealthI) (.insertCheck check)
    -- "Initialize result"
    withLock i .results .write (onData (J := HealthI) (.insertResult check.name))

/-- `run_single_check`. -/
def runSingleCheck (name : String) (isCritical : Bool) : HealthM ι Unit := do
  let outcome ← onData (J := HealthI) .perform
  withLock i .results .write do
    let recorded ← onData (J := HealthI) (.recordOutcome name isCritical outcome)
    .done recorded

/-- `run_all_checks`, for one name. -/
def runCheck (name : String) : HealthM ι Unit :=
  withLock i .checks .read do
    match ← onData (J := HealthI) (.getCheck name) with
    | some check => runSingleCheck i name check.isCritical
    | none => pure ()

/-- The loop of `run_all_checks`. -/
def runChecks : List String → HealthM ι Unit
  | [] => pure ()
  | name :: names => do
    runCheck i name
    runChecks names

/-- `run_all_checks`. -/
def runAllChecks : HealthM ι Unit := do
  let checkNames ← withLock i .checks .read (onData (J := HealthI) .checkNames)
  runChecks i checkNames

/-- `start_monitoring`, for so many ticks. -/
def startMonitoring : ℕ → HealthM ι Unit
  | 0 => pure ()
  | n + 1 => do
    runAllChecks i
    startMonitoring n

/-- `get_health_status`. -/
def getHealthStatus : HealthM ι HealthStatus := withLock i .results .read (onData (J := HealthI) .healthStatus)

/-- `is_ready`. -/
def isReady : HealthM ι Bool :=
  withLock i .results .read (withLock i .checks .read (onData (J := HealthI) .isReady))

/-- The calls of a health checker. -/
inductive HealthCall where
  /-- `register_check`. -/
  | registerCheck (check : HealthCheck)
  /-- `start_monitoring`, for so many ticks. -/
  | startMonitoring (ticks : ℕ)
  /-- `get_health_status`, for `/health`. -/
  | healthHandler
  /-- `is_ready`, for `/ready`. -/
  | readinessHandler

/-- `StatusCode::OK` or `StatusCode::SERVICE_UNAVAILABLE`. -/
def statusCode (fine : Bool) : ℕ := if fine then 200 else 503

/-- A call; a handler answers with a status code. -/
def HealthCall.task : HealthCall → HealthM ι (Option ℕ)
  | .registerCheck check => do
    Core.registerCheck i check
    pure none
  | .startMonitoring ticks => do
    Core.startMonitoring i ticks
    pure none
  | .healthHandler => do
    let status ← getHealthStatus i
    pure (some (statusCode status.isHealthy))
  | .readinessHandler => do
    let ready ← isReady i
    pure (some (statusCode ready))

/-- Calls in the middle of running. -/
abbrev HealthPool (ι : Type) := LockPool ι HealthLock HealthI Failure (Option ℕ) HealthState

/-- Calls of a new health checker. -/
def HealthPool.start (outcomes : ℕ → CheckOutcome) (keyOrder : ℕ → CheckOrder) (calls : ι → HealthCall) :
    HealthPool ι :=
  LockPool.start (.new outcomes keyOrder) fun i => (calls i).task i

end Botmev.Core
