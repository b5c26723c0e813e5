import Botmev.Core.HealthLocks
import Mathlib.Data.List.DropRight

/-!
# What the health checker answers

However registrations, rounds of checks and probes are interleaved, a result is what has come of its
check since that was registered: the status is the last one's, the failures are those since the last
success, as far as the counter goes, and the last success is the last one's time. What a probe is
answered follows from the results when it reads them.

## What is proved

* `Summarizes.concat`: a result, after its check has run once more.
* `Ledger.step`: the results, after one more operation.
* `exists_ledger`: what the results are, in every run.
* `probes_answered`: what the probes are answered, in every run.
-/

namespace Botmev.Core

open Botmev.Rust Botmev.Library

/-! ### One check -/

/-- A run of a check, with whether the check is critical. -/
abbrev CheckRun := Bool × CheckOutcome

/-- The check was successful. -/
def succeeded (run : CheckRun) : Bool := run.2.result matches some (.ok _)

/-- The status after the last run of a check. -/
def statusAfter (config : HealthConfig) : Option CheckRun → CheckStatus
  | none => .unknown
  | some (isCritical, outcome) =>
    match outcome.result with
    | some (.ok _) => CheckResult.statusOf config outcome.duration
    | some (.error _) => if isCritical then .critical else .warning
    | none => .critical

/-- A result says what has come of these runs. -/
structure Summarizes (config : HealthConfig) (runs : List CheckRun) (result : CheckResult) : Prop where
  /-- The status is that of the last run. -/
  status : result.status = statusAfter config runs.getLast?
  /-- The last success is that of the last run that was successful. -/
  lastSuccess : result.lastSuccess = (runs.filter succeeded).getLast?.map fun run => run.2.now
  /-- The failures since then are counted, as far as the counter goes. -/
  failureCount : result.failureCount.toNat = min (runs.rtakeWhile fun run => !succeeded run).length (2 ^ 32 - 1)

variable {config : HealthConfig} {runs : List CheckRun} {result : CheckResult}

theorem summarizes_notYetChecked : Summarizes config [] .notYetChecked := ⟨rfl, rfl, rfl⟩

theorem countFailure_spec (result : CheckResult) :
    ∃ n : BitVec 32, result.countFailure.2 = { result with failureCount := n } ∧
      n.toNat = min (result.failureCount.toNat + 1) (2 ^ 32 - 1) := by
  have hlt := result.failureCount.isLt
  by_cases hfits : result.failureCount.toNat + (1 : BitVec 32).toNat < 2 ^ 32
  · obtain ⟨n, hn⟩ := Uint.exists_add_eq_ok_iff.mpr hfits
    have hsum := Uint.add_eq_ok_iff.mp hn
    have hone : (1 : BitVec 32).toNat = 1 := rfl
    exact ⟨n, by rw [CheckResult.countFailure, hn], by omega⟩
  · refine ⟨result.failureCount, by rw [CheckResult.countFailure, Uint.add, if_neg hfits], ?_⟩
    have hone : (1 : BitVec 32).toNat = 1 := rfl
    omega

theorem Summarizes.concat_failure (h : Summarizes config runs result) {run : CheckRun} (hrun : succeeded run = false)
    {failed : CheckResult} (hstatus : failed.status = statusAfter config (some run))
    (hsuccess : failed.lastSuccess = result.lastSuccess) (hcount : failed.failureCount = result.failureCount) :
    Summarizes config (runs ++ [run]) failed.countFailure.2 := by
  obtain ⟨n, hn, hsum⟩ := countFailure_spec failed
  rw [hn]
  refine ⟨?_, ?_, ?_⟩
  · simpa using hstatus
  · simpa [hrun, hsuccess] using h.lastSuccess
  · rw [List.rtakeWhile_concat_pos _ _ _ (by simp [hrun]), List.length_append, List.length_singleton]
    show n.toNat = _
    rw [hsum, hcount, h.failureCount]
    omega

/-- **A result, after its check has run once more.** -/
theorem Summarizes.concat (h : Summarizes config runs result) (isCritical : Bool) (outcome : CheckOutcome) :
    Summarizes config (runs ++ [(isCritical, outcome)]) (result.record config isCritical outcome).2 := by
  unfold CheckResult.record
  split
  next message hok =>
    have hrun : succeeded (isCritical, outcome) = true := by simp [succeeded, hok]
    refine ⟨by simp [statusAfter, hok], by simp [hrun], ?_⟩
    rw [List.rtakeWhile_concat_neg _ _ _ (by simp [hrun])]
    rfl
  next e herror =>
    exact h.concat_failure (by simp [succeeded, herror]) (by simp [statusAfter, herror]) rfl rfl
  next htimeout =>
    exact h.concat_failure (by simp [succeeded, htimeout]) (by simp [statusAfter, htimeout]) rfl rfl

/-! ### All checks -/

/-- What happens to the checks. -/
inductive HealthEntry where
  /-- A check is registered. -/
  | registered (check : HealthCheck)
  /-- Its result is new. -/
  | initialized (name : String)
  /-- It has run. -/
  | ran (name : String) (run : CheckRun)

/-- What an operation does to them. -/
def healthEntry {ι : Type} : LockedOp ι HealthLock HealthOp → Option HealthEntry
  | .data (.insertCheck check) => some (.registered check)
  | .data (.insertResult name) => some (.initialized name)
  | .data (.recordOutcome name isCritical outcome) => some (.ran name (isCritical, outcome))
  | _ => none

/-- What has happened to them so far. -/
def healthEntries {ι : Type} (history : List (Event (LockedI ι HealthLock HealthI) ι)) : List HealthEntry :=
  history.filterMap fun e => healthEntry e.op

/-- The check of that name: the last that was registered. -/
def checkOf (name : String) (entries : List HealthEntry) : Option HealthCheck :=
  entries.foldl (fun check entry =>
    match entry with
    | .registered check' => if check'.name = name then some check' else check
    | _ => check) none

/-- How it has run since its result was new. -/
def runsOf (name : String) (entries : List HealthEntry) : Option (List CheckRun) :=
  entries.foldl (fun runs entry =>
    match entry with
    | .initialized name' => if name' = name then some [] else runs
    | .ran name' run => if name' = name then runs.map (· ++ [run]) else runs
    | _ => runs) none

/-- The checks and their results are what has happened to them. -/
structure Ledger (config : HealthConfig) (entries : List HealthEntry) (s : HealthState) : Prop where
  /-- The checks are those that were registered last. -/
  checks : ∀ name, s.checks.lookup name = checkOf name entries
  /-- The results say what has come of their checks. -/
  results : ∀ name, Option.Rel (Summarizes config) (runsOf name entries) (s.results.lookup name)

variable {s : HealthState} {entries : List HealthEntry}

@[simp] theorem checkOf_concat (name : String) (entry : HealthEntry) : checkOf name (entries ++ [entry]) =
    match entry with
    | .registered check => if check.name = name then some check else checkOf name entries
    | _ => checkOf name entries := by
  cases entry <;> simp [checkOf]

@[simp] theorem runsOf_concat (name : String) (entry : HealthEntry) : runsOf name (entries ++ [entry]) =
    match entry with
    | .initialized name' => if name' = name then some [] else runsOf name entries
    | .ran name' run => if name' = name then (runsOf name entries).map (· ++ [run]) else runsOf name entries
    | _ => runsOf name entries := by
  cases entry <;> simp [runsOf]

/-- **One operation.** -/
theorem Ledger.step {ι : Type} (hL : Ledger config entries s) (op : HealthOp) :
    Ledger config (entries ++ (healthEntry (ι := ι) (.data op)).toList) (healthHandler config op s).2 := by
  cases op with
  | insertCheck check =>
    refine ⟨fun name => ?_, by simpa [healthEntry, healthHandler] using hL.results⟩
    by_cases hsame : check.name = name
    · subst hsame
      simp [healthEntry, healthHandler]
    · simpa [healthEntry, healthHandler, hsame, AList.lookup_insert_ne (Ne.symm hsame)] using hL.checks name
  | insertResult name' =>
    refine ⟨by simpa [healthEntry, healthHandler] using hL.checks, fun name => ?_⟩
    by_cases hsame : name' = name
    · subst hsame
      simpa [healthEntry, healthHandler] using summarizes_notYetChecked
    · simpa [healthEntry, healthHandler, hsame, AList.lookup_insert_ne (Ne.symm hsame)] using hL.results name
  | recordOutcome name' isCritical outcome =>
    refine ⟨by simpa [healthEntry, healthHandler, recordOutcome_checks] using hL.checks, fun name => ?_⟩
    have hname := hL.results name
    by_cases hsame : name' = name
    · subst hsame
      simp only [healthEntry, Option.toList_some, runsOf_concat, if_true, healthHandler, HealthState.recordOutcome]
      generalize runsOf name' entries = runs at hname ⊢
      generalize hcurrent : s.results.lookup name' = current at hname ⊢
      rcases hname with h | _
      · simpa using h.concat isCritical outcome
      · simp [hcurrent]
    · have hother : (s.recordOutcome config name' isCritical outcome).2.results.lookup name =
          s.results.lookup name := by
        unfold HealthState.recordOutcome
        split
        · exact AList.lookup_insert_ne (Ne.symm hsame)
        · rfl
      simpa [healthEntry, healthHandler, hsame, hother] using hname
  | _ =>
    simp only [healthEntry, Option.toList_none, List.append_nil]
    exact ⟨hL.checks, hL.results⟩

variable {ι : Type} [DecidableEq ι] {outcomes : ℕ → CheckOutcome} {keyOrder : ℕ → CheckOrder} {calls : ι → HealthCall}
  {p : HealthPool ι}

/-- **The checks and their results, in every run.** -/
theorem ledger_run (hr : HealthReach config outcomes keyOrder calls p) :
    Ledger config (healthEntries p.history) p.shared.data := by
  refine hr.invariant (fun p => Ledger config (healthEntries p.history) p.shared.data) ?_ ?_
  · exact ⟨fun _ => rfl, fun _ => .none⟩
  · intro p i op k hL _ _
    rw [Pool.after_shared, Pool.after_history, healthEntries, List.filterMap_append]
    cases op with
    | data op =>
      have hstep := hL.step (ι := ι) op
      rcases hentry : healthEntry (.data op : LockedOp ι HealthLock HealthOp) with _ | entry <;>
        simpa [hentry, healthEntries, lockedHandler] using hstep
    | _ => simpa [healthEntry, healthEntries, lockedHandler] using hL

/-! ### The answers -/

theorem Ledger.isHealthy_iff (hL : Ledger config entries s) : s.healthStatus.isHealthy ↔
    ∀ name runs, runsOf name entries = some runs → (statusAfter config runs.getLast?).isFine := by
  simp only [HealthState.healthStatus, List.all_eq_true]
  constructor
  · intro hall name runs hruns
    have hname := hL.results name
    generalize hresult : s.results.lookup name = result at hname
    rw [hruns] at hname
    rcases hname with h | _
    rw [← h.status]
    exact hall _ (Table.lookup_eq_some_iff.mp hresult)
  · rintro hall ⟨name, result⟩ hentry
    have hname := hL.results name
    rw [Table.lookup_eq_some_iff.mpr hentry] at hname
    generalize hruns : runsOf name entries = runs at hname
    rcases hname with h | _
    rw [h.status]
    exact hall name _ hruns

theorem Ledger.isReady_iff (hL : Ledger config entries s) : s.isReady ↔
    ∀ name check, checkOf name entries = some check → check.isCritical →
      ∀ runs, runsOf name entries = some runs → statusAfter config runs.getLast? ≠ .critical := by
  simp only [HealthState.isReady, List.all_eq_true]
  constructor
  · intro hall name check hcheck hcritical runs hruns
    have hname := hL.results name
    rw [← hL.checks, Table.lookup_eq_some_iff] at hcheck
    have hentry := hall _ hcheck
    generalize s.results.lookup name = result at hname hentry
    rw [hruns] at hname
    rcases hname with h | _
    rw [← h.status]
    simpa [hcritical] using hentry
  · rintro hall ⟨name, check⟩ hentry
    have hname := hL.results name
    have hcheck := hall name check (by rw [← hL.checks, Table.lookup_eq_some_iff.mpr hentry])
    generalize s.results.lookup name = result at hname ⊢
    generalize runsOf name entries = runs at hname hcheck
    rcases hname with h | _
    · simpa [← h.status, or_iff_not_imp_left] using hcheck
    · simp

/-- **What the probes are answered, in every run.** -/
theorem probes_answered (hr : HealthReach config outcomes keyOrder calls p) {i : ι}
    {before after : List (Event (LockedI ι HealthLock HealthI) ι)} :
    (∀ status : HealthStatus, p.history = before ++ ⟨i, .data .healthStatus, status⟩ :: after →
      (status.isHealthy ↔ ∀ name runs, runsOf name (healthEntries before) = some runs →
        (statusAfter config runs.getLast?).isFine)) ∧
    (∀ ready : Bool, p.history = before ++ ⟨i, .data .isReady, ready⟩ :: after →
      (ready ↔ ∀ name check, checkOf name (healthEntries before) = some check → check.isCritical →
        ∀ runs, runsOf name (healthEntries before) = some runs → statusAfter config runs.getLast? ≠ .critical)) := by
  constructor
  · intro status hp
    obtain ⟨p', hr', rfl, hstatus⟩ := hr.exists_answering List.nil_prefix hp
    rw [show status = p'.shared.data.healthStatus from hstatus]
    exact (ledger_run hr').isHealthy_iff
  · intro ready hp
    obtain ⟨p', hr', rfl, hready⟩ := hr.exists_answering List.nil_prefix hp
    rw [show ready = p'.shared.data.isReady from hready]
    exact (ledger_run hr').isReady_iff

/-- A critical check is registered and run, and two probes ask whether all is well and whether the system is
ready. -/
def registerRunProbe : Fin 4 → HealthCall
  | 0 => .registerCheck ⟨"database", true⟩
  | 1 => .startMonitoring 1
  | 2 => .healthHandler
  | 3 => .readinessHandler

/-- The one after the other; the check times out. -/
def registerThenRunThenProbe : HealthPool (Fin 4) :=
  .runSchedule (lockedHandler (healthHandler .default))
    (List.replicate 8 0 ++ List.replicate 13 1 ++ List.replicate 4 2 ++ List.replicate 5 3)
    (HealthPool.start noOutcome givenOrder registerRunProbe)

/-- Neither is answered yes. -/
theorem registerThenRunThenProbe_answered :
    registerThenRunThenProbe.shared.data.healthStatus.isHealthy = false ∧
      registerThenRunThenProbe.shared.data.isReady = false := by
  have hr : HealthReach .default noOutcome givenOrder registerRunProbe registerThenRunThenProbe :=
    Pool.reach_of_admits (by decide)
  have hruns : runsOf "database" (healthEntries (registerThenRunThenProbe.history.take 23)) =
      some [(true, noOutcome 0)] := rfl
  have hruns' : runsOf "database" (healthEntries (registerThenRunThenProbe.history.take 29)) =
      some [(true, noOutcome 0)] := rfl
  have hcheck : checkOf "database" (healthEntries (registerThenRunThenProbe.history.take 29)) =
      some ⟨"database", true⟩ := rfl
  constructor
  · have hp : registerThenRunThenProbe.history = registerThenRunThenProbe.history.take 23 ++
        ⟨2, .data .healthStatus, registerThenRunThenProbe.shared.data.healthStatus⟩ ::
          registerThenRunThenProbe.history.drop 24 := rfl
    refine Bool.eq_false_of_not_eq_true fun hhealthy => ?_
    exact absurd (((probes_answered hr).1 _ hp).mp hhealthy _ _ hruns) (by decide)
  · have hp : registerThenRunThenProbe.history = registerThenRunThenProbe.history.take 29 ++
        ⟨3, .data .isReady, registerThenRunThenProbe.shared.data.isReady⟩ :: [] := rfl
    refine Bool.eq_false_of_not_eq_true fun hready => ?_
    exact absurd rfl (((probes_answered hr).2 _ hp).mp hready _ _ hcheck rfl _ hruns')

end Botmev.Core
