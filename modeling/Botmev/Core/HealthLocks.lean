import Botmev.Core.HealthChecker
import Botmev.Library.LockOrder

/-!
# Deadlocks of the health checker

Registering a check takes the lock of the checks and then that of the results; asking whether the
system is ready takes them the other way round. Once the one has its first lock and the other its own,
neither goes on.

## What is proved

* `HealthCall.keepsOrder`: which locks a call takes, and what it does with the data meanwhile.
* `no_result_missing`: a check that is run has a result, in every run.
* `exists_deadlocked`: a registration and a readiness probe can come to wait for each other.
* `completable_iff`: without the one or the other, every run can be completed.
-/

namespace Botmev.Core

open Botmev.Rust Botmev.Library

/-! ### The discipline of the calls -/

/-- Where a call is. -/
inductive HealthStage where
  /-- It does nothing with a check. -/
  | idle
  /-- It is to register a check. -/
  | registering (check : HealthCheck)
  /-- It has registered a check that has no result yet. -/
  | inserting (name : String)
  /-- It has found the check that it runs. -/
  | found (name : String)
  /-- It has found no result. -/
  | crashed

/-- The locks that it has there. -/
def HealthStage.fits : HealthStage → List (HealthLock × Access) → Prop
  | .inserting _, held => (.checks, .write) ∈ held
  | .found _, held => ∃ access, (.checks, access) ∈ held
  | _, _ => True

/-- What it does with the data. -/
inductive HealthMove : HealthStage → (op : HealthOp) → HealthI.Reply op → HealthStage → Prop
  /-- It registers a check. -/
  | insertCheck {check : HealthCheck} :
      HealthMove (.registering check) (.insertCheck check) () (.inserting check.name)
  /-- It gives the check a result. -/
  | insertResult {name : String} : HealthMove (.inserting name) (.insertResult name) () .idle
  /-- It reads the names of the checks. -/
  | checkNames {names : List String} : HealthMove .idle .checkNames names .idle
  /-- It finds a check. -/
  | getCheck {name : String} {check : HealthCheck} : HealthMove .idle (.getCheck name) (some check) (.found name)
  /-- It does not find it. -/
  | getNone {name : String} : HealthMove .idle (.getCheck name) none .idle
  /-- It runs the check. -/
  | perform {name : String} {outcome : CheckOutcome} : HealthMove (.found name) .perform outcome (.found name)
  /-- It records what has come of it. -/
  | record {name : String} {isCritical : Bool} {outcome : CheckOutcome} {recorded : Result Unit}
      (hfound : recorded ≠ .error HealthState.unwrapNone) :
      HealthMove (.found name) (.recordOutcome name isCritical outcome) recorded .idle
  /-- It finds no result. -/
  | crash {name : String} {isCritical : Bool} {outcome : CheckOutcome} :
      HealthMove (.found name) (.recordOutcome name isCritical outcome) (.error HealthState.unwrapNone) .crashed
  /-- It reads the status. -/
  | healthStatus {status : HealthStatus} : HealthMove .idle .healthStatus status .idle
  /-- It reads whether the system is ready. -/
  | isReady {ready : Bool} : HealthMove .idle .isReady ready .idle

/-- The discipline, where checks are registered or not. -/
@[reducible] def healthDiscipline (registers : Prop) (before : HealthLock → HealthLock → Prop) :
    LockDiscipline HealthLock HealthI where
  written l := l = .checks → registers
  before := before
  Stage := HealthStage
  fits := HealthStage.fits
  move := HealthMove

/-- A part of a call keeps the discipline. -/
abbrev KeepsOrder {ι α : Type} (registers : Prop) (before : HealthLock → HealthLock → Prop) (i : ι)
    (held : List (HealthLock × Access)) (stage : HealthStage) (ends : HealthStage → Result α → Prop)
    (t : HealthM ι α) : Prop :=
  ((healthDiscipline registers before).protocol ι).Follows ((healthDiscipline registers before).EndsWith i held ends)
    ⟨i, held, none, stage⟩ t

/-- How it ends. -/
def HealthEnds {α : Type} (stage : HealthStage) (r : Result α) : Prop :=
  (stage = .idle ∧ r ≠ .error HealthState.unwrapNone) ∨ (stage = .crashed ∧ r = .error HealthState.unwrapNone)

section follows

variable {ι α β : Type} {registers : Prop} {before : HealthLock → HealthLock → Prop} {i : ι}
  {held : List (HealthLock × Access)}

theorem fits_of_ends {stage : HealthStage} {r : Result α} (h : HealthEnds stage r) : stage.fits held := by
  rcases h with ⟨rfl, -⟩ | ⟨rfl, -⟩ <;> trivial

theorem healthEnds_ok (a : α) : HealthEnds .idle (.ok a : Result α) := .inl ⟨rfl, by simp⟩

theorem HealthEnds.error {stage : HealthStage} {e : Failure} (h : HealthEnds stage (.error e : Result α)) :
    HealthEnds stage (.error e : Result β) := by
  refine h.imp (fun ⟨hidle, he⟩ => ⟨hidle, fun he' => he ?_⟩) fun ⟨hcrashed, he⟩ => ⟨hcrashed, ?_⟩
  · rw [Except.error.inj he']
  · rw [Except.error.inj he]

theorem pure_keepsOrder (a : α) : KeepsOrder registers before i held .idle HealthEnds (pure a) :=
  ⟨_, rfl, healthEnds_ok a⟩

theorem read_keepsOrder {op : HealthOp} (h : ∀ reply, HealthMove .idle op reply .idle) :
    KeepsOrder registers before i held .idle HealthEnds (onData (J := HealthI) op) :=
  onData_follows fun reply => ⟨HealthStage.idle, h reply, trivial, healthEnds_ok reply⟩

theorem registerCheck_keepsOrder (check : HealthCheck) (hregisters : registers) (hbefore : before .checks .results) :
    KeepsOrder registers before i [] (.registering check) HealthEnds (registerCheck i check) := by
  refine withLock_follows (by simp) (fun _ _ => hregisters) (by simp) trivial ?_ fun _ _ h => fits_of_ends h
  have hinsert : KeepsOrder registers before i [(.checks, .write)] (.registering check)
      (fun stage r => stage = HealthStage.inserting check.name ∧ r = .ok ())
      (onData (J := HealthI) (.insertCheck check)) :=
    onData_follows fun _ => ⟨.inserting check.name, .insertCheck, List.mem_singleton_self _, rfl, rfl⟩
  refine follows_bind hinsert ?_ ?_
  · rintro _ ⟨⟩ ⟨rfl, -⟩
    refine withLock_follows (by simp) (fun _ h => by cases h) ?_ ?_ ?_ fun _ _ h => fits_of_ends h
    · intro _ entry hentry _
      rw [List.mem_singleton.mp hentry]
      exact hbefore
    · exact List.mem_cons_of_mem _ (List.mem_singleton_self _)
    · exact onData_follows fun _ => ⟨HealthStage.idle, .insertResult, trivial, healthEnds_ok ()⟩
  · rintro _ e ⟨-, h⟩
    cases h

theorem runSingleCheck_keepsOrder (name : String) (isCritical : Bool) (hbefore : before .checks .results) :
    KeepsOrder registers before i [(.checks, .read)] (.found name) HealthEnds (runSingleCheck i name isCritical) := by
  have hperform : KeepsOrder registers before i [(.checks, .read)] (.found name)
      (fun stage r => stage = HealthStage.found name ∧ ∃ outcome, r = .ok outcome) (onData (J := HealthI) .perform) :=
    onData_follows fun outcome => ⟨.found name, .perform, ⟨_, List.mem_singleton_self _⟩, rfl, outcome, rfl⟩
  refine follows_bind hperform ?_ ?_
  · rintro _ outcome ⟨rfl, -⟩
    refine withLock_follows (by simp) (fun _ h => by cases h) ?_ ?_ ?_ fun _ _ h => fits_of_ends h
    · intro _ entry hentry _
      rw [List.mem_singleton.mp hentry]
      exact hbefore
    · exact ⟨.read, List.mem_cons_of_mem _ (List.mem_singleton_self _)⟩
    · intro recorded _
      by_cases hfound : recorded = .error HealthState.unwrapNone
      · subst hfound
        exact ⟨_, .data rfl .crash trivial, _, rfl, .inr ⟨rfl, rfl⟩⟩
      · exact ⟨_, .data rfl (.record hfound) trivial, _, rfl, .inl ⟨rfl, hfound⟩⟩
  · rintro _ e ⟨-, _, h⟩
    cases h

theorem runCheck_keepsOrder (name : String) (hbefore : before .checks .results) :
    KeepsOrder registers before i [] .idle HealthEnds (runCheck i name) := by
  refine withLock_follows (by simp) (by simp) (by simp) trivial ?_ fun _ _ h => fits_of_ends h
  rintro (_ | check) _
  · exact ⟨_, .data rfl .getNone trivial, pure_keepsOrder ()⟩
  · exact ⟨_, .data rfl .getCheck ⟨_, List.mem_singleton_self _⟩, runSingleCheck_keepsOrder name _ hbefore⟩

theorem bind_keepsOrder {stage : HealthStage} {t : HealthM ι α} {f : α → HealthM ι β}
    (ht : KeepsOrder registers before i held stage HealthEnds t)
    (hf : ∀ a, KeepsOrder registers before i held .idle HealthEnds (f a)) :
    KeepsOrder registers before i held stage HealthEnds (t >>= f) := by
  refine follows_bind ht ?_ fun _ _ h => h.error
  rintro _ a (⟨rfl, -⟩ | ⟨-, h⟩)
  · exact hf a
  · cases h

theorem runChecks_keepsOrder (names : List String) (hbefore : before .checks .results) :
    KeepsOrder registers before i [] .idle HealthEnds (runChecks i names) := by
  induction names with
  | nil => exact pure_keepsOrder ()
  | cons name names ih => exact bind_keepsOrder (runCheck_keepsOrder name hbefore) fun _ => ih

theorem startMonitoring_keepsOrder (ticks : ℕ) (hbefore : before .checks .results) :
    KeepsOrder registers before i [] .idle HealthEnds (startMonitoring i ticks) := by
  induction ticks with
  | zero => exact pure_keepsOrder ()
  | succ n ih =>
    refine bind_keepsOrder (bind_keepsOrder ?_ fun names => runChecks_keepsOrder names hbefore) fun _ => ih
    exact withLock_follows (by simp) (by simp) (by simp) trivial (read_keepsOrder fun _ => .checkNames)
      fun _ _ h => fits_of_ends h

theorem getHealthStatus_keepsOrder : KeepsOrder registers before i [] .idle HealthEnds (getHealthStatus i) :=
  withLock_follows (by simp) (by simp) (by simp) trivial (read_keepsOrder fun _ => .healthStatus)
    fun _ _ h => fits_of_ends h

theorem isReady_keepsOrder (hready : registers → before .results .checks) :
    KeepsOrder registers before i [] .idle HealthEnds (isReady i) := by
  refine withLock_follows (by simp) (by simp) (by simp) trivial ?_ fun _ _ h => fits_of_ends h
  refine withLock_follows (by simp) (by simp) ?_ trivial (read_keepsOrder fun _ => .isReady) fun _ _ h => fits_of_ends h
  intro hwritten entry hentry _
  rw [List.mem_singleton.mp hentry]
  exact hready (hwritten rfl)

/-- Where a call begins. -/
def HealthCall.stage : HealthCall → HealthStage
  | .registerCheck check => .registering check
  | .startMonitoring _ | .healthHandler | .readinessHandler => .idle

theorem HealthCall.stage_fits (call : HealthCall) : call.stage.fits [] := by
  cases call <;> trivial

theorem HealthCall.stage_cases (call : HealthCall) :
    (∃ check, call = .registerCheck check ∧ call.stage = .registering check) ∨ call.stage = .idle := by
  cases call with
  | registerCheck check => exact .inl ⟨check, rfl, rfl⟩
  | startMonitoring _ | healthHandler | readinessHandler => exact .inr rfl

/-- **A call takes the locks in this order.** -/
theorem HealthCall.keepsOrder (call : HealthCall) (hbefore : before .checks .results)
    (hregister : ∀ check, call = .registerCheck check → registers)
    (hready : call = .readinessHandler → registers → before .results .checks) :
    KeepsOrder registers before i [] call.stage HealthEnds (call.task i) := by
  cases call with
  | registerCheck check =>
    exact bind_keepsOrder (registerCheck_keepsOrder check (hregister check rfl) hbefore) fun _ => pure_keepsOrder _
  | startMonitoring ticks => exact bind_keepsOrder (startMonitoring_keepsOrder ticks hbefore) fun _ => pure_keepsOrder _
  | healthHandler => exact bind_keepsOrder getHealthStatus_keepsOrder fun _ => pure_keepsOrder _
  | readinessHandler => exact bind_keepsOrder (isReady_keepsOrder (hready rfl)) fun _ => pure_keepsOrder _

end follows

/-! ### No result is missing -/

variable {ι : Type} [DecidableEq ι] {config : HealthConfig} {outcomes : ℕ → CheckOutcome}
  {keyOrder : ℕ → CheckOrder} {calls : ι → HealthCall} {p : HealthPool ι}

/-- Runs of calls of a new health checker. -/
abbrev HealthReach (config : HealthConfig) (outcomes : ℕ → CheckOutcome) (keyOrder : ℕ → CheckOrder)
    (calls : ι → HealthCall) (p : HealthPool ι) : Prop :=
  Pool.Reach (lockedHandler (healthHandler config)) CanGoOn (HealthPool.start outcomes keyOrder calls) p

/-- A check without a result is just being registered, by a call that registers it. -/
structure ResultsKept (calls : ι → HealthCall) (s : HealthState) (stage : ι → HealthStage) : Prop where
  /-- A call is to register its own check. -/
  registering : ∀ i check, stage i = .registering check → calls i = .registerCheck check
  /-- And it does so. -/
  inserting : ∀ i name, stage i = .inserting name → ∃ check, calls i = .registerCheck check ∧ check.name = name
  /-- Registered checks have results. -/
  registered : ∀ name ∈ s.checks, name ∈ s.results ∨ ∃ i, stage i = .inserting name
  /-- So have those that are run. -/
  found : ∀ i name, stage i = .found name → name ∈ s.results
  /-- No call has crashed. -/
  crashed : ∀ i, stage i ≠ .crashed

omit [DecidableEq ι] in
theorem ResultsKept.start {s : HealthState} (h : ∀ name, name ∉ s.checks) :
    ResultsKept calls s fun i => (calls i).stage where
  registering i check hi := by
    obtain ⟨check', hcall, hstage⟩ | hstage := (calls i).stage_cases
    · rw [hcall, HealthStage.registering.inj (hstage.symm.trans hi)]
    · cases hstage.symm.trans hi
  inserting i name hi := by
    rcases (calls i).stage_cases with ⟨_, -, hstage⟩ | hstage <;> cases hstage.symm.trans hi
  registered name hname := absurd hname (h name)
  found i name hi := by
    rcases (calls i).stage_cases with ⟨_, -, hstage⟩ | hstage <;> cases hstage.symm.trans hi
  crashed i hi := by
    rcases (calls i).stage_cases with ⟨_, -, hstage⟩ | hstage <;> cases hstage.symm.trans hi

/-- A step of one call that leaves the checks and the results there are. -/
theorem ResultsKept.of_step {s s' : HealthState} {stages : ι → HealthStage} {i : ι} {stage : HealthStage}
    (hI : ResultsKept calls s stages) (hregistering : ∀ check, stage ≠ .registering check)
    (hinserting : ∀ name, stage = .inserting name → ∃ check, stages i = .registering check ∧ check.name = name)
    (hchecks : ∀ name ∈ s'.checks, name ∈ s.checks ∨ stage = .inserting name)
    (hresults : ∀ name ∈ s.results, name ∈ s'.results)
    (hinserted : ∀ name, stages i = .inserting name → stage = .inserting name ∨ name ∈ s'.results)
    (hfound : ∀ name, stage = .found name → name ∈ s'.results) (hcrashed : stage ≠ .crashed) :
    ResultsKept calls s' (Function.update stages i stage) where
  registering := (Function.forall_update_iff stages fun j stage =>
    ∀ check, stage = .registering check → calls j = .registerCheck check).mpr
      ⟨fun check h => absurd h (hregistering check), fun j _ => hI.registering j⟩
  inserting := (Function.forall_update_iff stages fun j stage =>
    ∀ name, stage = .inserting name → ∃ check, calls j = .registerCheck check ∧ check.name = name).mpr
      ⟨fun name h => (hinserting name h).imp fun check => .imp_left (hI.registering i check),
        fun j _ => hI.inserting j⟩
  registered name hname := by
    rcases hchecks name hname with hname | rfl
    · rcases hI.registered name hname with hname | ⟨j, hj⟩
      · exact .inl (hresults name hname)
      · by_cases hji : j = i
        · subst hji
          exact (hinserted name hj).symm.imp_right fun h => ⟨j, by rw [Function.update_self, h]⟩
        · exact .inr ⟨j, by rw [Function.update_of_ne hji, hj]⟩
    · exact .inr ⟨i, Function.update_self ..⟩
  found := (Function.forall_update_iff stages fun _ stage => ∀ name, stage = .found name → name ∈ s'.results).mpr
    ⟨hfound, fun j _ name h => hresults name (hI.found j name h)⟩
  crashed := (Function.forall_update_iff stages fun _ stage => stage ≠ .crashed).mpr
    ⟨hcrashed, fun j _ => hI.crashed j⟩

/-- A step that leaves them, too, and after which the call has nothing to do with a check. -/
theorem ResultsKept.to_idle {s s' : HealthState} {stages : ι → HealthStage} {i : ι} (hI : ResultsKept calls s stages)
    (hnone : ∀ name, stages i ≠ .inserting name) (hchecks : ∀ name ∈ s'.checks, name ∈ s.checks)
    (hresults : ∀ name ∈ s.results, name ∈ s'.results) : ResultsKept calls s' (Function.update stages i .idle) :=
  hI.of_step (by simp) (by simp) (fun name h => .inl (hchecks name h)) hresults (fun name h => absurd h (hnone name))
    (by simp) (by simp)

theorem CheckResult.record_ne_unwrapNone (current : CheckResult) (isCritical : Bool) (outcome : CheckOutcome) :
    (current.record config isCritical outcome).1 ≠ .error HealthState.unwrapNone := by
  have hcount : ∀ result : CheckResult, result.countFailure.1 ≠ .error HealthState.unwrapNone := by
    intro result
    unfold CheckResult.countFailure Uint.add
    split_ifs <;> simp [HealthState.unwrapNone]
  unfold CheckResult.record
  split
  · simp
  · exact hcount _
  · exact hcount _

theorem recordOutcome_of_mem {s : HealthState} {name : String} (hname : name ∈ s.results) (isCritical : Bool)
    (outcome : CheckOutcome) :
    (s.recordOutcome config name isCritical outcome).1 ≠ .error HealthState.unwrapNone ∧
      ∀ other ∈ s.results, other ∈ (s.recordOutcome config name isCritical outcome).2.results := by
  obtain ⟨current, hcurrent⟩ := Option.isSome_iff_exists.mp (AList.lookup_isSome.mpr hname)
  rw [HealthState.recordOutcome, hcurrent]
  exact ⟨current.record_ne_unwrapNone isCritical outcome, fun other hother => AList.mem_insert _ |>.mpr (.inr hother)⟩

theorem recordOutcome_checks (s : HealthState) (name : String) (isCritical : Bool) (outcome : CheckOutcome) :
    (s.recordOutcome config name isCritical outcome).2.checks = s.checks := by
  unfold HealthState.recordOutcome
  split <;> rfl

/-- **One step**: who finds a check finds its result, as nobody registers it meanwhile. -/
theorem ResultsKept.step {s : HealthState} {φ : ι → LockPhase ι HealthLock HealthStage} {i : ι} {op : HealthOp}
    {stage : HealthStage} (hI : ResultsKept calls s fun i => (φ i).stage) (hfits : ∀ i, (φ i).stage.fits (φ i).held)
    (halone : ∀ i j l access, (l, Access.write) ∈ (φ i).held → (l, access) ∈ (φ j).held → j = i)
    (hm : HealthMove (φ i).stage op (healthHandler config op s).1 stage) (hstage : stage.fits (φ i).held) :
    ResultsKept calls (healthHandler config op s).2 (Function.update (fun i => (φ i).stage) i stage) := by
  generalize hi : (φ i).stage = stageᵢ at hm
  generalize hreply : (healthHandler config op s).1 = reply at hm
  cases hm with
  | @insertCheck check =>
    have hinserting : ∀ name, HealthStage.inserting check.name = .inserting name →
        ∃ check, (φ i).stage = .registering check ∧ check.name = name := fun _ h =>
      ⟨check, hi, HealthStage.inserting.inj h⟩
    refine hI.of_step (by simp) hinserting (fun name hname => ?_) (fun _ h => h) (fun name h => ?_)
      (fun name h => by cases h) (by simp)
    · rcases AList.mem_insert _ |>.mp hname with rfl | hname
      · exact .inr rfl
      · exact .inl hname
    · rw [hi] at h
      cases h
  | @insertResult name =>
    refine hI.of_step (by simp) (by simp) (fun _ h => .inl h) (fun _ h => AList.mem_insert _ |>.mpr (.inr h))
      (fun name' h => ?_) (fun name h => by cases h) (by simp)
    rw [hi] at h
    cases h
    exact .inr (AList.mem_insert _ |>.mpr (.inl rfl))
  | @getCheck name check =>
    have hname : name ∈ s.checks := AList.lookup_isSome.mp (by rw [show s.checks.lookup name = _ from hreply]; rfl)
    refine hI.of_step (by simp) (by simp) (fun _ h => .inl h) (fun _ h => h) (fun name h => ?_)
      (fun name' h => ?_) (by simp)
    · rw [hi] at h
      cases h
    · cases h
      refine (hI.registered name hname).resolve_right ?_
      rintro ⟨j, hj⟩
      -- The one that registers it would have the lock of the checks, too.
      obtain ⟨access, hheld⟩ := hstage
      have hwrites := hfits j
      rw [hj] at hwrites
      obtain rfl := halone j i _ _ hwrites hheld
      rw [hi] at hj
      cases hj
  | @perform name outcome =>
    refine hI.of_step (by simp) (by simp) (fun _ h => .inl h) (fun _ h => h) (fun name h => ?_)
      (fun name' h => ?_) (by simp)
    · rw [hi] at h
      cases h
    · exact hI.found i name' (hi.trans h)
  | @record name isCritical outcome _ _ =>
    have hname := hI.found i name hi
    refine hI.to_idle (by simp [hi]) (fun other h => ?_) (recordOutcome_of_mem hname _ _).2
    rwa [healthHandler, recordOutcome_checks] at h
  | @crash name isCritical outcome =>
    exact absurd hreply (recordOutcome_of_mem (hI.found i name hi) _ _).1
  | checkNames | getNone | healthStatus | isReady => exact hI.to_idle (by simp [hi]) (fun _ h => h) fun _ h => h

theorem exists_resultsKept (hr : HealthReach config outcomes keyOrder calls p) :
    ∃ φ, (LocksHeld (healthDiscipline True fun _ _ => True) p.shared.queue φ ∧
        ResultsKept calls p.shared.data fun i => (φ i).stage) ∧
      ∀ i, ((healthDiscipline True fun _ _ => True).protocol ι).Follows
        ((healthDiscipline True fun _ _ => True).Ends HealthEnds) (φ i) (p.tasks i) := by
  have hstart : ∀ i, ((healthDiscipline True fun _ _ => True).protocol ι).Follows
      ((healthDiscipline True fun _ _ => True).Ends HealthEnds) (LockPhase.free i (calls i).stage)
      ((HealthPool.start outcomes keyOrder calls).tasks i) := fun i =>
    follows_of_endsWith ((calls i).keepsOrder trivial (fun _ _ => trivial) fun _ _ => trivial)
  refine exists_locksHeld hr hstart (LocksHeld.start fun i => (calls i).stage_fits) (ResultsKept calls) ?_ ?_
  · exact .start (fun _ => AList.notMem_empty _)
  · exact fun s φ i op stage hfits halone hI hm hstage => hI.step hfits halone hm hstage

/-- **A check that is run has a result, in every run**: only while a check is being registered has it none,
and then a call that registers a check of that name has the lock of the checks, and nobody else. -/
theorem no_result_missing (hr : HealthReach config outcomes keyOrder calls p) :
    (∀ i, p.tasks i ≠ .done (.error HealthState.unwrapNone)) ∧
      ∀ name ∈ p.shared.data.checks, name ∉ p.shared.data.results →
        ∃ i check, calls i = .registerCheck check ∧ check.name = name ∧
          LockQueue.holders (p.shared.queue .checks) = [(i, .write)] := by
  obtain ⟨φ, ⟨hI, hresults⟩, hφ⟩ := exists_resultsKept hr
  constructor
  · intro i hi
    have hends := hφ i
    rw [hi] at hends
    obtain ⟨-, -, ⟨-, hne⟩ | ⟨hcrashed, -⟩⟩ := hends
    · exact hne rfl
    · exact hresults.crashed i hcrashed
  · intro name hname hmissing
    obtain ⟨i, hi⟩ := (hresults.registered name hname).resolve_left hmissing
    obtain ⟨check, hcall, hcheck⟩ := hresults.inserting i name hi
    have hfits := (hI.tasks i).fits
    rw [hi] at hfits
    exact ⟨i, check, hcall, hcheck, LockQueue.holders_eq_of_write ((hI.tasks i).held _ _ hfits)⟩

/-- A check is registered, while the checks are run. -/
def registerAndRun : Fin 2 → HealthCall
  | 0 => .registerCheck ⟨"database", true⟩
  | 1 => .startMonitoring 1

/-- What the checks of an example do, and in which order they come. -/
def noOutcome (_ : ℕ) : CheckOutcome := ⟨none, 0, 0⟩

@[inherit_doc noOutcome]
def givenOrder (_ : ℕ) : CheckOrder := ⟨id, fun _ => .refl _⟩

/-- Who registers a check has the lock while the check has no result. -/
theorem registering_alone :
    ∃ i check, registerAndRun i = .registerCheck check ∧ check.name = "database" ∧
      LockQueue.holders ((Pool.runSchedule (lockedHandler (healthHandler .default)) [1, 1, 1, 0, 1, 0, 0]
        (HealthPool.start noOutcome givenOrder registerAndRun)).shared.queue .checks) = [(i, .write)] :=
  (no_result_missing (Pool.reach_of_admits (by decide))).2 "database" (by decide) (by decide)

/-! ### Deadlocks -/

variable {i j : ι} {check : HealthCheck}

theorem exists_after {op : LockedOp ι HealthLock HealthOp}
    {k : (LockedI ι HealthLock HealthI).Reply op → HealthM ι (Option ℕ)}
    (hr : HealthReach config outcomes keyOrder calls p) (hi : p.tasks i = .await op k)
    (hready : ∀ j l, op = .acquire j l → p.shared.Holds j l) :
    ∃ p', HealthReach config outcomes keyOrder calls p' ∧
      p'.tasks i = k (lockedHandler (healthHandler config) op p.shared).1 ∧
      (∀ j, j ≠ i → p'.tasks j = p.tasks j) ∧ p'.shared = (lockedHandler (healthHandler config) op p.shared).2 := by
  have hG : CanGoOn p i := by
    rw [CanGoOn, hi, Async.next?_await]
    cases op with
    | acquire j l => exact hready j l rfl
    | _ => trivial
  exact ⟨_, hr.tail ⟨i, hG, Pool.step_of_await hi⟩, Function.update_self ..,
    fun _ hj => Function.update_of_ne hj .., rfl⟩

/-- **A registration and a readiness probe can come to wait for each other.** -/
theorem exists_deadlocked (hi : calls i = .registerCheck check) (hj : calls j = .readinessHandler) :
    ∃ p k k', HealthReach config outcomes keyOrder calls p ∧
      p.tasks i = .await (.acquire i .results) k ∧ p.tasks j = .await (.acquire j .checks) k' ∧
      p.shared.queue .checks = [(i, .write), (j, .read)] ∧ p.shared.queue .results = [(j, .read), (i, .write)] := by
  have hne : j ≠ i := by
    rintro rfl
    rw [hi] at hj
    cases hj
  have hi₀ : (HealthPool.start outcomes keyOrder calls).tasks i = HealthCall.task i (.registerCheck check) := by
    rw [← hi]
    rfl
  have hj₀ : (HealthPool.start outcomes keyOrder calls).tasks j = HealthCall.task j .readinessHandler := by
    rw [← hj]
    rfl
  -- The one takes the lock of the checks, the other that of the results.
  have hr₀ : HealthReach config outcomes keyOrder calls (HealthPool.start outcomes keyOrder calls) := .refl
  obtain ⟨p₁, hr₁, hi₁, hj₁, hs₁⟩ := exists_after hr₀ hi₀ (by simp)
  have hq₁ : p₁.shared.queue = Function.update (fun _ => []) HealthLock.checks [(i, .write)] := by
    rw [hs₁]
    rfl
  have hchecks : p₁.shared.Holds i .checks := Locked.holds_iff.mpr ⟨.write, by simp [hq₁, LockQueue.holders]⟩
  obtain ⟨p₂, hr₂, hi₂, hj₂, hs₂⟩ := exists_after hr₁ hi₁ (by simpa using hchecks)
  obtain ⟨p₃, hr₃, hj₃, hi₃, hs₃⟩ := exists_after hr₂ ((hj₂ j hne).trans ((hj₁ j hne).trans hj₀)) (by simp)
  have hq₃ : p₃.shared.queue = Function.update p₁.shared.queue .results [(j, .read)] := by
    rw [hs₃, hs₂]
    simp [lockedHandler, hq₁]
  have hresults : p₃.shared.Holds j .results := Locked.holds_iff.mpr ⟨.read, by simp [hq₃, LockQueue.holders]⟩
  obtain ⟨p₄, hr₄, hj₄, hi₄, hs₄⟩ := exists_after hr₃ hj₃ (by simpa using hresults)
  -- Then each asks for the other.
  obtain ⟨p₅, hr₅, hi₅, hj₅, hs₅⟩ := exists_after hr₄ ((hi₄ i hne.symm).trans ((hi₃ i hne.symm).trans hi₂)) (by simp)
  obtain ⟨p₆, hr₆, hi₆, hj₆, hs₆⟩ := exists_after hr₅ hi₅ (by simp)
  obtain ⟨p₇, hr₇, hj₇, hi₇, hs₇⟩ := exists_after hr₆ ((hj₆ j hne).trans ((hj₅ j hne).trans hj₄)) (by simp)
  have hq₇ : p₇.shared.queue = Function.update (Function.update p₃.shared.queue .results [(j, .read), (i, .write)])
      .checks [(i, .write), (j, .read)] := by
    rw [hs₇, hs₆, hs₅, hs₄]
    simp [lockedHandler, healthHandler, hq₃, hq₁]
  exact ⟨p₇, _, _, hr₇, (hi₇ i hne.symm).trans hi₆, hj₇, by simp [hq₇], by simp [hq₇]⟩

/-- The order in which all but the readiness probe take the locks. -/
def ChecksFirst (l l' : HealthLock) : Prop := l = .checks ∧ l' = .results

theorem wellFounded_checksFirst : WellFounded fun l' l => ChecksFirst l l' := by
  refine Subrelation.wf ?_ (measure fun l : HealthLock => if l = .checks then 1 else 0).wf
  rintro l' l ⟨rfl, rfl⟩
  exact Nat.zero_lt_one

/-- **When every run can be completed**: no check is registered, or nobody asks whether the system is ready. -/
theorem completable_iff [Finite ι] (config : HealthConfig) (outcomes : ℕ → CheckOutcome) (keyOrder : ℕ → CheckOrder)
    (calls : ι → HealthCall) :
    (∀ p, HealthReach config outcomes keyOrder calls p →
        ∃ p', Pool.Reach (lockedHandler (healthHandler config)) CanGoOn p p' ∧ ∀ i, ∃ r, p'.tasks i = .done r) ↔
      ¬((∃ i check, calls i = .registerCheck check) ∧ ∃ j, calls j = .readinessHandler) := by
  constructor
  · rintro hcompletable ⟨⟨i, check, hi⟩, j, hj⟩
    obtain ⟨p, k, k', hr, hik, hjk, hchecks, hresults⟩ := exists_deadlocked hi hj
    obtain ⟨p', hr', hdone⟩ := hcompletable p hr
    obtain ⟨φ, ⟨hI, -⟩, hφ⟩ := exists_resultsKept hr
    have hne : j ≠ i := by
      rintro rfl
      rw [hi] at hj
      cases hj
    obtain ⟨access, hpending⟩ := exists_pending_of_acquire (hik ▸ hφ i)
    obtain ⟨access', hpending'⟩ := exists_pending_of_acquire (hjk ▸ hφ j)
    have hw : WaitForEachOther (D := healthDiscipline True fun _ _ => True) φ i j .checks .results := by
      refine ⟨hne, ?_, ⟨.read, ?_⟩, ?_, access', hpending'⟩
      · exact (((hI.tasks i).asked .checks .write).mp (by simp [hchecks])).resolve_right (by simp [hpending])
      · exact (((hI.tasks j).asked .results .read).mp (by simp [hresults])).resolve_right (by simp [hpending'])
      · have hasked := ((hI.tasks i).asked .results access).mpr (.inr hpending)
        obtain rfl : access = .write := by simpa [hresults, hne.symm] using hasked
        exact hpending
    obtain ⟨r, hr⟩ := hdone i
    have hunfinished := (hw.unfinished hr' hφ hI).1
    rw [hr] at hunfinished
    cases hunfinished
  · intro hnot p hr
    let D := healthDiscipline (∃ i check, calls i = .registerCheck check) ChecksFirst
    have hfollows : ∀ i, (D.protocol ι).Follows (D.Ends HealthEnds) (LockPhase.free i (calls i).stage)
        ((calls i).task i) := fun i =>
      follows_of_endsWith ((calls i).keepsOrder ⟨rfl, rfl⟩ (fun check h => ⟨i, check, h⟩)
        fun hready hregisters => absurd ⟨hregisters, i, hready⟩ hnot)
    exact exists_completed_of_ordered wellFounded_checksFirst hr hfollows
      (LocksHeld.start fun i => (calls i).stage_fits)

/-- A check is registered, while a probe asks whether the system is ready. -/
def registerAndReady : Fin 2 → HealthCall
  | 0 => .registerCheck ⟨"database", true⟩
  | 1 => .readinessHandler

/-- Not every run of these can be completed. -/
theorem registerAndReady_stuck : ∃ p, HealthReach .default noOutcome givenOrder registerAndReady p ∧
    ∀ p', Pool.Reach (lockedHandler (healthHandler .default)) CanGoOn p p' → ∃ i, ∀ r, p'.tasks i ≠ .done r := by
  by_contra h
  push Not at h
  exact (completable_iff .default noOutcome givenOrder registerAndReady).mp h ⟨⟨0, _, rfl⟩, 1, rfl⟩

end Botmev.Core
