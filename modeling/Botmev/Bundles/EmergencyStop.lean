import Botmev.Bundles.RetryBound

/-!
# The kill switch

The kill switch is looked at once, at the start of `handle_failure`. A call that has found it
off goes on to wait for its retry, or to roll back, whether or not the switch is turned on
meanwhile; a call that has not looked yet is turned away.

## What is proved

* `passed_harmless_iff`: which calls that have found the switch off can neither return a
  retry nor execute a rollback.
* `kill_switch_effective`: in every run in which the switch is only turned on when all calls
  in flight are such, none returns a retry or executes a rollback while the switch is on.
* `kill_switch_ignored`: a run in which, with the switch on, a call returns a retry and another
  executes a rollback.
-/

namespace Botmev.Bundles

open Botmev.Rust Botmev.Library

/-! ### What the switch is to stop -/

/-- To execute a rollback, up to its sleep or from it on. -/
def FailureOp.executesRollback : FailureOp → Bool
  | .startRollback _ | .completeRollback _ => true
  | _ => false

/-- Whether the switch is on once the operation is done: an `activate_kill_switch` or a
`deactivate_kill_switch` that returns decides, and nothing else does. -/
def FailureOp.switched : (op : FailureOp) → FailureI.Reply op → Bool → Bool
  | .activate _ _, .ok _, _ => true
  | .deactivate _, .ok _, _ => false
  | _, _, on => on

/-- Whether the switch is on: `activate_kill_switch` has returned, and `deactivate_kill_switch`
has not since. -/
def inForce {ι : Type} (history : List (Event FailureI ι)) : Bool :=
  history.foldl (fun on e => e.op.switched e.reply on) false

theorem inForce_append {ι : Type} (history : List (Event FailureI ι)) (e : Event FailureI ι) :
    inForce (history ++ [e]) = e.op.switched e.reply (inForce history) := by
  simp only [inForce, List.foldl_append, List.foldl_cons, List.foldl_nil]

/-- What is left of a call can neither return a retry nor execute a rollback, whatever the
others do. -/
def Harmless : FailureM (Option FailureResolution) → Prop
  | .done _ => True
  | .await op k => op.executesRollback = false ∧ ∀ s,
      (∀ delay maxAttempts, k (failureHandler op s).1 ≠ .done (.ok (some (.retry delay maxAttempts)))) ∧
        Harmless (k (failureHandler op s).1)

/-- The call has not looked at the switch, or is harmless. -/
def Quiet (t : FailureM (Option FailureResolution)) : Prop :=
  t.next? = some .isKillSwitchActivated ∨ Harmless t

variable {ι : Type} [DecidableEq ι] {calls : ι → FailureCall} {config : FailureConfig} {p : FailurePool ι}
  {i : ι} {op : FailureOp} {s : FailureState}

/-- **The kill switch is effective** in the pool: while it is on, whichever call goes on. -/
structure KillSwitchEffective (p : FailurePool ι) : Prop where
  /-- No call returns a retry. -/
  retries : inForce p.history = true → ∀ i p' delay maxAttempts, p.step failureHandler i = some p' →
    p'.tasks i ≠ .done (.ok (some (.retry delay maxAttempts)))
  /-- No call executes a rollback. -/
  rollbacks : inForce p.history = true → ∀ i op, (p.tasks i).next? = some op → op.executesRollback = false

/-- The switch is turned on only when no call that has found it off is still to retry or to
roll back. -/
def ActivatedWhenQuiet (p : FailurePool ι) (i : ι) : Prop :=
  match (p.tasks i).next? with
  | some (.activate _ _) => ∀ j, Quiet (p.tasks j)
  | _ => True

/-! ### Calls that have found the switch off -/

/-- What is left of `handle_failure` once it has found the switch off. -/
def passed (config : FailureConfig) (report : FailureReport) : FailureM (Option FailureResolution) := do
  Async.request (I := FailureI) (.insertFailure report.record)
  let counted ← Async.request (I := FailureI) (.updateFailureStats report.failureType)
  counted
  let resolution ← report.resolve config
  pure (some resolution)

theorem handle_task (config : FailureConfig) (report : FailureReport) :
    (FailureCall.handle report).task config = .await .isKillSwitchActivated fun activated =>
      if activated then .done (.ok (some .killSwitchActivated)) else passed config report := by
  show Async.await _ _ = _
  congr 1
  funext activated
  cases activated
  · show Async.await _ _ = Async.await _ _
    congr 1
    funext _
    show Async.await _ _ = Async.await _ _
    congr 1
    funext counted
    rcases counted with e | ⟨⟩ <;> rfl
  · rfl

/-- The failure can be settled without a retry and without a rollback. -/
def SettledAtOnce (config : FailureConfig) (failureType : FailureType) : Prop :=
  match determineResolutionStrategy failureType with
  | .retry _ maxAttempts => maxAttempts = 1
  | .rollback => config.autoRollback = false
  | _ => True

theorem countRetry_one_ne (failureId : String) (failures : Table String FailureRecord) :
    (FailureState.countRetry failureId 1 failures).1 ≠ .ok false := by
  unfold FailureState.countRetry
  split
  · nofun
  rename_i failure hfailure
  rcases hadd : Uint.add failure.retryCount 1 with e | retryCount
  · nofun
  have hone : (1 : BitVec 32).toNat = 1 := rfl
  have hle : (1 : BitVec 32) ≤ retryCount := by
    unfold Uint.add at hadd
    split at hadd
    · rename_i hlt
      cases hadd
      rw [BitVec.le_def, BitVec.toNat_add_of_lt hlt]
      omega
    · cases hadd
  simp only [if_pos hle]
  nofun

/-- To resolve the failure is harmless if it can be settled at once. -/
theorem resolve_harmless (report : FailureReport) (h : SettledAtOnce config report.failureType) :
    Harmless (report.resolve config >>= fun resolution => pure (some resolution)) := by
  unfold SettledAtOnce at h
  unfold FailureReport.resolve
  rcases hstrategy : determineResolutionStrategy report.failureType with
    ⟨delay, maxAttempts⟩ | _ | _ | _ | _ | _
  · rw [hstrategy] at h
    subst h
    refine ⟨rfl, ?_⟩
    intro s
    have hne : (failureHandler (.countRetry report.record.id 1) s).1 ≠ .ok false := countRetry_one_ne _ _
    generalize (failureHandler (.countRetry report.record.id 1) s).1 = reply at hne ⊢
    rcases reply with e | _ | _
    · exact ⟨nofun, trivial⟩
    · exact absurd rfl hne
    · exact ⟨nofun, trivial⟩
  · rw [hstrategy] at h
    simp only [resolve, initiateRollback, h]
    trivial
  · refine ⟨rfl, ?_⟩
    intro s
    generalize (failureHandler (.abortFailure report.record.id) s).1 = reply
    rcases reply with e | ⟨⟩
    · exact ⟨nofun, trivial⟩
    · exact ⟨nofun, trivial⟩
  · exact absurd hstrategy (strategy_ne_killSwitch _)
  · trivial
  · trivial

theorem settledAtOnce_of_harmless (report : FailureReport)
    (h : Harmless (report.resolve config >>= fun resolution => pure (some resolution))) :
    SettledAtOnce config report.failureType := by
  unfold SettledAtOnce
  unfold FailureReport.resolve at h
  rcases hstrategy : determineResolutionStrategy report.failureType with
    ⟨delay, maxAttempts⟩ | _ | _ | _ | _ | _
  · by_contra hne
    have hmore : maxAttempts.toNat ≠ 1 := fun h => hne (BitVec.eq_of_toNat_eq h)
    -- It has been recorded, and nothing else was done.
    have hcount := countRetry_recorded report FailureState.new.stats .new (maxAttempts_pos hstrategy)
    rw [decide_eq_false hmore] at hcount
    rw [hstrategy] at h
    have hdelay := (h.2 (report.recorded FailureState.new.stats .new)).2
    have hreply : (failureHandler (.countRetry report.record.id maxAttempts)
        (report.recorded FailureState.new.stats .new)).1 = .ok false := hcount
    rw [hreply] at hdelay
    exact (hdelay.2 .new).1 delay maxAttempts rfl
  · by_contra hroll
    rw [hstrategy] at h
    simp only [resolve, initiateRollback, if_pos (eq_true_of_ne_false hroll)] at h
    have hstart := (h.2 .new).2.1
    exact absurd hstart nofun
  · trivial
  · trivial
  · trivial
  · trivial

theorem resolve_ne_retry (config : FailureConfig) (report : FailureReport) (delay : ℕ)
    (maxAttempts : BitVec 32) :
    (report.resolve config >>= fun resolution => pure (some resolution)) ≠
      .done (.ok (some (.retry delay maxAttempts))) := by
  unfold FailureReport.resolve
  rcases determineResolutionStrategy report.failureType with ⟨_, _⟩ | _ | _ | _ | _ | _
  · nofun
  · unfold resolve initiateRollback
    rcases config.autoRollback with _ | _
    · nofun
    · nofun
  all_goals nofun

/-- **A call that has found the switch off is harmless** just when its failure can be settled
at once: it is an eviction, or for want of funds, or there are no rollbacks. -/
theorem passed_harmless_iff (config : FailureConfig) (report : FailureReport) :
    Harmless (passed config report) ↔ SettledAtOnce config report.failureType := by
  constructor
  · intro h
    have hcount := (h.2 .new).2
    have hs : StatsSound FailureState.new.stats := fun _ => Nat.le_refl _
    obtain ⟨stats, hstats, -⟩ := (updateFailureStats_run report.failureType hs).1 (by decide)
    have hreply : (failureHandler (.updateFailureStats report.failureType) .new).1 = .ok () :=
      congrArg Prod.fst hstats
    have hresolve := (hcount.2 .new).2
    rw [hreply] at hresolve
    exact settledAtOnce_of_harmless report hresolve
  · intro h
    -- The failure is recorded, and then it is counted.
    refine ⟨rfl, fun _ => ⟨nofun, rfl, ?_⟩⟩
    intro s
    generalize (failureHandler (.updateFailureStats report.failureType) s).1 = reply
    rcases reply with e | ⟨⟩
    · exact ⟨nofun, trivial⟩
    · exact ⟨resolve_ne_retry config report, resolve_harmless report h⟩

/-! ### The runs -/

theorem activated_frame (op : FailureOp) (s : FailureState)
    (hop : op.switched (failureHandler op s).1 true = true) (hon : s.killSwitch.activated = true) :
    (failureHandler op s).2.killSwitch.activated = true := by
  cases op with
  | activate reason activatedBy =>
    exact (s.activate_frame reason activatedBy).1
  | deactivate deactivatedBy =>
    exfalso
    have hreply : (failureHandler (.deactivate deactivatedBy) s).1 = .ok () := by
      show (s.deactivate deactivatedBy).1 = .ok ()
      rw [FailureState.deactivate, if_pos hon]
    rw [hreply] at hop
    cases hop
  | _ => exact hon

theorem eq_activate_of_switched (h : op.switched (failureHandler op s).1 false = true) :
    (∃ reason activatedBy, op = .activate reason activatedBy) ∧
      (failureHandler op s).2.killSwitch.activated = true := by
  cases op with
  | activate reason activatedBy =>
    exact ⟨⟨reason, activatedBy, rfl⟩, (s.activate_frame reason activatedBy).1⟩
  | deactivate deactivatedBy =>
    exfalso
    generalize (failureHandler (.deactivate deactivatedBy) s).1 = reply at h
    rcases reply with e | ⟨⟩ <;> cases h
  | _ => cases h

/-- A call that has not looked at the switch, or does not look any more. -/
def LooksOnce (config : FailureConfig) (t : FailureM (Option FailureResolution)) : Prop :=
  (∃ report, t = (FailureCall.handle report).task config) ∨
    t.Within fun op => op ≠ FailureOp.isKillSwitchActivated

theorem passed_within (config : FailureConfig) (report : FailureReport) :
    (passed config report).Within fun op => op ≠ FailureOp.isKillSwitchActivated := by
  refine ⟨nofun, fun _ => ⟨nofun, ?_⟩⟩
  intro counted
  rcases counted with e | ⟨⟩
  · trivial
  have hresolve := resolve_within config report.bundleId report.record.id report.rollbackUuid report.failureType
  show Async.Within _ (report.resolve config >>= fun resolution => pure (some resolution))
  refine Async.Within.bind (hresolve.mono fun op hop => ?_) fun _ => trivial
  rintro rfl
  exact hop

theorem FailureCall.looksOnce (config : FailureConfig) (call : FailureCall) :
    LooksOnce config (call.task config) := by
  cases call with
  | handle report => exact .inl ⟨report, rfl⟩
  | activate | deactivate =>
    refine .inr ⟨nofun, ?_⟩
    intro reply
    rcases reply with e | ⟨⟩ <;> trivial

theorem LooksOnce.step {k : FailureI.Reply op → FailureM (Option FailureResolution)}
    (h : LooksOnce config (.await op k)) (reply : FailureI.Reply op) : LooksOnce config (k reply) := by
  right
  rcases h with ⟨report, hreport⟩ | h
  · rw [handle_task] at hreport
    cases hreport
    rcases reply with _ | _
    · exact passed_within config report
    · trivial
  · exact h.2 reply

/-- A quiet call goes on harmlessly, if it finds the switch on. -/
theorem Quiet.step {k : FailureI.Reply op → FailureM (Option FailureResolution)}
    (hlooks : LooksOnce config (.await op k)) (h : Quiet (.await op k))
    (hon : op = .isKillSwitchActivated → s.killSwitch.activated = true) :
    op.executesRollback = false ∧
      (∀ delay maxAttempts, k (failureHandler op s).1 ≠ .done (.ok (some (.retry delay maxAttempts)))) ∧
      Harmless (k (failureHandler op s).1) := by
  rcases h with hnext | h
  · cases hnext
    rcases hlooks with ⟨report, hreport⟩ | hlooks
    · rw [handle_task] at hreport
      cases hreport
      have hreply : (failureHandler .isKillSwitchActivated s).1 = true := hon rfl
      rw [hreply]
      exact ⟨rfl, nofun, trivial⟩
    · exact absurd rfl hlooks.1
  · exact ⟨h.1, h.2 s⟩

/-- While the switch is on, all calls are quiet. -/
structure Stopped (config : FailureConfig) (p : FailurePool ι) : Prop where
  /-- No call looks at the switch twice. -/
  looks : ∀ j, LooksOnce config (p.tasks j)
  /-- The switch is what was last done to it. -/
  activated : inForce p.history = true → p.shared.killSwitch.activated = true
  /-- No call that has found it off is still to retry or to roll back. -/
  quiet : inForce p.history = true → ∀ j, Quiet (p.tasks j)

/-- A step at which the switch is not turned on, or turned on when all is quiet. -/
theorem Stopped.after {k : FailureI.Reply op → FailureM (Option FailureResolution)}
    (hI : Stopped config p)
    (hi : p.tasks i = .await op k) (hG : ActivatedWhenQuiet p i) :
    Stopped config (p.after failureHandler i op k) := by
  have hlooks := hI.looks i
  rw [hi] at hlooks
  have hswitch : inForce (p.after failureHandler i op k).history = true →
      (failureHandler op p.shared).2.killSwitch.activated = true ∧ (∀ j, Quiet (p.tasks j)) ∧
        (op = .isKillSwitchActivated → p.shared.killSwitch.activated = true) := by
    intro hforce
    rw [Pool.after_history, inForce_append] at hforce
    rcases hbefore : inForce p.history with _ | _
    · rw [hbefore] at hforce
      obtain ⟨⟨reason, activatedBy, rfl⟩, hon⟩ := eq_activate_of_switched hforce
      rw [ActivatedWhenQuiet, hi] at hG
      exact ⟨hon, hG, nofun⟩
    · rw [hbefore] at hforce
      have hon := hI.activated hbefore
      exact ⟨activated_frame op p.shared hforce hon, hI.quiet hbefore, fun _ => hon⟩
  refine ⟨?_, fun hforce => (hswitch hforce).1, ?_⟩
  · intro j
    by_cases hj : j = i
    · subst hj
      rw [Pool.after_tasks_self]
      exact hlooks.step _
    · rw [Pool.after_tasks_of_ne _ _ hj]
      exact hI.looks j
  · intro hforce j
    obtain ⟨-, hquiet, hon⟩ := hswitch hforce
    by_cases hj : j = i
    · subst hj
      have hstep := hquiet j
      rw [hi] at hstep
      rw [Pool.after_tasks_self]
      exact .inr (hstep.step hlooks hon).2.2
    · rw [Pool.after_tasks_of_ne _ _ hj]
      exact hquiet j

/-- **The kill switch is effective** in any run of calls in which it is turned on only when no
call that has found it off is still to retry or to roll back. -/
theorem kill_switch_effective (hr : Pool.Reach failureHandler ActivatedWhenQuiet
      (.start .new fun i => (calls i).task config) p) : KillSwitchEffective p := by
  have hstart : Stopped config (.start .new fun i => (calls i).task config) :=
    ⟨fun j => (calls j).looksOnce config, nofun, nofun⟩
  have hI : Stopped config p := by
    apply hr.invariant (Stopped config) hstart
    intro p i op k hI hG hi
    exact hI.after hi hG
  constructor
  · intro hforce i p' delay maxAttempts hstep
    obtain ⟨op, k, hi, rfl⟩ := Pool.step_eq_some_iff.mp hstep
    have hlooks := hI.looks i
    have hquiet := hI.quiet hforce i
    rw [hi] at hlooks hquiet
    rw [Pool.after_tasks_self]
    exact (hquiet.step hlooks fun _ => hI.activated hforce).2.1 delay maxAttempts
  · intro hforce i op hnext
    have hlooks := hI.looks i
    have hquiet := hI.quiet hforce i
    rcases hi : p.tasks i with r | ⟨op', k⟩
    · rw [hi] at hnext
      cases hnext
    · rw [hi] at hnext hlooks hquiet
      cases hnext
      exact (hquiet.step (s := p.shared) hlooks fun _ => hI.activated hforce).1

/-- Calls about an eviction and a collision of nonces, and the switch is turned on. -/
def stopCalls : Fin 3 → FailureCall
  | 0 => .handle ⟨"test_bundle", .mempoolEviction "evicted", "0", "0"⟩
  | 1 => .activate "Emergency" (some "operator")
  | 2 => .handle ⟨"test_bundle", .nonceCollision 1 2, "2", "2"⟩

/-- It is turned on after the first call has found it off, and before the last looks at it. -/
theorem kill_switch_effective_on_eviction :
    KillSwitchEffective (Pool.runSchedule failureHandler [0, 1, 0, 2, 0, 0]
      (.start .new fun i => (stopCalls i).task .default)) := by
  refine kill_switch_effective (Pool.reach_of_admits ⟨trivial, ?_⟩)
  have htask : (Pool.start FailureState.new fun i => (stopCalls i).task .default).tasks 0 = _ :=
    handle_task .default ⟨"test_bundle", .mempoolEviction "evicted", "0", "0"⟩
  rw [Pool.step_of_await htask]
  refine ⟨?_, trivial, trivial, trivial, trivial, trivial⟩
  intro j
  match j with
  | 0 => exact .inr ((passed_harmless_iff _ _).mpr rfl)
  | 1 =>
    refine .inr ⟨rfl, fun s => ?_⟩
    generalize (failureHandler (.activate "Emergency" (some "operator")) s).1 = reply
    rcases reply with e | ⟨⟩
    · exact ⟨nofun, trivial⟩
    · exact ⟨nofun, trivial⟩
  | 2 => exact .inl rfl

/-- Calls about a collision of nonces and a revert, and the switch is turned on. -/
def ignoredCalls : Fin 3 → FailureCall
  | 0 => .handle ⟨"test_bundle", .nonceCollision 1 2, "0", "0"⟩
  | 1 => .handle ⟨"test_bundle", .contractRevert "revert", "1", "1"⟩
  | 2 => .activate "Emergency" (some "operator")

/-- It is turned on while the first call waits for its retry, and before the second starts its
rollback. -/
def ignoredRun : FailurePool (Fin 3) :=
  .runSchedule failureHandler [1, 1, 1, 1, 0, 0, 0, 0, 2] (.start .new fun i => (ignoredCalls i).task .default)

/-- **The kill switch is ignored**: while it is on, the first call returns a retry, and the
second starts a rollback and completes it. -/
theorem kill_switch_ignored :
    ∃ p, Pool.Reach failureHandler Pool.AnyStep (.start .new fun i => (ignoredCalls i).task .default) p ∧
      inForce p.history = true ∧
      ((p.runSchedule failureHandler [0]).tasks 0).result? = some (.ok (some (.retry (2 * 10 ^ 9) 3))) ∧
      (p.tasks 1).next? = some (.startRollback "rollback_1") ∧
      (((p.runSchedule failureHandler [1, 1]).shared.rollbacks.lookup "rollback_1").map
        RollbackOperation.status) = some .completed ∧
      inForce (p.runSchedule failureHandler [1, 1]).history = true ∧ ¬ KillSwitchEffective p := by
  have hforce : inForce ignoredRun.history = true := by decide
  have hnext : (ignoredRun.tasks 1).next? = some (.startRollback "rollback_1") := by decide
  refine ⟨ignoredRun, Pool.reach_runSchedule _ _, hforce, by decide, hnext, by decide,
    by decide, fun h => ?_⟩
  exact absurd (h.rollbacks hforce 1 _ hnext) nofun

end Botmev.Bundles
