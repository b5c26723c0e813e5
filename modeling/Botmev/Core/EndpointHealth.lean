import Botmev.Library.Binary64Order
import Botmev.Rust.Basic
import Mathlib.Data.List.Induction
import Mathlib.Data.List.Infix

/-!
# The health of an endpoint

An endpoint counts its successes and its errors and is marked unhealthy at an error when three
are counted. A success marks it healthy again, but leaves the errors counted.

## What is proved

* `errorCount_of_recordAll`: the errors counted are all that were recorded.
* `freshBudget_iff`: an endpoint has a fresh error budget if no error is counted.
* `followsRule_iff`: the rule of three consecutive errors holds throughout a sequence of outcomes
  just when no success in it comes after an error.
-/

namespace Botmev.Core

open Botmev.Rust Botmev.Library

/-- What is known of an endpoint. -/
structure EndpointHealth where
  url : String
  isHealthy : Bool
  /-- How long its last answer took, in ms. -/
  responseTimeMs : Binary64.Number
  errorCount : BitVec 32
  successCount : BitVec 32

namespace EndpointHealth

/-- `EndpointHealth::new`. -/
def new (url : String) : EndpointHealth where
  url := url
  isHealthy := true
  responseTimeMs := .ofUnits 0
  errorCount := 0
  successCount := 0

/-- `record_success`. -/
def recordSuccess (health : EndpointHealth) (responseTimeMs : Binary64.Number) : Result EndpointHealth := do
  let successCount ← Uint.add health.successCount 1
  let health := { health with successCount := successCount, responseTimeMs := responseTimeMs }
  -- Mark as healthy if it was previously unhealthy
  .ok (if health.isHealthy = false ∧ 0 < health.successCount then { health with isHealthy := true } else health)

/-- `record_error`. -/
def recordError (health : EndpointHealth) : Result EndpointHealth := do
  let errorCount ← Uint.add health.errorCount 1
  let health := { health with errorCount := errorCount }
  -- Mark as unhealthy after 3 consecutive errors
  .ok (if 3 ≤ health.errorCount ∧ health.isHealthy = true then { health with isHealthy := false } else health)

variable {health health' : EndpointHealth} {responseTimeMs : Binary64.Number}

theorem recordSuccess_eq_ok_iff : health.recordSuccess responseTimeMs = .ok health' ↔
    ∃ c : BitVec 32, c.toNat = health.successCount.toNat + 1 ∧ health' =
      { health with isHealthy := true, responseTimeMs := responseTimeMs, successCount := c } := by
  simp only [recordSuccess, bind_eq_ok_iff, Uint.add_eq_ok_iff]
  apply exists_congr
  intro c
  refine and_congr_right fun hc => ?_
  have hpos : 0 < c := by
    rw [BitVec.lt_def, hc]
    exact Nat.succ_pos _
  rcases health with ⟨url, _ | _, time, errors, successes⟩ <;>
    simp only [hpos, and_self, if_true, Bool.true_eq_false, false_and, if_false, Except.ok.injEq]
  all_goals exact eq_comm

theorem recordError_eq_ok_iff : health.recordError = .ok health' ↔
    ∃ c : BitVec 32, c.toNat = health.errorCount.toNat + 1 ∧ health' =
      { health with isHealthy := health.isHealthy && decide (c.toNat < 3), errorCount := c } := by
  simp only [recordError, bind_eq_ok_iff, Uint.add_eq_ok_iff]
  apply exists_congr
  intro c
  refine and_congr_right fun _ => ?_
  have hle : (3 : BitVec 32) ≤ c ↔ ¬ c.toNat < 3 := by
    rw [BitVec.le_def, not_lt]
    rfl
  rcases health with ⟨url, _ | _, time, errors, successes⟩ <;> by_cases hc : c.toNat < 3 <;>
    simp only [hle, hc, not_true_eq_false, not_false_eq_true, Bool.false_eq_true, and_self, and_false, and_true,
      if_true, if_false, decide_true, decide_false, Bool.and_true, Bool.and_false, Except.ok.injEq]
  all_goals exact eq_comm

theorem exists_recordSuccess_iff :
    (∃ health', health.recordSuccess responseTimeMs = .ok health') ↔ health.successCount.toNat + 1 < 2 ^ 32 := by
  have hone : (1 : BitVec 32).toNat = 1 := rfl
  simp only [recordSuccess_eq_ok_iff, ← hone, ← Uint.exists_add_eq_ok_iff, Uint.add_eq_ok_iff]
  exact ⟨fun ⟨_, c, hc, _⟩ => ⟨c, hc⟩, fun ⟨c, hc⟩ => ⟨_, c, hc, rfl⟩⟩

theorem exists_recordError_iff :
    (∃ health', health.recordError = .ok health') ↔ health.errorCount.toNat + 1 < 2 ^ 32 := by
  have hone : (1 : BitVec 32).toNat = 1 := rfl
  simp only [recordError_eq_ok_iff, ← hone, ← Uint.exists_add_eq_ok_iff, Uint.add_eq_ok_iff]
  exact ⟨fun ⟨_, c, hc, _⟩ => ⟨c, hc⟩, fun ⟨c, hc⟩ => ⟨_, c, hc, rfl⟩⟩

/-! ### Sequences of outcomes -/

/-- How a call ended. -/
inductive Outcome where
  /-- With an answer, after so many ms. -/
  | success (responseTimeMs : Binary64.Number)
  /-- With an error. -/
  | error
  deriving DecidableEq

/-- Recording one outcome. -/
def record (health : EndpointHealth) : Outcome → Result EndpointHealth
  | .success responseTimeMs => health.recordSuccess responseTimeMs
  | .error => health.recordError

/-- Recording one outcome after the other. -/
def recordAll (health : EndpointHealth) (outcomes : List Outcome) : Result EndpointHealth :=
  outcomes.foldlM record health

variable {url : String} {outcomes recorded : List Outcome} {outcome : Outcome}

theorem recordAll_concat_eq_ok_iff : health.recordAll (outcomes ++ [outcome]) = .ok health' ↔
    ∃ before, health.recordAll outcomes = .ok before ∧ before.record outcome = .ok health' := by
  rw [recordAll, List.foldlM_append, bind_eq_ok_iff]
  simp [recordAll]

/-- The errors among outcomes. -/
def errors (outcomes : List Outcome) : ℕ := outcomes.count .error

@[simp] theorem errors_concat_error (outcomes : List Outcome) :
    errors (outcomes ++ [.error]) = errors outcomes + 1 := by
  simp [errors]

@[simp] theorem errors_concat_success (outcomes : List Outcome) (responseTimeMs : Binary64.Number) :
    errors (outcomes ++ [.success responseTimeMs]) = errors outcomes := by
  simp [errors]

theorem errors_eq_zero_iff : errors outcomes = 0 ↔ .error ∉ outcomes := List.count_eq_zero

theorem errorCount_of_recordAll (h : (new url).recordAll outcomes = .ok health) :
    health.errorCount.toNat = errors outcomes := by
  induction outcomes using List.reverseRecOn generalizing health with
  | nil =>
    cases h
    rfl
  | append_singleton outcomes outcome ih =>
    obtain ⟨before, hbefore, hrecord⟩ := recordAll_concat_eq_ok_iff.mp h
    cases outcome with
    | success responseTimeMs =>
      obtain ⟨c, -, rfl⟩ := recordSuccess_eq_ok_iff.mp hrecord
      have hcount := ih hbefore
      rwa [errors_concat_success]
    | error =>
      obtain ⟨c, hc, rfl⟩ := recordError_eq_ok_iff.mp hrecord
      rw [errors_concat_error, ← ih hbefore]
      exact hc

theorem isHealthy_eq_false_iff (h : (new url).recordAll outcomes = .ok health) :
    health.isHealthy = false ↔ 3 ≤ errors outcomes ∧ outcomes.getLast? = some .error := by
  induction outcomes using List.reverseRecOn generalizing health with
  | nil =>
    cases h
    simp [new]
  | append_singleton outcomes outcome ih =>
    obtain ⟨before, hbefore, hrecord⟩ := recordAll_concat_eq_ok_iff.mp h
    cases outcome with
    | success responseTimeMs =>
      obtain ⟨c, -, rfl⟩ := recordSuccess_eq_ok_iff.mp hrecord
      simp
    | error =>
      obtain ⟨c, hc, rfl⟩ := recordError_eq_ok_iff.mp hrecord
      have hcount := errorCount_of_recordAll hbefore
      simp only [Bool.and_eq_false_iff, decide_eq_false_iff_not, ih hbefore, errors_concat_error,
        List.getLast?_concat, and_true]
      omega

/-! ### The rule of three consecutive errors -/

/-- Two more errors leave it healthy. -/
def FreshBudget (health : EndpointHealth) : Prop :=
  health.isHealthy = true ∧
    ∃ health', health.recordAll [.error, .error] = .ok health' ∧ health'.isHealthy = true

/-- What the last outcomes say of an endpoint: it is unhealthy only if the last three are errors,
and a success leaves it healthy with a fresh error budget. -/
structure FollowsRule (health : EndpointHealth) (recorded : List Outcome) : Prop where
  unhealthy : health.isHealthy = false → [.error, .error, .error] <:+ recorded
  recovered : ∀ before responseTimeMs, recorded = before ++ [.success responseTimeMs] → health.FreshBudget

/-- No success comes after an error. -/
def NoSuccessAfterError (recorded : List Outcome) : Prop :=
  recorded.Pairwise fun first later => first = .error → later = .error

theorem freshBudget_iff : health.FreshBudget ↔ health.isHealthy = true ∧ health.errorCount.toNat = 0 := by
  refine and_congr_right fun hhealthy => ?_
  simp only [recordAll, List.foldlM_cons, List.foldlM_nil, bind_eq_ok_iff, record, recordError_eq_ok_iff]
  constructor
  · rintro ⟨health', ⟨_, ⟨c, hc, rfl⟩, _, ⟨c', hc', rfl⟩, heq⟩, hhealthy'⟩
    cases heq
    simp only [Bool.and_eq_true, decide_eq_true_eq] at hhealthy'
    have hlt : c'.toNat < 3 := hhealthy'.2
    simp only at hc'
    omega
  · intro hzero
    refine ⟨_, ⟨_, ⟨1, by rw [hzero]; rfl, rfl⟩, _, ⟨2, rfl, rfl⟩, rfl⟩, ?_⟩
    simp [hhealthy]

theorem noSuccessAfterError_concat_iff : NoSuccessAfterError (recorded ++ [outcome]) ↔
    NoSuccessAfterError recorded ∧ (.error ∈ recorded → outcome = .error) := by
  rw [NoSuccessAfterError, List.pairwise_append]
  constructor
  · rintro ⟨hbefore, -, hlast⟩
    exact ⟨hbefore, fun hmem => hlast .error hmem outcome (List.mem_singleton_self _) rfl⟩
  · rintro ⟨hbefore, hlast⟩
    refine ⟨hbefore, List.pairwise_singleton _ _, fun first hfirst later hlater herror => ?_⟩
    rw [List.mem_singleton.mp hlater]
    exact hlast (herror ▸ hfirst)

theorem NoSuccessAfterError.suffix {n : ℕ} (h : NoSuccessAfterError recorded) (hn : n ≤ errors recorded) :
    List.replicate n .error <:+ recorded := by
  induction recorded using List.reverseRecOn generalizing n with
  | nil =>
    rw [Nat.le_zero.mp hn]
    exact List.nil_suffix
  | append_singleton recorded outcome ih =>
    obtain ⟨hbefore, hlast⟩ := noSuccessAfterError_concat_iff.mp h
    rcases n with _ | n
    · exact List.nil_suffix
    · have houtcome : outcome = .error := by
        by_contra hne
        obtain ⟨responseTimeMs, rfl⟩ : ∃ responseTimeMs, outcome = .success responseTimeMs := by
          cases outcome with
          | success responseTimeMs => exact ⟨responseTimeMs, rfl⟩
          | error => contradiction
        rw [errors_concat_success, errors_eq_zero_iff.mpr (mt hlast hne)] at hn
        exact Nat.not_succ_le_zero n hn
      subst houtcome
      rw [errors_concat_error] at hn
      rw [List.replicate_succ', List.suffix_concat_iff]
      exact Or.inr ⟨_, rfl, ih hbefore (Nat.le_of_succ_le_succ hn)⟩

theorem FollowsRule.of_noSuccessAfterError (h : (new url).recordAll recorded = .ok health)
    (hno : NoSuccessAfterError recorded) : health.FollowsRule recorded := by
  constructor
  · intro hunhealthy
    exact hno.suffix ((isHealthy_eq_false_iff h).mp hunhealthy).1
  · rintro before responseTimeMs rfl
    have herror : .error ∉ before := fun hmem =>
      Outcome.noConfusion ((noSuccessAfterError_concat_iff.mp hno).2 hmem)
    rw [freshBudget_iff, errorCount_of_recordAll h, errors_concat_success]
    refine ⟨?_, errors_eq_zero_iff.mpr herror⟩
    rw [← Bool.not_eq_false, isHealthy_eq_false_iff h]
    simp

/-- **The rule of three consecutive errors** holds after every outcome of a sequence just when
no success is recorded after an error. -/
theorem followsRule_iff (url : String) (outcomes : List Outcome) :
    (∀ recorded health, recorded <+: outcomes → (new url).recordAll recorded = .ok health →
        health.FollowsRule recorded) ↔
      ∀ recorded health, recorded <+: outcomes → (new url).recordAll recorded = .ok health →
        NoSuccessAfterError recorded := by
  constructor
  · intro hrule recorded
    induction recorded using List.reverseRecOn with
    | nil =>
      intros
      exact List.Pairwise.nil
    | append_singleton recorded outcome ih =>
      intro health hinit h
      obtain ⟨before, hbefore, -⟩ := recordAll_concat_eq_ok_iff.mp h
      refine noSuccessAfterError_concat_iff.mpr
        ⟨ih before ((List.prefix_append _ _).trans hinit) hbefore, fun hmem => ?_⟩
      cases outcome with
      | error => rfl
      | success responseTimeMs =>
        -- a success leaves the errors before it counted, so the budget is not fresh
        have hfresh := (hrule _ health hinit h).recovered recorded responseTimeMs rfl
        rw [freshBudget_iff, errorCount_of_recordAll h, errors_concat_success, errors_eq_zero_iff] at hfresh
        exact absurd hmem hfresh.2
  · intro hno recorded health hinit h
    exact .of_noSuccessAfterError h (hno recorded health hinit h)

/-- An endpoint that is unhealthy at the first error after a success. -/
theorem unhealthy_after_one_error :
    ∃ health, (new "http://localhost:8545").recordAll [.error, .error, .success (.ofUnits 1), .error] = .ok health ∧
      ¬ health.FollowsRule [.error, .error, .success (.ofUnits 1), .error] := by
  refine ⟨_, rfl, fun h => ?_⟩
  have hsuffix := h.unhealthy rfl
  revert hsuffix
  decide

end EndpointHealth

end Botmev.Core
