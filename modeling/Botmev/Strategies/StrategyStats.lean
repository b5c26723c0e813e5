import Botmev.Rust.Basic
import Mathlib.Data.List.Induction
import Mathlib.Data.Rat.Floor
import Mathlib.Tactic.FieldSimp
import Mathlib.Tactic.Linarith

/-!
# The statistics of a strategy

`StrategyStats` (`mev-strategies/src/strategy_types.rs`) counts what a strategy does and keeps three
quotients up to date: the success rate and the average profit from the totals, and the average
confidence from what it was before. Each is computed after its counter has been increased, and the
average profit is of the successful executions.

The quotients are exact here, as rational numbers. The counters and the totals are machine integers.

## What is proved

* `record_spec`: what a record does to statistics that are exact.
* `statistics_exact`: after any records the statistics are exact, unless a total is too large for its
  integer.
-/

namespace Botmev.Strategies

open Botmev.Rust

/-- "Strategy performance statistics". -/
structure StrategyStats where
  /-- The opportunities. -/
  opportunitiesDetected : U64 := 0
  /-- The bundles. -/
  bundlesCreated : U64 := 0
  /-- The executions. -/
  bundlesExecuted : U64 := 0
  /-- Those that succeeded. -/
  successfulExecutions : U64 := 0
  /-- The profit of those. -/
  totalProfitWei : U128 := 0
  /-- The gas of all the executions. -/
  totalGasSpentWei : U128 := 0
  /-- The profit of a successful execution. -/
  averageProfitPerExecution : ℚ := 0
  /-- How many executions succeed. -/
  successRate : ℚ := 0
  /-- The confidence in an opportunity. -/
  averageConfidenceScore : ℚ := 0
  deriving DecidableEq

/-- What is recorded. -/
inductive StatsRecord where
  /-- `record_opportunity`. -/
  | opportunity (confidence : ℚ)
  /-- `record_bundle_creation`. -/
  | bundleCreation
  /-- `record_execution`. -/
  | execution (success : Bool) (profitWei gasCostWei : U128)

namespace StrategyStats

variable (stats : StrategyStats)

/-- `update_success_rate`. -/
def updateSuccessRate : StrategyStats :=
  if 0 < stats.bundlesExecuted then
    { stats with successRate := stats.successfulExecutions.toNat / stats.bundlesExecuted.toNat }
  else stats

/-- `update_average_profit`. -/
def updateAverageProfit : StrategyStats :=
  if 0 < stats.successfulExecutions then
    { stats with averageProfitPerExecution := stats.totalProfitWei.toNat / stats.successfulExecutions.toNat }
  else stats

/-- `update_average_confidence`. -/
def updateAverageConfidence (newConfidence : ℚ) : Result StrategyStats :=
  if stats.opportunitiesDetected = 1 then pure { stats with averageConfidenceScore := newConfidence }
  else do
    let before ← Uint.sub stats.opportunitiesDetected 1
    let total := stats.averageConfidenceScore * before.toNat
    pure { stats with averageConfidenceScore := (total + newConfidence) / stats.opportunitiesDetected.toNat }

/-- `record_opportunity`. -/
def recordOpportunity (confidence : ℚ) : Result StrategyStats := do
  let opportunitiesDetected ← Uint.add stats.opportunitiesDetected 1
  updateAverageConfidence { stats with opportunitiesDetected } confidence

/-- `record_bundle_creation`. -/
def recordBundleCreation : Result StrategyStats := do
  let bundlesCreated ← Uint.add stats.bundlesCreated 1
  pure { stats with bundlesCreated }

/-- What a success adds. -/
def addSuccess (profitWei : U128) : Result StrategyStats := do
  let successfulExecutions ← Uint.add stats.successfulExecutions 1
  let totalProfitWei ← Uint.add stats.totalProfitWei profitWei
  pure { stats with successfulExecutions, totalProfitWei }

/-- `record_execution`. -/
def recordExecution (success : Bool) (profitWei gasCostWei : U128) : Result StrategyStats := do
  let bundlesExecuted ← Uint.add stats.bundlesExecuted 1
  let stats := { stats with bundlesExecuted }
  let stats ← if success then stats.addSuccess profitWei else pure stats
  let totalGasSpentWei ← Uint.add stats.totalGasSpentWei gasCostWei
  pure { stats with totalGasSpentWei }.updateSuccessRate.updateAverageProfit

/-- One record. -/
def record : StatsRecord → Result StrategyStats
  | .opportunity confidence => stats.recordOpportunity confidence
  | .bundleCreation => stats.recordBundleCreation
  | .execution success profitWei gasCostWei => stats.recordExecution success profitWei gasCostWei

/-- One record after the other. -/
def recordAll (records : List StatsRecord) : Result StrategyStats := records.foldlM record stats

end StrategyStats

/-! ### What was recorded -/

/-- The confidences. -/
def confidences : List StatsRecord → List ℚ :=
  List.filterMap fun
    | .opportunity confidence => some confidence
    | _ => none

/-- The bundles, one for each. -/
def bundleCreations : List StatsRecord → List Unit :=
  List.filterMap fun
    | .bundleCreation => some ()
    | _ => none

/-- The profits of the successful executions. -/
def successfulProfits : List StatsRecord → List ℕ :=
  List.filterMap fun
    | .execution true profitWei _ => some profitWei.toNat
    | _ => none

/-- What the gas of the executions costs. -/
def gasCostsOfExecutions : List StatsRecord → List ℕ :=
  List.filterMap fun
    | .execution _ _ gasCostWei => some gasCostWei.toNat
    | _ => none

/-- The counters and the totals are exact. -/
structure ExactTotals (records : List StatsRecord) (stats : StrategyStats) : Prop where
  opportunitiesDetected : stats.opportunitiesDetected.toNat = (confidences records).length
  bundlesCreated : stats.bundlesCreated.toNat = (bundleCreations records).length
  bundlesExecuted : stats.bundlesExecuted.toNat = (gasCostsOfExecutions records).length
  successfulExecutions : stats.successfulExecutions.toNat = (successfulProfits records).length
  totalProfitWei : stats.totalProfitWei.toNat = (successfulProfits records).sum
  totalGasSpentWei : stats.totalGasSpentWei.toNat = (gasCostsOfExecutions records).sum

/-- **The statistics are exact**: the totals and their quotients. A quotient of nothing is zero, in the
code as it is here. -/
structure ExactStats (records : List StatsRecord) (stats : StrategyStats) : Prop
    extends ExactTotals records stats where
  /-- The successes divided by the executions. -/
  successRate : stats.successRate = (successfulProfits records).length / (gasCostsOfExecutions records).length
  /-- The profit of the successful executions divided by their number. -/
  averageProfit : stats.averageProfitPerExecution =
    (successfulProfits records).sum / (successfulProfits records).length
  /-- The mean of the confidences. -/
  averageConfidence : stats.averageConfidenceScore = (confidences records).sum / (confidences records).length

/-- The totals are in the range of their integers. -/
structure StatsFit (records : List StatsRecord) : Prop where
  opportunitiesDetected : (confidences records).length < 2 ^ 64
  bundlesCreated : (bundleCreations records).length < 2 ^ 64
  bundlesExecuted : (gasCostsOfExecutions records).length < 2 ^ 64
  totalProfitWei : (successfulProfits records).sum < 2 ^ 128
  totalGasSpentWei : (gasCostsOfExecutions records).sum < 2 ^ 128

variable {records : List StatsRecord} {stats : StrategyStats}

/-! ### One record -/

@[simp] theorem records_opportunity (records : List StatsRecord) (confidence : ℚ) :
    confidences (records ++ [.opportunity confidence]) = confidences records ++ [confidence] ∧
      bundleCreations (records ++ [.opportunity confidence]) = bundleCreations records ∧
      successfulProfits (records ++ [.opportunity confidence]) = successfulProfits records ∧
      gasCostsOfExecutions (records ++ [.opportunity confidence]) = gasCostsOfExecutions records := by
  simp [confidences, bundleCreations, successfulProfits, gasCostsOfExecutions]

@[simp] theorem records_bundleCreation (records : List StatsRecord) :
    confidences (records ++ [.bundleCreation]) = confidences records ∧
      bundleCreations (records ++ [.bundleCreation]) = bundleCreations records ++ [()] ∧
      successfulProfits (records ++ [.bundleCreation]) = successfulProfits records ∧
      gasCostsOfExecutions (records ++ [.bundleCreation]) = gasCostsOfExecutions records := by
  simp [confidences, bundleCreations, successfulProfits, gasCostsOfExecutions]

@[simp] theorem records_execution (records : List StatsRecord) (success : Bool) (profitWei gasCostWei : U128) :
    confidences (records ++ [.execution success profitWei gasCostWei]) = confidences records ∧
      bundleCreations (records ++ [.execution success profitWei gasCostWei]) = bundleCreations records ∧
      successfulProfits (records ++ [.execution success profitWei gasCostWei]) =
        successfulProfits records ++ (if success then [profitWei.toNat] else []) ∧
      gasCostsOfExecutions (records ++ [.execution success profitWei gasCostWei]) =
        gasCostsOfExecutions records ++ [gasCostWei.toNat] := by
  cases success <;> simp [confidences, bundleCreations, successfulProfits, gasCostsOfExecutions]

theorem length_successfulProfits_le (records : List StatsRecord) :
    (successfulProfits records).length ≤ (gasCostsOfExecutions records).length := by
  induction records with
  | nil => exact Nat.le_refl _
  | cons record records ih =>
    rcases record with confidence | _ | ⟨_ | _, profitWei, gasCostWei⟩
    all_goals simp [successfulProfits, gasCostsOfExecutions] at ih ⊢
    all_goals omega

theorem mean_concat (xs : List ℚ) (x : ℚ) :
    (xs.sum / xs.length * xs.length + x) / ((xs.length + 1 : ℕ) : ℚ) = (xs ++ [x]).sum / (xs ++ [x]).length := by
  rcases eq_or_ne xs [] with rfl | hne
  · simp
  · have hlength : (xs.length : ℚ) ≠ 0 := by simpa using hne
    rw [div_mul_cancel₀ _ hlength]
    simp

theorem add_spec {w : ℕ} (a b : BitVec w) :
    (∃ c, Uint.add a b = .ok c ∧ c.toNat = a.toNat + b.toNat) ∨
      Uint.add a b = .error (.panic "attempt to add with overflow") ∧ 2 ^ w ≤ a.toNat + b.toNat := by
  by_cases hlt : a.toNat + b.toNat < 2 ^ w
  · obtain ⟨c, hc⟩ := Uint.exists_add_eq_ok_iff.mpr hlt
    exact .inl ⟨c, hc, Uint.add_eq_ok_iff.mp hc⟩
  · exact .inr ⟨if_neg hlt, Nat.le_of_not_lt hlt⟩

/-- **What came of the records**: statistics that are exact, or a panic, since a total is too large. -/
def Recorded (records : List StatsRecord) : Result StrategyStats → Prop
  | .ok stats => ExactStats records stats
  | .error failure => failure = .panic "attempt to add with overflow" ∧ ¬ StatsFit records

/-- The average confidence, which is that of one record less than the counter says. -/
theorem updateAverageConfidence_eq {xs : List ℚ} (hcount : stats.opportunitiesDetected.toNat = xs.length + 1)
    (haverage : stats.averageConfidenceScore = xs.sum / xs.length) (confidence : ℚ) :
    stats.updateAverageConfidence confidence =
      .ok { stats with averageConfidenceScore := (xs ++ [confidence]).sum / (xs ++ [confidence]).length } := by
  rw [StrategyStats.updateAverageConfidence]
  split
  · rename_i hone
    rw [hone] at hcount
    have hnil : xs = [] := List.length_eq_zero_iff.mp (Nat.succ.inj hcount).symm
    simp [hnil, pure, Except.pure]
  · have hle : (1 : U64) ≤ stats.opportunitiesDetected := by
      rw [BitVec.le_def, hcount]
      exact Nat.le_add_left 1 _
    have hbefore : (stats.opportunitiesDetected - 1).toNat = xs.length := by
      rw [BitVec.toNat_sub_of_le hle, hcount]
      rfl
    simp only [Uint.sub_of_le hle, ok_bind, hbefore, hcount, haverage, mean_concat]
    rfl

theorem recordOpportunity_spec (h : ExactStats records stats) (confidence : ℚ) :
    Recorded (records ++ [.opportunity confidence]) (stats.recordOpportunity confidence) := by
  obtain ⟨hconfidences, hcreations, hprofits, hgas⟩ := records_opportunity records confidence
  rw [StrategyStats.recordOpportunity]
  rcases add_spec stats.opportunitiesDetected 1 with ⟨n, hadd, hn⟩ | ⟨hadd, hlarge⟩
  · have hlength : n.toNat = (confidences records).length + 1 := by
      rw [hn, h.opportunitiesDetected]
      rfl
    have haverage := updateAverageConfidence_eq
      (show (StrategyStats.opportunitiesDetected { stats with opportunitiesDetected := n }).toNat = _ from hlength)
      h.averageConfidence confidence
    rw [hadd, ok_bind, haverage]
    refine ⟨⟨?_, ?_, ?_, ?_, ?_, ?_⟩, ?_, ?_, ?_⟩
    all_goals simp only [hconfidences, hcreations, hprofits, hgas]
    · rw [List.length_append]
      exact hlength
    · exact h.bundlesCreated
    · exact h.bundlesExecuted
    · exact h.successfulExecutions
    · exact h.totalProfitWei
    · exact h.totalGasSpentWei
    · exact h.successRate
    · exact h.averageProfit
  · rw [hadd]
    refine ⟨rfl, fun hfit => ?_⟩
    have hlt := hfit.opportunitiesDetected
    rw [hconfidences, List.length_append, ← h.opportunitiesDetected] at hlt
    exact absurd hlarge (Nat.not_le.mpr hlt)

theorem recordBundleCreation_spec (h : ExactStats records stats) :
    Recorded (records ++ [.bundleCreation]) stats.recordBundleCreation := by
  obtain ⟨hconfidences, hcreations, hprofits, hgas⟩ := records_bundleCreation records
  rw [StrategyStats.recordBundleCreation]
  rcases add_spec stats.bundlesCreated 1 with ⟨n, hadd, hn⟩ | ⟨hadd, hlarge⟩
  · rw [hadd, ok_bind]
    refine ⟨⟨?_, ?_, ?_, ?_, ?_, ?_⟩, ?_, ?_, ?_⟩
    all_goals simp only [hconfidences, hcreations, hprofits, hgas]
    · exact h.opportunitiesDetected
    · rw [List.length_append, ← h.bundlesCreated]
      exact hn
    · exact h.bundlesExecuted
    · exact h.successfulExecutions
    · exact h.totalProfitWei
    · exact h.totalGasSpentWei
    · exact h.successRate
    · exact h.averageProfit
    · exact h.averageConfidence
  · rw [hadd]
    refine ⟨rfl, fun hfit => ?_⟩
    have hlt := hfit.bundlesCreated
    rw [hcreations, List.length_append, ← h.bundlesCreated] at hlt
    exact absurd hlarge (Nat.not_le.mpr hlt)

/-- The quotients of the executions are made exact, once the totals are. -/
theorem exact_of_totals (h : ExactTotals records stats) (hexecuted : gasCostsOfExecutions records ≠ [])
    (hnone : successfulProfits records = [] → stats.averageProfitPerExecution = 0)
    (haverage : stats.averageConfidenceScore = (confidences records).sum / (confidences records).length) :
    ExactStats records stats.updateSuccessRate.updateAverageProfit := by
  have hpos : 0 < stats.bundlesExecuted := by
    rw [BitVec.lt_def, h.bundlesExecuted]
    exact List.length_pos_of_ne_nil hexecuted
  have hrate : stats.updateSuccessRate =
      { stats with successRate := (successfulProfits records).length / (gasCostsOfExecutions records).length } := by
    rw [StrategyStats.updateSuccessRate, if_pos hpos, h.successfulExecutions, h.bundlesExecuted]
  rw [hrate, StrategyStats.updateAverageProfit]
  split
  · exact ⟨⟨h.1, h.2, h.3, h.4, h.5, h.6⟩, rfl, by rw [← h.totalProfitWei, ← h.successfulExecutions], haverage⟩
  · rename_i hzero
    have hnil : successfulProfits records = [] := by
      apply List.length_eq_zero_iff.mp
      rw [← h.successfulExecutions]
      exact Nat.eq_zero_of_not_pos fun hlt => hzero (BitVec.lt_def.mpr hlt)
    exact ⟨⟨h.1, h.2, h.3, h.4, h.5, h.6⟩, rfl, by simp [hnone hnil, hnil], haverage⟩

theorem addSuccess_spec {profits : List ℕ} (hcount : stats.successfulExecutions.toNat = profits.length)
    (htotal : stats.totalProfitWei.toNat = profits.sum) (profitWei : U128) :
    (∃ n total, stats.addSuccess profitWei = .ok { stats with successfulExecutions := n, totalProfitWei := total } ∧
        n.toNat = (profits ++ [profitWei.toNat]).length ∧ total.toNat = (profits ++ [profitWei.toNat]).sum) ∨
      stats.addSuccess profitWei = .error (.panic "attempt to add with overflow") ∧
        (2 ^ 64 ≤ (profits ++ [profitWei.toNat]).length ∨ 2 ^ 128 ≤ (profits ++ [profitWei.toNat]).sum) := by
  have hlength : (profits ++ [profitWei.toNat]).length = stats.successfulExecutions.toNat + 1 := by simp [hcount]
  have hsum : (profits ++ [profitWei.toNat]).sum = stats.totalProfitWei.toNat + profitWei.toNat := by
    simp [htotal]
  rw [hlength, hsum, StrategyStats.addSuccess]
  rcases add_spec stats.successfulExecutions 1 with ⟨n, hadd, hn⟩ | ⟨hadd, hlarge⟩
  · rw [hadd, ok_bind]
    rcases add_spec stats.totalProfitWei profitWei with ⟨total, hadd', htotal'⟩ | ⟨hadd', hlarge'⟩
    · rw [hadd']
      exact .inl ⟨n, total, rfl, hn, htotal'⟩
    · rw [hadd']
      exact .inr ⟨rfl, .inr hlarge'⟩
  · rw [hadd]
    exact .inr ⟨rfl, .inl hlarge⟩

/-- The end of the record of an execution, when the others of its totals have been counted. -/
theorem addGas_spec (h : ExactStats records stats) (success : Bool) (profitWei gasCostWei : U128)
    {executed successful : U64} {total : U128}
    (hexecuted : executed.toNat = (gasCostsOfExecutions records).length + 1)
    (hsuccessful : successful.toNat =
      (successfulProfits (records ++ [.execution success profitWei gasCostWei])).length)
    (htotal : total.toNat = (successfulProfits (records ++ [.execution success profitWei gasCostWei])).sum) :
    Recorded (records ++ [.execution success profitWei gasCostWei]) (do
      let totalGasSpentWei ← Uint.add stats.totalGasSpentWei gasCostWei
      pure (StrategyStats.updateAverageProfit (StrategyStats.updateSuccessRate
        { stats with
          bundlesExecuted := executed
          successfulExecutions := successful
          totalProfitWei := total
          totalGasSpentWei }))) := by
  obtain ⟨hconfidences, hcreations, hprofits, hgas⟩ := records_execution records success profitWei gasCostWei
  have hsum : (gasCostsOfExecutions records ++ [gasCostWei.toNat]).sum =
      stats.totalGasSpentWei.toNat + gasCostWei.toNat := by
    simp [h.totalGasSpentWei]
  rcases add_spec stats.totalGasSpentWei gasCostWei with ⟨gas, hadd, hspent⟩ | ⟨hadd, hlarge⟩
  · rw [hadd, ok_bind]
    refine exact_of_totals ⟨?_, ?_, ?_, hsuccessful, htotal, ?_⟩ ?_ (fun hnone => ?_) ?_
    · rw [hconfidences]
      exact h.opportunitiesDetected
    · rw [hcreations]
      exact h.bundlesCreated
    · rw [hgas, List.length_append]
      exact hexecuted
    · rw [hgas, hsum]
      exact hspent
    · simp [hgas]
    · rw [hprofits] at hnone
      have hnil := (List.append_eq_nil_iff.mp hnone).1
      simpa [hnil] using h.averageProfit
    · rw [hconfidences]
      exact h.averageConfidence
  · rw [hadd]
    refine ⟨rfl, fun hfit => ?_⟩
    have hlt := hfit.totalGasSpentWei
    rw [hgas, hsum] at hlt
    exact absurd hlarge (Nat.not_le.mpr hlt)

theorem recordExecution_spec (h : ExactStats records stats) (success : Bool) (profitWei gasCostWei : U128) :
    Recorded (records ++ [.execution success profitWei gasCostWei])
      (stats.recordExecution success profitWei gasCostWei) := by
  have hlength : (gasCostsOfExecutions (records ++ [.execution success profitWei gasCostWei])).length =
      stats.bundlesExecuted.toNat + 1 := by
    simp [h.bundlesExecuted]
  rw [StrategyStats.recordExecution]
  rcases add_spec stats.bundlesExecuted 1 with ⟨executed, hadd, hexecuted⟩ | ⟨hadd, hlarge⟩
  · rw [hadd, ok_bind]
    rw [h.bundlesExecuted] at hexecuted
    cases success with
    | false =>
      have hprofits : successfulProfits (records ++ [.execution false profitWei gasCostWei]) =
          successfulProfits records := by
        simp
      exact addGas_spec h false profitWei gasCostWei hexecuted (hprofits ▸ h.successfulExecutions)
        (hprofits ▸ h.totalProfitWei)
    | true =>
      have hprofits : successfulProfits (records ++ [.execution true profitWei gasCostWei]) =
          successfulProfits records ++ [profitWei.toNat] := by
        simp
      rcases addSuccess_spec
        (show (StrategyStats.successfulExecutions { stats with bundlesExecuted := executed }).toNat = _ from
          h.successfulExecutions) h.totalProfitWei profitWei with ⟨n, total, hadd', hn, htotal⟩ | ⟨hadd', hlarge⟩
      · simp only [if_true, hadd', ok_bind]
        exact addGas_spec h true profitWei gasCostWei hexecuted (hprofits ▸ hn) (hprofits ▸ htotal)
      · simp only [if_true, hadd']
        refine ⟨rfl, fun hfit => ?_⟩
        rw [← hprofits] at hlarge
        have hle := length_successfulProfits_le (records ++ [.execution true profitWei gasCostWei])
        rcases hlarge with hlarge | hlarge
        · exact absurd (Nat.le_trans hlarge hle) (Nat.not_le.mpr hfit.bundlesExecuted)
        · exact absurd hlarge (Nat.not_le.mpr hfit.totalProfitWei)
  · rw [hadd]
    refine ⟨rfl, fun hfit => ?_⟩
    have hlt := hfit.bundlesExecuted
    rw [hlength] at hlt
    exact absurd hlarge (Nat.not_le.mpr hlt)

/-- **What a record does** to statistics that are exact. -/
theorem record_spec (h : ExactStats records stats) (record : StatsRecord) :
    Recorded (records ++ [record]) (stats.record record) := by
  cases record with
  | opportunity confidence => exact recordOpportunity_spec h confidence
  | bundleCreation => exact recordBundleCreation_spec h
  | execution success profitWei gasCostWei => exact recordExecution_spec h success profitWei gasCostWei

/-! ### Runs -/

theorem StatsFit.of_append {more : List StatsRecord} (h : StatsFit (records ++ more)) : StatsFit records := by
  have h1 := h.opportunitiesDetected
  have h2 := h.bundlesCreated
  have h3 := h.bundlesExecuted
  have h4 := h.totalProfitWei
  have h5 := h.totalGasSpentWei
  simp only [confidences, bundleCreations, gasCostsOfExecutions, successfulProfits, List.filterMap_append,
    List.length_append, List.sum_append] at h1 h2 h3 h4 h5
  constructor
  all_goals simp only [confidences, bundleCreations, gasCostsOfExecutions, successfulProfits]
  all_goals omega

theorem recordAll_concat (records : List StatsRecord) (record : StatsRecord) :
    stats.recordAll (records ++ [record]) = stats.recordAll records >>= fun stats => stats.record record := by
  simp [StrategyStats.recordAll]

/-- **The statistics are exact** after any records, unless a total is too large for its integer. -/
theorem statistics_exact (records : List StatsRecord) :
    match StrategyStats.recordAll {} records with
    | .ok stats => ExactStats records stats
    | .error failure => failure = .panic "attempt to add with overflow" ∧ ¬ StatsFit records := by
  change Recorded records (StrategyStats.recordAll {} records)
  induction records using List.reverseRecOn with
  | nil =>
    refine ⟨⟨rfl, rfl, rfl, rfl, rfl, rfl⟩, ?_, ?_, ?_⟩
    all_goals simp [confidences, successfulProfits, gasCostsOfExecutions]
  | append_singleton records record ih =>
    rw [recordAll_concat]
    rcases hrun : StrategyStats.recordAll {} records with failure | stats
    · rw [hrun] at ih
      exact ⟨ih.1, fun hfit => ih.2 hfit.of_append⟩
    · rw [hrun] at ih
      exact record_spec ih record

end Botmev.Strategies
