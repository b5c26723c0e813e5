import Botmev.Strategies.Engine

/-!
# Evaluating in parallel and one after another

The tasks of the parallel mode, which is the default, do not evaluate anything: each of them
gives no opportunity. So the two modes agree only where there is none to be found.

## What is proved

* `evaluateStrategiesParallel_eq_ok_iff`: the parallel mode finds nothing.
* `evaluateStrategiesSequential_eq_nil_iff`: when the other one finds nothing.
* `modes_agree_iff`: when they agree.
* `opportunity_overlooked`: an opportunity that only one of them finds.
-/

namespace Botmev.Strategies

open Botmev.Rust Botmev.Library Botmev.Core

/-- Both return, and the opportunities are the same, up to order. -/
def SameOpportunities (returned returned' :
    Option (Result (List DetectedOpportunity) × StrategyEngine)) : Prop :=
  ∃ found found' engine engine', returned = some (.ok found, engine) ∧
    returned' = some (.ok found', engine') ∧
    found.Perm found'

namespace StrategyEngine

variable (engine : StrategyEngine) (tx : ParsedTransaction)

/-- The same engine, in one mode or the other. -/
def inMode (parallel : Bool) : StrategyEngine :=
  { engine with config := { engine.config with enableParallelEvaluation := parallel } }

/-- **The modes agree** on a transaction, at whatever time and in whatever order the hash maps
are iterated. -/
def ModesAgree : Prop :=
  ∀ strategies keyOrder keyOrder' currentTime currentTime', strategies.entries.Perm engine.strategies.entries →
    SameOpportunities ((engine.inMode true).evaluateTransaction keyOrder currentTime tx)
      ({ engine.inMode false with strategies }.evaluateTransaction keyOrder' currentTime' tx)

/-- The strategy finds no opportunity in time, and does not panic. -/
def FindsNothing (strategy : Strategy) : Prop :=
  match (strategy.evaluateTransaction tx).withTimeout engine.config.evaluationTimeoutMs with
  | some (.ok (.opportunity _)) | some (.error (.panic _)) => False
  | _ => True

/-- There is room in the counter of the transactions; and no strategy is enabled, or there is a
permit, the semaphore can be made, and none of them finds anything. -/
def NothingToFind : Prop :=
  engine.stats.transactionsEvaluated.toNat + 1 < 2 ^ 64 ∧
    (engine.enabledStrategies = [] ∨
      engine.config.maxConcurrentEvaluations ≠ 0 ∧ engine.config.maxConcurrentEvaluations.toNat ≤ maxPermits ∧
        ∀ strategy ∈ engine.enabledStrategies, engine.FindsNothing tx strategy)

variable {engine tx} {strategies : List Strategy} {found : List DetectedOpportunity}

/-! ### The two modes -/

@[simp] theorem evaluationTask_eq : engine.evaluationTask = none := by
  simp [evaluationTask, Evaluation.withTimeout]

/-- **The parallel mode finds nothing**, where it returns. -/
theorem evaluateStrategiesParallel_eq_ok_iff :
    engine.evaluateStrategiesParallel strategies = some (.ok found) ↔
      engine.config.maxConcurrentEvaluations.toNat ≤ maxPermits ∧
        (strategies = [] ∨ engine.config.maxConcurrentEvaluations ≠ 0) ∧ found = [] := by
  unfold evaluateStrategiesParallel
  by_cases hmax : maxPermits < engine.config.maxConcurrentEvaluations.toNat
  · rw [if_pos hmax]
    constructor
    · rintro ⟨⟩
    · rintro ⟨hle, -⟩
      exact absurd hmax (Nat.not_lt.mpr hle)
  rw [if_neg hmax]
  by_cases hzero : engine.config.maxConcurrentEvaluations = 0
  · cases strategies with
    | nil => simp [hzero, eq_comm]
    | cons strategy rest => simp [hzero]
  · -- Every task is made, and none of them gives anything.
    have hhandles : (strategies.mapM fun _ =>
        if engine.config.maxConcurrentEvaluations = 0 then none else some engine.evaluationTask) =
          some (strategies.map fun _ => none) := by
      simp only [hzero, if_false, evaluationTask_eq]
      exact List.mapM_pure
    have hnothing : (strategies.map fun _ => (none : Option DetectedOpportunity)).filterMap id = [] := by simp
    rw [hhandles]
    change some (Except.ok ((strategies.map fun _ => none).filterMap id)) = _ ↔ _
    rw [hnothing]
    constructor
    · rintro ⟨⟩
      exact ⟨Nat.not_lt.mp hmax, .inr hzero, rfl⟩
    · rintro ⟨-, -, rfl⟩
      rfl

theorem evaluateStrategy_eq_none_iff {strategy : Strategy} :
    engine.evaluateStrategy tx strategy = .ok none ↔ engine.FindsNothing tx strategy := by
  unfold evaluateStrategy FindsNothing
  split <;> simp_all

theorem evaluateStrategiesSequential_cons {strategy : Strategy} :
    engine.evaluateStrategiesSequential (strategy :: strategies) tx =
      engine.evaluateStrategy tx strategy >>= fun opportunity =>
        engine.evaluateStrategiesSequential strategies tx >>= fun others =>
          .ok (opportunity.toList ++ others) := by
  simp only [evaluateStrategiesSequential, List.mapM_cons]
  rcases engine.evaluateStrategy tx strategy with failure | opportunity
  · rfl
  · rcases strategies.mapM (engine.evaluateStrategy tx) with failure | others
    · rfl
    · cases opportunity <;> rfl

/-- **The sequential mode finds nothing** just when no strategy does. -/
theorem evaluateStrategiesSequential_eq_nil_iff :
    engine.evaluateStrategiesSequential strategies tx = .ok [] ↔
      ∀ strategy ∈ strategies, engine.FindsNothing tx strategy := by
  induction strategies with
  | nil => exact iff_of_true rfl (by simp)
  | cons strategy rest ih =>
    rw [List.forall_mem_cons, ← ih, ← evaluateStrategy_eq_none_iff, evaluateStrategiesSequential_cons]
    simp only [bind_eq_ok_iff, Except.ok.injEq, List.append_eq_nil_iff, Option.toList_eq_nil_iff]
    constructor
    · rintro ⟨_, hstrategy, _, hrest, rfl, rfl⟩
      exact ⟨hstrategy, hrest⟩
    · rintro ⟨hstrategy, hrest⟩
      exact ⟨_, hstrategy, _, hrest, rfl, rfl⟩

/-! ### A whole evaluation -/

theorem recordOpportunities_eq_ok_iff {keyOrder : List String → List String} {currentTime : U64}
    {evaluated : Result (List DetectedOpportunity)} :
    (engine.recordOpportunities keyOrder currentTime evaluated).1 = .ok found ↔
      evaluated = .ok found ∧
        ∃ total, Uint.add engine.stats.opportunitiesFound (BitVec.ofNat 64 found.length) = .ok total := by
  rcases evaluated with failure | opportunities
  · simp [recordOpportunities]
  · have hstats : (engine.cacheOpportunities keyOrder currentTime opportunities).stats = engine.stats := rfl
    simp only [recordOpportunities, hstats, Except.ok.injEq]
    constructor
    · intro h
      split at h
      · cases h
      next total htotal =>
        cases h
        exact ⟨rfl, total, htotal⟩
    · rintro ⟨rfl, total, htotal⟩
      rw [htotal]

theorem evaluateTransaction_eq_ok_iff {keyOrder : List String → List String} {currentTime : U64} :
    (∃ engine', engine.evaluateTransaction keyOrder currentTime tx = some (.ok found, engine')) ↔
      engine.stats.transactionsEvaluated.toNat + 1 < 2 ^ 64 ∧
        (engine.enabledStrategies = [] ∧ found = [] ∨
          engine.enabledStrategies ≠ [] ∧ engine.evaluateStrategies tx = some (.ok found) ∧
            ∃ total, Uint.add engine.stats.opportunitiesFound (BitVec.ofNat 64 found.length) = .ok total) := by
  unfold evaluateTransaction
  rcases hadd : Uint.add engine.stats.transactionsEvaluated 1 with failure | transactionsEvaluated
  · constructor
    · rintro ⟨_, ⟨⟩⟩
    · rintro ⟨hlt, -⟩
      have hok : ∃ c, Uint.add engine.stats.transactionsEvaluated 1 = .ok c := Uint.exists_add_eq_ok_iff.mpr hlt
      rw [hadd] at hok
      obtain ⟨_, ⟨⟩⟩ := hok
  · have hroom : engine.stats.transactionsEvaluated.toNat + 1 < 2 ^ 64 := Uint.exists_add_eq_ok_iff.mp ⟨_, hadd⟩
    rw [and_iff_right hroom]
    by_cases henabled : engine.enabledStrategies = []
    · simp only [henabled, true_and, ne_eq, not_true, false_and, or_false]
      constructor
      · rintro ⟨_, ⟨⟩⟩
        rfl
      · rintro rfl
        exact ⟨_, rfl⟩
    · simp only [henabled, false_and, ne_eq, not_false_eq_true, true_and, false_or]
      constructor
      · rintro ⟨engine', h⟩
        obtain ⟨evaluated, hevaluated, hrecorded⟩ := Option.map_eq_some_iff.mp h
        obtain ⟨rfl, htotal⟩ := recordOpportunities_eq_ok_iff.mp (congrArg Prod.fst hrecorded)
        exact ⟨hevaluated, htotal⟩
      · rintro ⟨hevaluated, htotal⟩
        have hrecorded : (StrategyEngine.recordOpportunities
            { engine with stats := { engine.stats with transactionsEvaluated } }
            keyOrder currentTime (.ok found)).1 = .ok found :=
          recordOpportunities_eq_ok_iff.mpr ⟨rfl, htotal⟩
        exact ⟨_, Option.map_eq_some_iff.mpr ⟨_, hevaluated, Prod.ext hrecorded rfl⟩⟩

/-! ### Both modes -/

@[simp] theorem enabledStrategies_inMode {parallel : Bool} :
    (engine.inMode parallel).enabledStrategies = engine.enabledStrategies := rfl

/-- The order in which the strategies are iterated does not say which are enabled. -/
theorem enabledStrategies_perm (engine : StrategyEngine) {strategies : Table String Strategy}
    (hperm : strategies.entries.Perm engine.strategies.entries) :
    ({ engine with strategies }).enabledStrategies.Perm engine.enabledStrategies :=
  (hperm.map _).filter _

theorem evaluateTransaction_eq_nil_iff {keyOrder : List String → List String} {currentTime : U64} :
    (∃ engine', engine.evaluateTransaction keyOrder currentTime tx = some (.ok [], engine')) ↔
      engine.stats.transactionsEvaluated.toNat + 1 < 2 ^ 64 ∧
        (engine.enabledStrategies = [] ∨ engine.evaluateStrategies tx = some (.ok [])) := by
  have htotal : ∃ total, Uint.add engine.stats.opportunitiesFound
      (BitVec.ofNat 64 ([] : List DetectedOpportunity).length) =
      .ok total := ⟨_, Uint.add_eq_ok_iff.mpr rfl⟩
  rw [evaluateTransaction_eq_ok_iff]
  by_cases henabled : engine.enabledStrategies = []
  · simp [henabled]
  · simp only [henabled, false_or, ne_eq, not_false_eq_true, true_and, htotal, and_true]

theorem evaluateStrategies_parallel_eq_ok_iff :
    (engine.inMode true).evaluateStrategies tx = some (.ok found) ↔
      engine.config.maxConcurrentEvaluations.toNat ≤ maxPermits ∧
        (engine.enabledStrategies = [] ∨ engine.config.maxConcurrentEvaluations ≠ 0) ∧ found = [] :=
  evaluateStrategiesParallel_eq_ok_iff

theorem evaluateStrategies_sequential_eq_nil_iff {strategies : Table String Strategy}
    (hperm : strategies.entries.Perm engine.strategies.entries) :
    ({ engine.inMode false with strategies }).evaluateStrategies tx = some (.ok []) ↔
      ∀ strategy ∈ engine.enabledStrategies, engine.FindsNothing tx strategy := by
  have hmem (strategy : Strategy) := (enabledStrategies_perm engine hperm).mem_iff (a := strategy)
  simp only [← hmem]
  exact Option.some_inj.trans evaluateStrategiesSequential_eq_nil_iff

theorem nothingToFind_of_modesAgree (hagree : engine.ModesAgree tx) : engine.NothingToFind tx := by
  obtain ⟨found, found', engine₁, engine₂, hparallel, hsequential, hperm⟩ :=
    hagree engine.strategies id id 0 0 (.refl _)
  obtain ⟨hroom, henabled⟩ := evaluateTransaction_eq_ok_iff.mp ⟨_, hparallel⟩
  refine ⟨hroom, henabled.imp And.left fun ⟨hsome, hfound, _⟩ => ?_⟩
  -- What the parallel mode finds is nothing, so the other one found nothing too.
  obtain ⟨hmax, hpermit, rfl⟩ := evaluateStrategies_parallel_eq_ok_iff.mp hfound
  obtain rfl := hperm.nil_eq
  obtain ⟨-, hnone⟩ := evaluateTransaction_eq_nil_iff.mp ⟨_, hsequential⟩
  exact ⟨hpermit.resolve_left hsome, hmax,
    (evaluateStrategies_sequential_eq_nil_iff (.refl _)).mp (hnone.resolve_left hsome)⟩

theorem modesAgree_of_nothingToFind (hnothing : engine.NothingToFind tx) : engine.ModesAgree tx := by
  obtain ⟨hroom, hnothing⟩ := hnothing
  intro strategies keyOrder keyOrder' currentTime currentTime' hperm
  have hparallel : ∃ engine', (engine.inMode true).evaluateTransaction keyOrder currentTime tx =
      some (.ok [], engine') := by
    refine evaluateTransaction_eq_nil_iff.mpr ⟨hroom, hnothing.imp_right fun ⟨hpermit, hmax, _⟩ => ?_⟩
    exact evaluateStrategies_parallel_eq_ok_iff.mpr ⟨hmax, .inr hpermit, rfl⟩
  have hsequential : ∃ engine',
      ({ engine.inMode false with strategies }).evaluateTransaction keyOrder' currentTime' tx =
      some (.ok [], engine') := by
    refine evaluateTransaction_eq_nil_iff.mpr ⟨hroom, hnothing.imp (fun hnone => ?_) fun ⟨_, _, hall⟩ => ?_⟩
    · exact ((enabledStrategies_perm engine hperm).trans (.of_eq hnone)).eq_nil
    · exact (evaluateStrategies_sequential_eq_nil_iff hperm).mpr hall
  obtain ⟨engine₁, hparallel⟩ := hparallel
  obtain ⟨engine₂, hsequential⟩ := hsequential
  exact ⟨[], [], engine₁, engine₂, hparallel, hsequential, .refl _⟩

/-- **The modes agree** just when there is nothing to find. -/
theorem modes_agree_iff (engine : StrategyEngine) (tx : ParsedTransaction) :
    engine.ModesAgree tx ↔ engine.NothingToFind tx :=
  ⟨nothingToFind_of_modesAgree, modesAgree_of_nothingToFind⟩

/-! ### An overlooked opportunity -/

/-- A swap of two ether. -/
def sampleSwap : ParsedTransaction where
  transaction :=
    { hash := "0x1234567890abcdef", fromAddress := "0xfrom", toAddress := some "0xto",
      value := "2000000000000000000"
      gasPrice := "50000000000", gasLimit := "200000", nonce := 1, input := "0x38ed1739" }
  decodedInput := none
  targetType := .uniswapV2

/-- An opportunity to arbitrage it. -/
def sampleOpportunity : DetectedOpportunity where
  id := "test_opp_1"
  strategyName := "test"
  targetTransaction := sampleSwap
  opportunityType := .arbitrage "WETH" "USDC" 1000000000000000000 50000000000000000 ["UniswapV2"]
  estimatedProfitWei := 50000000000000000
  expiryTimestamp := 1700000060

/-- A strategy that finds it, in a millisecond. -/
def sampleStrategy : Strategy where
  name := "test"
  config := ⟨"test", true, 100, 0, 100, .ofNat 0, fun _ => none⟩
  evaluateTransaction := fun _ => ⟨some 1, .ok (.opportunity sampleOpportunity)⟩

/-- **An opportunity overlooked**: with the default configuration, one strategy is enabled, and
finds an opportunity in time; the modes do not agree. -/
theorem opportunity_overlooked :
    ((StrategyEngine.new .default).registerStrategy sampleStrategy).enabledStrategies = [sampleStrategy] ∧
      (sampleStrategy.evaluateTransaction sampleSwap).withTimeout
        StrategyEngineConfig.default.evaluationTimeoutMs =
        some (.ok (.opportunity sampleOpportunity)) ∧
      ¬ ((StrategyEngine.new .default).registerStrategy sampleStrategy).ModesAgree sampleSwap := by
  have hfound : (sampleStrategy.evaluateTransaction sampleSwap).withTimeout
      StrategyEngineConfig.default.evaluationTimeoutMs = some (.ok (.opportunity sampleOpportunity)) := rfl
  refine ⟨rfl, hfound, fun hagree => ?_⟩
  obtain ⟨-, hnone | ⟨-, -, hall⟩⟩ := nothingToFind_of_modesAgree hagree
  · cases hnone
  · have hnothing := hall sampleStrategy (List.mem_singleton.mpr rfl)
    rw [FindsNothing] at hnothing
    exact hnothing

end StrategyEngine

end Botmev.Strategies
