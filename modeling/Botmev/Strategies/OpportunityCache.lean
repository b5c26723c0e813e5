import Botmev.Strategies.EvaluationModes
import Botmev.Strategies.Plans

/-!
# The opportunity cache

The engine keeps the opportunities that it finds in a hash map, with at most as many entries as it
is configured to. When there are more, the first ones in the order of iteration go, whichever they
are: it may be those that were found just now.

## What is proved

* `cache_bounded`: after every call that writes to the cache, it is no larger than configured, and
  nothing in it was expired.
* `createBundlePlan_of_lookup`: the plan for an opportunity that is there.
* `cached_iff`: whether an opportunity is there after caching, in every order of iteration.
* `retrievable_iff`: when all that an evaluation returns can be retrieved, in every order.
* `found_and_evicted`: an opportunity that cannot.
-/

namespace Botmev.Strategies

open Botmev.Rust Botmev.Library Botmev.Core

/-- The order in which a hash map is iterated: each key once. -/
structure KeyOrder where
  /-- The keys, in that order. -/
  order : List String → List String
  perm : ∀ keys, (order keys).Perm keys

/-- One key before all others. -/
def KeyOrder.first (key : String) : KeyOrder where
  order keys := if key ∈ keys then key :: keys.erase key else keys
  perm keys := by
    split
    · exact (List.perm_cons_erase ‹_›).symm
    · exact .refl _

/-- The engine, with the bundle plans that it makes. -/
structure PlanningEngine extends StrategyEngine where
  /-- `bundle_plans`. -/
  bundlePlans : Table String BundlePlan
  /-- `bundles_created`, of the statistics. -/
  bundlesCreated : U64

namespace PlanningEngine

/-- `StrategyEngine::new(config, metrics)`. -/
def new (config : StrategyEngineConfig) : PlanningEngine := ⟨.new config, ∅, 0⟩

variable (engine : PlanningEngine)

/-- "Create bundle plan from opportunity"; `createPlan` is what the strategies make of one. -/
def createBundlePlan (createPlan : Strategy → DetectedOpportunity → Result BundlePlan) (currentTime : U64)
    (opportunityId : String) : Result (Option BundlePlan) × PlanningEngine :=
  match engine.opportunities.lookup opportunityId with
  | none => (.ok none, engine)
  | some opportunity =>
    if currentTime < opportunity.expiryTimestamp then
      match engine.strategies.lookup opportunity.strategyName with
      | none => (.ok none, engine)
      | some strategy =>
        match createPlan strategy opportunity with
        | .error failure => (.error failure, engine)
        | .ok bundlePlan =>
          let engine := { engine with bundlePlans := engine.bundlePlans.insert bundlePlan.id bundlePlan }
          match Uint.add engine.bundlesCreated 1 with
          | .error failure => (.error failure, engine)
          | .ok bundlesCreated => (.ok (some bundlePlan), { engine with bundlesCreated })
    else (.ok none, engine)

/-- "Cleanup expired opportunities and bundle plans". -/
def cleanupExpired (currentTime : U64) : PlanningEngine :=
  { engine with
    opportunities :=
      Table.retain (fun _ opportunity => currentTime < opportunity.expiryTimestamp) engine.opportunities
    bundlePlans := Table.retain (fun _ bundle => currentTime < bundle.executionDeadline) engine.bundlePlans }

/-- A call that writes to the cache, with the time that it reads. -/
inductive CacheCall where
  /-- `cache_opportunities`. -/
  | cache (keyOrder : KeyOrder) (currentTime : U64) (opportunities : List DetectedOpportunity)
  /-- `cleanup_expired`. -/
  | cleanup (currentTime : U64)

/-- The time that it reads. -/
def CacheCall.currentTime : CacheCall → U64
  | .cache _ currentTime _ | .cleanup currentTime => currentTime

/-- What a call leaves. -/
def call : CacheCall → PlanningEngine
  | .cache keyOrder currentTime opportunities =>
    { engine with
      toStrategyEngine := engine.toStrategyEngine.cacheOpportunities keyOrder.order currentTime opportunities }
  | .cleanup currentTime => engine.cleanupExpired currentTime

/-- One call after the other. -/
def calls (calls : List CacheCall) : PlanningEngine := calls.foldl call engine

end PlanningEngine

namespace StrategyEngine

/-- The cache with new opportunities, before any is removed. -/
def insertAll (opportunities : List DetectedOpportunity) (cache : Table String DetectedOpportunity) :
    Table String DetectedOpportunity :=
  opportunities.foldl (fun cache opportunity => cache.insert opportunity.id opportunity) cache

/-- What of that is not expired. -/
def unexpired (currentTime : U64) (cache : Table String DetectedOpportunity) : Table String DetectedOpportunity :=
  Table.retain (fun _ opportunity => currentTime < opportunity.expiryTimestamp) cache

variable {engine : StrategyEngine} {currentTime : U64} {opportunities : List DetectedOpportunity}

theorem cacheOpportunities_opportunities (keyOrder : List String → List String) :
    (engine.cacheOpportunities keyOrder currentTime opportunities).opportunities =
      let kept := unexpired currentTime (insertAll opportunities engine.opportunities)
      let excess := Table.size kept - engine.config.opportunityCacheSize.toNat
      Table.eraseAll ((keyOrder kept.keys).take excess) kept := rfl

/-! ### The bound -/

/-- Where there are too many, the rest is as many as there may be. -/
theorem size_cacheOpportunities_le (keyOrder : KeyOrder) :
    Table.size (engine.cacheOpportunities keyOrder.order currentTime opportunities).opportunities ≤
      engine.config.opportunityCacheSize.toNat := by
  rw [cacheOpportunities_opportunities]
  generalize unexpired currentTime (insertAll opportunities engine.opportunities) = kept
  have hperm := keyOrder.perm kept.keys
  have hnodup : (keyOrder.order kept.keys).Nodup := hperm.nodup_iff.mpr (AList.keys_nodup kept)
  have hsize := Table.size_eraseAll_of_nodup
    (hnodup.sublist (List.take_sublist (Table.size kept - engine.config.opportunityCacheSize.toNat) _))
    fun key hkey => AList.mem_keys.mpr (hperm.mem_iff.mp (List.mem_of_mem_take hkey))
  rw [List.length_take, hperm.length_eq] at hsize
  change _ + min _ (Table.size kept) = _ at hsize
  dsimp only
  omega

theorem unexpired_of_lookup_cacheOpportunities {keyOrder : List String → List String} {id : String}
    {opportunity : DetectedOpportunity}
    (h : (engine.cacheOpportunities keyOrder currentTime opportunities).opportunities.lookup id = some opportunity) :
    currentTime < opportunity.expiryTimestamp := by
  rw [cacheOpportunities_opportunities, Table.lookup_eraseAll] at h
  exact of_decide_eq_true (Table.lookup_retain.mp (Option.ite_none_left_eq_some.mp h).2).2

end StrategyEngine

namespace PlanningEngine

variable {engine : PlanningEngine} {call : CacheCall}

theorem config_call : (engine.call call).config = engine.config := by
  cases call <;> rfl

theorem config_calls (calls : List CacheCall) : (engine.calls calls).config = engine.config := by
  induction calls generalizing engine with
  | nil => rfl
  | cons call calls ih => exact ih.trans config_call

theorem size_call_le (h : Table.size engine.opportunities ≤ engine.config.opportunityCacheSize.toNat) :
    Table.size (engine.call call).opportunities ≤ engine.config.opportunityCacheSize.toNat := by
  cases call with
  | cache keyOrder currentTime opportunities => exact StrategyEngine.size_cacheOpportunities_le keyOrder
  | cleanup currentTime => exact Nat.le_trans (Table.size_retain_le _ _) h

theorem size_calls_le (calls : List CacheCall)
    (h : Table.size engine.opportunities ≤ engine.config.opportunityCacheSize.toNat) :
    Table.size (engine.calls calls).opportunities ≤ engine.config.opportunityCacheSize.toNat := by
  induction calls generalizing engine with
  | nil => exact h
  | cons call calls ih =>
    have hconfig : (engine.call call).config = engine.config := config_call
    rw [← hconfig]
    refine ih ?_
    rw [hconfig]
    exact size_call_le h

/-- A call leaves nothing that was expired when it read the time. -/
theorem unexpired_of_lookup_call {id : String} {opportunity : DetectedOpportunity}
    (h : (engine.call call).opportunities.lookup id = some opportunity) :
    call.currentTime < opportunity.expiryTimestamp := by
  cases call with
  | cache keyOrder currentTime opportunities => exact StrategyEngine.unexpired_of_lookup_cacheOpportunities h
  | cleanup currentTime => exact of_decide_eq_true (Table.lookup_retain.mp h).2

/-- **The cache is bounded**: after every call it has no more entries than configured, and each was
unexpired at the time of the call. -/
theorem cache_bounded (config : StrategyEngineConfig) (calls : List CacheCall) (call : CacheCall) :
    Table.size (((new config).calls calls).call call).opportunities ≤ config.opportunityCacheSize.toNat ∧
      ∀ id opportunity, (((new config).calls calls).call call).opportunities.lookup id = some opportunity →
        call.currentTime < opportunity.expiryTimestamp := by
  have hconfig : ((new config).calls calls).config = config := config_calls calls
  have hbefore : Table.size ((new config).calls calls).opportunities ≤
      ((new config).calls calls).config.opportunityCacheSize.toNat := by
    rw [hconfig]
    exact size_calls_le calls (Nat.zero_le _)
  have hafter : Table.size (((new config).calls calls).call call).opportunities ≤
      ((new config).calls calls).config.opportunityCacheSize.toNat := size_call_le hbefore
  rw [hconfig] at hafter
  exact ⟨hafter, fun id opportunity h => unexpired_of_lookup_call h⟩

end PlanningEngine

/-! ### What can be retrieved -/

/-- **A bundle plan** for an opportunity that is there, unexpired: what its strategy makes of it. -/
theorem PlanningEngine.createBundlePlan_of_lookup {engine : PlanningEngine} {currentTime : U64} {id : String}
    {createPlan : Strategy → DetectedOpportunity → Result BundlePlan} {opportunity : DetectedOpportunity}
    {strategy : Strategy} (hopportunity : engine.opportunities.lookup id = some opportunity)
    (hunexpired : currentTime < opportunity.expiryTimestamp)
    (hstrategy : engine.strategies.lookup opportunity.strategyName = some strategy) :
    (engine.createBundlePlan createPlan currentTime id).1 =
      createPlan strategy opportunity >>= fun bundlePlan =>
        (fun _ => some bundlePlan) <$> Uint.add engine.bundlesCreated 1 := by
  simp only [createBundlePlan, hopportunity, if_pos hunexpired, hstrategy]
  rcases createPlan strategy opportunity with failure | bundlePlan
  · rfl
  · rw [ok_bind]
    rcases Uint.add engine.bundlesCreated 1 with failure | bundlesCreated <;> rfl

namespace StrategyEngine

/-- The other entries of the cache that are not expired. -/
def others (currentTime : U64) (found : List DetectedOpportunity) (cache : Table String DetectedOpportunity) :
    Table String DetectedOpportunity :=
  Table.retain (fun id opportunity => currentTime < opportunity.expiryTimestamp ∧ id ∉ found.map (·.id)) cache

/-- What the enabled strategies find in a transaction, in time; the tasks of the parallel mode look for
nothing. -/
def detected (engine : StrategyEngine) (tx : ParsedTransaction) : List DetectedOpportunity :=
  if engine.config.enableParallelEvaluation then []
  else engine.enabledStrategies.filterMap fun strategy =>
    match (strategy.evaluateTransaction tx).withTimeout engine.config.evaluationTimeoutMs with
    | some (.ok (.opportunity opportunity)) => some opportunity
    | _ => none

/-- There is room for the opportunities, none is expired, and no two have the same id. -/
structure Cacheable (engine : StrategyEngine) (currentTime : U64) (found : List DetectedOpportunity) : Prop where
  atMost : found.length ≤ engine.config.opportunityCacheSize.toNat
  unexpired : ∀ opportunity ∈ found, currentTime < opportunity.expiryTimestamp
  distinct : (found.map (·.id)).Nodup

/-- **All that is returned can be retrieved**, in whatever order the cache is iterated. -/
def Retrievable (engine : StrategyEngine) (currentTime : U64) (tx : ParsedTransaction) : Prop :=
  ∀ (keyOrder : KeyOrder) found engine',
    engine.evaluateTransaction keyOrder.order currentTime tx = some (.ok found, engine') →
      ∀ opportunity ∈ found, engine'.opportunities.lookup opportunity.id = some opportunity

variable {engine : StrategyEngine} {currentTime : U64} {found : List DetectedOpportunity}
  {cache : Table String DetectedOpportunity} {tx : ParsedTransaction}

theorem lookup_insertAll_of_notMem {id : String} (h : id ∉ found.map (·.id)) :
    (insertAll found cache).lookup id = cache.lookup id := by
  induction found generalizing cache with
  | nil => rfl
  | cons opportunity found ih =>
    have hid : id ≠ opportunity.id := List.ne_of_not_mem_cons h
    exact (ih (List.not_mem_of_not_mem_cons h)).trans (AList.lookup_insert_ne hid)

theorem lookup_insertAll_of_mem (hdistinct : (found.map (·.id)).Nodup) {opportunity : DetectedOpportunity}
    (h : opportunity ∈ found) : (insertAll found cache).lookup opportunity.id = some opportunity := by
  induction found generalizing cache with
  | nil => cases h
  | cons first found ih =>
    obtain ⟨hfirst, hdistinct⟩ := List.nodup_cons.mp hdistinct
    rcases List.mem_cons.mp h with rfl | h
    · exact (lookup_insertAll_of_notMem hfirst).trans (AList.lookup_insert cache)
    · exact ih hdistinct h

/-- The entries of the cache with new ones are these and the others. -/
theorem size_unexpired_insertAll (h : Cacheable engine currentTime found) :
    Table.size (unexpired currentTime (insertAll found cache)) =
      Table.size (others currentTime found cache) + found.length := by
  have hnodup : ((others currentTime found cache).keys ++ found.map (·.id)).Nodup := by
    refine List.nodup_append'.mpr ⟨AList.keys_nodup _, h.distinct, fun id hid hfound => ?_⟩
    obtain ⟨_, -, hothers⟩ := Table.mem_keys_retain.mp hid
    exact (of_decide_eq_true hothers).2 hfound
  have hperm : (unexpired currentTime (insertAll found cache)).keys.Perm
      ((others currentTime found cache).keys ++ found.map (·.id)) := by
    refine (List.perm_ext_iff_of_nodup (AList.keys_nodup _) hnodup).mpr fun id => ?_
    rw [List.mem_append, unexpired, others, Table.mem_keys_retain, Table.mem_keys_retain]
    by_cases hid : id ∈ found.map (·.id)
    · obtain ⟨opportunity, hopportunity, rfl⟩ := List.mem_map.mp hid
      refine iff_of_true ⟨opportunity, lookup_insertAll_of_mem h.distinct hopportunity, ?_⟩ (.inr hid)
      exact decide_eq_true (h.unexpired opportunity hopportunity)
    · simp only [lookup_insertAll_of_notMem hid, hid, not_false_eq_true, and_true, or_false]
  have hlength := hperm.length_eq
  rwa [List.length_append, List.length_map] at hlength

/-- **Whether an opportunity is there after caching**, in every order of iteration: just when nothing
needs to be removed. -/
theorem cached_iff (h : Cacheable engine currentTime found) {opportunity : DetectedOpportunity}
    (hopportunity : opportunity ∈ found) :
    (∀ keyOrder : KeyOrder, (engine.cacheOpportunities keyOrder.order currentTime found).opportunities.lookup
        opportunity.id = some opportunity) ↔
      Table.size (others currentTime found engine.opportunities) + found.length ≤
        engine.config.opportunityCacheSize.toNat := by
  have hsize : Table.size (unexpired currentTime (insertAll found engine.opportunities)) =
      Table.size (others currentTime found engine.opportunities) + found.length :=
    size_unexpired_insertAll h
  have hkept : (unexpired currentTime (insertAll found engine.opportunities)).lookup opportunity.id =
      some opportunity := by
    refine Table.lookup_retain.mpr ⟨lookup_insertAll_of_mem h.distinct hopportunity, ?_⟩
    exact decide_eq_true (h.unexpired opportunity hopportunity)
  simp only [cacheOpportunities_opportunities, Table.lookup_eraseAll]
  rw [← hsize]
  generalize unexpired currentTime (insertAll found engine.opportunities) = kept at hkept
  constructor
  · intro hall
    by_contra hlt
    -- in this order of iteration, it is the first to go
    have hfirst : (KeyOrder.first opportunity.id).order kept.keys =
        opportunity.id :: kept.keys.erase opportunity.id :=
      if_pos (Table.mem_keys_iff.mpr ⟨opportunity, hkept⟩)
    have hgone := (Option.ite_none_left_eq_some.mp (hall (KeyOrder.first opportunity.id))).1
    have hpos := Nat.sub_pos_of_lt (Nat.lt_of_not_le hlt)
    obtain ⟨excess, hexcess⟩ := Nat.exists_eq_succ_of_ne_zero (Nat.ne_of_gt hpos)
    rw [hfirst, hexcess, List.take_succ_cons] at hgone
    exact hgone List.mem_cons_self
  · intro hle keyOrder
    rw [Nat.sub_eq_zero_of_le hle, List.take_zero, if_neg List.not_mem_nil]
    exact hkept

/-! ### What an evaluation returns -/

theorem evaluateStrategiesSequential_eq_ok {strategies : List Strategy}
    (h : engine.evaluateStrategiesSequential strategies tx = .ok found) :
    found = strategies.filterMap fun strategy =>
      match (strategy.evaluateTransaction tx).withTimeout engine.config.evaluationTimeoutMs with
      | some (.ok (.opportunity opportunity)) => some opportunity
      | _ => none := by
  induction strategies generalizing found with
  | nil =>
    cases h
    rfl
  | cons strategy strategies ih =>
    rw [evaluateStrategiesSequential_cons] at h
    obtain ⟨opportunity, hfirst, h⟩ := bind_eq_ok_iff.mp h
    obtain ⟨others, hothers, h⟩ := bind_eq_ok_iff.mp h
    obtain rfl := Except.ok.inj h
    rw [ih hothers, List.filterMap_cons]
    unfold evaluateStrategy at hfirst
    split at hfirst <;> cases hfirst <;> simp_all

theorem evaluateStrategies_eq_ok (h : engine.evaluateStrategies tx = some (.ok found)) :
    found = engine.detected tx := by
  unfold evaluateStrategies at h
  unfold detected
  split at h
  · rw [if_pos ‹_›]
    exact (evaluateStrategiesParallel_eq_ok_iff.mp h).2.2
  · rw [if_neg ‹_›]
    exact evaluateStrategiesSequential_eq_ok (Option.some.inj h)

/-- **What is returned** is what the strategies find, and this has gone into the cache. -/
theorem evaluateTransaction_eq_ok {keyOrder : List String → List String} {engine' : StrategyEngine}
    (h : engine.evaluateTransaction keyOrder currentTime tx = some (.ok found, engine')) :
    found = engine.detected tx ∧
      (found = [] ∨
        engine'.opportunities = (engine.cacheOpportunities keyOrder currentTime found).opportunities) := by
  unfold evaluateTransaction at h
  split at h
  · cases h
  dsimp only at h
  split at h
  · cases h
    have hnone : engine.enabledStrategies = [] := ‹_›
    refine ⟨?_, .inl rfl⟩
    unfold detected
    rw [hnone, List.filterMap_nil, ite_self]
  · obtain ⟨evaluated, hevaluated, h⟩ := Option.map_eq_some_iff.mp h
    unfold recordOpportunities at h
    split at h
    · cases h
    dsimp only at h
    split at h
    · cases h
    · cases h
      exact ⟨evaluateStrategies_eq_ok hevaluated, .inr rfl⟩

/-- **All that an evaluation returns can be retrieved**, in every order of iteration, just when it
finds nothing, or there is room for what it finds beside the other entries that are not expired. -/
theorem retrievable_iff (hcacheable : engine.Cacheable currentTime (engine.detected tx))
    (hreturns : ∃ found engine', engine.evaluateTransaction id currentTime tx = some (.ok found, engine')) :
    engine.Retrievable currentTime tx ↔
      engine.detected tx = [] ∨
        Table.size (others currentTime (engine.detected tx) engine.opportunities) + (engine.detected tx).length ≤
          engine.config.opportunityCacheSize.toNat := by
  obtain ⟨found, engine₁, hreturned⟩ := hreturns
  obtain ⟨rfl, -⟩ := evaluateTransaction_eq_ok hreturned
  constructor
  · intro h
    by_contra hneither
    obtain ⟨hsome, hlt⟩ := not_or.mp hneither
    obtain ⟨opportunity, hopportunity⟩ := List.exists_mem_of_ne_nil _ hsome
    refine hlt ((cached_iff hcacheable hopportunity).mp fun keyOrder => ?_)
    have hsame := evaluateTransaction_eq_ok_iff.mp ⟨engine₁, hreturned⟩
    obtain ⟨engine₂, hreturned⟩ : ∃ engine', engine.evaluateTransaction keyOrder.order currentTime tx =
        some (.ok (engine.detected tx), engine') := evaluateTransaction_eq_ok_iff.mpr hsame
    obtain ⟨-, hcached⟩ := evaluateTransaction_eq_ok hreturned
    rw [← hcached.resolve_left hsome]
    exact h keyOrder _ engine₂ hreturned opportunity hopportunity
  · intro h keyOrder found engine₂ hreturned opportunity hopportunity
    obtain ⟨rfl, hcached⟩ := evaluateTransaction_eq_ok hreturned
    have hsome := List.ne_nil_of_mem hopportunity
    rw [hcached.resolve_left hsome]
    exact (cached_iff hcacheable hopportunity).mpr (h.resolve_left hsome) keyOrder

/-! ### An opportunity between others -/

/-- Another opportunity, that was found before. -/
def olderOpportunity : DetectedOpportunity := { sampleOpportunity with id := "test_opp_0" }

/-- An engine that evaluates one strategy after the other, with the older opportunity in a cache of this
size. -/
def sampleEngine (opportunityCacheSize : U64) : StrategyEngine :=
  let config := { StrategyEngineConfig.default with enableParallelEvaluation := false, opportunityCacheSize }
  ((new config).registerStrategy sampleStrategy).cacheOpportunities id 1700000000 [olderOpportunity]

theorem cacheable_sampleEngine : (sampleEngine 1).Cacheable 1700000000 ((sampleEngine 1).detected sampleSwap) := by
  have hdetected : (sampleEngine 1).detected sampleSwap = [sampleOpportunity] := rfl
  rw [hdetected]
  refine ⟨by decide, fun opportunity hopportunity => ?_, by decide⟩
  obtain rfl := List.mem_singleton.mp hopportunity
  decide

/-- With room for a thousand, the new one can be retrieved. -/
theorem found_and_kept : (sampleEngine 1000).Retrievable 1700000000 sampleSwap := by
  have hcacheable : (sampleEngine 1000).Cacheable 1700000000 ((sampleEngine 1000).detected sampleSwap) :=
    ⟨by decide, cacheable_sampleEngine.unexpired, cacheable_sampleEngine.distinct⟩
  exact (retrievable_iff hcacheable ⟨_, _, rfl⟩).mpr (.inr (by decide))

/-- **Found and evicted**: with room for one, an order of iteration in which the new one goes; there is
no bundle plan for it. -/
theorem found_and_evicted : (sampleEngine 1).Cacheable 1700000000 ((sampleEngine 1).detected sampleSwap) ∧
    ¬ (sampleEngine 1).Retrievable 1700000000 sampleSwap ∧
      ∃ engine', (sampleEngine 1).evaluateTransaction (KeyOrder.first "test_opp_1").order 1700000000 sampleSwap =
          some (.ok [sampleOpportunity], engine') ∧
        ∀ createPlan currentTime,
          ((PlanningEngine.mk engine' ∅ 0).createBundlePlan createPlan currentTime "test_opp_1").1 = .ok none := by
  have hreturned : (sampleEngine 1).evaluateTransaction (KeyOrder.first "test_opp_1").order 1700000000 sampleSwap =
    some (.ok [sampleOpportunity], _) := rfl
  refine ⟨cacheable_sampleEngine, fun h => ?_, _, hreturned, fun createPlan currentTime => ?_⟩
  · have hfound := h _ _ _ hreturned sampleOpportunity List.mem_cons_self
    revert hfound
    decide
  · rfl

end StrategyEngine

end Botmev.Strategies
