import Botmev.Core.RpcClient
import Mathlib.Algebra.Order.BigOperators.Group.Finset
import Mathlib.Algebra.Order.Ring.Nat

/-!
# Failover

A call that fails at an endpoint tries the best provider again. An endpoint that is faster than a
working one is the best provider until it has had three errors, so a call may use up its attempts
on endpoints that do not answer.

## What is proved

* `errorsAhead_of_recordError`: an error of an endpoint that precedes uses up one of the errors
  ahead.
* `retryLoop_ok`: the loop reaches the working endpoint if it can take all errors ahead.
* `retryLoop_ne_ok`: what keeps the loop from answering, if every attempt keeps it up.
* `reachesWorking_iff`: a call answers, whatever the other endpoints do, just when it may fail more
  often than the healthy endpoints that precede the working one can before they are marked
  unhealthy, and nothing overflows.
-/

namespace Botmev.Core.OptimizedRpcClient

open Botmev.Rust Botmev.Library

/-- The errors a healthy endpoint takes before it is marked unhealthy. -/
def errorsLeft (endpoint : EndpointHealth) : ℕ := max 1 (3 - endpoint.errorCount.toNat)

/-- The errors that endpoint `i` takes while it precedes endpoint `e`. -/
def errorsBefore (health : List EndpointHealth) (e i : ℕ) : ℕ :=
  match health[i]?, health[e]? with
  | some preceding, some endpoint =>
    if preceding.isHealthy = true ∧ rank preceding i < rank endpoint e then errorsLeft preceding else 0
  | _, _ => 0

/-- **The errors ahead** of endpoint `e`: those that the healthy endpoints that precede it can
take before all of them are marked unhealthy. -/
def errorsAhead (health : List EndpointHealth) (e : ℕ) : ℕ :=
  ∑ i ∈ Finset.range health.length, errorsBefore health e i

variable {health health' : List EndpointHealth} {preceding endpoint : EndpointHealth} {i j e : ℕ}

theorem errorsBefore_of_precedes (h : Precedes health i e) (hi : health[i]? = some preceding) :
    errorsBefore health e i = errorsLeft preceding := by
  obtain ⟨preceding', endpoint, hi', he, hhealthy, hlt⟩ := h
  rw [hi] at hi'
  cases hi'
  simp only [errorsBefore, hi, he]
  exact if_pos ⟨hhealthy, hlt⟩

theorem errorsBefore_eq_zero (h : ¬ Precedes health i e) : errorsBefore health e i = 0 := by
  unfold errorsBefore
  split
  · rename_i preceding endpoint hi he
    exact if_neg fun ⟨hhealthy, hlt⟩ => h ⟨preceding, endpoint, hi, he, hhealthy, hlt⟩
  · rfl

theorem errorsAhead_pos_iff : 0 < errorsAhead health e ↔ ∃ i, Precedes health i e := by
  constructor
  · intro hpos
    by_contra hnone
    have hzero : errorsAhead health e = 0 :=
      Finset.sum_eq_zero fun i _ => errorsBefore_eq_zero (not_exists.mp hnone i)
    omega
  · rintro ⟨i, h⟩
    obtain ⟨preceding, endpoint, hi, -⟩ := id h
    obtain ⟨hlt, -⟩ := List.getElem?_eq_some_iff.mp hi
    have hone : 1 ≤ errorsBefore health e i := by
      rw [errorsBefore_of_precedes h hi]
      exact le_max_left _ _
    exact hone.trans (Finset.single_le_sum_of_canonicallyOrdered (Finset.mem_range.mpr hlt))

/-! ### One error -/

theorem ne_of_precedes (h : Precedes health i e) : i ≠ e := by
  rintro rfl
  obtain ⟨preceding, endpoint, hi, he, -, hlt⟩ := h
  rw [hi] at he
  cases he
  exact lt_irrefl _ hlt

theorem Precedes.trans {k : ℕ} (hij : Precedes health i j) (hjk : Precedes health j k) : Precedes health i k := by
  obtain ⟨first, second, hi, hj, hhealthy, hlt⟩ := hij
  obtain ⟨second', third, hj', hk, -, hlt'⟩ := hjk
  rw [hj] at hj'
  cases hj'
  exact ⟨first, third, hi, hk, hhealthy, hlt.trans hlt'⟩

theorem getElem?_of_recordError_of_ne (hrecord : recordError health j = .ok health') (hne : i ≠ j) :
    health'[i]? = health[i]? := by
  unfold recordError recordOutcome at hrecord
  split at hrecord
  · obtain ⟨endpoint', -, heq⟩ := bind_eq_ok_iff.mp hrecord
    cases heq
    exact List.getElem?_set_ne hne.symm
  · cases hrecord
    rfl

theorem precedes_of_recordError_iff (hrecord : recordError health j = .ok health') (hi : i ≠ j) (he : e ≠ j) :
    Precedes health' i e ↔ Precedes health i e := by
  simp only [Precedes, getElem?_of_recordError_of_ne hrecord hi, getElem?_of_recordError_of_ne hrecord he]

theorem exists_of_recordError (hrecord : recordError health j = .ok health') (hj : health[j]? = some preceding) :
    ∃ preceding', health'[j]? = some preceding' ∧ preceding'.responseTimeMs = preceding.responseTimeMs ∧
      preceding'.errorCount.toNat = preceding.errorCount.toNat + 1 ∧
      preceding'.isHealthy = (preceding.isHealthy && decide (preceding'.errorCount.toNat < 3)) ∧
      preceding'.successCount = preceding.successCount := by
  obtain ⟨preceding', herror, rfl⟩ := (recordOutcome_eq_ok_iff hj).mp hrecord
  obtain ⟨c, hc, rfl⟩ := EndpointHealth.recordError_eq_ok_iff.mp herror
  exact ⟨_, getElem?_set_self_of_some hj, rfl, hc, rfl, rfl⟩

theorem length_of_recordError (hrecord : recordError health j = .ok health') : health'.length = health.length := by
  unfold recordError recordOutcome at hrecord
  split at hrecord
  · obtain ⟨endpoint', -, heq⟩ := bind_eq_ok_iff.mp hrecord
    cases heq
    exact List.length_set
  · cases hrecord
    rfl

/-- **One error** of an endpoint that precedes uses up one of the errors ahead. -/
theorem errorsAhead_of_recordError (h : Precedes health j e) (hrecord : recordError health j = .ok health') :
    errorsAhead health' e + 1 = errorsAhead health e := by
  obtain ⟨preceding, endpoint, hj, he, hhealthy, hlt⟩ := id h
  obtain ⟨hrange, -⟩ := List.getElem?_eq_some_iff.mp hj
  have hej : e ≠ j := (ne_of_precedes h).symm
  have hothers : ∀ i ∈ (Finset.range health.length).erase j, errorsBefore health' e i = errorsBefore health e i := by
    intro i hi
    simp only [errorsBefore, getElem?_of_recordError_of_ne hrecord (Finset.ne_of_mem_erase hi),
      getElem?_of_recordError_of_ne hrecord hej]
  have hself : errorsBefore health' e j + 1 = errorsBefore health e j := by
    obtain ⟨preceding', hj', htime, hcount, hhealthy', -⟩ := exists_of_recordError hrecord hj
    have hrank : rank preceding' j = rank preceding j := by rw [rank, rank, htime]
    rw [errorsBefore_of_precedes h hj]
    simp only [errorsBefore, hj', getElem?_of_recordError_of_ne hrecord hej, he, hrank, hlt, hhealthy', hhealthy,
      Bool.true_and, decide_eq_true_eq, and_true, errorsLeft]
    split <;> omega
  have hmem := Finset.mem_range.mpr hrange
  unfold errorsAhead
  rw [length_of_recordError hrecord, ← Finset.add_sum_erase _ _ hmem, Finset.sum_congr rfl hothers,
    ← Finset.add_sum_erase _ _ hmem, ← hself]
  exact Nat.add_right_comm _ _ _

/-! ### Calls that reach the working endpoint -/

variable {T : Type} {config : RpcClientConfig} {operation : Operation T} {attempt remaining : ℕ}

/-- The endpoint answers whenever it is asked. -/
def Operation.Works (operation : Operation T) (e : ℕ) : Prop :=
  ∀ attempt, ∃ result, operation.answer attempt e = .ok result

/-- Neither the errors of the endpoints that precede endpoint `e`, nor the success of one of them
or of `e`, can overflow their count. -/
structure CountersLeft (health : List EndpointHealth) (e : ℕ) : Prop where
  errors : ∀ i preceding, Precedes health i e → health[i]? = some preceding →
    preceding.errorCount.toNat + 1 < 2 ^ 32
  successes : ∀ i preceding, i = e ∨ Precedes health i e → health[i]? = some preceding →
    preceding.successCount.toNat + 1 < 2 ^ 32

theorem exists_recordSuccess_iff {responseTimeMs : Binary64.Number} (hi : health[i]? = some endpoint) :
    (∃ health', recordSuccess health i responseTimeMs = .ok health') ↔ endpoint.successCount.toNat + 1 < 2 ^ 32 :=
  (exists_recordOutcome_iff hi).trans EndpointHealth.exists_recordSuccess_iff

theorem exists_recordError_iff (hi : health[i]? = some endpoint) :
    (∃ health', recordError health i = .ok health') ↔ endpoint.errorCount.toNat + 1 < 2 ^ 32 :=
  (exists_recordOutcome_iff hi).trans EndpointHealth.exists_recordError_iff

/-- After an error of an endpoint that precedes, nothing new precedes. -/
theorem precedes_of_precedes_recordError (hrecord : recordError health j = .ok health') (hj : Precedes health j e)
    (h : Precedes health' i e) : Precedes health i e := by
  by_cases hi : i = j
  · subst hi
    exact hj
  · exact (precedes_of_recordError_iff hrecord hi (ne_of_precedes hj).symm).mp h

theorem CountersLeft.recordError (hleft : CountersLeft health e) (hj : Precedes health j e)
    (hrecord : recordError health j = .ok health') : CountersLeft health' e := by
  obtain ⟨preceding, -, hget, -⟩ := id hj
  obtain ⟨preceding', hget', -, hcount, hhealthy, hsuccesses⟩ := exists_of_recordError hrecord hget
  constructor
  · intro i endpoint hi hendpoint
    by_cases hij : i = j
    · subst hij
      obtain ⟨_, _, hsame, -, hstill, -⟩ := hi
      rw [hget'] at hsame hendpoint
      cases hsame
      cases hendpoint
      -- it still precedes, so it is not yet marked unhealthy
      rw [hhealthy, Bool.and_eq_true, decide_eq_true_eq] at hstill
      omega
    · rw [getElem?_of_recordError_of_ne hrecord hij] at hendpoint
      exact hleft.errors i endpoint (precedes_of_precedes_recordError hrecord hj hi) hendpoint
  · intro i endpoint hi hendpoint
    have hi := hi.imp_right (precedes_of_precedes_recordError hrecord hj)
    by_cases hij : i = j
    · subst hij
      rw [hget'] at hendpoint
      cases hendpoint
      rw [hsuccesses]
      exact hleft.successes i preceding hi hget
    · rw [getElem?_of_recordError_of_ne hrecord hij] at hendpoint
      exact hleft.successes i endpoint hi hendpoint

/-- **The loop reaches the working endpoint**, if it can take all errors ahead. -/
theorem retryLoop_ok (hworks : operation.Works e) (hremaining : attempt + remaining = config.retryAttempts.toNat)
    (he : health[e]? = some endpoint) (hhealthy : endpoint.isHealthy = true)
    (hattempts : errorsAhead health e < remaining)
    (hdelays : config.retryDelayMs.toNat * (attempt + errorsAhead health e) < 2 ^ 64)
    (hleft : CountersLeft health e) :
    ∃ result health', retryLoop config operation (List.range' attempt remaining) health = (.ok result, health') := by
  induction remaining generalizing attempt health with
  | zero => exact absurd hattempts (Nat.not_lt_zero _)
  | succ remaining ih =>
    obtain ⟨index, hprovider, hindex, -⟩ := getBestProvider_eq_or_precedes he hhealthy
    rw [List.range'_succ, retryLoop, hprovider]
    rcases hanswer : operation.answer attempt index with message | result
    · -- it failed, so it is another endpoint
      have hne : index ≠ e := by
        rintro rfl
        obtain ⟨result, hresult⟩ := hworks attempt
        rw [hanswer] at hresult
        cases hresult
      have hprecedes := hindex.resolve_left hne
      obtain ⟨preceding, -, hget, -⟩ := id hprecedes
      obtain ⟨health', hrecord⟩ := (exists_recordError_iff hget).mpr (hleft.errors index preceding hprecedes hget)
      have hone := errorsAhead_of_recordError hprecedes hrecord
      have hmore : attempt < config.retryAttempts.toNat - 1 := by omega
      have hmul : ∃ c, Uint.mul config.retryDelayMs (BitVec.ofNat 64 (attempt + 1)) = .ok c := by
        have hretry := config.retryAttempts.isLt
        have hle : config.retryDelayMs.toNat * (attempt + 1) ≤
            config.retryDelayMs.toNat * (attempt + errorsAhead health e) :=
          Nat.mul_le_mul_left _ (by omega)
        have hlt : config.retryDelayMs.toNat * (BitVec.ofNat 64 (attempt + 1)).toNat < 2 ^ 64 := by
          rw [BitVec.toNat_ofNat, Nat.mod_eq_of_lt (by omega)]
          exact hle.trans_lt hdelays
        exact ⟨_, (Uint.exists_mul_eq_ok hlt).choose_spec.1⟩
      obtain ⟨c, hc⟩ := hmul
      simp only [hanswer, hrecord, hmore, if_true, hc]
      have he' : health'[e]? = some endpoint := by rwa [getElem?_of_recordError_of_ne hrecord hne.symm]
      have hnext : attempt + 1 + remaining = config.retryAttempts.toNat := by omega
      refine ih hnext he' (by omega) ?_ (hleft.recordError hprecedes hrecord)
      rw [show attempt + 1 + errorsAhead health' e = attempt + errorsAhead health e by omega]
      exact hdelays
    · obtain ⟨chosen, hget⟩ : ∃ chosen, health[index]? = some chosen := by
        rcases hindex with rfl | ⟨preceding, -, hget, -⟩
        · exact ⟨endpoint, he⟩
        · exact ⟨preceding, hget⟩
      obtain ⟨health', hrecord⟩ :
          ∃ health', recordSuccess health index (operation.responseTimeMs attempt) = .ok health' :=
        (exists_recordSuccess_iff hget).mpr (hleft.successes index chosen hindex hget)
      simp only [hanswer, hrecord]
      exact ⟨result, health', rfl⟩

/-! ### Calls that do not -/

/-- **What keeps the loop from answering**: a condition under which no attempt can record a
success, and which an attempt that fails and may be followed by another one leaves. -/
theorem retryLoop_ne_ok (Stuck : ℕ → List EndpointHealth → Prop)
    (hsuccess : ∀ attempt health index result health', attempt < config.retryAttempts.toNat → Stuck attempt health →
      getBestProvider health = .ok index → operation.answer attempt index = .ok result →
      recordSuccess health index (operation.responseTimeMs attempt) ≠ .ok health')
    (herror : ∀ attempt health index message health' c, attempt + 1 < config.retryAttempts.toNat →
      Stuck attempt health → getBestProvider health = .ok index → operation.answer attempt index = .error message →
      recordError health index = .ok health' →
      Uint.mul config.retryDelayMs (BitVec.ofNat 64 (attempt + 1)) = .ok c → Stuck (attempt + 1) health')
    (hremaining : attempt + remaining = config.retryAttempts.toNat) (hstuck : Stuck attempt health) (result : T) :
    (retryLoop config operation (List.range' attempt remaining) health).1 ≠ .ok result := by
  induction remaining generalizing attempt health with
  | zero =>
    rw [List.range'_zero, retryLoop]
    rintro ⟨⟩
  | succ remaining ih =>
    rw [List.range'_succ, retryLoop]
    rcases hprovider : getBestProvider health with e | index
    · rintro ⟨⟩
    · rcases hanswer : operation.answer attempt index with message | answered
      · rcases hrecord : recordError health index with e | health'
        · simp only [hanswer, hrecord]
          rintro ⟨⟩
        · simp only [hanswer, hrecord]
          split
          · rename_i hmore
            rcases hmul : Uint.mul config.retryDelayMs (BitVec.ofNat 64 (attempt + 1)) with e | c
            · rintro ⟨⟩
            · have hnext : attempt + 1 + remaining = config.retryAttempts.toNat := by omega
              exact ih hnext (herror _ _ _ _ _ _ (by omega) hstuck hprovider hanswer hrecord hmul)
          · rintro ⟨⟩
      · rcases hrecord : recordSuccess health index (operation.responseTimeMs attempt) with e | health'
        · simp only [hanswer, hrecord]
          rintro ⟨⟩
        · exact absurd hrecord (hsuccess _ _ _ _ _ (by omega) hstuck hprovider hanswer)

/-- Two endpoints at most answer, the others always fail. -/
def answersAt (e i : ℕ) : Operation Unit where
  answer _ index := if index = e ∨ index = i then .ok () else .error "connection refused"
  responseTimeMs _ := .ofUnits 0

theorem answersAt_works (e i : ℕ) : (answersAt e i).Works e := fun _ => ⟨(), if_pos (Or.inl rfl)⟩

theorem answersAt_eq_error {k index attempt : ℕ} (he : index ≠ e) (hk : index ≠ k) :
    (answersAt e k).answer attempt index = .error "connection refused" :=
  if_neg fun h => h.elim he hk

/-- The best provider is that of an endpoint that precedes, while there is one. -/
theorem precedes_of_getBestProvider {index : ℕ} (he : health[e]? = some endpoint)
    (hhealthy : endpoint.isHealthy = true) (hpos : 0 < errorsAhead health e)
    (hprovider : getBestProvider health = .ok index) : Precedes health index e := by
  obtain ⟨index', hprovider', hindex, hnone⟩ := getBestProvider_eq_or_precedes he hhealthy
  rw [hprovider] at hprovider'
  cases hprovider'
  obtain ⟨i, hi⟩ := errorsAhead_pos_iff.mp hpos
  refine hindex.resolve_left ?_
  rintro rfl
  exact hnone i hi

/-- Too many errors ahead, or a delay that overflows before the last of them. -/
theorem ne_ok_of_errorsAhead (he : health[e]? = some endpoint) (hhealthy : endpoint.isHealthy = true)
    (hahead : config.retryAttempts.toNat ≤ errorsAhead health e ∨
      2 ^ 64 ≤ config.retryDelayMs.toNat * errorsAhead health e) (result : Unit) :
    (retryLoop config (answersAt e e) (List.range' 0 config.retryAttempts.toNat) health).1 ≠ .ok result := by
  generalize htotal : errorsAhead health e = total at hahead
  -- the attempts made and the errors still ahead add up to the errors that were ahead
  refine retryLoop_ne_ok (fun attempt health => health[e]? = some endpoint ∧
    attempt + errorsAhead health e = total ∧ (attempt < config.retryAttempts.toNat → attempt < total))
    ?_ ?_ (Nat.zero_add _) ⟨he, by omega, fun hpos => ?_⟩ result
  · rintro attempt health index _ health' hlt ⟨he, hsum, hmore⟩ hprovider hanswer
    have hprecedes := precedes_of_getBestProvider he hhealthy (by have := hmore hlt; omega) hprovider
    have hne := ne_of_precedes hprecedes
    rw [answersAt_eq_error hne hne] at hanswer
    cases hanswer
  · rintro attempt health index _ health' c hlt ⟨he, hsum, hmore⟩ hprovider - hrecord hmul
    have hprecedes := precedes_of_getBestProvider he hhealthy (by have := hmore (by omega); omega) hprovider
    have hone := errorsAhead_of_recordError hprecedes hrecord
    refine ⟨?_, by omega, fun _ => ?_⟩
    · rw [getElem?_of_recordError_of_ne hrecord (ne_of_precedes hprecedes).symm]
      exact he
    · rcases hahead with hretry | hdelay
      · omega
      · by_contra hlast
        have hmul := Uint.mul_eq_ok_iff.mp hmul
        have hretry := config.retryAttempts.isLt
        rw [BitVec.toNat_ofNat, Nat.mod_eq_of_lt (by omega), show attempt + 1 = total by omega] at hmul
        exact absurd c.isLt (by rw [hmul]; exact not_lt.mpr hdelay)
  · rcases hahead with hretry | hdelay
    · omega
    · exact Nat.pos_of_ne_zero fun hzero => by rw [hzero, Nat.mul_zero] at hdelay; contradiction

/-- A count that overflows, of the working endpoint or of one that precedes it. -/
theorem ne_ok_of_counter {k : ℕ} {blocked : EndpointHealth} (he : health[e]? = some endpoint)
    (hi : health[i]? = some blocked) (hhealthy : blocked.isHealthy = true) (hfirst : i = e ∨ Precedes health i e)
    (hblocked : k = i ∧ 2 ^ 32 ≤ blocked.successCount.toNat + 1 ∨
      k = e ∧ i ≠ e ∧ 2 ^ 32 ≤ blocked.errorCount.toNat + 1) (result : Unit) :
    (retryLoop config (answersAt e k) (List.range' 0 config.retryAttempts.toNat) health).1 ≠ .ok result := by
  -- before the blocked endpoint is asked, the calls are to endpoints that precede it
  have hbest : ∀ (health : List EndpointHealth) index, health[i]? = some blocked → (i = e ∨ Precedes health i e) →
      getBestProvider health = .ok index →
        index = i ∨ Precedes health index i ∧ index ≠ i ∧ index ≠ e := by
    intro health index hi hfirst hprovider
    obtain ⟨index', hprovider', hindex, -⟩ := getBestProvider_eq_or_precedes hi hhealthy
    rw [hprovider] at hprovider'
    cases hprovider'
    refine hindex.imp_right fun hprecedes => ⟨hprecedes, ne_of_precedes hprecedes, ?_⟩
    rcases hfirst with rfl | hfirst
    · exact ne_of_precedes hprecedes
    · exact ne_of_precedes (hprecedes.trans hfirst)
  refine retryLoop_ne_ok (fun _ health => health[i]? = some blocked ∧ (i = e ∨ Precedes health i e))
    ?_ ?_ (Nat.zero_add _) ⟨hi, hfirst⟩ result
  · rintro attempt health index _ health' - ⟨hi, hfirst⟩ hprovider hanswer hrecord
    rcases hbest health index hi hfirst hprovider with rfl | ⟨-, hindex, hworking⟩
    · rcases hblocked with ⟨-, hcount⟩ | ⟨rfl, hne, -⟩
      · exact absurd ((exists_recordSuccess_iff hi).mp ⟨health', hrecord⟩) (not_lt.mpr hcount)
      · rw [answersAt_eq_error hne hne] at hanswer
        cases hanswer
    · have hk : index ≠ k := by
        rcases hblocked with ⟨rfl, -⟩ | ⟨rfl, -⟩
        · exact hindex
        · exact hworking
      rw [answersAt_eq_error hworking hk] at hanswer
      cases hanswer
  · rintro attempt health index message health' c - ⟨hi, hfirst⟩ hprovider hanswer hrecord -
    rcases hbest health index hi hfirst hprovider with rfl | ⟨-, hindex, hworking⟩
    · rcases hblocked with ⟨rfl, -⟩ | ⟨-, -, hcount⟩
      · cases hanswer.symm.trans (if_pos (Or.inr rfl))
      · exact absurd ((exists_recordError_iff hi).mp ⟨health', hrecord⟩) (not_lt.mpr hcount)
    · refine ⟨?_, hfirst.imp_right fun hprecedes => ?_⟩
      · rw [getElem?_of_recordError_of_ne hrecord hindex.symm]
        exact hi
      · exact (precedes_of_recordError_iff hrecord hindex.symm hworking.symm).mpr hprecedes

/-! ### Failover -/

variable {client : OptimizedRpcClient}

/-- A call answers whenever endpoint `e` answers it, whatever the other endpoints do. -/
def ReachesWorking (client : OptimizedRpcClient) (e : ℕ) : Prop :=
  ∀ (T : Type) (operation : Operation T), operation.Works e →
    ∃ result client', client.callWithRetry operation = some (.ok result, client')

/-- What a call needs to get past the endpoints that precede endpoint `e`. -/
structure GetsPast (client : OptimizedRpcClient) (e : ℕ) : Prop where
  permit : 0 < client.availablePermits
  attempts : errorsAhead client.endpointHealth e < client.config.retryAttempts.toNat
  delays : client.config.retryDelayMs.toNat * errorsAhead client.endpointHealth e < 2 ^ 64
  counters : CountersLeft client.endpointHealth e

theorem callWithRetry_eq_ok_iff {result : T} : (∃ client', client.callWithRetry operation = some (.ok result, client')) ↔
    0 < client.availablePermits ∧ (retryLoop client.config operation
      (List.range' 0 client.config.retryAttempts.toNat) client.endpointHealth).1 = .ok result := by
  unfold callWithRetry
  split
  · rename_i hzero
    simp [hzero]
  · rename_i hpos
    rcases retryLoop client.config operation (List.range' 0 client.config.retryAttempts.toNat) client.endpointHealth
      with ⟨r, health⟩
    simp [Nat.pos_of_ne_zero hpos]

/-- **Failover** reaches a working endpoint, whatever the other endpoints do, just when the call
has a permit and may fail more often than the endpoints that precede it can before they are all
marked unhealthy, and neither the delays nor the counters overflow. -/
theorem reachesWorking_iff (he : client.endpointHealth[e]? = some endpoint) (hhealthy : endpoint.isHealthy = true) :
    client.ReachesWorking e ↔ client.GetsPast e := by
  constructor
  · intro hreaches
    have hloop : ∀ k, 0 < client.availablePermits ∧ (retryLoop client.config (answersAt e k)
        (List.range' 0 client.config.retryAttempts.toNat) client.endpointHealth).1 = .ok () := by
      intro k
      obtain ⟨result, hcall⟩ := hreaches Unit (answersAt e k) (answersAt_works e k)
      exact callWithRetry_eq_ok_iff.mp hcall
    refine ⟨(hloop e).1, ?_, ?_, ?_, ?_⟩
    · by_contra hfew
      exact ne_ok_of_errorsAhead he hhealthy (Or.inl (not_lt.mp hfew)) () (hloop e).2
    · by_contra hlong
      exact ne_ok_of_errorsAhead he hhealthy (Or.inr (not_lt.mp hlong)) () (hloop e).2
    · intro i blocked hprecedes hi
      obtain ⟨blocked', -, hi', -, hblocked, -⟩ := id hprecedes
      rw [hi] at hi'
      cases hi'
      by_contra hcount
      exact ne_ok_of_counter he hi hblocked (Or.inr hprecedes)
        (Or.inr ⟨rfl, ne_of_precedes hprecedes, not_lt.mp hcount⟩) () (hloop e).2
    · intro i blocked hfirst hi
      have hblocked : blocked.isHealthy = true := by
        rcases hfirst with rfl | ⟨blocked', _, hi', -, hblocked, -⟩
        · rw [he] at hi
          cases hi
          exact hhealthy
        · rw [hi] at hi'
          cases hi'
          exact hblocked
      by_contra hcount
      exact ne_ok_of_counter he hi hblocked hfirst (Or.inl ⟨rfl, not_lt.mp hcount⟩) () (hloop i).2
  · intro hpast T operation hworks
    obtain ⟨result, health', hloop⟩ := retryLoop_ok hworks (Nat.zero_add _) he hhealthy hpast.attempts
      (by rw [Nat.zero_add]; exact hpast.delays) hpast.counters
    exact ⟨result, callWithRetry_eq_ok_iff.mpr ⟨hpast.permit, congrArg Prod.fst hloop⟩⟩

/-- A client of two endpoints, with the default configuration except for the attempts. -/
def twoEndpoints (retryAttempts : BitVec 32) : OptimizedRpcClient :=
  new ⟨["http://localhost:8545", "http://localhost:8546"], 100, retryAttempts, 100⟩

/-- With four attempts, the second endpoint is reached. -/
theorem second_endpoint_reached : (twoEndpoints 4).GetsPast 1 ∧ (twoEndpoints 4).ReachesWorking 1 := by
  have hpast : (twoEndpoints 4).GetsPast 1 := by
    have hzero : ∀ (i : ℕ) (endpoint : EndpointHealth), (twoEndpoints 4).endpointHealth[i]? = some endpoint →
        endpoint.errorCount = 0 ∧ endpoint.successCount = 0 := by
      rintro (_ | _ | i) endpoint hi
      · cases hi
        exact ⟨rfl, rfl⟩
      · cases hi
        exact ⟨rfl, rfl⟩
      · cases hi
    refine ⟨by decide, by decide, by decide, fun i endpoint _ hi => ?_, fun i endpoint _ hi => ?_⟩
    · rw [(hzero i endpoint hi).1]
      decide
    · rw [(hzero i endpoint hi).2]
      decide
  exact ⟨hpast, (reachesWorking_iff rfl rfl).mpr hpast⟩

/-- With the three attempts of the default configuration it is not: the first endpoint takes
them all. -/
theorem second_endpoint_not_reached :
    (twoEndpoints 3).endpointHealth.length ≤ (twoEndpoints 3).config.retryAttempts.toNat ∧
      (∃ endpoint, (twoEndpoints 3).endpointHealth[1]? = some endpoint ∧ endpoint.isHealthy = true) ∧
        ¬ (twoEndpoints 3).ReachesWorking 1 := by
  refine ⟨by decide, ⟨_, rfl, rfl⟩, fun hreaches => ?_⟩
  obtain ⟨result, client', hcall⟩ := hreaches Unit (answersAt 1 1) (answersAt_works 1 1)
  cases hcall

end Botmev.Core.OptimizedRpcClient
