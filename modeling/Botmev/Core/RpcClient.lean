import Botmev.Core.EndpointHealth
import Botmev.Library.FirstMinimum
import Mathlib.Data.List.Enum
import Mathlib.Data.Prod.Lex

/-!
# The RPC client

A call asks the best provider: of the healthy endpoints the first one with the least response
time, or the first endpoint if none is healthy. It records how that went on the endpoint and, after
an error, waits and tries again, as often as it may. Each endpoint has a provider of its own, and is
meant by its index.

## What is proved

* `getBestProvider_eq_or_precedes`: while an endpoint is healthy, the best provider is its own or
  that of a healthy endpoint that precedes it, and none precedes the best provider.
* `recordOutcome_eq_ok_iff`: recording changes the endpoint of the provider alone.
-/

namespace Botmev.Core

open Botmev.Rust Botmev.Library

/-- The part of the configuration that a call reads. -/
structure RpcClientConfig where
  endpoints : List String
  maxConcurrentRequests : U64
  retryAttempts : BitVec 32
  retryDelayMs : U64

/-- The client. -/
structure OptimizedRpcClient where
  config : RpcClientConfig
  /-- One for each provider. -/
  endpointHealth : List EndpointHealth
  /-- The permits of the request semaphore that are free. -/
  availablePermits : ℕ

namespace OptimizedRpcClient

/-- `OptimizedRpcClient::new`, where every endpoint is a URL. -/
def new (config : RpcClientConfig) : OptimizedRpcClient where
  config := config
  endpointHealth := config.endpoints.map EndpointHealth.new
  availablePermits := config.maxConcurrentRequests.toNat

/-- How the best provider is chosen. -/
def compareResponseTimes (a b : EndpointHealth × ℕ) : Ordering :=
  (Binary64.partialCmp a.1.responseTimeMs.val b.1.responseTimeMs.val).getD .eq

/-- `get_best_provider`. -/
def getBestProvider (health : List EndpointHealth) : Result ℕ :=
  match minBy compareResponseTimes (health.zipIdx.filter fun entry => entry.1.isHealthy) with
  | some (_, index) => .ok index
  -- Fallback to first provider if none are healthy
  | none => if health = [] then .error (.panic "index out of bounds: the len is 0 but the index is 0") else .ok 0

/-- What `record_success` and `record_error` do to the endpoint of a provider. -/
def recordOutcome (health : List EndpointHealth) (provider : ℕ) (outcome : EndpointHealth.Outcome) :
    Result (List EndpointHealth) :=
  match health[provider]? with
  | some endpoint => do .ok (health.set provider (← endpoint.record outcome))
  | none => .ok health

/-- `record_success`. -/
def recordSuccess (health : List EndpointHealth) (provider : ℕ) (responseTimeMs : Binary64.Number) :
    Result (List EndpointHealth) :=
  recordOutcome health provider (.success responseTimeMs)

/-- `record_error`. -/
def recordError (health : List EndpointHealth) (provider : ℕ) : Result (List EndpointHealth) :=
  recordOutcome health provider .error

/-- What a provider answers at an attempt, and after how many ms. -/
structure Operation (T : Type) where
  answer : ℕ → ℕ → Except String T
  responseTimeMs : ℕ → Binary64.Number

variable {T : Type}

/-- The loop of `call_with_retry` over the attempts: its result, and the health it leaves. -/
def retryLoop (config : RpcClientConfig) (operation : Operation T) :
    List ℕ → List EndpointHealth → Result T × List EndpointHealth
  | [], health => (.error (.err "All retry attempts exhausted"), health)
  | attempt :: rest, health =>
    match getBestProvider health with
    | .error e => (.error e, health)
    | .ok provider =>
      match operation.answer attempt provider with
      | .ok result =>
        match recordSuccess health provider (operation.responseTimeMs attempt) with
        | .error e => (.error e, health)
        | .ok health' => (.ok result, health')
      | .error message =>
        match recordError health provider with
        | .error e => (.error e, health)
        | .ok health' =>
          if attempt < config.retryAttempts.toNat - 1 then
            -- the time it sleeps for is computed before it tries again
            match Uint.mul config.retryDelayMs (BitVec.ofNat 64 (attempt + 1)) with
            | .error e => (.error e, health')
            | .ok _ => retryLoop config operation rest health'
          else (.error (.err message), health')

/-- `call_with_retry`, with no other call in between: it waits for ever if no permit is free. -/
def callWithRetry (client : OptimizedRpcClient) (operation : Operation T) : Option (Result T × OptimizedRpcClient) :=
  if client.availablePermits = 0 then none
  else
    let (result, health) :=
      retryLoop client.config operation (List.range' 0 client.config.retryAttempts.toNat) client.endpointHealth
    some (result, { client with endpointHealth := health })

/-! ### The best provider -/

/-- What the endpoints are chosen by: their response time, then their place. -/
def rank (health : EndpointHealth) (index : ℕ) : Lex (Binary64.Number × ℕ) := toLex (health.responseTimeMs, index)

/-- The healthy endpoint `i` is chosen before endpoint `e`. -/
def Precedes (health : List EndpointHealth) (i e : ℕ) : Prop :=
  ∃ preceding endpoint, health[i]? = some preceding ∧ health[e]? = some endpoint ∧
    preceding.isHealthy = true ∧ rank preceding i < rank endpoint e

variable {health : List EndpointHealth} {endpoint : EndpointHealth} {i e provider : ℕ}

theorem compareResponseTimes_eq (a b : EndpointHealth × ℕ) :
    compareResponseTimes a b = compare a.1.responseTimeMs b.1.responseTimeMs := by
  rw [compareResponseTimes, Binary64.partialCmp_number]
  rfl

theorem mem_candidates_iff : (endpoint, e) ∈ health.zipIdx.filter (fun entry => entry.1.isHealthy) ↔
    health[e]? = some endpoint ∧ endpoint.isHealthy = true := by
  rw [List.mem_filter, List.mk_mem_zipIdx_iff_getElem?]

theorem candidates_pairwise (health : List EndpointHealth) :
    (health.zipIdx.filter fun entry => entry.1.isHealthy).Pairwise fun a b => a.2 < b.2 := by
  apply List.Pairwise.filter
  rw [← List.pairwise_map (f := Prod.snd), List.zipIdx_map_snd]
  exact List.pairwise_lt_range'

/-- While one is healthy, the best provider is that of a healthy endpoint that none precedes. -/
theorem getBestProvider_spec (he : health[e]? = some endpoint) (hhealthy : endpoint.isHealthy = true) :
    ∃ best index, getBestProvider health = .ok index ∧ health[index]? = some best ∧ best.isHealthy = true ∧
      ∀ i preceding, health[i]? = some preceding → preceding.isHealthy = true → rank best index ≤ rank preceding i := by
  have hmem := mem_candidates_iff.mpr ⟨he, hhealthy⟩
  obtain ⟨before, ⟨best, index⟩, after, heq, hmin, hbefore, hafter⟩ :=
    exists_minBy compareResponseTimes_eq (List.ne_nil_of_mem hmem)
  have hbest : (best, index) ∈ health.zipIdx.filter fun entry => entry.1.isHealthy := by simp [heq]
  obtain ⟨hget, hbesthealthy⟩ := mem_candidates_iff.mp hbest
  refine ⟨best, index, by rw [getBestProvider, hmin], hget, hbesthealthy, fun i preceding hi hp => ?_⟩
  have hcandidate := mem_candidates_iff.mpr ⟨hi, hp⟩
  have hsorted := candidates_pairwise health
  rw [heq] at hcandidate hsorted
  obtain ⟨-, hsorted, -⟩ := List.pairwise_append.mp hsorted
  rcases List.mem_append.mp hcandidate with hmem | hmem
  · exact (Prod.Lex.toLex_lt_toLex.mpr (Or.inl (hbefore _ hmem))).le
  · rcases List.mem_cons.mp hmem with hsame | hmem
    · cases hsame
      exact le_rfl
    · have hindex : index < i := (List.pairwise_cons.mp hsorted).1 _ hmem
      rcases (hafter _ hmem).lt_or_eq with hlt | htie
      · exact (Prod.Lex.toLex_lt_toLex.mpr (Or.inl hlt)).le
      · exact (Prod.Lex.toLex_lt_toLex.mpr (Or.inr ⟨htie, hindex⟩)).le

/-- **The best provider** is that of a healthy endpoint, or of one that precedes it. -/
theorem getBestProvider_eq_or_precedes (he : health[e]? = some endpoint) (hhealthy : endpoint.isHealthy = true) :
    ∃ index, getBestProvider health = .ok index ∧ (index = e ∨ Precedes health index e) ∧
      ∀ i, ¬ Precedes health i index := by
  obtain ⟨best, index, hprovider, hget, hbest, hle⟩ := getBestProvider_spec he hhealthy
  refine ⟨index, hprovider, ?_, ?_⟩
  · by_cases hindex : index = e
    · exact Or.inl hindex
    · have hne : rank best index ≠ rank endpoint e := fun h => hindex (congrArg (fun r => (ofLex r).2) h)
      exact Or.inr ⟨best, endpoint, hget, he, hbest, lt_of_le_of_ne (hle e endpoint he hhealthy) hne⟩
  · rintro i ⟨preceding, best', hi, hget', hp, hlt⟩
    rw [hget] at hget'
    cases hget'
    exact absurd (hle i preceding hi hp) (not_le.mpr hlt)

/-! ### Recording -/

variable {health' : List EndpointHealth} {outcome : EndpointHealth.Outcome}

theorem recordOutcome_eq_ok_iff (hprovider : health[provider]? = some endpoint) :
    recordOutcome health provider outcome = .ok health' ↔
      ∃ endpoint', endpoint.record outcome = .ok endpoint' ∧ health' = health.set provider endpoint' := by
  simp only [recordOutcome, hprovider, bind_eq_ok_iff, Except.ok.injEq, @eq_comm _ health']

theorem exists_recordOutcome_iff (hprovider : health[provider]? = some endpoint) :
    (∃ health', recordOutcome health provider outcome = .ok health') ↔
      ∃ endpoint', endpoint.record outcome = .ok endpoint' := by
  simp only [recordOutcome_eq_ok_iff hprovider]
  exact ⟨fun ⟨_, endpoint', h, _⟩ => ⟨endpoint', h⟩, fun ⟨endpoint', h⟩ => ⟨_, endpoint', h, rfl⟩⟩

theorem getElem?_set_self_of_some {endpoint' : EndpointHealth} (hprovider : health[provider]? = some endpoint) :
    (health.set provider endpoint')[provider]? = some endpoint' := by
  obtain ⟨hlt, -⟩ := List.getElem?_eq_some_iff.mp hprovider
  exact List.getElem?_set_self hlt

end OptimizedRpcClient

end Botmev.Core
