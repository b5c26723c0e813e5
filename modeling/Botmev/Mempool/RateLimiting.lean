import Botmev.Library.FixedPeriods
import Botmev.Mempool.FilterRuns

/-!
# The rate limit of a rule

A rule that limits the rate has a `RateLimiter` (`mev-mempool/src/filters.rs`) under its name. The
limiter is asked about every transaction that matches the rule; when it is asked a second or more
after it was refilled, it is refilled with the whole number for a second, and its next second starts
there.

So it lets through the first so many of each of its own periods. A burst before a refill and
another one after it may fall into one second.

## What is proved

* `Served.admitted_eq`: what the limiter lets through.
* `limiter_loadRules`: the limiter that a rule has when the rules are loaded.
* `applyAction_rateLimit_iff`: a transaction goes on past the rule just when the limiter lets it.
* `served_run`: over any calls, the limiter of a rule does what it does by itself.
* `rate_limit_iff`: no second has more than the limit just when no burst straddles a refill.
* `rate_limit_twice`: none ever has more than twice as many.
-/

namespace Botmev.Mempool

open Botmev.Rust Botmev.Library

/-- A second, in nanoseconds. -/
def oneSecond : ℕ := 10 ^ 9

/-! ### The limiter -/

namespace RateLimiter

/-- What a limiter answers when it is asked at some times, and what it is then. -/
inductive Served : RateLimiter → List (ℕ × Bool) → RateLimiter → Prop where
  /-- It is not asked. -/
  | nil {limiter : RateLimiter} : Served limiter [] limiter
  /-- It is asked once, and at the other times after that. -/
  | cons {limiter limiter' : RateLimiter} {now : ℕ} {asks : List (ℕ × Bool)}
    (h : Served (limiter.allow now).2 asks limiter') :
      Served limiter ((now, (limiter.allow now).1) :: asks) limiter'

theorem Served.append {limiter limiter' limiter'' : RateLimiter} {asks asks' : List (ℕ × Bool)}
    (h : Served limiter asks limiter') (h' : Served limiter' asks' limiter'') :
    Served limiter (asks ++ asks') limiter'' := by
  induction h with
  | nil => exact h'
  | cons h ih => exact .cons (ih h')

end RateLimiter

/-- When a limiter was asked. -/
def arrivals (asks : List (ℕ × Bool)) : List ℕ := asks.map Prod.fst

/-- When it was asked and said yes. -/
def admitted (asks : List (ℕ × Bool)) : List ℕ := (asks.filter Prod.snd).map Prod.fst

namespace RateLimiter

variable {limiter limiter' : RateLimiter} {now : ℕ} {asks : List (ℕ × Bool)}

/-- What `allow` does once the limiter is as it was refilled. -/
theorem allow_cases (now : ℕ) (limiter : RateLimiter) :
    let refilled := limiter.refillTokens now
    (refilled.tokens.toNat = 0 ∧ limiter.allow now = (false, refilled)) ∨
      ∃ tokens, refilled.tokens.toNat = tokens.toNat + 1 ∧
        limiter.allow now = (true, { refilled with tokens := tokens }) := by
  by_cases h : 0 < (limiter.refillTokens now).tokens
  · refine .inr ⟨(limiter.refillTokens now).tokens - 1, ?_, if_pos h⟩
    rw [BitVec.lt_def] at h
    bv_omega
  · refine .inl ⟨?_, if_neg h⟩
    rw [BitVec.lt_def] at h
    exact Nat.eq_zero_of_not_pos h

@[simp] theorem arrivals_cons (now : ℕ) (allowed : Bool) (asks : List (ℕ × Bool)) :
    arrivals ((now, allowed) :: asks) = now :: arrivals asks := rfl

theorem admitted_cons (now : ℕ) (allowed : Bool) (asks : List (ℕ × Bool)) :
    admitted ((now, allowed) :: asks) = if allowed then now :: admitted asks else admitted asks := by
  cases allowed <;> rfl

theorem admitted_allow {first : List ℕ} {rest : List (List ℕ)}
    (hadmitted : admitted asks = first.take (limiter.allow now).2.tokens.toNat ++
      (firsts (limiter.allow now).2.maxPerSecond.toNat rest).flatten) :
    (limiter.allow now).2.lastRefill = (limiter.refillTokens now).lastRefill ∧
      admitted ((now, (limiter.allow now).1) :: asks) =
        (now :: first).take (limiter.refillTokens now).tokens.toNat ++
          (firsts (limiter.refillTokens now).maxPerSecond.toNat rest).flatten := by
  rw [admitted_cons]
  obtain ⟨hnone, hallow⟩ | ⟨tokens, hsome, hallow⟩ := allow_cases now limiter
  · rw [hallow, hnone] at hadmitted
    rw [hallow, hnone]
    exact ⟨rfl, hadmitted⟩
  · rw [hallow] at hadmitted
    rw [hallow, hsome]
    exact ⟨rfl, congrArg (now :: ·) hadmitted⟩

/-- **What the limiter lets through**: of the period it is in, the first as many as it has left, and
the first of every other. -/
theorem Served.admitted_eq (h : Served limiter asks limiter') :
    ∃ first rest, periods oneSecond limiter.lastRefill (arrivals asks) = first :: rest ∧
      admitted asks = first.take limiter.tokens.toNat ++ (firsts limiter.maxPerSecond.toNat rest).flatten := by
  induction h with
  | nil => exact ⟨[], [], rfl, by rw [List.take_nil]; rfl⟩
  | @cons limiter limiter' now asks h ih =>
    obtain ⟨first, rest, hperiods, hadmitted⟩ := ih
    obtain ⟨hlast, hadmitted⟩ := admitted_allow hadmitted
    rw [hlast] at hperiods
    rw [hadmitted, arrivals_cons, periods]
    by_cases hrefill : oneSecond ≤ now - limiter.lastRefill
    · -- the period ends, with nothing of it left, and the next one starts with this ask
      have hrefilled : limiter.refillTokens now =
          { limiter with tokens := limiter.maxPerSecond, lastRefill := now } := if_pos hrefill
      rw [hrefilled] at hperiods ⊢
      have hnext : limiter.lastRefill + oneSecond ≤ now := by
        rw [oneSecond] at hrefill ⊢
        omega
      rw [if_pos hnext, hperiods]
      exact ⟨[], (now :: first) :: rest, rfl, by rw [List.take_nil]; rfl⟩
    · have hrefilled : limiter.refillTokens now = limiter := if_neg hrefill
      rw [hrefilled] at hperiods ⊢
      have hsame : ¬ limiter.lastRefill + oneSecond ≤ now := by omega
      rw [if_neg hsame, hperiods]
      exact ⟨now :: first, rest, rfl, rfl⟩

/-- A new limiter lets through the first of each of its periods. -/
theorem Served.admitted_new {n : BitVec 32} {created : ℕ} (h : Served (.new n created) asks limiter') :
    admitted asks = (firsts n.toNat (periods oneSecond created (arrivals asks))).flatten := by
  obtain ⟨first, rest, hperiods, hadmitted⟩ := h.admitted_eq
  rw [hadmitted, show periods oneSecond created (arrivals asks) = first :: rest from hperiods]
  rfl

end RateLimiter

/-! ### The limiter of a rule -/

namespace FilterEngine

open RateLimiter

/-- What the limiter of the name is asked when the rule does its action, with its answer. -/
def asksOf (ruleName : String) (now : ℕ) (rule : FilterRule) (engine : FilterEngine) : List (ℕ × Bool) :=
  match rule.action, engine.rateLimiters.lookup rule.name with
  | .rateLimit _, some limiter => if rule.name = ruleName then [(now, (limiter.allow now).1)] else []
  | _, _ => []

variable (toLowercase : String → String) (ruleName : String)

/-- What it is asked in the loop of `filter_transaction`. -/
def askedByRules (clock : ℕ → Reading) : ℕ → List FilterRule → FilteredTransaction → FilterEngine →
    List (ℕ × Bool)
  | _, [], _, _ => []
  | t, rule :: rules, tx, engine =>
    if rule.enabled then
      match evaluateRule toLowercase clock t rule.conditions tx.transaction with
      | .error _ => []
      | .ok false => askedByRules clock (t + rule.conditions.length) rules tx engine
      | .ok true =>
        let now := (clock (t + rule.conditions.length)).instant
        engine.asksOf ruleName now rule ++
          match engine.applyAction now rule (tx.addMatchedRule rule.name) with
          | (.ok (some tx), engine) => askedByRules clock (t + rule.conditions.length + 1) rules tx engine
          | _ => []
    else askedByRules clock t rules tx engine

/-- What it is asked in a call. -/
def askedByCall (call : Call) (engine : FilterEngine) : List (ℕ × Bool) :=
  match call with
  | .filterTransaction clock transaction =>
    match engine.stats.countProcessed with
    | .error _ => []
    | .ok stats => askedByRules toLowercase ruleName clock 0 engine.rules (.new transaction) { engine with stats }
  | _ => []

/-- What it is asked in one call after the other. -/
def askedByRun : List Call → FilterEngine → List (ℕ × Bool)
  | [], _ => []
  | call :: calls, engine =>
    askedByCall toLowercase ruleName call engine ++ askedByRun calls (engine.perform toLowercase call)

variable {toLowercase ruleName} {limiter : RateLimiter} {engine : FilterEngine}

@[simp] theorem rateLimiters_finish (fate : Fate) (outcome : Option FilteredTransaction)
    (engine : FilterEngine) :
    (engine.finish fate outcome).2.rateLimiters = engine.rateLimiters := by
  unfold finish
  split <;> rfl

/-- **A transaction goes on** past a rate limit just when the limiter lets it. -/
theorem applyAction_rateLimit_iff {now : ℕ} {rule : FilterRule} {n : BitVec 32} (tx : FilteredTransaction)
    (haction : rule.action = .rateLimit n) (hlimiter : engine.rateLimiters.lookup rule.name = some limiter) :
    (∃ tx', (engine.applyAction now rule tx).1 = .ok (some tx')) ↔ (limiter.allow now).1 = true := by
  simp only [applyAction, haction, hlimiter]
  rcases limiter.allow now with ⟨_ | _, limiter'⟩
  · refine iff_of_false ?_ Bool.false_ne_true
    rintro ⟨tx', h⟩
    simp only [finish, Bool.false_eq_true, if_false] at h
    split at h <;> cases h
  · exact iff_of_true ⟨tx, rfl⟩ rfl

/-- What the action of a rule does to the limiter of the name. -/
theorem served_applyAction (now : ℕ) (rule : FilterRule) (tx : FilteredTransaction)
    (hlimiter : engine.rateLimiters.lookup ruleName = some limiter) :
    ∃ limiter', Served limiter (engine.asksOf ruleName now rule) limiter' ∧
      (engine.applyAction now rule tx).2.rateLimiters.lookup ruleName = some limiter' := by
  unfold asksOf applyAction
  cases rule.action with
  | rateLimit n =>
    cases hown : engine.rateLimiters.lookup rule.name with
    | none => exact ⟨limiter, .nil, hlimiter⟩
    | some own =>
      have hkeeps : ∀ (limiters : Table String RateLimiter) (allowed : Bool) (tx : FilteredTransaction),
          (if allowed then (.ok (some tx), { engine with rateLimiters := limiters })
            else finish .rateLimited none { engine with rateLimiters := limiters } :
            Result (Option FilteredTransaction) × FilterEngine).2.rateLimiters = limiters := by
        rintro limiters (_ | _) tx
        · exact rateLimiters_finish ..
        · rfl
      dsimp only
      rw [hkeeps]
      by_cases hname : rule.name = ruleName
      · rw [hname, hlimiter] at hown
        cases hown
        rw [if_pos hname, hname]
        exact ⟨_, .cons .nil, AList.lookup_insert _⟩
      · rw [if_neg hname]
        exact ⟨limiter, .nil, (AList.lookup_insert_ne (Ne.symm hname)).trans hlimiter⟩
  | reject => exact ⟨limiter, .nil, by rw [rateLimiters_finish]; exact hlimiter⟩
  | _ => exact ⟨limiter, .nil, hlimiter⟩

/-- **What the loop does** to the limiter of the name. -/
theorem served_applyRules (clock : ℕ → Reading) (t : ℕ) (rules : List FilterRule) (tx : FilteredTransaction)
    (hlimiter : engine.rateLimiters.lookup ruleName = some limiter) :
    ∃ limiter', Served limiter (askedByRules toLowercase ruleName clock t rules tx engine) limiter' ∧
      (applyRules toLowercase clock t rules tx engine).2.rateLimiters.lookup ruleName = some limiter' := by
  induction rules generalizing t tx engine limiter with
  | nil => exact ⟨limiter, .nil, hlimiter⟩
  | cons rule rules ih =>
    rw [askedByRules, applyRules]
    split
    · rcases evaluateRule toLowercase clock t rule.conditions tx.transaction with e | _ | _
      · exact ⟨limiter, .nil, hlimiter⟩
      · exact ih _ _ hlimiter
      · obtain ⟨limiter', hserved, hlimiter'⟩ := served_applyAction
          (clock (t + rule.conditions.length)).instant rule (tx.addMatchedRule rule.name) hlimiter
        dsimp only
        revert hlimiter'
        rcases engine.applyAction (clock (t + rule.conditions.length)).instant rule (tx.addMatchedRule rule.name)
          with ⟨e | _ | tx', engine'⟩
        · exact fun hlimiter' => ⟨limiter', hserved.append .nil, hlimiter'⟩
        · exact fun hlimiter' => ⟨limiter', hserved.append .nil, hlimiter'⟩
        · intro hlimiter'
          obtain ⟨limiter'', hserved', hlimiter''⟩ := ih (t + rule.conditions.length + 1) tx' hlimiter'
          exact ⟨limiter'', hserved.append hserved', hlimiter''⟩
    · exact ih _ _ hlimiter

theorem served_perform (call : Call) (hload : ∀ clock rules, call ≠ .loadRules clock rules)
    (hlimiter : engine.rateLimiters.lookup ruleName = some limiter) :
    ∃ limiter', Served limiter (askedByCall toLowercase ruleName call engine) limiter' ∧
      (engine.perform toLowercase call).rateLimiters.lookup ruleName = some limiter' := by
  cases call with
  | loadRules clock rules => exact absurd rfl (hload clock rules)
  | setRuleEnabled ruleName' enabled =>
    refine ⟨limiter, .nil, ?_⟩
    rw [perform, setRuleEnabled]
    cases enableRule ruleName' enabled engine.rules <;> exact hlimiter
  | resetStats => exact ⟨limiter, .nil, hlimiter⟩
  | filterTransaction clock transaction =>
    rw [askedByCall, perform, filterTransaction]
    rcases engine.stats.countProcessed with e | stats
    · exact ⟨limiter, .nil, hlimiter⟩
    · obtain ⟨limiter', hserved, hlimiter'⟩ :=
        @served_applyRules toLowercase ruleName limiter { engine with stats }
        clock 0 engine.rules (.new transaction) hlimiter
      refine ⟨limiter', hserved, ?_⟩
      revert hlimiter'
      dsimp only
      rcases applyRules toLowercase clock 0 engine.rules (.new transaction) { engine with stats }
        with ⟨e | _ | tx', engine'⟩
      · exact id
      · exact id
      · intro hlimiter'
        dsimp only
        rw [rateLimiters_finish]
        exact hlimiter'

/-- **Over any calls** that load no rules, the limiter of the name does what it does by itself. -/
theorem served_run (calls : List Call) (hload : ∀ clock rules, .loadRules clock rules ∉ calls)
    (hlimiter : engine.rateLimiters.lookup ruleName = some limiter) :
    ∃ limiter', Served limiter (askedByRun toLowercase ruleName calls engine) limiter' ∧
      (engine.run toLowercase calls).rateLimiters.lookup ruleName = some limiter' := by
  induction calls generalizing engine limiter with
  | nil => exact ⟨limiter, .nil, hlimiter⟩
  | cons call calls ih =>
    obtain ⟨limiter', hserved, hlimiter'⟩ := @served_perform toLowercase ruleName limiter engine call
      (fun clock rules h => hload clock rules (h ▸ List.mem_cons_self)) hlimiter
    obtain ⟨limiter'', hserved', hlimiter''⟩ :=
      ih (fun clock rules h => hload clock rules (List.mem_cons_of_mem _ h)) hlimiter'
    exact ⟨limiter'', hserved.append hserved', hlimiter''⟩

/-! ### Where it comes from -/

theorem lookup_initRateLimiters (clock : ℕ → Reading) (t : ℕ) (rules : List FilterRule)
    (limiters : Table String RateLimiter) (hnames : ruleName ∉ rules.map (·.name)) :
    (initRateLimiters clock t rules limiters).lookup ruleName = limiters.lookup ruleName := by
  induction rules generalizing t limiters with
  | nil => rfl
  | cons rule rules ih =>
    rw [List.map_cons, List.mem_cons, not_or] at hnames
    rw [initRateLimiters]
    split
    · rw [ih _ _ hnames.2, AList.lookup_insert_ne hnames.1]
    · exact ih _ _ hnames.2

theorem limiter_initRateLimiters (clock : ℕ → Reading) (t : ℕ) (rules : List FilterRule)
    (limiters : Table String RateLimiter) (hnames : (rules.map (·.name)).Nodup) {rule : FilterRule}
    (hrule : rule ∈ rules) {n : BitVec 32} (haction : rule.action = .rateLimit n) :
    ∃ k, (initRateLimiters clock t rules limiters).lookup rule.name = some (.new n (clock k).instant) := by
  induction rules generalizing t limiters with
  | nil => cases hrule
  | cons first rules ih =>
    rw [List.map_cons, List.nodup_cons] at hnames
    rcases List.mem_cons.mp hrule with rfl | hrule
    · refine ⟨t, ?_⟩
      rw [initRateLimiters, haction]
      dsimp only
      rw [lookup_initRateLimiters clock (t + 1) rules _ hnames.1, AList.lookup_insert]
    · rw [initRateLimiters]
      split <;> exact ih _ _ hnames.2 hrule

/-- **The limiter that a rule has** when the rules are loaded: a new one with its limit. -/
theorem limiter_loadRules (clock : ℕ → Reading) (rules : List FilterRule) (engine : FilterEngine)
    (hnames : (rules.map (·.name)).Nodup) {rule : FilterRule} (hrule : rule ∈ rules) {n : BitVec 32}
    (haction : rule.action = .rateLimit n) :
    ∃ k, (engine.loadRules clock rules).rateLimiters.lookup rule.name = some (.new n (clock k).instant) := by
  have hperm : (sortRules rules).Perm rules := List.perm_insertionSort _ rules
  exact limiter_initRateLimiters clock 0 (sortRules rules) _ ((hperm.map _).nodup_iff.mpr hnames)
    (hperm.mem_iff.mpr hrule) haction

/-! ### In every second -/

/-- **Never more than twice as many** as the limit are let through within one second. -/
theorem rate_limit_twice (toLowercase : String → String) {ruleName : String} {n : BitVec 32} {created : ℕ}
    (hnew : engine.rateLimiters.lookup ruleName = some (.new n created)) (calls : List Call)
    (hload : ∀ clock rules, .loadRules clock rules ∉ calls)
    (hclock : (created :: arrivals (askedByRun toLowercase ruleName calls engine)).Pairwise (· ≤ ·)) :
    AtMost (2 * n.toNat) oneSecond (admitted (askedByRun toLowercase ruleName calls engine)) := by
  obtain ⟨limiter', hserved, -⟩ := @served_run toLowercase ruleName _ engine calls hload hnew
  rw [hserved.admitted_new]
  exact atMost_firsts_twice (by decide) n.toNat hclock

/-- **The rate limit**: in no second are more transactions let through than the limit of the rule, just
when no burst straddles a refill: among the first so many of one period of the limiter, and of the
next, each comes a second or more before the one as many places on as the limit. -/
theorem rate_limit_iff (toLowercase : String → String) (engine : FilterEngine) (ruleName : String)
    (n : BitVec 32)
    (created : ℕ) (hnew : engine.rateLimiters.lookup ruleName = some (.new n created)) (calls : List Call)
    (hload : ∀ clock rules, .loadRules clock rules ∉ calls)
    (hclock : (created :: arrivals (askedByRun toLowercase ruleName calls engine)).Pairwise (· ≤ ·)) :
    AtMost n.toNat oneSecond (admitted (askedByRun toLowercase ruleName calls engine)) ↔
      (firsts n.toNat (periods oneSecond created
        (arrivals (askedByRun toLowercase ruleName calls engine)))).IsChain (NoStraddle n.toNat oneSecond) := by
  obtain ⟨limiter', hserved, -⟩ := @served_run toLowercase ruleName _ engine calls hload hnew
  rw [hserved.admitted_new]
  exact atMost_firsts_iff (by decide) n.toNat hclock

/-- An engine whose one rule lets through one transaction in a second. -/
def onePerSecond : FilterEngine :=
  new.loadRules (fun _ => ⟨0, 0⟩) [⟨"limit", true, 0, [], .rateLimit 1⟩]

/-- A transaction is filtered at each of the times. -/
def arriveAt (times : List ℕ) : List Call :=
  times.map fun now => .filterTransaction (fun _ => ⟨0, now⟩) emptyCalldata

/-- Two transactions, two seconds apart. -/
theorem one_per_second_spaced :
    AtMost 1 oneSecond (admitted (askedByRun id "limit" (arriveAt [0, 2 * 10 ^ 9]) onePerSecond)) ↔
      (firsts 1 (periods oneSecond 0
        (arrivals (askedByRun id "limit" (arriveAt [0, 2 * 10 ^ 9]) onePerSecond)))).IsChain
        (NoStraddle 1 oneSecond) :=
  rate_limit_iff id onePerSecond "limit" 1 0 (by decide) (arriveAt [0, 2 * 10 ^ 9])
    (by simp [arriveAt]) (by decide)

/-- **Two in a tenth of a second**, of a rule that allows one in a second: the first comes before the
refill, and the second makes it. -/
theorem burst_straddles_refill :
    admitted (askedByRun id "limit" (arriveAt [9 * 10 ^ 8, 10 ^ 9]) onePerSecond) = [9 * 10 ^ 8, 10 ^ 9] ∧
      (onePerSecond.run id (arriveAt [9 * 10 ^ 8, 10 ^ 9])).stats.accepted = 2 ∧
      ¬ AtMost 1 oneSecond (admitted (askedByRun id "limit" (arriveAt [9 * 10 ^ 8, 10 ^ 9]) onePerSecond)) := by
  have hboth : admitted (askedByRun id "limit" (arriveAt [9 * 10 ^ 8, 10 ^ 9]) onePerSecond) =
      [9 * 10 ^ 8, 10 ^ 9] := by decide
  refine ⟨hboth, by decide, fun h => ?_⟩
  rw [hboth] at h
  exact absurd (h (9 * 10 ^ 8)) (by decide)

end FilterEngine

end Botmev.Mempool
