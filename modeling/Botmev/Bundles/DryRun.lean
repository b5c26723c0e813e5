import Botmev.Bundles.Inclusion

/-!
# Waiting for inclusions

`wait_for_inclusions` of the mainnet dry run (`bundle/mainnet_dry_run.rs`): in one pass after the
other, until a minute is over, it asks the tracker for the status of each bundle that is not
included yet. A bundle that has failed or expired ends the pass with a `break`, so those after it
in the list are not looked at.

What the tracker has when a bundle is asked for, and what the clock shows then, is given for each
place of each pass. The fields of a result that the loop does not touch are left out.

## What is proved

* `waitPasses_enough`: the passes come to an end.
* `missesNone_iff`: a pass misses no included bundle just when no bundle that ends the pass comes
  before one.
* `counted_checkResults`: what is counted is what is marked.
* `every_inclusion_found_iff`: both, for all passes.
* `failed_first_starves`: behind a bundle that has failed, nothing is ever found.
-/

namespace Botmev.Bundles

open Botmev.Rust Botmev.Library

/-- "Bundle inclusion result for analysis". -/
structure InclusionResult where
  /-- The bundle's name. -/
  bundleId : String
  /-- When it was seen to be included. -/
  includedAt : Option ℕ
  /-- The block it is in. -/
  actualBlock : Option U64
  /-- Whether it was included. -/
  success : Bool
  deriving DecidableEq, Repr

/-- The result, once the bundle is seen to be included. -/
def InclusionResult.mark (result : InclusionResult) (now : ℕ) (blockNumber : U64) : InclusionResult :=
  { result with includedAt := some now, actualBlock := some blockNumber, success := true }

/-- When a bundle is asked for. -/
structure Moment where
  /-- The tracker. -/
  tracker : TrackerState
  /-- `Instant::now()`. -/
  now : ℕ

/-- What a pass leaves. -/
structure PassResult where
  /-- Whether it goes on. -/
  outcome : Result Unit
  /-- The results. -/
  results : List InclusionResult
  /-- `bundles_included`. -/
  bundlesIncluded : BitVec 32

/-- With a result that the pass is done with. -/
def PassResult.cons (result : InclusionResult) (rest : PassResult) : PassResult :=
  { rest with results := result :: rest.results }

/-- A pass over the results, with the moment of each place. -/
def checkResults : (ℕ → Moment) → List InclusionResult → BitVec 32 → PassResult
  | _, [], n => ⟨.ok (), [], n⟩
  | moments, result :: results, n =>
    if result.includedAt.isSome then (checkResults (fun i => moments (i + 1)) results n).cons result
    else
      match (moments 0).tracker.executionStatus result.bundleId with
      | .error e => ⟨.error e, result :: results, n⟩
      | .ok (.included blockNumber _) =>
        let marked := result.mark (moments 0).now blockNumber
        match Uint.add n 1 with
        | .error e => ⟨.error e, marked :: results, n⟩
        | .ok n => (checkResults (fun i => moments (i + 1)) results n).cons marked
      -- `break`, out of the loop over the results
      | .ok (.failed _) | .ok .expired => ⟨.ok (), { result with success := false } :: results, n⟩
      | .ok .pending => (checkResults (fun i => moments (i + 1)) results n).cons result

/-- A pass: how long the wait has been, and the moments of its places. -/
structure Pass where
  /-- `start.elapsed()`, in nanoseconds. -/
  elapsed : ℕ
  /-- The moments. -/
  moments : ℕ → Moment

/-- The passes there could be, each two seconds or more after the one before. -/
structure Timeline where
  /-- The passes. -/
  passes : ℕ → Pass
  /-- `sleep(Duration::from_secs(2))`. -/
  sleeps : ∀ k, (passes k).elapsed + 2 * 10 ^ 9 ≤ (passes (k + 1)).elapsed

/-- `Duration::from_secs(60)`. -/
def timeout : ℕ := 60 * 10 ^ 9

/-- The loop, with at most so many passes. -/
def waitPasses : (ℕ → Pass) → ℕ → List InclusionResult → BitVec 32 → PassResult
  | _, 0, results, n => ⟨.ok (), results, n⟩
  | passes, k + 1, results, n =>
    if (passes 0).elapsed < timeout then
      match checkResults (passes 0).moments results n with
      | ⟨.ok (), results, n⟩ => waitPasses (fun i => passes (i + 1)) k results n
      | failed => failed
    else ⟨.ok (), results, n⟩

/-- `wait_for_inclusions`: there is time for thirty passes. -/
def waitForInclusions (timeline : Timeline) (results : List InclusionResult) (n : BitVec 32) : PassResult :=
  waitPasses timeline.passes 30 results n

/-! ### The end of the wait -/

/-- With time for no more than `k` passes, more than `k` are as many. -/
theorem waitPasses_of_late {passes : ℕ → Pass}
    (hsleeps : ∀ i, (passes i).elapsed + 2 * 10 ^ 9 ≤ (passes (i + 1)).elapsed)
    (k more : ℕ) (hlate : timeout ≤ (passes 0).elapsed + k * (2 * 10 ^ 9)) (results : List InclusionResult)
    (n : BitVec 32) : waitPasses passes (k + more) results n = waitPasses passes k results n := by
  induction k generalizing passes results n with
  | zero =>
    have hover : ¬ (passes 0).elapsed < timeout := by omega
    cases more with
    | zero => rfl
    | succ more => rw [Nat.zero_add, waitPasses, waitPasses, if_neg hover]
  | succ k ih =>
    rw [Nat.succ_add, waitPasses, waitPasses]
    split
    · have hnext := hsleeps 0
      have hlate' : timeout ≤ (passes 1).elapsed + k * (2 * 10 ^ 9) := by
        simp only [Nat.zero_add] at hnext
        omega
      simp only [@ih (fun i => passes (i + 1)) (fun i => hsleeps (i + 1)) hlate']
    · rfl

/-- **The wait ends**: no more than thirty passes are made, however many there could be. -/
theorem waitPasses_enough (timeline : Timeline) (more : ℕ) (results : List InclusionResult) (n : BitVec 32) :
    waitPasses timeline.passes (30 + more) results n = waitForInclusions timeline results n := by
  refine waitPasses_of_late timeline.sleeps 30 more ?_ results n
  rw [timeout]
  omega

/-! ### A pass -/

/-- The statuses that a pass would be given, of the bundles not included yet. -/
def statuses : (ℕ → Moment) → List InclusionResult → List (Result ExecutionStatus)
  | _, [] => []
  | moments, result :: results =>
    if result.includedAt.isSome then statuses (fun i => moments (i + 1)) results
    else (moments 0).tracker.executionStatus result.bundleId :: statuses (fun i => moments (i + 1)) results

/-- A status that says that the bundle is included. -/
def isIncluded : Result ExecutionStatus → Bool
  | .ok (.included _ _) => true
  | _ => false

/-- A status that ends the pass. -/
def endsPass : Result ExecutionStatus → Bool
  | .error _ | .ok (.failed _) | .ok .expired => true
  | _ => false

/-- **No status that ends the pass** comes before one that says that a bundle is included. -/
def NoneStarved (moments : ℕ → Moment) (results : List InclusionResult) : Prop :=
  (statuses moments results).Pairwise fun status later => endsPass status = true → isIncluded later = false

/-- A result that is marked as included. -/
def InclusionResult.isMarked (result : InclusionResult) : Bool := result.includedAt.isSome && result.success

/-- **Every bundle** that was not included yet, and has a status that says that it is, is marked. -/
def MissesNone (moments : ℕ → Moment) (before after : List InclusionResult) : Prop :=
  ∀ i result, before[i]? = some result → result.includedAt = none →
    isIncluded ((moments i).tracker.executionStatus result.bundleId) = true →
      ∃ marked, after[i]? = some marked ∧ marked.isMarked = true

/-- How many are not included yet. -/
def waiting (results : List InclusionResult) : ℕ := results.countP fun result => result.includedAt.isNone

variable {moments : ℕ → Moment} {result result' : InclusionResult} {results results' : List InclusionResult}
  {n : BitVec 32}

theorem missesNone_cons : MissesNone moments (result :: results) (result' :: results') ↔
    (result.includedAt = none → isIncluded ((moments 0).tracker.executionStatus result.bundleId) = true →
      result'.isMarked = true) ∧ MissesNone (fun i => moments (i + 1)) results results' := by
  constructor
  · intro h
    refine ⟨fun hnone hincluded => ?_, fun i => h (i + 1)⟩
    obtain ⟨marked, hmarked, hm⟩ := h 0 result rfl hnone hincluded
    cases hmarked
    exact hm
  · rintro ⟨hfirst, hrest⟩ (_ | i) before hbefore hnone hincluded
    · cases hbefore
      exact ⟨result', rfl, hfirst hnone hincluded⟩
    · exact hrest i before hbefore hnone hincluded

theorem missesNone_self (moments : ℕ → Moment) (results : List InclusionResult) :
    MissesNone moments results results ↔ ∀ status ∈ statuses moments results, isIncluded status = false := by
  induction results generalizing moments with
  | nil => exact iff_of_true (fun i result h => by cases h) fun status h => by cases h
  | cons result results ih =>
    rw [missesNone_cons, ih, statuses]
    cases hat : result.includedAt with
    | none => simp [InclusionResult.isMarked, hat]
    | some now => simp

theorem waiting_cons_none (hnone : result.includedAt = none) (results : List InclusionResult) :
    waiting (result :: results) = waiting results + 1 := by
  simp [waiting, hnone]

theorem waiting_cons_some (hsome : result.includedAt ≠ none) (results : List InclusionResult) :
    waiting (result :: results) = waiting results := by
  simp [waiting, Option.isNone_iff_eq_none, hsome]

/-- What the loop does with a bundle that is included already. -/
theorem checkResults_of_included (hsome : result.includedAt ≠ none) :
    checkResults moments (result :: results) n =
      (checkResults (fun i => moments (i + 1)) results n).cons result := by
  rw [checkResults, if_pos (Option.isSome_iff_ne_none.mpr hsome)]

theorem checkResults_cases (moments : ℕ → Moment) (results : List InclusionResult) (n : BitVec 32)
    (hnone : result.includedAt = none) :
    let status := (moments 0).tracker.executionStatus result.bundleId
    let rest := checkResults (fun i => moments (i + 1)) results
    (endsPass status = true ∧ isIncluded status = false ∧ ∃ outcome success,
      checkResults moments (result :: results) n = ⟨outcome, { result with success := success } :: results, n⟩) ∨
    (endsPass status = false ∧ isIncluded status = true ∧ (n.toNat + 1 < 2 ^ 32 → ∃ marked n',
      marked.isMarked = true ∧ n'.toNat = n.toNat + 1 ∧
        checkResults moments (result :: results) n = (rest n').cons marked)) ∨
    (endsPass status = false ∧ isIncluded status = false ∧
      checkResults moments (result :: results) n = (rest n).cons result) := by
  have hnot : ¬ result.includedAt.isSome = true := by
    rw [hnone]
    exact Bool.false_ne_true
  rw [checkResults, if_neg hnot]
  rcases (moments 0).tracker.executionStatus result.bundleId with e | status
  · exact .inl ⟨rfl, rfl, _, result.success, rfl⟩
  cases status with
  | pending => exact .inr (.inr ⟨rfl, rfl, rfl⟩)
  | included blockNumber hashes =>
    refine .inr (.inl ⟨rfl, rfl, fun hroom => ?_⟩)
    obtain ⟨n', hadd⟩ := (Uint.exists_add_eq_ok_iff (b := 1)).mpr hroom
    refine ⟨result.mark (moments 0).now blockNumber, n', rfl, Uint.add_eq_ok_iff.mp hadd, ?_⟩
    simp only [hadd]
  | failed reason => exact .inl ⟨rfl, rfl, _, false, rfl⟩
  | expired => exact .inl ⟨rfl, rfl, _, false, rfl⟩

/-- **A pass misses no included bundle** just when no bundle that ends it comes before one. -/
theorem missesNone_iff (moments : ℕ → Moment) (hroom : n.toNat + waiting results < 2 ^ 32) :
    MissesNone moments results (checkResults moments results n).results ↔ NoneStarved moments results := by
  induction results generalizing moments n with
  | nil => exact iff_of_true (fun i result h => by cases h) .nil
  | cons result results ih =>
    rw [NoneStarved, statuses]
    by_cases hnone : result.includedAt = none
    · rw [waiting_cons_none hnone] at hroom
      rw [hnone, Option.isSome_none, if_neg Bool.false_ne_true, List.pairwise_cons]
      obtain ⟨hends, hincluded, outcome, success, hcheck⟩ | ⟨hends, hincluded, hroom'⟩ |
          ⟨hends, hincluded, hcheck⟩ :=
        checkResults_cases moments results n hnone
      · rw [hcheck, missesNone_cons, missesNone_self, hincluded, hends]
        simp only [Bool.false_eq_true, false_implies, implies_true, true_and, forall_const]
        refine ⟨fun h => ⟨h, ?_⟩, And.left⟩
        exact List.Pairwise.imp_of_mem (fun _ hlater _ _ => h _ hlater)
          (List.pairwise_of_forall fun _ _ => trivial)
      · obtain ⟨marked, n', hmarked, hn', hcheck⟩ := hroom' (by omega)
        rw [hcheck, PassResult.cons, missesNone_cons, ih _ (by omega), hends]
        simp [hmarked, NoneStarved]
      · rw [hcheck, PassResult.cons, missesNone_cons, ih _ (by omega), hends, hincluded]
        simp [NoneStarved]
    · rw [waiting_cons_some hnone] at hroom
      rw [checkResults_of_included hnone, PassResult.cons, missesNone_cons, ih _ hroom,
        if_pos (Option.isSome_iff_ne_none.mpr hnone)]
      exact and_iff_right fun h => absurd h hnone

/-- **What is counted is what is marked**: the bundles counted, and those not included yet, stay as
many together. -/
theorem counted_checkResults (moments : ℕ → Moment) (hroom : n.toNat + waiting results < 2 ^ 32) :
    (checkResults moments results n).bundlesIncluded.toNat + waiting (checkResults moments results n).results =
        n.toNat + waiting results ∧
      (checkResults moments results n).results.length = results.length := by
  induction results generalizing moments n with
  | nil => exact ⟨rfl, rfl⟩
  | cons result results ih =>
    by_cases hnone : result.includedAt = none
    · rw [waiting_cons_none hnone] at hroom ⊢
      obtain ⟨-, -, outcome, success, hcheck⟩ | ⟨-, -, hroom'⟩ | ⟨-, -, hcheck⟩ :=
        checkResults_cases moments results n hnone
      · rw [hcheck]
        exact ⟨congrArg (n.toNat + ·) (waiting_cons_none hnone results), rfl⟩
      · obtain ⟨marked, n', hmarked, hn', hcheck⟩ := hroom' (by omega)
        obtain ⟨hcount, hlength⟩ := ih (n := n') (fun i => moments (i + 1)) (by omega)
        have hsome : marked.includedAt ≠ none :=
          Option.isSome_iff_ne_none.mp ((Bool.and_eq_true _ _).mp hmarked).1
        rw [hcheck, PassResult.cons, waiting_cons_some hsome]
        exact ⟨hcount.trans (by omega), congrArg Nat.succ hlength⟩
      · obtain ⟨hcount, hlength⟩ := ih (n := n) (fun i => moments (i + 1)) (by omega)
        rw [hcheck, PassResult.cons, waiting_cons_none hnone, ← Nat.add_assoc, ← Nat.add_assoc]
        exact ⟨congrArg Nat.succ hcount, congrArg Nat.succ hlength⟩
    · rw [waiting_cons_some hnone] at hroom ⊢
      obtain ⟨hcount, hlength⟩ := ih (fun i => moments (i + 1)) hroom
      rw [checkResults_of_included hnone, PassResult.cons, waiting_cons_some hnone]
      exact ⟨hcount, congrArg Nat.succ hlength⟩

/-! ### All passes -/

/-- It holds of every pass that is made. -/
def EveryPass (P : (ℕ → Moment) → List InclusionResult → PassResult → Prop) :
    (ℕ → Pass) → ℕ → List InclusionResult → BitVec 32 → Prop
  | _, 0, _, _ => True
  | passes, k + 1, results, n =>
    (passes 0).elapsed < timeout →
      P (passes 0).moments results (checkResults (passes 0).moments results n) ∧
        ((checkResults (passes 0).moments results n).outcome = .ok () →
          EveryPass P (fun i => passes (i + 1)) k (checkResults (passes 0).moments results n).results
            (checkResults (passes 0).moments results n).bundlesIncluded)

/-- As many bundles are counted as are marked from the one list to the other. -/
def CountsMarked (n : BitVec 32) (before : List InclusionResult) (after : PassResult) : Prop :=
  after.bundlesIncluded.toNat + before.countP (·.includedAt.isSome) =
    n.toNat + after.results.countP (·.includedAt.isSome)

/-- What a pass leaves if it goes on, and what is left for the next. -/
theorem waitPasses_succ (passes : ℕ → Pass) (k : ℕ) (results : List InclusionResult) (n : BitVec 32)
    (h : (passes 0).elapsed < timeout) :
    waitPasses passes (k + 1) results n =
      if (checkResults (passes 0).moments results n).outcome = .ok () then
        waitPasses (fun i => passes (i + 1)) k (checkResults (passes 0).moments results n).results
          (checkResults (passes 0).moments results n).bundlesIncluded
      else checkResults (passes 0).moments results n := by
  rw [waitPasses, if_pos h]
  rcases checkResults (passes 0).moments results n with ⟨_ | _, results', n'⟩ <;> rfl

theorem counted_waitPasses (passes : ℕ → Pass) (k : ℕ) (hroom : n.toNat + waiting results < 2 ^ 32) :
    (waitPasses passes k results n).bundlesIncluded.toNat + waiting (waitPasses passes k results n).results =
        n.toNat + waiting results ∧
      (waitPasses passes k results n).results.length = results.length := by
  induction k generalizing passes results n with
  | zero => exact ⟨rfl, rfl⟩
  | succ k ih =>
    by_cases h : (passes 0).elapsed < timeout
    · obtain ⟨hcount, hlength⟩ := counted_checkResults (passes 0).moments hroom
      rw [waitPasses_succ passes k results n h]
      split
      · obtain ⟨hcount', hlength'⟩ := ih (fun i => passes (i + 1)) (hcount ▸ hroom)
        exact ⟨hcount'.trans hcount, hlength'.trans hlength⟩
      · exact ⟨hcount, hlength⟩
    · rw [waitPasses, if_neg h]
      exact ⟨rfl, rfl⟩

theorem included_add_waiting (results : List InclusionResult) :
    results.countP (·.includedAt.isSome) + waiting results = results.length := by
  induction results with
  | nil => rfl
  | cons result results ih =>
    rw [waiting] at ih ⊢
    cases hat : result.includedAt <;> simp [hat] <;> omega

theorem countsMarked_waitPasses (passes : ℕ → Pass) (k : ℕ) (hroom : n.toNat + waiting results < 2 ^ 32) :
    CountsMarked n results (waitPasses passes k results n) := by
  obtain ⟨hcount, hlength⟩ := counted_waitPasses passes k hroom
  have hbefore := included_add_waiting results
  have hafter := included_add_waiting (waitPasses passes k results n).results
  rw [CountsMarked]
  omega

/-- The passes miss nothing just when none is starved in any. -/
theorem every_missesNone_iff (passes : ℕ → Pass) (k : ℕ) (hroom : n.toNat + waiting results < 2 ^ 32) :
    EveryPass (fun moments before after => MissesNone moments before after.results) passes k results n ↔
      EveryPass (fun moments before _ => NoneStarved moments before) passes k results n := by
  induction k generalizing passes results n with
  | zero => exact Iff.rfl
  | succ k ih =>
    have hcount := (counted_checkResults (passes 0).moments hroom).1
    rw [EveryPass, EveryPass, missesNone_iff _ hroom, ih _ (hcount ▸ hroom)]

/-- **Behind a bundle that has failed**, or has expired, nothing is ever looked at. -/
theorem failed_first_starves (timeline : Timeline) (results : List InclusionResult) (n : BitVec 32)
    (hnone : result.includedAt = none)
    (hfails : ∀ k, endsPass (((timeline.passes k).moments 0).tracker.executionStatus result.bundleId) = true) :
    (waitForInclusions timeline (result :: results) n).results.tail = results ∧
      (waitForInclusions timeline (result :: results) n).bundlesIncluded = n := by
  have hpasses : ∀ (k : ℕ) (passes : ℕ → Pass) (success : Bool),
      (∀ i, endsPass (((passes i).moments 0).tracker.executionStatus result.bundleId) = true) →
        (waitPasses passes k ({ result with success := success } :: results) n).results.tail = results ∧
          (waitPasses passes k ({ result with success := success } :: results) n).bundlesIncluded = n := by
    intro k
    induction k with
    | zero => exact fun _ _ _ => ⟨rfl, rfl⟩
    | succ k ih =>
      intro passes success hends
      by_cases hearly : (passes 0).elapsed < timeout
      · rw [waitPasses_succ _ _ _ _ hearly]
        obtain ⟨-, -, outcome, success', hcheck⟩ | ⟨hgoes, -⟩ | ⟨hgoes, -⟩ :=
          @checkResults_cases { result with success := success } (passes 0).moments results n hnone
        · rw [hcheck]
          split
          · exact ih _ success' fun i => hends (i + 1)
          · exact ⟨rfl, rfl⟩
        · cases (hends 0).symm.trans hgoes
        · cases (hends 0).symm.trans hgoes
      · rw [waitPasses, if_neg hearly]
        exact ⟨rfl, rfl⟩
  exact hpasses 30 timeline.passes result.success hfails

/-- **Every inclusion is found**, and as many are counted as are marked, just when in no pass a bundle
that has failed, has expired or is not tracked comes before one that is included. -/
theorem every_inclusion_found_iff (timeline : Timeline) (results : List InclusionResult) (n : BitVec 32)
    (hroom : n.toNat + results.length < 2 ^ 32) :
    (EveryPass (fun moments before after => MissesNone moments before after.results) timeline.passes 30 results n ∧
        CountsMarked n results (waitForInclusions timeline results n)) ↔
      EveryPass (fun moments before _ => NoneStarved moments before) timeline.passes 30 results n := by
  have hroom' : n.toNat + waiting results < 2 ^ 32 := by
    have hlength := included_add_waiting results
    omega
  rw [every_missesNone_iff _ _ hroom']
  exact and_iff_left (countsMarked_waitPasses timeline.passes 30 hroom')

/-- A bundle that is not included yet. -/
def submittedResult (bundleId : String) : InclusionResult := ⟨bundleId, none, none, false⟩

/-- A tracker with the statuses. -/
def trackerWith (entries : List (String × ExecutionStatus)) : TrackerState :=
  entries.foldl (fun s entry => s.put entry.1 ⟨testBundle, 0, entry.2, 0, 0⟩) (testTracker [])

/-- Passes some seconds apart, while the statuses stay as they are. -/
def steadyTimeline (pause : ℕ) (hpause : 2 * 10 ^ 9 ≤ pause)
    (entries : List (String × ExecutionStatus)) : Timeline where
  passes k := ⟨k * pause, fun _ => ⟨trackerWith entries, k * pause⟩⟩
  sleeps k := by
    show k * pause + 2 * 10 ^ 9 ≤ (k + 1) * pause
    rw [Nat.add_mul, Nat.one_mul]
    omega

/-- An included bundle before one that has failed, and time for one pass. -/
theorem included_before_failed_found :
    let timeline := steadyTimeline (60 * 10 ^ 9) (by decide) [("a", .included 1001 []), ("b", .failed "reverted")]
    EveryPass (fun moments before after => MissesNone moments before after.results) timeline.passes 30
        [submittedResult "a", submittedResult "b"] 0 ∧
      CountsMarked 0 [submittedResult "a", submittedResult "b"]
        (waitForInclusions timeline [submittedResult "a", submittedResult "b"] 0) :=
  (every_inclusion_found_iff _ _ 0 (by decide)).mpr fun _ =>
    ⟨by unfold NoneStarved; decide, fun _ hlate => absurd hlate (by decide)⟩

/-- **An inclusion is missed**: of two bundles, the first has failed and the second is included, and
after all passes the second is not marked, and none is counted. -/
theorem failed_before_included_missed :
    let timeline := steadyTimeline (2 * 10 ^ 9) (by decide) [("a", .failed "reverted"), ("b", .included 1001 [])]
    let after := waitForInclusions timeline [submittedResult "a", submittedResult "b"] 0
    after.results = [submittedResult "a", submittedResult "b"] ∧ after.bundlesIncluded = 0 ∧
      ¬ EveryPass (fun moments before after => MissesNone moments before after.results) timeline.passes 30
        [submittedResult "a", submittedResult "b"] 0 := by
  refine ⟨by decide, by decide, fun h => ?_⟩
  obtain ⟨marked, hmarked, hm⟩ := (h (by decide)).1 1 (submittedResult "b") rfl rfl (by decide)
  have hsame : (checkResults (fun _ => ⟨trackerWith [("a", .failed "reverted"), ("b", .included 1001 [])], 0⟩)
      [submittedResult "a", submittedResult "b"] 0).results[1]? = some (submittedResult "b") := by decide
  cases hmarked.symm.trans hsame
  cases hm

end Botmev.Bundles
