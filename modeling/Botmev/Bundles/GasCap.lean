import Botmev.Bundles.FastResubmitter
import Botmev.Bundles.SubmissionRace

/-!
# The maximum gas price of resubmissions

Each round of the fast resubmitter bumps the gas price that is tracked, sends the bundle
with the new price, and only then compares it with the maximum. After a round in which
everything was accepted the price is tracked, with a fresh count of attempts, so the next
round bumps it again.

## What is proved

* `resubmit_sends`: what a round sends, and at which price.
* `gas_price_capped_iff`: no round sends anything above the maximum just when the prices
  that can be reached are below it, one round after another.
-/

namespace Botmev.Bundles

open Botmev.Rust Botmev.Library

variable {config : SubmissionConfig} {maxGas : U256} {submissionId : String} {t : SubmitterState}

/-! ### What goes out at which price -/

/-- The gas price of the bundle that a resubmission gets. -/
def bumpedPrice? : Sigma FastI.Reply → Option U256
  | ⟨.inl (.bumpTracker _), .ok bundle⟩ => some bundle.maxGasPrice
  | _ => none

/-- What is sent to the node. -/
def sentPayload? : Sigma FastI.Reply → Option String
  | ⟨.inl (.sendRawTransaction payload), _⟩ => some payload
  | _ => none

/-- What is sent to the node, with the gas price of the bundle it is of, where the last
price was the given one. -/
def resubmittedAt : Option U256 → List (Sigma FastI.Reply) → List (String × U256)
  | _, [] => []
  | price, step :: steps =>
    ((sentPayload? step).bind fun payload => price.map fun price => (payload, price)).toList ++
      resubmittedAt ((bumpedPrice? step).or price) steps

theorem resubmittedAt_append {price : U256} {steps : List (Sigma FastI.Reply)}
    (h : ∀ step ∈ steps, bumpedPrice? step = none) (rest : List (Sigma FastI.Reply)) :
    resubmittedAt (some price) (steps ++ rest) =
      (steps.filterMap sentPayload?).map (fun payload => (payload, price)) ++ resubmittedAt (some price) rest := by
  induction steps with
  | nil => rfl
  | cons step steps ih =>
    have hstep := h step List.mem_cons_self
    have ih := ih fun step' hstep' => h step' (List.mem_cons_of_mem step hstep')
    rw [List.cons_append, resubmittedAt, hstep, Option.none_or, ih]
    cases hsent : sentPayload? step with
    | none => simp [hsent]
    | some payload => simp [hsent]

variable (config submissionId) in
theorem bumpedPrice?_submitDirect (bundle : Bundle) (t : SubmitterState) :
    ∀ step ∈ ((submitDirect bundle submissionId).trace (submitterHandler config) t).map Async.liftStep,
      bumpedPrice? step = none := by
  intro step hstep
  obtain ⟨⟨op, reply⟩, hmem, rfl⟩ := List.mem_map.mp hstep
  have hop := submitDirect_within.of_mem_trace hmem
  cases op with
  | sendRawTransaction | insertTracker => rfl
  | sendBundle | bumpTracker | ready => exact hop.elim

variable (config submissionId) in
theorem sentPayload?_submitDirect (bundle : Bundle) (t : SubmitterState) :
    (((submitDirect bundle submissionId).trace (submitterHandler config) t).map Async.liftStep).filterMap
      sentPayload? ≠ [] := by
  obtain ⟨tx, txs, htxs⟩ : ∃ tx txs, bundle.allTransactions = tx :: txs :=
    List.exists_cons_of_ne_nil (by simp [Bundle.allTransactions])
  rw [submitDirect, htxs]
  exact List.cons_ne_nil tx.payload _

/-! ### One round -/

/-- The tracker of a submission that is to be sent at a new price. -/
def SubmissionTracker.bumped (tracker : SubmissionTracker) (price : U256) : SubmissionTracker :=
  { tracker with submissionAttempts := tracker.submissionAttempts + 1, currentGasPrice := price }

section round

variable {tracker : SubmissionTracker} {price : U256}

theorem resubmit_refused {e : Failure}
    (hnew : newGasPrice config submissionId (t.activeSubmissions submissionId) = .error e) :
    (resubmitWithGasBump submissionId).run (submitterHandler config) t = (.error e, t) ∧
      (resubmitWithGasBump submissionId).trace (submitterHandler config) t =
        [⟨.bumpTracker submissionId, .error e⟩] := by
  have hbump : submitterHandler config (.bumpTracker submissionId) t = (.error e, t) := by
    simp only [submitterHandler, hnew]
  constructor
  · rw [resubmitWithGasBump, Async.run_request_bind, hbump]
    rfl
  · rw [resubmitWithGasBump, Async.trace_request_bind, hbump]
    rfl

theorem resubmit_run
    (hnew : newGasPrice config submissionId (t.activeSubmissions submissionId) = .ok (tracker, price)) :
    (resubmitWithGasBump submissionId).run (submitterHandler config) t =
        (submitDirect (tracker.originalBundle.withGasPrice price) submissionId).run (submitterHandler config)
          (t.track submissionId (tracker.bumped price)) ∧
      (resubmitWithGasBump submissionId).trace (submitterHandler config) t =
        ⟨.bumpTracker submissionId, .ok (tracker.originalBundle.withGasPrice price)⟩ ::
          (submitDirect (tracker.originalBundle.withGasPrice price) submissionId).trace (submitterHandler config)
            (t.track submissionId (tracker.bumped price)) := by
  have hbump : submitterHandler config (.bumpTracker submissionId) t =
      (.ok (tracker.originalBundle.withGasPrice price), t.track submissionId (tracker.bumped price)) := by
    simp only [submitterHandler, hnew, SubmissionTracker.bumped]
  constructor
  · rw [resubmitWithGasBump, Async.run_request_bind, hbump]
    rfl
  · rw [resubmitWithGasBump, Async.trace_request_bind, hbump]
    rfl

/-- **What a round sends**: something, and all of it at the new price. -/
theorem resubmit_sends
    (hnew : newGasPrice config submissionId (t.activeSubmissions submissionId) = .ok (tracker, price))
    (last : Option U256) (rest : List (Sigma FastI.Reply)) :
    ∃ payloads, payloads ≠ [] ∧ resubmittedAt last
        (((resubmitWithGasBump submissionId).trace (submitterHandler config) t).map Async.liftStep ++ rest) =
      payloads.map (fun payload => (payload, price)) ++ resubmittedAt (some price) rest := by
  refine ⟨_, sentPayload?_submitDirect config submissionId (tracker.originalBundle.withGasPrice price)
    (t.track submissionId (tracker.bumped price)), ?_⟩
  rw [← resubmittedAt_append (bumpedPrice?_submitDirect config submissionId _ _), (resubmit_run hnew).2]
  rfl

theorem newGasPrice_of_lt (h : tracker.submissionAttempts < config.maxResubmissions) :
    newGasPrice config submissionId (some tracker) =
      (bumpedGasPrice config tracker.currentGasPrice).map fun price => (tracker, price) := by
  have hle : ¬ config.maxResubmissions ≤ tracker.submissionAttempts := BitVec.not_le.mpr h
  simp only [newGasPrice, okOr, bind, Except.bind, if_neg hle]
  rcases bumpedGasPrice config tracker.currentGasPrice with e | price <;> rfl

theorem newGasPrice_of_not_lt (h : ¬ tracker.submissionAttempts < config.maxResubmissions) :
    newGasPrice config submissionId (some tracker) = .error (.err "Maximum resubmission attempts reached") := by
  have hle : config.maxResubmissions ≤ tracker.submissionAttempts := BitVec.not_lt.mp h
  simp only [newGasPrice, okOr, bind, Except.bind, if_pos hle]
  rfl

end round

/-! ### The rounds -/

variable (config maxGas submissionId) in
/-- What a round asks for once it has counted the submissions, and the rest if the task goes
on after it. -/
def roundTrace (t : SubmitterState) (rest : List (Sigma FastI.Reply)) : List (Sigma FastI.Reply) :=
  ((resubmitWithGasBump submissionId).trace (submitterHandler config) t).map Async.liftStep ++
    match ((resubmitWithGasBump submissionId).run (submitterHandler config) t).1 with
    | .ok result => if maxGas < result.gasPrice then [] else rest
    | .error _ => []

variable (config maxGas submissionId) in
/-- What a round asks for, and whether the task goes on after it. -/
theorem resubmissionLoop_trace {s : ActiveSubmitter} (n : ℕ)
    (hcount : s.ids.card ≠ 0) :
    ∃ s₁ : ActiveSubmitter,
      s₁.submitter = ((resubmitWithGasBump submissionId).run (submitterHandler config) s.submitter).2 ∧
      (resubmissionLoop maxGas submissionId (n + 1)).trace (fastHandler config) s =
        ⟨.inr .activeSubmissionCount, s.ids.card⟩ :: roundTrace config maxGas submissionId s.submitter
          ((resubmissionLoop maxGas submissionId n).trace (fastHandler config) s₁) := by
  have hext : Async.Extends (fastHandler config) (submitterHandler config) ActiveSubmitter.submitter :=
    fun op u => ⟨rfl, rfl⟩
  obtain ⟨s₁, hrun, hs₁⟩ : ∃ s₁, (resubmitWithGasBump submissionId).attempt.inl.run (fastHandler config) s =
      (.ok ((resubmitWithGasBump submissionId).run (submitterHandler config) s.submitter).1, s₁) ∧
      s₁.submitter = ((resubmitWithGasBump submissionId).run (submitterHandler config) s.submitter).2 := by
    obtain ⟨hresult, hview⟩ := Async.run_inl hext (resubmitWithGasBump submissionId).attempt s
    rw [Async.run_attempt] at hresult hview
    exact ⟨_, Prod.ext hresult rfl, hview⟩
  refine ⟨s₁, hs₁, ?_⟩
  rw [resubmissionLoop, Async.trace_request_bind]
  show _ :: Async.trace _ (if s.ids.card = 0 then _ else _) s = _
  rw [if_neg hcount, Async.trace_bind_of_ok _ hrun, Async.trace_inl hext, Async.trace_attempt, roundTrace]
  rcases ((resubmitWithGasBump submissionId).run (submitterHandler config) s.submitter).1 with (_ | _) | result
  · rfl
  · rfl
  · dsimp only
    split <;> rfl

/-- The gas price after so many bumps. -/
def bumpedTimes (config : SubmissionConfig) : ℕ → U256 → Result U256
  | 0, price => .ok price
  | k + 1, price => do bumpedTimes config k (← bumpedGasPrice config price)

/-- Of the next `n` rounds, each that is reached, with the node accepting everything that
those before it send, has a price up to the maximum. Only if there may be two attempts is
there a second round. -/
def PricesCapped (config : SubmissionConfig) (maxGas : U256) (n : ℕ) (t : SubmitterState)
    (tracker : SubmissionTracker) : Prop :=
  ∀ k < n, (k = 0 ∨ 1 < config.maxResubmissions) →
    NodeAccepts t (k * tracker.originalBundle.allTransactions.length) →
      ∀ price, bumpedTimes config (k + 1) tracker.currentGasPrice = .ok price → price ≤ maxGas

theorem nodeAccepts_add (t : SubmitterState) (payloads : List String) (m : ℕ) :
    NodeAccepts t (m + payloads.length) ↔ NodeAccepts t payloads.length ∧
      NodeAccepts (t.asked payloads) m := by
  constructor
  · exact fun h => ⟨fun k hk => h k (by omega), fun k hk => h (k + payloads.length) (by omega)⟩
  · rintro ⟨hfirst, hrest⟩ k hk
    by_cases hlt : k < payloads.length
    · exact hfirst k hlt
    · obtain ⟨hash, hhash⟩ := hrest (k - payloads.length) (by omega)
      refine ⟨hash, ?_⟩
      rw [← hhash]
      exact congrArg t.node (by omega)

theorem length_allTransactions_withGasPrice (bundle : Bundle) (price : U256) :
    (bundle.withGasPrice price).allTransactions.length = bundle.allTransactions.length := by
  simp [Bundle.allTransactions, Bundle.withGasPrice]

theorem pricesCapped_succ {tracker : SubmissionTracker} {price : U256} (hashes : List String) (n : ℕ)
    (hbump : bumpedGasPrice config tracker.currentGasPrice = .ok price) {payloads : List String}
    (hlen : payloads.length = tracker.originalBundle.allTransactions.length) :
    PricesCapped config maxGas (n + 1) t tracker ↔ price ≤ maxGas ∧
      (NodeAccepts t payloads.length → (1 : U32) < config.maxResubmissions →
        PricesCapped config maxGas n (t.asked payloads)
          (trackerOf (tracker.originalBundle.withGasPrice price) hashes)) := by
  have hbumps : ∀ k, bumpedTimes config (k + 1) tracker.currentGasPrice = bumpedTimes config k price := by
    intro k
    rw [bumpedTimes, hbump]
    rfl
  have hlen' : (trackerOf (tracker.originalBundle.withGasPrice price) hashes).originalBundle.allTransactions.length =
      payloads.length := by
    rw [hlen]
    exact length_allTransactions_withGasPrice _ _
  unfold PricesCapped
  rw [hlen', ← hlen]
  constructor
  · intro h
    refine ⟨h 0 (Nat.succ_pos n) (.inl rfl) (fun k hk => by omega) price (hbumps 0), ?_⟩
    intro haccepts hmax k hk _ hnode q hq
    refine h (k + 1) (Nat.succ_lt_succ hk) (.inr hmax) ?_ q ((hbumps _).trans hq)
    rw [Nat.succ_mul, nodeAccepts_add]
    exact ⟨haccepts, hnode⟩
  · rintro ⟨hfirst, hrest⟩ k hk hmax hnode q hq
    rw [hbumps] at hq
    cases k with
    | zero =>
      cases hq
      exact hfirst
    | succ k =>
      rw [Nat.succ_mul, nodeAccepts_add] at hnode
      have hmax : (1 : U32) < config.maxResubmissions := hmax.resolve_left (Nat.succ_ne_zero k)
      exact hrest hnode.1 hmax k (Nat.lt_of_succ_lt_succ hk) (.inr hmax) hnode.2 q hq

theorem forall_mem_map_le_iff {payloads : List String} (h : payloads ≠ []) {price : U256} :
    (∀ x ∈ payloads.map (fun payload => (payload, price)), x.2 ≤ maxGas) ↔ price ≤ maxGas := by
  obtain ⟨payload, payloads, rfl⟩ := List.exists_cons_of_ne_nil h
  constructor
  · exact fun h => h _ (List.mem_cons_self)
  · rintro h x hx
    obtain ⟨_, -, rfl⟩ := List.mem_map.mp hx
    exact h

theorem roundTrace_refused {e : Failure} {rest : List (Sigma FastI.Reply)} (last : Option U256)
    (hnew : newGasPrice config submissionId (t.activeSubmissions submissionId) = .error e) :
    resubmittedAt last (roundTrace config maxGas submissionId t rest) = [] := by
  obtain ⟨hrun, hsteps⟩ := resubmit_refused hnew
  rw [roundTrace, hrun, hsteps]
  rfl

/-- A round whose bundle is accepted sends it at the new price, and the task goes on if that
is not above the maximum. -/
theorem roundTrace_accepted {tracker : SubmissionTracker} {price : U256} {rest : List (Sigma FastI.Reply)}
    {result : SubmissionResult} {t' : SubmitterState} (last : Option U256)
    (hnew : newGasPrice config submissionId (t.activeSubmissions submissionId) = .ok (tracker, price))
    (hrun : (resubmitWithGasBump submissionId).run (submitterHandler config) t = (.ok result, t'))
    (hprice : result.gasPrice = price) :
    (∀ x ∈ resubmittedAt last (roundTrace config maxGas submissionId t rest), x.2 ≤ maxGas) ↔
      price ≤ maxGas ∧ ∀ x ∈ resubmittedAt (some price) rest, x.2 ≤ maxGas := by
  obtain ⟨payloads, hne, hpayloads⟩ := resubmit_sends hnew last (if maxGas < price then [] else rest)
  rw [roundTrace, hrun]
  dsimp only
  rw [hprice, hpayloads, List.forall_mem_append, forall_mem_map_le_iff hne]
  refine and_congr_right fun hle => ?_
  rw [if_neg (BitVec.not_lt.mpr hle)]

/-- A round whose bundle is rejected sends some of it at the new price, and the task ends. -/
theorem roundTrace_rejected {tracker : SubmissionTracker} {price : U256} {rest : List (Sigma FastI.Reply)}
    {e : Failure} {t' : SubmitterState} (last : Option U256)
    (hnew : newGasPrice config submissionId (t.activeSubmissions submissionId) = .ok (tracker, price))
    (hrun : (resubmitWithGasBump submissionId).run (submitterHandler config) t = (.error e, t')) :
    (∀ x ∈ resubmittedAt last (roundTrace config maxGas submissionId t rest), x.2 ≤ maxGas) ↔ price ≤ maxGas := by
  obtain ⟨payloads, hne, hpayloads⟩ := resubmit_sends hnew last []
  rw [roundTrace, hrun]
  dsimp only
  rw [hpayloads, List.forall_mem_append, forall_mem_map_le_iff hne]
  exact and_iff_left fun x hx => nomatch hx

/-- **A round at a new price** sends at it, and what comes after it counts if the node accepts the whole
bundle. -/
theorem roundTrace_sent {tracker : SubmissionTracker} {price : U256} {rest : List (Sigma FastI.Reply)}
    (last : Option U256)
    (hnew : newGasPrice config submissionId (t.activeSubmissions submissionId) = .ok (tracker, price)) :
    (∀ x ∈ resubmittedAt last (roundTrace config maxGas submissionId t rest), x.2 ≤ maxGas) ↔
      price ≤ maxGas ∧
        (NodeAccepts t (tracker.originalBundle.withGasPrice price).allTransactions.length →
          ∀ x ∈ resubmittedAt (some price) rest, x.2 ≤ maxGas) := by
  have hrun := (resubmit_run hnew).1
  generalize hbundle : tracker.originalBundle.withGasPrice price = bundle at hrun
  rcases accepts_or_rejects t bundle.allTransactions.length with haccepts | ⟨j, hj, haccepts, hreject⟩
  · -- Everything is accepted, at this price.
    obtain ⟨hashes, hok⟩ := run_submitDirect_of_accepts config submissionId
      (t := t.track submissionId (tracker.bumped price)) haccepts
    have hprice : (resultOf bundle (",".intercalate hashes)).gasPrice = price := by
      rw [← hbundle]
      rfl
    rw [roundTrace_accepted last hnew (hrun.trans hok) hprice]
    exact and_congr_right fun _ => (imp_iff_right haccepts).symm
  · -- Something is not, and the task ends.
    obtain ⟨e, herror⟩ := run_submitDirect_of_rejects config submissionId
      (t := t.track submissionId (tracker.bumped price)) hj haccepts hreject
    rw [roundTrace_rejected last hnew (hrun.trans herror)]
    refine (and_iff_left fun hall => ?_).symm
    obtain ⟨hash, hhash⟩ := hall j hj
    exact absurd hhash (hreject hash)

/-- After a round that is accepted, the bundle is tracked at the new price. -/
theorem resubmit_accepted {tracker : SubmissionTracker} {price : U256} {bundle : Bundle}
    (hnew : newGasPrice config submissionId (t.activeSubmissions submissionId) = .ok (tracker, price))
    (hbundle : tracker.originalBundle.withGasPrice price = bundle)
    (haccepts : NodeAccepts t bundle.allTransactions.length) :
    ∃ hashes, ((resubmitWithGasBump submissionId).run (submitterHandler config) t).2 =
      ((t.track submissionId (tracker.bumped price)).asked (bundle.allTransactions.map (·.payload))).track
        submissionId (trackerOf bundle hashes) := by
  obtain ⟨hashes, hok⟩ := run_submitDirect_of_accepts config submissionId
    (t := t.track submissionId (tracker.bumped price)) haccepts
  rw [(resubmit_run hnew).1, hbundle, hok]
  exact ⟨hashes, rfl⟩

/-- **The rounds of a tracked submission.** -/
theorem resubmissionLoop_capped_iff (n : ℕ) (last : Option U256) {s : ActiveSubmitter}
    {tracker : SubmissionTracker}
    (htracker : s.submitter.activeSubmissions submissionId = some tracker) :
    (∀ x ∈ resubmittedAt last ((resubmissionLoop maxGas submissionId n).trace (fastHandler config) s),
        x.2 ≤ maxGas) ↔
      (tracker.submissionAttempts < config.maxResubmissions →
        PricesCapped config maxGas n s.submitter tracker) := by
  induction n generalizing last s tracker with
  | zero =>
    refine iff_of_true (fun x hx => ?_) fun _ k hk => absurd hk (Nat.not_lt_zero k)
    cases hx
  | succ n ih =>
    have hmem : submissionId ∈ s.ids := by
      rw [s.mem_ids, htracker]
      exact Option.some_ne_none _
    obtain ⟨s₁, hs₁, htrace⟩ :=
      resubmissionLoop_trace config maxGas submissionId n (Finset.card_ne_zero_of_mem hmem)
    rw [htrace]
    show (∀ x ∈ resubmittedAt last (roundTrace config maxGas submissionId s.submitter _), x.2 ≤ maxGas) ↔ _
    by_cases hlt : tracker.submissionAttempts < config.maxResubmissions
    swap
    · rw [roundTrace_refused last (htracker ▸ newGasPrice_of_not_lt hlt)]
      exact iff_of_true (fun x hx => nomatch hx) fun h => absurd h hlt
    rw [forall_prop_of_true hlt]
    have hnew : newGasPrice config submissionId (s.submitter.activeSubmissions submissionId) =
        (bumpedGasPrice config tracker.currentGasPrice).map fun price => (tracker, price) := by
      rw [htracker]
      exact newGasPrice_of_lt hlt
    rcases hbump : bumpedGasPrice config tracker.currentGasPrice with e | price
    · rw [hbump] at hnew
      rw [roundTrace_refused last hnew]
      refine iff_of_true (fun x hx => nomatch hx) fun k hk _ _ price hprice => ?_
      rw [bumpedTimes, hbump] at hprice
      cases hprice
    · rw [hbump] at hnew
      have hlen : ((tracker.originalBundle.withGasPrice price).allTransactions.map (·.payload)).length =
          tracker.originalBundle.allTransactions.length := by
        rw [List.length_map, length_allTransactions_withGasPrice]
      rw [roundTrace_sent last hnew]
      by_cases haccepts : NodeAccepts s.submitter (tracker.originalBundle.withGasPrice price).allTransactions.length
      · obtain ⟨hashes, hstate⟩ := resubmit_accepted hnew rfl haccepts
        have htracker₁ : s₁.submitter.activeSubmissions submissionId =
            some (trackerOf (tracker.originalBundle.withGasPrice price) hashes) := by
          rw [hs₁, hstate, SubmitterState.activeSubmissions_track_self]
        rw [pricesCapped_succ hashes n hbump hlen, List.length_map, ih (some price) htracker₁, hs₁, hstate]
        exact Iff.rfl
      · rw [pricesCapped_succ [] n hbump hlen, List.length_map]
        exact and_congr_right fun _ => iff_of_true (fun h => absurd h haccepts) fun h => absurd h haccepts

theorem resubmissionLoop_untracked (n : ℕ) {s : ActiveSubmitter}
    (hnone : s.submitter.activeSubmissions submissionId = none) :
    resubmittedAt none ((resubmissionLoop maxGas submissionId n).trace (fastHandler config) s) = [] := by
  cases n with
  | zero => rfl
  | succ n =>
    by_cases hcount : s.ids.card = 0
    · rw [resubmissionLoop, Async.trace_request_bind]
      show resubmittedAt none (_ :: Async.trace _ (if s.ids.card = 0 then _ else _) s) = []
      rw [if_pos hcount]
      rfl
    · obtain ⟨s₁, -, htrace⟩ := resubmissionLoop_trace config maxGas submissionId n hcount
      have hnew : newGasPrice config submissionId (s.submitter.activeSubmissions submissionId) =
          .error (.err ("Submission not found: " ++ submissionId)) := by
        rw [hnone]
        rfl
      rw [htrace]
      exact roundTrace_refused none hnew

/-- **The gas price is capped** in every round just when, unless the submission is not
tracked or has no attempts left, no price that can be reached is above the maximum. -/
theorem gas_price_capped_iff (config : SubmissionConfig) (maxGas : U256) (submissionId : String)
    (s : ActiveSubmitter) :
    (∀ x ∈ resubmittedAt none ((startResubmission maxGas submissionId).trace (fastHandler config) s),
        x.2 ≤ maxGas) ↔
      ∀ tracker, s.submitter.activeSubmissions submissionId = some tracker →
        tracker.submissionAttempts < config.maxResubmissions →
          PricesCapped config maxGas 10 s.submitter tracker := by
  rcases htracker : s.submitter.activeSubmissions submissionId with _ | tracker
  · rw [startResubmission, resubmissionLoop_untracked 10 htracker]
    refine iff_of_true (fun x hx => ?_) fun tracker htracker' => ?_
    · cases hx
    · cases htracker'
  · rw [startResubmission, resubmissionLoop_capped_iff 10 none htracker]
    constructor
    · rintro h _ ⟨⟩
      exact h
    · exact fun h => h tracker rfl

/-- The submitter of the examples, that tracks nothing yet. -/
def ActiveSubmitter.accepting : ActiveSubmitter where
  submitter := .accepting
  ids := ∅
  mem_ids _ := iff_of_false (Finset.notMem_empty _) (not_not_intro rfl)

/-- Once the bundle is submitted. -/
def ActiveSubmitter.submitted (fee : U256) : ActiveSubmitter :=
  ((submitDirect (sampleBundle fee) "sub_0").inl.run (fastHandler .default) .accepting).2

/-- **A resubmission above the maximum**: 200 gwei bumped by a tenth, where 210 are the
maximum. -/
theorem resubmission_above_maximum :
    ¬ ∀ x ∈ resubmittedAt none ((startResubmission 210000000000 "sub_0").trace (fastHandler .default)
        (.submitted 200000000000)), x.2 ≤ 210000000000 := by
  decide +kernel

end Botmev.Bundles
