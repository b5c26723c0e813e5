import Botmev.Bundles.Submission
import Botmev.Bundles.SubmitterCalls

/-!
# Gas bumps

The bundle that a resubmission sends is the one that is tracked with another
`max_fee_per_gas` in the fields of its transactions. They are not signed again: the hash
and the bytes are the old ones.

## What is proved

* `bumped_transactions_match`: as long as every new gas price is the one the transactions
  were signed with, their hash and bytes are those of their fields.
* `bump_breaks_match`: the first that is not takes the bytes from the fields.
* `bumped_transaction_unsigned`: such a run.
-/

namespace Botmev.Bundles

open Botmev.Rust Botmev.Library

variable {Wallet Signature ι : Type} [DecidableEq ι] {config : SubmissionConfig} {bundle : Bundle}
variable {submissionId : String} {calls : ι → SubmitterCall} {p : SubmitterPool ι} {i : ι}
  {s₀ : SubmitterState}

/-- The submission of the bundle made up the id. -/
def Submitted (calls : ι → SubmitterCall) (id : String) (bundle : Bundle) : Prop :=
  ∃ i path uuid, calls i = .submit bundle path uuid ∧ id ∈ submissionIds uuid

variable (E : Ethers Wallet Signature)

/-- Where an own transaction of the bundle `first` had the bytes of its fields, the one in
its place has them. -/
def StaysSigned (first bundle : Bundle) : Prop :=
  ∀ (k : ℕ) (tx₀ tx : SignedTransaction), first.ownTransactions[k]? = some tx₀ → tx₀.Matches E →
    bundle.ownTransactions[k]? = some tx → tx.Matches E

/-- Every bundle that is tracked, and every one that a resubmission has set out to send,
stays signed as it was submitted under the id. -/
def BumpsSigned (calls : ι → SubmitterCall) (p : SubmitterPool ι) : Prop :=
  ∀ id first, Submitted calls id first →
    (∀ tracker, p.shared.activeSubmissions id = some tracker →
      StaysSigned E first tracker.originalBundle) ∧
    ∀ j bundle, ⟨j, .bumpTracker id, .ok bundle⟩ ∈ p.history → StaysSigned E first bundle

/-- If the step raises the gas price of a bundle, the new price is the one that the own
transactions with the bytes of their fields were submitted with. -/
def PriceAsSigned (config : SubmissionConfig) (calls : ι → SubmitterCall) (p : SubmitterPool ι)
    (i : ι) : Prop :=
  ∀ id tracker price first, (p.tasks i).next? = some (.bumpTracker id) →
    newGasPrice config id (p.shared.activeSubmissions id) = .ok (tracker, price) →
      Submitted calls id first →
    ∀ tx ∈ first.ownTransactions, tx.Matches E → tx.maxFeePerGas = price

/-- The own transactions that had the bytes of their fields are still the same. -/
def Keeps (first bundle : Bundle) : Prop :=
  ∀ (k : ℕ) (tx : SignedTransaction), first.ownTransactions[k]? = some tx → tx.Matches E →
    bundle.ownTransactions[k]? = some tx

/-- The bundle keeps what was submitted under the id. -/
def KeepsSubmitted (calls : ι → SubmitterCall) (id : String) (bundle : Bundle) : Prop :=
  ∃ first, Submitted calls id first ∧ Keeps E first bundle

variable {E}

theorem Keeps.staysSigned {first bundle : Bundle} (h : Keeps E first bundle) :
    StaysSigned E first bundle := by
  intro k tx₀ tx h₀ hm htx
  rw [h k tx₀ h₀ hm, Option.some.injEq] at htx
  exact htx ▸ hm

theorem Bundle.ownTransactions_withGasPrice (bundle : Bundle) (price : U256) :
    (bundle.withGasPrice price).ownTransactions =
      bundle.ownTransactions.map fun tx => { tx with maxFeePerGas := price } := by
  simp only [ownTransactions, withGasPrice, List.map_append]

/-- A transaction that was signed with the new price is not touched at all. -/
theorem Keeps.withGasPrice {first bundle : Bundle} {price : U256} (h : Keeps E first bundle)
    (hprice : ∀ tx ∈ first.ownTransactions, tx.Matches E → tx.maxFeePerGas = price) :
    Keeps E first (bundle.withGasPrice price) := by
  intro k tx htx hm
  have hk := h k tx htx hm
  have hfee := hprice tx (List.mem_of_getElem? htx) hm
  rw [Bundle.ownTransactions_withGasPrice, List.getElem?_map, hk, ← hfee]
  rfl

theorem FreshIds.submitted_unique (hfresh : FreshIds calls) {id : String} {first first' : Bundle}
    (h : Submitted calls id first) (h' : Submitted calls id first') : first = first' := by
  obtain ⟨i, path, uuid, hi, hid⟩ := h
  obtain ⟨j, path', uuid', hj, hid'⟩ := h'
  by_cases hij : i = j
  · subst hij
    rw [hi] at hj
    cases hj
    rfl
  · refine absurd ?_ (hfresh i j hij id ?_)
    · rw [hj]
      exact hid'
    · rw [hi]
      exact hid

variable (E) in
/-- What goes out under an id keeps what was submitted under it. -/
structure Kept (calls : ι → SubmitterCall) (p : SubmitterPool ι) (φ : ι → CallPhase) : Prop where
  /-- Every call is in a phase of its own. -/
  fits : ∀ i, (φ i).Fits (calls i)
  /-- What is tracked. -/
  tracked : ∀ id tracker, p.shared.activeSubmissions id = some tracker →
    KeepsSubmitted E calls id tracker.originalBundle
  /-- What is about to be sent again. -/
  bumped : ∀ j id bundle, φ j = .bumped id bundle → KeepsSubmitted E calls id bundle
  /-- What has been, or is about to be, sent again. -/
  sent : ∀ j id bundle, ⟨j, .bumpTracker id, .ok bundle⟩ ∈ p.history → KeepsSubmitted E calls id bundle

/-- An operation that leaves the trackers alone and gives no resubmission its bundle. -/
theorem Kept.skip {φ : ι → CallPhase} (hI : Kept E calls p φ) {op : SubmitterOp}
    {k : SubmitterI.Reply op → SubmitterM SubmissionResult}
    (hs : (submitterHandler config op p.shared).2.activeSubmissions = p.shared.activeSubmissions)
    (hevent : ∀ j id bundle, (⟨j, .bumpTracker id, .ok bundle⟩ : Event SubmitterI ι) ≠
      ⟨i, op, (submitterHandler config op p.shared).1⟩) :
    Kept E calls (p.after (submitterHandler config) i op k) φ where
  fits := hI.fits
  tracked id tracker h := hI.tracked id tracker (by rwa [Pool.after_shared, hs] at h)
  bumped := hI.bumped
  sent j id bundle h := by
    rcases List.mem_append.mp h with h | h
    · exact hI.sent j id bundle h
    · exact absurd (List.mem_singleton.mp h) (hevent j id bundle)

theorem Kept.track {φ : ι → CallPhase} (hI : Kept E calls p φ) {φ' : CallPhase} {hashes : List String}
    {k : Unit → SubmitterM SubmissionResult} (hfits : ∀ j, (Function.update φ i φ' j).Fits (calls j))
    (hφ' : ∀ id bundle, φ' ≠ .bumped id bundle)
    (hkeeps : KeepsSubmitted E calls submissionId bundle) :
    Kept E calls (p.after (submitterHandler config) i (.insertTracker submissionId (trackerOf bundle hashes)) k)
      (Function.update φ i φ') where
  fits := hfits
  tracked id tracker h := by
    by_cases hne : id = submissionId
    · subst hne
      have h : (p.shared.track id (trackerOf bundle hashes)).activeSubmissions id = some tracker := h
      rw [SubmitterState.activeSubmissions_track_self, Option.some.injEq] at h
      exact h ▸ hkeeps
    · refine hI.tracked id tracker ?_
      rwa [← SubmitterState.activeSubmissions_track_of_ne _ (trackerOf bundle hashes) hne]
  bumped j id bundle hj := by
    by_cases hji : j = i
    · subst hji
      rw [Function.update_self] at hj
      exact absurd hj (hφ' id bundle)
    · rw [Function.update_of_ne hji] at hj
      exact hI.bumped j id bundle hj
  sent j id bundle h := by
    rcases List.mem_append.mp h with h | h
    · exact hI.sent j id bundle h
    · cases List.mem_singleton.mp h

/-- A resubmission gets a bundle that keeps what was submitted. -/
theorem Kept.bump {φ : ι → CallPhase} (hI : Kept E calls p φ)
    {k : Result Bundle → SubmitterM SubmissionResult}
    (hφi : φ i = .resubmitting submissionId)
    (hr : (submitterHandler config (.bumpTracker submissionId) p.shared).1 = .ok bundle)
    (hG : ∀ tracker price first, newGasPrice config submissionId (p.shared.activeSubmissions submissionId) =
        .ok (tracker, price) → Submitted calls submissionId first →
      ∀ tx ∈ first.ownTransactions, tx.Matches E → tx.maxFeePerGas = price) :
    Kept E calls (p.after (submitterHandler config) i (.bumpTracker submissionId) k)
      (Function.update φ i (.bumped submissionId bundle)) := by
  obtain ⟨tracker, price, htracker, -, hprice, rfl, hs⟩ := bumpTracker_ok hr
  obtain ⟨first, hfirst, hkeeps⟩ := hI.tracked submissionId tracker htracker
  have hkeeps' : Keeps E first (tracker.originalBundle.withGasPrice price) :=
    hkeeps.withGasPrice (hG tracker price first hprice hfirst)
  refine ⟨CallMove.bump.fits_update hφi hI.fits, fun id tracker' h => ?_, fun j id bundle hj => ?_,
    fun j id bundle h => ?_⟩
  · rw [Pool.after_shared, hs] at h
    by_cases hne : id = submissionId
    · -- The tracker keeps its bundle until the new one is out.
      subst hne
      rw [SubmitterState.activeSubmissions_track_self, Option.some.injEq] at h
      subst h
      exact ⟨first, hfirst, hkeeps⟩
    · rw [SubmitterState.activeSubmissions_track_of_ne _ _ hne] at h
      exact hI.tracked id tracker' h
  · by_cases hji : j = i
    · subst hji
      rw [Function.update_self] at hj
      cases hj
      exact ⟨first, hfirst, hkeeps'⟩
    · rw [Function.update_of_ne hji] at hj
      exact hI.bumped j id bundle hj
  · rcases List.mem_append.mp h with h | h
    · exact hI.sent j id bundle h
    · rw [List.mem_singleton, hr] at h
      cases h
      exact ⟨first, hfirst, hkeeps'⟩

theorem Kept.refuse {φ : ι → CallPhase} (hI : Kept E calls p φ)
    {k : Result Bundle → SubmitterM SubmissionResult}
    {e : Failure} (hφi : φ i = .resubmitting submissionId)
    (hr : (submitterHandler config (.bumpTracker submissionId) p.shared).1 = .error e) :
    Kept E calls (p.after (submitterHandler config) i (.bumpTracker submissionId) k)
      (Function.update φ i (.refused submissionId)) := by
  have hskip : Kept E calls (p.after (submitterHandler config) i (.bumpTracker submissionId) k) φ := by
    refine hI.skip (congrArg _ (bumpTracker_error hr)) fun j id bundle h => ?_
    rw [hr] at h
    cases h
  refine ⟨(CallMove.refuse (e := e)).fits_update hφi hI.fits, hskip.tracked, fun j id bundle hj => ?_,
    hskip.sent⟩
  by_cases hji : j = i
  · subst hji
    rw [Function.update_self] at hj
    cases hj
  · rw [Function.update_of_ne hji] at hj
    exact hI.bumped j id bundle hj

/-- In every run in which each new gas price is the one that was signed with, what goes out
under an id keeps what was submitted under it. -/
theorem kept_of_reach (hempty : ∀ id, s₀.activeSubmissions id = none)
    (hr : Pool.Reach (submitterHandler config) (PriceAsSigned E config calls)
      (.start s₀ fun i => (calls i).task config) p) : ∃ φ, Kept E calls p φ := by
  have hfollows : ∀ i, callProtocol.Follows CallEnds (calls i).phase ((calls i).task config) :=
    fun i => (calls i).follows config
  have hstart : Kept E calls (.start s₀ fun i => (calls i).task config) fun i => (calls i).phase := by
    refine ⟨fun i => (calls i).phase_fits, fun id tracker h => ?_, fun j id bundle hj => ?_,
      fun j id bundle h => ?_⟩
    · cases (hempty id).symm.trans h
    · cases hc : calls j <;> rw [hc] at hj <;> cases hj
    · cases h
  obtain ⟨φ, hI, -⟩ := Protocol.exists_phases hr hfollows (Kept E calls) hstart (fun _ _ _ _ => trivial) (by
    intro p φ i op k φ' hI hG hi hm
    generalize hr : (submitterHandler config op p.shared).1 = reply at hm
    generalize hφi : φ i = φi at hm
    have hfits := hI.fits i
    rw [hφi] at hfits
    have hfits' := hm.fits_update hφi hI.fits
    cases hm with
    | sendRaw | sendBundle | ready =>
      rw [← hφi, Function.update_eq_self]
      exact hI.skip rfl fun _ _ _ h => by cases h
    | track hid =>
      obtain ⟨path, hcall⟩ := hfits.eq_submit
      refine hI.track hfits' (fun _ _ h => by cases h) ⟨_, ⟨i, path, _, hcall, hid⟩, ?_⟩
      exact fun _ _ h _ => h
    | bump => exact hI.bump hφi hr fun tracker price first => hG _ tracker price first (by rw [hi]; rfl)
    | refuse => exact hI.refuse hφi hr
    | retrack =>
      exact hI.track hfits' (fun _ _ h => by cases h) (hI.bumped i _ _ hφi))
  exact ⟨φ, hI⟩

/-- **Bumped transactions match their bytes**: in every run in which each new gas price is
the one that the bundle's own transactions were signed with, what is tracked and what is
sent again has the bytes of its fields, where it had them when it was submitted. -/
theorem bumped_transactions_match (hfresh : FreshIds calls)
    (hempty : ∀ id, s₀.activeSubmissions id = none)
    (hr : Pool.Reach (submitterHandler config) (PriceAsSigned E config calls)
      (.start s₀ fun i => (calls i).task config) p) :
    BumpsSigned E calls p := by
  obtain ⟨φ, hI⟩ := kept_of_reach hempty hr
  intro id first hfirst
  constructor
  · intro tracker htracker
    obtain ⟨first', hfirst', hkeeps⟩ := hI.tracked id tracker htracker
    rw [hfresh.submitted_unique hfirst hfirst']
    exact hkeeps.staysSigned
  · intro j bundle h
    obtain ⟨first', hfirst', hkeeps⟩ := hI.sent j id bundle h
    rw [hfresh.submitted_unique hfirst hfirst']
    exact hkeeps.staysSigned

/-- **No more can be said**: where different transactions have different bytes, a new gas
price that a transaction was not signed with takes the bytes from its fields. -/
theorem bump_breaks_match (hfresh : FreshIds calls) (hempty : ∀ id, s₀.activeSubmissions id = none)
    (hinj : ∀ request request' signature signature',
      E.rlpSigned request signature = E.rlpSigned request' signature' → request = request')
    (hr : Pool.Reach (submitterHandler config) (PriceAsSigned E config calls)
      (.start s₀ fun i => (calls i).task config) p)
    {op : SubmitterOp} {k : SubmitterI.Reply op → SubmitterM SubmissionResult}
    (hi : p.tasks i = .await op k) (hbad : ¬ PriceAsSigned E config calls p i) :
    ¬ BumpsSigned E calls (p.after (submitterHandler config) i op k) := by
  obtain ⟨φ, hI⟩ := kept_of_reach hempty hr
  simp only [PriceAsSigned, not_forall] at hbad
  obtain ⟨id, tracker, price, first, hnext, hprice, hfirst, tx, htx, hm, hfee⟩ := hbad
  rw [hi, Async.next?_await, Option.some.injEq] at hnext
  subst hnext
  have hbump : (submitterHandler config (.bumpTracker id) p.shared).1 =
      .ok (tracker.originalBundle.withGasPrice price) := by
    simp only [submitterHandler, hprice]
  obtain ⟨tracker', price', htracker, -, hprice', -, -⟩ := bumpTracker_ok hbump
  rw [hprice] at hprice'
  cases hprice'
  obtain ⟨first', hfirst', hkeeps⟩ := hI.tracked id tracker htracker
  rw [← hfresh.submitted_unique hfirst hfirst'] at hkeeps
  obtain ⟨n, hn⟩ := List.getElem?_of_mem htx
  have hn' : (tracker.originalBundle.withGasPrice price).ownTransactions[n]? =
      some { tx with maxFeePerGas := price } := by
    rw [Bundle.ownTransactions_withGasPrice, List.getElem?_map, hkeeps n tx hn hm]
    rfl
  intro hsigned
  have hevent : ⟨i, .bumpTracker id, .ok (tracker.originalBundle.withGasPrice price)⟩ ∈
      (p.after (submitterHandler config) i (.bumpTracker id) k).history := by
    rw [Pool.after_history, hbump]
    exact List.mem_append_right _ (List.mem_singleton_self _)
  obtain ⟨_, signature', -, -, -, hraw'⟩ := (hsigned id first hfirst).2 i _ hevent n tx _ hn hm hn'
  obtain ⟨_, signature, -, -, -, hraw⟩ := hm
  exact hfee (congrArg Eip1559TransactionRequest.maxFeePerGas (hinj _ _ _ _ (hraw.symm.trans hraw')))

/-- If the step raises the gas price, it is to this. -/
def BumpsTo (price : U256) (config : SubmissionConfig) (p : SubmitterPool ι) (i : ι) : Prop :=
  match (p.tasks i).next? with
  | some (.bumpTracker id) =>
    match newGasPrice config id (p.shared.activeSubmissions id) with
    | .ok (_, price') => price' = price
    | .error _ => True
  | _ => True

instance (price : U256) (config : SubmissionConfig) (p : SubmitterPool ι) (i : ι) :
    Decidable (BumpsTo price config p i) := by
  unfold BumpsTo
  split
  · split <;> infer_instance
  · infer_instance

theorem BumpsTo.priceAsSigned {fee : U256} {n : ℕ} (E : Ethers Wallet Signature)
    (p : SubmitterPool (Fin (n + 1)))
    (i : Fin (n + 1)) (h : BumpsTo fee config p i) : PriceAsSigned E config (resubmissions fee) p i := by
  intro id tracker price first hnext hprice ⟨j, path, uuid, hj, _⟩ tx htx _
  simp only [BumpsTo, hnext, hprice] at h
  unfold resubmissions at hj
  split at hj
  · cases hj
    simp only [Bundle.ownTransactions, sampleBundle, BuildCall.bundle, List.append_nil,
      List.mem_singleton] at htx
    rw [htx, h]
    rfl
  · cases hj

/-- A resubmission that raises the gas price to what the bundle was signed with. -/
theorem bumped_transactions_match_once :
    BumpsSigned Ethers.sample (resubmissions 220000000000)
      (resubmissionRun 220000000000 .accepting ([0, 0, 0, 1, 1, 1, 1] : List (Fin 2))) :=
  bumped_transactions_match (by unfold FreshIds; decide) (fun _ => rfl)
    ((Pool.reach_of_admits (by decide +kernel)).mono (BumpsTo.priceAsSigned Ethers.sample))

/-- **A bumped transaction is not signed**: the fields say 220 gwei after the first
resubmission, and the bytes 200. -/
theorem bumped_transaction_unsigned :
    Pool.Reach (submitterHandler .default) Pool.AnyStep (resubmissionRun 200000000000 .accepting [])
        (resubmissionRun 200000000000 .accepting ([0, 0, 0, 1, 1, 1, 1] : List (Fin 2))) ∧
      ¬ BumpsSigned Ethers.sample (resubmissions 200000000000)
        (resubmissionRun 200000000000 .accepting ([0, 0, 0, 1, 1, 1, 1] : List (Fin 2))) := by
  refine ⟨Pool.reach_runSchedule _ _, fun h => ?_⟩
  have htracked : (resubmissionRun 200000000000 .accepting
        ([0, 0, 0, 1, 1, 1, 1] : List (Fin 2))).shared.activeSubmissions "sub_0" =
      some (trackerOf ((sampleBundle 200000000000).withGasPrice 220000000000) ["0xhash", "0xhash"]) := by
    decide +kernel
  have hfirst : Submitted (resubmissions 200000000000 (n := 1)) "sub_0" (sampleBundle 200000000000) :=
    ⟨0, .direct, "0", rfl, by decide⟩
  obtain ⟨_, ⟨⟩, -, -, -, hraw⟩ :=
    (h "sub_0" _ hfirst).1 _ htracked 0 _ _ rfl ⟨(), (), rfl, rfl, rfl, rfl⟩ rfl
  exact absurd hraw (by decide)

end Botmev.Bundles
