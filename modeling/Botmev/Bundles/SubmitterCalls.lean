import Botmev.Bundles.Strategies
import Botmev.Bundles.Submitter

/-!
# Calls on the submitter

Any number of `submit_bundle` and `resubmit_with_gas_bump` calls on one submitter,
interleaved at their requests and their sections under the lock, with any answers from
the node and the endpoint.

## What is proved

* `SubmitterCall.follows`: seen from outside, a submission sends and then, once, tracks
  what it sent under an id of its own; a resubmission first goes to the tracker for its
  bundle.
* `bumpTracker_ok`, `bumpTracker_error`: what a resubmission does at the tracker.
-/

namespace Botmev.Bundles

open Botmev.Rust Botmev.Library

variable {ι : Type}

/-- A call on the submitter. -/
inductive SubmitterCall where
  /-- `submit_bundle`, with the fresh `uuid`. -/
  | submit (bundle : Bundle) (path : SubmissionPath) (uuid : String)
  /-- `resubmit_with_gas_bump`. -/
  | resubmit (submissionId : String)

/-- The ids that a submission may be tracked under. -/
def submissionIds (uuid : String) : List String :=
  ["sub_" ++ uuid, "sub_" ++ uuid ++ "_direct", "sub_" ++ uuid ++ "_bundle"]

namespace SubmitterCall

/-- The call. -/
def task (config : SubmissionConfig) : SubmitterCall → SubmitterM SubmissionResult
  | .submit bundle path uuid => submitBundle config bundle path uuid
  | .resubmit submissionId => resubmitWithGasBump submissionId

/-- The ids that the call makes up. -/
def freshIds : SubmitterCall → List String
  | .submit _ _ uuid => submissionIds uuid
  | .resubmit _ => []

/-- It is a resubmission. -/
def isResubmission : SubmitterCall → Bool
  | .submit _ _ _ => false
  | .resubmit _ => true

end SubmitterCall

/-- What a `uuid` is for: no two calls make up the same id. -/
def FreshIds (calls : ι → SubmitterCall) : Prop :=
  ∀ i j, i ≠ j → ∀ id ∈ (calls i).freshIds, id ∉ (calls j).freshIds

/-- Calls on one submitter, in the middle of running. -/
abbrev SubmitterPool (ι : Type) := Pool SubmitterI Failure SubmissionResult SubmitterState ι

/-! ### The protocol of the calls -/

/-- Where a call is. -/
inductive CallPhase where
  /-- A submission that is not tracked yet. -/
  | submitting (bundle : Bundle) (uuid : String)
  /-- A submission that is tracked. -/
  | submitted (submissionId : String)
  /-- A resubmission that has not been at the tracker. -/
  | resubmitting (submissionId : String)
  /-- A resubmission without a tracker, or without attempts left. -/
  | refused (submissionId : String)
  /-- A resubmission that is to send the bundle. -/
  | bumped (submissionId : String) (bundle : Bundle)
  /-- A resubmission that is tracked. -/
  | resubmitted (submissionId : String)

/-- What a call may ask for. -/
inductive CallMove : CallPhase → (op : SubmitterOp) → SubmitterI.Reply op → CallPhase → Prop
  /-- A transaction goes out. -/
  | sendRaw {φ : CallPhase} {payload : String} {answer : RpcAnswer} :
      CallMove φ (.sendRawTransaction payload) answer φ
  /-- A bundle goes out. -/
  | sendBundle {φ : CallPhase} {endpoint : String} {data : BundleData} {answer : RpcAnswer} :
      CallMove φ (.sendBundle endpoint data) answer φ
  /-- One of two ways is ready. -/
  | ready {φ : CallPhase} {b : Bool} : CallMove φ .ready b φ
  /-- A submission is tracked. -/
  | track {bundle : Bundle} {uuid submissionId : String} {hashes : List String}
      (hid : submissionId ∈ submissionIds uuid) :
      CallMove (.submitting bundle uuid) (.insertTracker submissionId (trackerOf bundle hashes)) ()
        (.submitted submissionId)
  /-- A resubmission gets its bundle. -/
  | bump {submissionId : String} {bundle : Bundle} :
      CallMove (.resubmitting submissionId) (.bumpTracker submissionId) (.ok bundle) (.bumped submissionId bundle)
  /-- A resubmission gets none. -/
  | refuse {submissionId : String} {e : Failure} :
      CallMove (.resubmitting submissionId) (.bumpTracker submissionId) (.error e) (.refused submissionId)
  /-- A resubmission is tracked. -/
  | retrack {submissionId : String} {bundle : Bundle} {hashes : List String} :
      CallMove (.bumped submissionId bundle) (.insertTracker submissionId (trackerOf bundle hashes)) ()
        (.resubmitted submissionId)

/-- The protocol of the calls. -/
@[reducible] def callProtocol : Protocol SubmitterI where
  Phase := CallPhase
  legal _ _ := True
  move := CallMove

/-- A call that succeeds is tracked. -/
def CallEnds (φ : CallPhase) (r : Result SubmissionResult) : Prop :=
  ∀ result, r = .ok result → ∃ submissionId, φ = .submitted submissionId ∨ φ = .resubmitted submissionId

theorem callEnds_error {φ : CallPhase} (e : Failure) : CallEnds φ (.error e) := fun _ h => by cases h

/-- The first phase of a call. -/
def SubmitterCall.phase : SubmitterCall → CallPhase
  | .submit bundle _ uuid => .submitting bundle uuid
  | .resubmit submissionId => .resubmitting submissionId

/-- The phase is one of the call's. -/
def CallPhase.Fits (φ : CallPhase) : SubmitterCall → Prop
  | .submit bundle _ uuid => φ = .submitting bundle uuid ∨ ∃ id ∈ submissionIds uuid, φ = .submitted id
  | .resubmit id => φ = .resubmitting id ∨ φ = .refused id ∨ (∃ bundle, φ = .bumped id bundle) ∨
      φ = .resubmitted id

theorem SubmitterCall.phase_fits (call : SubmitterCall) : call.phase.Fits call := by
  cases call <;> exact .inl rfl

theorem CallMove.fits {φ φ' : CallPhase} {op : SubmitterOp} {reply : SubmitterI.Reply op}
    {call : SubmitterCall}
    (hm : CallMove φ op reply φ') (h : φ.Fits call) : φ'.Fits call := by
  cases hm with
  | sendRaw | sendBundle | ready => exact h
  | track hid =>
    cases call <;> rcases h with h | h
    · cases h
      exact .inr ⟨_, hid, rfl⟩
    · obtain ⟨_, -, h⟩ := h
      cases h
    · cases h
    · rcases h with h | ⟨_, h⟩ | h <;> cases h
  | bump | refuse | retrack =>
    cases call <;> rcases h with h | h
    · cases h
    · obtain ⟨_, -, h⟩ := h
      cases h
    · cases h <;> simp [CallPhase.Fits]
    · rcases h with h | ⟨_, h⟩ | h <;> cases h <;> simp [CallPhase.Fits]

/-- After a move of one call, every call is in a phase of its own. -/
theorem CallMove.fits_update [DecidableEq ι] {calls : ι → SubmitterCall} {φ : ι → CallPhase} {i : ι}
    {φ₀ φ' : CallPhase} {op : SubmitterOp} {reply : SubmitterI.Reply op} (hm : CallMove φ₀ op reply φ')
    (hφi : φ i = φ₀) (hfits : ∀ j, (φ j).Fits (calls j)) (j : ι) : (Function.update φ i φ' j).Fits (calls j) := by
  revert j
  rw [Function.forall_update_iff φ fun j φ => φ.Fits (calls j)]
  exact ⟨hm.fits (hφi ▸ hfits i), fun j _ => hfits j⟩

theorem CallPhase.Fits.mem_freshIds {id : String} {call : SubmitterCall}
    (h : (CallPhase.submitted id).Fits call) : id ∈ call.freshIds := by
  cases call with
  | submit bundle path uuid =>
    rcases h with h | ⟨id', hid', h⟩
    · cases h
    · cases h
      exact hid'
  | resubmit submissionId => rcases h with h | h | ⟨_, h⟩ | h <;> cases h

theorem CallPhase.Fits.eq_submit {bundle : Bundle} {uuid : String} {call : SubmitterCall}
    (h : (CallPhase.submitting bundle uuid).Fits call) : ∃ path, call = .submit bundle path uuid := by
  cases call with
  | submit bundle path uuid =>
    rcases h with h | ⟨_, -, h⟩
    · cases h
      exact ⟨path, rfl⟩
    · cases h
  | resubmit submissionId => rcases h with h | h | ⟨_, h⟩ | h <;> cases h

theorem CallPhase.Fits.eq_resubmit {bundle : Bundle} {id : String} {call : SubmitterCall}
    (h : (CallPhase.bumped id bundle).Fits call) : call = .resubmit id := by
  cases call with
  | submit bundle path uuid =>
    rcases h with h | ⟨_, -, h⟩ <;> cases h
  | resubmit submissionId =>
    rcases h with h | h | ⟨_, h⟩ | h <;> cases h
    rfl

variable {config : SubmissionConfig} {bundle : Bundle} {submissionId : String} {φ φ' : CallPhase}

theorem sendAll_followsTo (txs : List SignedTransaction) :
    callProtocol.FollowsTo (fun φ' _ => φ' = φ) φ (sendAll txs) := by
  induction txs with
  | nil => rfl
  | cons tx txs ih =>
    refine Protocol.FollowsTo.bind ?_ (fun hash => ih.bind (fun _ => rfl) fun _ => rfl) fun _ => rfl
    exact fun answer _ => .inl ⟨.sendRaw, rfl⟩

theorem submitDirect_followsTo
    (htrack : ∀ hashes, CallMove φ (.insertTracker submissionId (trackerOf bundle hashes)) () φ')
    (hends : ∀ r, CallEnds φ' r) :
    callProtocol.FollowsTo CallEnds φ (submitDirect bundle submissionId) := by
  refine (sendAll_followsTo bundle.allTransactions).bind (fun hashes => ?_) callEnds_error
  exact fun _ _ => .inr ⟨φ', _, htrack hashes, rfl, hends _⟩

theorem submitBundleRpc_followsTo
    (htrack : ∀ hashes, CallMove φ (.insertTracker submissionId (trackerOf bundle hashes)) () φ')
    (hends : ∀ r, CallEnds φ' r) :
    callProtocol.FollowsTo CallEnds φ (submitBundleRpc config bundle submissionId) := by
  unfold submitBundleRpc
  rcases okOr "Bundle RPC endpoint not configured" config.bundleRpcEndpoint with e | endpoint
  · exact callEnds_error e
  intro answer _
  refine .inl ⟨.sendBundle, ?_⟩
  show callProtocol.FollowsTo CallEnds φ (liftM (answer.result _ _) >>= _)
  rcases answer.result "Bundle RPC error: " "Invalid bundle RPC response" with e | hash
  · exact callEnds_error e
  · exact fun _ _ => .inr ⟨φ', _, htrack [hash], rfl, hends _⟩

theorem callEnds_tracked (submissionId : String) (r : Result SubmissionResult) :
    CallEnds (.submitted submissionId) r ∧ CallEnds (.resubmitted submissionId) r :=
  ⟨fun _ _ => ⟨_, .inl rfl⟩, fun _ _ => ⟨_, .inr rfl⟩⟩

/-- **A call follows the protocol.** -/
theorem SubmitterCall.follows (config : SubmissionConfig) (call : SubmitterCall) :
    callProtocol.Follows CallEnds call.phase (call.task config) := by
  cases call with
  | submit bundle path uuid =>
    refine Protocol.FollowsTo.follows ?_
    have htrack : ∀ id ∈ submissionIds uuid, ∀ hashes,
        CallMove (.submitting bundle uuid) (.insertTracker id (trackerOf bundle hashes)) () (.submitted id) :=
      fun id hid hashes => .track hid
    have hends : ∀ id r, CallEnds (.submitted id) r := fun id r => (callEnds_tracked id r).1
    cases path with
    | direct => exact submitDirect_followsTo (htrack _ (by simp [submissionIds])) (hends _)
    | bundleRpc => exact submitBundleRpc_followsTo (htrack _ (by simp [submissionIds])) (hends _)
    | race =>
      refine Protocol.FollowsTo.select ?_ ?_ (fun b _ => .inl ⟨.ready, rfl⟩) callEnds_error
      · exact submitDirect_followsTo (htrack _ (by simp [submissionIds])) (hends _)
      · exact submitBundleRpc_followsTo (htrack _ (by simp [submissionIds])) (hends _)
  | resubmit submissionId =>
    rintro (e | bundle) _
    · exact ⟨_, .refuse, callEnds_error e⟩
    · refine ⟨_, .bump, Protocol.FollowsTo.follows ?_⟩
      exact submitDirect_followsTo (fun _ => .retrack) fun r => (callEnds_tracked submissionId r).2

/-! ### What the lock section does -/

/-- A resubmission that gets its bundle has found a tracker with attempts left. -/
theorem bumpTracker_ok {s : SubmitterState}
    (h : (submitterHandler config (.bumpTracker submissionId) s).1 = .ok bundle) :
    ∃ tracker price, s.activeSubmissions submissionId = some tracker ∧
      tracker.submissionAttempts < config.maxResubmissions ∧
      newGasPrice config submissionId (s.activeSubmissions submissionId) = .ok (tracker, price) ∧
      bundle = tracker.originalBundle.withGasPrice price ∧
      (submitterHandler config (.bumpTracker submissionId) s).2 = s.track submissionId
        { tracker with
          submissionAttempts := tracker.submissionAttempts + 1
          currentGasPrice := price } := by
  rcases hn : newGasPrice config submissionId (s.activeSubmissions submissionId) with e | ⟨tracker, price⟩
  · simp only [submitterHandler, hn, reduceCtorEq] at h
  simp only [submitterHandler, hn, Except.ok.injEq] at h ⊢
  have hnew := hn
  simp only [newGasPrice, bind_eq_ok_iff, okOr_eq_ok_iff] at hnew
  obtain ⟨tracker', htracker, hnew⟩ := hnew
  split at hnew
  · cases hnew
  · rename_i hlimit
    obtain ⟨price', -, hpair⟩ := bind_eq_ok_iff.mp hnew
    cases hpair
    exact ⟨tracker, price, htracker, BitVec.not_le.mp hlimit, rfl, h.symm, rfl⟩

theorem bumpTracker_error {s : SubmitterState} {e : Failure}
    (h : (submitterHandler config (.bumpTracker submissionId) s).1 = .error e) :
    (submitterHandler config (.bumpTracker submissionId) s).2 = s := by
  rcases hn : newGasPrice config submissionId (s.activeSubmissions submissionId) with e | ⟨tracker, price⟩
  · simp only [submitterHandler, hn]
  · simp only [submitterHandler, hn, reduceCtorEq] at h

/-! ### For the examples -/

/-- A bundle: a transaction of the bot, signed with the fee, before one of somebody else. -/
def sampleBundle (fee : U256) : Bundle :=
  (BuildCall.sandwich sampleTarget).bundle
    [signedTransaction Ethers.sample 0xa11ce (some 0)
      (eip1559Request 998 (contractCall 200000 [0xf0, 0x0d, 0xfa, 0xce]) 0 fee 2000000000) ()]
    (signedTransaction Ethers.sample 0xb0b (some 0)
      (eip1559Request 998 (contractCall 200000 []) 7 50000000000 2000000000) ())
    []

/-- The bundle is submitted, and then resubmitted by calls one after another. -/
def resubmissions (fee : U256) {n : ℕ} (i : Fin (n + 1)) : SubmitterCall :=
  if i = 0 then .submit (sampleBundle fee) .direct "0" else .resubmit "sub_0"

/-- The run with the calls' turns in the given order. -/
def resubmissionRun (fee : U256) {n : ℕ} (s : SubmitterState) (turns : List (Fin (n + 1))) :
    SubmitterPool (Fin (n + 1)) :=
  .runSchedule (submitterHandler .default) turns (.start s fun i => (resubmissions fee i).task .default)

end Botmev.Bundles
