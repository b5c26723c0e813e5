import Botmev.Bundles.Submission
import Botmev.Bundles.SubmitterCalls

/-!
# Submitting both ways at once

`submit_race` returns what the first of the two ways to return returns, also when that is
an error; the other way is dropped. Without a bundle endpoint, the way to it returns at
once.

## What is proved

* `submitRace_run`: the result is that of the way that returns first, by itself.
* `race_fails_only_if_both_iff`: so the race fails only if both ways do, just when the
  first to return does not fail where the other would not.
* `race_without_endpoint`: without a bundle endpoint the race always fails.
-/

namespace Botmev.Bundles

open Botmev.Rust Botmev.Library

variable {config : SubmissionConfig} {bundle : Bundle} {id : String} {t : SubmitterState}

/-- The endpoint is there, and accepts the bundle. -/
def EndpointAccepts (config : SubmissionConfig) (t : SubmitterState) : Prop :=
  config.bundleRpcEndpoint ≠ none ∧ ∃ hash, t.endpoint 0 = .response none (some hash)

/-- The direct way returns before the other. -/
def directFirst (config : SubmissionConfig) (bundle : Bundle) (id : String) (t : SubmitterState) : Bool :=
  Async.leftFirst t.order ((submitDirect bundle (id ++ "_direct")).steps (submitterHandler config) t)
    ((submitBundleRpc config bundle (id ++ "_bundle")).steps (submitterHandler config) t)

/-- The race fails only if both ways, each by itself, fail. -/
def FailsOnlyIfBoth (config : SubmissionConfig) (bundle : Bundle) (id : String)
    (t : SubmitterState) : Prop :=
  ∀ e, ((submitRace config bundle id).run (submitterHandler config) t).1 = .error e →
    (∃ e', ((submitDirect bundle (id ++ "_direct")).run (submitterHandler config) t).1 = .error e') ∧
      ∃ e', ((submitBundleRpc config bundle (id ++ "_bundle")).run (submitterHandler config) t).1 = .error e'

/-! ### The two ways by themselves -/

/-- The direct way fails just when the node does not accept everything. -/
theorem submitDirect_fails_iff :
    (∃ e, ((submitDirect bundle id).run (submitterHandler config) t).1 = .error e) ↔
      ¬ NodeAccepts t bundle.allTransactions.length := by
  rcases accepts_or_rejects t bundle.allTransactions.length with h | ⟨j, hj, h, hreject⟩
  · obtain ⟨hashes, hrun⟩ := run_submitDirect_of_accepts config id h
    rw [hrun]
    refine iff_of_false ?_ (not_not_intro h)
    rintro ⟨_, he⟩
    cases he
  · obtain ⟨e, hrun⟩ := run_submitDirect_of_rejects config id hj h hreject
    rw [hrun]
    refine iff_of_true ⟨e, rfl⟩ fun hall => ?_
    obtain ⟨hash, hhash⟩ := hall j hj
    exact hreject hash hhash

/-- The other way fails just when there is no endpoint, or it does not accept. -/
theorem submitBundleRpc_fails_iff :
    (∃ e, ((submitBundleRpc config bundle id).run (submitterHandler config) t).1 = .error e) ↔
      ¬ EndpointAccepts config t := by
  rcases hend : config.bundleRpcEndpoint with _ | endpoint
  · refine iff_of_true ?_ fun h => h.1 hend
    simp only [submitBundleRpc, hend, okOr, Async.lift_eq, Async.error_bind, Async.run_done]
    exact ⟨_, rfl⟩
  have hrun : ((submitBundleRpc config bundle id).run (submitterHandler config) t).1 =
      ((t.endpoint 0).result "Bundle RPC error: " "Invalid bundle RPC response").map (resultOf bundle) := by
    simp only [submitBundleRpc, hend, okOr, Async.lift_eq, Async.ok_bind, Async.request, Async.await_bind,
      Async.run_await, submitterHandler]
    rcases (t.endpoint 0).result "Bundle RPC error: " "Invalid bundle RPC response" with e | hash <;> rfl
  rw [hrun]
  rcases hanswer : (t.endpoint 0).result "Bundle RPC error: " "Invalid bundle RPC response" with e | hash
  · refine iff_of_true ⟨e, rfl⟩ ?_
    rintro ⟨-, hash, hhash⟩
    rw [RpcAnswer.result_eq_ok_iff.mpr hhash] at hanswer
    cases hanswer
  · refine iff_of_false ?_ (not_not_intro ⟨?_, hash, RpcAnswer.result_eq_ok_iff.mp hanswer⟩)
    · rintro ⟨_, he⟩
      cases he
    · rw [hend]
      exact Option.some_ne_none _

/-! ### The race -/

/-- The direct way sends transactions and tracks. -/
def SubmitterOp.ofDirect : SubmitterOp → Prop
  | .sendRawTransaction _ | .insertTracker _ _ => True
  | _ => False

/-- The other way sends a bundle and tracks. -/
def SubmitterOp.ofBundleRpc : SubmitterOp → Prop
  | .sendBundle _ _ | .insertTracker _ _ => True
  | _ => False

theorem sendAll_within (txs : List SignedTransaction) : (sendAll txs).Within SubmitterOp.ofDirect := by
  induction txs with
  | nil => trivial
  | cons tx txs ih =>
    refine Async.Within.bind ⟨trivial, fun _ => trivial⟩ fun _ => ih.bind fun _ => trivial

theorem submitDirect_within : (submitDirect bundle id).Within SubmitterOp.ofDirect :=
  (sendAll_within bundle.allTransactions).bind fun _ => ⟨trivial, fun _ => trivial⟩

theorem submitBundleRpc_within : (submitBundleRpc config bundle id).Within SubmitterOp.ofBundleRpc := by
  unfold submitBundleRpc
  rcases okOr "Bundle RPC endpoint not configured" config.bundleRpcEndpoint with e | endpoint
  · trivial
  refine ⟨trivial, fun answer => ?_⟩
  show Async.Within _ (liftM (answer.result _ _) >>= _)
  rcases answer.result "Bundle RPC error: " "Invalid bundle RPC response" with e | hash
  · trivial
  · exact ⟨trivial, fun _ => trivial⟩

/-- The two ways do not get in each other's way: the one talks to the node, the other to
the endpoint. -/
theorem separate_ways (config : SubmissionConfig) :
    Async.Separate (submitterHandler config) (Async.request (I := SubmitterI) (ε := Failure) .ready)
      SubmitterOp.ofDirect SubmitterOp.ofBundleRpc SubmitterState.node SubmitterState.endpoint
      SubmitterState.order where
  left op s s' hop hnode := by
    cases op with
    | sendRawTransaction payload =>
      refine ⟨congrFun hnode 0, ?_⟩
      funext i
      exact congrFun hnode (i + 1)
    | insertTracker id tracker => exact ⟨rfl, hnode⟩
    | sendBundle | bumpTracker | ready => exact hop.elim
  right op s s' hop hendpoint := by
    cases op with
    | sendBundle endpoint data =>
      refine ⟨congrFun hendpoint 0, ?_⟩
      funext i
      exact congrFun hendpoint (i + 1)
    | insertTracker id tracker => exact ⟨rfl, hendpoint⟩
    | sendRawTransaction | bumpTracker | ready => exact hop.elim
  left_frame op s hop := by
    cases op with
    | sendRawTransaction | insertTracker => exact ⟨rfl, rfl⟩
    | sendBundle | bumpTracker | ready => exact hop.elim
  right_frame op s hop := by
    cases op with
    | sendBundle | insertTracker => exact ⟨rfl, rfl⟩
    | sendRawTransaction | bumpTracker | ready => exact hop.elim
  pick s := ⟨_, rfl, rfl, rfl, rfl⟩

/-- **The first to return decides.** -/
theorem submitRace_run (config : SubmissionConfig) (bundle : Bundle) (id : String) (t : SubmitterState) :
    ((submitRace config bundle id).run (submitterHandler config) t).1 =
      if directFirst config bundle id t then
        ((submitDirect bundle (id ++ "_direct")).run (submitterHandler config) t).1
      else ((submitBundleRpc config bundle (id ++ "_bundle")).run (submitterHandler config) t).1 :=
  Async.run_select (separate_ways config) submitDirect_within submitBundleRpc_within t

/-- **The race fails only if both ways do** just when the direct way, if it returns first,
has everything accepted or the endpoint does not accept either, and the other way, if that
returns first, has the bundle accepted or the node does not accept everything either. -/
theorem race_fails_only_if_both_iff (config : SubmissionConfig) (bundle : Bundle) (id : String)
    (t : SubmitterState) :
    FailsOnlyIfBoth config bundle id t ↔
      (directFirst config bundle id t = true →
        NodeAccepts t bundle.allTransactions.length ∨ ¬ EndpointAccepts config t) ∧
      (directFirst config bundle id t = false →
        EndpointAccepts config t ∨ ¬ NodeAccepts t bundle.allTransactions.length) := by
  unfold FailsOnlyIfBoth
  rw [submitRace_run, submitDirect_fails_iff, submitBundleRpc_fails_iff, ← exists_imp]
  cases directFirst config bundle id t with
  | true =>
    simp only [if_true, submitDirect_fails_iff, forall_const, reduceCtorEq, false_implies, and_true]
    constructor
    · intro h
      by_cases hnode : NodeAccepts t bundle.allTransactions.length
      · exact .inl hnode
      · exact .inr (h hnode).2
    · intro h hnode
      exact ⟨hnode, h.resolve_left hnode⟩
  | false =>
    simp only [Bool.false_eq_true, if_false, submitBundleRpc_fails_iff, forall_const, false_implies,
      true_and]
    constructor
    · intro h
      by_cases hendpoint : EndpointAccepts config t
      · exact .inl hendpoint
      · exact .inr (h hendpoint).1
    · intro h hendpoint
      exact ⟨h.resolve_left hendpoint, hendpoint⟩

/-- **Without a bundle endpoint the race always fails**, whatever the node would accept. -/
theorem race_without_endpoint (bundle : Bundle) (id : String) (t : SubmitterState)
    (h : config.bundleRpcEndpoint = none) :
    ((submitRace config bundle id).run (submitterHandler config) t).1 =
      .error (.err "Bundle RPC endpoint not configured") := by
  have hrpc : submitBundleRpc config bundle (id ++ "_bundle") =
      .done (.error (.err "Bundle RPC endpoint not configured")) := by
    rw [submitBundleRpc, h]
    rfl
  -- The direct way has a request to wait for, at least for the target.
  have hdirect : ∃ op k, submitDirect bundle (id ++ "_direct") = .await op k := by
    obtain ⟨tx, txs, htxs⟩ : ∃ tx txs, bundle.allTransactions = tx :: txs :=
      List.exists_cons_of_ne_nil (by simp [Bundle.allTransactions])
    rw [submitDirect, htxs]
    exact ⟨_, _, rfl⟩
  obtain ⟨op, k, hdirect⟩ := hdirect
  rw [submitRace, hrpc, hdirect, Async.select_await_done, Async.run_done]

/-- **A node that accepts everything does not help** a submitter with the default
configuration. -/
theorem race_fails_though_node_accepts :
    ¬ FailsOnlyIfBoth .default (sampleBundle 50000000000) "sub_0" .accepting ∧
      ((submitRace .default (sampleBundle 50000000000) "sub_0").run (submitterHandler .default)
        .accepting).1 = .error (.err "Bundle RPC endpoint not configured") ∧
      ((submitDirect (sampleBundle 50000000000) "sub_0_direct").run (submitterHandler .default)
        .accepting).1.isOk = true := by
  have hrace : ((submitRace .default (sampleBundle 50000000000) "sub_0").run (submitterHandler .default)
      .accepting).1 = .error (.err "Bundle RPC endpoint not configured") := by decide
  have hdirect : ((submitDirect (sampleBundle 50000000000) ("sub_0" ++ "_direct")).run
      (submitterHandler .default) .accepting).1.isOk = true := by decide
  refine ⟨fun h => ?_, hrace, hdirect⟩
  obtain ⟨⟨e, he⟩, -⟩ := h _ hrace
  rw [he] at hdirect
  cases hdirect

end Botmev.Bundles
