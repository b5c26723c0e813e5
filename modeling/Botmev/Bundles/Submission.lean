import Botmev.Bundles.Building
import Botmev.Bundles.Submitter

/-!
# Submitting what was built

The bot's own transactions of a bundle carry the bytes that the signer made of them. The
target carries none: the builder leaves its `raw_transaction` empty. Both ways of
submission take the bytes of every transaction of the bundle as they are.

## What is proved

* `ownTransactions_match`: what the builder puts into a bundle as the bot's own is signed.
* `built_bundle_not_submittable`: no bundle it returns can go out: on either way, what
  goes out for the target is `0x`.
* `front_run_exposed`: a node that does not accept that has got the bot's transactions
  before the target by then, and will not get those after it.
-/

namespace Botmev.Bundles

open Botmev.Rust Botmev.Library Botmev.Core

variable {Wallet Signature : Type} {E : Ethers Wallet Signature}

/-! ### Signed bytes -/

/-- The transaction that the fields describe. -/
def SignedTransaction.request (tx : SignedTransaction) : Eip1559TransactionRequest where
  toAddress := tx.toAddress.getD 0
  value := tx.value
  gas := tx.gasLimit
  maxFeePerGas := tx.maxFeePerGas
  maxPriorityFeePerGas := tx.maxPriorityFeePerGas
  nonce := tx.nonce
  data := tx.data
  chainId := tx.chainId

variable (E) in
/-- The hash and the bytes are those of the transaction that the fields describe, signed
by its sender. -/
def SignedTransaction.Matches (tx : SignedTransaction) : Prop :=
  ∃ wallet signature, E.address wallet = tx.fromAddress ∧
    E.signTransaction wallet tx.request = .ok signature ∧
    tx.hash = E.hash tx.request signature ∧ tx.rawTransaction = E.rlpSigned tx.request signature

theorem SignedFrom.matches {chainId : U64} {fees : Fees} {wallet : Wallet} {n : ℕ}
    {templates : List TransactionTemplate} {signedTxs : List SignedTransaction}
    (h : SignedFrom E chainId fees wallet n templates signedTxs) : ∀ tx ∈ signedTxs, tx.Matches E := by
  induction templates generalizing n signedTxs with
  | nil =>
    cases h
    intro tx htx
    cases htx
  | cons template templates ih =>
    obtain ⟨nonce, signedTx, signedTxs, -, hs, hrest, rfl⟩ := h
    intro tx htx
    rcases List.mem_cons.mp htx with rfl | htx
    · obtain ⟨-, signature, hsig, rfl⟩ := signWith_eq_ok hs
      exact ⟨wallet, signature, rfl, hsig, rfl, rfl⟩
    · exact ih hrest tx htx

variable {B : BundleBuilder Wallet Signature} {call : BuildCall} {s s' : SignerState Wallet}
  {bundle : Bundle}

/-- **The bot's own transactions are signed.** -/
theorem ownTransactions_match (hr : (B.buildBundleWithParams call).run signerHandler s = (.ok bundle, s')) :
    ∀ tx ∈ bundle.ownTransactions, tx.Matches B.ethers := by
  obtain ⟨plan, wallet, -, -, h⟩ := allocated_of_run hr
  intro tx htx
  rcases List.mem_append.mp htx with htx | htx
  · exact h.pre.matches tx htx
  · exact h.post.matches tx htx

/-- **The target has no bytes.** -/
theorem target_rawTransaction (hr : (B.buildBundleWithParams call).run signerHandler s = (.ok bundle, s')) :
    bundle.targetTransaction.rawTransaction = [] := by
  obtain ⟨plan, wallet, -, -, h⟩ := allocated_of_run hr
  have ht := h.target
  simp only [createTargetSignedTransaction, bind_eq_ok_iff] at ht
  obtain ⟨_, -, _, -, _, -, _, -, _, -, _, -, _, -, ht⟩ := ht
  rw [← Except.ok.inj ht]

/-! ### Sending -/

/-- The node accepts the next `n` transactions. -/
def NodeAccepts (t : SubmitterState) (n : ℕ) : Prop :=
  ∀ k < n, ∃ hash, t.node k = .response none (some hash)

/-- The node has been sent more. -/
def SubmitterState.asked (t : SubmitterState) (payloads : List String) : SubmitterState :=
  { t with node := fun i => t.node (i + payloads.length), sent := t.sent ++ payloads }

theorem SubmitterState.asked_asked (t : SubmitterState) (xs ys : List String) :
    (t.asked xs).asked ys = t.asked (xs ++ ys) := by
  have hnode : (fun i => t.node (i + ys.length + xs.length)) = fun i => t.node (i + (xs.length + ys.length)) := by
    funext i
    rw [Nat.add_assoc, Nat.add_comm ys.length]
  simp only [asked, List.append_assoc, List.length_append, hnode]

theorem RpcAnswer.result_eq_ok_iff {answer : RpcAnswer} {what invalid hash : String} :
    answer.result what invalid = .ok hash ↔ answer = .response none (some hash) := by
  rcases answer with e | ⟨_ | e, _ | result⟩ <;> simp [RpcAnswer.result]

variable (config : SubmissionConfig) {t : SubmitterState} {txs : List SignedTransaction}

theorem run_sendRawTransaction (tx : SignedTransaction) :
    (sendRawTransaction tx).run (submitterHandler config) t =
      ((t.node 0).result "RPC error: " "Invalid RPC response", t.asked [tx.payload]) := rfl

theorem run_sendAll_of_accepts (h : NodeAccepts t txs.length) :
    ∃ hashes, (sendAll txs).run (submitterHandler config) t = (.ok hashes, t.asked (txs.map (·.payload))) := by
  induction txs generalizing t with
  | nil =>
    refine ⟨[], ?_⟩
    simp [sendAll, SubmitterState.asked]
  | cons tx txs ih =>
    obtain ⟨hash, hhash⟩ := h 0 (Nat.succ_pos _)
    have hsend : (sendRawTransaction tx).run (submitterHandler config) t =
        (.ok hash, t.asked [tx.payload]) := by
      rw [run_sendRawTransaction, RpcAnswer.result_eq_ok_iff.mpr hhash]
    obtain ⟨hashes, hrest⟩ := ih (t := t.asked [tx.payload]) fun k hk => h (k + 1) (Nat.succ_lt_succ hk)
    refine ⟨hash :: hashes, ?_⟩
    rw [sendAll, Async.run_bind_of_ok _ hsend, Async.run_bind_of_ok _ hrest, SubmitterState.asked_asked]
    rfl

/-- To a node that does not, everything goes out up to what it does not accept. -/
theorem run_sendAll_of_rejects {j : ℕ} (hj : j < txs.length) (h : NodeAccepts t j)
    (hreject : ∀ hash, t.node j ≠ .response none (some hash)) :
    ∃ e, (sendAll txs).run (submitterHandler config) t =
      (.error e, t.asked ((txs.take (j + 1)).map (·.payload))) := by
  induction j generalizing t txs with
  | zero =>
    rcases txs with _ | ⟨tx, txs⟩
    · cases hj
    rcases hr : (t.node 0).result "RPC error: " "Invalid RPC response" with e | hash
    · have hsend : (sendRawTransaction tx).run (submitterHandler config) t =
          (.error e, t.asked [tx.payload]) := by
        rw [run_sendRawTransaction, hr]
      exact ⟨e, Async.run_bind_of_error _ hsend⟩
    · exact absurd (RpcAnswer.result_eq_ok_iff.mp hr) (hreject hash)
  | succ j ih =>
    rcases txs with _ | ⟨tx, txs⟩
    · cases hj
    obtain ⟨hash, hhash⟩ := h 0 (Nat.succ_pos _)
    have hsend : (sendRawTransaction tx).run (submitterHandler config) t =
        (.ok hash, t.asked [tx.payload]) := by
      rw [run_sendRawTransaction, RpcAnswer.result_eq_ok_iff.mpr hhash]
    obtain ⟨e, hrest⟩ := ih (t := t.asked [tx.payload]) (Nat.lt_of_succ_lt_succ hj)
      (fun k hk => h (k + 1) (Nat.succ_lt_succ hk)) hreject
    refine ⟨e, ?_⟩
    rw [sendAll, Async.run_bind_of_ok _ hsend, Async.run_bind_of_error _ hrest, SubmitterState.asked_asked]
    rfl

/-- A node accepts everything, or there is a first transaction that it does not. -/
theorem accepts_or_rejects (t : SubmitterState) (n : ℕ) :
    NodeAccepts t n ∨ ∃ j < n, NodeAccepts t j ∧ ∀ hash, t.node j ≠ .response none (some hash) := by
  induction n with
  | zero => exact .inl fun k hk => by cases hk
  | succ n ih =>
    rcases ih with h | ⟨j, hj, h⟩
    · by_cases hn : ∃ hash, t.node n = .response none (some hash)
      · refine .inl fun k hk => ?_
        rcases Nat.lt_succ_iff_lt_or_eq.mp hk with hk | rfl
        · exact h k hk
        · exact hn
      · exact .inr ⟨n, Nat.lt_succ_self n, h, fun hash hh => hn ⟨hash, hh⟩⟩
    · exact .inr ⟨j, Nat.lt_succ_of_lt hj, h⟩

/-- A direct submission succeeds, and is tracked, if the node accepts everything. -/
theorem run_submitDirect_of_accepts (id : String) (h : NodeAccepts t bundle.allTransactions.length) :
    ∃ hashes, (submitDirect bundle id).run (submitterHandler config) t =
      (.ok (resultOf bundle (",".intercalate hashes)),
        (t.asked (bundle.allTransactions.map (·.payload))).track id (trackerOf bundle hashes)) := by
  obtain ⟨hashes, hrun⟩ := run_sendAll_of_accepts config h
  refine ⟨hashes, ?_⟩
  rw [submitDirect, Async.run_bind_of_ok _ hrun]
  rfl

theorem run_submitDirect_of_rejects (id : String) {j : ℕ} (hj : j < bundle.allTransactions.length)
    (h : NodeAccepts t j) (hreject : ∀ hash, t.node j ≠ .response none (some hash)) :
    ∃ e, (submitDirect bundle id).run (submitterHandler config) t =
      (.error e, t.asked ((bundle.allTransactions.take (j + 1)).map (·.payload))) := by
  obtain ⟨e, hrun⟩ := run_sendAll_of_rejects config hj h hreject
  exact ⟨e, Async.run_bind_of_error _ hrun⟩

/-! ### What goes out -/

variable (E) in
/-- What goes out is the signed encoding of the transaction, and not empty. -/
def SignedPayload (tx : SignedTransaction) (payload : String) : Prop :=
  ∃ signature, E.rlpSigned tx.request signature ≠ [] ∧
    payload = hexEncode0x (E.rlpSigned tx.request signature)

/-- Whatever the node answers, all that `submit_direct` sends for the bundle, transaction
by transaction, is signed. -/
def DirectSubmittable (E : Ethers Wallet Signature) (config : SubmissionConfig) (bundle : Bundle) : Prop :=
  ∀ id t payload tx, (payload, tx) ∈
      (((submitDirect bundle id).run (submitterHandler config) t).2.sent.drop t.sent.length).zip
        bundle.allTransactions →
    SignedPayload E tx payload

/-- All that `prepare_bundle_data` lists for the bundle is signed. -/
def BundleDataSubmittable (E : Ethers Wallet Signature) (bundle : Bundle) : Prop :=
  ∀ payload tx, (payload, tx) ∈ (prepareBundleData bundle).txs.zip bundle.allTransactions →
    SignedPayload E tx payload

theorem not_signedPayload_of_nil {tx : SignedTransaction} (h : tx.rawTransaction = []) :
    ¬ SignedPayload E tx tx.payload := by
  rintro ⟨signature, hne, hpayload⟩
  rw [SignedTransaction.payload, h] at hpayload
  exact hne (hexEncode0x_eq_nil_iff.mp hpayload.symm)

theorem target_mem_zip (bundle : Bundle) :
    (bundle.targetTransaction.payload, bundle.targetTransaction) ∈
      (bundle.allTransactions.map (·.payload)).zip bundle.allTransactions := by
  have hmem : bundle.targetTransaction ∈ bundle.allTransactions := by simp [Bundle.allTransactions]
  rw [List.zip_map_left]
  refine List.mem_map.mpr ⟨(bundle.targetTransaction, bundle.targetTransaction), ?_, rfl⟩
  obtain ⟨k, hk, hget⟩ := List.getElem_of_mem hmem
  refine List.mem_iff_getElem.mpr ⟨k, by simpa using hk, ?_⟩
  rw [List.getElem_zip, hget]

/-- **No bundle the builder returns can be submitted**: on both ways, what goes out for
the target is not its signed encoding, but `0x`. -/
theorem built_bundle_not_submittable
    (hr : (B.buildBundleWithParams call).run signerHandler s = (.ok bundle, s')) :
    ¬ DirectSubmittable B.ethers config bundle ∧ ¬ BundleDataSubmittable B.ethers bundle := by
  have htarget := not_signedPayload_of_nil (E := B.ethers) (target_rawTransaction hr)
  constructor
  · intro h
    -- A node that accepts everything gets everything.
    have haccepts : NodeAccepts .accepting bundle.allTransactions.length := fun k _ => ⟨"0xhash", rfl⟩
    obtain ⟨hashes, hrun⟩ := run_submitDirect_of_accepts config "" haccepts
    refine htarget (h "" .accepting _ _ ?_)
    rw [hrun]
    exact target_mem_zip bundle
  · exact fun h => htarget (h _ _ (target_mem_zip bundle))

/-- A sandwich. -/
theorem built_sandwich_not_submittable :
    ∃ bundle s', sandwichBuild sampleTarget = (.ok bundle, s') ∧
      ¬ DirectSubmittable Ethers.sample .default bundle ∧ ¬ BundleDataSubmittable Ethers.sample bundle := by
  obtain ⟨x, hx⟩ := exists_ok_of_isOk sandwichBuild_isOk
  have hrun : sandwichBuild sampleTarget = (.ok x, (sandwichBuild sampleTarget).2) := Prod.ext hx rfl
  exact ⟨x, _, hrun, built_bundle_not_submittable .default hrun⟩

/-- **What goes out for the target of a sandwich**, between the bot's two transactions. -/
theorem sandwich_sends_0x :
    (sandwichBuild sampleTarget).1.map (fun bundle => (prepareBundleData bundle).txs[1]?) =
        .ok (some "0x") ∧
      (sandwichBuild sampleTarget).1.map (fun bundle =>
          ((submitDirect bundle "sub_0").run (submitterHandler .default) .accepting).2.sent[1]?) =
        .ok (some "0x") ∧
      ∀ tx, ¬ SignedPayload Ethers.sample tx "0x" := by
  refine ⟨by decide, by decide, ?_⟩
  rintro tx ⟨signature, hne, hpayload⟩
  exact hne (hexEncode0x_eq_nil_iff.mp hpayload.symm)

/-- **The front run is exposed**: where the node accepts the bot's transactions before the
target and not what goes out for the target, the submission fails when those are out, and
before those after the target. -/
theorem front_run_exposed (id : String)
    (hr : (B.buildBundleWithParams call).run signerHandler s = (.ok bundle, s'))
    (h : NodeAccepts t bundle.preTransactions.length)
    (hreject : ∀ hash, t.node bundle.preTransactions.length ≠ .response none (some hash)) :
    ∃ e, (submitDirect bundle id).run (submitterHandler config) t =
      (.error e, t.asked (bundle.preTransactions.map (·.payload) ++ ["0x"])) := by
  have hlt : bundle.preTransactions.length < bundle.allTransactions.length := by
    simp [Bundle.allTransactions]
  obtain ⟨e, hrun⟩ := run_submitDirect_of_rejects config id hlt h hreject
  refine ⟨e, ?_⟩
  have htake : bundle.allTransactions.take (bundle.preTransactions.length + 1) =
      bundle.preTransactions ++ [bundle.targetTransaction] := by
    rw [Bundle.allTransactions, List.take_left' (by simp)]
  have hpayload : bundle.targetTransaction.payload = "0x" := by
    rw [SignedTransaction.payload, target_rawTransaction hr]
    rfl
  rw [hrun, htake, List.map_append, List.map_singleton, hpayload]

end Botmev.Bundles
