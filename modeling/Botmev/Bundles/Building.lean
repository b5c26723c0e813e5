import Botmev.Bundles.Strategies
import Mathlib.Data.List.Nodup

/-!
# Building one bundle at a time

What `build_bundle_with_params` returns and leaves when nothing else uses the signer
during the call. The builder and the signer count separately, the one from the starting
nonce on, the other in the tracker; run alone they stay in step, and signing `k`
transactions takes the tracker from `n` to `n + k` (`SignerState.countUp`).

## What is proved

* `sequential_allocation`: a build that succeeds gives its own transactions consecutive
  nonces from the tracked one on, in order, and leaves the tracker after the last; so
  builds one after another use contiguous ranges of nonces.
* `failed_build_keeps_nonces_iff`: a build that fails has left the tracker alone just when
  it had not signed any transaction before. There is no way back:
  `failed_build_leaves_gap`.
-/

namespace Botmev.Bundles

open Botmev.Rust Botmev.Library Botmev.Core

variable {Wallet Signature : Type}

/-! ### The tracker counting up -/

namespace SignerState

variable (s : SignerState Wallet) (address : Address)

/-- The signer after `k` transactions signed with consecutive nonces. -/
def countUp (k : ℕ) : SignerState Wallet :=
  if k = 0 then s else s.insert address (s.tracked address + BitVec.ofNat 256 k)

@[simp] theorem countUp_zero : s.countUp address 0 = s := rfl

@[simp] theorem defaultWallet_countUp (k : ℕ) : (s.countUp address k).defaultWallet = s.defaultWallet := by
  unfold countUp
  split <;> rfl

@[simp] theorem tracked_countUp (k : ℕ) :
    (s.countUp address k).tracked address = s.tracked address + BitVec.ofNat 256 k := by
  unfold countUp
  split
  · rename_i hk
    subst hk
    simp
  · exact tracked_insert_self ..

theorem countUp_countUp (j k : ℕ) :
    (s.countUp address j).countUp address k = s.countUp address (j + k) := by
  by_cases hk : k = 0
  · subst hk
    rfl
  · by_cases hj : j = 0
    · subst hj
      rw [countUp_zero, Nat.zero_add]
    · have hjk : j + k ≠ 0 := by omega
      simp only [countUp, if_neg hj, if_neg hk, if_neg hjk, tracked_insert_self, insert_insert,
        BitVec.add_assoc,
        BitVec.ofNat_add]

variable {s address}

theorem nonceTracker_countUp_of_ne {other : Address} {k : ℕ} (h : other ≠ address) :
    (s.countUp address k).nonceTracker other = s.nonceTracker other := by
  unfold countUp
  split
  · rfl
  · exact nonceTracker_insert_of_ne _ _ h

/-- A tracker that has counted up, and not round, has changed. -/
theorem nonceTracker_countUp_eq_iff {k : ℕ} (hk : k < 2 ^ 256) :
    (∀ a, (s.countUp address k).nonceTracker a = s.nonceTracker a) ↔ k = 0 := by
  constructor
  · intro h
    by_contra h0
    have h := h address
    simp only [countUp, if_neg h0, insert, Function.update_self] at h
    have ht : s.tracked address = s.tracked address + BitVec.ofNat 256 k := by
      conv_lhs => rw [tracked, ← h, Option.getD_some]
    rw [← BitVec.toNat_inj, BitVec.toNat_add, BitVec.toNat_ofNat, Nat.mod_eq_of_lt hk] at ht
    have := (s.tracked address).isLt
    omega
  · rintro rfl a
    rfl

end SignerState

/-! ### Signing -/

section Signing

variable (E : Ethers Wallet Signature) (chainId : U64) (fees : Fees) (wallet : Wallet)

/-- A template signed with a nonce. -/
def signWith (nonce : U256) (template : TransactionTemplate) : Result SignedTransaction := do
  let _ ← U256.asU64 nonce
  let tx := eip1559Request chainId template nonce fees.maxFeePerGas fees.maxPriorityFeePerGas
  let signature ← anyhow (E.signTransaction wallet tx)
  pure (signedTransaction E (E.address wallet) template.toAddress tx signature)

/-- Templates signed with the nonces from `n` on. -/
def SignedFrom : ℕ → List TransactionTemplate → List SignedTransaction → Prop
  | _, [], signedTxs => signedTxs = []
  | n, template :: templates, signedTxs => ∃ nonce signedTx signedTxs', nonce.toNat = n ∧
      signWith E chainId fees wallet nonce template = .ok signedTx ∧
        SignedFrom (n + 1) templates signedTxs' ∧
      signedTxs = signedTx :: signedTxs'

/-- The first of the templates can be signed with the nonce. -/
def FirstSigns (nonce : U256) (templates : List TransactionTemplate) : Prop :=
  ∃ template ∈ templates.head?, ∃ signedTx, signWith E chainId fees wallet nonce template = .ok signedTx

variable {E chainId fees wallet}

/-- What comes of signing is the signed encoding of a transaction with that nonce. -/
theorem signWith_eq_ok {nonce : U256} {template : TransactionTemplate} {signedTx : SignedTransaction}
    (h : signWith E chainId fees wallet nonce template = .ok signedTx) :
    nonce.toNat < 2 ^ 64 ∧ ∃ signature, E.signTransaction wallet
        (eip1559Request chainId template nonce fees.maxFeePerGas fees.maxPriorityFeePerGas) = .ok signature ∧
      signedTx = signedTransaction E (E.address wallet) template.toAddress
        (eip1559Request chainId template nonce fees.maxFeePerGas fees.maxPriorityFeePerGas) signature := by
  simp only [signWith, bind_eq_ok_iff, anyhow_eq_ok_iff] at h
  obtain ⟨n, hn, signature, hs, h⟩ := h
  have := U256.asU64_eq_ok_iff.mp hn
  have := n.isLt
  exact ⟨by omega, signature, hs, (Except.ok.inj h).symm⟩

theorem SignedFrom.nonces {n : ℕ} {templates : List TransactionTemplate}
    {signedTxs : List SignedTransaction}
    (h : SignedFrom E chainId fees wallet n templates signedTxs) :
    signedTxs.map (·.nonce.toNat) = List.range' n templates.length := by
  induction templates generalizing n signedTxs with
  | nil =>
    cases h
    rfl
  | cons template templates ih =>
    obtain ⟨nonce, signedTx, signedTxs, hn, hs, hrest, rfl⟩ := h
    obtain ⟨-, signature, -, rfl⟩ := signWith_eq_ok hs
    rw [List.map_cons, ih hrest, List.length_cons, List.range'_succ]
    exact congrArg (· :: _) hn

variable (chainId fees) in
theorem run_signTransaction (template : TransactionTemplate) {s : SignerState Wallet} {n : U64}
    (hw : s.defaultWallet = some wallet) (hn : U256.asU64 (s.tracked (E.address wallet)) = .ok n) :
    (signTransaction E chainId template (.fixed n) fees.maxFeePerGas fees.maxPriorityFeePerGas).run
        signerHandler s =
      match signWith E chainId fees wallet (s.tracked (E.address wallet)) template with
      | .ok signedTx => (.ok signedTx, s.countUp (E.address wallet) 1)
      | .error e => (.error e, s) := by
  have hn' : U256.ofUint n = s.tracked (E.address wallet) := by
    rw [← BitVec.toNat_inj, U256.toNat_ofUint_u64, U256.asU64_eq_ok_iff.mp hn]
  have hnext : U256.add (s.tracked (E.address wallet)) 1 = .ok (s.tracked (E.address wallet) + 1) := by
    have := n.isLt
    have := U256.asU64_eq_ok_iff.mp hn
    exact U256.add_one_of_lt (by omega)
  simp only [signTransaction, getDefaultWallet, signTransactionWithWallet, getNonce, updateNonce,
    Async.request, Async.await_bind, Async.run_await, signerHandler, hw, okOr, Async.lift_eq, Async.ok_bind,
    Async.pure_eq, hn', signWith, hn]
  rcases E.signTransaction wallet
      (eip1559Request chainId template (s.tracked (E.address wallet)) fees.maxFeePerGas
        fees.maxPriorityFeePerGas) with e | signature
  · rfl
  · simp only [anyhow, Async.ok_bind, hnext]
    rfl

variable (E chainId fees wallet) in
/-- What the signing loop has done to `s` when it has signed `k` of the templates, with the
tracked nonce and those after it. -/
structure Signed (s : SignerState Wallet) (templates : List TransactionTemplate)
    (r : Result (List SignedTransaction × U256)) (s' : SignerState Wallet) (k : ℕ) : Prop where
  /-- The tracker has counted them. -/
  after : s' = s.countUp (E.address wallet) k
  /-- Their nonces are of 64 bits. -/
  bound : k = 0 ∨ (s.tracked (E.address wallet)).toNat + k ≤ 2 ^ 64
  /-- There are none just when the first cannot be signed. -/
  first : k = 0 ↔ ¬ FirstSigns E chainId fees wallet (s.tracked (E.address wallet)) templates
  /-- There is something to fail at. -/
  ne_nil : ∀ e, r = .error e → templates ≠ []
  /-- A loop that does not fail has signed all of them. -/
  all : ∀ signedTxs next, r = .ok (signedTxs, next) → k = templates.length ∧
    next = s'.tracked (E.address wallet) ∧
    SignedFrom E chainId fees wallet (s.tracked (E.address wallet)).toNat templates signedTxs

theorem Signed.toNat_tracked {s s' : SignerState Wallet} {templates : List TransactionTemplate}
    {r : Result (List SignedTransaction × U256)} {k : ℕ}
    (h : Signed E chainId fees wallet s templates r s' k) :
    (s'.tracked (E.address wallet)).toNat = (s.tracked (E.address wallet)).toNat + k := by
  have hb := h.bound
  have := (s.tracked (E.address wallet)).isLt
  rw [h.after, SignerState.tracked_countUp, BitVec.toNat_add, BitVec.toNat_ofNat]
  omega

theorem firstSigns_cons {nonce : U256} {template : TransactionTemplate}
    {templates : List TransactionTemplate} :
    FirstSigns E chainId fees wallet nonce (template :: templates) ↔
      ∃ signedTx, signWith E chainId fees wallet nonce template = .ok signedTx := by
  simp [FirstSigns]

theorem Signed.none {s : SignerState Wallet} {template : TransactionTemplate}
    {templates : List TransactionTemplate} {e e' : Failure}
    (he : signWith E chainId fees wallet (s.tracked (E.address wallet)) template = .error e) :
    Signed E chainId fees wallet s (template :: templates) (.error e') s 0 := by
  refine ⟨rfl, .inl rfl, ?_, fun _ _ => List.cons_ne_nil _ _, fun _ _ h => by cases h⟩
  rw [firstSigns_cons, he]
  simp

theorem Signed.cons {s s' : SignerState Wallet} {template : TransactionTemplate}
    {signedTx : SignedTransaction}
    {templates : List TransactionTemplate} {r : Result (List SignedTransaction × U256)} {k : ℕ}
    (hs : signWith E chainId fees wallet (s.tracked (E.address wallet)) template = .ok signedTx)
    (hrest : Signed E chainId fees wallet (s.countUp (E.address wallet) 1) templates r s' k) :
    Signed E chainId fees wallet s (template :: templates)
      (r.map fun (signedTxs, next) => (signedTx :: signedTxs, next)) s' (k + 1) := by
  have hlt := (signWith_eq_ok hs).1
  have hnext : ((s.countUp (E.address wallet) 1).tracked (E.address wallet)).toNat =
      (s.tracked (E.address wallet)).toNat + 1 := by
    rw [SignerState.tracked_countUp, BitVec.toNat_add, BitVec.toNat_ofNat]
    omega
  refine ⟨?_, .inr ?_, ?_, fun _ _ => List.cons_ne_nil _ _, fun signedTxs next h => ?_⟩
  · rw [hrest.after, SignerState.countUp_countUp, Nat.add_comm]
  · have := hrest.bound
    omega
  · rw [firstSigns_cons, hs]
    simp
  · rcases r with e | ⟨signedTxs', next'⟩
    · cases h
    cases h
    obtain ⟨hk, hn, hall⟩ := hrest.all signedTxs' next rfl
    rw [hnext] at hall
    exact ⟨by rw [hk, List.length_cons], hn, _, signedTx, signedTxs', rfl, hs, hall, rfl⟩

/-- **The signing loop**, started at the tracked nonce: the tracker counts the
transactions signed, also where the loop fails; where it does not, they are the templates
signed with the nonces from there on. -/
theorem run_signTemplates {s s' : SignerState Wallet} {templates : List TransactionTemplate}
    {r : Result (List SignedTransaction × U256)} (hw : s.defaultWallet = some wallet)
    (hr : (signTemplates E chainId fees templates (s.tracked (E.address wallet))).run signerHandler s = (r, s')) :
    ∃ k, Signed E chainId fees wallet s templates r s' k := by
  induction templates generalizing s s' r with
  | nil =>
    cases hr
    refine ⟨0, rfl, .inl rfl, by simp [FirstSigns], fun e h => (by cases h), fun signedTxs next h => ?_⟩
    cases h
    exact ⟨rfl, rfl, rfl⟩
  | cons template templates ih =>
    simp only [signTemplates, Async.lift_eq] at hr
    rcases hn : U256.asU64 (s.tracked (E.address wallet)) with e | n
    · rw [hn] at hr
      cases hr
      have he : signWith E chainId fees wallet (s.tracked (E.address wallet)) template = .error e := by
        rw [signWith, hn]
        rfl
      exact ⟨0, .none he⟩
    rw [hn, Async.ok_bind] at hr
    have hrun := run_signTransaction chainId fees template hw hn
    rcases hs : signWith E chainId fees wallet (s.tracked (E.address wallet)) template with e | signedTx
    · rw [hs] at hrun
      rw [Async.run_bind_of_error _ hrun] at hr
      cases hr
      exact ⟨0, .none hs⟩
    rw [hs] at hrun
    have hnext : U256.add (s.tracked (E.address wallet)) 1 =
        .ok ((s.countUp (E.address wallet) 1).tracked (E.address wallet)) := by
      have := (signWith_eq_ok hs).1
      rw [U256.add_one_of_lt (by omega), SignerState.tracked_countUp]
      rfl
    rw [Async.run_bind_of_ok _ hrun, hnext, Async.ok_bind] at hr
    -- The rest of the loop starts at the tracked nonce again.
    rcases hrest : (signTemplates E chainId fees templates
        ((s.countUp (E.address wallet) 1).tracked (E.address wallet))).run signerHandler
        (s.countUp (E.address wallet) 1) with ⟨e | ⟨signedTxs, next⟩, s₁⟩
    · obtain ⟨k, hk⟩ := ih (by rw [SignerState.defaultWallet_countUp, hw]) hrest
      rw [Async.run_bind_of_error _ hrest] at hr
      cases hr
      exact ⟨k + 1, .cons hs hk⟩
    · obtain ⟨k, hk⟩ := ih (by rw [SignerState.defaultWallet_countUp, hw]) hrest
      rw [Async.run_bind_of_ok _ hrest] at hr
      cases hr
      exact ⟨k + 1, .cons hs hk⟩

end Signing

/-! ### Building -/

variable {B : BundleBuilder Wallet Signature} {call : BuildCall} {s s' : SignerState Wallet}

variable (B call s) in
/-- The ways in which a build started in `s` ends: its result, and the signer it leaves. -/
inductive Built : Result Bundle → SignerState Wallet → Prop
  /-- There is nothing to sign. -/
  | unplanned {e : Failure} (hp : B.plan call.opportunity call.params = .error e) : Built (.error e) s
  /-- There is nobody to sign. -/
  | walletless {e : Failure} (hw : s.defaultWallet = none) : Built (.error e) s
  /-- A transaction before the target cannot be signed. -/
  | preUnsigned {plan : BuildPlan} {wallet : Wallet} {e : Failure} {s₁ : SignerState Wallet} {j : ℕ}
      (hp : B.plan call.opportunity call.params = .ok plan) (hw : s.defaultWallet = some wallet)
      (hpre : Signed B.ethers B.chainId plan.fees wallet s plan.preTemplates (.error e) s₁ j) :
      Built (.error e) s₁
  /-- The target cannot be converted. -/
  | targetless {plan : BuildPlan} {wallet : Wallet} {e : Failure} {s₁ : SignerState Wallet} {j : ℕ}
      {preTransactions : List SignedTransaction} {currentNonce : U256}
      (hp : B.plan call.opportunity call.params = .ok plan) (hw : s.defaultWallet = some wallet)
      (hpre : Signed B.ethers B.chainId plan.fees wallet s plan.preTemplates
        (.ok (preTransactions, currentNonce)) s₁ j)
      (ht : createTargetSignedTransaction B.ethers call.opportunity = .error e) : Built (.error e) s₁
  /-- A transaction after the target cannot be signed. -/
  | postUnsigned {plan : BuildPlan} {wallet : Wallet} {e : Failure} {s₁ s₂ : SignerState Wallet} {j k : ℕ}
      {preTransactions : List SignedTransaction} {currentNonce : U256} {target : SignedTransaction}
      (hp : B.plan call.opportunity call.params = .ok plan) (hw : s.defaultWallet = some wallet)
      (hpre : Signed B.ethers B.chainId plan.fees wallet s plan.preTemplates
        (.ok (preTransactions, currentNonce)) s₁ j)
      (ht : createTargetSignedTransaction B.ethers call.opportunity = .ok target)
      (hpost : Signed B.ethers B.chainId plan.fees wallet s₁ plan.postTemplates (.error e) s₂ k) :
      Built (.error e) s₂
  /-- All is signed, and the strategy has the last word. -/
  | finished {plan : BuildPlan} {wallet : Wallet} {s₁ s₂ : SignerState Wallet} {j k : ℕ}
      {preTransactions postTransactions : List SignedTransaction} {currentNonce lastNonce : U256}
      {target : SignedTransaction}
      (hp : B.plan call.opportunity call.params = .ok plan) (hw : s.defaultWallet = some wallet)
      (hpre : Signed B.ethers B.chainId plan.fees wallet s plan.preTemplates
        (.ok (preTransactions, currentNonce)) s₁ j)
      (ht : createTargetSignedTransaction B.ethers call.opportunity = .ok target)
      (hpost : Signed B.ethers B.chainId plan.fees wallet s₁ plan.postTemplates
        (.ok (postTransactions, lastNonce)) s₂ k) :
      Built (validated plan.strategyBuilder (call.bundle preTransactions target postTransactions) call.opportunity)
        s₂

theorem built_of_run {r : Result Bundle}
    (hr : (B.buildBundleWithParams call).run signerHandler s = (r, s')) :
    Built B call s r s' := by
  simp only [BundleBuilder.buildBundleWithParams, Async.lift_eq] at hr
  rcases hp : B.plan call.opportunity call.params with e | plan
  · rw [hp] at hr
    cases hr
    exact .unplanned hp
  rw [hp, Async.ok_bind] at hr
  rcases hw : s.defaultWallet with _ | wallet
  · simp only [getStartingNonce, getDefaultWallet, Async.request, Async.await_bind, Async.run_await,
      signerHandler,
      hw, okOr, Async.ok_bind, Async.lift_eq, Async.error_bind, Async.run_done] at hr
    cases hr
    exact .walletless hw
  have hstart : (getStartingNonce B.ethers).run signerHandler s =
      (.ok (s.tracked (B.ethers.address wallet)), s) := by
    simp only [getStartingNonce, getDefaultWallet, getTrackedNonce, Async.request, Async.await_bind,
      Async.run_await, signerHandler, hw, okOr, Async.ok_bind, Async.lift_eq, Async.pure_eq, Async.run_done,
      SignerState.tracked]
  rw [Async.run_bind_of_ok _ hstart] at hr
  rcases hrun : (signTemplates B.ethers B.chainId plan.fees plan.preTemplates
      (s.tracked (B.ethers.address wallet))).run signerHandler s with
        ⟨e | ⟨preTransactions, currentNonce⟩, s₁⟩
  · obtain ⟨j, hpre⟩ := run_signTemplates hw hrun
    rw [Async.run_bind_of_error _ hrun] at hr
    cases hr
    exact .preUnsigned hp hw hpre
  obtain ⟨j, hpre⟩ := run_signTemplates hw hrun
  rw [Async.run_bind_of_ok _ hrun] at hr
  rcases ht : createTargetSignedTransaction B.ethers call.opportunity with e | target
  · rw [ht] at hr
    cases hr
    exact .targetless hp hw hpre ht
  have hw₁ : s₁.defaultWallet = some wallet := by rw [hpre.after, SignerState.defaultWallet_countUp, hw]
  simp only [ht, Async.ok_bind] at hr
  -- The builder's count and the tracker are in step again.
  rw [(hpre.all preTransactions currentNonce rfl).2.1] at hr
  rcases hrun : (signTemplates B.ethers B.chainId plan.fees plan.postTemplates
      (s₁.tracked (B.ethers.address wallet))).run signerHandler s₁ with
        ⟨e | ⟨postTransactions, lastNonce⟩, s₂⟩
  · obtain ⟨k, hpost⟩ := run_signTemplates hw₁ hrun
    rw [Async.run_bind_of_error _ hrun] at hr
    cases hr
    exact .postUnsigned hp hw hpre ht hpost
  · obtain ⟨k, hpost⟩ := run_signTemplates hw₁ hrun
    rw [Async.run_bind_of_ok _ hrun] at hr
    cases hr
    exact .finished hp hw hpre ht hpost

/-! ### Nonces of builds that succeed -/

/-- The nonces of the bundle's own transactions, those before the target first. -/
def Bundle.ownNonces (bundle : Bundle) : List ℕ := bundle.ownTransactions.map (·.nonce.toNat)

theorem validated_eq_ok {strategyBuilder : StrategyBundleBuilder} {bundle bundle' : Bundle}
    {opportunity : Opportunity} (h : validated strategyBuilder bundle opportunity = .ok bundle') :
    bundle' = bundle := by
  obtain ⟨validation, -, h⟩ := bind_eq_ok_iff.mp h
  split at h <;> cases h
  rfl

variable (B call s) in
/-- What a build that succeeds has done: its own transactions are the templates signed
with consecutive nonces from the tracked one on, and the tracker is after the last. -/
structure Allocated (plan : BuildPlan) (wallet : Wallet) (bundle : Bundle)
    (s' : SignerState Wallet) : Prop where
  /-- The transactions before the target, in order. -/
  pre : SignedFrom B.ethers B.chainId plan.fees wallet (s.tracked (B.ethers.address wallet)).toNat
    plan.preTemplates bundle.preTransactions
  /-- The target. -/
  target : createTargetSignedTransaction B.ethers call.opportunity = .ok bundle.targetTransaction
  /-- The transactions after it, in order, with the nonces after those. -/
  post : SignedFrom B.ethers B.chainId plan.fees wallet
    ((s.tracked (B.ethers.address wallet)).toNat + plan.preTemplates.length) plan.postTemplates
    bundle.postTransactions
  /-- The signer. -/
  after : s' = s.countUp (B.ethers.address wallet) (plan.preTemplates.length + plan.postTemplates.length)
  /-- The tracker, as a number. -/
  tracked : (s'.tracked (B.ethers.address wallet)).toNat =
    (s.tracked (B.ethers.address wallet)).toNat + (plan.preTemplates.length + plan.postTemplates.length)

theorem allocated_of_run {bundle : Bundle}
    (hr : (B.buildBundleWithParams call).run signerHandler s = (.ok bundle, s')) :
    ∃ plan wallet, B.plan call.opportunity call.params = .ok plan ∧ s.defaultWallet = some wallet ∧
      Allocated B call s plan wallet bundle s' := by
  generalize hres : (.ok bundle : Result Bundle) = r at hr
  cases built_of_run hr with
  | unplanned | walletless | preUnsigned | targetless | postUnsigned => cases hres
  | @finished plan wallet s₁ _ j k preTransactions postTransactions _ _ target hp hw hpre ht hpost =>
    rw [validated_eq_ok hres.symm]
    obtain ⟨hj, -, hpreAll⟩ := hpre.all _ _ rfl
    obtain ⟨hk, -, hpostAll⟩ := hpost.all _ _ rfl
    have h₁ := hpre.toNat_tracked
    have h₂ := hpost.toNat_tracked
    rw [h₁, hj] at hpostAll
    refine ⟨plan, wallet, hp, hw, hpreAll, ht, hpostAll, ?_, ?_⟩
    · rw [hpost.after, hpre.after, SignerState.countUp_countUp, hj, hk]
    · omega

theorem Allocated.ownNonces {plan : BuildPlan} {wallet : Wallet} {bundle : Bundle}
    (h : Allocated B call s plan wallet bundle s') :
    bundle.ownNonces = List.range' (s.tracked (B.ethers.address wallet)).toNat
      (plan.preTemplates.length + plan.postTemplates.length) := by
  rw [Bundle.ownNonces, Bundle.ownTransactions, List.map_append, h.pre.nonces, h.post.nonces,
    List.range'_append_1]

/-- Builds one after another, all of which succeed. -/
inductive Builds (B : BundleBuilder Wallet Signature) : SignerState Wallet → List Bundle →
    SignerState Wallet → Prop
  /-- None. -/
  | nil (s : SignerState Wallet) : Builds B s [] s
  /-- One, and then more. -/
  | cons {s s₁ s₂ : SignerState Wallet} {call : BuildCall} {bundle : Bundle} {bundles : List Bundle}
      (hr : (B.buildBundleWithParams call).run signerHandler s = (.ok bundle, s₁))
        (hrest : Builds B s₁ bundles s₂) :
      Builds B s (bundle :: bundles) s₂

/-- Builds one after another use the nonces from the tracked one on, in order. -/
theorem Builds.ownNonces {wallet : Wallet} {bundles : List Bundle} (h : Builds B s bundles s')
    (hw : s.defaultWallet = some wallet) :
    ∃ k, bundles.flatMap Bundle.ownNonces = List.range' (s.tracked (B.ethers.address wallet)).toNat k ∧
      (s'.tracked (B.ethers.address wallet)).toNat = (s.tracked (B.ethers.address wallet)).toNat + k := by
  induction h with
  | nil s => exact ⟨0, rfl, rfl⟩
  | @cons s s₁ s₂ call bundle bundles hr _ ih =>
    obtain ⟨plan, wallet', -, hw', hall⟩ := allocated_of_run hr
    obtain rfl : wallet = wallet' := Option.some.inj (hw.symm.trans hw')
    obtain ⟨k, hk, hs₂⟩ := ih (by rw [hall.after, SignerState.defaultWallet_countUp, hw])
    refine ⟨plan.preTemplates.length + plan.postTemplates.length + k, ?_, ?_⟩
    · rw [List.flatMap_cons, hall.ownNonces, hk, hall.tracked, List.range'_append_1]
    · rw [hs₂, hall.tracked]
      omega

/-- **Sequential allocation**: for every build that succeeds, with `p` templates before the
target and `q` after it, the transactions before the target have the nonces from the
tracked `n` on and those after it the ones that follow; the tracker is left at
`n + p + q`, or alone if there are none, and no other address's is touched. So builds one
after another use contiguous ranges of nonces, which are disjoint. -/
theorem sequential_allocation {wallet : Wallet} (hw : s.defaultWallet = some wallet) :
    (∀ call bundle s', (B.buildBundleWithParams call).run signerHandler s = (.ok bundle, s') →
      ∃ plan n p q, B.plan call.opportunity call.params = .ok plan ∧
        n = (s.tracked (B.ethers.address wallet)).toNat ∧
        p = plan.preTemplates.length ∧ q = plan.postTemplates.length ∧
        SignedFrom B.ethers B.chainId plan.fees wallet n plan.preTemplates bundle.preTransactions ∧
        SignedFrom B.ethers B.chainId plan.fees wallet (n + p) plan.postTemplates bundle.postTransactions ∧
        bundle.preTransactions.map (·.nonce.toNat) = List.range' n p ∧
        bundle.postTransactions.map (·.nonce.toNat) = List.range' (n + p) q ∧
        bundle.allTransactions =
          bundle.preTransactions ++ bundle.targetTransaction :: bundle.postTransactions ∧
        (p + q = 0 → s' = s) ∧
        (p + q ≠ 0 → ∃ next, s'.nonceTracker (B.ethers.address wallet) = some next ∧
          next.toNat = n + p + q) ∧
        ∀ other, other ≠ B.ethers.address wallet → s'.nonceTracker other = s.nonceTracker other) ∧
    ∀ bundles s', Builds B s bundles s' →
      (∃ k, bundles.flatMap Bundle.ownNonces = List.range' (s.tracked (B.ethers.address wallet)).toNat k ∧
        (s'.tracked (B.ethers.address wallet)).toNat = (s.tracked (B.ethers.address wallet)).toNat + k) ∧
      bundles.Pairwise fun x y => List.Disjoint x.ownNonces y.ownNonces := by
  constructor
  · intro call bundle s' hr
    obtain ⟨plan, wallet', hp, hw', hall⟩ := allocated_of_run hr
    obtain rfl : wallet = wallet' := Option.some.inj (hw.symm.trans hw')
    refine ⟨plan, _, _, _, hp, rfl, rfl, rfl, hall.pre, hall.post, hall.pre.nonces, hall.post.nonces,
      by simp [Bundle.allTransactions], fun h0 => ?_, fun h0 => ?_, fun other hne => ?_⟩
    · rw [hall.after, h0, SignerState.countUp_zero]
    · have ht := hall.tracked
      rw [hall.after, SignerState.tracked_countUp] at ht
      refine ⟨_, ?_, by rw [ht, Nat.add_assoc]⟩
      rw [hall.after, SignerState.countUp, if_neg h0]
      exact Function.update_self ..
    · rw [hall.after, SignerState.nonceTracker_countUp_of_ne hne]
  · intro bundles s' hb
    obtain ⟨k, hk, hs'⟩ := hb.ownNonces hw
    have hnodup : (bundles.flatMap Bundle.ownNonces).Nodup := hk ▸ List.nodup_range'
    exact ⟨⟨k, hk, hs'⟩, (List.nodup_flatMap.mp hnodup).2⟩

theorem sandwichBuild_isOk : (sandwichBuild sampleTarget).1.isOk = true := by decide

/-- Two sandwiches, one after the other. -/
theorem sequential_allocation_twice :
    ∃ x y s', Builds BundleBuilder.sample ⟨fun _ => none, some ()⟩ [x, y] s' ∧
      [x, y].Pairwise fun x y => List.Disjoint x.ownNonces y.ownNonces := by
  have hy : ((BundleBuilder.sample.buildBundleWithParams (.sandwich sampleTarget)).run signerHandler
      (sandwichBuild sampleTarget).2).1.isOk = true := by decide +kernel
  obtain ⟨x, hx⟩ := exists_ok_of_isOk sandwichBuild_isOk
  obtain ⟨y, hy⟩ := exists_ok_of_isOk hy
  have hb := Builds.cons (Prod.ext hx rfl) (.cons (Prod.ext hy rfl) (.nil _))
  exact ⟨x, y, _, hb, ((sequential_allocation rfl).2 _ _ hb).2⟩

/-! ### Nonces of builds that fail -/

variable (B call s) in
/-- The build gets as far as to sign one of its own transactions: one before the target
can be signed, or there is none, the target can be converted, and one after it can be
signed. -/
def SignsOne : Prop :=
  ∃ plan wallet, B.plan call.opportunity call.params = .ok plan ∧ s.defaultWallet = some wallet ∧
    (FirstSigns B.ethers B.chainId plan.fees wallet (s.tracked (B.ethers.address wallet)) plan.preTemplates ∨
      plan.preTemplates = [] ∧ (∃ target, createTargetSignedTransaction B.ethers call.opportunity = .ok target) ∧
        FirstSigns B.ethers B.chainId plan.fees wallet (s.tracked (B.ethers.address wallet)) plan.postTemplates)

theorem signsOne_iff {plan : BuildPlan} {wallet : Wallet}
    (hp : B.plan call.opportunity call.params = .ok plan)
    (hw : s.defaultWallet = some wallet) :
    SignsOne B call s ↔
      FirstSigns B.ethers B.chainId plan.fees wallet (s.tracked (B.ethers.address wallet)) plan.preTemplates ∨
        plan.preTemplates = [] ∧ (∃ target, createTargetSignedTransaction B.ethers call.opportunity = .ok target) ∧
          FirstSigns B.ethers B.chainId plan.fees wallet (s.tracked (B.ethers.address wallet))
            plan.postTemplates := by
  constructor
  · rintro ⟨plan', wallet', hp', hw', h⟩
    obtain rfl : plan = plan' := Except.ok.inj (hp.symm.trans hp')
    obtain rfl : wallet = wallet' := Option.some.inj (hw.symm.trans hw')
    exact h
  · exact fun h => ⟨plan, wallet, hp, hw, h⟩

/-- A build that fails before the transactions after the target. -/
theorem keeps_nonces_iff_of_pre {plan : BuildPlan} {wallet : Wallet} {j : ℕ}
    {r : Result (List SignedTransaction × U256)} (hp : B.plan call.opportunity call.params = .ok plan)
    (hw : s.defaultWallet = some wallet)
    (hpre : Signed B.ethers B.chainId plan.fees wallet s plan.preTemplates r s' j)
    (hend : ¬ (plan.preTemplates = [] ∧
      ∃ target, createTargetSignedTransaction B.ethers call.opportunity = .ok target)) :
    (∀ a, s'.nonceTracker a = s.nonceTracker a) ↔ ¬ SignsOne B call s := by
  have hj : j < 2 ^ 256 := by
    have := hpre.bound
    omega
  rw [hpre.after, SignerState.nonceTracker_countUp_eq_iff hj, hpre.first, not_iff_not, signsOne_iff hp hw]
  constructor
  · exact .inl
  · rintro (h | ⟨hnil, htarget, -⟩)
    · exact h
    · exact absurd ⟨hnil, htarget⟩ hend

theorem keeps_nonces_iff_of_post {plan : BuildPlan} {wallet : Wallet} {s₁ : SignerState Wallet} {j k : ℕ}
    {preTransactions : List SignedTransaction} {currentNonce : U256} {target : SignedTransaction}
    {r : Result (List SignedTransaction × U256)}
    (hp : B.plan call.opportunity call.params = .ok plan) (hw : s.defaultWallet = some wallet)
    (hpre : Signed B.ethers B.chainId plan.fees wallet s plan.preTemplates
      (.ok (preTransactions, currentNonce)) s₁ j)
    (ht : createTargetSignedTransaction B.ethers call.opportunity = .ok target)
    (hpost : Signed B.ethers B.chainId plan.fees wallet s₁ plan.postTemplates r s' k) :
    (∀ a, s'.nonceTracker a = s.nonceTracker a) ↔ ¬ SignsOne B call s := by
  have hlt : j + k < 2 ^ 256 := by
    have := hpre.bound
    have := hpost.bound
    omega
  have hj : j = plan.preTemplates.length := (hpre.all _ _ rfl).1
  have hfirst := hpost.first
  rw [hpost.after, hpre.after, SignerState.countUp_countUp, SignerState.nonceTracker_countUp_eq_iff hlt,
    signsOne_iff hp hw]
  by_cases hj0 : j = 0
  · -- Nothing is signed before the target, so the loop after it starts in `s`.
    have hnil : plan.preTemplates = [] := List.eq_nil_of_length_eq_zero (by omega)
    have hs₁ : s₁ = s := by rw [hpre.after, hj0, SignerState.countUp_zero]
    rw [hs₁] at hfirst
    rw [hj0, Nat.zero_add, hfirst, not_iff_not]
    constructor
    · exact fun h => .inr ⟨hnil, ⟨target, ht⟩, h⟩
    · rintro (h | ⟨-, -, h⟩)
      · exact absurd h (hpre.first.mp hj0)
      · exact h
  · refine iff_of_false (by omega) fun hnot => hnot (.inl ?_)
    by_contra h
    exact hj0 (hpre.first.mpr h)

/-- **A failed build keeps the nonces** just when it had not signed any of its own
transactions before it failed. -/
theorem failed_build_keeps_nonces_iff {e : Failure}
    (hr : (B.buildBundleWithParams call).run signerHandler s = (.error e, s')) :
    (∀ a, s'.nonceTracker a = s.nonceTracker a) ↔ ¬ SignsOne B call s := by
  generalize hres : (.error e : Result Bundle) = r at hr
  cases built_of_run hr with
  | unplanned hp =>
    refine iff_of_true (fun _ => rfl) ?_
    rintro ⟨plan, _, hp', -⟩
    cases hp.symm.trans hp'
  | walletless hw =>
    refine iff_of_true (fun _ => rfl) ?_
    rintro ⟨_, wallet, -, hw', -⟩
    cases hw.symm.trans hw'
  | preUnsigned hp hw hpre => exact keeps_nonces_iff_of_pre hp hw hpre fun h => hpre.ne_nil _ rfl h.1
  | targetless hp hw hpre ht =>
    refine keeps_nonces_iff_of_pre hp hw hpre ?_
    rintro ⟨-, target, ht'⟩
    cases ht.symm.trans ht'
  | postUnsigned hp hw hpre ht hpost => exact keeps_nonces_iff_of_post hp hw hpre ht hpost
  | finished hp hw hpre ht hpost => exact keeps_nonces_iff_of_post hp hw hpre ht hpost

/-- A target whose hash is no hash. -/
def hashlessTarget : ParsedTransaction :=
  { sampleTarget with transaction := { sampleTarget.transaction with hash := "0xvictim" } }

/-- A build without a wallet fails, and has signed nothing. -/
theorem failed_build_without_wallet :
    (∀ a, ((BundleBuilder.sample.buildBundleWithParams (.sandwich sampleTarget)).run signerHandler
        ⟨fun _ => none, none⟩).2.nonceTracker a = none) ↔
      ¬ SignsOne BundleBuilder.sample (.sandwich sampleTarget) ⟨fun _ => none, none⟩ :=
  failed_build_keeps_nonces_iff (e := .err "No default wallet configured") (Prod.ext (by decide) rfl)

/-- **A failed build leaves a gap**: the transaction before the target is signed, then the
target's hash turns out to be none, and nonce 0 is gone. -/
theorem failed_build_leaves_gap :
    (sandwichBuild hashlessTarget).1 = .error (.err "Invalid hash: Invalid character") ∧
      (sandwichBuild hashlessTarget).2.nonceTracker 0xa11ce = some 1 := by
  constructor <;> decide

end Botmev.Bundles
