import Botmev.Bundles.Building
import Mathlib.Data.Fintype.Basic

/-!
# Building concurrently

Any number of `build_bundle_with_params` calls on one builder, interleaved at the signer's
sections under the lock. A build reads its starting nonce and does not reserve it: the
tracker moves only when its first transaction is signed. A build that reads in between
starts at the same nonce.

## What is proved

* `concurrent_builds_share_nonces`: two sandwiches, both with the nonces 0 and 1.
* `own_nonces_disjoint`: as long as no build reads its starting nonce while another that
  has read its own is still running, the bundles built have no nonce in common.
-/

namespace Botmev.Bundles

open Botmev.Rust Botmev.Library Botmev.Core

variable {Wallet Signature ι : Type} [DecidableEq ι]

/-- The bundles built so far have no own nonce in common. -/
def OwnNoncesDisjoint (p : SignerPool Wallet ι Bundle) : Prop :=
  ∀ i j x y, i ≠ j → p.tasks i = .done (.ok x) → p.tasks j = .done (.ok y) →
    List.Disjoint x.ownNonces y.ownNonces

/-- It is the section in which a build reads its starting nonce. -/
def SignerOp.readsNonce : SignerOp → Bool
  | .getTrackedNonce _ => true
  | _ => false

/-- The build has read its starting nonce. -/
def HasStarted (p : SignerPool Wallet ι Bundle) (i : ι) : Prop :=
  ∃ event ∈ p.history, event.task = i ∧ SignerOp.readsNonce event.op = true

/-- If the step reads a starting nonce, every other build that has read its own has
returned. -/
def OneAtATime (p : SignerPool Wallet ι Bundle) (i : ι) : Prop :=
  (p.tasks i).next?.any SignerOp.readsNonce = true →
    ∀ j, j ≠ i → HasStarted p j → (p.tasks j).next?.isNone = true

instance (p : SignerPool Wallet ι Bundle) (i : ι) : Decidable (HasStarted p i) :=
  inferInstanceAs (Decidable (∃ event ∈ p.history, event.task = i ∧ SignerOp.readsNonce event.op = true))

instance [Fintype ι] (p : SignerPool Wallet ι Bundle) (i : ι) : Decidable (OneAtATime p i) :=
  inferInstanceAs (Decidable (_ → ∀ j, j ≠ i → HasStarted p j → (p.tasks j).next?.isNone = true))

/-! ### The protocol of a build -/

/-- Where a build is. -/
inductive BuildPhase where
  /-- It has no nonces yet. -/
  | before
  /-- It has read `start`, and signed with the nonces from there up to `current`. -/
  | signing (start current : ℕ)

variable (E : Ethers Wallet Signature) (wallet : Option Wallet)

/-- What a build may ask for: the default wallet at any time, the tracked nonce once, and
then to store the nonces after it, one after another. -/
inductive BuildMove : BuildPhase → (op : SignerOp) → (SignerI Wallet).Reply op → BuildPhase → Prop
  /-- The default wallet is read. -/
  | getWallet {φ : BuildPhase} {reply : Option Wallet} (h : reply = wallet) :
      BuildMove φ .getDefaultWallet reply φ
  /-- The starting nonce is read. -/
  | start {w : Wallet} {nonce : Option U256} (hw : wallet = some w) :
      BuildMove .before (.getTrackedNonce (E.address w)) nonce
        (.signing (nonce.getD 0).toNat (nonce.getD 0).toNat)
  /-- A transaction is signed, and the nonce after its own stored. -/
  | write {w : Wallet} {start current : ℕ} {next : U256} (hw : wallet = some w)
      (hn : next.toNat = current + 1) :
      BuildMove (.signing start current) (.insertNonce (E.address w) next) () (.signing start (current + 1))

/-- The protocol of the builds, while the default wallet stays what it is. -/
@[reducible] def buildProtocol : Protocol (SignerI Wallet) where
  Phase := BuildPhase
  legal
    | .getDefaultWallet, reply => reply = wallet
    | _, _ => True
  move := BuildMove E wallet

/-- A build that returns a bundle has signed with the bundle's own nonces, from its
starting nonce on. -/
def BuildEnds (φ : BuildPhase) (r : Result Bundle) : Prop :=
  ∀ bundle, r = .ok bundle →
    ∃ start, φ = .signing start (start + bundle.ownNonces.length) ∧
      bundle.ownNonces = List.range' start bundle.ownNonces.length

variable {E wallet} {chainId : U64} {fees : Fees} {start current : ℕ}

theorem signTransaction_follows {template : TransactionTemplate} {nonce : U64}
    (hn : nonce.toNat = current) :
    (buildProtocol E wallet).Follows
      (fun φ r => ∀ tx, r = .ok tx → φ = .signing start (current + 1) ∧ tx.nonce.toNat = current)
      (.signing start current)
      (signTransaction E chainId template (.fixed nonce) fees.maxFeePerGas fees.maxPriorityFeePerGas) := by
  simp only [signTransaction, getDefaultWallet, signTransactionWithWallet, getNonce, updateNonce,
    Async.request, Async.await_bind, Async.lift_eq, Async.ok_bind, Async.pure_eq]
  intro reply hreply
  refine ⟨_, .getWallet hreply, ?_⟩
  rcases reply with _ | w
  · exact fun tx h => by cases h
  simp only [okOr, Async.ok_bind]
  rcases anyhow (E.signTransaction w _) with e | signature
  · exact fun tx h => by cases h
  simp only [Async.ok_bind]
  rcases hadd : U256.add (U256.ofUint nonce) 1 with e | next
  · exact fun tx h => by cases h
  rintro ⟨⟩ -
  have hnext := U256.add_one_eq_ok_iff.mp hadd
  rw [U256.toNat_ofUint_u64, hn] at hnext
  refine ⟨_, .write hreply.symm hnext, fun tx h => ?_⟩
  cases h
  refine ⟨rfl, ?_⟩
  rw [← hn]
  exact U256.toNat_ofUint_u64 nonce

theorem signTemplates_follows {templates : List TransactionTemplate} {nonce : U256}
    (hn : nonce.toNat = current) :
    (buildProtocol E wallet).Follows
      (fun φ r => ∀ txs next, r = .ok (txs, next) → φ = .signing start (current + txs.length) ∧
        next.toNat = current + txs.length ∧ txs.map (·.nonce.toNat) = List.range' current txs.length)
      (.signing start current) (signTemplates E chainId fees templates nonce) := by
  induction templates generalizing nonce current with
  | nil =>
    intro txs next h
    cases h
    exact ⟨rfl, hn, rfl⟩
  | cons template templates ih =>
    simp only [signTemplates, Async.lift_eq]
    rcases hn64 : U256.asU64 nonce with e | n
    · exact fun txs next h => by cases h
    rw [Async.ok_bind]
    have hn64 := U256.asU64_eq_ok_iff.mp hn64
    refine (signTransaction_follows (hn64.trans hn)).bind ?_ fun φ e _ txs next h => by cases h
    intro φ tx htx
    obtain ⟨rfl, hnonce⟩ := htx tx rfl
    rcases hadd : U256.add nonce 1 with e | next
    · exact fun txs next h => by cases h
    rw [Async.ok_bind]
    have hnext := U256.add_one_eq_ok_iff.mp hadd
    rw [hn] at hnext
    refine (ih hnext).bind ?_ fun φ e _ txs next h => by cases h
    rintro φ ⟨txs, last⟩ hrest
    obtain ⟨rfl, hlast, hnonces⟩ := hrest txs last rfl
    intro txs' next' h
    cases h
    refine ⟨?_, ?_, ?_⟩
    · show BuildPhase.signing start (current + 1 + txs.length) = .signing start (current + (txs.length + 1))
      rw [Nat.add_assoc, Nat.add_comm 1]
    · show last.toNat = current + (txs.length + 1)
      omega
    · rw [List.map_cons, hnonce, hnonces, List.length_cons, List.range'_succ]

/-- **A build follows the protocol.** -/
theorem buildBundle_follows (B : BundleBuilder Wallet Signature) (call : BuildCall) :
    (buildProtocol B.ethers wallet).Follows BuildEnds .before (B.buildBundleWithParams call) := by
  simp only [BundleBuilder.buildBundleWithParams, Async.lift_eq]
  rcases B.plan call.opportunity call.params with e | plan
  · exact fun bundle h => by cases h
  simp only [getStartingNonce, getDefaultWallet, getTrackedNonce, Async.request, Async.await_bind,
    Async.ok_bind,
    Async.lift_eq, Async.pure_eq]
  intro reply hreply
  refine ⟨_, .getWallet hreply, ?_⟩
  rcases reply with _ | w
  · exact fun bundle h => by cases h
  simp only [okOr, Async.ok_bind, Async.await_bind]
  intro nonce _
  refine ⟨_, .start hreply.symm, ?_⟩
  refine (signTemplates_follows rfl).bind ?_ fun φ e _ bundle h => by cases h
  rintro φ ⟨preTransactions, currentNonce⟩ hpre
  obtain ⟨rfl, hcurrent, hpreNonces⟩ := hpre preTransactions currentNonce rfl
  rcases createTargetSignedTransaction B.ethers call.opportunity with e | target
  · exact fun bundle h => by cases h
  rw [Async.ok_bind]
  refine (signTemplates_follows hcurrent).bind ?_ fun φ e _ bundle h => by cases h
  rintro φ ⟨postTransactions, lastNonce⟩ hpost
  obtain ⟨rfl, -, hpostNonces⟩ := hpost postTransactions lastNonce rfl
  intro bundle h
  have hbundle := validated_eq_ok h
  have hown : (call.bundle preTransactions target postTransactions).ownNonces =
      List.range' (nonce.getD 0).toNat (preTransactions.length + postTransactions.length) := by
    simp only [Bundle.ownNonces, Bundle.ownTransactions, BuildCall.bundle, List.map_append, hpreNonces,
      hpostNonces, List.range'_append_1]
  refine ⟨(nonce.getD 0).toNat, ?_, ?_⟩
  · rw [hbundle, hown, List.length_range', Nat.add_assoc]
  · rw [hbundle, hown, List.length_range']

/-! ### Disjoint nonces -/

variable {address : Address} {calls : ι → BuildCall} {B : BundleBuilder Wallet Signature}
variable {s₀ : SignerState Wallet} {p : SignerPool Wallet ι Bundle} {φ : ι → BuildPhase} {i : ι}

/-- The ranges of nonces are apart, and the build still running, if there is one, has the
last of them, which the tracker is at the end of. -/
structure RangesApart (wallet : Option Wallet) (address : Address) (p : SignerPool Wallet ι Bundle)
    (φ : ι → BuildPhase) : Prop where
  /-- The default wallet is what it was. -/
  wallet : p.shared.defaultWallet = wallet
  /-- A build with nonces has read its starting nonce. -/
  started : ∀ i start current, φ i = .signing start current → HasStarted p i
  /-- Every range ends at or below the tracked nonce. -/
  below : ∀ i start current, φ i = .signing start current →
    start ≤ current ∧ current ≤ (p.shared.tracked address).toNat
  /-- The build that is running counts with the tracker, after all the others. -/
  last : ∀ i start current, φ i = .signing start current → (p.tasks i).next? ≠ none →
    current = (p.shared.tracked address).toNat ∧
      ∀ j start' current', j ≠ i → φ j = .signing start' current' → current' ≤ start ∧
        (p.tasks j).next? = none
  /-- No two ranges overlap. -/
  apart : ∀ i j start current start' current', i ≠ j → φ i = .signing start current →
    φ j = .signing start' current' → current ≤ start' ∨ current' ≤ start

theorem HasStarted.append {j : ι} {op : SignerOp} {k : (SignerI Wallet).Reply op → SignerM Wallet Bundle}
    (h : HasStarted p j) : HasStarted (p.after signerHandler i op k) j := by
  obtain ⟨event, he, hj⟩ := h
  exact ⟨event, List.mem_append_left _ he, hj⟩

theorem RangesApart.getWallet (hI : RangesApart wallet address p φ)
    {k : Option Wallet → SignerM Wallet Bundle}
    (hi : p.tasks i = .await .getDefaultWallet k) :
    RangesApart wallet address (p.after signerHandler i .getDefaultWallet k) φ where
  wallet := hI.wallet
  started j start current hj := by
    exact (hI.started j start current hj).append
  below := hI.below
  last j start current hj hlive := by
    have hlive' : (p.tasks j).next? ≠ none := by
      by_cases hji : j = i
      · rw [hji, hi]
        exact Option.some_ne_none _
      · rwa [Pool.after_tasks_of_ne _ _ hji] at hlive
    obtain ⟨hc, hothers⟩ := hI.last j start current hj hlive'
    refine ⟨hc, fun j' start' current' hne hj' => ?_⟩
    obtain ⟨hle, hdone⟩ := hothers j' start' current' hne hj'
    refine ⟨hle, ?_⟩
    by_cases hji : j' = i
    · rw [hji, hi] at hdone
      cases hdone
    · rwa [Pool.after_tasks_of_ne _ _ hji]
  apart := hI.apart

theorem signing_of_update {a b start current : ℕ} {j : ι}
    (h : Function.update φ i (.signing a b) j = .signing start current) :
    j = i ∧ start = a ∧ current = b ∨ j ≠ i ∧ φ j = .signing start current := by
  by_cases hji : j = i
  · subst hji
    rw [Function.update_self] at h
    cases h
    exact .inl ⟨rfl, rfl, rfl⟩
  · rw [Function.update_of_ne hji] at h
    exact .inr ⟨hji, h⟩

/-- A build that starts when no other is running starts after all ranges so far. -/
theorem RangesApart.read (hI : RangesApart wallet address p φ) {k : Option U256 → SignerM Wallet Bundle}
    (hG : ∀ j, j ≠ i → HasStarted p j → (p.tasks j).next?.isNone = true) :
    RangesApart wallet address (p.after signerHandler i (.getTrackedNonce address) k)
      (Function.update φ i (.signing (p.shared.tracked address).toNat (p.shared.tracked address).toNat)) where
  wallet := hI.wallet
  started j start current hj := by
    rcases signing_of_update hj with ⟨rfl, -, -⟩ | ⟨-, hj⟩
    · exact ⟨_, List.mem_append_right _ (List.mem_singleton_self _), rfl, rfl⟩
    · exact (hI.started j start current hj).append
  below j start current hj := by
    rcases signing_of_update hj with ⟨-, rfl, rfl⟩ | ⟨-, hj⟩
    · exact ⟨Nat.le_refl _, Nat.le_refl _⟩
    · exact hI.below j start current hj
  last j start current hj hlive := by
    rcases signing_of_update hj with ⟨rfl, rfl, rfl⟩ | ⟨hji, hj⟩
    · refine ⟨rfl, fun j' start' current' hne hj' => ?_⟩
      rw [Function.update_of_ne hne] at hj'
      rw [Pool.after_tasks_of_ne _ _ hne]
      exact ⟨(hI.below j' start' current' hj').2,
        Option.isNone_iff_eq_none.mp (hG j' hne (hI.started j' start' current' hj'))⟩
    · rw [Pool.after_tasks_of_ne _ _ hji] at hlive
      exact absurd (Option.isNone_iff_eq_none.mp (hG j hji (hI.started j start current hj))) hlive
  apart j j' start current start' current' hne hj hj' := by
    rcases signing_of_update hj with ⟨rfl, rfl, rfl⟩ | ⟨-, h⟩ <;>
      rcases signing_of_update hj' with ⟨rfl, rfl, rfl⟩ | ⟨-, h'⟩
    · exact absurd rfl hne
    · exact .inr (hI.below j' start' current' h').2
    · exact .inl (hI.below j start current h).2
    · exact hI.apart j j' start current start' current' hne h h'

/-- The build that is running adds to the end of its range, which is the last. -/
theorem RangesApart.write (hI : RangesApart wallet address p φ) {k : Unit → SignerM Wallet Bundle}
    {next : U256}
    {start current : ℕ} (hi : p.tasks i = .await (.insertNonce address next) k)
    (hφi : φ i = .signing start current) (hn : next.toNat = current + 1) :
    RangesApart wallet address (p.after signerHandler i (.insertNonce address next) k)
      (Function.update φ i (.signing start (current + 1))) := by
  have hlive : (p.tasks i).next? ≠ none := by
    rw [hi]
    exact Option.some_ne_none _
  obtain ⟨hc, hothers⟩ := hI.last i start current hφi hlive
  have hbelow := hI.below i start current hφi
  have htracked : ((p.after signerHandler i (.insertNonce address next) k).shared.tracked address).toNat =
      current + 1 := by
    rw [← hn]
    exact congrArg BitVec.toNat (SignerState.tracked_insert_self ..)
  refine ⟨hI.wallet, fun j start' current' hj => ?_, fun j start' current' hj => ?_,
    fun j start' current' hj hlive => ?_, fun j j' start' current' start'' current'' hne hj hj' => ?_⟩
  · have hj₀ : ∃ c, φ j = .signing start' c := by
      rcases signing_of_update hj with ⟨rfl, rfl, -⟩ | ⟨-, hj⟩
      · exact ⟨current, hφi⟩
      · exact ⟨current', hj⟩
    obtain ⟨c, hj₀⟩ := hj₀
    exact (hI.started j start' c hj₀).append
  · rw [htracked]
    rcases signing_of_update hj with ⟨-, rfl, rfl⟩ | ⟨-, hj⟩
    · omega
    · have := hI.below j start' current' hj
      omega
  · rw [htracked]
    rcases signing_of_update hj with ⟨rfl, rfl, rfl⟩ | ⟨hji, hj⟩
    · refine ⟨rfl, fun j' start'' current'' hne hj' => ?_⟩
      rw [Function.update_of_ne hne] at hj'
      rw [Pool.after_tasks_of_ne _ _ hne]
      exact hothers j' start'' current'' hne hj'
    · rw [Pool.after_tasks_of_ne _ _ hji] at hlive
      exact absurd (hothers j start' current' hji hj).2 hlive
  · rcases signing_of_update hj with ⟨rfl, rfl, rfl⟩ | ⟨hji, h⟩ <;>
      rcases signing_of_update hj' with ⟨rfl, rfl, rfl⟩ | ⟨hji', h'⟩
    · exact absurd rfl hne
    · exact .inr (hothers j' start'' current'' hji' h').1
    · exact .inl (hothers j start' current' hji h).1
    · exact hI.apart j j' start' current' start'' current'' hne h h'

/-- **Disjoint nonces**: however any number of builds interleave, as long as none reads its
starting nonce while another that has read its own is still running, no two of the bundles
built have an own nonce in common. -/
theorem own_nonces_disjoint
    (hr : Pool.Reach signerHandler OneAtATime (.start s₀ fun i => B.buildBundleWithParams (calls i)) p) :
    OwnNoncesDisjoint p := by
  -- The address is that of the default wallet; without one, nobody signs.
  obtain ⟨address, haddr⟩ : ∃ address, ∀ w, s₀.defaultWallet = some w → B.ethers.address w = address := by
    rcases s₀.defaultWallet with _ | w
    · exact ⟨0, fun w h => by cases h⟩
    · exact ⟨B.ethers.address w, fun w' h => by cases h; rfl⟩
  have hfollows : ∀ i, (buildProtocol B.ethers s₀.defaultWallet).Follows BuildEnds .before
      (B.buildBundleWithParams (calls i)) := fun i => buildBundle_follows B (calls i)
  have hstart : RangesApart s₀.defaultWallet address (.start s₀ fun i => B.buildBundleWithParams (calls i))
      fun _ : ι => .before := by
    refine ⟨rfl, ?_, ?_, ?_, ?_⟩ <;> intros <;> contradiction
  obtain ⟨φ, hI, hφ⟩ := Protocol.exists_phases hr hfollows (RangesApart s₀.defaultWallet address) hstart
    (fun p φ op hI => by
      cases op with
      | getDefaultWallet => exact hI.wallet
      | takeNonce | getTrackedNonce | insertNonce => trivial)
    (by
      intro p φ i op k φ' hI hG hi hm
      generalize hr : (signerHandler op p.shared).1 = reply at hm
      generalize hφi : φ i = φi at hm
      cases hm with
      | getWallet =>
        rw [← hφi, Function.update_eq_self]
        exact hI.getWallet hi
      | start hw =>
        subst hr
        obtain rfl := haddr _ hw
        exact hI.read (hG (by rw [hi]; rfl))
      | write hw hn =>
        obtain rfl := haddr _ hw
        exact hI.write hi hφi hn)
  intro i j x y hij hx hy n hnx hny
  have hi := hφ i
  have hj := hφ j
  rw [hx] at hi
  rw [hy] at hj
  obtain ⟨start, hi, hxs⟩ := hi x rfl
  obtain ⟨start', hj, hys⟩ := hj y rfl
  rw [hxs, List.mem_range'_1] at hnx
  rw [hys, List.mem_range'_1] at hny
  have := hI.apart i j _ _ _ _ hij hi hj
  omega

/-- Two sandwiches, built by turns. -/
def twoBuilds (turns : List (Fin 2)) : SignerPool Unit (Fin 2) Bundle :=
  .runSchedule signerHandler turns
    (.start ⟨fun _ => none, some ()⟩ fun _ => BundleBuilder.sample.buildBundleWithParams (.sandwich sampleTarget))

/-- One build, and then the other. -/
theorem own_nonces_disjoint_one_after_other :
    OwnNoncesDisjoint (twoBuilds [0, 0, 0, 0, 0, 0, 1, 1, 1, 1, 1, 1]) :=
  own_nonces_disjoint (Pool.reach_of_admits (by decide +kernel))

/-- **Concurrent builds share nonces**: both read 0 before either has signed. -/
theorem concurrent_builds_share_nonces :
    Pool.Reach signerHandler Pool.AnyStep (twoBuilds []) (twoBuilds [0, 0, 1, 1, 0, 0, 0, 0, 1, 1, 1, 1]) ∧
      ¬ OwnNoncesDisjoint (twoBuilds [0, 0, 1, 1, 0, 0, 0, 0, 1, 1, 1, 1]) := by
  refine ⟨Pool.reach_runSchedule _ _, fun hd => ?_⟩
  have hboth : ∀ i, ((twoBuilds [0, 0, 1, 1, 0, 0, 0, 0, 1, 1, 1, 1]).tasks i).result?.map
      (Except.map Bundle.ownNonces) = some (.ok [0, 1]) := by decide +kernel
  obtain ⟨x, hx, hx0⟩ := Async.exists_returned (hboth 0)
  obtain ⟨y, hy, hy0⟩ := Async.exists_returned (hboth 1)
  have h0 := hd 0 1 x y (by decide) hx hy
  rw [hx0, hy0] at h0
  exact h0 (List.mem_cons_self ..) (List.mem_cons_self ..)

end Botmev.Bundles
