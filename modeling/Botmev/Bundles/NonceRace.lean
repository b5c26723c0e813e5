import Botmev.Bundles.Signer

/-!
# Signing concurrently

Any number of `sign_transaction_with_wallet` calls for one address, with
`NonceStrategy::Sequential` or `Network`, interleaved at their sections under the lock.
`get_nonce` hands out the tracked nonce and counts it up in one section, so no two calls
are handed the same nonce as long as the tracker does not go back. But `update_nonce`
stores the call's own nonce plus one *again*, whenever the call has signed: if another
call was handed a nonce in between, the tracker goes back and hands that one out twice.

## What is proved

* `late_write_repeats_nonce`: three calls, two of which sign with the same nonce.
* `nonces_distinct`: as long as no call's `update_nonce` finds the tracker past the value
  it stores, all nonces signed with are distinct.
-/

namespace Botmev.Bundles

open Botmev.Rust Botmev.Library

variable {Wallet Signature ι : Type} [DecidableEq ι]

/-- The arguments of `sign_transaction_with_wallet`. -/
structure SignCall (Wallet : Type) where
  /-- The wallet that signs. -/
  wallet : Wallet
  /-- What it signs. -/
  template : TransactionTemplate
  /-- Where the nonce comes from. -/
  nonceStrategy : NonceStrategy
  /-- The fee. -/
  maxFeePerGas : U256
  /-- The priority fee. -/
  maxPriorityFeePerGas : U256

/-- The call. -/
def SignCall.task (E : Ethers Wallet Signature) (chainId : U64) (call : SignCall Wallet) :
    SignerM Wallet SignedTransaction :=
  signTransactionWithWallet E chainId call.wallet call.template call.nonceStrategy call.maxFeePerGas
    call.maxPriorityFeePerGas

/-- The nonce comes from the tracker. -/
def NonceStrategy.Tracked : NonceStrategy → Prop
  | .fixed _ => False
  | .sequential | .network => True

/-- The nonces of the transactions signed so far are pairwise distinct. -/
def SignedNoncesDistinct (p : SignerPool Wallet ι SignedTransaction) : Prop :=
  ∀ i j x y, i ≠ j → p.tasks i = .done (.ok x) → p.tasks j = .done (.ok y) → x.nonce ≠ y.nonce

/-- If the step is an `update_nonce`, the tracker is not past the nonce it stores. -/
def NoLateWrite (address : Address) (p : SignerPool Wallet ι SignedTransaction) (i : ι) : Prop :=
  match (p.tasks i).next? with
  | some (.insertNonce _ nonce) => (p.shared.tracked address).toNat ≤ nonce.toNat
  | _ => True

instance (address : Address) (p : SignerPool Wallet ι SignedTransaction) (i : ι) :
    Decidable (NoLateWrite address p i) := by
  unfold NoLateWrite
  split <;> infer_instance

/-! ### The protocol of a signing call -/

/-- Where a signing call is. -/
inductive SignPhase where
  /-- It has no nonce yet. -/
  | idle
  /-- It has been handed a nonce, and has still to write the tracker. -/
  | holding (nonce : U256)
  /-- It has written the tracker. -/
  | signed (nonce : U256)

/-- The nonce a call has been handed. -/
def SignPhase.nonce? : SignPhase → Option U256
  | .idle => none
  | .holding nonce | .signed nonce => some nonce

/-- What a signing call may ask for: a nonce, and then to store the one after it. -/
inductive SignMove (Wallet : Type) (address : Address) :
    SignPhase → (op : SignerOp) → (SignerI Wallet).Reply op → SignPhase → Prop
  /-- A nonce is handed out. -/
  | take {nonce : U256} : SignMove Wallet address .idle (.takeNonce address) (.ok nonce) (.holding nonce)
  /-- The tracked nonce cannot be counted up. -/
  | overflow {e : Failure} : SignMove Wallet address .idle (.takeNonce address) (.error e) .idle
  /-- The nonce after it is stored. -/
  | write {nonce next : U256} (h : next.toNat = nonce.toNat + 1) :
      SignMove Wallet address (.holding nonce) (.insertNonce address next) () (.signed nonce)

/-- The protocol of the signing calls for an address. -/
@[reducible] def signProtocol (Wallet : Type) (address : Address) : Protocol (SignerI Wallet) where
  Phase := SignPhase
  legal _ _ := True
  move := SignMove Wallet address

/-- A call that returns a transaction has written the tracker, and signed with the nonce
it was handed. -/
def SignEnds (φ : SignPhase) (r : Result SignedTransaction) : Prop := ∀ tx, r = .ok tx →
  φ = .signed tx.nonce

/-- **A signing call follows the protocol.** -/
theorem SignCall.follows (E : Ethers Wallet Signature) (chainId : U64) {call : SignCall Wallet}
    (hs : call.nonceStrategy.Tracked) :
    (signProtocol Wallet (E.address call.wallet)).Follows SignEnds .idle (call.task E chainId) := by
  obtain ⟨wallet, template, nonceStrategy, maxFee, maxPriorityFee⟩ := call
  -- The two strategies ask for the same section.
  have hget : (getNonce (E.address wallet) nonceStrategy : SignerM Wallet U256) =
      Async.await (I := SignerI Wallet) (.takeNonce (E.address wallet)) fun nonce => .done nonce := by
    cases nonceStrategy with
    | fixed nonce => exact hs.elim
    | sequential => rfl
    | network => rfl
  simp only [task, signTransactionWithWallet, hget, Async.await_bind]
  rintro (e | nonce) -
  · exact ⟨.idle, .overflow, fun tx h => by cases h⟩
  refine ⟨.holding nonce, .take, ?_⟩
  simp only [Async.ok_bind, Async.lift_eq]
  rcases anyhow (E.signTransaction wallet _) with e | signature
  · exact fun tx h => by cases h
  simp only [Async.ok_bind]
  rcases hadd : U256.add nonce 1 with e | next
  · exact fun tx h => by cases h
  rintro ⟨⟩ -
  refine ⟨.signed nonce, .write (U256.add_one_eq_ok_iff.mp hadd), fun tx h => ?_⟩
  cases h
  rfl

/-! ### Distinct nonces -/

/-- The nonces handed out are below the tracked one, and no two calls have the same. -/
structure NoncesBelow (address : Address) (p : SignerPool Wallet ι SignedTransaction) (φ : ι → SignPhase) :
    Prop where
  /-- Every nonce handed out is below the tracked one. -/
  below : ∀ i nonce, (φ i).nonce? = some nonce → nonce.toNat < (p.shared.tracked address).toNat
  /-- No nonce is handed out twice. -/
  distinct : ∀ i j nonce, (φ i).nonce? = some nonce → (φ j).nonce? = some nonce → i = j

variable {E : Ethers Wallet Signature} {chainId : U64} {address : Address} {calls : ι → SignCall Wallet}
variable {s₀ : SignerState Wallet} {p : SignerPool Wallet ι SignedTransaction} {φ : ι → SignPhase} {i : ι}

/-- Handing out: the nonce is the tracked one, so it is new, and the tracker passes it. -/
theorem NoncesBelow.take (hI : NoncesBelow address p φ) {k : Result U256 → SignerM Wallet SignedTransaction}
    {nonce : U256} (hr : (signerHandler (.takeNonce address) p.shared).1 = .ok nonce) :
    NoncesBelow address (p.after signerHandler i (.takeNonce address) k)
      (Function.update φ i (.holding nonce)) := by
  obtain ⟨hn, next, hnext, hs⟩ := takeNonce_ok hr
  have hnew : ∀ j, (φ j).nonce? ≠ some nonce := by
    intro j hj
    have := hI.below j nonce hj
    rw [hn] at this
    omega
  have hphase : ∀ j n, ((Function.update φ i (.holding nonce)) j).nonce? = some n →
      j = i ∧ n = nonce ∨ (φ j).nonce? = some n := by
    intro j n hj
    by_cases hji : j = i
    · subst hji
      rw [Function.update_self] at hj
      exact .inl ⟨rfl, (Option.some.inj hj).symm⟩
    · rw [Function.update_of_ne hji] at hj
      exact .inr hj
  constructor
  · intro j n hj
    rw [Pool.after_shared, hs, SignerState.tracked_insert_self, hnext]
    rcases hphase j n hj with ⟨-, rfl⟩ | hj
    · omega
    · have := hI.below j n hj
      rw [← hn] at this
      omega
  · intro j j' n hj hj'
    rcases hphase j n hj with ⟨hji, hn⟩ | hj <;> rcases hphase j' n hj' with ⟨hji', hn'⟩ | hj'
    · rw [hji, hji']
    · exact absurd (hn ▸ hj') (hnew j')
    · exact absurd (hn' ▸ hj) (hnew j)
    · exact hI.distinct j j' n hj hj'

/-- Writing: a write that is not late finds the tracker where it puts it. -/
theorem NoncesBelow.write (hI : NoncesBelow address p φ) {k : Unit → SignerM Wallet SignedTransaction}
    {nonce next : U256} (hi : φ i = .holding nonce) (hnext : next.toNat = nonce.toNat + 1)
    (hG : (p.shared.tracked address).toNat ≤ next.toNat) :
    NoncesBelow address (p.after signerHandler i (.insertNonce address next) k)
      (Function.update φ i (.signed nonce)) := by
  have hbelow := hI.below i nonce (by rw [hi]; rfl)
  have hphase : ∀ j, ((Function.update φ i (.signed nonce)) j).nonce? = (φ j).nonce? := by
    intro j
    by_cases hji : j = i
    · subst hji
      rw [Function.update_self, hi]
      rfl
    · rw [Function.update_of_ne hji]
  constructor
  · intro j n hj
    rw [hphase] at hj
    have := hI.below j n hj
    show n.toNat < ((p.shared.insert address next).tracked address).toNat
    rw [SignerState.tracked_insert_self]
    omega
  · intro j j' n hj hj'
    rw [hphase] at hj hj'
    exact hI.distinct j j' n hj hj'

theorem NoncesBelow.keep (hI : NoncesBelow address p φ) {op : SignerOp}
    {k : (SignerI Wallet).Reply op → SignerM Wallet SignedTransaction} (hi : φ i = .idle)
    (hs : (signerHandler op p.shared).2 = p.shared) :
    NoncesBelow address (p.after signerHandler i op k) (Function.update φ i .idle) := by
  rw [← hi, Function.update_eq_self]
  refine ⟨?_, hI.distinct⟩
  rw [Pool.after_shared, hs]
  exact hI.below

/-- **Distinct nonces**: however any number of calls for an address interleave, and
whatever nonce is tracked at the start, as long as no `update_nonce` finds the tracker past
the value it stores, the transactions signed have pairwise distinct nonces. -/
theorem nonces_distinct (haddr : ∀ i, E.address (calls i).wallet = address)
    (hs : ∀ i, (calls i).nonceStrategy.Tracked)
    (hr : Pool.Reach signerHandler (NoLateWrite address) (.start s₀ fun i => (calls i).task E chainId) p) :
    SignedNoncesDistinct p := by
  have hfollows : ∀ i, (signProtocol Wallet address).Follows SignEnds .idle ((calls i).task E chainId) :=
    fun i => haddr i ▸ SignCall.follows E chainId (hs i)
  have hstart : NoncesBelow address (.start s₀ fun i => (calls i).task E chainId) fun _ : ι => .idle := by
    constructor <;> intros <;> contradiction
  obtain ⟨φ, hI, hφ⟩ := Protocol.exists_phases hr hfollows (NoncesBelow address) hstart
    (fun _ _ _ _ => trivial) (by
      intro p φ i op k φ' hI hG hi hm
      simp only [NoLateWrite, hi, Async.next?_await] at hG
      generalize hr : (signerHandler op p.shared).1 = reply at hm
      generalize hφi : φ i = φi at hm
      cases hm with
      | take => exact hI.take hr
      | overflow => exact hI.keep hφi (takeNonce_error hr)
      | write hnext => exact hI.write hφi hnext hG)
  intro i j x y hij hx hy hxy
  have hi := hφ i
  have hj := hφ j
  rw [hx] at hi
  rw [hy] at hj
  have hi := hi x rfl
  have hj := hj y rfl
  refine hij (hI.distinct i j x.nonce (by rw [hi]; rfl) ?_)
  rw [hj, hxy]
  rfl

/-- A call for the examples. -/
def SignCall.sample : SignCall Unit where
  wallet := ()
  template := ⟨some 0xcafe, 0, 21000, []⟩
  nonceStrategy := .sequential
  maxFeePerGas := 200000000000
  maxPriorityFeePerGas := 2000000000

/-- Two calls, one after the other. -/
theorem nonces_distinct_one_after_other :
    SignedNoncesDistinct (Pool.runSchedule signerHandler [0, 0, 1, 1]
      (.start ⟨fun _ => none, none⟩ fun _ : Fin 2 => SignCall.sample.task Ethers.sample 998)) :=
  nonces_distinct (by intro; rfl) (by intro; trivial)
    (Pool.reach_of_admits (by decide))

/-- **A late write repeats a nonce**: the first call stores its `1` after the second has
been handed nonce 1, and the third is handed nonce 1 again. -/
theorem late_write_repeats_nonce :
    ∃ p, Pool.Reach signerHandler Pool.AnyStep
        (.start ⟨fun _ => none, none⟩ fun _ : Fin 3 => SignCall.sample.task Ethers.sample 998) p ∧
      ¬ SignedNoncesDistinct p := by
  refine ⟨_, Pool.reach_runSchedule [0, 1, 0, 2, 1, 2] _, fun hd => ?_⟩
  exact hd 1 2 _ _ (by decide) rfl rfl rfl

end Botmev.Bundles
