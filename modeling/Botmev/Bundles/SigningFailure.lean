import Botmev.Bundles.Signer

/-!
# Failures to sign

The nonces `Sequential` and `Network` are counted up in the tracker when they are taken, before the
wallet signs. If it cannot sign, nobody counts back. A fixed nonce is not tracked before the
transaction is signed.

## What is proved

* `run_getNonce`: what taking a nonce does to the tracker.
* `failure_keeps_tracker_iff`: a call that returns an error has left the tracker alone just when the
  nonce is fixed, cannot be counted up, or the wallet can sign with it.
* `failure_skips_nonce`: a nonce that is taken and not used.
-/

namespace Botmev.Bundles

open Botmev.Rust Botmev.Library

variable {Wallet Signature : Type} {E : Ethers Wallet Signature} {chainId : U64} {wallet : Wallet}
  {template : TransactionTemplate} {nonceStrategy : NonceStrategy} {maxFeePerGas maxPriorityFeePerGas : U256}
  {s : SignerState Wallet} {address : Address}

/-- **A failure keeps the tracker**: if the call returns an error, every nonce is tracked as before. -/
def FailureKeepsTracker (E : Ethers Wallet Signature) (chainId : U64) (wallet : Wallet)
    (template : TransactionTemplate) (nonceStrategy : NonceStrategy) (maxFeePerGas maxPriorityFeePerGas : U256)
    (s : SignerState Wallet) : Prop :=
  ∀ message s', (signTransactionWithWallet E chainId wallet template nonceStrategy maxFeePerGas
      maxPriorityFeePerGas).run signerHandler s = (.error (.err message), s') →
    ∀ address, s'.nonceTracker address = s.nonceTracker address

/-- The wallet signs the transaction with this nonce. -/
def Signs (E : Ethers Wallet Signature) (chainId : U64) (wallet : Wallet) (template : TransactionTemplate)
    (maxFeePerGas maxPriorityFeePerGas nonce : U256) : Prop :=
  ∃ signature, E.signTransaction wallet
    (eip1559Request chainId template nonce maxFeePerGas maxPriorityFeePerGas) = .ok signature

/-- The nonce is fixed. -/
def NonceStrategy.IsFixed : NonceStrategy → Prop
  | .fixed _ => True
  | .sequential | .network => False

/-- **To take a nonce** counts the tracker up, unless it cannot be counted up. -/
theorem run_getNonce (hnot : ¬ nonceStrategy.IsFixed) :
    (getNonce address nonceStrategy).run signerHandler s = signerHandler (.takeNonce address) s := by
  cases nonceStrategy with
  | fixed nonce => exact absurd trivial hnot
  | sequential | network => rfl

theorem exists_panic_of_add {a b : U256} {e : Failure} (h : U256.add a b = .error e) :
    ∃ message, e = .panic message := by
  unfold U256.add at h
  split at h
  · cases h
  · cases h
    exact ⟨_, rfl⟩

/-- Once there is a nonce, the call returns an error just when the wallet does not sign; nothing has
happened since. -/
theorem run_error_iff {nonce : U256} {s₁ s' : SignerState Wallet} {message : String}
    (hnonce : (getNonce (E.address wallet) nonceStrategy).run signerHandler s = (.ok nonce, s₁)) :
    (signTransactionWithWallet E chainId wallet template nonceStrategy maxFeePerGas maxPriorityFeePerGas).run
        signerHandler s = (.error (.err message), s') ↔
      E.signTransaction wallet (eip1559Request chainId template nonce maxFeePerGas maxPriorityFeePerGas) =
        .error message ∧ s' = s₁ := by
  rw [signTransactionWithWallet, Async.run_bind_of_ok _ hnonce]
  rcases hsign : E.signTransaction wallet (eip1559Request chainId template nonce maxFeePerGas maxPriorityFeePerGas) with
    reason | signature
  · simp only [hsign, anyhow, Async.lift_eq, Async.error_bind, Async.run_done, Prod.mk.injEq,
      Except.error.injEq,
      Failure.err.injEq, @eq_comm _ s₁]
  · rcases hadd : U256.add nonce 1 with e | next
    · obtain ⟨panic, rfl⟩ := exists_panic_of_add hadd
      simp [hsign, anyhow]
    · simp [hsign, anyhow, updateNonce, Async.request]

theorem insert_ne {next : U256} (hnext : next.toNat = (s.tracked address).toNat + 1) :
    (s.insert address next).nonceTracker address ≠ s.nonceTracker address := by
  intro heq
  have hself : (s.insert address next).tracked address = next :=
    SignerState.tracked_insert_self s address next
  rw [SignerState.tracked, heq] at hself
  rw [SignerState.tracked, hself] at hnext
  omega

theorem failureKeepsTracker_of_isFixed (hfixed : nonceStrategy.IsFixed) :
    FailureKeepsTracker E chainId wallet template nonceStrategy maxFeePerGas maxPriorityFeePerGas s := by
  intro message s' hrun address
  cases nonceStrategy with
  | fixed nonce =>
    have hnonce : (getNonce (E.address wallet) (.fixed nonce)).run signerHandler s = (.ok (U256.ofUint nonce), s) := rfl
    obtain ⟨-, rfl⟩ := (run_error_iff hnonce).mp hrun
    rfl
  | sequential | network => exact hfixed.elim

theorem toNat_of_add_one_error {a : U256} {e : Failure} (hadd : U256.add a 1 = .error e) :
    a.toNat = 2 ^ 256 - 1 := by
  have hnot : ¬ ∃ next, U256.add a 1 = .ok next := by
    rintro ⟨next, hnext⟩
    rw [hadd] at hnext
    cases hnext
  rw [U256.exists_add_eq_ok_iff] at hnot
  have hone : (1 : U256).toNat = 1 := rfl
  have := a.isLt
  omega

/-- Where the nonce cannot be counted up, the call panics, and returns no error. -/
theorem failureKeepsTracker_of_add_error {e : Failure} (hfixed : ¬ nonceStrategy.IsFixed)
    (hadd : U256.add (s.tracked (E.address wallet)) 1 = .error e) :
    FailureKeepsTracker E chainId wallet template nonceStrategy maxFeePerGas maxPriorityFeePerGas s := by
  have htake : (getNonce (E.address wallet) nonceStrategy).run signerHandler s = (.error e, s) := by
    rw [run_getNonce hfixed]
    simp only [signerHandler, hadd]
  obtain ⟨panic, rfl⟩ := exists_panic_of_add hadd
  intro message s' hrun
  rw [signTransactionWithWallet, Async.run_bind_of_error _ htake] at hrun
  cases hrun

theorem failureKeepsTracker_iff_signs {next : U256} (hfixed : ¬ nonceStrategy.IsFixed)
    (hadd : U256.add (s.tracked (E.address wallet)) 1 = .ok next) :
    FailureKeepsTracker E chainId wallet template nonceStrategy maxFeePerGas maxPriorityFeePerGas s ↔
      Signs E chainId wallet template maxFeePerGas maxPriorityFeePerGas (s.tracked (E.address wallet)) := by
  have htake : (getNonce (E.address wallet) nonceStrategy).run signerHandler s =
      (.ok (s.tracked (E.address wallet)), s.insert (E.address wallet) next) := by
    rw [run_getNonce hfixed]
    simp only [signerHandler, hadd]
  have hnext := U256.add_one_eq_ok_iff.mp hadd
  constructor
  · intro hkeeps
    rcases hsign : E.signTransaction wallet (eip1559Request chainId template (s.tracked (E.address wallet))
      maxFeePerGas maxPriorityFeePerGas) with message | signature
    · exact absurd (hkeeps message _ ((run_error_iff htake).mpr ⟨hsign, rfl⟩) (E.address wallet)) (insert_ne hnext)
    · exact ⟨signature, hsign⟩
  · rintro ⟨signature, hsign⟩ message s' hrun
    rw [((run_error_iff htake).mp hrun).1] at hsign
    cases hsign

/-- **Failures keep the tracker** just when the nonce is fixed, cannot be counted up, or is one that
the wallet signs with. -/
theorem failure_keeps_tracker_iff :
    FailureKeepsTracker E chainId wallet template nonceStrategy maxFeePerGas maxPriorityFeePerGas s ↔
      nonceStrategy.IsFixed ∨ (s.tracked (E.address wallet)).toNat = 2 ^ 256 - 1 ∨
        Signs E chainId wallet template maxFeePerGas maxPriorityFeePerGas (s.tracked (E.address wallet)) := by
  by_cases hfixed : nonceStrategy.IsFixed
  · exact iff_of_true (failureKeepsTracker_of_isFixed hfixed) (.inl hfixed)
  · rw [or_iff_right hfixed]
    rcases hadd : U256.add (s.tracked (E.address wallet)) 1 with e | next
    · exact iff_of_true (failureKeepsTracker_of_add_error hfixed hadd) (.inl (toNat_of_add_one_error hadd))
    · have hmax : ¬ (s.tracked (E.address wallet)).toNat = 2 ^ 256 - 1 := by
        have hnext := U256.add_one_eq_ok_iff.mp hadd
        have := next.isLt
        omega
      rw [or_iff_right hmax]
      exact failureKeepsTracker_iff_signs hfixed hadd

/-- A wallet that does not sign. -/
def Ethers.refusing : Ethers Unit Unit := { Ethers.sample with signTransaction := fun _ _ => .error "locked" }

/-- **A nonce is skipped**: the wallet refuses, and the next call gets another nonce. -/
theorem failure_skips_nonce :
    ¬ FailureKeepsTracker Ethers.refusing 998 () ⟨some 0, 0, 300000, []⟩ .sequential 100 2
      (⟨fun _ => some 7, some ()⟩ : SignerState Unit) := by
  intro h
  have hkept := h "locked" _ rfl 0xa11ce
  revert hkept
  decide

end Botmev.Bundles
