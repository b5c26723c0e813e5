import Botmev.Core.StateManager
import Mathlib.Data.List.Induction

/-!
# Nonces of senders

Transactions are reported and old ones are cleaned up, in any order. The nonce tracker is
written from the entry that is kept under the hash, which is the first one reported and
may be gone later; where all reports of a hash have the sender and the nonce in common,
that makes no difference.

## What is proved

* `touchPending_ok`: what a report that does not panic does to the pending transactions.
* `nonce_tracking`: the nonce of a sender is the highest one ever reported.
-/

namespace Botmev.Core

open Botmev.Rust Botmev.Library

/-- What may happen to the pending transactions. -/
inductive PendingStep where
  /-- `update_pending_transaction`. -/
  | update (now : DateTime) (txHash : String) (txData : PendingTransactionState)
  /-- `cleanup_expired_transactions`. -/
  | cleanup (now : DateTime)

/-- A transaction, as it was reported under its hash. -/
abbrev Report := String × PendingTransactionState

namespace PendingStep

/-- The step. -/
def apply (calendar : Calendar) : PendingStep → StateManager → Result Unit × StateManager
  | .update now txHash txData => StateManager.updatePendingTransaction calendar now txHash txData
  | .cleanup now => StateManager.cleanupExpiredTransactions calendar now

/-- What the step reports. -/
def report? : PendingStep → Option Report
  | .update _ txHash txData => some (txHash, txData)
  | .cleanup _ => none

/-- One step after the other, up to a panic. -/
def run (calendar : Calendar) : List PendingStep → StateManager → Result StateManager
  | [], s => .ok s
  | step :: steps, s =>
    match step.apply calendar s with
    | (.ok (), s) => run calendar steps s
    | (.error e, _) => .error e

/-- What the steps report. -/
def reports (steps : List PendingStep) : List Report := steps.filterMap report?

end PendingStep

/-- Each hash is reported with the same sender and nonce always. -/
def SameOrigin (reports : List Report) : Prop :=
  ∀ x ∈ reports, ∀ y ∈ reports, x.1 = y.1 → x.2.fromAddress = y.2.fromAddress ∧ x.2.nonce = y.2.nonce

/-- The highest nonce that was reported of the sender, zero if there is none. -/
def highestNonce (address : String) (reports : List Report) : ℕ :=
  ((reports.filter fun x => x.2.fromAddress == address).map fun x => x.2.nonce.toNat).foldl max 0

namespace StateManager

variable {calendar : Calendar} {config : StateManagerConfig} {now : DateTime} {txHash : String}
  {txData tx : PendingTransactionState} {pending pending' : Table String PendingTransactionState}
  {s s' : StateManager}

/-! ### What a step does -/

theorem lookup_cleanupOldTransactions (h : cleanupOldTransactions calendar config now pending = .ok pending')
    {hash : String} (hv : pending'.lookup hash = some tx) : pending.lookup hash = some tx := by
  simp only [cleanupOldTransactions, bind_eq_ok_iff] at h
  obtain ⟨cutoff, -, h⟩ := h
  cases h
  rw [Table.lookup_eraseAll] at hv
  split at hv
  · cases hv
  · exact hv

/-- A report that does not panic finds an entry: the one that was there, but for when and
how often it was seen, or else the one reported. All others are those that were there. -/
theorem touchPending_ok (h : touchPending calendar config now txHash txData pending = (.ok tx, pending')) :
    pending'.lookup txHash = some tx ∧
      (∀ hash ≠ txHash, ∀ other, pending'.lookup hash = some other → pending.lookup hash = some other) ∧
      ((∃ existing, pending.lookup txHash = some existing ∧ tx.fromAddress = existing.fromAddress ∧
          tx.nonce = existing.nonce) ∨ pending.lookup txHash = none ∧ tx = txData) := by
  unfold touchPending at h
  split at h
  · rename_i existing hexisting
    split at h
    · cases h
    · rename_i seenCount _
      cases h
      refine ⟨AList.lookup_insert _, fun hash hne other hother => ?_, .inl ⟨existing, hexisting, rfl, rfl⟩⟩
      rwa [AList.lookup_insert_ne hne] at hother
  · rename_i hnone
    split at h
    · cases h
    · rename_i kept hkept
      -- What is kept is among what was there with the entry reported.
      have hsub : ∀ hash other, kept.lookup hash = some other →
          (pending.insert txHash txData).lookup hash = some other := by
        intro hash other hother
        unfold maintainMax at hkept
        split at hkept
        · exact lookup_cleanupOldTransactions hkept hother
        · cases hkept
          exact hother
      split at h
      · rename_i entry hentry
        cases h
        refine ⟨hentry, fun hash hne other hother => ?_, .inr ⟨hnone, ?_⟩⟩
        · rw [← AList.lookup_insert_ne hne]
          exact hsub hash other hother
        · have := hsub txHash tx hentry
          rw [AList.lookup_insert, Option.some.injEq] at this
          exact this.symm
      · cases h

theorem lookup_trackNonce (tx : PendingTransactionState) (nonceTracker : Table String U64)
    (address : String) :
    (((trackNonce tx nonceTracker).lookup address).getD 0).toNat =
      if tx.fromAddress = address then max ((nonceTracker.lookup address).getD 0).toNat tx.nonce.toNat
      else ((nonceTracker.lookup address).getD 0).toNat := by
  unfold trackNonce
  by_cases haddress : tx.fromAddress = address
  · subst haddress
    rw [if_pos rfl]
    dsimp only
    split
    · rename_i hlt
      have hlt := BitVec.lt_def.mp hlt
      rw [AList.lookup_insert, Option.getD_some]
      omega
    · rename_i hle
      have hle := BitVec.le_def.mp (BitVec.not_lt.mp hle)
      omega
  · rw [if_neg haddress]
    dsimp only
    split
    · rw [AList.lookup_insert_ne (Ne.symm haddress)]
    · rfl

/-! ### The invariant -/

theorem highestNonce_concat (address : String) (reports : List Report) (x : Report) :
    highestNonce address (reports ++ [x]) =
      if x.2.fromAddress = address then max (highestNonce address reports) x.2.nonce.toNat
      else highestNonce address reports := by
  unfold highestNonce
  by_cases haddress : x.2.fromAddress = address
  · rw [if_pos haddress, List.filter_append, List.filter_cons_of_pos (by simpa using haddress),
      List.filter_nil, List.map_append, List.foldl_append]
    rfl
  · rw [if_neg haddress, List.filter_append, List.filter_cons_of_neg (by simpa using haddress),
      List.filter_nil, List.append_nil]

theorem highestNonce_le_append (address : String) (xs ys : List Report) :
    highestNonce address xs ≤ highestNonce address (xs ++ ys) := by
  induction ys using List.reverseRecOn with
  | nil => rw [List.append_nil]
  | append_singleton ys y ih =>
    rw [← List.append_assoc, highestNonce_concat]
    split
    · exact Nat.le_trans ih (Nat.le_max_left ..)
    · exact ih

theorem highestNonce_append_of_ne {address : String} (xs : List Report) {ys : List Report}
    (h : ∀ y ∈ ys, y.2.fromAddress ≠ address) :
      highestNonce address (xs ++ ys) = highestNonce address xs := by
  have hnil : ys.filter (fun y => y.2.fromAddress == address) = [] := by
    rw [List.filter_eq_nil_iff]
    intro y hy
    simpa using h y hy
  rw [highestNonce, List.filter_append, hnil, List.append_nil]
  rfl

/-- The entries are of transactions that were reported, and the nonces are the highest
reported. -/
structure Tracks (reports : List Report) (s : StateManager) : Prop where
  /-- An entry has the sender and the nonce of a report. -/
  entry : ∀ hash tx, s.pendingTransactions.value.lookup hash = some tx →
    ∃ x ∈ reports, x.1 = hash ∧ x.2.fromAddress = tx.fromAddress ∧ x.2.nonce = tx.nonce
  /-- The nonces. -/
  nonce : ∀ address, (s.getCurrentNonce address).toNat = highestNonce address reports

theorem tracks_new (config : StateManagerConfig) : Tracks [] (new config) := by
  refine ⟨fun hash tx h => ?_, fun address => rfl⟩
  cases h

theorem write_eq_ok {lock : RwLock (Table String PendingTransactionState)}
    (h : lock.write = .ok pending) :
    lock.value = pending := by
  unfold RwLock.write at h
  split at h
  · cases h
  · exact Except.ok.inj h

theorem Tracks.update {reports : List Report} (hI : Tracks reports s)
    (hsame : SameOrigin (reports ++ [(txHash, txData)]))
    (h : s.updatePendingTransaction calendar now txHash txData = (.ok (), s')) :
    Tracks (reports ++ [(txHash, txData)]) s' := by
  unfold updatePendingTransaction at h
  split at h
  · cases h
  rename_i pending hlock
  split at h
  · cases h
  rename_i tx pending' htouch
  cases h
  obtain ⟨hlookup, hothers, hentry⟩ := touchPending_ok htouch
  rw [← write_eq_ok hlock] at hothers hentry
  -- The entry that is read has the sender and the nonce of the report.
  have htx : tx.fromAddress = txData.fromAddress ∧ tx.nonce = txData.nonce := by
    rcases hentry with ⟨existing, hexisting, hfrom, hnonce⟩ | ⟨-, rfl⟩
    · obtain ⟨x, hx, hhash, hxfrom, hxnonce⟩ := hI.entry txHash existing hexisting
      obtain ⟨h₁, h₂⟩ := hsame x (List.mem_append_left _ hx) (txHash, txData)
        (List.mem_append_right _ (List.mem_singleton_self _)) hhash
      exact ⟨hfrom.trans (hxfrom.symm.trans h₁), hnonce.trans (hxnonce.symm.trans h₂)⟩
    · exact ⟨rfl, rfl⟩
  refine ⟨fun hash other hother => ?_, fun address => ?_⟩
  · by_cases hne : hash = txHash
    · subst hne
      cases hlookup.symm.trans hother
      exact ⟨_, List.mem_append_right _ (List.mem_singleton_self _), rfl, htx.1.symm, htx.2.symm⟩
    · obtain ⟨x, hx, hxs⟩ := hI.entry hash other (hothers hash hne other hother)
      exact ⟨x, List.mem_append_left _ hx, hxs⟩
  · rw [highestNonce_concat, ← hI.nonce, ← htx.1, ← htx.2]
    exact lookup_trackNonce tx s.nonceTracker address

theorem Tracks.cleanup {reports : List Report} (hI : Tracks reports s)
    (h : s.cleanupExpiredTransactions calendar now = (.ok (), s')) : Tracks reports s' := by
  unfold cleanupExpiredTransactions at h
  split at h
  · cases h
  rename_i pending hlock
  split at h
  · cases h
  rename_i pending' hcleanup
  cases h
  refine ⟨fun hash tx htx => hI.entry hash tx ?_, hI.nonce⟩
  rw [write_eq_ok hlock]
  exact lookup_cleanupOldTransactions hcleanup htx

theorem Tracks.run {reports : List Report} {steps : List PendingStep} (hI : Tracks reports s)
    (hsame : SameOrigin (reports ++ PendingStep.reports steps)) (h : PendingStep.run calendar steps s = .ok s') :
    Tracks (reports ++ PendingStep.reports steps) s' := by
  induction steps generalizing s reports with
  | nil =>
    cases h
    simpa [PendingStep.reports] using hI
  | cons step steps ih =>
    unfold PendingStep.run at h
    split at h
    · rename_i s₁ hstep
      cases step with
      | update now txHash txData =>
        have hreports : reports ++ PendingStep.reports (.update now txHash txData :: steps) =
            reports ++ [(txHash, txData)] ++ PendingStep.reports steps := by
          rw [List.append_assoc]
          rfl
        rw [hreports] at hsame ⊢
        refine ih (hI.update (fun x hx y hy => hsame x ?_ y ?_) hstep) hsame h
        · exact List.mem_append_left _ hx
        · exact List.mem_append_left _ hy
      | cleanup now => exact ih (hI.cleanup hstep) hsame h
    · cases h

/-- **Nonces are tracked**: after any reports and clean-ups without a panic, the nonce of a
sender is the highest one that was ever reported of it. So it never goes down, whatever is
taken away, and what is reported of others makes no difference to it. -/
theorem nonce_tracking {steps : List PendingStep} (hsame : SameOrigin (PendingStep.reports steps))
    (hrun : PendingStep.run calendar steps (new config) = .ok s) :
    (∀ address, (s.getCurrentNonce address).toNat = highestNonce address (PendingStep.reports steps)) ∧
      ∀ earlier later s₁, steps = earlier ++ later →
        PendingStep.run calendar earlier (new config) = .ok s₁ →
        ∀ address, s₁.getCurrentNonce address ≤ s.getCurrentNonce address ∧
          ((∀ x ∈ PendingStep.reports later, x.2.fromAddress ≠ address) →
            s₁.getCurrentNonce address = s.getCurrentNonce address) := by
  have hI : Tracks (PendingStep.reports steps) s := (tracks_new config).run hsame hrun
  refine ⟨hI.nonce, ?_⟩
  rintro earlier later s₁ rfl hrun₁ address
  have hreports : PendingStep.reports (earlier ++ later) =
      PendingStep.reports earlier ++ PendingStep.reports later := List.filterMap_append
  have hI₁ : Tracks (PendingStep.reports earlier) s₁ := by
    refine (tracks_new config).run (fun x hx y hy => hsame x ?_ y ?_) hrun₁
    · rw [hreports]
      exact List.mem_append_left _ hx
    · rw [hreports]
      exact List.mem_append_left _ hy
  have hnonce := hI.nonce address
  rw [hreports] at hnonce
  constructor
  · rw [BitVec.le_def, hI₁.nonce, hnonce]
    exact highestNonce_le_append ..
  · intro hothers
    rw [← BitVec.toNat_inj, hI₁.nonce, hnonce, highestNonce_append_of_ne _ hothers]

/-- A transaction of a sender with the nonce. -/
def sampleTransaction (sender : String) (nonce : U64) (firstSeen : DateTime) :
    PendingTransactionState where
  fromAddress := sender
  toAddress := none
  nonce := nonce
  firstSeen := firstSeen
  lastSeen := firstSeen
  seenCount := 1
  status := .pending

/-- Two transactions are reported, and then there is a clean-up. -/
def sampleSteps : List PendingStep :=
  [.update 0 "0x1" (sampleTransaction "0xa" 7 0),
    .update (2 * 10 ^ 9) "0x2" (sampleTransaction "0xa" 5 (2 * 10 ^ 9)), .cleanup (2 * 10 ^ 9)]

/-- The transaction with the highest nonce is gone, its nonce is not. -/
theorem nonce_tracking_after_cleanup :
    ∃ s, PendingStep.run .utc sampleSteps (new ⟨10, 1, 1⟩) = .ok s ∧
      s.pendingTransactions.value.lookup "0x1" = none ∧ (s.getCurrentNonce "0xa").toNat = 7 := by
  have hrun : ∃ s, PendingStep.run .utc sampleSteps (new ⟨10, 1, 1⟩) = .ok s ∧
      s.pendingTransactions.value.lookup "0x1" = none := ⟨_, rfl, by decide⟩
  obtain ⟨s, hrun, hnone⟩ := hrun
  refine ⟨s, hrun, hnone, ?_⟩
  have hsame : SameOrigin (PendingStep.reports sampleSteps) := by
    unfold SameOrigin
    decide
  rw [(nonce_tracking hsame hrun).1]
  decide

end StateManager

end Botmev.Core
