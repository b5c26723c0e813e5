import Botmev.Hyperliquid.Reconnection
import Botmev.Hyperliquid.StatePolling
import Botmev.Rust.Str

/-!
# Waiting for a confirmation

`wait_for_confirmation` (`mev-hyperliquid/src/rpc_service.rs`) polls for the receipt of a transaction,
once a second, until it is there or the time is over. The timeout, a success and a transaction that was
reverted are each passed on as an event before the call returns. A receipt without a block number, or
without the gas used, is an error, too, and that one is returned without an event.

What the clock shows and what the node answers are given for each poll. The interval ticks at once and
then once a second; a late tick does not put off the next one. Of a receipt the fields are left out that
the call only hands on.

## What is proved

* `wait_ends`: the call returns.
* `waitPolls_cases`: at the timeout, or with the first receipt.
* `oneTerminalEvent_iff`: there is exactly one event, and the one of the result, just if the first
  receipt in time, if there is one, has both fields.
* `receipt_without_gas_used`: a success that nobody hears of.
-/

namespace Botmev.Hyperliquid

open Botmev.Rust

/-- What is read of a receipt. -/
structure TransactionReceipt where
  /-- `block_number`. -/
  blockNumber : Option U64
  /-- `gas_used`. -/
  gasUsed : Option U256
  /-- `status`. -/
  status : Option U64
  deriving DecidableEq, Repr

/-- A poll. -/
structure ReceiptPoll where
  /-- `start_time.elapsed()`, in nanoseconds. -/
  elapsed : ℕ
  /-- `get_transaction_receipt`. -/
  answer : Except String (Option TransactionReceipt)

/-- The receipt, if there is one: after an error it goes on polling. -/
def ReceiptPoll.receipt? (poll : ReceiptPoll) : Option TransactionReceipt := poll.answer.toOption.join

/-- The polls that there could be. -/
structure ReceiptPolls where
  /-- The polls. -/
  polls : ℕ → ReceiptPoll
  /-- `interval.tick()`: after the tick of a poll, so many seconds are over. -/
  ticks : ∀ k, fromSecs k ≤ (polls (k + 1)).elapsed

/-- What the call leaves: its result, and the events it has sent. -/
structure Confirmation where
  /-- The result. -/
  result : Result TransactionReceipt
  /-- The events. -/
  events : List StateUpdateEvent

namespace HyperLiquidRpcService

variable {Wallet : Type} (service : HyperLiquidRpcService Wallet) (txHash : H256)

/-- `if let Some(ref tx) = self.state_tx`: whether it could be sent is ignored. -/
def sendEvent (event : StateUpdateEvent) : List StateUpdateEvent := if service.stateTx then [event] else []

/-- "Check if timeout has been reached". -/
def timedOut (timeoutSecs : U64) : Confirmation :=
  let errorMsg := "Transaction confirmation timeout after " ++ toString timeoutSecs.toNat ++ "s"
  { result := .error (.err errorMsg), events := service.sendEvent (.transactionFailed txHash errorMsg) }

/-- "Transaction is confirmed": a receipt is there. -/
def confirm (receipt : TransactionReceipt) : Confirmation :=
  match receipt.blockNumber, receipt.gasUsed with
  | none, _ => { result := .error (.err "Receipt missing block number"), events := [] }
  | some _, none => { result := .error (.err "Receipt missing gas used"), events := [] }
  | some blockNumber, some gasUsed =>
    let status := (receipt.status.map fun s => decide (s = 1)).getD false
    if status then
      { result := .ok receipt
        events := service.sendEvent (.transactionConfirmed txHash blockNumber gasUsed status) }
    else
      { result := .error (.err ("Transaction reverted: " ++ hexEncode0x (U256.toBigEndian txHash) ++
          ". Gas used: " ++ toString gasUsed.toNat))
        events := service.sendEvent (.transactionFailed txHash "Transaction reverted on-chain") }

/-- The loop, with at most so many turns. -/
def waitPolls (timeoutSecs : U64) : (ℕ → ReceiptPoll) → ℕ → Option Confirmation
  | _, 0 => none
  | polls, k + 1 =>
    if fromSecs timeoutSecs.toNat ≤ (polls 0).elapsed then some (service.timedOut txHash timeoutSecs)
    else
      match (polls 0).answer with
      | .ok (some receipt) => some (service.confirm txHash receipt)
      | .ok none | .error _ => waitPolls timeoutSecs (fun i => polls (i + 1)) k

/-- `timeout_secs.unwrap_or(60)`. -/
def timeoutOf (timeoutSecs : Option U64) : U64 := timeoutSecs.getD 60

/-- `wait_for_confirmation`: there is time for one turn more than there are seconds, and the timeout. -/
def waitForConfirmation (timeoutSecs : Option U64) (timeline : ReceiptPolls) : Option Confirmation :=
  service.waitPolls txHash (timeoutOf timeoutSecs) timeline.polls ((timeoutOf timeoutSecs).toNat + 2)

variable {service} {txHash} {timeoutSecs : U64} {polls : ℕ → ReceiptPoll} {turns : ℕ}
  {confirmation : Confirmation} {receipt : TransactionReceipt}

/-! ### The loop -/

/-- The wait goes on after this poll. -/
def Pending (timeoutSecs : U64) (poll : ReceiptPoll) : Prop :=
  poll.elapsed < fromSecs timeoutSecs.toNat ∧ poll.receipt? = none

variable (service txHash timeoutSecs) in
theorem waitPolls_succ (polls : ℕ → ReceiptPoll) (k : ℕ) :
    fromSecs timeoutSecs.toNat ≤ (polls 0).elapsed ∧
        service.waitPolls txHash timeoutSecs polls (k + 1) = some (service.timedOut txHash timeoutSecs) ∨
      (polls 0).elapsed < fromSecs timeoutSecs.toNat ∧
        (∃ receipt, (polls 0).receipt? = some receipt ∧
          service.waitPolls txHash timeoutSecs polls (k + 1) = some (service.confirm txHash receipt)) ∨
      Pending timeoutSecs (polls 0) ∧ service.waitPolls txHash timeoutSecs polls (k + 1) =
        service.waitPolls txHash timeoutSecs (fun i => polls (i + 1)) k := by
  unfold Pending ReceiptPoll.receipt?
  rw [waitPolls]
  split
  · rename_i hlate
    exact .inl ⟨hlate, rfl⟩
  · rename_i hearly
    have hearly := Nat.lt_of_not_le hearly
    rcases (polls 0).answer with e | _ | receipt
    · exact .inr (.inr ⟨⟨hearly, rfl⟩, rfl⟩)
    · exact .inr (.inr ⟨⟨hearly, rfl⟩, rfl⟩)
    · exact .inr (.inl ⟨hearly, receipt, rfl, rfl⟩)

theorem isSome_waitPolls (hlate : fromSecs timeoutSecs.toNat ≤ (polls turns).elapsed) :
    (service.waitPolls txHash timeoutSecs polls (turns + 1)).isSome = true := by
  induction turns generalizing polls with
  | zero =>
    rw [waitPolls, if_pos hlate]
    rfl
  | succ turns ih =>
    rcases waitPolls_succ service txHash timeoutSecs polls (turns + 1) with
      ⟨-, h⟩ | ⟨-, receipt, -, h⟩ | ⟨-, h⟩
    · rw [h]
      rfl
    · rw [h]
      rfl
    · rw [h]
      exact ih hlate

/-- **The call returns.** -/
theorem wait_ends (service : HyperLiquidRpcService Wallet) (txHash : H256) (timeoutSecs : Option U64)
    (timeline : ReceiptPolls) :
    ∃ confirmation, service.waitForConfirmation txHash timeoutSecs timeline = some confirmation :=
  Option.isSome_iff_exists.mp (isSome_waitPolls (timeline.ticks _))

/-- **When the call returns**: at the timeout, or with the first receipt. -/
theorem waitPolls_cases (h : service.waitPolls txHash timeoutSecs polls turns = some confirmation) :
    ∃ k, (∀ j < k, Pending timeoutSecs (polls j)) ∧
      (fromSecs timeoutSecs.toNat ≤ (polls k).elapsed ∧ confirmation = service.timedOut txHash timeoutSecs ∨
        (polls k).elapsed < fromSecs timeoutSecs.toNat ∧
          ∃ receipt, (polls k).receipt? = some receipt ∧ confirmation = service.confirm txHash receipt) := by
  induction turns generalizing polls with
  | zero => cases h
  | succ turns ih =>
    rcases waitPolls_succ service txHash timeoutSecs polls turns with
      ⟨hlate, hturn⟩ | ⟨hearly, receipt, hreceipt, hturn⟩ | ⟨hpending, hturn⟩
    · rw [hturn] at h
      exact ⟨0, fun j hj => absurd hj (Nat.not_lt_zero j), .inl ⟨hlate, (Option.some.inj h).symm⟩⟩
    · rw [hturn] at h
      exact ⟨0, fun j hj => absurd hj (Nat.not_lt_zero j),
        .inr ⟨hearly, receipt, hreceipt, (Option.some.inj h).symm⟩⟩
    · rw [hturn] at h
      obtain ⟨k, hbefore, hend⟩ := ih h
      refine ⟨k + 1, fun j hj => ?_, hend⟩
      cases j with
      | zero => exact hpending
      | succ j => exact hbefore j (Nat.lt_of_succ_lt_succ hj)

/-! ### The events -/

/-- **Exactly one terminal event**: that of a confirmation for a receipt, and that of a failure for
an error. -/
def OneTerminalEvent (txHash : H256) (confirmation : Confirmation) : Prop :=
  match confirmation.result with
  | .ok _ => ∃ blockNumber gasUsed status,
      confirmation.events = [.transactionConfirmed txHash blockNumber gasUsed status]
  | .error _ => ∃ reason, confirmation.events = [.transactionFailed txHash reason]

/-- The receipt has a block number and the gas used. -/
def Complete (receipt : TransactionReceipt) : Prop :=
  receipt.blockNumber.isSome = true ∧ receipt.gasUsed.isSome = true

/-- The first receipt that the polls give before the timeout. -/
def FirstReceipt (timeoutSecs : U64) (polls : ℕ → ReceiptPoll) (receipt : TransactionReceipt) : Prop :=
  ∃ k, (∀ j < k, Pending timeoutSecs (polls j)) ∧ (polls k).elapsed < fromSecs timeoutSecs.toNat ∧
    (polls k).receipt? = some receipt

theorem oneTerminalEvent_timedOut (hchannel : service.stateTx = true) :
    OneTerminalEvent txHash (service.timedOut txHash timeoutSecs) := by
  simp only [OneTerminalEvent, timedOut, sendEvent, hchannel, if_true]
  exact ⟨_, rfl⟩

theorem oneTerminalEvent_confirm_iff (hchannel : service.stateTx = true) :
    OneTerminalEvent txHash (service.confirm txHash receipt) ↔ Complete receipt := by
  unfold Complete confirm
  rcases receipt.blockNumber with _ | blockNumber
  · simp [OneTerminalEvent]
  rcases receipt.gasUsed with _ | gasUsed
  · simp [OneTerminalEvent]
  refine iff_of_true ?_ ⟨rfl, rfl⟩
  simp only [sendEvent, hchannel, if_true]
  split
  · exact ⟨blockNumber, gasUsed, _, rfl⟩
  · exact ⟨_, rfl⟩

/-- There is one first receipt at most, and none where the time is over before. -/
theorem firstReceipt_iff {k : ℕ} (hbefore : ∀ j < k, Pending timeoutSecs (polls j)) :
    FirstReceipt timeoutSecs polls receipt ↔
      ∃ i, k ≤ i ∧ (∀ j < i, Pending timeoutSecs (polls j)) ∧
        (polls i).elapsed < fromSecs timeoutSecs.toNat ∧ (polls i).receipt? = some receipt := by
  constructor
  · rintro ⟨i, hpending, hearly, hreceipt⟩
    refine ⟨i, Nat.le_of_not_lt fun hlt => ?_, hpending, hearly, hreceipt⟩
    rw [(hbefore i hlt).2] at hreceipt
    cases hreceipt
  · rintro ⟨i, -, hfirst⟩
    exact ⟨i, hfirst⟩

/-- **Exactly one terminal event** is sent, and that of the result, just if the first receipt in
time, if there is one, has a block number and the gas used. -/
theorem oneTerminalEvent_iff (service : HyperLiquidRpcService Wallet) (txHash : H256) (timeoutSecs : Option U64)
    (timeline : ReceiptPolls) (hchannel : service.stateTx = true) :
    ∃ confirmation, service.waitForConfirmation txHash timeoutSecs timeline = some confirmation ∧
      (OneTerminalEvent txHash confirmation ↔
        ∀ receipt, FirstReceipt (timeoutOf timeoutSecs) timeline.polls receipt → Complete receipt) := by
  obtain ⟨confirmation, hwait⟩ := wait_ends service txHash timeoutSecs timeline
  refine ⟨confirmation, hwait, ?_⟩
  obtain ⟨k, hbefore, ⟨hlate, rfl⟩ | ⟨hearly, receipt, hreceipt, rfl⟩⟩ := waitPolls_cases hwait
  · refine iff_of_true (oneTerminalEvent_timedOut hchannel) fun receipt hfirst => ?_
    obtain ⟨i, hle, hpending, hearly, hreceipt⟩ := (firstReceipt_iff hbefore).mp hfirst
    rcases Nat.lt_or_eq_of_le hle with hlt | rfl
    · exact absurd (hpending k hlt).1 (Nat.not_lt.mpr hlate)
    · exact absurd hearly (Nat.not_lt.mpr hlate)
  · rw [oneTerminalEvent_confirm_iff hchannel]
    constructor
    · intro hcomplete receipt' hfirst
      obtain ⟨i, hle, hpending, -, hreceipt'⟩ := (firstReceipt_iff hbefore).mp hfirst
      rcases Nat.lt_or_eq_of_le hle with hlt | rfl
      · rw [(hpending k hlt).2] at hreceipt
        cases hreceipt
      · obtain rfl := Option.some.inj (hreceipt.symm.trans hreceipt')
        exact hcomplete
    · exact fun hall => hall receipt ⟨k, hbefore, hearly, hreceipt⟩

/-- Polls at every second, with the same answer. -/
def everySecond (answer : Except String (Option TransactionReceipt)) : ReceiptPolls where
  polls k := { elapsed := fromSecs k, answer }
  ticks k := Nat.mul_le_mul_right _ (Nat.le_succ k)

/-- A service with a channel. -/
def sampleRpcService : HyperLiquidRpcService Unit := ⟨10, none, true⟩

/-- A receipt that never comes. -/
theorem oneTerminalEvent_of_no_receipt :
    ∃ confirmation, sampleRpcService.waitForConfirmation 0 (some 3) (everySecond (.ok none)) = some confirmation ∧
      OneTerminalEvent 0 confirmation := by
  obtain ⟨confirmation, hwait, hiff⟩ :=
    oneTerminalEvent_iff sampleRpcService 0 (some 3) (everySecond (.ok none)) rfl
  refine ⟨confirmation, hwait, hiff.mpr ?_⟩
  rintro receipt ⟨k, -, -, ⟨⟩⟩

/-- **A receipt without the gas used**: the transaction has succeeded, the call returns an error,
and there is no event. -/
theorem receipt_without_gas_used :
    ∃ confirmation, sampleRpcService.waitForConfirmation 0 (some 60)
        (everySecond (.ok (some ⟨some 5, none, some 1⟩))) = some confirmation ∧ confirmation.result = .error (.err "Receipt missing gas used") ∧
      confirmation.events = [] ∧ ¬ OneTerminalEvent 0 confirmation := by
  refine ⟨⟨.error (.err "Receipt missing gas used"), []⟩, ?_, rfl, rfl, ?_⟩
  · rw [waitForConfirmation, waitPolls, if_neg (by decide)]
    rfl
  · rintro ⟨reason, ⟨⟩⟩

end HyperLiquidRpcService

end Botmev.Hyperliquid
