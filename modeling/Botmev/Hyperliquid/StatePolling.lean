import Botmev.Hyperliquid.RpcService
import Botmev.Library.Table

/-!
# The state of the chain

`poll_blockchain_state` (`mev-hyperliquid/src/rpc_service.rs`) asks for the number of the latest
block and for that block, makes a `BlockchainState` of the two, and passes both on to whom it
may concern. The maps of that state stay empty: nothing else is asked for.

## What is proved

* `snapshot_of_poll`: the state that is passed on has no prices and no contracts.
-/

namespace Botmev.Hyperliquid

open Botmev.Rust Botmev.Library

/-- "Blockchain state snapshot". -/
structure BlockchainState where
  /-- "Current block number". -/
  blockNumber : U64
  /-- "Block timestamp". -/
  timestamp : U64
  /-- "Token prices (address -> price)". -/
  tokenPrices : Table Address U256
  /-- "Contract states (address -> data)". -/
  contractStates : Table Address Bytes

/-- `BlockchainState::new(block_number, timestamp)`. -/
def BlockchainState.new (blockNumber timestamp : U64) : BlockchainState where
  blockNumber := blockNumber
  timestamp := timestamp
  tokenPrices := ∅
  contractStates := ∅

/-- "State update events from blockchain polling". -/
inductive StateUpdateEvent where
  /-- "New block number detected". -/
  | blockNumber (blockNumber : U64)
  /-- "Token price update". -/
  | tokenPrice (token : Address) (price : U256)
  /-- "Contract state update". -/
  | contractState (address : Address) (data : Bytes)
  /-- "Balance update". -/
  | balance (address : Address) (balance : U256)
  /-- "Full state snapshot". -/
  | stateSnapshot (state : BlockchainState)
  /-- "Transaction confirmation success". -/
  | transactionConfirmed (txHash : H256) (blockNumber : U64) (gasUsed : U256) (status : Bool)
  /-- "Transaction confirmation failed or timed out". -/
  | transactionFailed (txHash : H256) (reason : String)

/-- What a poll asks the node. -/
inductive BlockOp where
  /-- `get_block_number()`. -/
  | blockNumber
  /-- `get_block(block_number)`. -/
  | block (blockNumber : U64)

/-- What it answers: a number, or the timestamp of the block if there is one. -/
@[reducible] def BlockOp.Value : BlockOp → Type
  | .blockNumber => U64
  | .block _ => Option U256

/-- `state_tx.send(event)`, which is only logged where it fails. -/
@[reducible] def SendI : Interface where
  Op := StateUpdateEvent
  Reply _ := Unit

/-- What a poll asks for. -/
abbrev PollI : Interface := (RequestI BlockOp BlockOp.Value).sum SendI

namespace HyperLiquidRpcService

variable {Wallet : Type} (service : HyperLiquidRpcService Wallet)

/-- "Emit state update events if channel is available". -/
def emitStateUpdate (event : StateUpdateEvent) : Async PollI Failure Unit :=
  if service.stateTx then Async.request (I := PollI) (.inr event) else pure ()

/-- One attempt. -/
def pollOnce : Async PollI Failure BlockchainState := do
  let answer ← (ask service.timeoutSecs BlockOp.blockNumber).inl
  let blockNumber ← context "Failed to query block number" answer
  let answer ← (ask service.timeoutSecs (BlockOp.block blockNumber)).inl
  let block ← context "Failed to get block details" answer
  let blockTimestamp ← okOr "Block not found" block
  let timestamp ← U256.asU64 blockTimestamp
  let state := BlockchainState.new blockNumber timestamp
  service.emitStateUpdate (.blockNumber blockNumber)
  service.emitStateUpdate (.stateSnapshot state)
  pure state

/-- `poll_blockchain_state`. -/
def pollBlockchainState : RetryM PollI BlockchainState := executeWithRetry service.pollOnce

end HyperLiquidRpcService

/-- The event is no snapshot but one that a poll has sent. -/
def FromPoll (event : StateUpdateEvent) : Prop :=
  ∀ state, event = .stateSnapshot state → ∃ (Wallet σ : Type) (service : HyperLiquidRpcService Wallet)
    (h : Handler (PollI.sum RetryI) σ) (s : σ), ⟨.inl (.inr event), ()⟩ ∈ service.pollBlockchainState.trace h s

/-- What a poll may ask for: to send no snapshot but one of empty maps. -/
def SendsEmpty : (PollI.sum RetryI).Op → Prop
  | .inl (.inr (.stateSnapshot state)) => ∃ blockNumber timestamp, state = .new blockNumber timestamp
  | _ => True

variable {Wallet : Type} {service : HyperLiquidRpcService Wallet}

theorem within_ask {Op : Type} {Value : Op → Type} {S : Op → Prop} (timeoutSecs : U64) {op : Op}
    (hop : S op) :
    Async.Within (I := RequestI Op Value) S (ask timeoutSecs op) := by
  refine ⟨hop, fun reply => ?_⟩
  rcases reply with value | e | _ <;> trivial

theorem within_emitStateUpdate (event : StateUpdateEvent) (hevent : SendsEmpty (.inl (.inr event))) :
    (service.emitStateUpdate event).Within fun op => SendsEmpty (.inl op) := by
  unfold HyperLiquidRpcService.emitStateUpdate
  split
  · exact ⟨hevent, fun _ => trivial⟩
  · trivial

theorem sendsEmpty_pollBlockchainState : service.pollBlockchainState.Within SendsEmpty := by
  refine within_executeWithRetry (fun _ => trivial) ?_
  refine (within_ask _ trivial).toSum.bind fun answer => (Async.Within.lift _).bind fun blockNumber => ?_
  refine (within_ask _ trivial).toSum.bind fun answer => (Async.Within.lift _).bind fun block => ?_
  refine (Async.Within.lift _).bind fun blockTimestamp => (Async.Within.lift _).bind fun timestamp => ?_
  refine (within_emitStateUpdate (.blockNumber blockNumber) trivial).bind fun _ => ?_
  refine (within_emitStateUpdate (.stateSnapshot _) ⟨blockNumber, timestamp, rfl⟩).bind fun _ => trivial

/-- **A snapshot of a poll** has no prices and no contracts. -/
theorem snapshot_of_poll {state : BlockchainState} (h : FromPoll (.stateSnapshot state)) :
    ∃ blockNumber timestamp, state = .new blockNumber timestamp := by
  obtain ⟨Wallet, σ, service, h, s, hsent⟩ := h state rfl
  exact sendsEmpty_pollBlockchainState.of_mem_trace hsent

/-- A node whose latest block is the first, of the time 0. -/
def firstBlock : Handler (PollI.sum RetryI) Unit
  | .inl (.inl .blockNumber), s => (.ok 1, s)
  | .inl (.inl (.block _)), s => (.ok (some 0), s)
  | .inl (.inr _), s => ((), s)
  | .inr (.breaker op), s => ((op.apply 0 .new).1, s)
  | .inr (.sleep _), s => ((), s)

theorem fromPoll_firstBlock : FromPoll (.stateSnapshot (.new 1 0)) := by
  rintro _ ⟨⟩
  exact ⟨Unit, Unit, ⟨10, none, true⟩, firstBlock, (), List.mem_of_getElem? (i := 4) rfl⟩

end Botmev.Hyperliquid
