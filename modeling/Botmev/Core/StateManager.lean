import Botmev.Library.Table
import Botmev.Rust.Runtime

/-!
# The state manager

`StateManager` (`state_manager.rs`): the last block headers, the head of the chain and the
reorganisations seen; the pending transactions, and the highest nonce of each sender.

Nothing in these functions waits, so each call is one step. A panic leaves what was done
before it, and the lock that was held poisoned. The lock of the pending transactions is
the only one that can be: nothing panics under the others.

Persistence only writes to the log. The fields of headers and transactions that nothing
here reads are left out.
-/

namespace Botmev.Core

open Botmev.Rust Botmev.Library

/-- "Block header information for reorg detection". -/
structure BlockHeader where
  /-- Its number. -/
  number : U64
  /-- Its hash. -/
  hash : String
  /-- The hash of the block it builds on. -/
  parentHash : String
  deriving DecidableEq, Repr

/-- What became of a pending transaction. -/
inductive TransactionStatus where
  | pending
  | included
  | dropped
  | replaced
  deriving DecidableEq, Repr

/-- "Pending transaction state". -/
structure PendingTransactionState where
  /-- The sender. -/
  fromAddress : String
  /-- The recipient; none for a contract creation. -/
  toAddress : Option String
  /-- The nonce. -/
  nonce : U64
  /-- When it was seen first. -/
  firstSeen : DateTime
  /-- When it was seen last. -/
  lastSeen : DateTime
  /-- How often it was seen. -/
  seenCount : BitVec 32
  /-- What became of it. -/
  status : TransactionStatus
  deriving DecidableEq, Repr

/-- "Blockchain reorganization event". -/
structure ReorgEvent where
  /-- What was the chain. -/
  oldChain : List BlockHeader
  /-- What is the chain. -/
  newChain : List BlockHeader
  /-- What both build on ("Simplified"). -/
  commonAncestor : BlockHeader
  /-- How far it goes back. -/
  depth : U64
  /-- When it was noticed. -/
  detectedAt : DateTime
  /-- The transactions it may undo. -/
  affectedTransactions : List String
  deriving DecidableEq, Repr

/-- "Configuration for state manager". -/
structure StateManagerConfig where
  /-- How many pending transactions to keep. -/
  maxPendingTransactions : ℕ
  /-- How many headers to keep. -/
  maxBlockHistory : ℕ
  /-- How long to keep a pending transaction. -/
  transactionTtlSeconds : U64
  deriving DecidableEq, Repr

/-- "In-memory blockchain state manager". -/
structure StateManager where
  /-- The configuration. -/
  config : StateManagerConfig
  /-- The last headers, in the order they came. -/
  blockHeaders : List BlockHeader
  /-- The last header. -/
  currentHead : Option BlockHeader
  /-- The pending transactions, by hash. -/
  pendingTransactions : RwLock (Table String PendingTransactionState)
  /-- "address -> highest nonce". -/
  nonceTracker : Table String U64
  /-- The reorganisations, in the order they were noticed. -/
  reorgEvents : List ReorgEvent

namespace StateManager

/-- `StateManager::new`. -/
def new (config : StateManagerConfig) : StateManager where
  config := config
  blockHeaders := []
  currentHead := none
  pendingTransactions := .new ∅
  nonceTracker := ∅
  reorgEvents := []

/-! ### Headers -/

/-- `initialize`. -/
def initializeState (currentBlock : BlockHeader) (s : StateManager) : StateManager :=
  { s with currentHead := some currentBlock, blockHeaders := s.blockHeaders ++ [currentBlock] }

/-- `get_affected_transactions`: "For now, return empty list". -/
def getAffectedTransactions (_oldBlock _newBlock : BlockHeader) : List String := []

/-- `mark_transactions_as_dropped`. -/
def markTransactionsAsDropped (txHashes : List String) (s : StateManager) : Result Unit × StateManager :=
  match s.pendingTransactions.write with
  | .error e => (.error e, s)
  | .ok pending =>
    let pending := txHashes.foldl (fun pending txHash =>
      match pending.lookup txHash with
      | some tx => pending.insert txHash { tx with status := .dropped }
      | none => pending) pending
    (.ok (), { s with pendingTransactions := .new pending })

/-- The event of a reorganisation. -/
def reorgEvent (now : DateTime) (current newHeader : BlockHeader) : ReorgEvent where
  oldChain := [current]
  newChain := [newHeader]
  commonAncestor := current
  depth := 1
  detectedAt := now
  affectedTransactions := getAffectedTransactions current newHeader

/-- `reorgs.push(reorg_event)`. -/
def pushReorg (event : ReorgEvent) (s : StateManager) : StateManager :=
  { s with reorgEvents := s.reorgEvents ++ [event] }

/-- `detect_reorg`: "treat any non-sequential block as a reorg". -/
def detectReorg (now : DateTime) (current newHeader : BlockHeader) (s : StateManager) :
    Result (Option ReorgEvent) × StateManager :=
  let event := reorgEvent now current newHeader
  (.ok (some event), s.pushReorg event)

/-- `handle_reorg`. -/
def handleReorg (now : DateTime) (current newHeader : BlockHeader) (s : StateManager) :
    Result (Option ReorgEvent) × StateManager :=
  match s.markTransactionsAsDropped (getAffectedTransactions current newHeader) with
  | (.error e, s) => (.error e, s)
  | (.ok (), s) =>
    let event := reorgEvent now current newHeader
    (.ok (some event), s.pushReorg event)

/-- The first part of `update_block_header`: whether the header is a reorganisation. -/
def checkReorg (now : DateTime) (newHeader : BlockHeader) (s : StateManager) :
    Result (Option ReorgEvent) × StateManager :=
  match s.currentHead with
  | none => (.ok none, s)
  | some current =>
    if newHeader.number ≤ current.number then s.detectReorg now current newHeader
    else if newHeader.parentHash ≠ current.hash then s.handleReorg now current newHeader
    else (.ok none, s)

/-- `while headers.len() > max { headers.pop_front() }`. -/
def popFront (max : ℕ) : List BlockHeader → List BlockHeader
  | [] => []
  | header :: headers => if max < headers.length + 1 then popFront max headers else header :: headers

/-- `update_block_header`. -/
def updateBlockHeader (now : DateTime) (newHeader : BlockHeader) (s : StateManager) :
    Result (Option ReorgEvent) × StateManager :=
  match s.checkReorg now newHeader with
  | (.error e, s) => (.error e, s)
  | (.ok event, s) =>
    (.ok event,
      { s with
        currentHead := some newHeader
        blockHeaders := popFront s.config.maxBlockHistory (s.blockHeaders ++ [newHeader]) })

/-! ### Pending transactions -/

variable (calendar : Calendar)

/-- The time before which a transaction must have been seen to be old. -/
def cutoff (config : StateManagerConfig) (now : DateTime) : Result DateTime := do
  let ttl ← durationSeconds config.transactionTtlSeconds.toInt
  calendar.sub now ttl

/-- `cleanup_old_transactions`. -/
def cleanupOldTransactions (config : StateManagerConfig) (now : DateTime)
    (pending : Table String PendingTransactionState) : Result (Table String PendingTransactionState) := do
  let cutoff ← cutoff calendar config now
  let oldTxs := Table.keysWhere (fun _ tx => decide (tx.firstSeen < cutoff)) pending
  pure (Table.eraseAll oldTxs pending)

/-- "Maintain max pending transactions". -/
def maintainMax (config : StateManagerConfig) (now : DateTime)
    (pending : Table String PendingTransactionState) :
    Result (Table String PendingTransactionState) :=
  if config.maxPendingTransactions < Table.size pending then cleanupOldTransactions calendar config now pending
  else .ok pending

/-- The part of `update_pending_transaction` up to the nonce: the entry, and what is left
of the pending transactions. -/
def touchPending (config : StateManagerConfig) (now : DateTime) (txHash : String)
    (txData : PendingTransactionState) (pending : Table String PendingTransactionState) :
    Result PendingTransactionState × Table String PendingTransactionState :=
  match pending.lookup txHash with
  | some existing =>
    match Uint.add existing.seenCount 1 with
    | .error e => (.error e, pending.insert txHash { existing with lastSeen := now })
    | .ok seenCount =>
      (.ok { existing with lastSeen := now, seenCount := seenCount },
        pending.insert txHash { existing with lastSeen := now, seenCount := seenCount })
  | none =>
    match maintainMax calendar config now (pending.insert txHash txData) with
    | .error e => (.error e, pending.insert txHash txData)
    | .ok pending =>
      match pending.lookup txHash with
      | some tx => (.ok tx, pending)
      | none => (.error (.panic "called `Option::unwrap()` on a `None` value"), pending)

/-- The highest nonce of the sender, once the transaction is seen. -/
def trackNonce (tx : PendingTransactionState) (nonceTracker : Table String U64) : Table String U64 :=
  let currentNonce := (nonceTracker.lookup tx.fromAddress).getD 0
  if currentNonce < tx.nonce then nonceTracker.insert tx.fromAddress tx.nonce else nonceTracker

/-- `update_pending_transaction`. -/
def updatePendingTransaction (now : DateTime) (txHash : String) (txData : PendingTransactionState)
    (s : StateManager) : Result Unit × StateManager :=
  match s.pendingTransactions.write with
  | .error e => (.error e, s)
  | .ok pending =>
    match touchPending calendar s.config now txHash txData pending with
    | (.error e, pending) => (.error e, { s with pendingTransactions := ⟨pending, true⟩ })
    | (.ok tx, pending) =>
      (.ok (), { s with pendingTransactions := .new pending, nonceTracker := trackNonce tx s.nonceTracker })

/-- `cleanup_expired_transactions`. -/
def cleanupExpiredTransactions (now : DateTime) (s : StateManager) : Result Unit × StateManager :=
  match s.pendingTransactions.write with
  | .error e => (.error e, s)
  | .ok pending =>
    match cleanupOldTransactions calendar s.config now pending with
    | .error e => (.error e, { s with pendingTransactions := ⟨pending, true⟩ })
    | .ok pending => (.ok (), { s with pendingTransactions := .new pending })

/-- `get_current_nonce`. -/
def getCurrentNonce (address : String) (s : StateManager) : U64 := (s.nonceTracker.lookup address).getD 0

end StateManager

end Botmev.Core
