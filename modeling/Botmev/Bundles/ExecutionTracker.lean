import Botmev.Bundles.Types
import Botmev.Library.Interleaving
import Botmev.Library.Table
import Botmev.Rust.Json
import Botmev.Rust.Runtime
import Botmev.Rust.Str

/-!
# The execution tracker

`ExecutionTracker` (`bundle/execution_tracker.rs`): a loop that asks the node for the latest
block, looks for every tracked bundle in the blocks since it was last looked for, and
forgets the bundles it is done with.

The atomic operations are the requests and the sections under the locks. The lock of the
tracked bundles is held all the time that one of them is looked for, with the requests
this takes. What the node would answer to each request at each time, the readings of the
clock, and the order in which the map gives its keys are part of the state. The state
also keeps which blocks were examined for a bundle.

An instant is in nanoseconds. The order of the transactions in a block, the latency in
the metrics, and what of a block or a receipt nothing reads, are left out: they are only
logged.
-/

namespace Botmev.Bundles

open Botmev.Rust Botmev.Library

/-- "Execution tracking configuration". -/
structure TrackerConfig where
  /-- "Maximum tracking duration before timeout". -/
  maxTrackingDuration : ℕ
  deriving DecidableEq, Repr

/-- The configuration a tracker has unless it is given another. -/
def TrackerConfig.default : TrackerConfig where
  maxTrackingDuration := 300 * 10 ^ 9

/-- "Bundle execution status". -/
inductive ExecutionStatus where
  /-- It is still looked for. -/
  | pending
  /-- All its transactions are in a block. -/
  | included (blockNumber : U64) (transactionHashes : List String)
  /-- It failed. -/
  | failed (reason : String)
  /-- It was looked for too long. -/
  | expired
  deriving DecidableEq, Repr

/-- "Tracked bundle information". -/
structure TrackedBundle where
  /-- The bundle. -/
  bundle : Bundle
  /-- Since when it is tracked. -/
  trackingStart : ℕ
  /-- What became of it. -/
  status : ExecutionStatus
  /-- How often it was looked for. -/
  inclusionAttempts : BitVec 32
  /-- The last block in which it was looked for. -/
  lastCheckBlock : U64
  deriving DecidableEq, Repr

/-- "Simplified transaction information". -/
structure TransactionInfo where
  /-- Its hash. -/
  hash : String
  deriving DecidableEq, Repr

/-- "Simplified block information". -/
structure BlockInfo where
  /-- Its number. -/
  number : U64
  /-- Its transactions. -/
  transactions : List TransactionInfo
  deriving DecidableEq, Repr

/-- "Transaction receipt information". -/
structure TransactionReceipt where
  /-- The block it is in. -/
  blockNumber : U64
  /-- Where in the block it is. -/
  transactionIndex : U64
  /-- The gas it used. -/
  gasUsed : U64
  deriving DecidableEq, Repr

/-- "Bundle inclusion metrics". -/
structure InclusionMetrics where
  /-- The bundle's name. -/
  bundleId : String
  /-- The block it was meant for. -/
  targetBlock : U64
  /-- The block it is in. -/
  actualBlock : U64
  /-- "Position of each transaction in block". -/
  blockPosition : List U64
  /-- The gas it used. -/
  gasUsed : U64
  /-- The gas price it was built for. -/
  gasPricePaid : U64
  deriving DecidableEq, Repr

/-! ### The node -/

/-- What the tracker asks the node. -/
inductive NodeRequest where
  /-- `eth_blockNumber`. -/
  | blockNumber
  /-- `eth_getBlockByNumber`. -/
  | getBlockByNumber (number : U64)
  /-- `eth_getTransactionReceipt`. -/
  | getTransactionReceipt (txHash : String)
  deriving DecidableEq, Repr

/-- What the node would answer to each request, from now on; none if no JSON arrives. -/
abbrev Node := ℕ → NodeRequest → Option Value

/-- After one more request. -/
def Node.next (node : Node) : Node := fun i => node (i + 1)

/-- The `result` of an answer without `error`. -/
def rpcResult (answer : Option Value) : Option Value := do
  let result ← answer
  if (result.get "error").isSome then none else some (result.index "result")

/-- `u64::from_str_radix(s.trim_start_matches("0x"), 16)`. -/
def parseHex (s : String) : Option U64 := fromStrRadix 64 16 (String.ofList (trimStartMatches0x s.toList))

/-- `get_latest_block_number`. -/
def latestBlockNumber (answer : Option Value) : Option U64 := do
  let result ← rpcResult answer
  let blockHex ← result.asStr
  parseHex blockHex

/-- `get_block_by_number`. -/
def blockByNumber (blockNumber : U64) (answer : Option Value) : Option BlockInfo := do
  let blockData ← rpcResult answer
  if blockData.isNull then none
  else
    some
      { number := blockNumber
        transactions := (((blockData.index "transactions").asArray).getD []).map fun tx =>
          ⟨((tx.index "hash").asStr).getD ""⟩ }

/-- `get_transaction_receipt`. -/
def transactionReceipt (answer : Option Value) : Option TransactionReceipt := do
  let receiptData ← rpcResult answer
  if receiptData.isNull then none
  else
    let blockNumber ← parseHex (((receiptData.index "blockNumber").asStr).getD "0x0")
    let transactionIndex ← parseHex (((receiptData.index "transactionIndex").asStr).getD "0x0")
    let gasUsed ← parseHex (((receiptData.index "gasUsed").asStr).getD "0x0")
    some ⟨blockNumber, transactionIndex, gasUsed⟩

/-! ### Looking for a bundle -/

/-- `tx.hash_hex()`. -/
def SignedTransaction.hashHex (tx : SignedTransaction) : String := hexEncode0x (U256.toBigEndian tx.hash)

/-- The transactions of a bundle that are in the block. -/
def foundHashes (bundle : Bundle) (block : BlockInfo) : List String :=
  (bundle.allTransactions.map (·.hashHex)).filter fun txHash => block.transactions.any fun tx => tx.hash == txHash

/-- `check_block_for_bundle`, with the answer to the request for the block. -/
def checkBlockForBundle (blockNumber : U64) (bundle : Bundle) (answer : Option Value) :
    Option (Option (U64 × List String)) := do
  let block ← blockByNumber blockNumber answer
  let found := foundHashes bundle block
  if found.length = (bundle.allTransactions.map (·.hashHex)).length then some (some (blockNumber, found))
  else some none

/-- What comes of the loop over the blocks. -/
structure Scan where
  /-- Where the bundle is. -/
  found : Option (U64 × List String)
  /-- The blocks that were examined. -/
  examined : List U64
  /-- The node afterwards. -/
  node : Node

/-- The loop over the blocks: a block that is not fetched is passed over. -/
def scanBlocks (bundle : Bundle) : List U64 → Node → Scan
  | [], node => ⟨none, [], node⟩
  | blockNumber :: blocks, node =>
    match checkBlockForBundle blockNumber bundle (node 0 (.getBlockByNumber blockNumber)) with
    | none => scanBlocks bundle blocks node.next
    | some none =>
      let rest := scanBlocks bundle blocks node.next
      ⟨rest.found, blockNumber :: rest.examined, rest.node⟩
    | some (some found) => ⟨some found, [blockNumber], node.next⟩

/-- `start..=end`. -/
def blockRange (start last : U64) : List U64 :=
  (List.range' start.toNat (last.toNat + 1 - start.toNat)).map (BitVec.ofNat 64)

/-- The gas used, and the position, of every transaction with a receipt. -/
def sumReceipts : List SignedTransaction → U64 → List U64 → Node → Result (U64 × List U64) × Node
  | [], gas, positions, node => (.ok (gas, positions), node)
  | tx :: txs, gas, positions, node =>
    match transactionReceipt (node 0 (.getTransactionReceipt tx.hashHex)) with
    | none => sumReceipts txs gas positions node.next
    | some receipt =>
      match Uint.add gas receipt.gasUsed with
      | .error e => (.error e, node.next)
      | .ok gas => sumReceipts txs gas (positions ++ [receipt.transactionIndex]) node.next

/-- `generate_inclusion_metrics`. -/
def generateInclusionMetrics (tracked : TrackedBundle) (node : Node) : Result InclusionMetrics × Node :=
  let (total, node) := sumReceipts tracked.bundle.allTransactions 0 [] node
  let metrics : Result InclusionMetrics := do
    let (gasUsed, blockPosition) ← total
    let gasPricePaid ← U256.asU64 tracked.bundle.maxGasPrice
    pure
      { bundleId := tracked.bundle.id
        targetBlock := tracked.bundle.targetBlock
        actualBlock := match tracked.status with
          | .included blockNumber _ => blockNumber
          | _ => 0
        blockPosition := blockPosition
        gasUsed := gasUsed
        gasPricePaid := gasPricePaid }
  (metrics, node)

/-! ### The state -/

/-- An order in which a map may give its keys. -/
structure KeyOrder where
  /-- The keys, in that order. -/
  order : List String → List String
  /-- All of them, and no others. -/
  perm : ∀ keys, (order keys).Perm keys

/-- The tracker, with the node and the clock. -/
structure TrackerState where
  /-- The tracked bundles. -/
  trackedBundles : Table String TrackedBundle
  /-- "Latest block number". -/
  latestBlock : U64
  /-- The node. -/
  node : Node
  /-- What the clock will read. -/
  clock : ℕ → ℕ
  /-- In which order the map will give its keys. -/
  keyOrder : ℕ → KeyOrder
  /-- The blocks that were examined for the bundle, since it is tracked. -/
  examined : String → List U64

namespace TrackerState

/-- `ExecutionTracker::new`. -/
def new (node : Node) (clock : ℕ → ℕ) (keyOrder : ℕ → KeyOrder) : TrackerState where
  trackedBundles := ∅
  latestBlock := 0
  node := node
  clock := clock
  keyOrder := keyOrder
  examined _ := []

/-- After a reading of the clock. -/
def clockRead (s : TrackerState) : TrackerState := { s with clock := fun i => s.clock (i + 1) }

/-- With another entry for a bundle. -/
def put (s : TrackerState) (bundleId : String) (tracked : TrackedBundle) : TrackerState :=
  { s with trackedBundles := s.trackedBundles.insert bundleId tracked }

/-- With more blocks examined for a bundle, and the node after that. -/
def scanned (s : TrackerState) (bundleId : String) (examined : List U64) (node : Node) : TrackerState :=
  { s with
    examined := Function.update s.examined bundleId (s.examined bundleId ++ examined)
    node := node }

/-- The part of `check_bundle_inclusion` after the check for the timeout. -/
def checkBlocks (bundleId : String) (tracked : TrackedBundle) (latestBlock : U64) (s : TrackerState) :
    Result Unit × TrackerState :=
  let startBlock := Uint.max tracked.lastCheckBlock tracked.bundle.targetBlock
  let scan := scanBlocks tracked.bundle (blockRange startBlock latestBlock) s.node
  match scan.found with
  | some (blockNumber, txHashes) =>
    let tracked := { tracked with status := .included blockNumber txHashes }
    let (metrics, node) := generateInclusionMetrics tracked scan.node
    (metrics.map fun _ => (), (s.scanned bundleId scan.examined node).put bundleId tracked)
  | none =>
    let tracked := { tracked with lastCheckBlock := latestBlock }
    let s := s.scanned bundleId scan.examined scan.node
    match Uint.add tracked.inclusionAttempts 1 with
    | .error e => (.error e, s.put bundleId tracked)
    | .ok inclusionAttempts => (.ok (), s.put bundleId { tracked with inclusionAttempts := inclusionAttempts })

/-- `check_bundle_inclusion`, once the latest block is read. -/
def checkBundleInclusion (config : TrackerConfig) (bundleId : String) (latestBlock : U64)
    (s : TrackerState) :
    Result Unit × TrackerState :=
  match s.trackedBundles.lookup bundleId with
  | none => (.error (.err ("Bundle not found: " ++ bundleId)), s)
  | some tracked =>
    match tracked.status with
    | .included _ _ | .failed _ | .expired => (.ok (), s)
    | .pending =>
      if config.maxTrackingDuration < s.clock 0 - tracked.trackingStart then
        (.ok (), s.clockRead.put bundleId { tracked with status := .expired })
      else s.clockRead.checkBlocks bundleId tracked latestBlock

/-- Whether `cleanup_expired_bundles` keeps a bundle. -/
def shouldKeep (config : TrackerConfig) (now : ℕ) (tracked : TrackedBundle) : Bool :=
  match tracked.status with
  | .pending => decide (now - tracked.trackingStart < config.maxTrackingDuration)
  | _ => false

/-- `cleanup_expired_bundles`. -/
def cleanupExpiredBundles (config : TrackerConfig) (s : TrackerState) : TrackerState :=
  { s.clockRead with
    trackedBundles := Table.retain (fun _ tracked => shouldKeep config (s.clock 0) tracked) s.trackedBundles }

/-- `bundles.insert(bundle.id.clone(), tracked)`, with the bundle newly tracked. -/
def insertTracked (bundle : Bundle) (trackingStart : ℕ) (s : TrackerState) : TrackerState :=
  let tracked : TrackedBundle :=
    { bundle := bundle
      trackingStart := trackingStart
      status := .pending
      inclusionAttempts := 0
      lastCheckBlock := 0 }
  { s.put bundle.id tracked with examined := Function.update s.examined bundle.id [] }

/-- The locked part of `get_execution_status`. -/
def executionStatus (bundleId : String) (s : TrackerState) : Result ExecutionStatus := do
  let tracked ← okOr ("Bundle not found: " ++ bundleId) (s.trackedBundles.lookup bundleId)
  pure tracked.status

end TrackerState

/-! ### The functions -/

/-- The atomic operations. -/
inductive TrackerOp where
  /-- `Instant::now()`. -/
  | now
  /-- `bundles.insert(bundle.id.clone(), tracked)`. -/
  | insertTracked (bundle : Bundle) (trackingStart : ℕ)
  /-- The locked part of `get_execution_status`. -/
  | executionStatus (bundleId : String)
  /-- `get_latest_block_number`. -/
  | blockNumber
  /-- `*latest_block = latest`. -/
  | setLatestBlock (latest : U64)
  /-- `*self.latest_block.read().await`. -/
  | latestBlock
  /-- `bundles.keys().cloned().collect()`. -/
  | bundleIds
  /-- The locked part of `check_bundle_inclusion`. -/
  | checkBundle (bundleId : String) (latestBlock : U64)
  /-- `cleanup_expired_bundles`. -/
  | cleanup
  deriving DecidableEq, Repr

/-- The atomic operations, with what each answers. -/
@[reducible] def TrackerI : Interface where
  Op := TrackerOp
  Reply
    | .now => ℕ
    | .insertTracked _ _ => Unit
    | .executionStatus _ => Result ExecutionStatus
    | .blockNumber => Option U64
    | .setLatestBlock _ => Unit
    | .latestBlock => U64
    | .bundleIds => List String
    | .checkBundle _ _ => Result Unit
    | .cleanup => Unit

/-- What the operations do. -/
def trackerHandler (config : TrackerConfig) : Handler TrackerI TrackerState
  | .now, s => (s.clock 0, s.clockRead)
  | .insertTracked bundle trackingStart, s => ((), s.insertTracked bundle trackingStart)
  | .executionStatus bundleId, s => (s.executionStatus bundleId, s)
  | .blockNumber, s => (latestBlockNumber (s.node 0 .blockNumber), { s with node := s.node.next })
  | .setLatestBlock latest, s => ((), { s with latestBlock := latest })
  | .latestBlock, s => (s.latestBlock, s)
  | .bundleIds, s =>
    ((s.keyOrder 0).order s.trackedBundles.keys, { s with keyOrder := fun i => s.keyOrder (i + 1) })
  | .checkBundle bundleId latestBlock, s => s.checkBundleInclusion config bundleId latestBlock
  | .cleanup, s => ((), s.cleanupExpiredBundles config)

/-- A function of the tracker. -/
abbrev TrackerM (α : Type) := Async TrackerI Failure α

/-- `track_bundle`. -/
def trackBundle (bundle : Bundle) : TrackerM Unit := do
  let trackingStart ← Async.request (I := TrackerI) .now
  Async.request (I := TrackerI) (.insertTracked bundle trackingStart)

/-- `get_execution_status`. -/
def getExecutionStatus (bundleId : String) : TrackerM ExecutionStatus := do
  let status ← Async.request (I := TrackerI) (.executionStatus bundleId)
  status

/-- The loop of `check_all_bundles`: what goes wrong with one is logged. -/
def checkBundles : List String → TrackerM Unit
  | [] => pure ()
  | bundleId :: bundleIds => do
    let latestBlock ← Async.request (I := TrackerI) .latestBlock
    match ← Async.request (I := TrackerI) (.checkBundle bundleId latestBlock) with
    | .error (.panic message) => .done (.error (.panic message))
    | .ok () | .error (.err _) => checkBundles bundleIds

/-- `check_all_bundles`. -/
def checkAllBundles : TrackerM Unit := do
  let bundleIds ← Async.request (I := TrackerI) .bundleIds
  checkBundles bundleIds

/-- A tick of the monitoring loop. -/
def tick : TrackerM Unit := do
  match ← Async.request (I := TrackerI) .blockNumber with
  | some latest => Async.request (I := TrackerI) (.setLatestBlock latest)
  | none => pure ()
  checkAllBundles
  Async.request (I := TrackerI) .cleanup

/-- `start_monitoring`, for so many ticks. -/
def startMonitoring : ℕ → TrackerM Unit
  | 0 => pure ()
  | n + 1 => do
    tick
    startMonitoring n

/-- The calls of a tracker. -/
inductive TrackerCall where
  /-- A bundle is to be tracked. -/
  | track (bundle : Bundle)
  /-- What became of it. -/
  | status (bundleId : String)
  /-- The loop, for so many ticks. -/
  | monitor (ticks : ℕ)
  deriving DecidableEq, Repr

/-- The call, with the status it returns if it is asked for one. -/
def TrackerCall.task : TrackerCall → TrackerM (Option ExecutionStatus)
  | .track bundle => do
    trackBundle bundle
    pure none
  | .status bundleId => do
    let status ← getExecutionStatus bundleId
    pure (some status)
  | .monitor ticks => do
    startMonitoring ticks
    pure none

/-- Calls in the middle of running. -/
abbrev TrackerPool (ι : Type) := Pool TrackerI Failure (Option ExecutionStatus) TrackerState ι

end Botmev.Bundles
