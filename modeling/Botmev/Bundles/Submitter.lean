import Botmev.Bundles.Types
import Botmev.Library.Select
import Botmev.Rust.Str

/-!
# The bundle submitter

`BundleSubmitter` (`bundle/submitter.rs`). A bundle goes out transaction by transaction
to the node, or whole to a bundle endpoint, or both ways at once; what went out is tracked
under the submission's id, and can be sent again with a higher gas price.

The atomic operations are a request with its answer, the sections under the lock of
`active_submissions`, and, where both ways are tried at once, which of them is ready
first. What the node and the endpoint will answer, and that order, are part of the state:
a run is one of all the ways things can go. The state also keeps what was sent to the
node, in order.

The time of a submission, which only the clean-up of old ones reads, is left out.
-/

namespace Botmev.Bundles

open Botmev.Rust Botmev.Library

/-- `u32`. -/
abbrev U32 := BitVec 32

/-- How to submit. -/
structure SubmissionConfig where
  /-- "Bundle RPC endpoint (flashbots-style)". -/
  bundleRpcEndpoint : Option String
  /-- "Maximum number of resubmission attempts". -/
  maxResubmissions : U32
  /-- "Gas bump percentage for resubmissions (e.g., 1.1 = 10% increase)". -/
  gasBumpMultiplier : Binary64
  deriving DecidableEq, Repr

/-- The configuration a submitter has unless it is given another. -/
def SubmissionConfig.default : SubmissionConfig where
  bundleRpcEndpoint := none
  maxResubmissions := 3
  gasBumpMultiplier := Binary64.ofDecimal 11 1

/-- "Tracks the state of an active bundle submission". -/
structure SubmissionTracker where
  /-- The bundle's name. -/
  bundleId : String
  /-- How often it went out. -/
  submissionAttempts : U32
  /-- The gas price it went out with last. -/
  currentGasPrice : U256
  /-- The bundle. -/
  originalBundle : Bundle
  /-- What the node or the endpoint answered. -/
  submissionHashes : List String
  deriving DecidableEq, Repr

/-- "Submission path enumeration". -/
inductive SubmissionPath where
  /-- "Direct eth_sendRawTransaction for each transaction". -/
  | direct
  /-- "Bundle RPC (flashbots-style) for atomic submission". -/
  | bundleRpc
  /-- "Race condition: submit via both paths simultaneously". -/
  | race
  deriving DecidableEq, Repr

/-- What a submission returns. -/
structure SubmissionResult where
  /-- The bundle's name. -/
  bundleId : String
  /-- What the node or the endpoint answered. -/
  submissionHash : String
  /-- The gas price it went out with. -/
  gasPrice : U256
  /-- The block it is meant for. -/
  estimatedInclusionBlock : U64
  deriving DecidableEq, Repr

/-- What a request comes to. -/
inductive RpcAnswer where
  /-- No answer, or none that is JSON. -/
  | failed (error : String)
  /-- An answer: its `error` as text, if it has one, and its `result`, if that is a
  string. -/
  | response (error result : Option String)
  deriving DecidableEq, Repr

/-- What `prepare_bundle_data` makes of a bundle. -/
structure BundleData where
  /-- The signed transactions. -/
  txs : List String
  /-- The block. -/
  blockNumber : String
  /-- The earliest time. -/
  minTimestamp : ℤ
  /-- The latest time. -/
  maxTimestamp : ℤ
  deriving DecidableEq, Repr

/-- The atomic operations. -/
inductive SubmitterOp where
  /-- `eth_sendRawTransaction`. -/
  | sendRawTransaction (payload : String)
  /-- `eth_sendBundle`. -/
  | sendBundle (endpoint : String) (data : BundleData)
  /-- `active.insert(submission_id, tracker)`. -/
  | insertTracker (submissionId : String) (tracker : SubmissionTracker)
  /-- The locked part of `resubmit_with_gas_bump`. -/
  | bumpTracker (submissionId : String)
  /-- Whether the first of two ways is the next to be ready. -/
  | ready
  deriving DecidableEq, Repr

/-- The atomic operations, with what each answers. -/
@[reducible] def SubmitterI : Interface where
  Op := SubmitterOp
  Reply
    | .sendRawTransaction _ => RpcAnswer
    | .sendBundle _ _ => RpcAnswer
    | .insertTracker _ _ => Unit
    | .bumpTracker _ => Result Bundle
    | .ready => Bool

/-- The submitter, with the node and the endpoint. -/
structure SubmitterState where
  /-- The submissions that are tracked. -/
  activeSubmissions : String → Option SubmissionTracker
  /-- What the node will answer. -/
  node : ℕ → RpcAnswer
  /-- What the endpoint will answer. -/
  endpoint : ℕ → RpcAnswer
  /-- Which way will be ready first. -/
  order : ℕ → Bool
  /-- What was sent to the node. -/
  sent : List String

/-- The gas price of a resubmission. -/
def bumpedGasPrice (config : SubmissionConfig) (currentGasPrice : U256) : Result U256 := do
  let price ← U256.asU128 currentGasPrice
  pure (U256.ofUint (((Binary64.ofNat price.toNat).mul config.gasBumpMultiplier).toUint 128))

/-- The bundle of a resubmission. The transactions are not signed again. -/
def Bundle.withGasPrice (bundle : Bundle) (newGasPrice : U256) : Bundle :=
  { bundle with
    maxGasPrice := newGasPrice
    preTransactions := bundle.preTransactions.map fun tx => { tx with maxFeePerGas := newGasPrice }
    targetTransaction := { bundle.targetTransaction with maxFeePerGas := newGasPrice }
    postTransactions := bundle.postTransactions.map fun tx => { tx with maxFeePerGas := newGasPrice } }

/-- The locked part of `resubmit_with_gas_bump`: the new gas price for a submission that
has attempts left. -/
def newGasPrice (config : SubmissionConfig) (submissionId : String) (tracker : Option SubmissionTracker) :
    Result (SubmissionTracker × U256) := do
  let tracker ← okOr ("Submission not found: " ++ submissionId) tracker
  if config.maxResubmissions ≤ tracker.submissionAttempts then throw (.err "Maximum resubmission attempts reached")
  else
    let newGasPrice ← bumpedGasPrice config tracker.currentGasPrice
    pure (tracker, newGasPrice)

/-- `active.insert(submission_id, tracker)`. -/
def SubmitterState.track (s : SubmitterState) (submissionId : String) (tracker : SubmissionTracker) :
    SubmitterState :=
  { s with activeSubmissions := Function.update s.activeSubmissions submissionId (some tracker) }

theorem SubmitterState.activeSubmissions_track_of_ne (s : SubmitterState) {id submissionId : String}
    (tracker : SubmissionTracker)
    (h : id ≠ submissionId) : (s.track submissionId tracker).activeSubmissions id = s.activeSubmissions id :=
  Function.update_of_ne h ..

@[simp] theorem SubmitterState.activeSubmissions_track_self (s : SubmitterState)
    (submissionId : String) (tracker : SubmissionTracker) :
    (s.track submissionId tracker).activeSubmissions submissionId = some tracker := Function.update_self ..

/-- What the operations do. -/
def submitterHandler (config : SubmissionConfig) : Handler SubmitterI SubmitterState
  | .sendRawTransaction payload, s =>
    (s.node 0, { s with node := fun i => s.node (i + 1), sent := s.sent ++ [payload] })
  | .sendBundle _ _, s => (s.endpoint 0, { s with endpoint := fun i => s.endpoint (i + 1) })
  | .insertTracker submissionId tracker, s => ((), s.track submissionId tracker)
  | .bumpTracker submissionId, s =>
    match newGasPrice config submissionId (s.activeSubmissions submissionId) with
    | .ok (tracker, price) =>
      (.ok (tracker.originalBundle.withGasPrice price),
        s.track submissionId
          { tracker with submissionAttempts := tracker.submissionAttempts + 1, currentGasPrice := price })
    | .error e => (.error e, s)
  | .ready, s => (s.order 0, { s with order := fun i => s.order (i + 1) })

/-- A function of the submitter. -/
abbrev SubmitterM (α : Type) := Async SubmitterI Failure α

/-- The `result` of an answer, or the error the caller makes of it. -/
def RpcAnswer.result (what invalid : String) : RpcAnswer → Result String
  | .failed error => .error (.err error)
  | .response (some error) _ => .error (.err (what ++ error))
  | .response none (some result) => .ok result
  | .response none none => .error (.err invalid)

/-- What goes out for a transaction. -/
def SignedTransaction.payload (tx : SignedTransaction) : String := hexEncode0x tx.rawTransaction

/-- `send_raw_transaction`. -/
def sendRawTransaction (tx : SignedTransaction) : SubmitterM String := do
  let answer ← Async.request (I := SubmitterI) (.sendRawTransaction tx.payload)
  answer.result "RPC error: " "Invalid RPC response"

/-- The loop of `submit_direct`: the transactions in order, up to the first that is not
accepted. -/
def sendAll : List SignedTransaction → SubmitterM (List String)
  | [] => pure []
  | tx :: txs => do
    let txHash ← sendRawTransaction tx
    let hashes ← sendAll txs
    pure (txHash :: hashes)

/-- The tracker of a bundle that went out. -/
def trackerOf (bundle : Bundle) (submissionHashes : List String) : SubmissionTracker where
  bundleId := bundle.id
  submissionAttempts := 1
  currentGasPrice := bundle.maxGasPrice
  originalBundle := bundle
  submissionHashes := submissionHashes

/-- What a submission that went out returns. -/
def resultOf (bundle : Bundle) (submissionHash : String) : SubmissionResult where
  bundleId := bundle.id
  submissionHash := submissionHash
  gasPrice := bundle.maxGasPrice
  estimatedInclusionBlock := bundle.targetBlock

/-- `submit_direct`. -/
def submitDirect (bundle : Bundle) (submissionId : String) : SubmitterM SubmissionResult := do
  let submissionHashes ← sendAll bundle.allTransactions
  Async.request (I := SubmitterI) (.insertTracker submissionId (trackerOf bundle submissionHashes))
  pure (resultOf bundle (",".intercalate submissionHashes))

/-- `prepare_bundle_data`. -/
def prepareBundleData (bundle : Bundle) : BundleData where
  txs := bundle.allTransactions.map (·.payload)
  blockNumber := formatHex bundle.targetBlock.toNat
  minTimestamp := 0
  -- "30 second window"
  maxTimestamp := bundle.createdAt + 30

variable (config : SubmissionConfig)

/-- `submit_bundle_rpc`. -/
def submitBundleRpc (bundle : Bundle) (submissionId : String) : SubmitterM SubmissionResult := do
  let endpoint ← okOr "Bundle RPC endpoint not configured" config.bundleRpcEndpoint
  let answer ← Async.request (I := SubmitterI) (.sendBundle endpoint (prepareBundleData bundle))
  let bundleHash ← answer.result "Bundle RPC error: " "Invalid bundle RPC response"
  Async.request (I := SubmitterI) (.insertTracker submissionId (trackerOf bundle [bundleHash]))
  pure (resultOf bundle bundleHash)

/-- `submit_race`: whichever way returns first, also if it fails. -/
def submitRace (bundle : Bundle) (submissionId : String) : SubmitterM SubmissionResult :=
  Async.select (Async.request (I := SubmitterI) .ready) (submitDirect bundle (submissionId ++ "_direct"))
    (submitBundleRpc config bundle (submissionId ++ "_bundle"))

/-- `submit_bundle`, with the fresh `uuid`. -/
def submitBundle (bundle : Bundle) (path : SubmissionPath) (uuid : String) : SubmitterM SubmissionResult :=
  match path with
  | .direct => submitDirect bundle ("sub_" ++ uuid)
  | .bundleRpc => submitBundleRpc config bundle ("sub_" ++ uuid)
  | .race => submitRace config bundle ("sub_" ++ uuid)

/-- `resubmit_with_gas_bump`. -/
def resubmitWithGasBump (submissionId : String) : SubmitterM SubmissionResult := do
  let newBundle ← Async.request (I := SubmitterI) (.bumpTracker submissionId)
  let newBundle ← newBundle
  submitDirect newBundle submissionId

/-- A submitter that tracks nothing yet, with a node and an endpoint that accept everything. -/
def SubmitterState.accepting : SubmitterState where
  activeSubmissions _ := none
  node _ := .response none (some "0xhash")
  endpoint _ := .response none (some "0xhash")
  order _ := true
  sent := []

end Botmev.Bundles
