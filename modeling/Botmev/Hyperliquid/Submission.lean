import Botmev.Hyperliquid.RpcService
import Botmev.Rust.Str

/-!
# Submitting a transaction

`submit_transaction` (`mev-hyperliquid/src/rpc_service.rs`) fills in what a transaction lacks,
signs it and sends it, and does all of it anew at each attempt: the chain is asked for, the
nonce (the number of the account's transactions that are mined), a gas limit, a gas price.

A request may be answered, fail, or take too long, and in the last two cases it may have reached
the node or not, or reach it later. The node accepts a transaction whose nonce is not used by
one that is mined, and mines those that it has accepted, in the order of their nonces, whenever
it likes.

The `ethers` crate is a parameter (`Ethers`): the address of a wallet, the signatures it makes,
the bytes of a signed transaction, and what the node reads from these. The log is left out.
-/

namespace Botmev.Hyperliquid

open Botmev.Rust Botmev.Library

/-- `ethers::types::TransactionRequest`, without names in place of addresses. -/
structure TransactionRequest where
  /-- `from`. -/
  fromAddress : Option Address
  /-- `to`. -/
  toAddress : Option Address
  /-- `gas`. -/
  gas : Option U256
  /-- `gas_price`. -/
  gasPrice : Option U256
  /-- `value`. -/
  value : Option U256
  /-- `data`. -/
  data : Option Bytes
  /-- `nonce`. -/
  nonce : Option U256
  /-- `chain_id`. -/
  chainId : Option U64
  deriving DecidableEq, Repr

/-- What a node reads from a signed transaction. -/
structure Signed where
  /-- Whose signature it is. -/
  sender : Address
  /-- Its nonce. -/
  nonce : U256
  deriving DecidableEq, Repr

/-- What the service and the node use of the `ethers` crate and of the protocol. -/
structure Ethers (Wallet Signature : Type) where
  /-- `wallet.address()`. -/
  address : Wallet → Address
  /-- `wallet.with_chain_id(chain_id)`. -/
  withChainId : Wallet → U64 → Wallet
  /-- `wallet.sign_transaction(&typed_tx)`. -/
  signTransaction : Wallet → TransactionRequest → Except String Signature
  /-- `typed_tx.rlp_signed(&signature)`. -/
  rlpSigned : TransactionRequest → Signature → Bytes
  /-- What a node reads from it. -/
  decode : Bytes → Option Signed
  /-- Its hash. -/
  keccak256 : Bytes → H256

variable {Wallet Signature : Type}

/-- The crate and the node agree. -/
structure Ethers.Lawful (E : Ethers Wallet Signature) : Prop where
  /-- The address does not depend on the chain. -/
  address_withChainId : ∀ wallet chainId, E.address (E.withChainId wallet chainId) = E.address wallet
  /-- The node reads the signer and the nonce from a transaction that was signed. -/
  decode_rlpSigned : ∀ wallet tx signature nonce, E.signTransaction wallet tx = .ok signature →
    tx.nonce = some nonce →
    E.decode (E.rlpSigned tx signature) = some ⟨E.address wallet, nonce⟩

/-- A stand-in for them, to run examples with: one wallet, and in place of the encoding the
numbers one after another. -/
def Ethers.sample : Ethers Unit Unit where
  address _ := 0xa11ce
  withChainId wallet _ := wallet
  signTransaction _ _ := .ok ()
  rlpSigned tx _ :=
    [tx.nonce, tx.gasPrice, tx.gas, tx.value].flatMap (fun field => (field.getD 0).toBigEndian) ++ tx.data.getD []
  decode raw := some ⟨0xa11ce, BitVec.ofNat 256 (Numeral.value 256 ((raw.take 32).map UInt8.toNat))⟩
  keccak256 raw := BitVec.ofNat 256 (Numeral.value 256 (raw.map UInt8.toNat))

theorem Ethers.sample_lawful : Ethers.sample.Lawful where
  address_withChainId _ _ := rfl
  decode_rlpSigned wallet tx signature nonce _ hnonce := by
    have hlength : nonce.toBigEndian.length = 32 := by simp only [U256.toBigEndian, List.length_map,
      List.length_range]
    simp only [Ethers.sample, hnonce, List.flatMap_cons, Option.getD_some, List.append_assoc,
      List.take_left' hlength,
      value_toBigEndian, BitVec.ofNat_toNat, BitVec.setWidth_eq]

/-! ### The service -/

/-- What a call asks the node. -/
inductive NodeOp where
  /-- `get_chainid()`. -/
  | chainId
  /-- `get_transaction_count(account, None)`. -/
  | transactionCount (account : Address)
  /-- `estimate_gas(&tx, None)`. -/
  | estimateGas (tx : TransactionRequest)
  /-- `get_gas_price()`. -/
  | gasPrice
  /-- `send_raw_transaction(raw)`. -/
  | sendRawTransaction (raw : Bytes)

/-- What they answer. -/
@[reducible] def NodeOp.Value : NodeOp → Type
  | .chainId | .transactionCount _ | .estimateGas _ | .gasPrice => U256
  | .sendRawTransaction _ => H256

/-- The requests. -/
abbrev NodeI : Interface := RequestI NodeOp NodeOp.Value

namespace HyperLiquidRpcService

variable (E : Ethers Wallet Signature) (timeoutSecs : U64) (wallet : Wallet) (tx : TransactionRequest)

/-- "Fill in missing transaction fields": the nonce. -/
def fillNonce : Async NodeI Failure TransactionRequest :=
  match tx.nonce with
  | some _ => pure tx
  | none => do
    let nonce ← context "Failed to fetch nonce for transaction"
      (← ask timeoutSecs (.transactionCount (E.address wallet)))
    pure { tx with nonce := some nonce }

/-- "Estimate gas if not provided", with a "20% buffer"; 300000 where there is no estimate. -/
def fillGas : Async NodeI Failure TransactionRequest :=
  match tx.gas with
  | some _ => pure tx
  | none => do
    match ← ask timeoutSecs (.estimateGas tx) with
    | .ok gasEstimate => do
      let scaled ← U256.mul gasEstimate 120
      pure { tx with gas := some (scaled / 100) }
    | .error _ => pure { tx with gas := some 300000 }

/-- "Get gas price if not provided". -/
def fillGasPrice : Async NodeI Failure TransactionRequest :=
  match tx.gasPrice with
  | some _ => pure tx
  | none => do
    match ← ask timeoutSecs .gasPrice with
    | .ok gasPrice => pure { tx with gasPrice := some gasPrice }
    | .error _ => pure tx

/-- "Sign the transaction". -/
def signTransaction : Result Bytes := do
  let signature ← context "Failed to sign transaction" (E.signTransaction wallet tx)
  pure (E.rlpSigned tx signature)

/-- One attempt. -/
def submitOnce : Async NodeI Failure H256 := do
  let chainId ← context "Failed to fetch chain ID for transaction signing" (← ask timeoutSecs .chainId)
  let wallet := E.withChainId wallet (← U256.asU64 chainId)
  let tx ← fillNonce E timeoutSecs wallet tx
  let tx ← fillGas timeoutSecs tx
  let tx ← fillGasPrice timeoutSecs tx
  let signedTx ← signTransaction E wallet tx
  let txHash ← context "Failed to submit transaction via eth_sendRawTransaction"
    (← ask timeoutSecs (NodeOp.sendRawTransaction signedTx))
  pure txHash

/-- `submit_transaction`. -/
def submitTransaction (service : HyperLiquidRpcService Wallet) (E : Ethers Wallet Signature)
    (tx : TransactionRequest) :
    RetryM NodeI H256 := do
  let wallet ← okOr "Cannot submit transaction: no private key configured" service.wallet
  executeWithRetry (submitOnce E service.timeoutSecs wallet tx)

end HyperLiquidRpcService

/-! ### The node -/

/-- What happens at the node by itself. -/
inductive ChainOp where
  /-- A transaction arrives that has been sent. -/
  | deliver (k : ℕ)
  /-- An accepted one is mined. -/
  | mine (k : ℕ)

/-- The interface of it. -/
@[reducible] def ChainI : Interface where
  Op := ChainOp
  Reply _ := Unit

/-- How a request fares. -/
inductive Fate where
  /-- It is answered. -/
  | answered
  /-- It fails for the one who makes it, and gets to the node or not. -/
  | fails (arrives : Bool) (e : String)
  /-- It takes too long. -/
  | timesOut (arrives : Bool)

/-- What the calls share, with the node and the way to it. -/
structure Network where
  /-- The breaker. -/
  breaker : CircuitBreaker
  /-- What the clock says at its readings. -/
  clock : ℕ → U64
  /-- How many readings there were. -/
  readings : ℕ
  /-- How the requests fare. -/
  fates : ℕ → Fate
  /-- How many there were. -/
  asked : ℕ
  /-- The chain. -/
  chainId : U256
  /-- The estimates of the node. -/
  estimates : ℕ → TransactionRequest → Except String U256
  /-- Its gas prices. -/
  gasPrices : ℕ → U256
  /-- The transactions on their way. -/
  inFlight : List Bytes
  /-- Those that the node has accepted. -/
  accepted : List Bytes
  /-- Those of an account that are mined, in their order. -/
  mined : Address → List Bytes

namespace Network

/-- Before anything was sent. -/
def genesis (clock : ℕ → U64) (fates : ℕ → Fate) (chainId : U256)
    (estimates : ℕ → TransactionRequest → Except String U256) (gasPrices : ℕ → U256) : Network :=
  ⟨.new, clock, 0, fates, 0, chainId, estimates, gasPrices, [], [], fun _ => []⟩

variable (E : Ethers Wallet Signature) (network : Network)

/-- The number of the account's transactions that are mined. -/
def transactionCount (account : Address) : Except String U256 :=
  if (network.mined account).length < 2 ^ 256 then .ok (BitVec.ofNat 256 (network.mined account).length)
  else .error "nonce has max value"

/-- The node gets a transaction. It accepts it, unless a mined one has its nonce. -/
def accept (raw : Bytes) : Except String H256 × Network :=
  match E.decode raw with
  | none => (.error "invalid transaction", network)
  | some signed =>
    if signed.nonce.toNat < (network.mined signed.sender).length then (.error "nonce too low", network)
    else (.ok (E.keccak256 raw), { network with accepted := network.accepted ++ [raw] })

/-- The node does what it is asked. -/
def serve : (op : NodeOp) → Except String op.Value × Network
  | .chainId => (.ok network.chainId, network)
  | .transactionCount account => (network.transactionCount account, network)
  | .estimateGas tx => (network.estimates network.asked tx, network)
  | .gasPrice => (.ok (network.gasPrices network.asked), network)
  | .sendRawTransaction raw => network.accept E raw

/-- The request does not get there for now. -/
def lose : NodeOp → Network
  | .sendRawTransaction raw => { network with inFlight := network.inFlight ++ [raw] }
  | .chainId | .transactionCount _ | .estimateGas _ | .gasPrice => network

/-- A request is made. -/
def request (op : NodeOp) : Outcome op.Value × Network :=
  let counted := { network with asked := network.asked + 1 }
  let reached := fun (arrives : Bool) => if arrives then (counted.serve E op).2 else counted.lose op
  match network.fates network.asked with
  | .answered =>
    match counted.serve E op with
    | (.ok value, network) => (.ok value, network)
    | (.error e, network) => (.err e, network)
  | .fails arrives e => (.err e, reached arrives)
  | .timesOut arrives => (.timedOut, reached arrives)

/-- A transaction arrives. -/
def deliver (k : ℕ) : Network :=
  match network.inFlight[k]? with
  | none => network
  | some raw => ({ network with inFlight := network.inFlight.eraseIdx k }.accept E raw).2

/-- One is mined, if it is the next of its account. -/
def mine (k : ℕ) : Network :=
  match network.accepted[k]? with
  | none => network
  | some raw =>
    match E.decode raw with
    | none => network
    | some signed =>
      if signed.nonce.toNat = (network.mined signed.sender).length then
        { network with
          mined := Function.update network.mined signed.sender (network.mined signed.sender ++ [raw]) }
      else network

/-- A step of the breaker. -/
def stepBreaker (op : BreakerOp) : op.Reply × Network :=
  let (reply, breaker) := op.apply (network.clock network.readings) network.breaker
  (reply, { network with breaker := breaker, readings := network.readings + 1 })

end Network

/-- The calls and the node. -/
@[reducible] def NetworkI : Interface := (NodeI.sum RetryI).sum ChainI

/-- What the operations do. -/
def networkHandler (E : Ethers Wallet Signature) : Handler NetworkI Network
  | .inl (.inl op), network => network.request E op
  | .inl (.inr (.breaker op)), network => network.stepBreaker op
  | .inl (.inr (.sleep _)), network => ((), network)
  | .inr (.deliver k), network => ((), network.deliver E k)
  | .inr (.mine k), network => ((), network.mine E k)

end Botmev.Hyperliquid
