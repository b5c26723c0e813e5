import Botmev.Bundles.Types
import Botmev.Library.Interleaving
import Botmev.Rust.Str

/-!
# The transaction signer

`TransactionSigner` (`bundle/signer.rs`) with the part of `KeyManager` it uses
(`bundle/key_manager.rs`). The shared state is behind locks, and every section under a
lock is one operation of `SignerI`; between two of them other tasks may come in. To
sign with `NonceStrategy::Sequential` or `Network` takes two sections that write the
nonce tracker: `get_nonce` reads the tracked nonce `n` and stores `n + 1`, and
`update_nonce` stores `n + 1` again once the transaction is signed.

The `ethers` crate is a parameter (`Ethers`): the address of a wallet, the signature it
makes, and the hash and the bytes of a signed transaction.
-/

namespace Botmev.Bundles

open Botmev.Rust Botmev.Library

/-- The transaction that is signed, with the fields the signer sets. -/
structure Eip1559TransactionRequest where
  /-- The recipient. -/
  toAddress : Address
  /-- The value. -/
  value : U256
  /-- The gas limit. -/
  gas : U256
  /-- The most it pays for a unit of gas. -/
  maxFeePerGas : U256
  /-- The most of that which goes to the block's producer. -/
  maxPriorityFeePerGas : U256
  /-- The nonce. -/
  nonce : U256
  /-- The calldata. -/
  data : Bytes
  /-- The chain. -/
  chainId : U64
  deriving DecidableEq, Repr

/-- What the signer and the builder use of the `ethers` crate. -/
structure Ethers (Wallet Signature : Type) where
  /-- `wallet.address()`. -/
  address : Wallet → Address
  /-- `wallet.sign_transaction(&tx)`; the signatures are deterministic. -/
  signTransaction : Wallet → Eip1559TransactionRequest → Except String Signature
  /-- `tx.hash(&signature)`. -/
  hash : Eip1559TransactionRequest → Signature → H256
  /-- `tx.rlp_signed(&signature)`. -/
  rlpSigned : Eip1559TransactionRequest → Signature → Bytes
  /-- `s.parse::<Address>()`. -/
  parseAddress : String → Except String Address
  /-- `s.parse::<H256>()`. -/
  parseH256 : String → Except String H256
  /-- What the number and byte parsers say of a string they do not read. -/
  parseError : String → String

/-- A stand-in for the crate, to run examples with: one wallet, and in place of the
encoding and its digest the fields one after another and their sum. -/
def Ethers.sample : Ethers Unit Unit where
  address _ := 0xa11ce
  signTransaction _ _ := .ok ()
  hash tx _ := tx.nonce + tx.maxPriorityFeePerGas + tx.maxFeePerGas + tx.gas + tx.value
  rlpSigned tx _ :=
    2 :: ([tx.nonce, tx.maxPriorityFeePerGas, tx.maxFeePerGas, tx.gas, tx.value].flatMap U256.toBigEndian ++ tx.data)
  parseAddress s := parseHexOfLength 160 s
  parseH256 s := parseHexOfLength 256 s
  parseError _ := "not a number"
where
  parseHexOfLength (w : ℕ) (s : String) : Except String (BitVec w) :=
    match parseDigits w 16 (stripPrefix0x s.toList) with
    | some x => if 4 * (stripPrefix0x s.toList).length = w then .ok x else .error "Invalid input length"
    | none => .error "Invalid character"

/-- The sections under a lock. -/
inductive SignerOp where
  /-- `default_wallet.read()`. -/
  | getDefaultWallet
  /-- `nonce_tracker.write()` in `get_nonce`: read the tracked nonce and count it up. -/
  | takeNonce (address : Address)
  /-- `nonce_tracker.read()` in `get_tracked_nonce`. -/
  | getTrackedNonce (address : Address)
  /-- `nonce_tracker.write()` in `update_nonce`. -/
  | insertNonce (address : Address) (nonce : U256)
  deriving DecidableEq, Repr

/-- The sections under a lock, with what each answers. -/
@[reducible] def SignerI (Wallet : Type) : Interface where
  Op := SignerOp
  Reply
    | .getDefaultWallet => Option Wallet
    | .takeNonce _ => Result U256
    | .getTrackedNonce _ => Option U256
    | .insertNonce _ _ => Unit

/-- The state behind the locks. -/
structure SignerState (Wallet : Type) where
  /-- The next nonce of each address, where one is tracked. -/
  nonceTracker : Address → Option U256
  /-- The default wallet. -/
  defaultWallet : Option Wallet

variable {Wallet Signature : Type}

/-- The tracked nonce of an address, zero if there is none. -/
def SignerState.tracked (s : SignerState Wallet) (address : Address) : U256 :=
  (s.nonceTracker address).getD 0

/-- `tracker.insert(address, nonce)`. -/
def SignerState.insert (s : SignerState Wallet) (address : Address) (nonce : U256) : SignerState Wallet :=
  { s with nonceTracker := Function.update s.nonceTracker address (some nonce) }

@[simp] theorem SignerState.tracked_insert_self (s : SignerState Wallet) (address : Address)
    (nonce : U256) :
    (s.insert address nonce).tracked address = nonce := by
  simp [insert, tracked]

theorem SignerState.nonceTracker_insert_of_ne (s : SignerState Wallet) {address other : Address}
    (nonce : U256)
    (h : other ≠ address) : (s.insert address nonce).nonceTracker other = s.nonceTracker other :=
  Function.update_of_ne h ..

@[simp] theorem SignerState.insert_insert (s : SignerState Wallet) (address : Address) (m n : U256) :
    (s.insert address m).insert address n = s.insert address n := by
  simp [insert]

/-- What the sections do. A nonce that cannot be counted up panics before it is stored. -/
def signerHandler : Handler (SignerI Wallet) (SignerState Wallet)
  | .getDefaultWallet, s => (s.defaultWallet, s)
  | .takeNonce address, s =>
    match U256.add (s.tracked address) 1 with
    | .ok next => (.ok (s.tracked address), s.insert address next)
    | .error e => (.error e, s)
  | .getTrackedNonce address, s => (s.nonceTracker address, s)
  | .insertNonce address nonce, s => ((), s.insert address nonce)

/-- A nonce handed out is the tracked one, and is counted up. -/
theorem takeNonce_ok {s : SignerState Wallet} {address : Address} {nonce : U256}
    (h : (signerHandler (.takeNonce address) s).1 = .ok nonce) :
    nonce = s.tracked address ∧ ∃ next : U256, next.toNat = nonce.toNat + 1 ∧
      (signerHandler (.takeNonce address) s).2 = s.insert address next := by
  rcases hadd : U256.add (s.tracked address) 1 with e | next
  · simp only [signerHandler, hadd, reduceCtorEq] at h
  · simp only [signerHandler, hadd, Except.ok.injEq] at h ⊢
    exact ⟨h.symm, next, h ▸ U256.add_one_eq_ok_iff.mp hadd, rfl⟩

theorem takeNonce_error {s : SignerState Wallet} {address : Address} {e : Failure}
    (h : (signerHandler (.takeNonce address) s).1 = .error e) :
      (signerHandler (.takeNonce address) s).2 = s := by
  rcases hadd : U256.add (s.tracked address) 1 with e | next
  · simp only [signerHandler, hadd]
  · simp only [signerHandler, hadd, reduceCtorEq] at h

/-- A function of the signer. -/
abbrev SignerM (Wallet α : Type) := Async (SignerI Wallet) Failure α

/-- Functions that use one signer, in the middle of running. -/
abbrev SignerPool (Wallet ι α : Type) := Pool (SignerI Wallet) Failure α (SignerState Wallet) ι

/-- `KeyManager::get_default_wallet`. -/
def getDefaultWallet : SignerM Wallet Wallet := do
  let wallet ← Async.request (I := SignerI Wallet) .getDefaultWallet
  okOr "No default wallet configured" wallet

/-- `get_nonce`. The network is not asked: `Network` counts like `Sequential`. -/
def getNonce (address : Address) : NonceStrategy → SignerM Wallet U256
  | .fixed nonce => pure (U256.ofUint nonce)
  | .sequential | .network => do
    let nonce ← Async.request (I := SignerI Wallet) (.takeNonce address)
    nonce

/-- `update_nonce`. -/
def updateNonce (address : Address) (nonce : U256) : SignerM Wallet Unit :=
  Async.request (I := SignerI Wallet) (.insertNonce address nonce)

/-- `get_tracked_nonce`. -/
def getTrackedNonce (address : Address) : SignerM Wallet (Option U256) :=
  Async.request (I := SignerI Wallet) (.getTrackedNonce address)

/-- The request for a template. A contract creation is addressed to zero. -/
def eip1559Request (chainId : U64) (template : TransactionTemplate)
    (nonce maxFeePerGas maxPriorityFeePerGas : U256) :
    Eip1559TransactionRequest where
  toAddress := template.toAddress.getD 0
  value := template.value
  gas := template.gasLimit
  maxFeePerGas := maxFeePerGas
  maxPriorityFeePerGas := maxPriorityFeePerGas
  nonce := nonce
  data := template.data
  chainId := chainId

/-- The signed transaction made of a request and its signature. -/
def signedTransaction (E : Ethers Wallet Signature) (fromAddress : Address) (toAddress : Option Address)
    (tx : Eip1559TransactionRequest) (signature : Signature) : SignedTransaction where
  hash := E.hash tx signature
  fromAddress := fromAddress
  toAddress := toAddress
  value := tx.value
  gasLimit := tx.gas
  maxFeePerGas := tx.maxFeePerGas
  maxPriorityFeePerGas := tx.maxPriorityFeePerGas
  nonce := tx.nonce
  data := tx.data
  chainId := tx.chainId
  rawTransaction := E.rlpSigned tx signature

variable (E : Ethers Wallet Signature) (chainId : U64)

/-- `sign_transaction_with_wallet`. -/
def signTransactionWithWallet (wallet : Wallet) (template : TransactionTemplate)
    (nonceStrategy : NonceStrategy)
    (maxFeePerGas maxPriorityFeePerGas : U256) : SignerM Wallet SignedTransaction := do
  let fromAddress := E.address wallet
  let nonce ← getNonce fromAddress nonceStrategy
  let tx := eip1559Request chainId template nonce maxFeePerGas maxPriorityFeePerGas
  let signature ← anyhow (E.signTransaction wallet tx)
  let signedTx := signedTransaction E fromAddress template.toAddress tx signature
  let next ← U256.add nonce 1
  updateNonce fromAddress next
  pure signedTx

/-- `sign_transaction`. -/
def signTransaction (template : TransactionTemplate) (nonceStrategy : NonceStrategy)
    (maxFeePerGas maxPriorityFeePerGas : U256) : SignerM Wallet SignedTransaction := do
  let wallet ← getDefaultWallet
  signTransactionWithWallet E chainId wallet template nonceStrategy maxFeePerGas maxPriorityFeePerGas

end Botmev.Bundles
