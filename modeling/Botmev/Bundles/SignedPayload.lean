import Botmev.Bundles.Signer

/-!
# The signed bytes and their record

The signer fills the request that it signs and the record that it returns from the same template,
each on its own. A contract creation has no recipient: the record says so, and the request is
addressed to zero, which the source expects to "be converted to None during signing". Encoding
keeps the recipient as it is.

## What is proved

* `signed_of_run`: what comes of signing, whatever other tasks do to the tracker meanwhile.
* `payload_matches_iff`: the bytes carry what the record says just when there is a recipient.
* `creation_sent_to_zero`: a contract creation, signed as a call of the address zero.
-/

namespace Botmev.Bundles

open Botmev.Rust Botmev.Library

/-- What the bytes of a signed transaction carry. -/
structure Payload where
  toAddress : Option Address
  value : U256
  gasLimit : U256
  maxFeePerGas : U256
  maxPriorityFeePerGas : U256
  nonce : U256
  data : Bytes
  chainId : U64
  deriving DecidableEq, Repr

/-- What is encoded of a request. -/
def Eip1559TransactionRequest.payload (tx : Eip1559TransactionRequest) : Payload where
  toAddress := some tx.toAddress
  value := tx.value
  gasLimit := tx.gas
  maxFeePerGas := tx.maxFeePerGas
  maxPriorityFeePerGas := tx.maxPriorityFeePerGas
  nonce := tx.nonce
  data := tx.data
  chainId := tx.chainId

/-- What the record says. -/
def SignedTransaction.recorded (signedTx : SignedTransaction) : Payload where
  toAddress := signedTx.toAddress
  value := signedTx.value
  gasLimit := signedTx.gasLimit
  maxFeePerGas := signedTx.maxFeePerGas
  maxPriorityFeePerGas := signedTx.maxPriorityFeePerGas
  nonce := signedTx.nonce
  data := signedTx.data
  chainId := signedTx.chainId

variable {Wallet Signature σ : Type} {E : Ethers Wallet Signature} {chainId : U64} {wallet : Wallet}
  {template : TransactionTemplate} {nonceStrategy : NonceStrategy} {maxFeePerGas maxPriorityFeePerGas : U256}
  {signedTx : SignedTransaction} {h : Handler (SignerI Wallet) σ} {s s' : σ}

/-- **What comes of signing** is the record and the encoding of one request, with some nonce,
whatever the sections under a lock answer. -/
theorem signed_of_run
    (hrun : (signTransactionWithWallet E chainId wallet template nonceStrategy maxFeePerGas
      maxPriorityFeePerGas).run h s = (.ok signedTx, s')) :
    ∃ nonce signature, signedTx = signedTransaction E (E.address wallet) template.toAddress
      (eip1559Request chainId template nonce maxFeePerGas maxPriorityFeePerGas) signature := by
  obtain ⟨nonce, s₁, -, hrun⟩ := Async.exists_of_run_bind hrun
  obtain ⟨signature, s₂, -, hrun⟩ := Async.exists_of_run_bind hrun
  obtain ⟨next, s₃, -, hrun⟩ := Async.exists_of_run_bind hrun
  obtain ⟨_, s₄, -, hrun⟩ := Async.exists_of_run_bind hrun
  cases hrun
  exact ⟨nonce, signature, rfl⟩

/-- **The bytes carry what the record says** just when the template has a recipient. -/
theorem payload_matches_iff {decode : Bytes → Option Payload}
    (hdecode : ∀ tx signature, decode (E.rlpSigned tx signature) = some tx.payload)
    (hrun : (signTransactionWithWallet E chainId wallet template nonceStrategy maxFeePerGas
      maxPriorityFeePerGas).run h s = (.ok signedTx, s')) :
    decode signedTx.rawTransaction = some signedTx.recorded ↔ template.toAddress.isSome := by
  obtain ⟨nonce, signature, rfl⟩ := signed_of_run hrun
  have hraw := hdecode (eip1559Request chainId template nonce maxFeePerGas maxPriorityFeePerGas) signature
  rcases template with ⟨_ | recipient, value, gasLimit, data⟩
  · refine iff_of_false (fun hmatches => ?_) Bool.false_ne_true
    have hrecord := Option.some.inj (hraw.symm.trans hmatches)
    exact absurd (congrArg Payload.toAddress hrecord) (Option.some_ne_none _)
  · exact iff_of_true hraw rfl

/-! ### An encoding -/

/-- The fields of a request, in words of 32 bytes. -/
def fieldBytes (tx : Eip1559TransactionRequest) : Bytes :=
  2 :: ((U256.ofUint tx.chainId).toBigEndian ++ (tx.nonce.toBigEndian ++ (tx.maxPriorityFeePerGas.toBigEndian ++
    (tx.maxFeePerGas.toBigEndian ++ (tx.gas.toBigEndian ++ ((U256.ofUint tx.toAddress).toBigEndian ++
      (tx.value.toBigEndian ++ tx.data)))))))

/-- The first word of some bytes, and the others. -/
def readWord (bytes : Bytes) : U256 × Bytes :=
  (BitVec.ofNat 256 (Numeral.value 256 ((bytes.take 32).map UInt8.toNat)), bytes.drop 32)

/-- The fields that were encoded. -/
def readFields : Bytes → Option Payload
  | 2 :: bytes =>
    let (chainId, bytes) := readWord bytes
    let (nonce, bytes) := readWord bytes
    let (maxPriorityFeePerGas, bytes) := readWord bytes
    let (maxFeePerGas, bytes) := readWord bytes
    let (gasLimit, bytes) := readWord bytes
    let (recipient, bytes) := readWord bytes
    let (value, data) := readWord bytes
    some
      { toAddress := some (recipient.setWidth 160), value, gasLimit, maxFeePerGas, maxPriorityFeePerGas, nonce, data
        chainId := chainId.setWidth 64 }
  | _ => none

theorem readWord_append (a : U256) (bytes : Bytes) : readWord (a.toBigEndian ++ bytes) = (a, bytes) := by
  have hlen : a.toBigEndian.length = 32 := by simp [U256.toBigEndian]
  rw [readWord, List.take_left' hlen, List.drop_left' hlen, value_toBigEndian, BitVec.ofNat_toNat, BitVec.setWidth_eq]

theorem readFields_fieldBytes (tx : Eip1559TransactionRequest) : readFields (fieldBytes tx) = some tx.payload := by
  have haddress : (U256.ofUint tx.toAddress).setWidth 160 = tx.toAddress := by
    simp [U256.ofUint]
  have hchain : (U256.ofUint tx.chainId).setWidth 64 = tx.chainId := by
    simp [U256.ofUint]
  simp only [readFields, fieldBytes, readWord_append, haddress, hchain]
  rfl

/-- The crate of the examples, with this encoding. -/
def Ethers.encoding : Ethers Unit Unit := { Ethers.sample with rlpSigned := fun tx _ => fieldBytes tx }

/-- A template with some calldata. -/
def templateTo (toAddress : Option Address) : TransactionTemplate := ⟨toAddress, 0, 300000, [0xde, 0xad, 0xbe, 0xef]⟩

/-- To sign it with the next nonce. -/
def signTemplate (toAddress : Option Address) : Result SignedTransaction × SignerState Unit :=
  (signTransactionWithWallet Ethers.encoding 998 () (templateTo toAddress) .sequential 100 2).run signerHandler
    ⟨fun _ => some 7, some ()⟩

/-- A call of a contract is signed as it is recorded. -/
theorem call_signed_as_recorded :
    ∃ signedTx s', signTemplate (some 0xb0b) = (.ok signedTx, s') ∧
      readFields signedTx.rawTransaction = some signedTx.recorded := by
  have hdecode : ∀ tx signature, readFields (Ethers.encoding.rlpSigned tx signature) = some tx.payload :=
    fun tx _ => readFields_fieldBytes tx
  have hrun : signTemplate (some 0xb0b) = (.ok _, _) := rfl
  exact ⟨_, _, hrun, (payload_matches_iff hdecode hrun).mpr rfl⟩

/-- **A contract creation is sent to zero**: its record has no recipient, and its bytes the address
zero. -/
theorem creation_sent_to_zero :
    ∃ signedTx s', signTemplate none = (.ok signedTx, s') ∧ signedTx.recorded.toAddress = none ∧
      (readFields signedTx.rawTransaction).map Payload.toAddress = some (some 0) ∧
      readFields signedTx.rawTransaction ≠ some signedTx.recorded := by
  refine ⟨_, _, rfl, rfl, ?_, ?_⟩
  · decide
  · decide

end Botmev.Bundles
