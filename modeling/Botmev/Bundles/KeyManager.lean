import Botmev.Rust.Json
import Botmev.Rust.Str
import Mathlib.Logic.Function.Basic

/-!
# The key manager

`KeyManager` (`bundle/key_manager.rs`) keeps private keys in files, encrypted with a password. The key
of the cipher is derived from the password and a random salt, and the file has in hexadecimal the
salt, and the random nonce followed by the ciphertext. What is encrypted is the private key as text,
again in hexadecimal.

The cryptography, the elliptic curve and the text form of JSON are parameters; what the file has in
JSON is not. Any number of key managers use one file system.
-/

namespace Botmev.Bundles

open Botmev.Rust

/-! ### Text as bytes -/

/-- `s.as_bytes()`. -/
def asBytes (s : String) : Bytes := s.toByteArray.data.toList

/-- `String::from_utf8(bytes).ok()`. -/
def fromUtf8 (bytes : Bytes) : Option String := String.fromUTF8? ⟨bytes.toArray⟩

theorem fromUtf8_asBytes (s : String) : fromUtf8 (asBytes s) = some s := by
  rw [fromUtf8, asBytes, Array.toArray_toList, String.fromUTF8?]
  exact dif_pos s.isValidUTF8

/-! ### The file -/

/-- "Key derivation function parameters". -/
structure KdfParams where
  /-- "Salt for key derivation". -/
  salt : String
  /-- "Number of iterations". -/
  iterations : BitVec 32
  /-- "Key length in bytes". -/
  keyLength : BitVec 32
  deriving DecidableEq, Repr

/-- "Encrypted key file format". -/
structure EncryptedKeyFile where
  /-- "Encrypted private key". -/
  encryptedKey : String
  /-- "Key derivation parameters". -/
  kdfParams : KdfParams
  /-- "Encryption algorithm used". -/
  cipher : String
  /-- "Key version for future compatibility". -/
  version : BitVec 32
  deriving DecidableEq, Repr

/-- A number as JSON. -/
def serializeU32 (n : BitVec 32) : Value := .number (.posInt (n.setWidth 64))

/-- A number of 32 bits from JSON. -/
def deserializeU32 (value : Value) : Except String (BitVec 32) :=
  match value.asU64 with
  | some n => if n.toNat < 2 ^ 32 then .ok (n.setWidth 32) else .error "invalid value, expected u32"
  | none => .error "invalid type, expected u32"

/-- A text from JSON. -/
def deserializeString (value : Value) : Except String String :=
  match value.asStr with
  | some s => .ok s
  | none => .error "invalid type, expected a string"

/-- The fields of a structure from JSON: an object has them by name, and an array in order. -/
def deserializeFields (names : List String) : Value → Except String (List Value)
  | .object entries =>
    names.mapM fun name =>
      match entries.lookup name with
      | some value => .ok value
      | none => .error ("missing field " ++ name)
  | .array items => if items.length = names.length then .ok items else .error "invalid length"
  | _ => .error "invalid type, expected struct"

/-- `KdfParams` as JSON. -/
def KdfParams.serialize (params : KdfParams) : Value :=
  .object [("salt", .string params.salt), ("iterations", serializeU32 params.iterations),
    ("key_length", serializeU32 params.keyLength)]

/-- `KdfParams` from JSON. -/
def KdfParams.deserialize (value : Value) : Except String KdfParams := do
  match ← deserializeFields ["salt", "iterations", "key_length"] value with
  | [salt, iterations, keyLength] =>
    let salt ← deserializeString salt
    let iterations ← deserializeU32 iterations
    let keyLength ← deserializeU32 keyLength
    pure { salt, iterations, keyLength }
  | _ => .error "invalid length"

/-- `EncryptedKeyFile` as JSON. -/
def EncryptedKeyFile.serialize (file : EncryptedKeyFile) : Value :=
  .object [("encrypted_key", .string file.encryptedKey), ("kdf_params", file.kdfParams.serialize),
    ("cipher", .string file.cipher), ("version", serializeU32 file.version)]

/-- `EncryptedKeyFile` from JSON. -/
def EncryptedKeyFile.deserialize (value : Value) : Except String EncryptedKeyFile := do
  match ← deserializeFields ["encrypted_key", "kdf_params", "cipher", "version"] value with
  | [encryptedKey, kdfParams, cipher, version] =>
    let encryptedKey ← deserializeString encryptedKey
    let kdfParams ← KdfParams.deserialize kdfParams
    let cipher ← deserializeString cipher
    let version ← deserializeU32 version
    pure { encryptedKey, kdfParams, cipher, version }
  | _ => .error "invalid length"

/-! ### Encryption -/

/-- What is used of the crates for cryptography and JSON, over the private keys. -/
structure KeyCrates (SigningKey : Type) where
  /-- `pbkdf2::<Hmac<Sha256>>`: the 32 bytes for a password, a salt and a number of iterations. -/
  pbkdf2 : Bytes → Bytes → BitVec 32 → Bytes
  /-- `Aes256Gcm::encrypt`, with a key and a nonce. -/
  encrypt : Bytes → Bytes → Bytes → Except String Bytes
  /-- `Aes256Gcm::decrypt`, with a key and a nonce. -/
  decrypt : Bytes → Bytes → Bytes → Except String Bytes
  /-- `SigningKey::from_bytes`. -/
  fromBytes : Bytes → Except String SigningKey
  /-- `signing_key.to_bytes()`. -/
  toBytes : SigningKey → Bytes
  /-- The address of a private key. -/
  address : SigningKey → Address
  /-- `serde_json::to_string_pretty`. -/
  toStringPretty : Value → Except String String
  /-- `serde_json::from_str`. -/
  fromStr : String → Except String Value
  /-- What is said of a text that is not hexadecimal. -/
  hexError : String → String
  /-- What is said of bytes that are not a text. -/
  utf8Error : Bytes → String

/-- What the round trip needs of them: decryption inverts encryption, a private key has 32 bytes and can
be read from them, and the JSON of a key file can be read from its text. -/
structure KeyCrates.Lawful {SigningKey : Type} (C : KeyCrates SigningKey) : Prop where
  decrypt_encrypt : ∀ key nonce plaintext ciphertext, C.encrypt key nonce plaintext = .ok ciphertext →
    C.decrypt key nonce ciphertext = .ok plaintext
  length_toBytes : ∀ key, (C.toBytes key).length = 32
  fromBytes_toBytes : ∀ key, C.fromBytes (C.toBytes key) = .ok key
  fromStr_toStringPretty : ∀ (file : EncryptedKeyFile) text, C.toStringPretty file.serialize = .ok text →
    C.fromStr text = .ok file.serialize

variable {SigningKey : Type} (C : KeyCrates SigningKey)

/-- `hex::decode(s)`. -/
def hexDecode (s : String) : Except String Bytes :=
  match hexBytes s.toList with
  | some bytes => .ok bytes
  | none => .error (C.hexError s)

/-- `encrypt_key`, with its random salt and nonce. -/
def encryptKey (salt nonce : Bytes) (privateKey password : String) : Result EncryptedKeyFile := do
  let iterations : BitVec 32 := 100000
  let derivedKey := C.pbkdf2 (asBytes password) salt iterations
  let ciphertext ← orErr "Encryption failed" (C.encrypt derivedKey nonce (asBytes privateKey))
  -- "Combine nonce and ciphertext".
  let encryptedData := nonce ++ ciphertext
  pure
    { encryptedKey := hexEncode encryptedData
      kdfParams := { salt := hexEncode salt, iterations, keyLength := 32 }
      cipher := "aes-256-gcm"
      version := 1 }

/-- `decrypt_key`. -/
def decryptKey (encryptedKey : EncryptedKeyFile) (password : String) : Result String := do
  bailIf (encryptedKey.cipher != "aes-256-gcm") ("Unsupported cipher: " ++ encryptedKey.cipher)
  let salt ← anyhow (hexDecode C encryptedKey.kdfParams.salt)
  let encryptedData ← anyhow (hexDecode C encryptedKey.encryptedKey)
  bailIf (encryptedData.length < 12) "Invalid encrypted data length"
  let derivedKey := C.pbkdf2 (asBytes password) salt encryptedKey.kdfParams.iterations
  -- "Split nonce and ciphertext".
  let nonce := encryptedData.take 12
  let ciphertext := encryptedData.drop 12
  let plaintext ← orErr "Decryption failed" (C.decrypt derivedKey nonce ciphertext)
  match fromUtf8 plaintext with
  | some privateKey => pure privateKey
  | none => .error (.err ("Invalid UTF-8: " ++ C.utf8Error plaintext))

/-! ### Wallets -/

/-- `LocalWallet`. -/
structure LocalWallet (SigningKey : Type) where
  /-- The private key. -/
  signer : SigningKey
  /-- Its address. -/
  address : Address
  /-- The chain it signs for, unless it is told another. -/
  chainId : U64

/-- The wallet of a private key. -/
def walletOf (key : SigningKey) : LocalWallet SigningKey where
  signer := key
  address := C.address key
  chainId := 1

/-- `s.parse::<LocalWallet>()`. -/
def parseWallet (s : String) : Except String (LocalWallet SigningKey) :=
  match hexBytes (stripPrefix0x s.toList) with
  | none => .error (C.hexError s)
  | some src => if src.length = 32 then (C.fromBytes src).map (walletOf C) else .error "Invalid string length"

/-- `KeyManager`. -/
structure KeyManager (SigningKey : Type) where
  /-- "Loaded wallets by address". -/
  wallets : Address → Option (LocalWallet SigningKey)
  /-- "Default wallet for signing". -/
  defaultWallet : Option (LocalWallet SigningKey)

/-- A wallet is stored, and "set as default if it's the first wallet". -/
def KeyManager.store (manager : KeyManager SigningKey) (wallet : LocalWallet SigningKey) :
    KeyManager SigningKey where
  wallets := Function.update manager.wallets wallet.address (some wallet)
  defaultWallet := manager.defaultWallet.or (some wallet)

/-- `get_wallet`. -/
def KeyManager.getWallet (manager : KeyManager SigningKey) (address : Address) :
    Result (LocalWallet SigningKey) :=
  okOr ("Wallet not found for address: " ++ hexEncode0x ((U256.ofUint address).toBigEndian.drop 12))
    (manager.wallets address)

/-! ### Key managers and files -/

/-- The files by their names, and the key managers by a number. -/
structure KeyWorld (SigningKey : Type) where
  /-- What is in the files. -/
  files : String → Option String
  /-- The key managers. -/
  managers : ℕ → KeyManager SigningKey

/-- How writing a file ends. -/
inductive WriteOutcome where
  /-- It is written. -/
  | done
  /-- It fails, and leaves the file with this, or none. -/
  | failed (message : String) (left : Option String)

/-- The arguments of `create_encrypted_key`, with what the call gets from outside. -/
structure CreateKeyCall (SigningKey : Type) where
  /-- The file. -/
  keyFile : String
  /-- The password. -/
  password : String
  /-- The private key that is generated. -/
  key : SigningKey
  /-- The random salt. -/
  salt : Bytes
  /-- It has 32 bytes. -/
  length_salt : salt.length = 32
  /-- The random nonce. -/
  nonce : Bytes
  /-- It has twelve bytes. -/
  length_nonce : nonce.length = 12
  /-- How writing the file ends. -/
  outcome : WriteOutcome

namespace KeyWorld

variable (world : KeyWorld SigningKey)

/-- The file has this in it. -/
def write (keyFile : String) (content : Option String) : KeyWorld SigningKey :=
  { world with files := Function.update world.files keyFile content }

/-- The key manager stores the wallet. -/
def store (manager : ℕ) (wallet : LocalWallet SigningKey) : KeyWorld SigningKey :=
  { world with managers := Function.update world.managers manager ((world.managers manager).store wallet) }

/-- `tokio::fs::read_to_string(key_file)`. -/
def readToString (keyFile : String) : Except String String :=
  match world.files keyFile with
  | some content => .ok content
  | none => .error "No such file or directory (os error 2)"

/-- The text that `create_encrypted_key` writes. -/
def keyContent (call : CreateKeyCall SigningKey) : Result String := do
  -- `format!("{:x}", wallet.signer().to_bytes())` has two digits for each byte.
  let privateKeyHex := hexEncode (C.toBytes call.key)
  let encryptedKey ← encryptKey C call.salt call.nonce privateKeyHex call.password
  anyhow (C.toStringPretty encryptedKey.serialize)

/-- `create_encrypted_key`. -/
def createEncryptedKey (manager : ℕ) (call : CreateKeyCall SigningKey) :
    Result Address × KeyWorld SigningKey :=
  match keyContent C call with
  | .error e => (.error e, world)
  | .ok content =>
    match call.outcome with
    | .failed message left => (.error (.err message), world.write call.keyFile left)
    | .done =>
      let wallet := walletOf C call.key
      (.ok wallet.address, (world.write call.keyFile content).store manager wallet)

/-- What `load_encrypted_key` reads. -/
def readWallet (keyFile password : String) : Result (LocalWallet SigningKey) := do
  let keyContent ← anyhow (world.readToString keyFile)
  let value ← anyhow (C.fromStr keyContent)
  let encryptedKey ← anyhow (EncryptedKeyFile.deserialize value)
  let privateKey ← decryptKey C encryptedKey password
  anyhow (parseWallet C privateKey)

/-- A wallet that was read is stored, and its address returned. -/
def load (manager : ℕ) : Result (LocalWallet SigningKey) → Result Address × KeyWorld SigningKey
  | .error e => (.error e, world)
  | .ok wallet => (.ok wallet.address, world.store manager wallet)

/-- `load_encrypted_key`. -/
def loadEncryptedKey (manager : ℕ) (keyFile password : String) : Result Address × KeyWorld SigningKey :=
  world.load manager (world.readWallet C keyFile password)

/-- `load_private_key`. -/
def loadPrivateKey (manager : ℕ) (privateKey : String) : Result Address × KeyWorld SigningKey :=
  world.load manager (anyhow (parseWallet C privateKey))

/-- `set_default_wallet`. -/
def setDefaultWallet (manager : ℕ) (address : Address) : Result Unit × KeyWorld SigningKey :=
  match (world.managers manager).getWallet address with
  | .error e => (.error e, world)
  | .ok wallet =>
    (.ok (), { world with
      managers := Function.update world.managers manager
        { world.managers manager with defaultWallet := some wallet } })

end KeyWorld

/-- A call of a key manager that changes something. -/
inductive KeyOperation (SigningKey : Type) where
  /-- `create_encrypted_key`. -/
  | create (manager : ℕ) (call : CreateKeyCall SigningKey)
  /-- `load_encrypted_key`. -/
  | load (manager : ℕ) (keyFile password : String)
  /-- `load_private_key`. -/
  | loadPrivate (manager : ℕ) (privateKey : String)
  /-- `set_default_wallet`. -/
  | setDefault (manager : ℕ) (address : Address)

/-- What a call leaves. -/
def KeyOperation.apply (world : KeyWorld SigningKey) : KeyOperation SigningKey → KeyWorld SigningKey
  | .create manager call => (world.createEncryptedKey C manager call).2
  | .load manager keyFile password => (world.loadEncryptedKey C manager keyFile password).2
  | .loadPrivate manager privateKey => (world.loadPrivateKey C manager privateKey).2
  | .setDefault manager address => (world.setDefaultWallet manager address).2

/-- It stores a key under this name. -/
def KeyOperation.StoresAt (keyFile : String) : KeyOperation SigningKey → Prop
  | .create _ call => call.keyFile = keyFile
  | _ => False

end Botmev.Bundles
