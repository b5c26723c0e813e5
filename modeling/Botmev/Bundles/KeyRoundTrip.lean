import Botmev.Bundles.KeyManager

/-!
# A stored key is read back

What one function of `bundle/key_manager.rs` writes, another reads: the text of a private key, its
hexadecimal digits, the salt and the nonce in the file, and the JSON of the file. Each pair is inverted
in a lemma of its own, and the results put them together. In between, key managers may do anything that
does not write the same file.

## What is proved

* `deserialize_serialize`: a key file is read back from its JSON.
* `decryptKey_encryptKey`: with the password it was encrypted with, a private key is read back from the
  file.
* `files_foldl`: calls that store nothing under a name leave what is in that file.
* `key_round_trip`: a key that was created is loaded with its password, by any key manager and after
  any calls that store nothing under its name, with the same private key and address.
* `stored_key_loaded`: a key with its ciphertext under AES-256-GCM.
-/

namespace Botmev.Bundles

open Botmev.Library Botmev.Rust

/-! ### The file -/

theorem deserializeU32_serializeU32 (n : BitVec 32) : deserializeU32 (serializeU32 n) = .ok n := by
  have hsmall : (n.setWidth 64).toNat < 2 ^ 32 := by
    rw [BitVec.toNat_setWidth]
    exact lt_of_le_of_lt (Nat.mod_le _ _) n.isLt
  have hback : (n.setWidth 64).setWidth 32 = n := by
    rw [BitVec.setWidth_setWidth_of_le n (by decide), BitVec.setWidth_eq]
  rw [deserializeU32, serializeU32, Value.asU64]
  simp only [if_pos hsmall, hback]

theorem KdfParams.deserialize_serialize (params : KdfParams) :
    KdfParams.deserialize params.serialize = .ok params := by
  have hfields : deserializeFields ["salt", "iterations", "key_length"] params.serialize =
      .ok [.string params.salt, serializeU32 params.iterations, serializeU32 params.keyLength] := rfl
  rw [KdfParams.deserialize, hfields]
  change (do
    let iterations ← deserializeU32 (serializeU32 params.iterations)
    let keyLength ← deserializeU32 (serializeU32 params.keyLength)
    pure { salt := params.salt, iterations, keyLength }) = Except.ok params
  rw [deserializeU32_serializeU32, deserializeU32_serializeU32]
  rfl

theorem EncryptedKeyFile.deserialize_serialize (file : EncryptedKeyFile) :
    EncryptedKeyFile.deserialize file.serialize = .ok file := by
  have hfields : deserializeFields ["encrypted_key", "kdf_params", "cipher", "version"] file.serialize =
      .ok [.string file.encryptedKey, file.kdfParams.serialize, .string file.cipher,
        serializeU32 file.version] := rfl
  rw [EncryptedKeyFile.deserialize, hfields]
  change (do
    let kdfParams ← KdfParams.deserialize file.kdfParams.serialize
    let cipher ← deserializeString (.string file.cipher)
    let version ← deserializeU32 (serializeU32 file.version)
    pure { encryptedKey := file.encryptedKey, kdfParams, cipher, version }) = Except.ok file
  rw [KdfParams.deserialize_serialize, deserializeU32_serializeU32]
  rfl

/-! ### Encryption -/

variable {SigningKey : Type} {C : KeyCrates SigningKey}

theorem hexDecode_hexEncode (bytes : Bytes) : hexDecode C (hexEncode bytes) = .ok bytes := by
  rw [hexDecode, hexBytes_hexEncode]

/-- With the password it was encrypted with, a private key is read back from the file. -/
theorem decryptKey_encryptKey (hC : C.Lawful) {salt nonce : Bytes} {privateKey password : String}
    {file : EncryptedKeyFile} (hnonce : nonce.length = 12)
    (h : encryptKey C salt nonce privateKey password = .ok file) :
    decryptKey C file password = .ok privateKey := by
  obtain ⟨ciphertext, hencrypt, hfile⟩ := bind_eq_ok_iff.mp h
  obtain rfl := Except.ok.inj hfile
  have hplain := hC.decrypt_encrypt _ _ _ _ (orErr_eq_ok_iff.mp hencrypt)
  have hlong : decide ((nonce ++ ciphertext).length < 12) = false := by
    rw [List.length_append, hnonce]
    exact decide_eq_false (by omega)
  refine bind_eq_ok_iff.mpr ⟨(), bailIf_eq_ok_iff.mpr (by simp), ?_⟩
  refine bind_eq_ok_iff.mpr ⟨salt, anyhow_eq_ok_iff.mpr (hexDecode_hexEncode salt), ?_⟩
  refine bind_eq_ok_iff.mpr ⟨nonce ++ ciphertext, anyhow_eq_ok_iff.mpr (hexDecode_hexEncode _), ?_⟩
  refine bind_eq_ok_iff.mpr ⟨(), bailIf_eq_ok_iff.mpr hlong, ?_⟩
  -- The nonce is the first twelve bytes, so the split is where the two were put together.
  have htake : (nonce ++ ciphertext).take 12 = nonce := by rw [← hnonce, List.take_left]
  have hdrop : (nonce ++ ciphertext).drop 12 = ciphertext := by rw [← hnonce, List.drop_left]
  simp only [htake, hdrop]
  refine bind_eq_ok_iff.mpr ⟨asBytes privateKey, orErr_eq_ok_iff.mpr hplain, ?_⟩
  rw [fromUtf8_asBytes]
  rfl

/-! ### Wallets -/

theorem stripPrefix0x_of_hexBytes {cs : List Char} {bytes : Bytes} (h : hexBytes cs = some bytes) :
    stripPrefix0x cs = cs := by
  fun_cases stripPrefix0x cs with
  | case1 cs =>
    have hx : Numeral.digit? 16 'x' = none := by decide
    rw [hexBytes, hx] at h
    split at h
    · contradiction
    · cases h
  | case2 => rfl

/-- The wallet of a private key that was written in hexadecimal. -/
theorem parseWallet_hexEncode (hC : C.Lawful) (key : SigningKey) :
    parseWallet C (hexEncode (C.toBytes key)) = .ok (walletOf C key) := by
  have hbytes := hexBytes_hexEncode (C.toBytes key)
  rw [parseWallet, stripPrefix0x_of_hexBytes hbytes, hbytes]
  simp only [if_pos (hC.length_toBytes key), hC.fromBytes_toBytes key]
  rfl

theorem KeyManager.getWallet_store (manager : KeyManager SigningKey) (wallet : LocalWallet SigningKey) :
    (manager.store wallet).getWallet wallet.address = .ok wallet :=
  okOr_eq_ok_iff.mpr (Function.update_self ..)

/-! ### Files -/

namespace KeyWorld

variable {world : KeyWorld SigningKey}

@[simp] theorem files_store (manager : ℕ) (wallet : LocalWallet SigningKey) :
    (world.store manager wallet).files = world.files := rfl

@[simp] theorem managers_store (manager : ℕ) (wallet : LocalWallet SigningKey) :
    (world.store manager wallet).managers manager = (world.managers manager).store wallet :=
  Function.update_self ..

@[simp] theorem files_load (manager : ℕ) (r : Result (LocalWallet SigningKey)) :
    (world.load manager r).2.files = world.files := by
  cases r <;> rfl

/-- A key is created when its text is made and the file is written. -/
theorem createEncryptedKey_eq_ok {world₁ : KeyWorld SigningKey} {manager : ℕ}
    {call : CreateKeyCall SigningKey}
    {address : Address} (h : world.createEncryptedKey C manager call = (.ok address, world₁)) :
    ∃ content, keyContent C call = .ok content ∧ address = C.address call.key ∧
      world₁.files call.keyFile = some content := by
  rw [createEncryptedKey] at h
  cases hcontent : keyContent C call with
  | error e =>
    rw [hcontent] at h
    cases h
  | ok content =>
    rw [hcontent] at h
    cases houtcome : call.outcome with
    | failed message left =>
      rw [houtcome] at h
      cases h
    | done =>
      rw [houtcome] at h
      cases h
      exact ⟨content, rfl, rfl, Function.update_self ..⟩

theorem files_createEncryptedKey {keyFile : String} (manager : ℕ) {call : CreateKeyCall SigningKey}
    (h : call.keyFile ≠ keyFile) : (world.createEncryptedKey C manager call).2.files keyFile = world.files keyFile := by
  rw [createEncryptedKey]
  split
  · rfl
  · split
    · exact Function.update_of_ne h.symm ..
    · exact Function.update_of_ne h.symm ..

theorem files_setDefaultWallet (manager : ℕ) (address : Address) :
    (world.setDefaultWallet manager address).2.files = world.files := by
  rw [setDefaultWallet]
  split <;> rfl

/-- The file that was written for a key has the wallet of that key. -/
theorem readWallet_keyContent (hC : C.Lawful) {call : CreateKeyCall SigningKey} {content : String}
    (hcontent : keyContent C call = .ok content) (hfile : world.files call.keyFile = some content) :
    world.readWallet C call.keyFile call.password = .ok (walletOf C call.key) := by
  obtain ⟨encryptedKey, hencrypt, htext⟩ := bind_eq_ok_iff.mp hcontent
  have hread : world.readToString call.keyFile = .ok content := by rw [readToString, hfile]
  have hvalue := hC.fromStr_toStringPretty encryptedKey content (anyhow_eq_ok_iff.mp htext)
  refine bind_eq_ok_iff.mpr ⟨content, anyhow_eq_ok_iff.mpr hread, ?_⟩
  refine bind_eq_ok_iff.mpr ⟨_, anyhow_eq_ok_iff.mpr hvalue, ?_⟩
  refine bind_eq_ok_iff.mpr ⟨_, anyhow_eq_ok_iff.mpr encryptedKey.deserialize_serialize, ?_⟩
  refine bind_eq_ok_iff.mpr ⟨_, decryptKey_encryptKey hC call.length_nonce hencrypt, ?_⟩
  exact anyhow_eq_ok_iff.mpr (parseWallet_hexEncode hC call.key)

end KeyWorld

open KeyWorld

/-- A call that stores nothing under a name leaves what is in that file. -/
theorem KeyOperation.files_apply (world : KeyWorld SigningKey) {op : KeyOperation SigningKey}
    {keyFile : String}
    (h : ¬ op.StoresAt keyFile) : (op.apply C world).files keyFile = world.files keyFile := by
  cases op with
  | create manager call => exact files_createEncryptedKey manager h
  | load manager keyFile' password => exact congrFun (files_load ..) keyFile
  | loadPrivate manager privateKey => exact congrFun (files_load ..) keyFile
  | setDefault manager address => exact congrFun (files_setDefaultWallet ..) keyFile

theorem KeyOperation.files_foldl (world : KeyWorld SigningKey) {ops : List (KeyOperation SigningKey)}
    {keyFile : String} (h : ∀ op ∈ ops, ¬ op.StoresAt keyFile) :
    (ops.foldl (KeyOperation.apply C) world).files keyFile = world.files keyFile := by
  induction ops generalizing world with
  | nil => rfl
  | cons op ops ih =>
    rw [List.forall_mem_cons] at h
    rw [List.foldl_cons, ih _ h.2, files_apply world h.1]

/-- **A stored key is read back**: what is encrypted with a password is decrypted with it. A key that was
created is loaded with its password, by any key manager and after any calls that store nothing under its
name, and the wallet then has the private key and the address that were stored. -/
theorem key_round_trip (hC : C.Lawful) :
    (∀ salt nonce privateKey password file, nonce.length = 12 →
      encryptKey C salt nonce privateKey password = .ok file →
      decryptKey C file password = .ok privateKey) ∧
    ∀ (world world₁ : KeyWorld SigningKey) (manager manager' : ℕ) (call : CreateKeyCall SigningKey)
      (address : Address) (ops : List (KeyOperation SigningKey)),
      world.createEncryptedKey C manager call = (.ok address, world₁) →
      (∀ op ∈ ops, ¬ op.StoresAt call.keyFile) →
      ∃ world₂, (ops.foldl (KeyOperation.apply C) world₁).loadEncryptedKey C manager' call.keyFile call.password =
          (.ok address, world₂) ∧
        ∃ wallet, (world₂.managers manager').getWallet address = .ok wallet ∧
          wallet.signer = call.key ∧ wallet.address = address := by
  refine ⟨fun _ _ _ _ _ hnonce h => decryptKey_encryptKey hC hnonce h, ?_⟩
  intro world world₁ manager manager' call address ops hcreate hops
  obtain ⟨content, hcontent, rfl, hfile⟩ := createEncryptedKey_eq_ok hcreate
  have hkept := (KeyOperation.files_foldl (C := C) world₁ hops).trans hfile
  have hread := readWallet_keyContent hC hcontent hkept
  generalize ops.foldl (KeyOperation.apply C) world₁ = world₂ at hread
  refine ⟨world₂.store manager' (walletOf C call.key), ?_, walletOf C call.key, ?_, rfl, rfl⟩
  · rw [loadEncryptedKey, hread]
    rfl
  · rw [managers_store]
    exact KeyManager.getWallet_store _ (walletOf C call.key)

/-! ### A key file of AES-256-GCM -/

/-- A private key. -/
def testKey : Bytes :=
  (hexBytes "4c0883a69102937d6231471b5dbb6204fe5129617082792ae468d01a3f362318".toList).getD []

/-- The key that PBKDF2 derives for it. -/
def testDerivedKey : Bytes :=
  (hexBytes "415380a8806a7f22819851aaa94ebb525544af8c637788e93421947d51af3615".toList).getD []

/-- The private key encrypted. -/
def testCiphertext : Bytes :=
  (hexBytes ("fb3fda03198d439ab10e950fe73acd479dc121033335b6ac0038274dfaa63d1dc03a14cfa190551d" ++
    "5cc65e09c062f750573208008433a0918dc9c40ba02e08d5c45698f1833c514be06879446119c5ed").toList).getD []

/-- Its address. -/
def testAddress : Address := 0x2c7536e3605d9c16a7a3d7b1898e529396a65c23

/-- The call that stores it. -/
def testCall (keyFile : String) : CreateKeyCall {key : Bytes // key.length = 32} where
  keyFile
  password := "test_password_123"
  key := ⟨testKey, by decide +kernel⟩
  salt := (List.range 32).map UInt8.ofNat
  length_salt := rfl
  nonce := (List.range 12).map UInt8.ofNat
  length_nonce := rfl
  outcome := .done

/-- The key file. -/
def testFile : EncryptedKeyFile where
  encryptedKey := hexEncode ((testCall "").nonce ++ testCiphertext)
  kdfParams := { salt := hexEncode (testCall "").salt, iterations := 100000, keyLength := 32 }
  cipher := "aes-256-gcm"
  version := 1

/-- Its text. -/
def testText : String :=
  "\x7b\n  \"encrypted_key\": \"" ++ testFile.encryptedKey ++ "\",\n  \"kdf_params\": \x7b\n    \"salt\": \"" ++
    testFile.kdfParams.salt ++ "\",\n    \"iterations\": 100000,\n    \"key_length\": 32\n  \x7d,\n" ++
    "  \"cipher\": \"aes-256-gcm\",\n  \"version\": 1\n\x7d"

/-- The crates, as far as this key needs them. -/
def testCrates : KeyCrates {key : Bytes // key.length = 32} where
  pbkdf2 password salt iterations :=
    if password = asBytes "test_password_123" ∧ salt = (testCall "").salt ∧
      iterations = 100000 then testDerivedKey
    else []
  encrypt key nonce plaintext :=
    if key = testDerivedKey ∧ nonce = (testCall "").nonce ∧ plaintext = asBytes (hexEncode testKey) then
      .ok testCiphertext
    else .error "aead::Error"
  decrypt key nonce ciphertext :=
    if key = testDerivedKey ∧ nonce = (testCall "").nonce ∧ ciphertext = testCiphertext then
      .ok (asBytes (hexEncode testKey))
    else .error "aead::Error"
  fromBytes bytes := if h : bytes.length = 32 then .ok ⟨bytes, h⟩ else .error "signature error"
  toBytes key := key.val
  address key := if key.val = testKey then testAddress else 0
  toStringPretty value :=
    if EncryptedKeyFile.deserialize value = .ok testFile then .ok testText else .error "not a test value"
  fromStr text := if text = testText then .ok testFile.serialize else .error "expected value at line 1 column 1"
  hexError _ := "Invalid character"
  utf8Error _ := "invalid utf-8 sequence"

theorem testCrates_lawful : testCrates.Lawful where
  decrypt_encrypt key nonce plaintext ciphertext h := by
    simp only [testCrates] at h ⊢
    split at h
    · rename_i hknown
      obtain ⟨rfl, rfl, rfl⟩ := hknown
      obtain rfl := Except.ok.inj h
      exact if_pos ⟨rfl, rfl, rfl⟩
    · cases h
  length_toBytes key := key.property
  fromBytes_toBytes key := dif_pos key.property
  fromStr_toStringPretty file text h := by
    simp only [testCrates, EncryptedKeyFile.deserialize_serialize] at h ⊢
    split at h
    · rename_i hknown
      obtain rfl := Except.ok.inj hknown
      obtain rfl := Except.ok.inj h
      exact if_pos rfl
    · cases h

theorem keyContent_testCall (keyFile : String) : keyContent testCrates (testCall keyFile) = .ok testText := by
  have hderived : testCrates.pbkdf2 (asBytes "test_password_123") (testCall "").salt 100000 = testDerivedKey := by
    simp only [testCrates, and_self, if_true]
  have hcipher : testCrates.encrypt testDerivedKey (testCall "").nonce (asBytes (hexEncode testKey)) =
      .ok testCiphertext := by
    simp only [testCrates, and_self, if_true]
  have hencrypt : encryptKey testCrates (testCall "").salt (testCall "").nonce (hexEncode testKey)
      "test_password_123" = .ok testFile := by
    rw [encryptKey, hderived, hcipher]
    rfl
  have htext : testCrates.toStringPretty testFile.serialize = .ok testText := by
    simp only [testCrates, EncryptedKeyFile.deserialize_serialize, if_true]
  exact bind_eq_ok_iff.mpr ⟨testFile, hencrypt, anyhow_eq_ok_iff.mpr htext⟩

/-- Key managers without keys, and no files. -/
def testWorld : KeyWorld {key : Bytes // key.length = 32} where
  files _ := none
  managers _ := { wallets := fun _ => none, defaultWallet := none }

/-- One manager stores the key in one file and another in another, and then the other loads the first. -/
theorem stored_key_loaded :
    ∃ world₂,
      ([KeyOperation.create 1 (testCall "other_key.json")].foldl (KeyOperation.apply testCrates)
        (testWorld.createEncryptedKey testCrates 0 (testCall "test_key.json")).2).loadEncryptedKey testCrates 1
          (testCall "test_key.json").keyFile (testCall "test_key.json").password = (.ok testAddress, world₂) ∧
      ∃ wallet, (world₂.managers 1).getWallet testAddress = .ok wallet ∧
        wallet.signer = (testCall "test_key.json").key ∧ wallet.address = testAddress := by
  have haddress : testCrates.address (testCall "test_key.json").key = testAddress := by
    simp only [testCrates, testCall, if_true]
  have hcreate : testWorld.createEncryptedKey testCrates 0 (testCall "test_key.json") =
      (.ok testAddress, (testWorld.createEncryptedKey testCrates 0 (testCall "test_key.json")).2) := by
    rw [createEncryptedKey, keyContent_testCall, ← haddress]
    rfl
  have hname : "other_key.json" ≠ "test_key.json" := by decide
  have hother : ∀ op ∈ [KeyOperation.create 1 (testCall "other_key.json")],
      ¬ op.StoresAt (testCall "test_key.json").keyFile :=
    List.forall_mem_singleton.mpr hname
  exact (key_round_trip testCrates_lawful).2 testWorld _ 0 1 (testCall "test_key.json") testAddress _ hcreate hother

end Botmev.Bundles
