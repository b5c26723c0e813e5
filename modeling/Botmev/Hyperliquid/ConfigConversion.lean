import Botmev.Hyperliquid.Config

/-!
# From the bot's configuration to the feed's

The bot's configuration file has a section for the feed, `mev_config::HyperLiquidConfig`
(`mev-config/src/lib.rs`), with its own checks. `main` converts it field by field to the feed's own
configuration (`mev-bot/src/main.rs`), which is checked again when the services are created.

## What is proved

* `validateToken_eq_ok_iff`, `validatePair_eq_ok_iff`, `validateReconnection_eq_ok_iff`: what the
  feed's checks accept.
* `validators_agree_iff`: of a configuration that is loaded, the feed's checks accept the conversion
  just when it has what the loading does not look at.
* `loaded_and_refused`: a configuration that loads with a warning, and does not start.
-/

namespace Botmev.Hyperliquid

open Botmev.Rust Botmev.Library

/-- `mev_config::HyperLiquidConfig`. -/
structure MevConfig where
  /-- Whether the feed is used. -/
  enabled : Bool
  /-- The URL of the feed. -/
  wsUrl : String
  /-- The pairs to subscribe to. -/
  tradingPairs : List String
  /-- Whether to subscribe to order books, too. -/
  subscribeOrderbook : Bool
  /-- The URL for blockchain operations. -/
  rpcUrl : String
  /-- How often to poll. -/
  pollingIntervalMs : U64
  /-- "Private key for transaction signing". -/
  privateKey : String
  /-- The least wait before a reconnection. -/
  reconnectMinBackoffSecs : U64
  /-- The longest. -/
  reconnectMaxBackoffSecs : U64
  /-- How many failures there may be in a row. -/
  maxConsecutiveFailures : BitVec 32
  /-- "Token mapping for cross-exchange arbitrage". -/
  tokenMapping : List (String × String)

/-- `mev_config::HyperLiquidConfig::validate`, without the warning of a low polling interval. -/
def MevConfig.validate (config : MevConfig) : Result Unit :=
  if !config.enabled then pure ()
  else do
    bailIf config.wsUrl.isEmpty "HyperLiquid ws_url cannot be empty when enabled"
    bailIf (!startsWith config.wsUrl "ws://" && !startsWith config.wsUrl "wss://")
      ("HyperLiquid ws_url must start with ws:// or wss://, got: " ++ config.wsUrl)
    bailIf config.rpcUrl.isEmpty "HyperLiquid rpc_url cannot be empty when enabled"
    bailIf (!startsWith config.rpcUrl "http://" && !startsWith config.rpcUrl "https://")
      ("HyperLiquid rpc_url must start with http:// or https://, got: " ++ config.rpcUrl)
    bailIf (config.pollingIntervalMs == 0) "HyperLiquid polling_interval_ms must be greater than 0"
    bailIf config.tradingPairs.isEmpty "HyperLiquid trading_pairs cannot be empty when enabled"

/-- The conversion in `main`, with the environment's `PRIVATE_KEY`. -/
def MevConfig.typed (config : MevConfig) (envPrivateKey : Option String) :
    HyperLiquidConfig where
  enabled := config.enabled
  wsUrl := config.wsUrl
  rpcUrl := some config.rpcUrl
  pollingIntervalMs := some config.pollingIntervalMs
  privateKey := some (if config.privateKey.isEmpty then envPrivateKey.getD "" else config.privateKey)
  tradingPairs := config.tradingPairs
  subscribeOrderbook := config.subscribeOrderbook
  reconnectMinBackoffSecs := config.reconnectMinBackoffSecs
  reconnectMaxBackoffSecs := config.reconnectMaxBackoffSecs
  maxConsecutiveFailures := config.maxConsecutiveFailures
  tokenMapping := config.tokenMapping

/-! ### What the feed's checks accept -/

/-- An address: `0x` and forty hexadecimal digits. -/
def IsAddress (address : String) : Prop :=
  ∃ digits, address.toList = '0' :: 'x' :: digits ∧ digits.length = 40 ∧
    ∀ c ∈ digits, HyperLiquidConfig.isAsciiHexdigit c = true

namespace HyperLiquidConfig

theorem check_eq_ok_iff {α : Type} {check : Result Unit} {rest : Unit → Result α} {a : α} :
    check >>= rest = .ok a ↔ check = .ok () ∧ rest () = .ok a :=
  bind_eq_ok_iff.trans ⟨fun ⟨_, hcheck, hrest⟩ => ⟨hcheck, hrest⟩, fun ⟨hcheck, hrest⟩ => ⟨(), hcheck, hrest⟩⟩

theorem forM_eq_ok_iff {α : Type} {xs : List α} {f : α → Result Unit} :
    xs.forM f = .ok () ↔ ∀ x ∈ xs, f x = .ok () := by
  induction xs with
  | nil => exact iff_of_true rfl fun _ h => nomatch h
  | cons x xs ih =>
    rw [List.forall_mem_cons, ← ih]
    exact check_eq_ok_iff

theorem utf8Size_of_isAsciiHexdigit {c : Char} (h : isAsciiHexdigit c = true) : c.utf8Size = 1 := by
  rw [Char.utf8Size_eq_one_iff]
  simp only [isAsciiHexdigit, Char.isDigit, Bool.or_eq_true, Bool.and_eq_true, decide_eq_true_eq] at h
  rcases h with (⟨-, hle⟩ | ⟨-, hle⟩) | ⟨-, hle⟩
  · exact UInt32.le_trans hle (by decide)
  · exact UInt32.le_trans hle (by decide)
  · exact UInt32.le_trans hle (by decide)

theorem validatePair_eq_ok_iff {pair : String} :
    validatePair pair = .ok () ↔ pair ≠ "" ∧ pair.utf8ByteSize ≤ 10 := by
  simp only [validatePair, check_eq_ok_iff, bailIf_eq_ok_iff, decide_eq_false_iff_not, Nat.not_lt,
    String.isEmpty_eq_false_iff]

theorem isAddress_iff {address : String} :
    IsAddress address ↔ startsWith address "0x" = true ∧ address.utf8ByteSize = 42 ∧
      ∃ digits, sliceFrom address 2 = .ok digits ∧ digits.toList.all isAsciiHexdigit = true := by
  constructor
  · rintro ⟨digits, haddress, hlen, hall⟩
    have hascii : ∀ c ∈ address.toList, c.utf8Size = 1 := by
      rw [haddress]
      refine List.forall_mem_cons.mpr ⟨rfl, List.forall_mem_cons.mpr ⟨rfl, ?_⟩⟩
      exact fun c hc => utf8Size_of_isAsciiHexdigit (hall c hc)
    refine ⟨?_, ?_, String.ofList digits, ?_, ?_⟩
    · rw [startsWith, haddress]
      rfl
    · rw [utf8ByteSize_eq, byteLength_of_one hascii, haddress, List.length_cons, List.length_cons, hlen]
    · rw [sliceFrom_of_ascii hascii (by rw [haddress]; simp), haddress]
      rfl
    · rw [String.toList_ofList, List.all_eq_true]
      exact hall
  · rintro ⟨hstart, hsize, digits, hslice, hall⟩
    rw [List.all_eq_true] at hall
    obtain ⟨rest, hrest⟩ := List.isPrefixOf_iff_prefix.mp hstart
    have hrest : address.toList = '0' :: 'x' :: rest := hrest.symm
    have hdigits : sliceFrom address 2 = .ok (String.ofList rest) :=
      sliceFrom_eq_ok_iff.mpr ⟨['0', 'x'], by rw [hrest, String.toList_ofList]; rfl, rfl⟩
    obtain rfl := Except.ok.inj (hslice.symm.trans hdigits)
    rw [String.toList_ofList] at hall
    refine ⟨rest, hrest, ?_, hall⟩
    rw [utf8ByteSize_eq, hrest, byteLength_cons, byteLength_cons,
      byteLength_of_one fun c hc => utf8Size_of_isAsciiHexdigit (hall c hc)] at hsize
    have hzero : '0'.utf8Size = 1 := rfl
    have hx : 'x'.utf8Size = 1 := rfl
    omega

theorem validateToken_eq_ok_iff {entry : String × String} :
    validateToken entry = .ok () ↔ entry.1 ≠ "" ∧ IsAddress entry.2 := by
  obtain ⟨coin, address⟩ := entry
  simp only [validateToken, bind_eq_ok_iff, bailIf_eq_ok_iff, exists_const, Bool.or_eq_false_iff,
    Bool.not_eq_false', bne_eq_false_iff_eq, String.isEmpty_eq_false_iff, isAddress_iff]
  refine and_congr_right fun _ => ?_
  constructor
  · rintro ⟨-, ⟨hstart, hsize⟩, hdigits⟩
    exact ⟨hstart, hsize, hdigits⟩
  · rintro ⟨hstart, hsize, hdigits⟩
    refine ⟨?_, ⟨hstart, hsize⟩, hdigits⟩
    rintro rfl
    cases hstart

theorem validateReconnection_eq_ok_iff {config : HyperLiquidConfig} :
    config.validateReconnection = .ok () ↔ 0 < config.reconnectMinBackoffSecs.toNat ∧
      config.reconnectMinBackoffSecs.toNat ≤ config.reconnectMaxBackoffSecs.toNat ∧
      0 < config.maxConsecutiveFailures.toNat := by
  simp only [validateReconnection, bind_eq_ok_iff, bailIf_eq_ok_iff, beq_eq_false_iff_ne,
    decide_eq_false_iff_not,
    BitVec.lt_def, ne_eq, ← BitVec.toNat_inj, exists_const]
  show ¬ config.reconnectMinBackoffSecs.toNat = 0 ∧ _ ∧ ¬ config.maxConsecutiveFailures.toNat = 0 ↔ _
  omega

/-- **What the feed's checks accept.** -/
theorem validate_eq_ok_iff {config : HyperLiquidConfig} :
    config.validate = .ok () ↔ validateWsUrl config.wsUrl = .ok () ∧ validateRpcUrl config.rpcUrl = .ok () ∧
      validatePollingInterval config.pollingIntervalMs = .ok () ∧
      (config.enabled && config.tradingPairs.isEmpty) = false ∧
      (∀ pair ∈ config.tradingPairs, validatePair pair = .ok ()) ∧ config.validateReconnection = .ok () ∧
      ∀ entry ∈ config.tokenMapping, validateToken entry = .ok () := by
  simp only [validate, check_eq_ok_iff, bailIf_eq_ok_iff, forM_eq_ok_iff]

end HyperLiquidConfig

/-! ### The two together -/

/-- What the feed's checks look at, and the loading does not. -/
structure MevConfig.Typeable (config : MevConfig) : Prop where
  /-- The polling is not too fast. -/
  polling : 100 ≤ config.pollingIntervalMs.toNat
  /-- Every pair has a name, of at most ten bytes. -/
  pairs : ∀ pair ∈ config.tradingPairs, pair ≠ "" ∧ pair.utf8ByteSize ≤ 10
  /-- There is a wait before a reconnection. -/
  minBackoff : 0 < config.reconnectMinBackoffSecs.toNat
  /-- It is not longer than the longest. -/
  maxBackoff : config.reconnectMinBackoffSecs.toNat ≤ config.reconnectMaxBackoffSecs.toNat
  /-- There may be a failure. -/
  failures : 0 < config.maxConsecutiveFailures.toNat
  /-- Every token has a name, and an address. -/
  tokens : ∀ entry ∈ config.tokenMapping, entry.1 ≠ "" ∧ IsAddress entry.2

variable {config : MevConfig}

/-- **The validators agree** on a configuration that is enabled and loaded just when it has what the
loading does not look at. -/
theorem validators_agree_iff (henabled : config.enabled = true) (hloaded : config.validate = .ok ())
    (envPrivateKey : Option String) :
    (config.typed envPrivateKey).validate = .ok () ↔ config.Typeable := by
  simp only [MevConfig.validate, henabled, Bool.not_true, Bool.false_eq_true, if_false,
    HyperLiquidConfig.check_eq_ok_iff, bailIf_eq_ok_iff] at hloaded
  obtain ⟨hws, hwsStart, hrpc, hrpcStart, hpolling, hpairs⟩ := hloaded
  have hwsUrl : HyperLiquidConfig.validateWsUrl config.wsUrl = .ok () := by
    simp only [HyperLiquidConfig.validateWsUrl, HyperLiquidConfig.check_eq_ok_iff, bailIf_eq_ok_iff]
    exact ⟨hws, hwsStart⟩
  have hrpcUrl : HyperLiquidConfig.validateRpcUrl (some config.rpcUrl) = .ok () := by
    simp only [HyperLiquidConfig.validateRpcUrl, HyperLiquidConfig.check_eq_ok_iff, bailIf_eq_ok_iff]
    exact ⟨hrpc, hrpcStart⟩
  have hsome : (config.enabled && config.tradingPairs.isEmpty) = false := by
    rw [hpairs, Bool.and_false]
  have hinterval : HyperLiquidConfig.validatePollingInterval (some config.pollingIntervalMs) = .ok () ↔
      100 ≤ config.pollingIntervalMs.toNat := by
    simp only [HyperLiquidConfig.validatePollingInterval, HyperLiquidConfig.check_eq_ok_iff, bailIf_eq_ok_iff,
      hpolling, true_and, decide_eq_false_iff_not, BitVec.not_lt, BitVec.le_def]
    exact Iff.rfl
  simp only [HyperLiquidConfig.validate_eq_ok_iff, MevConfig.typed, hwsUrl, hrpcUrl, hinterval,
    hsome, true_and,
    HyperLiquidConfig.validatePair_eq_ok_iff, HyperLiquidConfig.validateReconnection_eq_ok_iff,
    HyperLiquidConfig.validateToken_eq_ok_iff]
  constructor
  · rintro ⟨hpolling, hpairs, ⟨hmin, hmax, hfailures⟩, htokens⟩
    exact ⟨hpolling, hpairs, hmin, hmax, hfailures, htokens⟩
  · rintro ⟨hpolling, hpairs, hmin, hmax, hfailures, htokens⟩
    exact ⟨hpolling, hpairs, ⟨hmin, hmax, hfailures⟩, htokens⟩

/-- A configuration, with its polling interval. -/
def sampleMevConfig (pollingIntervalMs : U64) : MevConfig where
  enabled := true
  wsUrl := "wss://api.hyperliquid.xyz/ws"
  tradingPairs := ["BTC", "ETH"]
  subscribeOrderbook := false
  rpcUrl := "https://rpc.hyperliquid.xyz/evm"
  pollingIntervalMs := pollingIntervalMs
  privateKey := ""
  reconnectMinBackoffSecs := 1
  reconnectMaxBackoffSecs := 60
  maxConsecutiveFailures := 10
  tokenMapping := [("BTC", "0x2260FAC5E5542a773Aa44fBCfeDf7C193bc2C599")]

/-- To poll every second is accepted by both. -/
theorem every_second_accepted : ((sampleMevConfig 1000).typed none).validate = .ok () := by
  refine (validators_agree_iff rfl (by decide) none).mpr ⟨by decide, by decide, by decide, by decide,
    by decide, ?_⟩
  exact List.forall_mem_singleton.mpr ⟨by decide, ⟨_, rfl, rfl, List.all_eq_true.mp (by decide)⟩⟩

/-- **Loaded and refused**: to poll every fifty milliseconds loads with a warning, and the services are
not created. -/
theorem loaded_and_refused :
    (sampleMevConfig 50).validate = .ok () ∧
      ((sampleMevConfig 50).typed none).validate =
        .error (.err "Polling interval too low (50ms). Minimum recommended: 100ms") := by
  decide

end Botmev.Hyperliquid
