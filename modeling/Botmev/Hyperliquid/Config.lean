import Botmev.Rust.Str

/-!
# The configuration of the HyperLiquid feed

`HyperLiquidConfig` (`mev-hyperliquid/src/config.rs`). The token mapping is a list of its
entries in the order the map gives them.
-/

namespace Botmev.Hyperliquid

open Botmev.Rust Botmev.Library

/-- "Configuration for HyperLiquid WebSocket integration". -/
structure HyperLiquidConfig where
  /-- "Enable or disable HyperLiquid integration". -/
  enabled : Bool
  /-- "WebSocket URL for HyperLiquid API". -/
  wsUrl : String
  /-- "RPC URL for blockchain operations (optional)". -/
  rpcUrl : Option String
  /-- "Polling interval in milliseconds". -/
  pollingIntervalMs : Option U64
  /-- "Private key for transaction signing (optional)". -/
  privateKey : Option String
  /-- "List of trading pairs to monitor". -/
  tradingPairs : List String
  /-- "Subscribe to order book updates in addition to trades". -/
  subscribeOrderbook : Bool
  /-- "Minimum backoff time in seconds for reconnection attempts". -/
  reconnectMinBackoffSecs : U64
  /-- "Maximum backoff time in seconds for reconnection attempts". -/
  reconnectMaxBackoffSecs : U64
  /-- "Maximum number of consecutive connection failures before entering degraded state". -/
  maxConsecutiveFailures : BitVec 32
  /-- "Mapping of HyperLiquid coin symbols to EVM token addresses". -/
  tokenMapping : List (String × String)

namespace HyperLiquidConfig

/-- `HyperLiquidConfig::default()`. -/
def default : HyperLiquidConfig where
  enabled := false
  wsUrl := "wss://api.hyperliquid.xyz/ws"
  rpcUrl := none
  pollingIntervalMs := some 1000
  privateKey := none
  tradingPairs := ["BTC", "ETH"]
  subscribeOrderbook := false
  reconnectMinBackoffSecs := 1
  reconnectMaxBackoffSecs := 60
  maxConsecutiveFailures := 10
  tokenMapping := []

/-- "Validate WebSocket URL". -/
def validateWsUrl (wsUrl : String) : Result Unit := do
  bailIf wsUrl.isEmpty "WebSocket URL cannot be empty"
  bailIf (!startsWith wsUrl "ws://" && !startsWith wsUrl "wss://")
    ("WebSocket URL must start with ws:// or wss://, got: " ++ wsUrl)

/-- "Validate RPC URL if provided". -/
def validateRpcUrl : Option String → Result Unit
  | none => pure ()
  | some rpcUrl => do
    bailIf rpcUrl.isEmpty "RPC URL cannot be empty if provided"
    bailIf (!startsWith rpcUrl "http://" && !startsWith rpcUrl "https://")
      ("RPC URL must start with http:// or https://, got: " ++ rpcUrl)

/-- "Validate polling interval if provided". -/
def validatePollingInterval : Option U64 → Result Unit
  | none => pure ()
  | some interval => do
    bailIf (interval == 0) "Polling interval must be greater than 0"
    bailIf (interval < 100)
      ("Polling interval too low (" ++ toString interval.toNat ++ "ms). Minimum recommended: 100ms")

/-- The checks on one trading pair. -/
def validatePair (pair : String) : Result Unit := do
  bailIf pair.isEmpty "Trading pair symbol cannot be empty"
  bailIf (10 < pair.utf8ByteSize) ("Trading pair symbol '" ++ pair ++ "' is too long (max 10 characters)")

/-- `char::is_ascii_hexdigit`. -/
def isAsciiHexdigit (c : Char) : Bool := c.isDigit || ('a' ≤ c && c ≤ 'f') || ('A' ≤ c && c ≤ 'F')

/-- The checks on one entry of the token mapping. -/
def validateToken (entry : String × String) : Result Unit := do
  let (coin, address) := entry
  bailIf coin.isEmpty "Token mapping coin symbol cannot be empty"
  bailIf address.isEmpty ("Token mapping address for '" ++ coin ++ "' cannot be empty")
  bailIf (!startsWith address "0x" || address.utf8ByteSize != 42)
    ("Invalid Ethereum address for '" ++ coin ++ "': " ++ address ++
      ". Expected format: 0x followed by 40 hex characters")
  let digits ← sliceFrom address 2
  bailIf (!digits.toList.all isAsciiHexdigit)
    ("Invalid Ethereum address for '" ++ coin ++ "': " ++ address ++ ". Contains non-hex characters")

variable (config : HyperLiquidConfig)

/-- "Validate reconnection settings". -/
def validateReconnection : Result Unit := do
  bailIf (config.reconnectMinBackoffSecs == 0) "Minimum backoff must be at least 1 second"
  bailIf (config.reconnectMaxBackoffSecs < config.reconnectMinBackoffSecs)
    ("Maximum backoff (" ++ toString config.reconnectMaxBackoffSecs.toNat ++
      ") must be greater than or equal to minimum backoff (" ++
      toString config.reconnectMinBackoffSecs.toNat ++ ")")
  bailIf (config.maxConsecutiveFailures == 0) "Maximum consecutive failures must be at least 1"

/-- `validate`. -/
def validate : Result Unit := do
  validateWsUrl config.wsUrl
  validateRpcUrl config.rpcUrl
  validatePollingInterval config.pollingIntervalMs
  bailIf (config.enabled && config.tradingPairs.isEmpty)
    "At least one trading pair must be configured when HyperLiquid is enabled"
  config.tradingPairs.forM validatePair
  config.validateReconnection
  config.tokenMapping.forM validateToken

theorem validate_default : default.validate = .ok () := by decide

variable {config}

/-- What a valid configuration has of the reconnection settings. -/
theorem backoff_of_validate (h : config.validate = .ok ()) :
    0 < config.reconnectMinBackoffSecs.toNat ∧
      config.reconnectMinBackoffSecs.toNat ≤ config.reconnectMaxBackoffSecs.toNat ∧
      0 < config.maxConsecutiveFailures.toNat := by
  simp only [validate, bind_eq_ok_iff] at h
  obtain ⟨_, -, _, -, _, -, _, -, _, -, _, hreconnection, -⟩ := h
  simp only [validateReconnection, bind_eq_ok_iff, bailIf_eq_ok_iff, beq_eq_false_iff_ne,
    decide_eq_false_iff_not,
    BitVec.lt_def, ne_eq, ← BitVec.toNat_inj] at hreconnection
  obtain ⟨_, hmin, _, hmax, hfailures⟩ := hreconnection
  have hmin' : config.reconnectMinBackoffSecs.toNat ≠ 0 := hmin
  have hfailures' : config.maxConsecutiveFailures.toNat ≠ 0 := hfailures
  omega

end HyperLiquidConfig

end Botmev.Hyperliquid
