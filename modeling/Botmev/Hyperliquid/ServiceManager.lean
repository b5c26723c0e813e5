import Botmev.Hyperliquid.ConfigConversion
import Botmev.Hyperliquid.RpcService
import Botmev.Hyperliquid.WsService

/-!
# Creating the services

`HyperLiquidServiceManager::new` (`mev-hyperliquid/src/service_manager.rs`) checks the configuration
and creates the two services from it. The checks let the RPC URL be absent; for the RPC service it is
then the empty string, and a URL that `ethers` does not take ends the process.

The channels are what can still be taken of them. The metrics, the log and the task that converts the
messages of the feed are left out.

## What is proved

* `wsService_of_validate`: the WebSocket service is created from every valid configuration.
* `rpcService_panics_iff`: the RPC service is created where a provider is.
* `constructs_iff`: a valid configuration makes a service manager just when it has an RPC URL that
  `ethers` takes.
* `default_panics`: the default one does not.
-/

namespace Botmev.Hyperliquid

open Botmev.Rust Botmev.Library

/-! ### The WebSocket service -/

/-- `TradingPair::trades_only(coin)`. -/
def TradingPair.tradesOnly (coin : String) : TradingPair := ⟨coin, true, false⟩

/-- `TradingPair::with_orderbook(coin)`. -/
def TradingPair.withOrderbook (coin : String) : TradingPair := ⟨coin, true, true⟩

/-- `SubscriptionState::new(pair)`. -/
def SubscriptionState.new (pair : TradingPair) : SubscriptionState where
  pair := pair
  tradesAttempts := 0
  orderbookAttempts := 0
  tradesConfirmed := false
  orderbookConfirmed := false
  lastAttempt := none

/-- `HyperLiquidWsService`, with what it connects to. -/
structure WsService extends HyperLiquidWsService where
  /-- "WebSocket URL". -/
  wsUrl : String
  /-- The pairs to subscribe to. -/
  subscriptions : List TradingPair
  /-- How to reconnect. -/
  reconnectConfig : ReconnectConfig
  /-- The failures so far. -/
  reconnectionState : ReconnectionState
  /-- "Shutdown signal". -/
  shutdown : Bool

/-- `HyperLiquidWsService::new`. -/
def WsService.new (config : HyperLiquidConfig) (messageTx : UnboundedSender) (now : Instant) :
    Result WsService := do
  config.validate
  let subscriptions := config.tradingPairs.map fun coin =>
    if config.subscribeOrderbook then TradingPair.withOrderbook coin else TradingPair.tradesOnly coin
  pure
    { messageTx
      subscriptionStates := subscriptions.foldl (fun states pair => states.insert pair.coin (.new pair)) ∅
      messageQueue := .new 1000
      totalMessagesReceived := 0
      totalMessagesProcessed := 0
      totalParseErrors := 0
      wsUrl := config.wsUrl
      subscriptions
      reconnectConfig := config.reconnectConfig
      reconnectionState := .new now
      shutdown := false }

/-! ### The RPC service -/

/-- "Configuration for RPC service". -/
structure RpcConfig where
  /-- "RPC endpoint URL". -/
  rpcUrl : String
  /-- "Polling interval in milliseconds". -/
  pollingIntervalMs : U64
  /-- "Request timeout in seconds". -/
  timeoutSecs : U64
  /-- "Private key for transaction signing (optional)". -/
  privateKey : Option String

/-- `RpcConfig::new`. -/
def RpcConfig.new (rpcUrl : String) (pollingIntervalMs : U64) : RpcConfig where
  rpcUrl := rpcUrl
  pollingIntervalMs := pollingIntervalMs
  timeoutSecs := 10
  privateKey := none

/-- `with_timeout`. -/
def RpcConfig.withTimeout (config : RpcConfig) (timeoutSecs : U64) : RpcConfig := { config with timeoutSecs }

/-- `with_private_key`. -/
def RpcConfig.withPrivateKey (config : RpcConfig) (privateKey : String) : RpcConfig :=
  { config with privateKey := some privateKey }

/-- What creating the RPC service uses of the crate `ethers`. -/
structure EthersParsers (Wallet Provider : Type) where
  /-- `Provider::<Http>::try_from(url)`. -/
  provider : String → Except String Provider
  /-- `pk.parse::<LocalWallet>()`. -/
  wallet : String → Except String Wallet

variable {Wallet Provider : Type}

/-- `HyperLiquidRpcService`, with what it connects to. -/
structure RpcService (Wallet Provider : Type) extends HyperLiquidRpcService Wallet where
  /-- "Ethers provider for RPC calls". -/
  provider : Provider
  /-- "RPC configuration". -/
  config : RpcConfig
  /-- "Connection status". -/
  connected : Bool
  /-- "Circuit breaker for error handling". -/
  circuitBreaker : CircuitBreaker

/-- `result.expect(message)`. -/
def expect {α : Type} (message : String) : Except String α → Result α
  | .ok a => .ok a
  | .error e => .error (.panic (message ++ ": " ++ e))

/-- `HyperLiquidRpcService::new`. A private key that is not one is only reported. -/
def RpcService.new (E : EthersParsers Wallet Provider) (config : RpcConfig) (stateTx : Bool) :
    Result (RpcService Wallet Provider) := do
  let provider ← expect "Failed to create provider from RPC URL" (E.provider config.rpcUrl)
  let wallet := config.privateKey.bind fun pk => (E.wallet pk).toOption
  pure
    { timeoutSecs := config.timeoutSecs
      wallet
      stateTx
      provider
      config
      connected := false
      circuitBreaker := .new }

/-! ### The service manager -/

/-- `HyperLiquidServiceManager`, before its services are started. -/
structure HyperLiquidServiceManager (Wallet Provider : Type) where
  /-- "WebSocket service for market data streaming". -/
  wsService : WsService
  /-- "RPC service for blockchain operations". -/
  rpcService : RpcService Wallet Provider
  /-- "Configuration". -/
  config : HyperLiquidConfig
  /-- "Shutdown signal". -/
  shutdown : Bool
  /-- Whether the receiver of market data can be taken. -/
  marketDataRx : Bool
  /-- Whether the receiver of state updates can be taken. -/
  stateUpdateRx : Bool

/-- `HyperLiquidServiceManager::new`. -/
def HyperLiquidServiceManager.new (E : EthersParsers Wallet Provider) (config : HyperLiquidConfig)
    (now : Instant) :
    Result (HyperLiquidServiceManager Wallet Provider) := do
  recontext "Invalid HyperLiquid configuration" config.validate
  let wsService ← recontext "Failed to create WebSocket service" (WsService.new config ⟨[], false⟩ now)
  let rpcConfig := ((RpcConfig.new (config.rpcUrl.getD "") (config.pollingIntervalMs.getD 1000)).withTimeout 10)
    |>.withPrivateKey (config.privateKey.getD "")
  let rpcService ← RpcService.new E rpcConfig true
  pure { wsService, rpcService, config, shutdown := false, marketDataRx := true, stateUpdateRx := true }

/-! ### Valid configurations -/

variable {E : EthersParsers Wallet Provider} {config : HyperLiquidConfig}

theorem wsService_of_validate (hvalid : config.validate = .ok ()) (messageTx : UnboundedSender)
    (now : Instant) :
    ∃ wsService, WsService.new config messageTx now = .ok wsService := by
  rw [WsService.new, hvalid]
  exact ⟨_, rfl⟩

theorem rpcService_panics_iff {rpcConfig : RpcConfig} {stateTx : Bool} :
    panics (RpcService.new E rpcConfig stateTx) = false ↔
      ∃ provider, E.provider rpcConfig.rpcUrl = .ok provider := by
  rw [RpcService.new]
  cases hprovider : E.provider rpcConfig.rpcUrl with
  | error e => exact iff_of_false (fun h => nomatch h) fun ⟨_, h⟩ => nomatch h
  | ok provider => exact iff_of_true rfl ⟨provider, rfl⟩

theorem panics_new (hvalid : config.validate = .ok ()) (now : Instant) :
    panics (HyperLiquidServiceManager.new E config now) = false ↔
      ∃ provider, E.provider (config.rpcUrl.getD "") = .ok provider := by
  obtain ⟨wsService, hws⟩ := wsService_of_validate hvalid ⟨[], false⟩ now
  rw [HyperLiquidServiceManager.new, hvalid, hws]
  show panics (RpcService.new E _ true >>= fun rpcService => pure _) = false ↔ _
  rw [bind_pure_comp, panics_map]
  exact rpcService_panics_iff

/-- **Where a service manager is created** from a valid configuration: just where it has an RPC URL
that a provider is made of. -/
theorem constructs_iff (hempty : ∀ provider, E.provider "" ≠ .ok provider) (hvalid : config.validate = .ok ())
    (now : Instant) :
    panics (HyperLiquidServiceManager.new E config now) = false ↔
      ∃ url provider, config.rpcUrl = some url ∧ E.provider url = .ok provider := by
  rw [panics_new hvalid]
  cases config.rpcUrl with
  | none => exact iff_of_false (fun ⟨provider, h⟩ => hempty provider h) fun ⟨_, _, h, _⟩ => nomatch h
  | some url =>
    constructor
    · rintro ⟨provider, hprovider⟩
      exact ⟨url, provider, rfl, hprovider⟩
    · rintro ⟨_, provider, ⟨⟩, hprovider⟩
      exact ⟨provider, hprovider⟩

/-! ### Two configurations -/

/-- A crate that takes the one URL, and no private key. -/
def EthersParsers.sample : EthersParsers Unit String where
  provider url := if url = "https://rpc.hyperliquid.xyz/evm" then .ok url else .error "relative URL without a base"
  wallet _ := .error "invalid private key"

/-- With an RPC URL, the services are created. -/
theorem with_rpc_url_constructs :
    panics (HyperLiquidServiceManager.new EthersParsers.sample
      { HyperLiquidConfig.default with rpcUrl := some "https://rpc.hyperliquid.xyz/evm" } 0) = false := by
  have hempty : ∀ provider, EthersParsers.sample.provider "" ≠ .ok provider := by
    intro provider h
    cases h
  exact (constructs_iff hempty (by decide) 0).mpr ⟨_, _, rfl, rfl⟩

/-- **The default configuration** is valid, and ends the process. -/
theorem default_panics :
    HyperLiquidConfig.default.validate = .ok () ∧
      panics (HyperLiquidServiceManager.new EthersParsers.sample HyperLiquidConfig.default 0) = true := by
  refine ⟨HyperLiquidConfig.validate_default, ?_⟩
  rfl

end Botmev.Hyperliquid
