import Botmev.Hyperliquid.StatePolling
import Botmev.Hyperliquid.Types
import Mathlib.Data.Rat.Floor

/-!
# The opportunity detector

`OpportunityDetector` (`mev-hyperliquid/src/opportunity_detector.rs`) takes market data from one
channel and state updates from another, one event after the other, keeps what they say, and
compares each price with that of the last trade. Where the spread is wide enough it emits an
opportunity, after it has asked the node once more if the configuration wants it.

Prices are rational numbers here, in place of doubles, with exact arithmetic; the conversion to
an integer is that of the source. Times are milliseconds since the epoch. What it asks for are
readings of the clock, the poll of the RPC service, and to send an opportunity. The log is left
out, and a send that fails is as one that does not.
-/

namespace Botmev.Hyperliquid

open Botmev.Rust Botmev.Library

/-- "Market data events from WebSocket". -/
inductive MarketDataEvent where
  /-- "Trade data received". -/
  | trade (trade : TradeData ℚ)
  /-- "Order book update received". -/
  | orderBook (orderbook : OrderBookData ℚ)

namespace MarketDataEvent

/-- "Get the coin symbol from the event". -/
def coin : MarketDataEvent → String
  | .trade data => data.coin
  | .orderBook data => data.coin

/-- "Get the timestamp from the event". -/
def timestamp : MarketDataEvent → U64
  | .trade data => data.timestamp
  | .orderBook data => data.timestamp

/-- "Get HyperLiquid price from market data": of a trade its price, of an order book "mid price". -/
def hlPrice : MarketDataEvent → Option ℚ
  | .trade data => some data.price
  | .orderBook data =>
    match data.bestBid, data.bestAsk with
    | some bid, some ask => some ((bid + ask) / 2)
    | _, _ => none

end MarketDataEvent

/-- "Type of MEV opportunity". -/
inductive OpportunityType where
  /-- "Arbitrage opportunity between venues". -/
  | arbitrage (buyVenue sellVenue : String) (token : Address) (spreadBps : U64)
  /-- "Liquidation opportunity". -/
  | liquidation (position collateralToken debtToken : Address) (profit : U256)
  /-- "Front-running opportunity". -/
  | frontRun (targetTx : H256) (token : Address) (priceImpactBps : U64)

/-- "Detected MEV opportunity". -/
structure Opportunity where
  /-- "Type of opportunity". -/
  opportunityType : OpportunityType
  /-- "Expected profit in wei". -/
  expectedProfit : U256
  /-- "Market data that triggered the opportunity". -/
  marketData : MarketDataEvent
  /-- "Blockchain state at detection time". -/
  blockchainState : BlockchainState
  /-- "Whether the opportunity has been verified via RPC". -/
  verified : Bool
  /-- "Timestamp when opportunity was detected (milliseconds)". -/
  detectedAt : U64
  /-- "Optional expiration timestamp (milliseconds)". -/
  expiresAt : Option U64

/-- "Opportunity detector configuration". -/
structure OpportunityDetectorConfig where
  /-- "Minimum spread in basis points for arbitrage opportunities". -/
  minArbitrageSpreadBps : U64
  /-- "Maximum age of market data in milliseconds". -/
  maxMarketDataAgeMs : U64
  /-- "Whether to verify opportunities via RPC before emitting". -/
  verifyViaRpc : Bool

/-- `OpportunityDetectorConfig::default()`. -/
def OpportunityDetectorConfig.default : OpportunityDetectorConfig where
  minArbitrageSpreadBps := 30
  maxMarketDataAgeMs := 5000
  verifyViaRpc := true

/-- What the detector asks for. -/
inductive DetectorOp where
  /-- `SystemTime::now()`, in milliseconds since the epoch. -/
  | now
  /-- `rpc_service.poll_blockchain_state()`. -/
  | poll
  /-- `opportunity_tx.send(opportunity)`. -/
  | send (opportunity : Opportunity)

/-- What it answers; there is no reading of a clock that is before the epoch. -/
@[reducible] def DetectorI : Interface where
  Op := DetectorOp
  Reply
    | .now => Except String U64
    | .poll => Result BlockchainState
    | .send _ => Unit

/-- What the detector does with an event. -/
abbrev DetectorM (α : Type) := Async DetectorI Failure α

/-- `x as u64`: what comes before the point, as far as there is room. -/
def castU64 (x : ℚ) : U64 := BitVec.ofNat 64 (min ⌊x⌋.toNat (2 ^ 64 - 1))

/-- A reading of the clock, unwrapped. -/
def systemTime : DetectorM U64 := do
  match ← Async.request (I := DetectorI) .now with
  | .ok now => pure now
  | .error message => Async.done (.error (.panic message))

namespace Opportunity

/-- `Opportunity::new(..)`. -/
def new (opportunityType : OpportunityType) (expectedProfit : U256) (marketData : MarketDataEvent)
    (blockchainState : BlockchainState) : DetectorM Opportunity := do
  let detectedAt ← systemTime
  pure {
    opportunityType, expectedProfit, marketData, blockchainState
    verified := false
    detectedAt
    expiresAt := none }

/-- "Check if the opportunity has expired". -/
def isExpired (opportunity : Opportunity) : DetectorM Bool :=
  match opportunity.expiresAt with
  | some expiresAt => do
    let now ← systemTime
    pure (expiresAt ≤ now)
  | none => pure false

end Opportunity

/-- "Opportunity detector for combining market data and blockchain state". -/
structure OpportunityDetector where
  /-- "Configuration". -/
  config : OpportunityDetectorConfig
  /-- "Current blockchain state (cached)". -/
  currentState : BlockchainState
  /-- "Latest market prices by coin symbol". -/
  marketPrices : Table String ℚ
  /-- "Latest order books by coin symbol". -/
  orderBooks : Table String (OrderBookData ℚ)

namespace OpportunityDetector

/-- `OpportunityDetector::with_config(..)`. -/
def withConfig (config : OpportunityDetectorConfig) : OpportunityDetector where
  config := config
  currentState := .new 0 0
  marketPrices := ∅
  orderBooks := ∅

variable (detector : OpportunityDetector)

/-- `process_state_update`. -/
def processStateUpdate : StateUpdateEvent → OpportunityDetector
  | .blockNumber blockNumber =>
    { detector with currentState := { detector.currentState with blockNumber } }
  | .tokenPrice token price =>
    { detector with currentState :=
      { detector.currentState with tokenPrices := detector.currentState.tokenPrices.insert token price } }
  | .contractState address data =>
    { detector with currentState :=
      { detector.currentState with contractStates := detector.currentState.contractStates.insert address data } }
  -- "Could be used for liquidation detection in the future".
  | .balance _ _ => detector
  | .stateSnapshot state => { detector with currentState := state }
  | .transactionConfirmed .. | .transactionFailed .. => detector

/-- `verify_opportunity_via_rpc`. -/
def verifyOpportunityViaRpc (opportunity : Opportunity) : DetectorM Bool := do
  if ← opportunity.isExpired then pure false
  else
    match opportunity.opportunityType with
    | .arbitrage _ _ token _ => do
      let polled ← Async.request (I := DetectorI) .poll
      let currentState ← recontext "Failed to poll blockchain state for verification" polled
      let blockDiff := Uint.saturatingSub currentState.blockNumber opportunity.blockchainState.blockNumber
      if 5 < blockDiff then pure false
      else if currentState.tokenPrices.lookup token = some 0 then pure false
      else pure true
    | .liquidation .. | .frontRun .. => pure false

/-- "Verify via RPC if configured", and emit it. -/
def emit (opportunity : Opportunity) : DetectorM Unit :=
  if detector.config.verifyViaRpc then do
    match ← (verifyOpportunityViaRpc opportunity).attempt with
    | .ok true => Async.request (I := DetectorI) (.send { opportunity with verified := true })
    | .ok false | .error (.err _) => pure ()
    | .error (.panic message) => Async.done (.error (.panic message))
  else Async.request (I := DetectorI) (.send opportunity)

/-- "Create opportunity". -/
def emitArbitrage (marketData : MarketDataEvent) (now : U64) (hlPrice prevPrice : ℚ) (spreadBps : U64) :
    DetectorM Unit := do
  let venues := if hlPrice < prevPrice then ("HyperLiquid", "External") else ("External", "HyperLiquid")
  let profitEstimate := U256.ofUint (castU64 (spreadBps.toNat * 1000))
  let opportunity ← Opportunity.new (.arbitrage venues.1 venues.2 0 spreadBps) profitEstimate marketData
    detector.currentState
  -- "Set expiration (opportunities expire quickly)".
  let expiresAt ← Uint.add now 10000
  detector.emit { opportunity with expiresAt := some expiresAt }

/-- `check_arbitrage_opportunity`. -/
def checkArbitrageOpportunity (marketData : MarketDataEvent) : DetectorM Unit := do
  let now ← systemTime
  let dataAge := Uint.saturatingSub now marketData.timestamp
  if detector.config.maxMarketDataAgeMs < dataAge then pure ()
  else
    match marketData.hlPrice, detector.marketPrices.lookup marketData.coin with
    | some hlPrice, some prevPrice =>
      if prevPrice = 0 ∨ hlPrice = 0 then pure ()
      else
        let spreadBps := castU64 (|hlPrice - prevPrice| / prevPrice * 10000)
        if detector.config.minArbitrageSpreadBps ≤ spreadBps then
          detector.emitArbitrage marketData now hlPrice prevPrice spreadBps
        else pure ()
    | _, _ => pure ()

/-- `process_trade`: "Check for arbitrage opportunities BEFORE updating the price". -/
def processTrade (trade : TradeData ℚ) : DetectorM OpportunityDetector := do
  detector.checkArbitrageOpportunity (.trade trade)
  pure { detector with marketPrices := detector.marketPrices.insert trade.coin trade.price }

/-- "Update cached order book". -/
def cacheOrderbook (orderbook : OrderBookData ℚ) : OpportunityDetector :=
  { detector with orderBooks := detector.orderBooks.insert orderbook.coin orderbook }

/-- `process_orderbook`. -/
def processOrderbook (orderbook : OrderBookData ℚ) : DetectorM OpportunityDetector := do
  let detector := detector.cacheOrderbook orderbook
  detector.checkArbitrageOpportunity (.orderBook orderbook)
  pure detector

/-- `process_market_data`. -/
def processMarketData : MarketDataEvent → DetectorM OpportunityDetector
  | .trade trade => detector.processTrade trade
  | .orderBook orderbook => detector.processOrderbook orderbook

/-- What `process_market_data` has changed when the check fails. -/
def beforeCheck : MarketDataEvent → OpportunityDetector
  | .trade _ => detector
  | .orderBook orderbook => detector.cacheOrderbook orderbook

end OpportunityDetector

/-! ### The event loop -/

/-- An event of one of the two channels. -/
inductive DetectorEvent where
  /-- "Process market data events". -/
  | marketData (data : MarketDataEvent)
  /-- "Process state update events". -/
  | stateUpdate (update : StateUpdateEvent)

variable {σ : Type} (h : Handler DetectorI σ)

/-- One round of `start`. "Continue processing despite errors"; a panic ends it. -/
def OpportunityDetector.round (run : OpportunityDetector × σ) : DetectorEvent →
    Option (OpportunityDetector × σ)
  | .stateUpdate update => some (run.1.processStateUpdate update, run.2)
  | .marketData data =>
    match (run.1.processMarketData data).run h run.2 with
    | (.ok detector, s) => some (detector, s)
    | (.error (.err _), s) => some (run.1.beforeCheck data, s)
    | (.error (.panic _), _) => none

/-- The rounds of `start`, for events in the order in which they are received. -/
def OpportunityDetector.rounds (events : List DetectorEvent) (run : OpportunityDetector × σ) :
    Option (OpportunityDetector × σ) :=
  events.foldlM (OpportunityDetector.round h) run

end Botmev.Hyperliquid
