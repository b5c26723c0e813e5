import Botmev.Library.Async
import Botmev.Library.Interleaving
import Botmev.Library.Binary64
import Botmev.Library.Numeral
import Botmev.Rust.Basic
import Botmev.Rust.Str
import Botmev.Core.Types
import Botmev.Bundles.Types
import Botmev.Bundles.Signer
import Botmev.Bundles.NonceRace
import Botmev.Bundles.Builder
import Botmev.Bundles.Strategies
import Botmev.Bundles.Building
import Botmev.Bundles.BuildRace
import Botmev.Library.Select
import Botmev.Bundles.Submitter
import Botmev.Bundles.Submission
import Botmev.Bundles.Resubmission
import Botmev.Bundles.GasBump
import Botmev.Bundles.SubmissionRace
import Botmev.Bundles.Target
import Botmev.Mempool.AbiDecoder
import Botmev.Mempool.Parser
import Botmev.Mempool.Filters
import Botmev.Strategies.Types
import Botmev.Strategies.Arbitrage
import Botmev.Strategies.Backrun
import Botmev.Strategies.Sandwich
import Botmev.Pipeline.Numbers
import Botmev.Core.StateManager
import Botmev.Core.BlockHistory
import Botmev.Core.NonceTracking
import Botmev.Core.PendingSet
import Botmev.Bundles.FastResubmitter
import Botmev.Bundles.GasCap
import Botmev.Bundles.ExecutionTracker
import Botmev.Bundles.Inclusion
import Botmev.Bundles.StatusObservation
import Botmev.Bundles.FailureHandler
import Botmev.Bundles.RetryBound
import Botmev.Bundles.RollbackRecord
import Botmev.Bundles.EmergencyStop
import Botmev.Mempool.FilterEngine
import Botmev.Mempool.FilterRuns
import Botmev.Mempool.FilterOrder
import Botmev.Mempool.ParserTotality
import Botmev.Mempool.Calldata
import Botmev.Pipeline.RouterChoice
import Botmev.Hyperliquid.Config
import Botmev.Hyperliquid.Reconnection
import Botmev.Mempool.Polling
import Botmev.Mempool.ExactlyOnce
import Botmev.Mempool.Backpressure
import Botmev.Mempool.Occupancy
import Botmev.Mempool.BufferAccounting
import Botmev.Hyperliquid.Stability
import Botmev.Hyperliquid.Types
import Botmev.Rust.Float
import Botmev.Hyperliquid.Parser
import Botmev.Hyperliquid.MarketData
import Botmev.Hyperliquid.WsService
import Botmev.Hyperliquid.MessageAccounting
import Botmev.Hyperliquid.TradeBatch
import Botmev.Hyperliquid.RpcService
import Botmev.Hyperliquid.BreakerRace
import Botmev.Hyperliquid.BreakerAutomaton
import Botmev.Hyperliquid.Submission
import Botmev.Hyperliquid.AtMostOnce
import Botmev.Hyperliquid.StatePolling
import Botmev.Library.LastWrite
import Botmev.Hyperliquid.OpportunityDetector
import Botmev.Hyperliquid.StateUpdates
import Botmev.Hyperliquid.OpportunityGuards
import Botmev.Strategies.Engine
import Botmev.Strategies.EvaluationModes
import Botmev.Library.Binary64Rounding
import Botmev.Strategies.Plans
import Botmev.Strategies.Evaluation
import Botmev.Strategies.PlanLimits
import Botmev.Core.ForkSimulator
import Botmev.Core.SimulationOptimizer
import Botmev.Core.SimulationTotality
import Botmev.Core.PnlAccounting
import Botmev.Core.EndpointHealth
import Botmev.Library.FirstMinimum
import Botmev.Core.RpcClient
import Botmev.Core.Failover
import Botmev.Core.Metrics
import Botmev.Library.SlidingWindow
import Botmev.Core.HistogramWindow
import Botmev.Core.LatencyMonitor
import Botmev.Library.Binary64Error
import Botmev.Core.TargetCompliance
import Botmev.Core.DecisionConservation
import Botmev.Bundles.SignedPayload
import Botmev.Bundles.SigningFailure
import Botmev.Bundles.BundleLimits
import Botmev.Bundles.GasEstimate
import Botmev.Mempool.DecoderAgreement
import Botmev.Hyperliquid.ConfigConversion
import Botmev.Hyperliquid.ServiceManager
import Botmev.Hyperliquid.Shutdown
import Botmev.Bundles.KeyManager
import Botmev.Bundles.KeyRoundTrip
import Botmev.Core.RpcConcurrency
import Botmev.Library.Permits
import Botmev.Core.ConcurrencyLimit
import Botmev.Bundles.FailedResubmission
import Botmev.Bundles.RecordedHashes
import Botmev.Bundles.DryRun
import Botmev.Bundles.OrderingVerification
import Botmev.Library.FixedPeriods
import Botmev.Mempool.RateLimiting
import Botmev.Mempool.FilterConfig
import Botmev.Mempool.DropOldest
import Botmev.Mempool.RingBuffer
import Botmev.Mempool.RingAccounting
import Botmev.Strategies.ArbitragePlans
import Botmev.Core.AbiDecoder
import Botmev.Hyperliquid.Confirmation
import Botmev.Hyperliquid.DegradedGauge
import Botmev.Hyperliquid.Restart
import Botmev.Strategies.PlanGas
import Botmev.Bundles.VictimGenerator
import Botmev.Hyperliquid.OrderBookPrices
import Botmev.Hyperliquid.Subscriptions
import Botmev.Hyperliquid.SubscriptionDiscipline
import Botmev.Strategies.OpportunityCache
import Botmev.Core.BatchCompleteness
import Botmev.Core.NegativePnl
import Botmev.Core.ResultSlots
import Botmev.Strategies.ConfigManager
import Botmev.Core.BundleBuilder
import Botmev.Core.Percentiles
import Botmev.Core.Persistence
import Botmev.Core.StatsReset
import Botmev.Mempool.TokenConversion
import Botmev.Core.AccountPool
import Botmev.Strategies.StrategyStats
import Botmev.Core.CoreAssignments
import Botmev.Hyperliquid.BreakerClock
import Botmev.Library.FairLocks
import Botmev.Library.LockOrder
import Botmev.Library.Completion
import Botmev.Core.HealthChecker
import Botmev.Core.HealthLocks
import Botmev.Core.HealthStatus
import Botmev.Hyperliquid.TradeAdapter
import Botmev.Pipeline.MarketDataLoop
import Botmev.Core.GrpcService
import Botmev.Core.GrpcAnswers
import Botmev.Core.GrpcOrder
import Botmev.Mempool.Service
import Botmev.Core.TimeTexts
import Botmev.Core.PersistentStore
import Botmev.Core.DecisionPathManager
import Botmev.Core.ManagerAccounts
import Botmev.Core.PoisonedLock
import Botmev.Library.Keyed
import Botmev.Strategies.ConfigStore
