import Botmev.Core.Simulation

/-!
# The simulation optimizer

`SimulationOptimizer` (`mev-core/src/simulation_optimizer.rs`) simulates the bundles of a batch
each in a task of its own, applies its safety checks to the results and keeps count of profits,
costs and outcomes. What the RPC client answers is a parameter here, and so is how old the last
update of the state is. Accounts to reuse are handed to the tasks but not used there; they, the
metrics and the measured times are left out.
-/

namespace Botmev.Core

open Botmev.Rust Botmev.Library

/-- "Configuration for simulation optimization". -/
structure SimulationOptimizerConfig where
  /-- `min_profit_threshold_wei`. -/
  minProfitThresholdWei : U256
  /-- `max_stale_state_ms`. -/
  maxStaleStateMs : U64
  /-- `pnl_tracking_enabled`. -/
  pnlTrackingEnabled : Bool
  /-- `safety_checks_enabled`. -/
  safetyChecksEnabled : Bool

/-- `SimulationOptimizerConfig::default()`. -/
def SimulationOptimizerConfig.default : SimulationOptimizerConfig where
  minProfitThresholdWei := 1000000000000000 -- 0.001 ETH
  maxStaleStateMs := 1000
  pnlTrackingEnabled := true
  safetyChecksEnabled := true

/-- "Batch simulation request". -/
structure BatchSimulationRequest where
  /-- `id`. -/
  id : String
  /-- `bundles`. -/
  bundles : List SimulationBundle

/-- "Safety violation types". -/
inductive SafetyViolation where
  /-- `ProfitBelowThreshold`. -/
  | profitBelowThreshold (bundleId : String) (actualProfitWei thresholdWei : U256)
  /-- `StaleState`. -/
  | staleState (bundleId : String) (stateAgeMs maxAgeMs : U64)
  /-- `ExcessiveGasCost`. -/
  | excessiveGasCost (bundleId : String) (gasCostWei profitWei : U256)
  /-- `NegativePnL`. -/
  | negativePnL (bundleId : String) (netLossWei : U256)
  deriving DecidableEq, Repr

/-- "Batch simulation result". -/
structure BatchSimulationResult where
  /-- `batch_id`. -/
  batchId : String
  /-- `results`. -/
  results : List SimulationResult
  /-- `safety_violations`. -/
  safetyViolations : List SafetyViolation
  deriving DecidableEq

/-- "PnL tracking for safety checks". -/
structure PnLTracker where
  /-- `total_simulated_profit_wei`. -/
  totalSimulatedProfitWei : U256
  /-- `total_gas_costs_wei`. -/
  totalGasCostsWei : U256
  /-- `successful_simulations`. -/
  successfulSimulations : U64
  /-- `failed_simulations`. -/
  failedSimulations : U64
  /-- `safety_violations`. -/
  safetyViolations : U64
  deriving DecidableEq, Repr

/-- `PnLTracker::default()`. -/
def PnLTracker.default : PnLTracker := ⟨0, 0, 0, 0, 0⟩

/-- What the RPC client answers in one simulation: to the `n`th call, too. -/
structure RpcAnswers where
  /-- `rpc_client.get_block_number()`. -/
  blockNumber : Except String U64
  /-- `rpc_client.eth_call_optimized(call_request, block)`. -/
  ethCall : ℕ → CallRequest → U64 → Except String Bytes

namespace SimulationOptimizer

/-- What the loop over the transactions keeps. -/
structure Totals where
  /-- `total_gas_used`. -/
  totalGasUsed : U256
  /-- `total_gas_cost`. -/
  totalGasCost : U256
  /-- `success`. -/
  success : Bool
  deriving DecidableEq, Repr

/-- The loop over the transactions, from the `i`th one on: it ends at the first call that
fails. -/
def callTransactions (rpc : RpcAnswers) (blockNumber : U64) :
    ℕ → U256 → U256 → List SimulationTransaction → Result Totals
  | _, totalGasUsed, totalGasCost, [] => pure ⟨totalGasUsed, totalGasCost, true⟩
  | i, totalGasUsed, totalGasCost, tx :: txs =>
    match rpc.ethCall i tx.callRequest blockNumber with
    | .ok _ => do
      -- "Simplified"
      let totalGasUsed ← U256.add totalGasUsed tx.gasLimit
      let cost ← U256.mul tx.gasPrice tx.gasLimit
      let totalGasCost ← U256.add totalGasCost cost
      callTransactions rpc blockNumber (i + 1) totalGasUsed totalGasCost txs
    | .error _ => pure ⟨totalGasUsed, totalGasCost, false⟩

/-- "Simulate single bundle with optimizations". -/
def simulateBundleOptimized (rpc : RpcAnswers) (bundle : SimulationBundle) : Result SimulationResult := do
  let blockNumber ← anyhow rpc.blockNumber
  let totals ← callTransactions rpc blockNumber 0 0 0 bundle.transactions
  -- "0.001 ETH simplified profit"
  let grossProfitWei : U256 := if totals.success then 1000000000000000 else 0
  let netProfitWei ← netProfit grossProfitWei totals.totalGasCost
  let profitMargin ← profitMargin netProfitWei grossProfitWei
  pure
    { bundleId := bundle.id
      success := totals.success
      gasUsed := totals.totalGasUsed
      gasCost := totals.totalGasCost
      profitEstimate :=
        { grossProfitWei, gasCostWei := totals.totalGasCost, netProfitWei, profitMargin
          confidence := if totals.success then Binary64.ofDecimal 8 1 else Binary64.ofNat 0 }
      transactionResults := []
      errorMessage := none
      blockNumber := 0
      effectiveGasPrice := 0
      revertReason := none }

/-- "Apply safety checks to simulation results": the violations of one. -/
def applySafetyChecks (config : SimulationOptimizerConfig) (result : SimulationResult) : List SafetyViolation :=
  let estimate := result.profitEstimate
  (if estimate.netProfitWei < config.minProfitThresholdWei then
      [.profitBelowThreshold result.bundleId estimate.netProfitWei config.minProfitThresholdWei] else []) ++
    (if estimate.grossProfitWei < estimate.gasCostWei then
      [.excessiveGasCost result.bundleId estimate.gasCostWei estimate.grossProfitWei] else []) ++
    (if estimate.netProfitWei = 0 ∧ 0 < estimate.gasCostWei then
      [.negativePnL result.bundleId estimate.gasCostWei] else [])

/-- The update of the tracker with one result. -/
def trackResult (tracker : PnLTracker) (result : SimulationResult) : Result PnLTracker := do
  let totalSimulatedProfitWei ← U256.add tracker.totalSimulatedProfitWei result.profitEstimate.grossProfitWei
  let totalGasCostsWei ← U256.add tracker.totalGasCostsWei result.profitEstimate.gasCostWei
  let tracker := { tracker with totalSimulatedProfitWei, totalGasCostsWei }
  if result.success then
    let successfulSimulations ← Uint.add tracker.successfulSimulations 1
    pure { tracker with successfulSimulations }
  else
    let failedSimulations ← Uint.add tracker.failedSimulations 1
    pure { tracker with failedSimulations }

/-- "Update PnL tracking with simulation results". -/
def updatePnlTracking (results : List SimulationResult) (tracker : PnLTracker) : Result PnLTracker :=
  results.foldlM trackResult tracker

/-- "Check for stale state": a violation for every bundle. -/
def staleViolations (config : SimulationOptimizerConfig) (stateAge : U64) (bundles : List SimulationBundle) :
    List SafetyViolation :=
  if config.safetyChecksEnabled && decide (config.maxStaleStateMs < stateAge) then
    bundles.map fun bundle => .staleState bundle.id stateAge config.maxStaleStateMs
  else []

/-- What the tasks give, in the order of the bundles: one that fails or panics gives nothing but
a line in the log. -/
def collectResults (rpc : ℕ → RpcAnswers) (bundles : List SimulationBundle) : List SimulationResult :=
  (bundles.zipIdx.map fun p => simulateBundleOptimized (rpc p.2) p.1).filterMap Except.toOption

/-- "Process a single batch of simulations", with the answers to each of its tasks. -/
def processSingleBatch (config : SimulationOptimizerConfig) (stateAge : U64) (rpc : ℕ → RpcAnswers)
    (request : BatchSimulationRequest) (tracker : PnLTracker) : Result (BatchSimulationResult × PnLTracker) := do
  let results := collectResults rpc request.bundles
  let checked := if config.safetyChecksEnabled then results.flatMap (applySafetyChecks config) else []
  let tracker ← if config.pnlTrackingEnabled then updatePnlTracking results tracker else pure tracker
  pure
    ({ batchId := request.id, results
       safetyViolations := staleViolations config stateAge request.bundles ++ checked }, tracker)

end SimulationOptimizer

end Botmev.Core
