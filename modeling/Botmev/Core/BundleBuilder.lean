import Botmev.Core.ForkSimulator
import Botmev.Library.LastWrite

/-!
# Building bundles for the simulator

`BundleBuilder` (`mev-core/src/simulation.rs`): the transactions are added one by one, the block number
is set, and `build` makes the bundle. `with_state_overrides` builds the bundle, puts the overrides into
it and takes a builder back out of it, which has no place for them.

## What is proved

* `built_afterCalls`: what is in a bundle that is built, after any calls.
* `loses_nothing_iff`: when that is all that was given.
* `callResult_build`: the simulator calls without overrides.
* `overrides_lost`: overrides that are lost.
-/

namespace Botmev.Core

open Botmev.Rust Botmev.Library

/-- "State override for simulation". -/
structure StateOverride where
  /-- `balance`. -/
  balance : Option U256
  /-- `nonce`. -/
  nonce : Option U256
  /-- `code`. -/
  code : Option Bytes
  /-- `state`. -/
  state : Option (Table H256 H256)
  /-- `state_diff`. -/
  stateDiff : Option (Table H256 H256)

/-- A `SimulationBundle`, with what is in its overrides. -/
structure BuiltBundle where
  /-- `id`. -/
  id : String
  /-- `transactions`. -/
  transactions : List SimulationTransaction
  /-- `block_number`. -/
  blockNumber : Option U64
  /-- `timestamp`. -/
  timestamp : Option U64
  /-- `base_fee`. -/
  baseFee : Option U256
  /-- `state_overrides`. -/
  stateOverrides : Option (Table Address StateOverride)

/-- What the simulator reads of it. -/
def BuiltBundle.toSimulationBundle (bundle : BuiltBundle) : SimulationBundle where
  id := bundle.id
  transactions := bundle.transactions
  blockNumber := bundle.blockNumber
  overridesState := bundle.stateOverrides.isSome

/-- "Bundle builder helper". -/
structure BundleBuilder where
  /-- `bundle_id`. -/
  bundleId : String
  /-- `transactions`. -/
  transactions : List SimulationTransaction
  /-- `block_number`. -/
  blockNumber : Option U64

namespace BundleBuilder

/-- `new`. -/
def new (bundleId : String) : BundleBuilder where
  bundleId
  transactions := []
  blockNumber := none

/-- `add_transaction`. -/
def addTransaction (b : BundleBuilder) (tx : SimulationTransaction) : BundleBuilder :=
  { b with transactions := b.transactions ++ [tx] }

/-- `add_parsed_transaction`. -/
def addParsedTransaction (parseAddress : String → Except String Address) (b : BundleBuilder)
    (parsedTx : ParsedTransaction) : BundleBuilder :=
  { b with transactions := b.transactions ++ [SimulationTransaction.ofParsed parseAddress parsedTx] }

/-- `set_block_number`. -/
def setBlockNumber (b : BundleBuilder) (blockNumber : U64) : BundleBuilder :=
  { b with blockNumber := some blockNumber }

/-- `build`, at this time. -/
def build (b : BundleBuilder) (now : U64) : BuiltBundle where
  id := b.bundleId
  transactions := b.transactions
  blockNumber := b.blockNumber
  timestamp := some now
  baseFee := none
  stateOverrides := none

/-- `with_state_overrides`. -/
def withStateOverrides (b : BundleBuilder) (now : U64) (overrides : Table Address StateOverride) :
    BundleBuilder :=
  let bundle := { b.build now with stateOverrides := some overrides }
  -- "Rebuild the builder with the updated bundle"
  { bundleId := bundle.id, transactions := bundle.transactions, blockNumber := bundle.blockNumber }

/-- A call. -/
inductive Call where
  | addTransaction (tx : SimulationTransaction)
  | addParsedTransaction (parsedTx : ParsedTransaction)
  | setBlockNumber (blockNumber : U64)
  | withStateOverrides (now : U64) (overrides : Table Address StateOverride)

variable (parseAddress : String → Except String Address)

/-- After one call. -/
def call (b : BundleBuilder) : Call → BundleBuilder
  | .addTransaction tx => b.addTransaction tx
  | .addParsedTransaction parsedTx => b.addParsedTransaction parseAddress parsedTx
  | .setBlockNumber blockNumber => b.setBlockNumber blockNumber
  | .withStateOverrides now overrides => b.withStateOverrides now overrides

/-- After some calls. -/
def afterCalls (b : BundleBuilder) (calls : List Call) : BundleBuilder := calls.foldl (call parseAddress) b

/-- The transaction that a call adds. -/
def Call.added : Call → Option SimulationTransaction
  | .addTransaction tx => some tx
  | .addParsedTransaction parsedTx => some (SimulationTransaction.ofParsed parseAddress parsedTx)
  | _ => none

/-- The block number that a call gives. -/
def Call.blockNumber : Call → Option (Unit × U64)
  | .setBlockNumber blockNumber => some ((), blockNumber)
  | _ => none

/-- The overrides that a call gives. -/
def Call.overrides : Call → Option (Unit × Table Address StateOverride)
  | .withStateOverrides _ overrides => some ((), overrides)
  | _ => none

/-- **All that was given**: every transaction, in order, and of the block numbers and of the overrides the
last ones. -/
structure LosesNothing (bundleId : String) (calls : List Call) (bundle : BuiltBundle) : Prop where
  id : bundle.id = bundleId
  transactions : bundle.transactions = calls.filterMap (Call.added parseAddress)
  blockNumber : bundle.blockNumber = lastWrite Call.blockNumber calls ()
  stateOverrides : bundle.stateOverrides = lastWrite Call.overrides calls ()

variable {parseAddress}

/-- **What is in a bundle**: all that was given but the overrides. -/
theorem built_afterCalls (bundleId : String) (calls : List Call) :
    (afterCalls parseAddress (.new bundleId) calls).bundleId = bundleId ∧
      (afterCalls parseAddress (.new bundleId) calls).transactions = calls.filterMap (Call.added parseAddress) ∧
      (afterCalls parseAddress (.new bundleId) calls).blockNumber = lastWrite Call.blockNumber calls () := by
  induction calls using List.reverseRecOn with
  | nil => exact ⟨rfl, rfl, rfl⟩
  | append_singleton calls last ih =>
    obtain ⟨hid, htransactions, hblock⟩ := ih
    rw [afterCalls, List.foldl_append, List.foldl_cons, List.foldl_nil, List.filterMap_append, lastWrite_concat,
      ← hblock, ← htransactions]
    cases last with
    | addTransaction tx => exact ⟨hid, rfl, rfl⟩
    | addParsedTransaction parsedTx => exact ⟨hid, rfl, rfl⟩
    | setBlockNumber blockNumber => exact ⟨hid, (List.append_nil _).symm, rfl⟩
    | withStateOverrides now overrides => exact ⟨hid, (List.append_nil _).symm, rfl⟩

/-- **The builder loses nothing** just where it is given no overrides. -/
theorem loses_nothing_iff (parseAddress : String → Except String Address) (bundleId : String) (calls : List Call)
    (now : U64) :
    LosesNothing parseAddress bundleId calls ((afterCalls parseAddress (.new bundleId) calls).build now) ↔
      ∀ given overrides, .withStateOverrides given overrides ∉ calls := by
  obtain ⟨hid, htransactions, hblock⟩ := @built_afterCalls parseAddress bundleId calls
  constructor
  · intro h given overrides hmem
    have hexists : ∃ v, lastWrite Call.overrides calls () = some v := exists_lastWrite hmem rfl
    obtain ⟨last, hlast⟩ := hexists
    have hnone := h.stateOverrides.trans hlast
    cases hnone
  · intro h
    refine ⟨hid, htransactions, hblock, ?_⟩
    refine (lastWrite_eq_none fun call hcall => ?_).symm
    cases call with
    | withStateOverrides given overrides => exact absurd hcall (h given overrides)
    | _ => rfl

/-- **The simulator** calls without overrides for a bundle that is built, whatever it is configured to
do. -/
theorem callResult_build (b : BundleBuilder) (now : U64) (simulator : ForkSimulator) (node : NodeAnswers) (i : ℕ)
    (tx : SimulationTransaction) (blockNumber : U64) :
    simulator.callResult node (b.build now).toSimulationBundle.overridesState i tx blockNumber =
      node.call (2 * i) tx.callRequest blockNumber := by
  have hnone : (b.build now).toSimulationBundle.overridesState = false := rfl
  rw [hnone, ForkSimulator.callResult, Bool.and_false]
  rfl

/-- An account that should have some ether. -/
def richAccount : Table Address StateOverride :=
  AList.singleton 1
    { balance := some 1000000000000000000000, nonce := some 1, code := none, state := none, stateDiff := none }

/-- **Overrides that are lost.** -/
theorem overrides_lost :
    ¬ LosesNothing (fun _ => .error "invalid address") "test_overrides"
      [.withStateOverrides 1700000000 richAccount]
      ((afterCalls (fun _ => .error "invalid address") (.new "test_overrides")
        [.withStateOverrides 1700000000 richAccount]).build 1700000001) := by
  intro h
  cases h.stateOverrides

end BundleBuilder

end Botmev.Core
