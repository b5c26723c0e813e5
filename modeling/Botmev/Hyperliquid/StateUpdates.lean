import Botmev.Hyperliquid.OpportunityDetector
import Botmev.Library.LastWrite

/-!
# State updates that are kept

A price or the state of a contract is written into the state that the detector keeps; a snapshot
takes the place of that state as a whole. But a snapshot of a poll has nothing in its maps, so
every one of them erases what was written before.

## What is proved

* `lookup_afterUpdates`: as long as no snapshot comes after an update, the detector has of each
  key what was received last.
* `updates_kept_iff`: and only so are the updates kept.
* `price_erased`: a price that a snapshot erases.
-/

namespace Botmev.Hyperliquid

open Botmev.Rust Botmev.Library

/-- The price that is received. -/
def StateUpdateEvent.priceWrite : StateUpdateEvent → Option (Address × U256)
  | .tokenPrice token price => some (token, price)
  | _ => none

/-- The state of a contract that is received. -/
def StateUpdateEvent.contractWrite : StateUpdateEvent → Option (Address × Bytes)
  | .contractState address data => some (address, data)
  | _ => none

/-- The detector after some updates. -/
def OpportunityDetector.afterUpdates (detector : OpportunityDetector) (events : List StateUpdateEvent) :
    OpportunityDetector :=
  events.foldl OpportunityDetector.processStateUpdate detector

/-- **The updates are visible**: of each key, the state has the one that was received last. -/
structure UpdatesVisible (events : List StateUpdateEvent) (state : BlockchainState) : Prop where
  /-- The prices. -/
  price : ∀ token price, lastWrite StateUpdateEvent.priceWrite events token = some price →
    state.tokenPrices.lookup token = some price
  /-- The contracts. -/
  contract : ∀ address data, lastWrite StateUpdateEvent.contractWrite events address = some data →
    state.contractStates.lookup address = some data

/-- They are so after each of the events. -/
def UpdatesKept (config : OpportunityDetectorConfig) (events : List StateUpdateEvent) : Prop :=
  ∀ before, before <+: events →
    UpdatesVisible before ((OpportunityDetector.withConfig config).afterUpdates before).currentState

/-- No snapshot comes after an update. -/
def SnapshotsFirst (events : List StateUpdateEvent) : Prop :=
  ∀ before state after, events = before ++ .stateSnapshot state :: after →
    ∀ e ∈ before, e.priceWrite = none ∧ e.contractWrite = none

variable {config : OpportunityDetectorConfig} {events : List StateUpdateEvent}

theorem afterUpdates_concat (detector : OpportunityDetector) (events : List StateUpdateEvent)
    (e : StateUpdateEvent) :
    detector.afterUpdates (events ++ [e]) = (detector.afterUpdates events).processStateUpdate e := by
  simp only [OpportunityDetector.afterUpdates, List.foldl_append, List.foldl_cons, List.foldl_nil]

theorem SnapshotsFirst.of_prefix {before : List StateUpdateEvent} (h : SnapshotsFirst events)
    (hb : before <+: events) :
    SnapshotsFirst before := by
  obtain ⟨rest, rfl⟩ := hb
  rintro before state after rfl
  exact h before state (after ++ rest) (by simp)

variable (config) in
/-- **What the detector has of each key**, as long as no snapshot comes after an update. -/
theorem lookup_afterUpdates (hpolled : ∀ e ∈ events, FromPoll e) (h : SnapshotsFirst events) :
    (∀ token, ((OpportunityDetector.withConfig config).afterUpdates events).currentState.tokenPrices.lookup token =
        lastWrite StateUpdateEvent.priceWrite events token) ∧
      ∀ address, ((OpportunityDetector.withConfig config).afterUpdates events).currentState.contractStates.lookup
          address =
        lastWrite StateUpdateEvent.contractWrite events address := by
  induction events using List.reverseRecOn with
  | nil => exact ⟨fun _ => rfl, fun _ => rfl⟩
  | append_singleton events e ih =>
    obtain ⟨hprice, hcontract⟩ := ih (fun e he => hpolled e (List.mem_append_left _ he))
      (h.of_prefix (List.prefix_append _ _))
    simp only [afterUpdates_concat, lastWrite_concat, ← hprice, ← hcontract]
    cases e with
    | tokenPrice token price => exact ⟨fun _ => lookup_insert .., fun _ => rfl⟩
    | contractState address data => exact ⟨fun _ => rfl, fun _ => lookup_insert ..⟩
    | stateSnapshot state =>
      -- There was no update before it, and there is none in it.
      obtain ⟨blockNumber, timestamp, rfl⟩ := snapshot_of_poll (hpolled (.stateSnapshot state) (by simp))
      have hnone := h events _ [] rfl
      constructor
      · intro token
        rw [hprice, lastWrite_eq_none fun e he => (hnone e he).1]
        rfl
      · intro address
        rw [hcontract, lastWrite_eq_none fun e he => (hnone e he).2]
        rfl
    | blockNumber | balance | transactionConfirmed | transactionFailed => exact ⟨fun _ => rfl, fun _ => rfl⟩

/-- **The updates are kept** if and only if no snapshot comes after one. -/
theorem updates_kept_iff (hpolled : ∀ e ∈ events, FromPoll e) : UpdatesKept config events ↔
    SnapshotsFirst events := by
  constructor
  · rintro hkept before state after rfl e he
    obtain ⟨blockNumber, timestamp, rfl⟩ := snapshot_of_poll (hpolled (.stateSnapshot state) (by simp))
    -- After the snapshot nothing is visible.
    have hvisible := hkept (before ++ [.stateSnapshot (.new blockNumber timestamp)]) (by simp)
    rw [afterUpdates_concat] at hvisible
    constructor
    · rcases hwrite : e.priceWrite with _ | ⟨token, price⟩
      · rfl
      · obtain ⟨price', hprice⟩ := exists_lastWrite he hwrite
        have hlookup := hvisible.price token price' (by rw [lastWrite_concat]; exact hprice)
        cases hlookup
    · rcases hwrite : e.contractWrite with _ | ⟨address, data⟩
      · rfl
      · obtain ⟨data', hdata⟩ := exists_lastWrite he hwrite
        have hlookup := hvisible.contract address data' (by rw [lastWrite_concat]; exact hdata)
        cases hlookup
  · intro hfirst before hbefore
    obtain ⟨hprice, hcontract⟩ := lookup_afterUpdates config
      (fun e he => hpolled e (hbefore.subset he)) (hfirst.of_prefix hbefore)
    exact ⟨fun token price h => (hprice token).trans h, fun address data h => (hcontract address).trans h⟩

/-- A price after a snapshot. -/
theorem price_kept :
    UpdatesKept .default [.stateSnapshot (.new 1 0), .tokenPrice 0xcafe 100] := by
  refine (updates_kept_iff ?_).mpr ?_
  · simp only [List.mem_cons, List.not_mem_nil, or_false, forall_eq_or_imp, forall_eq]
    exact ⟨fromPoll_firstBlock, by rintro _ ⟨⟩⟩
  · intro before state after h e he
    rcases before with _ | ⟨first, _ | ⟨second, rest⟩⟩
    · cases he
    · simp at h
    · simp at h

/-- **A price is erased** by the snapshot of the next poll. -/
theorem price_erased :
    (∀ e ∈ [.tokenPrice 0xcafe 100, .stateSnapshot (.new 1 0)], FromPoll e) ∧
      ¬ UpdatesKept .default [.tokenPrice 0xcafe 100, .stateSnapshot (.new 1 0)] := by
  constructor
  · simp only [List.mem_cons, List.not_mem_nil, or_false, forall_eq_or_imp, forall_eq]
    exact ⟨by rintro _ ⟨⟩, fromPoll_firstBlock⟩
  · intro hkept
    have hlookup := (hkept _ List.prefix_rfl).price 0xcafe 100 (by decide)
    cases hlookup

end Botmev.Hyperliquid
