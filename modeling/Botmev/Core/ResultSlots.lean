import Botmev.Core.BatchCompleteness
import Botmev.Library.Table

/-!
# Result slots

The calls of `simulate_batch` beside the background task (`mev-core/src/simulation_optimizer.rs`). A call
takes a number, registers a result channel in `result_receivers`, sends its request and waits. Whoever
processes a request sends the result to the channel that is registered for it. A call that gets its
result removes the channel. One that gives up, because the requests are no longer received or because it
has waited for too long, leaves it there.

What happens is a list of events, in any order; one that is not possible is no change.

## What is proved

* `Registered.step`: which channels are registered.
* `returned_genuine`: a call returns what was made of its own request, or gives up.
* `slots_released_iff`: no returned call has a channel registered, just when none gives up.
* `timeout_leaks`: a call that gives up.
-/

namespace Botmev.Core.SimulationOptimizer

open Botmev.Rust Botmev.Library

/-- How far a call of `simulate_batch` is. -/
inductive BatchPhase where
  /-- It has its number. -/
  | numbered
  /-- Its result channel is registered. -/
  | registered
  /-- Its request is sent. -/
  | waiting
  /-- It has its result. -/
  | received (result : BatchSimulationResult)
  /-- It has returned. -/
  | returned (result : Result BatchSimulationResult)

/-- Whether the call should have a channel registered: it is not removed unless there is a result. -/
def BatchPhase.holdsSlot : BatchPhase → Bool
  | .numbered | .returned (.ok _) => false
  | _ => true

/-- It has returned an error. -/
def BatchPhase.failed : BatchPhase → Bool
  | .returned (.error _) => true
  | _ => false

def BatchPhase.isRegistered : BatchPhase → Bool
  | .registered => true
  | _ => false

def BatchPhase.isWaiting : BatchPhase → Bool
  | .waiting => true
  | _ => false

theorem BatchPhase.isRegistered_iff {phase : BatchPhase} : phase.isRegistered = true ↔ phase = .registered := by
  cases phase <;> simp [isRegistered]

theorem BatchPhase.isWaiting_iff {phase : BatchPhase} : phase.isWaiting = true ↔ phase = .waiting := by
  cases phase <;> simp [isWaiting]

/-- A call of `simulate_batch`. -/
structure BatchCall where
  /-- What `fetch_add` returned. -/
  number : U64
  bundles : List SimulationBundle
  /-- What is in its result channel. -/
  channel : List BatchSimulationResult
  phase : BatchPhase

/-- `batch_id`. -/
def BatchCall.id (call : BatchCall) : String := batchId call.number

/-- `request`. -/
def BatchCall.request (call : BatchCall) : BatchSimulationRequest := { id := call.id, bundles := call.bundles }

/-- `sender.send(batch_result)`: nobody receives it once the call has returned. -/
def BatchCall.send (result : BatchSimulationResult) (call : BatchCall) : BatchCall :=
  match call.phase with
  | .returned _ => call
  | _ => { call with channel := call.channel ++ [result] }

/-- The optimizer and the calls. -/
structure BatchWorld where
  /-- In the order of their numbers. -/
  calls : List BatchCall
  simulationCounter : U64
  /-- The background task receives requests. -/
  queueOpen : Bool
  /-- The requests that nobody has processed. -/
  requests : List BatchSimulationRequest
  /-- The results that are not sent back yet. -/
  processed : List BatchSimulationResult
  /-- Whose channel is registered. -/
  resultReceivers : Table String ℕ

/-- `SimulationOptimizer::new`. -/
def BatchWorld.new : BatchWorld where
  calls := []
  simulationCounter := 0
  queueOpen := true
  requests := []
  processed := []
  resultReceivers := ∅

/-- The call is this far. -/
def BatchWorld.setPhase (w : BatchWorld) (i : ℕ) (phase : BatchPhase) : BatchWorld :=
  { w with calls := w.calls.modify i ({ · with phase }) }

/-- What a call does. -/
inductive CallStep where
  /-- `receivers.insert(batch_id.clone(), result_sender)`. -/
  | register
  /-- `batch_sender.send(request)?`. -/
  | send
  /-- `result_receiver.recv()` returns a result. -/
  | receive
  /-- `receivers.remove(&batch_id)`. -/
  | cleanUp
  /-- There is no result in time. -/
  | timeout
  /-- `result_receiver.recv()` returns `None`: nobody has a sender of the channel. -/
  | channelClosed

/-- A step of a call in a phase. -/
def BatchWorld.callStep (w : BatchWorld) (i : ℕ) (call : BatchCall) : CallStep → BatchPhase → BatchWorld
  | .register, .numbered =>
    { w.setPhase i .registered with resultReceivers := w.resultReceivers.insert call.id i }
  | .send, .registered =>
    if w.queueOpen then { w.setPhase i .waiting with requests := w.requests ++ [call.request] }
    else w.setPhase i (.returned (.error (.err "channel closed")))
  | .receive, .waiting =>
    match call.channel with
    | result :: _ => w.setPhase i (.received result)
    | [] => w
  | .cleanUp, .received result =>
    { w.setPhase i (.returned (.ok result)) with resultReceivers := w.resultReceivers.erase call.id }
  | .timeout, .waiting =>
    if call.channel.isEmpty then w.setPhase i (.returned (.error (.err "Batch simulation timeout"))) else w
  | .channelClosed, .waiting =>
    if call.channel.isEmpty ∧ w.resultReceivers.lookup call.id ≠ some i then
      w.setPhase i (.returned (.error (.err "Batch processing channel closed")))
    else w
  | _, _ => w

/-- What happens. -/
inductive BatchEvent where
  /-- `simulate_batch` is called. -/
  | simulateBatch (bundles : List SimulationBundle)
  /-- Call `i` goes on. -/
  | call (i : ℕ) (step : CallStep)
  /-- `process_single_batch`, for one of the requests. -/
  | process (n : ℕ) (stateAge : U64) (rpc : ℕ → RpcAnswers) (tracker : PnLTracker)
  /-- A result is sent back. -/
  | deliver (n : ℕ)
  /-- The background task ends. -/
  | closeQueue

/-- `fetch_add`. -/
def BatchWorld.simulateBatch (w : BatchWorld) (bundles : List SimulationBundle) : BatchWorld :=
  { w with
    calls := w.calls ++ [{ number := w.simulationCounter, bundles, channel := [], phase := .numbered }]
    simulationCounter := w.simulationCounter + 1 }

/-- `process_single_batch`, for request `n`. -/
def BatchWorld.process (config : SimulationOptimizerConfig) (w : BatchWorld) (n : ℕ) (stateAge : U64)
    (rpc : ℕ → RpcAnswers) (tracker : PnLTracker) : BatchWorld :=
  match w.requests[n]? with
  | some request =>
    match processSingleBatch config stateAge rpc request tracker with
    | .ok (result, _) => { w with requests := w.requests.eraseIdx n, processed := w.processed ++ [result] }
    | .error _ => { w with requests := w.requests.eraseIdx n }
  | none => w

/-- Result `n` is sent to the channel that is registered for it. -/
def BatchWorld.deliver (w : BatchWorld) (n : ℕ) : BatchWorld :=
  match w.processed[n]? with
  | some result =>
    match w.resultReceivers.lookup result.batchId with
    | some i => { w with processed := w.processed.eraseIdx n, calls := w.calls.modify i (BatchCall.send result) }
    | none => { w with processed := w.processed.eraseIdx n }
  | none => w

/-- One event. -/
def BatchWorld.step (config : SimulationOptimizerConfig) (w : BatchWorld) : BatchEvent → BatchWorld
  | .simulateBatch bundles => w.simulateBatch bundles
  | .call i step =>
    match w.calls[i]? with
    | some call => w.callStep i call step call.phase
    | none => w
  | .process n stateAge rpc tracker => w.process config n stateAge rpc tracker
  | .deliver n => w.deliver n
  | .closeQueue => { w with queueOpen := false }

/-- One event after another. -/
def BatchWorld.run (config : SimulationOptimizerConfig) (w : BatchWorld) (events : List BatchEvent) : BatchWorld :=
  events.foldl (step config) w

/-- **No leaked result slots**: no call that has returned has a channel registered. -/
def BatchWorld.SlotsReleased (w : BatchWorld) : Prop :=
  ∀ call ∈ w.calls, ∀ result, call.phase = .returned result → w.resultReceivers.lookup call.id = none

/-- A call gives up: its request cannot be sent, or it has waited for long enough. -/
def BatchWorld.givesUp (w : BatchWorld) : BatchEvent → Bool
  | .call i .send => w.calls[i]?.any fun call => call.phase.isRegistered && !w.queueOpen
  | .call i .timeout => w.calls[i]?.any fun call => call.phase.isWaiting && call.channel.isEmpty
  | _ => false

/-- None of the calls gives up. -/
def BatchWorld.NoneGivesUp (config : SimulationOptimizerConfig) : BatchWorld → List BatchEvent → Prop
  | _, [] => True
  | w, event :: events => w.givesUp event = false ∧ NoneGivesUp config (w.step config event) events

instance BatchWorld.decidableNoneGivesUp (config : SimulationOptimizerConfig) :
    ∀ (w : BatchWorld) (events : List BatchEvent), Decidable (w.NoneGivesUp config events)
  | _, [] => inferInstanceAs (Decidable True)
  | w, event :: events =>
    haveI := decidableNoneGivesUp config (w.step config event) events
    inferInstanceAs (Decidable (w.givesUp event = false ∧ NoneGivesUp config (w.step config event) events))

namespace BatchWorld

variable {config : SimulationOptimizerConfig} {w w' : BatchWorld} {i j : ℕ} {call : BatchCall}

/-! ### Which channels are registered -/

theorem batchId_injective : Function.Injective batchId := by
  intro number number' h
  have htext := congrArg String.toList h
  simp only [batchId, String.toList_append, List.append_cancel_left_eq] at htext
  have hdigits : Nat.toDigits 10 number.toNat = Nat.toDigits 10 number'.toNat := by simpa using htext
  have hvalue := congrArg (Nat.ofDigitChars 10 · 0) hdigits
  simp only [Nat.ofDigitChars_ten_toDigits] at hvalue
  exact BitVec.eq_of_toNat_eq hvalue

/-- The channels that are registered are those of the calls that have not removed them. -/
structure Registered (w : BatchWorld) : Prop where
  counter : w.simulationCounter = BitVec.ofNat 64 w.calls.length
  number : ∀ i call, w.calls[i]? = some call → call.number = BitVec.ofNat 64 i
  slot : ∀ i call, w.calls[i]? = some call →
    w.resultReceivers.lookup call.id = if call.phase.holdsSlot then some i else none
  owned : ∀ id i, w.resultReceivers.lookup id = some i → ∃ call, w.calls[i]? = some call ∧ call.id = id

theorem registered_new : Registered .new where
  counter := rfl
  number _ _ h := by simp [BatchWorld.new] at h
  slot _ _ h := by simp [BatchWorld.new] at h
  owned _ _ h := by simp [BatchWorld.new] at h

theorem Registered.eq_of_id {call' : BatchCall} (hw : w.Registered) (hbound : w.calls.length ≤ 2 ^ 64)
    (hcall : w.calls[i]? = some call) (hcall' : w.calls[j]? = some call') (hid : call.id = call'.id) : i = j := by
  have hi := (List.getElem?_eq_some_iff.mp hcall).1
  have hj := (List.getElem?_eq_some_iff.mp hcall').1
  have hnumber := congrArg BitVec.toNat (batchId_injective hid)
  rw [hw.number i call hcall, hw.number j call' hcall', BitVec.toNat_ofNat, BitVec.toNat_ofNat,
    Nat.mod_eq_of_lt (by omega), Nat.mod_eq_of_lt (by omega)] at hnumber
  exact hnumber

theorem getElem?_modify_eq_some {calls : List BatchCall} {f : BatchCall → BatchCall} {call' : BatchCall} :
    (calls.modify i f)[j]? = some call' ↔
      ∃ call, calls[j]? = some call ∧ call' = if i = j then f call else call := by
  rw [List.getElem?_modify, Option.map_eq_map, Option.map_eq_some_iff]
  simp only [eq_comm]

/-- **A call that goes on**: only its own channel is registered, or removed. -/
theorem Registered.modify {f : BatchCall → BatchCall} (hw : w.Registered) (hbound : w.calls.length ≤ 2 ^ 64)
    (hcall : w.calls[i]? = some call) (hcalls : w'.calls = w.calls.modify i f)
    (hcounter : w'.simulationCounter = w.simulationCounter) (hnumber : (f call).number = call.number)
    (hslot : w'.resultReceivers.lookup call.id = if (f call).phase.holdsSlot then some i else none)
    (hother : ∀ id, id ≠ call.id → w'.resultReceivers.lookup id = w.resultReceivers.lookup id) :
    w'.Registered := by
  have hid : (f call).id = call.id := congrArg batchId hnumber
  have hchanged : w'.calls[i]? = some (f call) := by
    rw [hcalls]
    exact getElem?_modify_eq_some.mpr ⟨call, hcall, (if_pos rfl).symm⟩
  refine ⟨by rw [hcounter, hw.counter, hcalls, List.length_modify], fun j call' hcall' => ?_,
    fun j call' hcall' => ?_, fun id j hlookup => ?_⟩
  · rw [hcalls] at hcall'
    obtain ⟨before, hbefore, rfl⟩ := getElem?_modify_eq_some.mp hcall'
    split
    · rename_i hij
      obtain rfl := hij
      obtain rfl := Option.some.inj (hcall.symm.trans hbefore)
      rw [hnumber]
      exact hw.number i call hcall
    · exact hw.number j before hbefore
  · by_cases hij : i = j
    · obtain rfl := hij
      obtain rfl := Option.some.inj (hchanged.symm.trans hcall')
      rw [hid]
      exact hslot
    · rw [hcalls] at hcall'
      obtain ⟨before, hbefore, rfl⟩ := getElem?_modify_eq_some.mp hcall'
      rw [if_neg hij]
      rw [hother _ fun h => hij (hw.eq_of_id hbound hcall hbefore h.symm)]
      exact hw.slot j before hbefore
  · by_cases h : id = call.id
    · rw [h, hslot, Option.ite_none_right_eq_some, Option.some.injEq] at hlookup
      obtain ⟨-, rfl⟩ := hlookup
      exact ⟨f call, hchanged, hid.trans h.symm⟩
    · rw [hother id h] at hlookup
      obtain ⟨before, hbefore, rfl⟩ := hw.owned id j hlookup
      refine ⟨before, ?_, rfl⟩
      rw [hcalls]
      refine getElem?_modify_eq_some.mpr ⟨before, hbefore, (if_neg ?_).symm⟩
      rintro rfl
      exact h (congrArg BatchCall.id (Option.some.inj (hbefore.symm.trans hcall)))

/-- What is sent to a channel changes neither the number of its call nor how far it is. -/
theorem send_number (result : BatchSimulationResult) (call : BatchCall) :
    (call.send result).number = call.number ∧ (call.send result).bundles = call.bundles ∧
      (call.send result).phase = call.phase := by
  unfold BatchCall.send
  split <;> exact ⟨rfl, rfl, rfl⟩

/-- **What a call does** with the channels that are registered. -/
theorem Registered.callStep (hw : w.Registered) (hbound : w.calls.length ≤ 2 ^ 64)
    (hcall : w.calls[i]? = some call) (step : CallStep) : (w.callStep i call step call.phase).Registered := by
  have hslot := hw.slot i call hcall
  have hkeep : ∀ phase, phase.holdsSlot = call.phase.holdsSlot → (w.setPhase i phase).Registered :=
    fun phase hphase => hw.modify hbound hcall rfl rfl rfl (by rw [← hphase] at hslot; exact hslot) fun _ _ => rfl
  unfold BatchWorld.callStep
  split
  case h_1 hphase =>
    exact hw.modify hbound hcall rfl rfl rfl (AList.lookup_insert _) fun id hid => AList.lookup_insert_ne hid
  case h_2 hphase =>
    rw [hphase] at hslot hkeep
    split
    · exact hw.modify hbound hcall rfl rfl rfl hslot fun _ _ => rfl
    · exact hkeep _ rfl
  case h_3 hphase =>
    rw [hphase] at hkeep
    split
    · exact hkeep _ rfl
    · exact hw
  case h_4 hphase =>
    exact hw.modify hbound hcall rfl rfl rfl (AList.lookup_erase _ _) fun id hid => AList.lookup_erase_ne hid
  case h_5 hphase =>
    rw [hphase] at hkeep
    split
    · exact hkeep _ rfl
    · exact hw
  case h_6 hphase =>
    rw [hphase] at hkeep
    split
    · exact hkeep _ rfl
    · exact hw
  case h_7 => exact hw

theorem getElem?_simulateBatch {bundles : List SimulationBundle}
    (hcall : (w.simulateBatch bundles).calls[j]? = some call) :
    w.calls[j]? = some call ∨ j = w.calls.length ∧
      call = { number := w.simulationCounter, bundles, channel := [], phase := .numbered } := by
  rcases Nat.lt_or_ge j w.calls.length with hlt | hge
  · exact .inl ((List.getElem?_append_left hlt).symm.trans hcall)
  · have hnew := (List.getElem?_append_right hge).symm.trans hcall
    obtain ⟨hj, rfl⟩ := List.getElem?_eq_some_iff.mp hnew
    rw [List.length_singleton] at hj
    exact .inr ⟨by omega, List.getElem_singleton _⟩

/-- Nobody has registered a channel for the number of a new call. -/
theorem Registered.simulateBatch (hw : w.Registered) (bundles : List SimulationBundle)
    (hbound : w.calls.length < 2 ^ 64) : (w.simulateBatch bundles).Registered := by
  have hnone : w.resultReceivers.lookup (batchId w.simulationCounter) = none := by
    rw [Option.eq_none_iff_forall_ne_some]
    intro j hj
    obtain ⟨call, hcall, hid⟩ := hw.owned _ _ hj
    have hlt := (List.getElem?_eq_some_iff.mp hcall).1
    have hnumber := congrArg BitVec.toNat (batchId_injective hid)
    rw [hw.number j call hcall, hw.counter, BitVec.toNat_ofNat, BitVec.toNat_ofNat, Nat.mod_eq_of_lt (by omega),
      Nat.mod_eq_of_lt hbound] at hnumber
    omega
  refine ⟨?_, fun j call hcall => ?_, fun j call hcall => ?_, fun id j hj => ?_⟩
  · change w.simulationCounter + 1 = BitVec.ofNat 64 (w.calls ++ [_]).length
    rw [hw.counter, List.length_append, List.length_singleton, BitVec.ofNat_add]
    rfl
  · rcases getElem?_simulateBatch hcall with hcall | ⟨rfl, rfl⟩
    · exact hw.number j call hcall
    · exact hw.counter
  · rcases getElem?_simulateBatch hcall with hcall | ⟨rfl, rfl⟩
    · exact hw.slot j call hcall
    · exact hnone
  · obtain ⟨call, hcall, hid⟩ := hw.owned id j hj
    refine ⟨call, ?_, hid⟩
    exact (List.getElem?_append_left (List.getElem?_eq_some_iff.mp hcall).1).trans hcall

theorem Registered.process (hw : w.Registered) (n : ℕ) (stateAge : U64) (rpc : ℕ → RpcAnswers)
    (tracker : PnLTracker) : (w.process config n stateAge rpc tracker).Registered := by
  unfold BatchWorld.process
  split
  · split <;> exact ⟨hw.counter, hw.number, hw.slot, hw.owned⟩
  · exact hw

theorem Registered.deliver (hw : w.Registered) (hbound : w.calls.length ≤ 2 ^ 64) (n : ℕ) :
    (w.deliver n).Registered := by
  unfold BatchWorld.deliver
  split
  · rename_i result _
    split
    · rename_i i hi
      obtain ⟨call, hcall, -⟩ := hw.owned _ _ hi
      obtain ⟨hnumber, -, hphase⟩ := send_number result call
      refine hw.modify hbound hcall rfl rfl hnumber ?_ fun _ _ => rfl
      rw [hphase]
      exact hw.slot i call hcall
    · exact ⟨hw.counter, hw.number, hw.slot, hw.owned⟩
  · exact hw

@[simp] theorem length_simulateBatch (w : BatchWorld) (bundles : List SimulationBundle) :
    (w.simulateBatch bundles).calls.length = w.calls.length + 1 := List.length_append

theorem length_calls_le_step (config : SimulationOptimizerConfig) (w : BatchWorld) (event : BatchEvent) :
    w.calls.length ≤ (w.step config event).calls.length := by
  cases event with
  | simulateBatch bundles =>
    simp only [BatchWorld.step, length_simulateBatch]
    omega
  | call i step =>
    simp only [BatchWorld.step]
    split
    · unfold BatchWorld.callStep
      split <;> (try split) <;> simp only [setPhase, List.length_modify, Nat.le_refl]
    · exact Nat.le_refl _
  | process n stateAge rpc tracker =>
    simp only [BatchWorld.step, BatchWorld.process]
    split
    · split <;> exact Nat.le_refl _
    · exact Nat.le_refl _
  | deliver n =>
    simp only [BatchWorld.step, BatchWorld.deliver]
    split
    · split <;> simp only [List.length_modify, Nat.le_refl]
    · exact Nat.le_refl _
  | closeQueue => exact Nat.le_refl _

/-- **One event.** -/
theorem Registered.step (hw : w.Registered) (event : BatchEvent)
    (hbound : (w.step config event).calls.length ≤ 2 ^ 64) : (w.step config event).Registered := by
  have hbefore := Nat.le_trans (length_calls_le_step config w event) hbound
  cases event with
  | simulateBatch bundles =>
    simp only [BatchWorld.step, length_simulateBatch] at hbound
    exact hw.simulateBatch bundles (by omega)
  | call i step =>
    simp only [BatchWorld.step]
    split
    · rename_i hcall
      exact hw.callStep hbefore hcall step
    · exact hw
  | process n stateAge rpc tracker => exact hw.process n stateAge rpc tracker
  | deliver n => exact hw.deliver hbefore n
  | closeQueue => exact ⟨hw.counter, hw.number, hw.slot, hw.owned⟩

/-! ### Who gives up -/

/-- No call has returned an error. -/
def NoneFailed (w : BatchWorld) : Prop :=
  ∀ (i : ℕ) (call : BatchCall), w.calls[i]? = some call → call.phase.failed = false

/-- Of the calls that have returned, those that failed have a channel registered. -/
theorem Registered.slotsReleased_iff (hw : w.Registered) : w.SlotsReleased ↔ w.NoneFailed := by
  constructor
  · intro h i call hcall
    have hslot := hw.slot i call hcall
    rcases hphase : call.phase with _ | _ | _ | _ | result
    case returned =>
      rcases result with e | result
      · rw [h call (List.mem_of_getElem? hcall) _ hphase, hphase] at hslot
        cases hslot
      · rfl
    all_goals rfl
  · intro h call hmem result hphase
    obtain ⟨i, hcall⟩ := List.mem_iff_getElem?.mp hmem
    have hfailed := h i call hcall
    rw [hw.slot i call hcall]
    rw [hphase] at hfailed ⊢
    rcases result with e | result
    · cases hfailed
    · rfl

theorem noneFailed_modify_iff {f : BatchCall → BatchCall} (hcall : w.calls[i]? = some call)
    (hcalls : w'.calls = w.calls.modify i f)
    (hphase : (f call).phase.failed = false → call.phase.failed = false) :
    w'.NoneFailed ↔ w.NoneFailed ∧ (f call).phase.failed = false := by
  constructor
  · intro h
    have hmodified : ∀ j before, w.calls[j]? = some before →
        (if i = j then f before else before).phase.failed = false := by
      intro j before hbefore
      refine h j _ ?_
      rw [hcalls]
      exact getElem?_modify_eq_some.mpr ⟨before, hbefore, rfl⟩
    refine ⟨fun j before hbefore => ?_, ?_⟩
    · have hafter := hmodified j before hbefore
      split at hafter
      · rename_i hij
        obtain rfl := hij
        obtain rfl := Option.some.inj (hcall.symm.trans hbefore)
        exact hphase hafter
      · exact hafter
    · have hafter := hmodified i call hcall
      rw [if_pos rfl] at hafter
      exact hafter
  · rintro ⟨h, hafter⟩ j call' hcall'
    rw [hcalls] at hcall'
    obtain ⟨before, hbefore, rfl⟩ := getElem?_modify_eq_some.mp hcall'
    split
    · rename_i hij
      obtain rfl := hij
      obtain rfl := Option.some.inj (hcall.symm.trans hbefore)
      exact hafter
    · exact h j before hbefore

/-- **A step of a call** fails just where it gives up: its channel is never closed. -/
theorem Registered.noneFailed_callStep_iff (hw : w.Registered) (hcall : w.calls[i]? = some call) (kind : CallStep) :
    (w.callStep i call kind call.phase).NoneFailed ↔ w.NoneFailed ∧ w.givesUp (.call i kind) = false := by
  have hgivesUp : w.givesUp (.call i kind) = match kind with
      | .send => call.phase.isRegistered && !w.queueOpen
      | .timeout => call.phase.isWaiting && call.channel.isEmpty
      | _ => false := by
    cases kind <;> simp only [givesUp, hcall, Option.any_some]
  have hslot := hw.slot i call hcall
  rw [hgivesUp]
  unfold BatchWorld.callStep
  split
  case h_1 hphase =>
    rw [noneFailed_modify_iff hcall rfl (fun _ => by rw [hphase]; rfl)]
    rfl
  case h_2 hphase =>
    split
    · rename_i hopen
      rw [noneFailed_modify_iff hcall rfl (fun _ => by rw [hphase]; rfl), hopen, Bool.not_true, Bool.and_false]
      rfl
    · rename_i hopen
      rw [noneFailed_modify_iff hcall rfl (fun _ => by rw [hphase]; rfl), hphase, Bool.not_eq_true _ |>.mp hopen]
      rfl
  case h_3 hphase =>
    split
    · rw [noneFailed_modify_iff hcall rfl (fun _ => by rw [hphase]; rfl)]
      rfl
    · simp
  case h_4 hphase =>
    rw [noneFailed_modify_iff hcall rfl (fun _ => by rw [hphase]; rfl)]
    rfl
  case h_5 hphase =>
    split
    · rename_i hempty
      rw [noneFailed_modify_iff hcall rfl (fun _ => by rw [hphase]; rfl), hphase, hempty]
      rfl
    · rename_i hempty
      rw [Bool.not_eq_true _ |>.mp hempty, Bool.and_false]
      simp
  case h_6 hphase =>
    rw [hphase] at hslot
    rw [if_neg fun h => h.2 hslot]
    simp
  case h_7 kind _ _ _ hsend _ _ htimeout _ =>
    cases kind with
    | send =>
      have hphase : call.phase.isRegistered = false := by
        rw [← Bool.not_eq_true, BatchPhase.isRegistered_iff]
        exact hsend rfl
      rw [hphase]
      simp
    | timeout =>
      have hphase : call.phase.isWaiting = false := by
        rw [← Bool.not_eq_true, BatchPhase.isWaiting_iff]
        exact htimeout rfl
      rw [hphase]
      simp
    | _ => simp

theorem noneFailed_deliver_iff (w : BatchWorld) (n : ℕ) (hw : w.Registered) :
    (w.deliver n).NoneFailed ↔ w.NoneFailed := by
  unfold BatchWorld.deliver
  split
  · rename_i result _
    split
    · rename_i i hi
      obtain ⟨call, hcall, -⟩ := hw.owned _ _ hi
      have hphase := (send_number result call).2.2
      rw [noneFailed_modify_iff hcall rfl (fun h => by rw [← hphase]; exact h), hphase]
      exact ⟨And.left, fun h => ⟨h, h i call hcall⟩⟩
    · rfl
  · rfl

/-- **One event**: a call fails just where it gives up. -/
theorem Registered.noneFailed_step_iff (hw : w.Registered) (event : BatchEvent) :
    (w.step config event).NoneFailed ↔ w.NoneFailed ∧ w.givesUp event = false := by
  cases event with
  | simulateBatch bundles =>
    refine ⟨fun h => ⟨fun j call hcall => ?_, rfl⟩, fun h j call hcall => ?_⟩
    · exact h j call ((List.getElem?_append_left (List.getElem?_eq_some_iff.mp hcall).1).trans hcall)
    · rcases getElem?_simulateBatch hcall with hcall | ⟨-, rfl⟩
      · exact h.1 j call hcall
      · rfl
  | call i kind =>
    simp only [BatchWorld.step]
    split
    · rename_i hcall
      exact hw.noneFailed_callStep_iff hcall kind
    · rename_i hnone
      have hgivesUp : w.givesUp (.call i kind) = false := by
        cases kind <;> simp only [givesUp, hnone, Option.any_none]
      simp only [hgivesUp, and_true]
  | process n stateAge rpc tracker =>
    have hcalls : (w.process config n stateAge rpc tracker).calls = w.calls := by
      unfold BatchWorld.process
      split
      · split <;> rfl
      · rfl
    simp only [NoneFailed, BatchWorld.step, hcalls, givesUp, and_true]
  | deliver n =>
    simp only [givesUp, and_true]
    exact noneFailed_deliver_iff w n hw
  | closeQueue => simp only [NoneFailed, BatchWorld.step, givesUp, and_true]

theorem length_calls_le_run (config : SimulationOptimizerConfig) (w : BatchWorld) (events : List BatchEvent) :
    w.calls.length ≤ (w.run config events).calls.length := by
  induction events generalizing w with
  | nil => exact Nat.le_refl _
  | cons event events ih => exact Nat.le_trans (length_calls_le_step config w event) (ih _)

theorem length_calls_run_take_le (config : SimulationOptimizerConfig) (w : BatchWorld) (events : List BatchEvent)
    (n : ℕ) : (w.run config (events.take n)).calls.length ≤ (w.run config events).calls.length := by
  have hrun : w.run config events = (w.run config (events.take n)).run config (events.drop n) := by
    rw [BatchWorld.run, BatchWorld.run, BatchWorld.run, ← List.foldl_append, List.take_append_drop]
  rw [hrun]
  exact length_calls_le_run config _ _

theorem NoneGivesUp.take {events : List BatchEvent} (h : NoneGivesUp config w events) (n : ℕ) :
    NoneGivesUp config w (events.take n) := by
  induction events generalizing w n with
  | nil =>
    rw [List.take_nil]
    trivial
  | cons event events ih =>
    cases n with
    | zero => trivial
    | succ n => exact ⟨h.1, ih h.2 n⟩

/-- **One event after another.** -/
theorem Registered.run (hw : w.Registered) {events : List BatchEvent}
    (hbound : (w.run config events).calls.length ≤ 2 ^ 64) : (w.run config events).Registered := by
  induction events generalizing w with
  | nil => exact hw
  | cons event events ih =>
    exact ih (hw.step event (Nat.le_trans (length_calls_le_run config _ events) hbound)) hbound

theorem Registered.noneFailed_run_iff (hw : w.Registered) {events : List BatchEvent}
    (hbound : (w.run config events).calls.length ≤ 2 ^ 64) :
    (w.run config events).NoneFailed ↔ w.NoneFailed ∧ NoneGivesUp config w events := by
  induction events generalizing w with
  | nil => exact (and_iff_left trivial).symm
  | cons event events ih =>
    have hstep := hw.step event (Nat.le_trans (length_calls_le_run config _ events) hbound)
    rw [NoneGivesUp, ← and_assoc]
    exact (ih hstep hbound).trans (and_congr_left' (hw.noneFailed_step_iff event))

/-! ### What they return -/

/-- What a round of processing answers, and the tracker that it starts with. -/
abbrev Round := U64 × (ℕ → RpcAnswers) × PnLTracker

/-- The rounds of some events. -/
def rounds (events : List BatchEvent) : Set Round :=
  {round | ∃ n, .process n round.1 round.2.1 round.2.2 ∈ events}

theorem rounds_mono {events events' : List BatchEvent} (h : events ⊆ events') : rounds events ⊆ rounds events' :=
  fun _ ⟨n, hn⟩ => ⟨n, h hn⟩

/-- What a call may get: what one of the rounds makes of its own request. -/
def Answers (config : SimulationOptimizerConfig) (R : Set Round) (call : BatchCall) (result : BatchSimulationResult) :
    Prop :=
  ∃ round ∈ R, ∃ tracker, processSingleBatch config round.1 round.2.1 call.request round.2.2 = .ok (result, tracker)

/-- How a call may end without a result. -/
def GivenUp (e : Failure) : Prop := e = .err "channel closed" ∨ e = .err "Batch simulation timeout"

/-- What a call has got is its own. -/
structure Sound (config : SimulationOptimizerConfig) (R : Set Round) (call : BatchCall) : Prop where
  channel : ∀ result ∈ call.channel, Answers config R call result
  received : ∀ result, call.phase = .received result → Answers config R call result
  returned : ∀ result, call.phase = .returned (.ok result) → Answers config R call result
  givenUp : ∀ e, call.phase = .returned (.error e) → GivenUp e

/-- Every request is that of a call, and every result is for one. -/
structure Answering (config : SimulationOptimizerConfig) (R : Set Round) (w : BatchWorld) : Prop where
  requests : ∀ request ∈ w.requests, ∃ call ∈ w.calls, request = call.request
  processed : ∀ result ∈ w.processed, ∃ call ∈ w.calls, Answers config R call result
  calls : ∀ (i : ℕ) (call : BatchCall), w.calls[i]? = some call → Sound config R call

variable {R : Set Round}

theorem answering_new (config : SimulationOptimizerConfig) (R : Set Round) : Answering config R .new where
  requests _ h := by cases h
  processed _ h := by cases h
  calls _ _ h := by cases h

theorem Answers.id {result : BatchSimulationResult} (h : Answers config R call result) : result.batchId = call.id := by
  obtain ⟨round, -, tracker, h⟩ := h
  exact (processSingleBatch_ok h).1

/-- **A call that goes on.** -/
theorem Answering.modify {f : BatchCall → BatchCall} (hw : Answering config R w) (hcall : w.calls[i]? = some call)
    (hcalls : w'.calls = w.calls.modify i f)
    (hsame : ∀ call, (f call).number = call.number ∧ (f call).bundles = call.bundles)
    (hrequests : ∀ request ∈ w'.requests, request ∈ w.requests ∨ request = call.request)
    (hprocessed : ∀ result ∈ w'.processed, result ∈ w.processed) (hsound : Sound config R (f call)) :
    Answering config R w' := by
  have hkept : ∀ before ∈ w.calls,
      ∃ after ∈ w'.calls, after.number = before.number ∧ after.bundles = before.bundles := by
    intro before hbefore
    obtain ⟨j, hj⟩ := List.mem_iff_getElem?.mp hbefore
    have hafter : w'.calls[j]? = some (if i = j then f before else before) := by
      rw [hcalls]
      exact getElem?_modify_eq_some.mpr ⟨before, hj, rfl⟩
    refine ⟨_, List.mem_of_getElem? hafter, ?_⟩
    split
    · exact hsame before
    · exact ⟨rfl, rfl⟩
  refine ⟨fun request hrequest => ?_, fun result hresult => ?_, fun j call' hcall' => ?_⟩
  · obtain ⟨before, hbefore, rfl⟩ : ∃ call ∈ w.calls, request = call.request := by
      rcases hrequests request hrequest with h | rfl
      · exact hw.requests request h
      · exact ⟨call, List.mem_of_getElem? hcall, rfl⟩
    obtain ⟨after, hafter, hnumber, hbundles⟩ := hkept before hbefore
    refine ⟨after, hafter, ?_⟩
    simp only [BatchCall.request, BatchCall.id, hnumber, hbundles]
  · obtain ⟨before, hbefore, hanswers⟩ := hw.processed result (hprocessed result hresult)
    obtain ⟨after, hafter, hnumber, hbundles⟩ := hkept before hbefore
    refine ⟨after, hafter, ?_⟩
    have hrequest : after.request = before.request := by
      simp only [BatchCall.request, BatchCall.id, hnumber, hbundles]
    rw [Answers, hrequest]
    exact hanswers
  · rw [hcalls] at hcall'
    obtain ⟨before, hbefore, rfl⟩ := getElem?_modify_eq_some.mp hcall'
    split
    · rename_i hij
      obtain rfl := hij
      obtain rfl := Option.some.inj (hcall.symm.trans hbefore)
      exact hsound
    · exact hw.calls j before hbefore

theorem Sound.send {result : BatchSimulationResult} (h : Sound config R call)
    (hanswers : Answers config R call result) : Sound config R (call.send result) := by
  unfold BatchCall.send
  split
  · exact h
  · refine ⟨fun sent hsent => ?_, h.received, h.returned, h.givenUp⟩
    rcases List.mem_append.mp hsent with hsent | hsent
    · exact h.channel sent hsent
    · obtain rfl := List.mem_singleton.mp hsent
      exact hanswers

/-- **A step of a call.** -/
theorem Answering.callStep (hw : Answering config R w) (hregistered : w.Registered) (hcall : w.calls[i]? = some call)
    (kind : CallStep) : Answering config R (w.callStep i call kind call.phase) := by
  have hsound := hw.calls i call hcall
  have hgoes : ∀ phase, (∀ result, phase = .received result → Answers config R call result) →
      (∀ result, phase = .returned (.ok result) → Answers config R call result) →
      (∀ e, phase = .returned (.error e) → GivenUp e) → Answering config R (w.setPhase i phase) :=
    fun phase hreceived hreturned hgivenUp =>
      hw.modify hcall rfl (fun _ => ⟨rfl, rfl⟩) (fun _ h => .inl h) (fun _ h => h)
        ⟨hsound.channel, hreceived, hreturned, hgivenUp⟩
  have hslot := hregistered.slot i call hcall
  unfold BatchWorld.callStep
  split
  case h_1 hphase =>
    have hgoes := hgoes .registered (fun _ h => nomatch h) (fun _ h => nomatch h) (fun _ h => nomatch h)
    exact ⟨hgoes.requests, hgoes.processed, hgoes.calls⟩
  case h_2 hphase =>
    split
    · refine hw.modify hcall rfl (fun _ => ⟨rfl, rfl⟩) (fun request h => ?_) (fun _ h => h)
        ⟨hsound.channel, (fun _ h => nomatch h), (fun _ h => nomatch h), (fun _ h => nomatch h)⟩
      rcases List.mem_append.mp h with h | h
      · exact .inl h
      · exact .inr (List.mem_singleton.mp h)
    · refine hgoes _ (fun _ h => nomatch h) (fun _ h => nomatch h) fun e h => ?_
      obtain rfl := Except.error.inj (BatchPhase.returned.inj h)
      exact .inl rfl
  case h_3 hphase =>
    split
    · rename_i result channel hchannel
      refine hgoes _ (fun result' h => ?_) (fun _ h => nomatch h) (fun _ h => nomatch h)
      obtain rfl := BatchPhase.received.inj h
      exact hsound.channel _ (hchannel ▸ List.mem_cons_self)
    · exact hw
  case h_4 result hphase =>
    have hgoes := hgoes (.returned (.ok result)) (fun _ h => nomatch h) (fun result' h => by
      obtain rfl := Except.ok.inj (BatchPhase.returned.inj h)
      exact hsound.received result hphase) (fun _ h => nomatch h)
    exact ⟨hgoes.requests, hgoes.processed, hgoes.calls⟩
  case h_5 hphase =>
    split
    · refine hgoes _ (fun _ h => nomatch h) (fun _ h => nomatch h) fun e h => ?_
      obtain rfl := Except.error.inj (BatchPhase.returned.inj h)
      exact .inr rfl
    · exact hw
  case h_6 hphase =>
    rw [hphase] at hslot
    rw [if_neg fun h => h.2 hslot]
    exact hw
  case h_7 => exact hw

/-- **One event.** -/
theorem Answering.step (hw : Answering config R w) (hregistered : w.Registered) (hbound : w.calls.length ≤ 2 ^ 64)
    {event : BatchEvent} (hround : rounds [event] ⊆ R) : Answering config R (w.step config event) := by
  cases event with
  | simulateBatch bundles =>
    refine ⟨fun request hrequest => ?_, fun result hresult => ?_, fun j call hcall => ?_⟩
    · obtain ⟨call, hcall, h⟩ := hw.requests request hrequest
      exact ⟨call, List.mem_append_left _ hcall, h⟩
    · obtain ⟨call, hcall, h⟩ := hw.processed result hresult
      exact ⟨call, List.mem_append_left _ hcall, h⟩
    · rcases getElem?_simulateBatch hcall with hcall | ⟨-, rfl⟩
      · exact hw.calls j call hcall
      · exact ⟨(fun _ h => nomatch h), (fun _ h => nomatch h), (fun _ h => nomatch h), (fun _ h => nomatch h)⟩
  | call i kind =>
    simp only [BatchWorld.step]
    split
    · rename_i hcall
      exact hw.callStep hregistered hcall kind
    · exact hw
  | process n stateAge rpc tracker =>
    simp only [BatchWorld.step, BatchWorld.process]
    split
    · rename_i request hrequest
      obtain ⟨call, hcall, rfl⟩ := hw.requests request (List.mem_of_getElem? hrequest)
      split
      · rename_i result tracker' hresult
        refine ⟨fun request h => hw.requests request (List.mem_of_mem_eraseIdx h), fun result' h => ?_,
          hw.calls⟩
        rcases List.mem_append.mp h with h | h
        · exact hw.processed result' h
        · obtain rfl := List.mem_singleton.mp h
          have hin : (stateAge, rpc, tracker) ∈ R := hround ⟨n, List.mem_singleton.mpr rfl⟩
          exact ⟨call, hcall, _, hin, tracker', hresult⟩
      · exact ⟨fun request h => hw.requests request (List.mem_of_mem_eraseIdx h), hw.processed, hw.calls⟩
    · exact hw
  | deliver n =>
    simp only [BatchWorld.step, BatchWorld.deliver]
    split
    · rename_i result hresult
      split
      · rename_i i hi
        -- The channel that is registered for the result is that of the call that asked for it.
        obtain ⟨call, hcall, hid⟩ := hregistered.owned _ _ hi
        obtain ⟨asked, hasked, hanswers⟩ := hw.processed result (List.mem_of_getElem? hresult)
        obtain ⟨j, hj⟩ := List.mem_iff_getElem?.mp hasked
        obtain rfl := hregistered.eq_of_id hbound hcall hj (hid.trans hanswers.id)
        obtain rfl := Option.some.inj (hcall.symm.trans hj)
        refine hw.modify hcall rfl (fun call => ?_) (fun _ h => .inl h)
          (fun _ h => List.mem_of_mem_eraseIdx h) ?_
        · obtain ⟨hnumber, hbundles, -⟩ := send_number result call
          exact ⟨hnumber, hbundles⟩
        · exact (hw.calls i call hcall).send hanswers
      · exact ⟨hw.requests, fun result h => hw.processed result (List.mem_of_mem_eraseIdx h), hw.calls⟩
    · exact hw
  | closeQueue => exact ⟨hw.requests, hw.processed, hw.calls⟩

theorem Answering.run (hw : Answering config R w) (hregistered : w.Registered) {events : List BatchEvent}
    (hbound : (w.run config events).calls.length ≤ 2 ^ 64) (hrounds : rounds events ⊆ R) :
    Answering config R (w.run config events) := by
  induction events generalizing w with
  | nil => exact hw
  | cons event events ih =>
    have hafter := Nat.le_trans (length_calls_le_run config _ events) hbound
    have hbefore := Nat.le_trans (length_calls_le_step config w event) hafter
    have hround : rounds [event] ⊆ R := fun _ h => hrounds (rounds_mono (by simp) h)
    have hlater : rounds events ⊆ R := fun _ h => hrounds (rounds_mono (by simp) h)
    exact ih (hw.step hregistered hbefore hround) (hregistered.step event hafter) hbound hlater

end BatchWorld

open BatchWorld

variable {config : SimulationOptimizerConfig}

/-- **What a call returns**, whatever else is going on: a result that one of the rounds of processing has made
of its own request, or the error of a call that gives up. No channel is closed while a call waits. -/
theorem returned_genuine (events : List BatchEvent)
    (hcalls : (BatchWorld.new.run config events).calls.length ≤ 2 ^ 64) {call : BatchCall}
    (hcall : call ∈ (BatchWorld.new.run config events).calls) :
    (∀ result, call.phase = .returned (.ok result) → Answers config (rounds events) call result) ∧
      ∀ e, call.phase = .returned (.error e) → GivenUp e := by
  have hanswering := (answering_new config (rounds events)).run registered_new hcalls fun _ h => h
  obtain ⟨i, hi⟩ := List.mem_iff_getElem?.mp hcall
  have hsound := hanswering.calls i call hi
  exact ⟨hsound.returned, hsound.givenUp⟩

/-- **No slot is leaked**, in no state of a run, just where no call gives up: as long as no number is given
to two calls. -/
theorem slots_released_iff (config : SimulationOptimizerConfig) (events : List BatchEvent)
    (hcalls : (BatchWorld.new.run config events).calls.length ≤ 2 ^ 64) :
    (∀ n, (BatchWorld.new.run config (events.take n)).SlotsReleased) ↔ NoneGivesUp config .new events := by
  have hreleased : ∀ events, (BatchWorld.new.run config events).calls.length ≤ 2 ^ 64 →
      ((BatchWorld.new.run config events).SlotsReleased ↔ NoneGivesUp config .new events) := by
    intro events hcalls
    rw [(registered_new.run hcalls).slotsReleased_iff, registered_new.noneFailed_run_iff hcalls]
    exact and_iff_right fun _ _ h => by cases h
  constructor
  · intro h
    have hall := h events.length
    rw [List.take_length] at hall
    exact (hreleased events hcalls).mp hall
  · intro h n
    exact (hreleased _ (Nat.le_trans (length_calls_run_take_le config .new events n) hcalls)).mpr (h.take n)

/-- A batch that is queued, processed and delivered, while another one begins. -/
def deliveredBatch : List BatchEvent :=
  [.simulateBatch [bundleOf 21000 1000000000], .call 0 .register, .call 0 .send, .simulateBatch [],
    .process 0 0 (fun _ => sampleRpc) .default, .call 1 .register, .deliver 0, .call 0 .receive, .call 0 .cleanUp]

/-- The first call returns what was made of its bundle. -/
theorem delivered_genuine : ∃ call ∈ (BatchWorld.new.run .default deliveredBatch).calls,
    ∃ result, call.phase = .returned (.ok result) ∧ Answers .default (rounds deliveredBatch) call result := by
  have hmem : ∃ call ∈ (BatchWorld.new.run .default deliveredBatch).calls,
      ∃ result, call.phase = .returned (.ok result) := ⟨_, List.mem_cons_self, _, rfl⟩
  obtain ⟨call, hcall, result, hphase⟩ := hmem
  exact ⟨call, hcall, result, hphase, (returned_genuine deliveredBatch (by decide) hcall).1 result hphase⟩

/-- Its slot is released, and the other one is kept. -/
theorem delivered_released : (BatchWorld.new.run .default deliveredBatch).SlotsReleased := by
  have hreleased := (slots_released_iff .default deliveredBatch (by decide)).mpr (by decide)
    deliveredBatch.length
  rwa [List.take_length] at hreleased

/-- **A slot that is leaked**: a request that nobody answers in time. -/
theorem timeout_leaks :
    ¬ (BatchWorld.new.run .default
      [.simulateBatch [], .call 0 .register, .call 0 .send, .call 0 .timeout]).SlotsReleased := by
  intro h
  have hslot := h _ List.mem_cons_self _ rfl
  revert hslot
  decide

end Botmev.Core.SimulationOptimizer
