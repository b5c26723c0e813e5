import Botmev.Hyperliquid.WsService
import Mathlib.Data.List.Induction

/-!
# Accounting for the messages

Each message that is pushed should have been sent, or still be in the queue, or be counted as
dropped. Pushing keeps this, whether there is room or not, and so does a drain while the
channel is open. One that finds the channel closed takes a message from the queue all the same.

## What is proved

* `accounted_push`: a push keeps the account.
* `accounted_process_iff`: a drain keeps it just where the channel stays open for it, or there
  is nothing to send.
* `accounted_run_iff`: a run keeps it throughout just when all its drains do.
* `totalMessagesProcessed_run`: the messages processed are the messages sent.
* `closed_channel_loses`: a message is pushed after the receiver is gone, and is nowhere.
-/

namespace Botmev.Hyperliquid

open Botmev.Rust Botmev.Library

/-- What happens to the queue and its channel. -/
inductive QueueEvent where
  /-- A message that is parsed is pushed. -/
  | push (message : HyperLiquidMessage)
  /-- `process_message_queue`. The receiver may be closed after so many of its messages. -/
  | process (closing : Option ℕ)
  /-- The receiver is closed. -/
  | close
  deriving DecidableEq, Repr

namespace HyperLiquidWsService

/-- One event. -/
def step (service : HyperLiquidWsService) : QueueEvent → Result HyperLiquidWsService
  | .push message => service.pushMessage message
  | .process closing => pure (service.processMessageQueue closing)
  | .close => pure service.closeReceiver

/-- The events from the start on. -/
def run (subscriptionStates : Table String SubscriptionState) (events : List QueueEvent) :
    Result HyperLiquidWsService :=
  events.foldlM step (new subscriptionStates)

end HyperLiquidWsService

/-- The messages that are pushed. -/
def pushed (events : List QueueEvent) : List HyperLiquidMessage :=
  events.filterMap fun
    | .push message => some message
    | .process _ | .close => none

/-- **Every message is accounted for once**: it is sent, queued or counted as dropped, the
messages keep their order, and the queue its bound. -/
structure Accounted (messages : List HyperLiquidMessage) (service : HyperLiquidWsService) : Prop where
  /-- Each is sent, queued or dropped. -/
  count : messages.length =
    service.messageTx.sent.length + service.messageQueue.queue.length + service.messageQueue.droppedCount.toNat
  /-- What is sent, and after it what is queued, are in the order of arrival. -/
  order : (service.messageTx.sent ++ service.messageQueue.queue).Sublist messages
  /-- The queue does not exceed its maximum size. -/
  bounded : service.messageQueue.queue.length ≤ service.messageQueue.maxSize

/-- The channel stays open for what a drain has to send. -/
def Delivers (service : HyperLiquidWsService) (closing : Option ℕ) : Prop :=
  StaysOpen closing service.messageTx service.messageQueue.queue.length

variable {messages : List HyperLiquidMessage} {service service' : HyperLiquidWsService} {closing : Option ℕ}
  {subscriptionStates : Table String SubscriptionState} {events : List QueueEvent}

/-! ### One event -/

theorem accounted_push {message : HyperLiquidMessage} (hmax : 0 < service.messageQueue.maxSize)
    (h : Accounted messages service) (hpush : service.pushMessage message = .ok service') :
    Accounted (messages ++ [message]) service' := by
  obtain ⟨messageQueue, hqueue, h'⟩ := bind_eq_ok_iff.mp hpush
  cases h'
  obtain ⟨hcount, horder, hbounded⟩ := h
  obtain ⟨hmaxSize, hqueue⟩ := push_eq_ok_iff.mp hqueue
  split at hqueue
  next hfull =>
    obtain ⟨hqueue, hdropped⟩ := hqueue
    obtain ⟨oldest, rest, hcons⟩ := List.exists_cons_of_length_pos (Nat.lt_of_lt_of_le hmax hfull)
    rw [hcons, List.length_cons] at hcount hbounded
    rw [hcons, List.tail_cons] at hqueue
    refine ⟨?_, ?_, ?_⟩
    · simp only [hqueue, hdropped, List.length_append, List.length_singleton, hcount]
      omega
    · rw [hqueue, ← List.append_assoc]
      refine List.Sublist.append_right (List.Sublist.trans ?_ horder) _
      rw [hcons]
      exact List.Sublist.append_left (List.sublist_cons_self _ _) _
    · rw [hmaxSize, hqueue, List.length_append, List.length_singleton]
      exact hbounded
  next hroom =>
    obtain ⟨hqueue, hdropped⟩ := hqueue
    refine ⟨?_, ?_, ?_⟩
    · simp only [hqueue, hdropped, List.length_append, List.length_singleton, hcount]
      omega
    · rw [hqueue, ← List.append_assoc]
      exact List.Sublist.append_right horder _
    · rw [hmaxSize, hqueue, List.length_append, List.length_singleton]
      omega

/-- **A drain keeps the account** just where the channel stays open for it. -/
theorem accounted_process_iff (h : Accounted messages service) :
    Accounted messages (service.processMessageQueue closing) ↔ Delivers service closing := by
  obtain ⟨hcount, horder, hbounded⟩ := h
  by_cases hopen : Delivers service closing
  · refine iff_of_true ⟨?_, ?_, ?_⟩ hopen
    all_goals
      obtain ⟨hqueue, hsent⟩ := drain_of_open service.totalMessagesProcessed hopen
      simp only [HyperLiquidWsService.processMessageQueue, hqueue, hsent, List.append_nil, List.length_append,
        List.length_nil]
    · omega
    · exact horder
    · exact Nat.zero_le _
  · refine iff_of_false ?_ hopen
    intro hafter
    obtain ⟨before, lost, after, hsplit, hqueue, hsent⟩ :=
      drain_of_closing service.totalMessagesProcessed hopen
    have hcount' := hafter.count
    simp only [HyperLiquidWsService.processMessageQueue, hqueue, hsent] at hcount'
    rw [hsplit] at hcount
    simp only [List.length_append, List.length_cons] at hcount hcount'
    omega

theorem accounted_close (h : Accounted messages service) : Accounted messages service.closeReceiver :=
  ⟨h.count, h.order, h.bounded⟩

theorem maxSize_step {event : QueueEvent} (h : service.step event = .ok service') :
    service'.messageQueue.maxSize = service.messageQueue.maxSize := by
  cases event with
  | push message =>
    obtain ⟨messageQueue, hqueue, h⟩ := bind_eq_ok_iff.mp h
    cases h
    exact (push_eq_ok_iff.mp hqueue).1
  | process closing =>
    cases h
    rfl
  | close =>
    cases h
    rfl

/-! ### Runs -/

theorem run_append_singleton {event : QueueEvent} :
    HyperLiquidWsService.run subscriptionStates (events ++ [event]) = .ok service' ↔
      ∃ service, HyperLiquidWsService.run subscriptionStates events = .ok service ∧
        service.step event = .ok service' := by
  simp only [HyperLiquidWsService.run, List.foldlM_append, List.foldlM_cons, List.foldlM_nil]
  rw [bind_eq_ok_iff]
  constructor
  · rintro ⟨service, hrun, hstep⟩
    obtain ⟨after, hstep, h⟩ := bind_eq_ok_iff.mp hstep
    cases h
    exact ⟨service, hrun, hstep⟩
  · rintro ⟨service, hrun, hstep⟩
    exact ⟨service, hrun, bind_eq_ok_iff.mpr ⟨service', hstep, rfl⟩⟩

theorem maxSize_run (h : HyperLiquidWsService.run subscriptionStates events = .ok service) :
    service.messageQueue.maxSize = 1000 := by
  induction events using List.reverseRecOn generalizing service with
  | nil =>
    cases h
    rfl
  | append_singleton events event ih =>
    obtain ⟨before, hrun, hstep⟩ := run_append_singleton.mp h
    rw [maxSize_step hstep, ih hrun]

/-- What is processed is what is sent: the counter is of that, up to its width. -/
theorem totalMessagesProcessed_run (h : HyperLiquidWsService.run subscriptionStates events = .ok service) :
    service.totalMessagesProcessed = BitVec.ofNat 64 service.messageTx.sent.length := by
  induction events using List.reverseRecOn generalizing service with
  | nil =>
    cases h
    rfl
  | append_singleton events event ih =>
    obtain ⟨before, hrun, hstep⟩ := run_append_singleton.mp h
    have ih := ih hrun
    cases event with
    | push message =>
      obtain ⟨messageQueue, -, hstep⟩ := bind_eq_ok_iff.mp hstep
      cases hstep
      exact ih
    | process closing =>
      cases hstep
      exact drain_processed ih
    | close =>
      cases hstep
      exact ih

/-- Every drain of a run is one that the channel stays open for. -/
def AllDelivered (subscriptionStates : Table String SubscriptionState) (events : List QueueEvent) : Prop :=
  ∀ before closing after service, events = before ++ .process closing :: after →
    HyperLiquidWsService.run subscriptionStates before = .ok service → Delivers service closing

/-- In every state of a run, every message is accounted for. -/
def AlwaysAccounted (subscriptionStates : Table String SubscriptionState) (events : List QueueEvent) : Prop :=
  ∀ before after service, events = before ++ after →
    HyperLiquidWsService.run subscriptionStates before = .ok service → Accounted (pushed before) service

/-- Where all drains are delivered, what is pushed is accounted for in the end. -/
theorem accounted_of_allDelivered (hall : AllDelivered subscriptionStates events)
    (h : HyperLiquidWsService.run subscriptionStates events = .ok service) :
      Accounted (pushed events) service := by
  induction events using List.reverseRecOn generalizing service with
  | nil =>
    cases h
    exact ⟨rfl, List.Sublist.refl _, Nat.zero_le _⟩
  | append_singleton events event ih =>
    obtain ⟨before, hrun, hstep⟩ := run_append_singleton.mp h
    have hbefore : AllDelivered subscriptionStates events := by
      intro before closing after service hevents
      exact hall before closing (after ++ [event]) service (by rw [hevents, List.append_assoc]; rfl)
    have ih := ih hbefore hrun
    have hpushed : pushed (events ++ [event]) = pushed events ++ pushed [event] := List.filterMap_append
    rw [hpushed]
    cases event with
    | push message =>
      have hmax : 0 < before.messageQueue.maxSize := by rw [maxSize_run hrun]; decide
      exact accounted_push hmax ih hstep
    | process closing =>
      cases hstep
      rw [show pushed [.process closing] = [] from rfl, List.append_nil]
      exact (accounted_process_iff ih).mpr (hall events closing [] before rfl hrun)
    | close =>
      cases hstep
      rw [show pushed [.close] = [] from rfl, List.append_nil]
      exact accounted_close ih

/-- **When every message is accounted for, throughout**: when no drain finds the channel closed
with a message left to send. -/
theorem accounted_run_iff :
    AlwaysAccounted subscriptionStates events ↔ AllDelivered subscriptionStates events := by
  constructor
  · intro halways before closing after service hevents hrun
    have hbefore := halways before _ service hevents hrun
    have hafter := halways (before ++ [.process closing]) after (service.processMessageQueue closing)
      (by rw [hevents, List.append_assoc]; rfl) (run_append_singleton.mpr ⟨service, hrun, rfl⟩)
    have hpushed : pushed (before ++ [.process closing]) = pushed before := by
      rw [pushed, List.filterMap_append]
      exact List.append_nil _
    rw [hpushed] at hafter
    exact (accounted_process_iff hbefore).mp hafter
  · intro hall before after service hevents hrun
    refine accounted_of_allDelivered ?_ hrun
    intro before' closing after' service' hbefore
    exact hall before' closing (after' ++ after) service' (by rw [hevents, hbefore, List.append_assoc]; rfl)

/-- A message. -/
def sampleMessage : HyperLiquidMessage where
  channel := "trades"
  data := .trade ⟨"BTC", .buy, .finite Binary64.one, .finite Binary64.one, 1, "7"⟩

/-- **A closed channel loses messages**: one is pushed after the receiver is gone, and is then
neither sent nor queued nor counted. -/
theorem closed_channel_loses :
    (HyperLiquidWsService.run ∅ [.close, .push sampleMessage, .process none]).map
        (fun service => (service.messageTx.sent, service.messageQueue)) = .ok ([], MessageQueue.new 1000) ∧
      ¬ AlwaysAccounted ∅ [.close, .push sampleMessage, .process none] := by
  have hrun : (HyperLiquidWsService.run ∅ [.close, .push sampleMessage, .process none]) =
      .ok { HyperLiquidWsService.new ∅ with messageTx := { sent := [], closed := true } } := rfl
  refine ⟨by rw [hrun]; rfl, ?_⟩
  intro halways
  have hcount := (halways _ [] _ (List.append_nil _).symm hrun).count
  cases hcount

end Botmev.Hyperliquid
