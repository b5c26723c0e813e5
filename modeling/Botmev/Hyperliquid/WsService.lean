import Botmev.Hyperliquid.Parser
import Botmev.Hyperliquid.Reconnection
import Botmev.Library.Table

/-!
# Messages of the feed

`HyperLiquidWsService` (`mev-hyperliquid/src/websocket.rs`) parses each text of the feed and
puts trades and order books into a queue of at most 1000 messages, the oldest of which goes
when there is no room. After each it drains the queue into an unbounded channel: a message is
taken from the queue, then sent, and where the channel is closed by then, the loop ends.

The metrics and the log are left out.

## What is proved

* `drain_of_open`, `drain_of_closing`: what a drain sends, leaves and loses.
* `drain_processed`: what is sent is counted.
* `push_eq_ok_iff`: what a full queue does.
-/

namespace Botmev.Hyperliquid

open Botmev.Rust Botmev.Library TradeMessageParser

/-- "Trading pair configuration". -/
structure TradingPair where
  /-- "Coin symbol". -/
  coin : String
  /-- "Subscribe to trade feed for this pair". -/
  subscribeTrades : Bool
  /-- "Subscribe to order book updates for this pair". -/
  subscribeOrderbook : Bool
  deriving DecidableEq, Repr

/-- "Subscription state for a single trading pair". -/
structure SubscriptionState where
  /-- "Trading pair configuration". -/
  pair : TradingPair
  /-- "Number of subscription attempts for trades". -/
  tradesAttempts : BitVec 32
  /-- "Number of subscription attempts for order book". -/
  orderbookAttempts : BitVec 32
  /-- "Whether trades subscription is confirmed". -/
  tradesConfirmed : Bool
  /-- "Whether order book subscription is confirmed". -/
  orderbookConfirmed : Bool
  /-- "Timestamp of last subscription attempt". -/
  lastAttempt : Option Instant
  deriving DecidableEq, Repr

/-- `record_confirmation`. -/
def SubscriptionState.recordConfirmation (state : SubscriptionState) (subscriptionType : String) :
    SubscriptionState :=
  match subscriptionType with
  | "trades" => { state with tradesConfirmed := true }
  | "l2Book" => { state with orderbookConfirmed := true }
  | _ => state

/-- "Message queue for backpressure handling". -/
structure MessageQueue where
  /-- "Queue of pending messages". -/
  queue : List HyperLiquidMessage
  /-- "Maximum queue size before dropping oldest messages". -/
  maxSize : ℕ
  /-- "Counter for dropped messages". -/
  droppedCount : U64
  deriving DecidableEq, Repr

namespace MessageQueue

/-- `MessageQueue::new(max_size)`. -/
def new (maxSize : ℕ) : MessageQueue where
  queue := []
  maxSize := maxSize
  droppedCount := 0

/-- `push`: "dropping oldest if full". -/
def push (queue : MessageQueue) (message : HyperLiquidMessage) : Result MessageQueue :=
  if queue.maxSize ≤ queue.queue.length then do
    let droppedCount ← Uint.add queue.droppedCount 1
    pure { queue with queue := queue.queue.tail ++ [message], droppedCount }
  else pure { queue with queue := queue.queue ++ [message] }

end MessageQueue

/-- The sending end of an unbounded channel: what it has accepted, until the receiver is gone. -/
structure UnboundedSender where
  /-- What is sent, in order. -/
  sent : List HyperLiquidMessage
  /-- Whether the receiver is closed. -/
  closed : Bool
  deriving DecidableEq, Repr

/-- `send`: an error once the receiver is closed. -/
def UnboundedSender.send (tx : UnboundedSender) (message : HyperLiquidMessage) : Option UnboundedSender :=
  if tx.closed then none else some { tx with sent := tx.sent ++ [message] }

/-- "WebSocket service for HyperLiquid API": what its messages go through. -/
structure HyperLiquidWsService where
  /-- "Channel sender for parsed messages". -/
  messageTx : UnboundedSender
  /-- "Subscription state tracking". -/
  subscriptionStates : Table String SubscriptionState
  /-- "Message queue for backpressure handling". -/
  messageQueue : MessageQueue
  /-- "Total messages received counter". -/
  totalMessagesReceived : U64
  /-- "Total messages processed counter". -/
  totalMessagesProcessed : U64
  /-- "Total parse errors counter". -/
  totalParseErrors : U64

/-- What comes over the connection. -/
inductive Message where
  /-- `Message::Text`. -/
  | text (text : String)
  /-- `Message::Binary`. -/
  | binary
  /-- `Message::Ping`. -/
  | ping
  /-- `Message::Pong`. -/
  | pong
  /-- `Message::Close`. -/
  | close
  /-- `Message::Frame`. -/
  | frame

/-- The loop of `process_message_queue`: the queue, the channel and the counter after it. The
receiver may be closed after so many messages of this loop. -/
def drain : Option ℕ → List HyperLiquidMessage → UnboundedSender → U64 →
    List HyperLiquidMessage × UnboundedSender × U64
  | _, [], tx, processed => ([], tx, processed)
  | closing, message :: queue, tx, processed =>
    let tx := if closing = some 0 then { tx with closed := true } else tx
    match tx.send message with
    | some tx => drain (closing.map (· - 1)) queue tx (processed + 1)
    -- The message has been taken from the queue already, and goes nowhere.
    | none => (queue, tx, processed)

namespace HyperLiquidWsService

/-- `HyperLiquidWsService::new`, with what it takes from the configuration. -/
def new (subscriptionStates : Table String SubscriptionState) : HyperLiquidWsService where
  messageTx := { sent := [], closed := false }
  subscriptionStates := subscriptionStates
  messageQueue := MessageQueue.new 1000
  totalMessagesReceived := 0
  totalMessagesProcessed := 0
  totalParseErrors := 0

variable (service : HyperLiquidWsService)

/-- The message is pushed to the queue. -/
def pushMessage (message : HyperLiquidMessage) : Result HyperLiquidWsService := do
  let messageQueue ← service.messageQueue.push message
  pure { service with messageQueue }

/-- `process_message_queue`. -/
def processMessageQueue (closing : Option ℕ) : HyperLiquidWsService :=
  let (queue, messageTx, totalMessagesProcessed) :=
    drain closing service.messageQueue.queue service.messageTx service.totalMessagesProcessed
  { service with messageQueue := { service.messageQueue with queue }, messageTx, totalMessagesProcessed }

/-- The receiver is closed. -/
def closeReceiver : HyperLiquidWsService :=
  { service with messageTx := { service.messageTx with closed := true } }

/-- `handle_subscription_response`. -/
def handleSubscriptionResponse (response : SubscriptionResponse) : HyperLiquidWsService :=
  match service.subscriptionStates.lookup response.coin with
  | some state =>
    if response.success then
      { service with
        subscriptionStates :=
          service.subscriptionStates.insert response.coin (state.recordConfirmation response.subscriptionType) }
    else service
  | none => service

/-- "Handle different message types". -/
def dispatch (closing : Option ℕ) (parsedMessage : HyperLiquidMessage) : Result HyperLiquidWsService :=
  match parsedMessage.data with
  | .subscriptionResponse response => pure (service.handleSubscriptionResponse response)
  | .error _ => pure service
  | .trade _ | .orderBook _ => do pure ((← service.pushMessage parsedMessage).processMessageQueue closing)

variable (fromStr : String → Except String Value)

/-- `handle_message`. -/
def handleMessage (closing : Option ℕ) : Message → Result HyperLiquidWsService
  | .text text =>
    let service := { service with totalMessagesReceived := service.totalMessagesReceived + 1 }
    match parseMessage fromStr text with
    | .ok parsedMessage => service.dispatch closing parsedMessage
    | .error _ => pure { service with totalParseErrors := service.totalParseErrors + 1 }
  | .close => .error (.err "Connection closed by server")
  | .binary | .ping | .pong | .frame => pure service

end HyperLiquidWsService

variable {closing : Option ℕ} {queue : List HyperLiquidMessage} {tx : UnboundedSender} {processed : U64}

/-! ### A drain -/

/-- The channel stays open for so many messages. -/
def StaysOpen (closing : Option ℕ) (tx : UnboundedSender) (n : ℕ) : Prop :=
  n = 0 ∨ tx.closed = false ∧ ∀ k, closing = some k → n ≤ k

variable (processed) in
theorem drain_of_open (h : StaysOpen closing tx queue.length) :
    (drain closing queue tx processed).1 = [] ∧
      (drain closing queue tx processed).2.1 = { tx with sent := tx.sent ++ queue } := by
  induction queue generalizing closing tx processed with
  | nil => simp [drain]
  | cons message queue ih =>
    obtain ⟨hopen, hclosing⟩ := h.resolve_left (by simp)
    have hnow : closing ≠ some 0 := fun hzero => absurd (hclosing 0 hzero) (by simp)
    have hsend : tx.send message = some { tx with sent := tx.sent ++ [message] } := by
      simp [UnboundedSender.send, hopen]
    have hrest : StaysOpen (closing.map (· - 1)) { tx with sent := tx.sent ++ [message] } queue.length := by
      refine .inr ⟨hopen, ?_⟩
      intro k hk
      obtain ⟨j, hj, rfl⟩ := Option.map_eq_some_iff.mp hk
      have := hclosing j hj
      rw [List.length_cons] at this
      exact Nat.le_sub_one_of_lt this
    simp only [drain, if_neg hnow, hsend]
    obtain ⟨hqueue, hsent⟩ := ih (processed + 1) hrest
    rw [hqueue, hsent, List.append_assoc]
    exact ⟨rfl, rfl⟩

variable (processed) in
theorem drain_of_closing (h : ¬ StaysOpen closing tx queue.length) :
    ∃ before lost after, queue = before ++ lost :: after ∧
      (drain closing queue tx processed).1 = after ∧
      (drain closing queue tx processed).2.1 = { sent := tx.sent ++ before, closed := true } := by
  induction queue generalizing closing tx processed with
  | nil => exact absurd (.inl rfl) h
  | cons message queue ih =>
    by_cases hclosed : closing = some 0 ∨ tx.closed = true
    · have hsend : (if closing = some 0 then { tx with closed := true } else tx) =
          { tx with closed := true } := by
        split
        · rfl
        · rw [← hclosed.resolve_left ‹_›]
      refine ⟨[], message, queue, rfl, ?_⟩
      simp only [drain, hsend, UnboundedSender.send, if_true, List.append_nil, and_self]
    · obtain ⟨hnow, hopen⟩ := not_or.mp hclosed
      have hsend : tx.send message = some { tx with sent := tx.sent ++ [message] } := by
        simp [UnboundedSender.send, hopen]
      have hrest : ¬ StaysOpen (closing.map (· - 1)) { tx with sent := tx.sent ++ [message] } queue.length := by
        intro hstays
        refine h (.inr ⟨by simpa using hopen, ?_⟩)
        intro k hk
        subst hk
        have hk : k ≠ 0 := fun hzero => hnow (by rw [hzero])
        rcases hstays with hnil | ⟨-, hlater⟩
        · rw [List.length_cons, hnil]
          exact Nat.one_le_iff_ne_zero.mpr hk
        · have hle : queue.length ≤ k - 1 := hlater _ rfl
          rw [List.length_cons]
          omega
      obtain ⟨before, lost, after, rfl, hqueue, hsent⟩ := ih (processed + 1) hrest
      refine ⟨message :: before, lost, after, rfl, ?_⟩
      simp only [drain, if_neg hnow, hsend]
      rw [hqueue, hsent, List.append_assoc]
      exact ⟨rfl, rfl⟩

theorem sent_of_send {tx' : UnboundedSender} {message : HyperLiquidMessage} (h : tx.send message = some tx') :
    tx'.sent = tx.sent ++ [message] := by
  simp only [UnboundedSender.send, Option.ite_none_left_eq_some] at h
  obtain ⟨-, h⟩ := h
  cases h
  rfl

theorem drain_processed (h : processed = BitVec.ofNat 64 tx.sent.length) :
    (drain closing queue tx processed).2.2 =
      BitVec.ofNat 64 (drain closing queue tx processed).2.1.sent.length := by
  induction queue generalizing closing tx processed with
  | nil => exact h
  | cons message queue ih =>
    simp only [drain]
    split
    next tx' hsend =>
      refine ih ?_
      have hsame : (if closing = some 0 then { tx with closed := true } else tx).sent = tx.sent := by
        split <;> rfl
      rw [sent_of_send hsend, hsame, List.length_append, List.length_singleton, h, BitVec.ofNat_add]
      rfl
    next =>
      rw [h]
      split <;> rfl

/-! ### The queue -/

theorem push_eq_ok_iff {messages messages' : MessageQueue} {message : HyperLiquidMessage} :
    messages.push message = .ok messages' ↔
      messages'.maxSize = messages.maxSize ∧
        if messages.maxSize ≤ messages.queue.length then
          messages'.queue = messages.queue.tail ++ [message] ∧
            messages'.droppedCount.toNat = messages.droppedCount.toNat + 1
        else messages'.queue = messages.queue ++ [message] ∧
          messages'.droppedCount = messages.droppedCount := by
  obtain ⟨queue, maxSize, droppedCount⟩ := messages
  obtain ⟨queue', maxSize', droppedCount'⟩ := messages'
  simp only [MessageQueue.push]
  split
  · simp only [bind_eq_ok_iff, Uint.add_eq_ok_iff]
    constructor
    · rintro ⟨count, hcount, h⟩
      cases h
      exact ⟨rfl, rfl, hcount⟩
    · rintro ⟨rfl, rfl, hcount⟩
      exact ⟨droppedCount', hcount, rfl⟩
  · constructor
    · intro h
      cases h
      exact ⟨rfl, rfl, rfl⟩
    · rintro ⟨rfl, rfl, rfl⟩
      rfl

end Botmev.Hyperliquid
