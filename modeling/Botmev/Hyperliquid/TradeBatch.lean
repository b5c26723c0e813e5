import Botmev.Hyperliquid.MarketData
import Botmev.Hyperliquid.WsService

/-!
# Batches of trades

HyperLiquid sends trades in arrays. The parser makes one message of an array, with its first
trade ("for now, we'll process the first trade in the array"), and the service passes this
message on.

## What is proved

* `drained_of_reached`: between messages the queue is empty, as long as the channel is open.
* `first_delivered`: of a batch, the first trade is delivered.
* `batch_delivered_iff`: a batch is delivered just when that is all of it.
* `second_trade_lost`: of two trades, one is delivered.
-/

namespace Botmev.Hyperliquid

open Botmev.Rust Botmev.Library TradeMessageParser

/-- A trade as it is passed on. -/
def TradeData.message (trade : TradeData) : HyperLiquidMessage where
  channel := "trades"
  data := .trade trade

/-- A value is a valid trade. -/
def ValidTrade (value : Value) (trade : TradeData) : Prop :=
  parseTrade value = .ok trade ∧ validateMessage trade.message = .ok ()

/-- A text is a "trades" message with an array of just these trades, all of them valid. -/
def TradesMessage (fromStr : String → Except String Value) (text : String) (trades : List TradeData) : Prop :=
  ∃ value items, fromStr text = .ok value ∧ value.getStr "channel" = some "trades" ∧
    value.get "data" = some (.array items) ∧ List.Forall₂ ValidTrade items trades

/-- The states a service can be in between two messages. -/
inductive Reached (fromStr : String → Except String Value) : HyperLiquidWsService → Prop where
  /-- It has been made. -/
  | new (subscriptionStates : Table String SubscriptionState) : Reached fromStr (.new subscriptionStates)
  /-- A message is handled; the receiver may be closed meanwhile. -/
  | message {service service' : HyperLiquidWsService} {closing : Option ℕ} {message : Message} :
      Reached fromStr service → service.handleMessage fromStr closing message = .ok service' →
        Reached fromStr service'
  /-- The receiver is closed. -/
  | close {service : HyperLiquidWsService} : Reached fromStr service → Reached fromStr service.closeReceiver

/-- **The batch is delivered**: handling the message sends all the trades, in order, and no other. -/
def DeliversBatch (fromStr : String → Except String Value) (service : HyperLiquidWsService) (text : String)
    (trades : List TradeData) : Prop :=
  ∃ service', service.handleMessage fromStr none (.text text) = .ok service' ∧
    service'.messageTx.sent = service.messageTx.sent ++ trades.map TradeData.message

variable {fromStr : String → Except String Value} {service service' : HyperLiquidWsService} {text : String}
  {trades : List TradeData}

/-! ### Between messages -/

theorem pushMessage_of_queue_nil (message : HyperLiquidMessage) (hqueue : service.messageQueue.queue = [])
    (hmax : service.messageQueue.maxSize = 1000) :
    service.pushMessage message =
      .ok { service with messageQueue := { service.messageQueue with queue := [message] } } := by
  have hroom : ¬ service.messageQueue.maxSize ≤ service.messageQueue.queue.length := by
    rw [hqueue, hmax]
    decide
  rw [HyperLiquidWsService.pushMessage, MessageQueue.push, if_neg hroom, hqueue]
  rfl

/-- The queue has its bound, and is empty unless the channel is closed. -/
structure Drained (service : HyperLiquidWsService) : Prop where
  /-- The bound. -/
  maxSize : service.messageQueue.maxSize = 1000
  /-- It is empty. -/
  queue : service.messageTx.closed = false → service.messageQueue.queue = []

/-- A drain that leaves the channel open leaves nothing in the queue. -/
theorem drained_processMessageQueue {closing : Option ℕ} (hmax : service.messageQueue.maxSize = 1000) :
    Drained (service.processMessageQueue closing) := by
  refine ⟨hmax, fun hopen => ?_⟩
  by_cases hstays : StaysOpen closing service.messageTx service.messageQueue.queue.length
  · exact (drain_of_open service.totalMessagesProcessed hstays).1
  · obtain ⟨_, _, _, -, -, hsent⟩ := drain_of_closing service.totalMessagesProcessed hstays
    have hclosed : (service.processMessageQueue closing).messageTx.closed = true := by
      simp only [HyperLiquidWsService.processMessageQueue, hsent]
    rw [hclosed] at hopen
    cases hopen

theorem drained_dispatch {closing : Option ℕ} {message : HyperLiquidMessage} (h : Drained service)
    (hdispatch : service.dispatch closing message = .ok service') : Drained service' := by
  have hpush : (do pure ((← service.pushMessage message).processMessageQueue closing) :
      Result HyperLiquidWsService) =
      .ok service' → Drained service' := by
    intro h'
    obtain ⟨pushed, hpushed, h'⟩ := bind_eq_ok_iff.mp h'
    cases h'
    obtain ⟨messageQueue, hqueue, hpushed⟩ := bind_eq_ok_iff.mp hpushed
    cases hpushed
    exact drained_processMessageQueue ((push_eq_ok_iff.mp hqueue).1.trans h.maxSize)
  unfold HyperLiquidWsService.dispatch at hdispatch
  split at hdispatch
  next response _ =>
    cases hdispatch
    unfold HyperLiquidWsService.handleSubscriptionResponse
    split
    · split
      · exact ⟨h.maxSize, h.queue⟩
      · exact h
    · exact h
  next =>
    cases hdispatch
    exact h
  next => exact hpush hdispatch
  next => exact hpush hdispatch

/-- **Between messages the queue is empty** as long as the channel is open. -/
theorem drained_of_reached (h : Reached fromStr service) : Drained service := by
  induction h with
  | new => exact ⟨rfl, fun _ => rfl⟩
  | close _ ih => exact ⟨ih.maxSize, by simp [HyperLiquidWsService.closeReceiver]⟩
  | @message service service' closing message _ hmessage ih =>
    cases message with
    | text text =>
      simp only [HyperLiquidWsService.handleMessage] at hmessage
      split at hmessage
      · have hreceived : Drained { service with totalMessagesReceived := service.totalMessagesReceived + 1 } :=
          ⟨ih.maxSize, ih.queue⟩
        exact drained_dispatch hreceived hmessage
      · cases hmessage
        exact ⟨ih.maxSize, ih.queue⟩
    | close => cases hmessage
    | binary | ping | pong | frame =>
      cases hmessage
      exact ih

/-! ### A batch -/

theorem parseMessage_tradesMessage {first : TradeData} {rest : List TradeData}
    (h : TradesMessage fromStr text (first :: rest)) : parseMessage fromStr text = .ok first.message := by
  obtain ⟨value, items, hvalue, hchannel, hdata, htrades⟩ := h
  cases htrades with
  | @cons item _ items _ hvalid _ =>
    exact parseMessage_eq_ok_iff.mpr ⟨_, channelAndData_eq_ok_iff.mpr ⟨value, hvalue, hchannel, hdata⟩,
      .inl ⟨.trades rfl hvalid.1, hvalid.2⟩⟩

theorem dispatch_trade (trade : TradeData) (h : Drained service) (hopen : service.messageTx.closed = false) :
    ∃ service', service.dispatch none trade.message = .ok service' ∧
      service'.messageTx.sent = service.messageTx.sent ++ [trade.message] := by
  have hpush := pushMessage_of_queue_nil trade.message (h.queue hopen) h.maxSize
  have hstays : StaysOpen none service.messageTx [trade.message].length := .inr ⟨hopen, by simp⟩
  refine ⟨_, bind_eq_ok_iff.mpr ⟨_, hpush, rfl⟩, ?_⟩
  simp only [HyperLiquidWsService.processMessageQueue,
    (drain_of_open service.totalMessagesProcessed hstays).2]

/-- **The first trade is delivered**, and no other. -/
theorem first_delivered {first : TradeData} {rest : List TradeData} (hreached : Reached fromStr service)
    (hopen : service.messageTx.closed = false) (h : TradesMessage fromStr text (first :: rest)) :
    ∃ service', service.handleMessage fromStr none (.text text) = .ok service' ∧
      service'.messageTx.sent = service.messageTx.sent ++ [first.message] := by
  have hreceived : Drained { service with totalMessagesReceived := service.totalMessagesReceived + 1 } :=
    ⟨(drained_of_reached hreached).maxSize, (drained_of_reached hreached).queue⟩
  obtain ⟨service', hdispatch, hsent⟩ := dispatch_trade first hreceived hopen
  refine ⟨service', ?_, hsent⟩
  rw [HyperLiquidWsService.handleMessage, parseMessage_tradesMessage h]
  exact hdispatch

/-- **When a batch is delivered**: when it is of one trade. -/
theorem batch_delivered_iff (hreached : Reached fromStr service) (hopen : service.messageTx.closed = false)
    (h : TradesMessage fromStr text trades) (hsome : 1 ≤ trades.length) :
    DeliversBatch fromStr service text trades ↔ trades.length = 1 := by
  obtain ⟨first, rest, rfl⟩ := List.exists_cons_of_length_pos hsome
  obtain ⟨service', hhandled, hsent⟩ := first_delivered hreached hopen h
  constructor
  · rintro ⟨service'', hhandled', hsent'⟩
    obtain rfl : service' = service'' := Except.ok.inj (hhandled.symm.trans hhandled')
    have hlength := congrArg List.length (hsent.symm.trans hsent')
    simp only [List.length_append, List.length_map, List.length_cons, List.length_nil] at hlength ⊢
    omega
  · intro hone
    obtain rfl : rest = [] := List.eq_nil_of_length_eq_zero (by simpa using hone)
    exact ⟨service', hhandled, hsent⟩

/-- A trade at "50000", as it is read. -/
def tradeAtFiftyThousand : TradeData :=
  ⟨"BTC", .buy, .finite (50000 * Binary64.one), .finite Binary64.one, 1, "7"⟩

theorem validTrade_tradeAt : ValidTrade (tradeAt "50000") tradeAtFiftyThousand :=
  ⟨by decide +kernel, by decide +kernel⟩

theorem tradesMessage_tradesAt (n : ℕ) : TradesMessage (readTradesAt (List.replicate n "50000"))
    (tradesAtText (List.replicate n "50000")) (List.replicate n tradeAtFiftyThousand) := by
  refine ⟨tradesAt (List.replicate n "50000"), _, if_pos rfl, rfl, rfl, ?_⟩
  rw [List.map_replicate]
  induction n with
  | zero => exact .nil
  | succ n ih => exact .cons validTrade_tradeAt ih

/-- A batch of one is delivered. -/
theorem single_trade_delivered : DeliversBatch (readTradesAt ["50000"]) (.new ∅) (tradesAtText ["50000"])
    [tradeAtFiftyThousand] :=
  (batch_delivered_iff (.new ∅) rfl (tradesMessage_tradesAt 1) le_rfl).mpr rfl

/-- **The second trade is lost**: of a batch of two, the first is delivered. -/
theorem second_trade_lost :
    TradesMessage (readTradesAt ["50000", "50000"]) (tradesAtText ["50000", "50000"])
        [tradeAtFiftyThousand, tradeAtFiftyThousand] ∧
      (∃ service', (HyperLiquidWsService.new ∅).handleMessage (readTradesAt ["50000", "50000"]) none
          (.text (tradesAtText ["50000", "50000"])) = .ok service' ∧
        service'.messageTx.sent = [tradeAtFiftyThousand.message]) ∧
      ¬ DeliversBatch (readTradesAt ["50000", "50000"]) (.new ∅) (tradesAtText ["50000", "50000"])
        [tradeAtFiftyThousand, tradeAtFiftyThousand] := by
  have hmessage := tradesMessage_tradesAt 2
  obtain ⟨service', hhandled, hsent⟩ := first_delivered (.new ∅) rfl hmessage
  refine ⟨hmessage, ⟨service', hhandled, hsent⟩, ?_⟩
  rintro ⟨service'', hhandled', hsent'⟩
  obtain rfl : service' = service'' := Except.ok.inj (hhandled.symm.trans hhandled')
  cases hsent.symm.trans hsent'

end Botmev.Hyperliquid
