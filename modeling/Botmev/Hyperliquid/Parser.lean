import Botmev.Hyperliquid.Types
import Botmev.Rust.Float
import Botmev.Rust.Json
import Mathlib.Data.List.Forall2

/-!
# The parser of the feed

`TradeMessageParser` (`mev-hyperliquid/src/parser.rs`) turns a text of the feed into a
`HyperLiquidMessage`: it reads the JSON, takes the fields by the channel's name and validates
what it has read. Prices and sizes are numbers, or strings that are read as doubles. Of a
batch of trades it takes the first. Reading the JSON text is left to `serde_json`, which is
a parameter.

## What is proved

* `parseTrade_eq_ok_iff`, `parseOrderbookLevel_eq_ok_iff`, `parseOrderbook_eq_ok_iff`: which
  values are a trade, a level, an order book.
* `validateMessage_trade_iff`, `validateMessage_orderBook_iff`: what the validation asks for.
* `parseMessage_eq_ok_iff`: which texts are accepted, and as what.
-/

namespace Botmev.Hyperliquid

open Botmev.Rust Botmev.Library

/-- `ParseError`. -/
inductive ParseError where
  /-- "Invalid JSON". -/
  | invalidJson (error : String)
  /-- "Missing required field". -/
  | missingField (field : String)
  /-- "Invalid field value". -/
  | invalidValue (message : String)
  /-- "Unknown message type". -/
  | unknownMessageType (channel : String)
  /-- "Validation failed", with the values that are written into the message. -/
  | validationFailed (message : String) (values : List Binary64)
  deriving DecidableEq, Repr

/-- `option.ok_or_else(|| error)`. -/
def ParseError.okOrElse {α : Type} (error : ParseError) : Option α → Except ParseError α
  | some a => .ok a
  | none => .error error

/-- `if condition { return Err(error); }`. -/
def ParseError.returnIf (error : ParseError) (condition : Bool) : Except ParseError Unit :=
  if condition then .error error else .ok ()

namespace ParseError

variable {α β : Type} {error : ParseError}

@[simp] theorem okOrElse_eq_ok_iff {o : Option α} {a : α} : error.okOrElse o = .ok a ↔ o = some a := by
  cases o <;> simp [okOrElse]

@[simp] theorem returnIf_eq_ok_iff {condition : Bool} {u : Unit} :
    error.returnIf condition = .ok u ↔ condition = false := by
  cases condition <;> simp [returnIf]

@[simp] theorem map_eq_ok_iff {r : Except ParseError α} {f : α → β} {b : β} :
    f <$> r = .ok b ↔ ∃ a, r = .ok a ∧ f a = b := by
  rcases r with e | a
  · simp [Functor.map, Except.map]
  · simp [Functor.map, Except.map]

theorem mapM_eq_ok_iff {f : α → Except ParseError β} {as : List α} {bs : List β} :
    as.mapM f = .ok bs ↔ List.Forall₂ (fun a b => f a = .ok b) as bs := by
  induction as generalizing bs with
  | nil => simp [pure, Except.pure, eq_comm]
  | cons a as ih =>
    simp only [List.mapM_cons, bind_eq_ok_iff, List.forall₂_cons_left_iff]
    constructor
    · rintro ⟨b, hb, bs', hbs', h⟩
      cases h
      exact ⟨b, bs', hb, ih.mp hbs', rfl⟩
    · rintro ⟨b, bs', hb, hbs', rfl⟩
      exact ⟨b, hb, bs', ih.mpr hbs', rfl⟩

theorem forM_eq_ok_iff {f : α → Except ParseError Unit} {as : List α} {u : Unit} :
    as.forM f = .ok u ↔ ∀ a ∈ as, f a = .ok () := by
  induction as with
  | nil => simp [List.forM, pure, Except.pure]
  | cons a as ih =>
    have hcons : (a :: as).forM f = (f a >>= fun _ => as.forM f) := rfl
    rw [hcons, bind_eq_ok_iff, List.forall_mem_cons, ← ih]
    exact ⟨fun ⟨_, ha, has⟩ => ⟨ha, has⟩, fun ⟨ha, has⟩ => ⟨(), ha, has⟩⟩

end ParseError

namespace TradeMessageParser

/-- `value_to_f64`. -/
def valueToF64 : Value → Option Binary64
  | .number n => some n.asF64
  | .string s => parseF64 s
  | _ => none

/-- `parse_f64`. -/
def parseF64Field (data : Value) (field : String) : Except ParseError Binary64 :=
  (ParseError.missingField field).okOrElse ((data.get field).bind valueToF64)

/-- The identifier of a trade: a string, or a whole number. -/
def tradeIdOf (value : Value) : String :=
  match value.asStr, value.asU64, value.asI64 with
  | some s, _, _ => s
  | none, some n, _ => toString n.toNat
  | none, none, some n => toString n
  | none, none, none => "unknown"

/-- `parse_trade`. -/
def parseTrade (data : Value) : Except ParseError TradeData := do
  let coin ← (ParseError.missingField "coin").okOrElse (data.getStr "coin")
  let sideStr ← (ParseError.missingField "side").okOrElse (data.getStr "side")
  let side ← (ParseError.invalidValue s!"Invalid trade side: {sideStr}").okOrElse
    (TradeSide.fromHyperliquid sideStr)
  let price ← parseF64Field data "px"
  let size ← parseF64Field data "sz"
  let timestamp ← (ParseError.missingField "time").okOrElse ((data.get "time").bind Value.asU64)
  let tradeId ← (ParseError.missingField "tid").okOrElse ((data.get "tid").map tradeIdOf)
  pure { coin, side, price, size, timestamp, tradeId }

/-- The price of a level: under "px", or the first item. -/
def levelPrice (level : Value) : Option Binary64 := ((level.get "px").or (level.getIdx 0)).bind valueToF64

/-- The size of a level: under "sz", or the second item. -/
def levelSize (level : Value) : Option Binary64 := ((level.get "sz").or (level.getIdx 1)).bind valueToF64

/-- One level of `parse_orderbook_levels`. -/
def parseOrderbookLevel (level : Value) : Except ParseError OrderBookLevel := do
  let price ← (ParseError.missingField "price in level").okOrElse (levelPrice level)
  let size ← (ParseError.missingField "size in level").okOrElse (levelSize level)
  pure { price, size }

/-- `parse_orderbook_levels`. -/
def parseOrderbookLevels (levels : List Value) : Except ParseError (List OrderBookLevel) :=
  levels.mapM parseOrderbookLevel

/-- `parse_orderbook`. -/
def parseOrderbook (data : Value) : Except ParseError OrderBookData := do
  let coin ← (ParseError.missingField "coin").okOrElse (data.getStr "coin")
  let bidsArray ← (ParseError.missingField "bids").okOrElse ((data.get "bids").bind Value.asArray)
  let asksArray ← (ParseError.missingField "asks").okOrElse ((data.get "asks").bind Value.asArray)
  let bids ← parseOrderbookLevels bidsArray
  let asks ← parseOrderbookLevels asksArray
  let timestamp ← (ParseError.missingField "time").okOrElse ((data.get "time").bind Value.asU64)
  pure { coin, bids, asks, timestamp }

/-- `parse_subscription_response`. -/
def parseSubscriptionResponse (data : Value) : Except ParseError SubscriptionResponse := do
  let subscriptionType ← (ParseError.missingField "type").okOrElse (data.getStr "type")
  let coin ← (ParseError.missingField "coin").okOrElse (data.getStr "coin")
  let success := ((data.get "success").bind Value.asBool).getD true
  pure { subscriptionType, coin, success, error := data.getStr "error" }

/-- `parse_error`. -/
def parseError (data : Value) : Except ParseError ErrorData := do
  let code := ((data.get "code").bind Value.asI64).map (BitVec.ofInt 32)
  let message ← (ParseError.missingField "message").okOrElse (data.getStr "message")
  pure { code, message }

/-- What is wrong with a level. -/
def invalidLevel (side : String) (level : OrderBookLevel) : Except ParseError Unit :=
  (ParseError.validationFailed s!"Invalid {side} level: price=\x7b\x7d, size=\x7b\x7d"
      [level.price, level.size]).returnIf
    (level.price.le (.finite 0) || level.size.le (.finite 0))

/-- `validate_message`. -/
def validateMessage (msg : HyperLiquidMessage) : Except ParseError Unit :=
  match msg.data with
  | .trade trade => do
    (ParseError.validationFailed "Empty coin symbol" []).returnIf (trade.coin = "")
    (ParseError.validationFailed "Invalid price: \x7b\x7d" [trade.price]).returnIf (trade.price.le (.finite 0))
    (ParseError.validationFailed "Invalid size: \x7b\x7d" [trade.size]).returnIf (trade.size.le (.finite 0))
    (ParseError.validationFailed "Invalid timestamp: 0" []).returnIf (trade.timestamp = 0)
    (ParseError.validationFailed "Empty trade ID" []).returnIf (trade.tradeId = "")
  | .orderBook orderbook => do
    (ParseError.validationFailed "Empty coin symbol" []).returnIf (orderbook.coin = "")
    (ParseError.validationFailed "Invalid timestamp: 0" []).returnIf (orderbook.timestamp = 0)
    orderbook.bids.forM (invalidLevel "bid")
    orderbook.asks.forM (invalidLevel "ask")
  | .subscriptionResponse response => do
    (ParseError.validationFailed "Empty subscription type" []).returnIf (response.subscriptionType = "")
    (ParseError.validationFailed "Empty coin symbol" []).returnIf (response.coin = "")
  | .error error => (ParseError.validationFailed "Empty error message" []).returnIf (error.message = "")

/-- The "trades" channel: the first trade of the array, or the one object. -/
def parseTrades (dataValue : Value) : Except ParseError MessageData :=
  match dataValue.asArray with
  | some (firstTrade :: _) => .trade <$> parseTrade firstTrade
  | some [] => .error (.missingField "empty trades array")
  | none => .trade <$> parseTrade dataValue

/-- The "subscriptionResponse" channel. -/
def parseSubscription (dataValue : Value) : Except ParseError MessageData :=
  if dataValue.getStr "method" = some "subscribe" then
    match dataValue.get "subscription" with
    | some subscription =>
      pure (.subscriptionResponse
        { subscriptionType := (subscription.getStr "type").getD "unknown"
          coin := (subscription.getStr "coin").getD "unknown"
          success := true
          error := none })
    | none => .error (.missingField "subscription")
  else .subscriptionResponse <$> parseSubscriptionResponse dataValue

/-- A message that is validated before it is returned. -/
def validated (channel : String) (data : MessageData) : Except ParseError HyperLiquidMessage := do
  validateMessage { channel, data }
  pure { channel, data }

variable (fromStr : String → Except String Value)

/-- `serde_json::from_str(raw)`, the channel and the data. -/
def channelAndData (raw : String) : Except ParseError (String × Value) := do
  let value ← (fromStr raw).mapError ParseError.invalidJson
  let channel ← (ParseError.missingField "channel").okOrElse (value.getStr "channel")
  let dataValue ← (ParseError.missingField "data").okOrElse (value.get "data")
  pure (channel, dataValue)

/-- `parse_message`. -/
def parseMessage (raw : String) : Except ParseError HyperLiquidMessage := do
  let (channel, dataValue) ← channelAndData fromStr raw
  match channel with
  | "trades" => validated channel (← parseTrades dataValue)
  | "l2Book" => validated channel (.orderBook (← parseOrderbook dataValue))
  | "subscriptionResponse" => validated channel (← parseSubscription dataValue)
  | "error" =>
    match dataValue.asStr with
    | some message => validated channel (.error { code := none, message })
    -- An error object is returned as it is read, without validating it.
    | none => do pure { channel, data := .error (← parseError dataValue) }
  | _ => .error (.unknownMessageType channel)

variable {data level : Value} {fromStr : String → Except String Value} {raw channel : String}

/-! ### What is read -/

theorem parseTrade_eq_ok_iff {trade : TradeData} :
    parseTrade data = .ok trade ↔
      data.getStr "coin" = some trade.coin ∧
        (data.getStr "side").bind TradeSide.fromHyperliquid = some trade.side ∧
        (data.get "px").bind valueToF64 = some trade.price ∧
        (data.get "sz").bind valueToF64 = some trade.size ∧
        (data.get "time").bind Value.asU64 = some trade.timestamp ∧
        (data.get "tid").map tradeIdOf = some trade.tradeId := by
  simp only [parseTrade, parseF64Field, bind_eq_ok_iff, ParseError.okOrElse_eq_ok_iff,
    Option.bind_eq_some_iff]
  constructor
  · rintro ⟨coin, hcoin, sideStr, hsideStr, side, hside, price, hprice, size, hsize,
      timestamp, htimestamp, tradeId,
      htradeId, h⟩
    cases h
    exact ⟨hcoin, ⟨sideStr, hsideStr, hside⟩, hprice, hsize, htimestamp, htradeId⟩
  · rintro ⟨hcoin, ⟨sideStr, hsideStr, hside⟩, hprice, hsize, htimestamp, htradeId⟩
    exact ⟨_, hcoin, sideStr, hsideStr, _, hside, _, hprice, _, hsize, _, htimestamp, _, htradeId, rfl⟩

theorem parseOrderbookLevel_eq_ok_iff {orderBookLevel : OrderBookLevel} :
    parseOrderbookLevel level = .ok orderBookLevel ↔
      levelPrice level = some orderBookLevel.price ∧ levelSize level = some orderBookLevel.size := by
  simp only [parseOrderbookLevel, bind_eq_ok_iff, ParseError.okOrElse_eq_ok_iff]
  constructor
  · rintro ⟨price, hprice, size, hsize, h⟩
    cases h
    exact ⟨hprice, hsize⟩
  · rintro ⟨hprice, hsize⟩
    exact ⟨_, hprice, _, hsize, rfl⟩

theorem parseOrderbook_eq_ok_iff {orderbook : OrderBookData} :
    parseOrderbook data = .ok orderbook ↔
      data.getStr "coin" = some orderbook.coin ∧
        (∃ bids, (data.get "bids").bind Value.asArray = some bids ∧
          List.Forall₂ (fun level bid => parseOrderbookLevel level = .ok bid) bids orderbook.bids) ∧
        (∃ asks, (data.get "asks").bind Value.asArray = some asks ∧
          List.Forall₂ (fun level ask => parseOrderbookLevel level = .ok ask) asks orderbook.asks) ∧
        (data.get "time").bind Value.asU64 = some orderbook.timestamp := by
  simp only [parseOrderbook, parseOrderbookLevels, bind_eq_ok_iff, ParseError.okOrElse_eq_ok_iff,
    ParseError.mapM_eq_ok_iff]
  constructor
  · rintro ⟨coin, hcoin, bidsArray, hbidsArray, asksArray, hasksArray,
      bids, hbids, asks, hasks, timestamp, htimestamp, h⟩
    cases h
    exact ⟨hcoin, ⟨bidsArray, hbidsArray, hbids⟩, ⟨asksArray, hasksArray, hasks⟩, htimestamp⟩
  · rintro ⟨hcoin, ⟨bidsArray, hbidsArray, hbids⟩, ⟨asksArray, hasksArray, hasks⟩, htimestamp⟩
    exact ⟨_, hcoin, bidsArray, hbidsArray, asksArray, hasksArray, _, hbids, _, hasks, _, htimestamp, rfl⟩

/-- The trade that is taken from the data of the "trades" channel. -/
def firstTrade (dataValue : Value) : Option Value :=
  match dataValue.asArray with
  | some trades => trades.head?
  | none => some dataValue

theorem parseTrades_eq_ok_iff {messageData : MessageData} :
    parseTrades data = .ok messageData ↔
      ∃ value trade, firstTrade data = some value ∧ parseTrade value = .ok trade ∧
        messageData = .trade trade := by
  have hmap : ∀ value, MessageData.trade <$> parseTrade value = .ok messageData ↔
      ∃ value' trade, some value = some value' ∧ parseTrade value' = .ok trade ∧
        messageData = .trade trade := by
    intro value
    rw [ParseError.map_eq_ok_iff]
    constructor
    · rintro ⟨trade, htrade, rfl⟩
      exact ⟨value, trade, rfl, htrade, rfl⟩
    · rintro ⟨_, trade, hvalue, htrade, rfl⟩
      cases hvalue
      exact ⟨trade, htrade, rfl⟩
  unfold parseTrades firstTrade
  split
  next value _ h =>
    rw [h]
    exact hmap value
  next h => simp [h]
  next h =>
    rw [h]
    exact hmap data

/-- The data of the "subscriptionResponse" channel is a response. -/
theorem subscriptionResponse_of_parseSubscription {messageData : MessageData}
    (h : parseSubscription data = .ok messageData) :
    ∃ response, messageData = .subscriptionResponse response := by
  unfold parseSubscription at h
  split at h
  · split at h
    · cases h
      exact ⟨_, rfl⟩
    · cases h
  · obtain ⟨response, -, rfl⟩ := ParseError.map_eq_ok_iff.mp h
    exact ⟨response, rfl⟩

theorem parseError_message {error : ErrorData} (h : parseError data = .ok error) :
    data.getStr "message" = some error.message := by
  simp only [parseError, bind_eq_ok_iff, ParseError.okOrElse_eq_ok_iff] at h
  obtain ⟨message, hmessage, h⟩ := h
  cases h
  exact hmessage

theorem exists_parseError {message : String} (h : data.getStr "message" = some message) :
    ∃ error, parseError data = .ok error ∧ error.message = message := by
  refine ⟨{ code := ((data.get "code").bind Value.asI64).map (BitVec.ofInt 32), message }, ?_, rfl⟩
  rw [parseError, h]
  rfl

/-! ### What is validated -/

theorem invalidLevel_eq_ok_iff {side : String} {orderBookLevel : OrderBookLevel} {u : Unit} :
    invalidLevel side orderBookLevel = .ok u ↔
      orderBookLevel.price.le (.finite 0) = false ∧ orderBookLevel.size.le (.finite 0) = false := by
  simp only [invalidLevel, ParseError.returnIf_eq_ok_iff, Bool.or_eq_false_iff]

theorem validateMessage_trade_iff {trade : TradeData} :
    validateMessage { channel, data := .trade trade } = .ok () ↔
      trade.coin ≠ "" ∧ trade.price.le (.finite 0) = false ∧ trade.size.le (.finite 0) = false ∧
        trade.timestamp ≠ 0 ∧ trade.tradeId ≠ "" := by
  simp [validateMessage, bind_eq_ok_iff]

theorem validateMessage_orderBook_iff {orderbook : OrderBookData} :
    validateMessage { channel, data := .orderBook orderbook } = .ok () ↔
      orderbook.coin ≠ "" ∧ orderbook.timestamp ≠ 0 ∧
        ∀ level ∈ orderbook.bids ++ orderbook.asks,
          level.price.le (.finite 0) = false ∧ level.size.le (.finite 0) = false := by
  simp only [validateMessage, bind_eq_ok_iff, ParseError.returnIf_eq_ok_iff,
    ParseError.forM_eq_ok_iff,
    invalidLevel_eq_ok_iff, List.forall_mem_append, exists_const, decide_eq_false_iff_not, ne_eq]

@[simp] theorem validated_eq_ok_iff {messageData : MessageData} {m : HyperLiquidMessage} :
    validated channel messageData = .ok m ↔
      m = { channel, data := messageData } ∧ validateMessage m = .ok () := by
  simp only [validated, bind_eq_ok_iff]
  constructor
  · rintro ⟨_, hvalid, h⟩
    cases h
    exact ⟨rfl, hvalid⟩
  · rintro ⟨rfl, hvalid⟩
    exact ⟨(), hvalid, rfl⟩

/-! ### What is accepted -/

theorem channelAndData_eq_ok_iff {dataValue : Value} :
    channelAndData fromStr raw = .ok (channel, dataValue) ↔
      ∃ value, fromStr raw = .ok value ∧ value.getStr "channel" = some channel ∧
        value.get "data" = some dataValue := by
  have hjson : ∀ value, (fromStr raw).mapError ParseError.invalidJson = .ok value ↔
    fromStr raw = .ok value := by
    intro value
    cases fromStr raw <;> simp [Except.mapError]
  simp only [channelAndData, bind_eq_ok_iff, ParseError.okOrElse_eq_ok_iff, hjson]
  constructor
  · rintro ⟨value, hvalue, _, hchannel, _, hdata, h⟩
    cases h
    exact ⟨value, hvalue, hchannel, hdata⟩
  · rintro ⟨value, hvalue, hchannel, hdata⟩
    exact ⟨value, hvalue, _, hchannel, _, hdata, rfl⟩

/-- What the data of a channel is read as, where that is validated. -/
inductive Reads (dataValue : Value) : String → MessageData → Prop where
  /-- A trade. -/
  | trades {value : Value} {trade : TradeData} : firstTrade dataValue = some value →
      parseTrade value = .ok trade →
      Reads dataValue "trades" (.trade trade)
  /-- An order book. -/
  | l2Book {orderbook : OrderBookData} : parseOrderbook dataValue = .ok orderbook →
      Reads dataValue "l2Book" (.orderBook orderbook)
  /-- A response to a subscription. -/
  | subscriptionResponse {messageData : MessageData} : parseSubscription dataValue = .ok messageData →
      Reads dataValue "subscriptionResponse" messageData
  /-- A text that says what is wrong. -/
  | error {message : String} : dataValue.asStr = some message →
      Reads dataValue "error" (.error { code := none, message })

/-- **Which texts are accepted**: those whose data can be read and is valid, and error objects. -/
theorem parseMessage_eq_ok_iff {m : HyperLiquidMessage} :
    parseMessage fromStr raw = .ok m ↔
      ∃ dataValue, channelAndData fromStr raw = .ok (m.channel, dataValue) ∧
        (Reads dataValue m.channel m.data ∧ validateMessage m = .ok () ∨
          m.channel = "error" ∧ dataValue.asStr = none ∧
            ∃ error, parseError dataValue = .ok error ∧ m.data = .error error) := by
  simp only [parseMessage, bind_eq_ok_iff, Prod.exists]
  constructor
  · rintro ⟨channel, dataValue, hraw, h⟩
    split at h
    next =>
      obtain ⟨messageData, hdata, h⟩ := bind_eq_ok_iff.mp h
      obtain ⟨value, trade, hfirst, htrade, rfl⟩ := parseTrades_eq_ok_iff.mp hdata
      obtain ⟨rfl, hvalid⟩ := validated_eq_ok_iff.mp h
      exact ⟨dataValue, hraw, .inl ⟨.trades hfirst htrade, hvalid⟩⟩
    next =>
      obtain ⟨orderbook, hdata, h⟩ := bind_eq_ok_iff.mp h
      obtain ⟨rfl, hvalid⟩ := validated_eq_ok_iff.mp h
      exact ⟨dataValue, hraw, .inl ⟨.l2Book hdata, hvalid⟩⟩
    next =>
      obtain ⟨messageData, hdata, h⟩ := bind_eq_ok_iff.mp h
      obtain ⟨rfl, hvalid⟩ := validated_eq_ok_iff.mp h
      exact ⟨dataValue, hraw, .inl ⟨.subscriptionResponse hdata, hvalid⟩⟩
    next =>
      split at h
      next message hstr =>
        obtain ⟨rfl, hvalid⟩ := validated_eq_ok_iff.mp h
        exact ⟨dataValue, hraw, .inl ⟨.error hstr, hvalid⟩⟩
      next hstr =>
        obtain ⟨error, herror, h⟩ := bind_eq_ok_iff.mp h
        cases h
        exact ⟨dataValue, hraw, .inr ⟨rfl, hstr, error, herror, rfl⟩⟩
    next => cases h
  · obtain ⟨channel, messageData⟩ := m
    rintro ⟨dataValue, hraw, ⟨hreads, hvalid⟩ | ⟨rfl, hstr, error, herror, rfl⟩⟩
    · refine ⟨channel, dataValue, hraw, ?_⟩
      cases hreads with
      | trades hfirst htrade =>
        exact bind_eq_ok_iff.mpr
          ⟨_, parseTrades_eq_ok_iff.mpr ⟨_, _, hfirst, htrade, rfl⟩, validated_eq_ok_iff.mpr ⟨rfl, hvalid⟩⟩
      | l2Book hdata => exact bind_eq_ok_iff.mpr ⟨_, hdata, validated_eq_ok_iff.mpr ⟨rfl, hvalid⟩⟩
      | subscriptionResponse hdata =>
        exact bind_eq_ok_iff.mpr ⟨_, hdata, validated_eq_ok_iff.mpr ⟨rfl, hvalid⟩⟩
      | error hstr =>
        simp only [hstr]
        exact validated_eq_ok_iff.mpr ⟨rfl, hvalid⟩
    · refine ⟨"error", dataValue, hraw, ?_⟩
      simp only [hstr]
      exact bind_eq_ok_iff.mpr ⟨error, herror, rfl⟩

end TradeMessageParser

end Botmev.Hyperliquid
