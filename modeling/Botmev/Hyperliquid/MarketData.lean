import Botmev.Hyperliquid.Parser

/-!
# Which market data is accepted

`validate_message` rejects a price or size that is at or below zero. Neither "NaN" nor a
string too large for a double is that, and both can be read as doubles, so they are accepted.
A number in the JSON text is always finite. An error object is returned without being
validated, and its message may be empty.

## What is proved

* `positiveFinite_iff_not_spells`: a quantity that is not at or below zero is positive and
  finite, unless it is a string that spells something else.
* `acceptedIsValid_iff`: which texts are rejected, or valid when they are accepted.
* `nan_price_accepted`: a trade at "NaN" is accepted.
-/

namespace Botmev.Hyperliquid

open Botmev.Rust Botmev.Library TradeMessageParser

/-- The prices and sizes in a message. -/
def HyperLiquidMessage.quantities (m : HyperLiquidMessage) : List Binary64 :=
  match m.data with
  | .trade trade => [trade.price, trade.size]
  | .orderBook orderbook => (orderbook.bids ++ orderbook.asks).flatMap fun level => [level.price, level.size]
  | .subscriptionResponse _ | .error _ => []

/-- **What is accepted is valid**: it passes the validation, and its prices and sizes are
positive and finite. -/
def AcceptedIsValid (fromStr : String → Except String Value) (raw : String) : Prop :=
  ∀ m, parseMessage fromStr raw = .ok m →
    validateMessage m = .ok () ∧ ∀ x ∈ m.quantities, x.PositiveFinite

/-- Every number in a value is finite. -/
def NumbersFinite (value : Value) : Prop :=
  ∀ n, (Value.number n).PartOf value → ∃ units, n.asF64 = .finite units

/-- A JSON text has no numbers but finite ones. -/
def ReadsFiniteNumbers (fromStr : String → Except String Value) : Prop :=
  ∀ raw value, fromStr raw = .ok value → NumbersFinite value

/-- A field is a string that is read as no number, or as the infinity. -/
def SpellsNonFinite (field : Option Value) : Prop :=
  ∃ s, field = some (.string s) ∧ (parseF64 s = some .nan ∨ parseF64 s = some (.inf false))

/-- A field is a quantity that is not rejected. -/
def Passes (field : Option Value) : Prop :=
  ∃ x, field.bind valueToF64 = some x ∧ x.le (.finite 0) = false

/-- A trade that is well formed but for its price or its size. -/
structure NonFiniteTrade (trade : Value) : Prop where
  /-- It has a coin. -/
  coin : ∃ coin, trade.getStr "coin" = some coin ∧ coin ≠ ""
  /-- It has a side. -/
  side : trade.getStr "side" = some "B" ∨ trade.getStr "side" = some "A"
  /-- Its price is not rejected. -/
  price : Passes (trade.get "px")
  /-- Its size is not rejected. -/
  size : Passes (trade.get "sz")
  /-- It has a time. -/
  time : ∃ timestamp, (trade.get "time").bind Value.asU64 = some timestamp ∧ timestamp ≠ 0
  /-- It has an identifier. -/
  tid : ∃ tradeId, (trade.get "tid").map tradeIdOf = some tradeId ∧ tradeId ≠ ""
  /-- Its price or its size is not finite. -/
  nonFinite : SpellsNonFinite (trade.get "px") ∨ SpellsNonFinite (trade.get "sz")

/-- The field of a level with its price. -/
def levelPriceField (level : Value) : Option Value := (level.get "px").or (level.getIdx 0)

/-- The field of a level with its size. -/
def levelSizeField (level : Value) : Option Value := (level.get "sz").or (level.getIdx 1)

/-- An order book that is well formed but for a price or a size. -/
structure NonFiniteBook (book : Value) (bids asks : List Value) : Prop where
  /-- It has a coin. -/
  coin : ∃ coin, book.getStr "coin" = some coin ∧ coin ≠ ""
  /-- It has bids. -/
  hasBids : (book.get "bids").bind Value.asArray = some bids
  /-- It has asks. -/
  hasAsks : (book.get "asks").bind Value.asArray = some asks
  /-- No price or size is rejected. -/
  levels : ∀ level ∈ bids ++ asks, Passes (levelPriceField level) ∧ Passes (levelSizeField level)
  /-- It has a time. -/
  time : ∃ timestamp, (book.get "time").bind Value.asU64 = some timestamp ∧ timestamp ≠ 0
  /-- A price or a size is not finite. -/
  nonFinite : ∃ level ∈ bids ++ asks, SpellsNonFinite (levelPriceField level) ∨
    SpellsNonFinite (levelSizeField level)

/-- **The messages that escape the validation**. -/
inductive Escapes (channel : String) (dataValue : Value) : Prop where
  /-- A trade at a price or of a size that is not finite. -/
  | trades {trade : Value} : channel = "trades" → firstTrade dataValue = some trade → NonFiniteTrade trade →
      Escapes channel dataValue
  /-- An order book with such a level. -/
  | l2Book {bids asks : List Value} : channel = "l2Book" → NonFiniteBook dataValue bids asks →
      Escapes channel dataValue
  /-- An error object with an empty message. -/
  | error : channel = "error" → dataValue.getStr "message" = some "" → Escapes channel dataValue

variable {fromStr : String → Except String Value} {raw : String} {field : Option Value} {x : Binary64}

/-! ### One quantity -/

/-- A quantity that is not rejected is positive and finite just when it is not a string that
spells something else. -/
theorem positiveFinite_iff_not_spells
    (hnumber : ∀ n, field = some (.number n) → ∃ units, n.asF64 = .finite units)
    (hx : field.bind valueToF64 = some x) (hpass : x.le (.finite 0) = false) :
    x.PositiveFinite ↔ ¬ SpellsNonFinite field := by
  obtain ⟨value, rfl, hvalue⟩ := Option.bind_eq_some_iff.mp hx
  constructor
  · rintro ⟨units, -, rfl⟩ ⟨s, hs, hspells⟩
    cases hs
    rw [show valueToF64 (.string s) = parseF64 s from rfl] at hvalue
    rcases hspells with hspells | hspells
    · rw [hspells] at hvalue
      cases hvalue
    · rw [hspells] at hvalue
      cases hvalue
  · intro hnot
    cases value with
    | number n =>
      obtain ⟨units, hunits⟩ := hnumber n rfl
      cases hvalue
      rcases Binary64.le_zero_eq_false_iff.mp hpass with hpositive | hnan | hinf
      · exact hpositive
      · rw [hunits] at hnan
        cases hnan
      · rw [hunits] at hinf
        cases hinf
    | string s =>
      rcases Binary64.le_zero_eq_false_iff.mp hpass with hpositive | rfl | rfl
      · exact hpositive
      · exact absurd ⟨s, rfl, .inl hvalue⟩ hnot
      · exact absurd ⟨s, rfl, .inr hvalue⟩ hnot
    | _ => cases hvalue

/-! ### A trade -/

theorem NumbersFinite.part {value part : Value} (h : NumbersFinite value) (hpart : part.PartOf value) :
    NumbersFinite part := fun n hn => h n (hn.trans hpart)

theorem NumbersFinite.ofField {value : Value} (h : NumbersFinite value)
    (hfield : ∀ part, field = some part → part.PartOf value) :
    ∀ n, field = some (.number n) → ∃ units, n.asF64 = .finite units :=
  fun n hn => h n (hfield _ hn)

theorem partOf_of_firstTrade {dataValue trade : Value} (h : firstTrade dataValue = some trade) :
    trade.PartOf dataValue := by
  unfold firstTrade at h
  split at h
  next trades htrades => exact Value.partOf_of_asArray htrades (List.mem_of_head? h)
  next =>
    cases h
    exact .self

/-- What is wrong with a trade that escapes: it is read and valid, and spells something else. -/
theorem nonFiniteTrade_iff {value : Value} {channel : String} :
    NonFiniteTrade value ↔
      ∃ trade, parseTrade value = .ok trade ∧ validateMessage { channel, data := .trade trade } = .ok () ∧
        (SpellsNonFinite (value.get "px") ∨ SpellsNonFinite (value.get "sz")) := by
  constructor
  · intro h
    obtain ⟨coin, hcoin, hcoin'⟩ := h.coin
    obtain ⟨price, hprice, hprice'⟩ := h.price
    obtain ⟨size, hsize, hsize'⟩ := h.size
    obtain ⟨timestamp, htimestamp, htimestamp'⟩ := h.time
    obtain ⟨tradeId, htradeId, htradeId'⟩ := h.tid
    obtain ⟨side, hside⟩ : ∃ side, (value.getStr "side").bind TradeSide.fromHyperliquid = some side := by
      rcases h.side with hside | hside
      · exact ⟨.buy, by rw [hside]; rfl⟩
      · exact ⟨.sell, by rw [hside]; rfl⟩
    exact ⟨{ coin, side, price, size, timestamp, tradeId },
      parseTrade_eq_ok_iff.mpr ⟨hcoin, hside, hprice, hsize, htimestamp, htradeId⟩,
      validateMessage_trade_iff.mpr ⟨hcoin', hprice', hsize', htimestamp', htradeId'⟩, h.nonFinite⟩
  · rintro ⟨trade, htrade, hvalid, hspells⟩
    obtain ⟨hcoin, hside, hprice, hsize, htimestamp, htradeId⟩ := parseTrade_eq_ok_iff.mp htrade
    obtain ⟨hcoin', hprice', hsize', htimestamp', htradeId'⟩ := validateMessage_trade_iff.mp hvalid
    refine ⟨⟨_, hcoin, hcoin'⟩, ?_, ⟨_, hprice, hprice'⟩, ⟨_, hsize, hsize'⟩, ⟨_, htimestamp, htimestamp'⟩,
      ⟨_, htradeId, htradeId'⟩, hspells⟩
    obtain ⟨side, hstr, hside⟩ := Option.bind_eq_some_iff.mp hside
    unfold TradeSide.fromHyperliquid at hside
    split at hside
    next hbuy => exact .inl (hbuy ▸ hstr)
    next =>
      split at hside
      next hsell => exact .inr (hsell ▸ hstr)
      next => cases hside

/-- A trade that is read and valid is positive and finite unless it spells something else. -/
theorem trade_quantities_iff {value : Value} {channel : String} {trade : TradeData}
    (hfinite : NumbersFinite value)
    (htrade : parseTrade value = .ok trade)
    (hvalid : validateMessage { channel, data := .trade trade } = .ok ()) :
    (∀ x ∈ HyperLiquidMessage.quantities { channel, data := .trade trade }, x.PositiveFinite) ↔
      ¬ (SpellsNonFinite (value.get "px") ∨ SpellsNonFinite (value.get "sz")) := by
  obtain ⟨-, -, hprice, hsize, -, -⟩ := parseTrade_eq_ok_iff.mp htrade
  obtain ⟨-, hprice', hsize', -, -⟩ := validateMessage_trade_iff.mp hvalid
  rw [not_or, ← positiveFinite_iff_not_spells (hfinite.ofField fun _ => Value.partOf_of_get) hprice hprice',
    ← positiveFinite_iff_not_spells (hfinite.ofField fun _ => Value.partOf_of_get) hsize hsize']
  simp [HyperLiquidMessage.quantities]

/-! ### An order book -/

/-- A level that is read and not rejected is positive and finite unless it spells something
else. -/
theorem level_positiveFinite_iff {value : Value} {level : OrderBookLevel} (hfinite : NumbersFinite value)
    (hlevel : parseOrderbookLevel value = .ok level)
    (hpass : level.price.le (.finite 0) = false ∧ level.size.le (.finite 0) = false) :
    level.price.PositiveFinite ∧ level.size.PositiveFinite ↔
      ¬ (SpellsNonFinite (levelPriceField value) ∨ SpellsNonFinite (levelSizeField value)) := by
  have hpart : ∀ key i part, (value.get key).or (value.getIdx i) = some part → part.PartOf value := by
    intro key i part h
    rcases Option.or_eq_some_iff.mp h with h | ⟨-, h⟩
    · exact Value.partOf_of_get h
    · exact Value.partOf_of_getIdx h
  have hpriceField : ∀ n, levelPriceField value = some (.number n) → ∃ units, n.asF64 = .finite units :=
    hfinite.ofField (hpart "px" 0)
  have hsizeField : ∀ n, levelSizeField value = some (.number n) → ∃ units, n.asF64 = .finite units :=
    hfinite.ofField (hpart "sz" 1)
  obtain ⟨hprice, hsize⟩ := parseOrderbookLevel_eq_ok_iff.mp hlevel
  rw [not_or, ← positiveFinite_iff_not_spells hpriceField hprice hpass.1,
    ← positiveFinite_iff_not_spells hsizeField hsize hpass.2]

theorem levels_positiveFinite_iff {values : List Value} {levels : List OrderBookLevel}
    (hlevels : List.Forall₂ (fun value level => parseOrderbookLevel value = .ok level) values levels)
    (hfinite : ∀ value ∈ values, NumbersFinite value)
    (hpass : ∀ level ∈ levels, level.price.le (.finite 0) = false ∧ level.size.le (.finite 0) = false) :
    (∀ level ∈ levels, level.price.PositiveFinite ∧ level.size.PositiveFinite) ↔
      ¬ ∃ value ∈ values, SpellsNonFinite (levelPriceField value) ∨
        SpellsNonFinite (levelSizeField value) := by
  induction hlevels with
  | nil => simp
  | @cons value level values levels hlevel hlevels ih =>
    rw [List.forall_mem_cons] at hfinite hpass
    rw [List.forall_mem_cons, level_positiveFinite_iff hfinite.1 hlevel hpass.1, ih hfinite.2 hpass.2,
      List.exists_mem_cons_iff]
    exact not_or.symm

/-- Where every level can be read and is not rejected, they all are read. -/
theorem exists_levels {values : List Value}
    (h : ∀ value ∈ values, Passes (levelPriceField value) ∧ Passes (levelSizeField value)) :
    ∃ levels, List.Forall₂ (fun value level => parseOrderbookLevel value = .ok level) values levels ∧
      ∀ level ∈ levels, level.price.le (.finite 0) = false ∧ level.size.le (.finite 0) = false := by
  induction values with
  | nil => exact ⟨[], .nil, by simp⟩
  | cons value values ih =>
    obtain ⟨⟨⟨price, hprice, hprice'⟩, size, hsize, hsize'⟩, hrest⟩ := List.forall_mem_cons.mp h
    obtain ⟨levels, hlevels, hpass⟩ := ih hrest
    exact ⟨⟨price, size⟩ :: levels, .cons (parseOrderbookLevel_eq_ok_iff.mpr ⟨hprice, hsize⟩) hlevels,
      List.forall_mem_cons.mpr ⟨⟨hprice', hsize'⟩, hpass⟩⟩

theorem passes_of_levels {values : List Value} {levels : List OrderBookLevel}
    (hlevels : List.Forall₂ (fun value level => parseOrderbookLevel value = .ok level) values levels)
    (hpass : ∀ level ∈ levels, level.price.le (.finite 0) = false ∧ level.size.le (.finite 0) = false) :
    ∀ value ∈ values, Passes (levelPriceField value) ∧ Passes (levelSizeField value) := by
  induction hlevels with
  | nil => simp
  | @cons value level values levels hlevel hlevels ih =>
    obtain ⟨⟨hprice', hsize'⟩, hrest⟩ := List.forall_mem_cons.mp hpass
    obtain ⟨hprice, hsize⟩ := parseOrderbookLevel_eq_ok_iff.mp hlevel
    exact List.forall_mem_cons.mpr ⟨⟨⟨_, hprice, hprice'⟩, _, hsize, hsize'⟩, ih hrest⟩

theorem nonFiniteBook_iff {book : Value} {channel : String} :
    (∃ bids asks, NonFiniteBook book bids asks) ↔
      ∃ orderbook, parseOrderbook book = .ok orderbook ∧
        validateMessage { channel, data := .orderBook orderbook } = .ok () ∧
        ∃ bids asks, (book.get "bids").bind Value.asArray = some bids ∧
          (book.get "asks").bind Value.asArray = some asks ∧
          ∃ level ∈ bids ++ asks, SpellsNonFinite (levelPriceField level) ∨
            SpellsNonFinite (levelSizeField level) := by
  constructor
  · rintro ⟨bidsArray, asksArray, h⟩
    obtain ⟨coin, hcoin, hcoin'⟩ := h.coin
    obtain ⟨timestamp, htimestamp, htimestamp'⟩ := h.time
    obtain ⟨hpassBids, hpassAsks⟩ := List.forall_mem_append.mp h.levels
    obtain ⟨bids, hbids, hbids'⟩ := exists_levels hpassBids
    obtain ⟨asks, hasks, hasks'⟩ := exists_levels hpassAsks
    exact ⟨{ coin, bids, asks, timestamp },
      parseOrderbook_eq_ok_iff.mpr ⟨hcoin, ⟨_, h.hasBids, hbids⟩, ⟨_, h.hasAsks, hasks⟩, htimestamp⟩,
      validateMessage_orderBook_iff.mpr ⟨hcoin', htimestamp', List.forall_mem_append.mpr ⟨hbids', hasks'⟩⟩,
      bidsArray, asksArray, h.hasBids, h.hasAsks, h.nonFinite⟩
  · rintro ⟨orderbook, hbook, hvalid, bids, asks, hbids, hasks, hspells⟩
    obtain ⟨hcoin, ⟨bids', hbids', hbidLevels⟩, ⟨asks', hasks', haskLevels⟩, htimestamp⟩ :=
      parseOrderbook_eq_ok_iff.mp hbook
    obtain ⟨hcoin', htimestamp', hpass⟩ := validateMessage_orderBook_iff.mp hvalid
    obtain rfl : bids' = bids := Option.some.inj (hbids'.symm.trans hbids)
    obtain rfl : asks' = asks := Option.some.inj (hasks'.symm.trans hasks)
    exact ⟨_, _, ⟨_, hcoin, hcoin'⟩, hbids, hasks,
      passes_of_levels (List.rel_append hbidLevels haskLevels) hpass, ⟨_, htimestamp, htimestamp'⟩, hspells⟩

/-- An order book that is read and valid is positive and finite unless it spells something
else. -/
theorem orderBook_quantities_iff {book : Value} {channel : String} {orderbook : OrderBookData}
    {bids asks : List Value}
    (hfinite : NumbersFinite book) (hbook : parseOrderbook book = .ok orderbook)
    (hvalid : validateMessage { channel, data := .orderBook orderbook } = .ok ())
    (hbids : (book.get "bids").bind Value.asArray = some bids)
    (hasks : (book.get "asks").bind Value.asArray = some asks) :
    (∀ x ∈ HyperLiquidMessage.quantities { channel, data := .orderBook orderbook }, x.PositiveFinite) ↔
      ¬ ∃ level ∈ bids ++ asks, SpellsNonFinite (levelPriceField level) ∨
        SpellsNonFinite (levelSizeField level) := by
  obtain ⟨-, ⟨bids', hbids', hbidLevels⟩, ⟨asks', hasks', haskLevels⟩, -⟩ := parseOrderbook_eq_ok_iff.mp hbook
  obtain ⟨-, -, hpass⟩ := validateMessage_orderBook_iff.mp hvalid
  obtain rfl : bids' = bids := Option.some.inj (hbids'.symm.trans hbids)
  obtain rfl : asks' = asks := Option.some.inj (hasks'.symm.trans hasks)
  have hpart : ∀ key items, (book.get key).bind Value.asArray = some items →
    ∀ level ∈ items, NumbersFinite level := by
    intro key items h level hmem
    obtain ⟨array, hget, harray⟩ := Option.bind_eq_some_iff.mp h
    exact hfinite.part ((Value.partOf_of_asArray harray hmem).trans (Value.partOf_of_get hget))
  rw [← levels_positiveFinite_iff (List.rel_append hbidLevels haskLevels)
    (List.forall_mem_append.mpr ⟨hpart _ _ hbids, hpart _ _ hasks⟩) hpass]
  simp only [HyperLiquidMessage.quantities, List.forall_mem_flatMap, List.forall_mem_cons, List.not_mem_nil,
    false_implies, implies_true, and_true]

/-! ### A text -/

theorem not_acceptedIsValid_of_escapes {value dataValue : Value} {channel : String}
    (hjson : ReadsFiniteNumbers fromStr)
    (hvalue : fromStr raw = .ok value) (hchannel : value.getStr "channel" = some channel)
    (hdata : value.get "data" = some dataValue) (hescapes : Escapes channel dataValue) :
    ¬ AcceptedIsValid fromStr raw := by
  intro hvalid
  have hraw := channelAndData_eq_ok_iff.mpr ⟨value, hvalue, hchannel, hdata⟩
  have hfinite : NumbersFinite dataValue := (hjson raw value hvalue).part (Value.partOf_of_get hdata)
  cases hescapes with
  | trades hchan hfirst hbad =>
    subst hchan
    obtain ⟨trade, htrade, hpass, hspells⟩ := nonFiniteTrade_iff.mp hbad
    have haccepted := parseMessage_eq_ok_iff.mpr ⟨_, hraw, .inl ⟨.trades hfirst htrade, hpass⟩⟩
    have hfinite := hfinite.part (partOf_of_firstTrade hfirst)
    exact (trade_quantities_iff hfinite htrade hpass).mp (hvalid _ haccepted).2 hspells
  | l2Book hchan hbad =>
    subst hchan
    obtain ⟨orderbook, hbook, hpass, bids, asks, hbids, hasks, hspells⟩ := nonFiniteBook_iff.mp ⟨_, _, hbad⟩
    have haccepted := parseMessage_eq_ok_iff.mpr ⟨_, hraw, .inl ⟨.l2Book hbook, hpass⟩⟩
    exact (orderBook_quantities_iff hfinite hbook hpass hbids hasks).mp (hvalid _ haccepted).2 hspells
  | error hchan hmessage =>
    subst hchan
    have hstr : dataValue.asStr = none := by
      cases dataValue with
      | string s => cases hmessage
      | _ => rfl
    obtain ⟨error, herror, hempty⟩ := exists_parseError hmessage
    have haccepted : parseMessage fromStr raw = .ok { channel := "error", data := .error error } :=
      parseMessage_eq_ok_iff.mpr ⟨_, hraw, .inr ⟨rfl, hstr, error, herror, rfl⟩⟩
    have hpass := (hvalid _ haccepted).1
    simp [validateMessage, hempty] at hpass

theorem valid_of_not_escapes {m : HyperLiquidMessage} (hjson : ReadsFiniteNumbers fromStr)
    (haccepted : parseMessage fromStr raw = .ok m)
    (hnot : ∀ dataValue, channelAndData fromStr raw = .ok (m.channel, dataValue) →
      ¬ Escapes m.channel dataValue) :
    validateMessage m = .ok () ∧ ∀ x ∈ m.quantities, x.PositiveFinite := by
  obtain ⟨channel, messageData⟩ := m
  obtain ⟨dataValue, hraw, hdata⟩ := parseMessage_eq_ok_iff.mp haccepted
  obtain ⟨value, hvalue, hchannel, hget⟩ := channelAndData_eq_ok_iff.mp hraw
  have hnot := hnot dataValue hraw
  have hfinite : NumbersFinite dataValue := (hjson raw value hvalue).part (Value.partOf_of_get hget)
  rcases hdata with ⟨hreads, hpass⟩ | ⟨rfl, hstr, error, herror, rfl⟩
  · refine ⟨hpass, ?_⟩
    cases hreads with
    | trades hfirst htrade =>
      have hfinite := hfinite.part (partOf_of_firstTrade hfirst)
      exact (trade_quantities_iff hfinite htrade hpass).mpr fun hspells =>
        hnot (.trades rfl hfirst (nonFiniteTrade_iff.mpr ⟨_, htrade, hpass, hspells⟩))
    | l2Book hbook =>
      obtain ⟨-, ⟨bids, hbids, -⟩, ⟨asks, hasks, -⟩, -⟩ := parseOrderbook_eq_ok_iff.mp hbook
      refine (orderBook_quantities_iff hfinite hbook hpass hbids hasks).mpr fun hspells => ?_
      obtain ⟨_, _, hbad⟩ := nonFiniteBook_iff.mpr ⟨_, hbook, hpass, bids, asks, hbids, hasks, hspells⟩
      exact hnot (.l2Book rfl hbad)
    | subscriptionResponse hresponse =>
      obtain ⟨response, rfl⟩ := subscriptionResponse_of_parseSubscription hresponse
      simp [HyperLiquidMessage.quantities]
    | error _ => simp [HyperLiquidMessage.quantities]
  · have hmessage := parseError_message herror
    have hne : error.message ≠ "" := fun hempty => hnot (.error rfl (hempty ▸ hmessage))
    exact ⟨by simp [validateMessage, hne], by simp [HyperLiquidMessage.quantities]⟩

/-- **Which texts are rejected, or valid when they are accepted**: those whose message does not
escape the validation. -/
theorem acceptedIsValid_iff (hjson : ReadsFiniteNumbers fromStr) :
    AcceptedIsValid fromStr raw ↔
      ∀ value channel dataValue, fromStr raw = .ok value → value.getStr "channel" = some channel →
        value.get "data" = some dataValue → ¬ Escapes channel dataValue := by
  constructor
  · intro hvalid value channel dataValue hvalue hchannel hdata hescapes
    exact not_acceptedIsValid_of_escapes hjson hvalue hchannel hdata hescapes hvalid
  · intro h m haccepted
    refine valid_of_not_escapes hjson haccepted fun dataValue hraw => ?_
    obtain ⟨value, hvalue, hchannel, hget⟩ := channelAndData_eq_ok_iff.mp hraw
    exact h value m.channel dataValue hvalue hchannel hget

/-- A trade at the price that is written so. -/
def tradeAt (px : String) : Value :=
  .object [("coin", .string "BTC"), ("side", .string "B"), ("px", .string px), ("sz", .string "1"),
    ("time", .number (.posInt 1)), ("tid", .string "7")]

/-- The text of such a trade. -/
def tradeAtText (px : String) : String :=
  "\x7b\"coin\":\"BTC\",\"side\":\"B\",\"px\":\"" ++ px ++
    "\",\"sz\":\"1\",\"time\":1,\"tid\":\"7\"\x7d"

/-- The message with trades at these prices. -/
def tradesAt (pxs : List String) : Value :=
  .object [("channel", .string "trades"), ("data", .array (pxs.map tradeAt))]

/-- Its text. -/
def tradesAtText (pxs : List String) : String :=
  "\x7b\"channel\":\"trades\",\"data\":[" ++ ",".intercalate (pxs.map tradeAtText) ++ "]\x7d"

/-- Reading this one text. -/
def readTradesAt (pxs : List String) (raw : String) : Except String Value :=
  if raw = tradesAtText pxs then .ok (tradesAt pxs) else .error "expected value at line 1 column 1"

theorem numbersFinite_string (s : String) : NumbersFinite (.string s) := by
  intro n hn
  cases hn

theorem numbersFinite_array {items : List Value} (h : ∀ item ∈ items, NumbersFinite item) :
    NumbersFinite (.array items) := by
  intro n hn
  cases hn with
  | item hmem hpart => exact h _ hmem n hpart

theorem numbersFinite_object {entries : List (String × Value)}
    (h : ∀ entry ∈ entries, NumbersFinite entry.2) :
    NumbersFinite (.object entries) := by
  intro n hn
  cases hn with
  | entry hmem hpart => exact h _ hmem n hpart

theorem readsFiniteNumbers_readTradesAt (pxs : List String) : ReadsFiniteNumbers (readTradesAt pxs) := by
  have hone : NumbersFinite (.number (.posInt 1)) := by
    intro n hn
    cases hn
    exact ⟨2 ^ 1074, by decide +kernel⟩
  have htrade : ∀ px, NumbersFinite (tradeAt px) :=
    fun px => numbersFinite_object (by simpa [numbersFinite_string] using hone)
  intro raw value hvalue
  unfold readTradesAt at hvalue
  split at hvalue
  · cases hvalue
    refine numbersFinite_object (List.forall_mem_cons.mpr ⟨numbersFinite_string _, ?_⟩)
    rw [List.forall_mem_singleton]
    refine numbersFinite_array fun item hmem => ?_
    obtain ⟨px, -, rfl⟩ := List.mem_map.mp hmem
    exact htrade px
  · cases hvalue

/-- A trade at "50000" is valid. -/
theorem fifty_thousand_valid : AcceptedIsValid (readTradesAt ["50000"]) (tradesAtText ["50000"]) := by
  have hread : readTradesAt ["50000"] (tradesAtText ["50000"]) = .ok (tradesAt ["50000"]) := rfl
  refine (acceptedIsValid_iff (readsFiniteNumbers_readTradesAt ["50000"])).mpr ?_
  intro value channel dataValue hvalue hchannel hdata hescapes
  obtain rfl : tradesAt ["50000"] = value := Except.ok.inj (hread.symm.trans hvalue)
  cases hchannel
  cases hdata
  cases hescapes with
  | trades _ hfirst hbad =>
    cases hfirst
    rcases hbad.nonFinite with ⟨s, hs, hspells⟩ | ⟨s, hs, hspells⟩
    · cases hs
      exact absurd hspells (by decide +kernel)
    · cases hs
      exact absurd hspells (by decide +kernel)
  | l2Book hchan => exact absurd hchan (by decide)
  | error hchan => exact absurd hchan (by decide)

/-- **A trade at "NaN" is accepted**, with a price that is not a number. -/
theorem nan_price_accepted :
    (∃ m, parseMessage (readTradesAt ["NaN"]) (tradesAtText ["NaN"]) = .ok m ∧
        m.quantities = [.nan, .finite Binary64.one]) ∧
      ¬ AcceptedIsValid (readTradesAt ["NaN"]) (tradesAtText ["NaN"]) := by
  have haccepted : parseMessage (readTradesAt ["NaN"]) (tradesAtText ["NaN"]) = .ok
      { channel := "trades", data := .trade ⟨"BTC", .buy, .nan, .finite Binary64.one, 1, "7"⟩ } :=
    by decide +kernel
  refine ⟨⟨_, haccepted, rfl⟩, ?_⟩
  intro hvalid
  obtain ⟨units, -, hunits⟩ := (hvalid _ haccepted).2 .nan List.mem_cons_self
  cases hunits

end Botmev.Hyperliquid
