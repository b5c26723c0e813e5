import Botmev.Hyperliquid.Parser
import Botmev.Library.Binary64Error

/-!
# The best prices of an order book

`best_bid` and `best_ask` are of the levels that come first (`mev-hyperliquid/src/types.rs`). The
parser keeps the levels as they are listed and looks at each alone, so what comes first is the best
where the message has it so, and a book whose prices cross is accepted as any other. A price may be
no number, as "NaN" is read as one; it is then below or above no other.

## What is proved

* `parseMessage_orderBook_iff`: which texts are accepted as an order book.
* `listedPrices_of_parse`: the prices of a book that is read are those that are listed.
* `bestPrices_iff`: which of the books that are accepted have their best prices first.
-/

namespace Botmev.Hyperliquid

open Botmev.Rust Botmev.Library TradeMessageParser

/-- **The best prices are the best**: no bid is above the best bid, no ask is below the best ask,
and the spread is not negative. -/
structure OrderBookData.BestPrices (orderbook : OrderBookData) : Prop where
  /-- "The highest buy price". -/
  bid : ∀ best, orderbook.bestBid = some best → ∀ level ∈ orderbook.bids, level.price.le best = true
  /-- "The lowest sell price". -/
  ask : ∀ best, orderbook.bestAsk = some best → ∀ level ∈ orderbook.asks, best.le level.price = true
  /-- What is between them. -/
  spread : ∀ spread, orderbook.spread = some spread → spread.ge (.finite 0) = true

/-- The prices that a message lists on a side. -/
def listedPrices (side : String) (book : Value) : List Binary64 :=
  (((book.get side).bind Value.asArray).getD []).filterMap levelPrice

/-- **A message has the best prices first**: no bid that it lists is above the first one, no ask below
the first one, and of these the bid is not above the ask. That none is `NaN` is part of this. -/
structure BestListedFirst (book : Value) : Prop where
  /-- The first bid is the highest. -/
  bids : ∀ first ∈ (listedPrices "bids" book).head?, ∀ price ∈ listedPrices "bids" book, price.le first = true
  /-- The first ask is the lowest. -/
  asks : ∀ first ∈ (listedPrices "asks" book).head?, ∀ price ∈ listedPrices "asks" book, first.le price = true
  /-- The first two do not cross, and are not both the infinity. -/
  uncrossed : ∀ bid ∈ (listedPrices "bids" book).head?, ∀ ask ∈ (listedPrices "asks" book).head?,
    bid.le ask = true ∧ ∀ sign, ¬(bid = .inf sign ∧ ask = .inf sign)

variable {fromStr : String → Except String Value} {raw channel : String} {book : Value} {orderbook : OrderBookData}

/-- **Which texts are accepted as an order book**. -/
theorem parseMessage_orderBook_iff :
    parseMessage fromStr raw = .ok { channel, data := .orderBook orderbook } ↔
      channel = "l2Book" ∧ ∃ book, channelAndData fromStr raw = .ok ("l2Book", book) ∧
        parseOrderbook book = .ok orderbook ∧
        validateMessage { channel := "l2Book", data := .orderBook orderbook } = .ok () := by
  rw [parseMessage_eq_ok_iff]
  constructor
  · rintro ⟨book, hraw, ⟨hreads, hvalid⟩ | ⟨-, -, error, -, hdata⟩⟩
    · cases hreads with
      | l2Book hbook => exact ⟨rfl, book, hraw, hbook, hvalid⟩
      | subscriptionResponse hresponse =>
        obtain ⟨response, hdata⟩ := subscriptionResponse_of_parseSubscription hresponse
        cases hdata
    · cases hdata
  · rintro ⟨rfl, book, hraw, hbook, hvalid⟩
    exact ⟨book, hraw, .inl ⟨.l2Book hbook, hvalid⟩⟩

theorem filterMap_levelPrice {values : List Value} {levels : List OrderBookLevel}
    (h : List.Forall₂ (fun value level => parseOrderbookLevel value = .ok level) values levels) :
    values.filterMap levelPrice = levels.map OrderBookLevel.price := by
  induction h with
  | nil => rfl
  | cons hlevel _ ih =>
    rw [List.filterMap_cons_some (parseOrderbookLevel_eq_ok_iff.mp hlevel).1, ih, List.map_cons]

/-- **The prices of a book that is read** are those that are listed, in their order. -/
theorem listedPrices_of_parse (h : parseOrderbook book = .ok orderbook) :
    listedPrices "bids" book = orderbook.bids.map OrderBookLevel.price ∧
      listedPrices "asks" book = orderbook.asks.map OrderBookLevel.price := by
  obtain ⟨-, ⟨bids, hbids, hbidLevels⟩, ⟨asks, hasks, haskLevels⟩, -⟩ := parseOrderbook_eq_ok_iff.mp h
  constructor
  · rw [listedPrices, hbids, Option.getD_some, filterMap_levelPrice hbidLevels]
  · rw [listedPrices, hasks, Option.getD_some, filterMap_levelPrice haskLevels]

theorem spread_eq_some_iff {spread : Binary64} : orderbook.spread = some spread ↔
    ∃ bid ask, orderbook.bestBid = some bid ∧ orderbook.bestAsk = some ask ∧ spread = ask.add bid.neg := by
  unfold OrderBookData.spread
  constructor
  · intro h
    split at h
    next bid ask hbid hask => exact ⟨bid, ask, hbid, hask, (Option.some.inj h).symm⟩
    next => cases h
  · rintro ⟨bid, ask, hbid, hask, rfl⟩
    simp only [hbid, hask]

/-- The best prices of a book that is read are the best where the message has them first. -/
theorem bestPrices_of_parse (h : parseOrderbook book = .ok orderbook) :
    orderbook.BestPrices ↔ BestListedFirst book := by
  obtain ⟨hbids, hasks⟩ := listedPrices_of_parse h
  have hbid : orderbook.bestBid = (listedPrices "bids" book).head? := by
    rw [hbids, List.head?_map, OrderBookData.bestBid]
  have hask : orderbook.bestAsk = (listedPrices "asks" book).head? := by
    rw [hasks, List.head?_map, OrderBookData.bestAsk]
  constructor
  · intro hbest
    refine ⟨fun first hfirst => ?_, fun first hfirst => ?_, fun bid hb ask ha => ?_⟩
    · rw [hbids, List.forall_mem_map]
      exact hbest.bid first (hbid.trans hfirst)
    · rw [hasks, List.forall_mem_map]
      exact hbest.ask first (hask.trans hfirst)
    · exact Binary64.sub_ge_zero_iff.mp
        (hbest.spread _ (spread_eq_some_iff.mpr ⟨bid, ask, hbid.trans hb, hask.trans ha, rfl⟩))
  · intro hfirst
    refine ⟨fun best hbest => ?_, fun best hbest => ?_, fun spread hspread => ?_⟩
    · have hall := hfirst.bids best (hbid.symm.trans hbest)
      rwa [hbids, List.forall_mem_map] at hall
    · have hall := hfirst.asks best (hask.symm.trans hbest)
      rwa [hasks, List.forall_mem_map] at hall
    · obtain ⟨bid, ask, hb, ha, rfl⟩ := spread_eq_some_iff.mp hspread
      exact Binary64.sub_ge_zero_iff.mpr (hfirst.uncrossed bid (hbid.symm.trans hb) ask (hask.symm.trans ha))

/-- **The best prices of a book that is accepted** are the best just where its message has the best
prices first. -/
theorem bestPrices_iff (haccepted : parseMessage fromStr raw = .ok { channel, data := .orderBook orderbook }) :
    orderbook.BestPrices ↔ ∃ book, channelAndData fromStr raw = .ok ("l2Book", book) ∧ BestListedFirst book := by
  obtain ⟨rfl, book, hraw, hbook, -⟩ := parseMessage_orderBook_iff.mp haccepted
  rw [bestPrices_of_parse hbook]
  constructor
  · intro hfirst
    exact ⟨book, hraw, hfirst⟩
  · rintro ⟨book', hraw', hfirst⟩
    obtain rfl : book = book' := by
      rw [hraw] at hraw'
      exact (Prod.mk.inj (Except.ok.inj hraw')).2
    exact hfirst

/-- A level of size one. -/
def levelAt (px : String) : Value := .object [("px", .string px), ("sz", .string "1")]

/-- A book with bids at these prices, and an ask at "101". -/
def bookAt (pxs : List String) : Value :=
  .object [("coin", .string "BTC"), ("bids", .array (pxs.map levelAt)), ("asks", .array [levelAt "101"]),
    ("time", .number (.posInt 1))]

/-- The text of a level. -/
def levelAtText (px : String) : String := "\x7b\"px\":\"" ++ px ++ "\",\"sz\":\"1\"\x7d"

/-- The text of a message with such a book. -/
def bookAtText (pxs : List String) : String :=
  "\x7b\"channel\":\"l2Book\",\"data\":\x7b\"coin\":\"BTC\",\"bids\":[" ++
    ",".intercalate (pxs.map levelAtText) ++ "],\"asks\":[" ++ levelAtText "101" ++ "],\"time\":1\x7d\x7d"

/-- Reading this one text. -/
def readBookAt (pxs : List String) (raw : String) : Except String Value :=
  if raw = bookAtText pxs then .ok (.object [("channel", .string "l2Book"), ("data", bookAt pxs)])
  else .error "expected value at line 1 column 1"

theorem channelAndData_bookAt (pxs : List String) :
    channelAndData (readBookAt pxs) (bookAtText pxs) = .ok ("l2Book", bookAt pxs) :=
  channelAndData_eq_ok_iff.mpr ⟨_, if_pos rfl, rfl, rfl⟩

/-- What is read of it. -/
def orderBookAt (prices : List Binary64) : OrderBookData where
  coin := "BTC"
  bids := prices.map fun price => ⟨price, .ofNat 1⟩
  asks := [⟨.ofNat 101, .ofNat 1⟩]
  timestamp := 1

/-- A book with a bid at "100" has its best prices first. -/
theorem bestPrices_of_one_bid : (orderBookAt [.ofNat 100]).BestPrices := by
  have haccepted : parseMessage (readBookAt ["100"]) (bookAtText ["100"]) =
      .ok { channel := "l2Book", data := .orderBook (orderBookAt [.ofNat 100]) } := by decide +kernel
  have hbids : listedPrices "bids" (bookAt ["100"]) = [.ofNat 100] := by decide +kernel
  have hasks : listedPrices "asks" (bookAt ["100"]) = [.ofNat 101] := by decide +kernel
  have hcross : (Binary64.ofNat 100).le (.ofNat 101) = true ∧
    ∀ sign, ¬(Binary64.ofNat 100 = .inf sign ∧ Binary64.ofNat 101 = .inf sign) := by decide +kernel
  refine (bestPrices_iff haccepted).mpr ⟨bookAt ["100"], channelAndData_bookAt _, ?_, ?_, ?_⟩
  · rw [hbids]
    decide +kernel
  · rw [hasks]
    decide +kernel
  · rw [hbids, hasks]
    simp only [List.head?_cons, Option.mem_some_iff, forall_eq']
    exact hcross

theorem not_bestPrices_of_lt {first second : Binary64} (h : second.le first = false) :
    ¬(orderBookAt [first, second]).BestPrices := by
  intro hbest
  have hle : second.le first = true :=
    hbest.bid first rfl ⟨second, .ofNat 1⟩ (List.mem_cons_of_mem _ List.mem_cons_self)
  rw [h] at hle
  cases hle

/-- **A book whose second bid is the higher one is accepted**, with the first as its best. -/
theorem best_bid_below_another :
    parseMessage (readBookAt ["99", "100"]) (bookAtText ["99", "100"]) =
        .ok { channel := "l2Book", data := .orderBook (orderBookAt [.ofNat 99, .ofNat 100]) } ∧
      ¬(orderBookAt [.ofNat 99, .ofNat 100]).BestPrices :=
  ⟨by decide +kernel, not_bestPrices_of_lt (by decide +kernel)⟩

end Botmev.Hyperliquid
