import Botmev.Library.Binary64
import Botmev.Rust.Basic

/-!
# What HyperLiquid sends

The messages of the feed (`mev-hyperliquid/src/types.rs`), as the parser passes them on.
Prices and sizes are doubles; the type of these is a parameter, for what reasons about
the numbers that they stand for.
-/

namespace Botmev.Hyperliquid

open Botmev.Rust Botmev.Library

/-- "Side of a trade (buy or sell)". -/
inductive TradeSide where
  /-- "Buy order (bid)". -/
  | buy
  /-- "Sell order (ask)". -/
  | sell
  deriving DecidableEq, Repr

/-- `from_hyperliquid`: "B" for buy, "A" for ask. -/
def TradeSide.fromHyperliquid (s : String) : Option TradeSide :=
  if s = "B" then some .buy else if s = "A" then some .sell else none

/-- "Trade data from HyperLiquid". -/
structure TradeData (F : Type := Binary64) where
  /-- "Coin symbol". -/
  coin : String
  /-- "Side of the trade". -/
  side : TradeSide
  /-- "Price of the trade". -/
  price : F
  /-- "Size/amount of the trade". -/
  size : F
  /-- "Timestamp in milliseconds". -/
  timestamp : U64
  /-- "Unique trade ID". -/
  tradeId : String
  deriving DecidableEq, Repr

/-- "Order book level (price and size)". -/
structure OrderBookLevel (F : Type := Binary64) where
  /-- "Price level". -/
  price : F
  /-- "Total size at this price level". -/
  size : F
  deriving DecidableEq, Repr

/-- "Order book data from HyperLiquid". -/
structure OrderBookData (F : Type := Binary64) where
  /-- "Coin symbol". -/
  coin : String
  /-- "Bid levels (buy orders)". -/
  bids : List (OrderBookLevel F)
  /-- "Ask levels (sell orders)". -/
  asks : List (OrderBookLevel F)
  /-- "Timestamp in milliseconds". -/
  timestamp : U64
  deriving DecidableEq, Repr

namespace OrderBookData

variable {F : Type} (orderbook : OrderBookData F)

/-- `best_bid`: "the highest buy price", of the bid that comes first. -/
def bestBid : Option F := orderbook.bids.head?.map OrderBookLevel.price

/-- `best_ask`: "the lowest sell price", of the ask that comes first. -/
def bestAsk : Option F := orderbook.asks.head?.map OrderBookLevel.price

/-- `spread`: "the spread between best bid and ask". -/
def spread (orderbook : OrderBookData) : Option Binary64 :=
  match orderbook.bestBid, orderbook.bestAsk with
  | some bid, some ask => some (ask.add bid.neg)
  | _, _ => none

end OrderBookData

/-- "Subscription response from HyperLiquid". -/
structure SubscriptionResponse where
  /-- "Type of subscription". -/
  subscriptionType : String
  /-- "Coin symbol". -/
  coin : String
  /-- "Whether the subscription was successful". -/
  success : Bool
  /-- "Optional error message if subscription failed". -/
  error : Option String
  deriving DecidableEq, Repr

/-- "Error data from HyperLiquid". -/
structure ErrorData where
  /-- "Error code", an `i32`. -/
  code : Option (BitVec 32)
  /-- "Error message". -/
  message : String
  deriving DecidableEq, Repr

/-- "Message data variants". -/
inductive MessageData where
  /-- "Subscription confirmation response". -/
  | subscriptionResponse (response : SubscriptionResponse)
  /-- "Trade data". -/
  | trade (trade : TradeData)
  /-- "Order book update". -/
  | orderBook (orderbook : OrderBookData)
  /-- "Error message". -/
  | error (error : ErrorData)
  deriving DecidableEq, Repr

/-- "Complete message from HyperLiquid WebSocket". -/
structure HyperLiquidMessage where
  /-- "Channel name". -/
  channel : String
  /-- "Message data". -/
  data : MessageData
  deriving DecidableEq, Repr

end Botmev.Hyperliquid
