import Mathlib.Data.List.Basic

/-!
# Streams and feeds

The upstream streams of the broker and the names under which clients and messages
speak of their data.
-/

namespace DataGateway
namespace Streaming

/-- `AlpacaStreamType`. -/
inductive AlpacaStreamType
  | stocksSip
  | stocksIex
  | options
  | crypto
  | news
  deriving DecidableEq, Repr

/-- The kinds of data that messages carry: `MESSAGE_TYPE_TO_DATA_TYPE.values()`. -/
inductive DataType
  | bars
  | quotes
  | trades
  | news
  | lulds
  | statuses
  | corrections
  | auctions
  deriving DecidableEq, Repr

/-- The name of a kind of data. -/
def DataType.name : DataType → String
  | .bars => "bars"
  | .quotes => "quotes"
  | .trades => "trades"
  | .news => "news"
  | .lulds => "lulds"
  | .statuses => "statuses"
  | .corrections => "corrections"
  | .auctions => "auctions"

/-- `MESSAGE_TYPE_TO_DATA_TYPE`. -/
def messageTypeToDataType : List (String × DataType) :=
  [("b", .bars), ("q", .quotes), ("t", .trades), ("n", .news), ("l", .lulds), ("s", .statuses),
    ("c", .corrections), ("i", .auctions)]

/-- `STOCK_FEED_ALIASES`. -/
def stockFeedAliases : List (String × String) :=
  [("bars", "stock_bars"), ("quotes", "stock_quotes"), ("trades", "stock_trades")]

/-- `canonical_feed_name`. -/
def canonicalFeedName (feed : String) : String := (stockFeedAliases.lookup feed).getD feed

namespace AlpacaStreamType

/-- The feeds that `from_feed` knows. -/
def feedMapping : List (String × AlpacaStreamType) :=
  [("stock_bars", .stocksSip), ("stock_quotes", .stocksSip), ("stock_trades", .stocksSip),
    ("stock_dailyBars", .stocksSip), ("stock_updatedBars", .stocksSip), ("stock_lulds", .stocksSip),
    ("stock_statuses", .stocksSip), ("stock_imbalances", .stocksSip), ("option_bars", .options),
    ("option_quotes", .options), ("option_trades", .options), ("crypto_bars", .crypto),
    ("crypto_quotes", .crypto), ("crypto_trades", .crypto), ("crypto_dailyBars", .crypto),
    ("crypto_updatedBars", .crypto), ("crypto_orderbooks", .crypto), ("news", .news)]

/-- `from_feed`. -/
def fromFeed (feed : String) : AlpacaStreamType :=
  (feedMapping.lookup (canonicalFeedName feed)).getD .stocksSip

/-- The value of the enumeration. -/
def value : AlpacaStreamType → String
  | .stocksSip => "stocks_sip"
  | .stocksIex => "stocks_iex"
  | .options => "options"
  | .crypto => "crypto"
  | .news => "news"

/-- A stream of stocks. -/
def isStocks (streamType : AlpacaStreamType) : Bool :=
  streamType = .stocksSip || streamType = .stocksIex

/-- `instrument_type`. -/
def instrumentType : AlpacaStreamType → String
  | .stocksSip | .stocksIex | .news => "equity"
  | .options => "option"
  | .crypto => "crypto"

end AlpacaStreamType

end Streaming
end DataGateway
