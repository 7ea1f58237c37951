import DataGateway.Python.Unicode
import DataGateway.Streaming.Subscriptions

/-!
# Streaming permissions

A client may be limited to some providers and to some kinds of feeds; an empty list is no limit.  A
subscription is checked by the names that the client sends, and served by the stream and the kinds
of data that the feed names stand for.
-/

namespace DataGateway
namespace Streaming

/-- `ClientPermissions`, with what streaming reads. -/
structure ClientPermissions where
  providers : List String
  feeds : List String
  maxSymbols : Nat
  wsSubscriptionsMax : Nat

variable [Lowercase]

/-- `str.lower`. -/
def lower (text : String) : String := String.ofList (Lowercase.lower text.toList)

/-- `_has_provider_permission`. -/
def hasProviderPermission (permissions : ClientPermissions) (provider : String) : Bool :=
  permissions.providers.isEmpty || permissions.providers.contains (lower provider) ||
    (lower provider == "uw" && permissions.providers.contains "unusual_whales") ||
    (lower provider == "yf" && permissions.providers.contains "yfinance")

/-- `_normalize_feed_permission`. -/
def normalizeFeedPermission (feed : String) : String :=
  let f := lower feed
  if Text.contains f "option" then "options"
  else if Text.contains f "news" then "news"
  else if Text.contains f "bars" then "bars"
  else if Text.contains f "quotes" then "quotes"
  else if Text.contains f "trades" then "trades"
  else if Text.contains f "flow" then "flow"
  else f

/-- `_has_feed_permission`. -/
def hasFeedPermission (permissions : ClientPermissions) (requiredFeed : String) : Bool :=
  permissions.feeds.isEmpty || (permissions.feeds.map normalizeFeedPermission).contains requiredFeed

/-- `_UW_PROVIDERS`. -/
def uwProviders : List String := ["uw", "unusual_whales"]

/-- `_FLOW_FEEDS`. -/
def flowFeeds : List String := ["flow", "flow_alerts"]

/-- `_is_uw_flow_request`. -/
def isUwFlowRequest (provider : String) (feeds : List String) : Bool :=
  uwProviders.contains (lower provider) && feeds.any fun feed => flowFeeds.contains (lower feed)

/-! ## What a feed name stands for -/

omit [Lowercase]

/-- The name of a feed in `_FEED_NAMES`. -/
def FeedName.name : FeedName → String
  | .bars => "bars"
  | .quotes => "quotes"
  | .trades => "trades"
  | .news => "news"

/-- The feeds of the stream that a feed name is registered under: `symbols if "bars" in feed else
None` and so on. -/
def requestedFeeds (feed : String) (symbols : List String) : PerFeed (List String) := fun name =>
  if Text.contains feed name.name then symbols else []

/-- The kind of feed that data of a stream belongs to. -/
def feedCategory (streamType : AlpacaStreamType) (name : FeedName) : String :=
  if streamType = .options then "options" else name.name

end Streaming
end DataGateway
