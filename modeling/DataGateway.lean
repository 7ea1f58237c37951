import DataGateway.Coroutine.Interleaving
import DataGateway.Python.Number
import DataGateway.Symbology.Canonical
import DataGateway.Trading.RacingFill
import DataGateway.Trading.OwnClaim
import DataGateway.Trading.Unmarked
import DataGateway.Trading.Definitive
import DataGateway.Trading.CancelAgreement
import DataGateway.Trading.LockedClaims
import DataGateway.Trading.ThawSafety
import DataGateway.Breaker.NeverWedged
import DataGateway.Cache.Consistency
import DataGateway.Cache.SharedFetch
import DataGateway.Envelope.DistinctIds
import DataGateway.Streaming.Redelivery
import DataGateway.Streaming.Disconnect
import DataGateway.Streaming.Handler
import DataGateway.Streaming.Effects
import DataGateway.Streaming.Rollback
import DataGateway.Streaming.Permitted
import DataGateway.Streaming.Routing
import DataGateway.Streaming.Quota
import DataGateway.Streaming.Connections
import DataGateway.Streaming.Broadcast
import DataGateway.Streaming.OneAnswer
import DataGateway.Outbox.Shutdown
import DataGateway.Outbox.Delivery
import DataGateway.Outbox.LaneRouter
import DataGateway.Sinks.BatchPublish
import DataGateway.Sinks.Conservation
import DataGateway.Sinks.EventAccounting
import DataGateway.Sinks.DedupSafety
import DataGateway.Replay.Complete
import DataGateway.Replay.Intact
import DataGateway.Replay.Gaps
import DataGateway.RateLimit.Bounds
import DataGateway.RateLimit.Waits
import DataGateway.Dedup.Live
import DataGateway.Capture.Tape
import DataGateway.Middleware.Transparency
import DataGateway.Middleware.SameQuestion
import DataGateway.Middleware.FreshReads
import DataGateway.Symbology.Human
import DataGateway.Bulk.Paging
import DataGateway.Bulk.Encodings
import DataGateway.Pollers.Acceptance
import DataGateway.Pollers.EodRuns
import DataGateway.Historical.DeliversOnce
import DataGateway.Historical.HeldSlots
import DataGateway.Trading.BatchPlan
import DataGateway.Symbology.ResolverCache
import DataGateway.Backfill.Restart
import DataGateway.Backfill.Accounting
import DataGateway.Backfill.Reconciled
import DataGateway.Backfill.SameInstant
import DataGateway.Backfill.ChunkProof
import DataGateway.Alpaca.Paginate
import DataGateway.Cache.ReadYourWrite
import DataGateway.Trading.ExactCancels
import DataGateway.Adjustments.AsOf
import DataGateway.Middleware.ProxyChain
import DataGateway.Auth.Reload
import DataGateway.Cache.Hybrid
import DataGateway.Middleware.BodyLimit
import DataGateway.Calendar.TradingDays
import DataGateway.Middleware.GlobalWindow
import DataGateway.Middleware.Blocklist
import DataGateway.Backfill.Verified
import DataGateway.Streaming.SequenceNumbers
import DataGateway.Security.KeyRuns
import DataGateway.Security.PlainSymbols
import DataGateway.Validation.SoundData
import DataGateway.Bulk.JobRuns
import DataGateway.Streaming.UpstreamSlots
