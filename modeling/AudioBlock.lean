import AudioBlock.Foundation.Machine
import AudioBlock.Foundation.Answers
import AudioBlock.Foundation.PagedScan
import AudioBlock.Foundation.Rows
import AudioBlock.Indexer.EventReader
import AudioBlock.Indexer.ChainLog
import AudioBlock.Indexer.RangePaging
import AudioBlock.Indexer.EventStore
import AudioBlock.Indexer.Backfill
import AudioBlock.Indexer.ReorgGuard
import AudioBlock.Indexer.Worker
import AudioBlock.Indexer.PollRule
import AudioBlock.Indexer.CursorDurability
import AudioBlock.Indexer.PagingServer
import AudioBlock.Indexer.CrashResume
import AudioBlock.Foundation.Binary64
import AudioBlock.Foundation.KeyedTally
import AudioBlock.Projection.OnChainEventCounts
import AudioBlock.Projection.Projector
import AudioBlock.Projection.SettleSafety
import AudioBlock.Projection.RebuildEquivalence
import AudioBlock.Auth.Tokens
import AudioBlock.Auth.AuthService
import AudioBlock.Auth.SecondFactor
import AudioBlock.Auth.FactorProtection
import AudioBlock.Auth.WalletLogin
import AudioBlock.Foundation.Text
import AudioBlock.Foundation.Weighing
import AudioBlock.Auth.RotationLedger
import AudioBlock.Auth.RotationSafety
import AudioBlock.Jobs.JobQueueService
import AudioBlock.Jobs.JobKnowledge
import AudioBlock.Jobs.JobConservation
import AudioBlock.Jobs.JobCounters
import AudioBlock.Jobs.JobDurability
import AudioBlock.Jobs.JobReexecution
import AudioBlock.Royalty.Reconciliation
import AudioBlock.Royalty.Batching
import AudioBlock.Songs.Song
import AudioBlock.Royalty.CollaborationService
import AudioBlock.Royalty.CollaboratorPayouts
import AudioBlock.Songs.SongVersionService
import AudioBlock.Songs.SongService
import AudioBlock.Songs.MintedMetadata
import AudioBlock.Songs.VersionRequests
import AudioBlock.Songs.VersionWrites
import AudioBlock.Songs.ActiveVersion
import AudioBlock.Songs.MintSubmission
import AudioBlock.Songs.MintTransactions
import AudioBlock.Songs.MintBinding
import AudioBlock.Songs.MintAttribution
import AudioBlock.Songs.SongRequests
import AudioBlock.Songs.SongOwnership
import AudioBlock.Songs.SplitRequests
import AudioBlock.Songs.SubmissionFrame
import AudioBlock.Songs.SplitRows
import AudioBlock.Songs.SplitFreeze
import AudioBlock.Moderation.TakedownService
import AudioBlock.Moderation.FlagCoverage
import AudioBlock.Processing.SongProcessorWorker
import AudioBlock.Processing.ServedTranscodes
import AudioBlock.Processing.OutstandingJobs
import AudioBlock.Processing.ProcessingOutcome
import AudioBlock.Streaming.SignedManifest
import AudioBlock.Streaming.ManifestCache
import AudioBlock.Streaming.ManifestFreshness
import AudioBlock.Catalog.Visibility
import AudioBlock.Moderation.ReportService
import AudioBlock.Moderation.FlagSources
import AudioBlock.Moderation.FlagProvenance
import AudioBlock.Auth.PrivyMiddleware
import AudioBlock.Auth.PrivyLogin
import AudioBlock.Auth.PrivyContinuity
import AudioBlock.Auth.PrivyWebhooks
import AudioBlock.Auth.PrivyProvisioning
import AudioBlock.Foundation.Paths
import AudioBlock.Songs.ChunkUploads
import AudioBlock.Jobs.JobIdentity
import AudioBlock.Jobs.JobEndings
import AudioBlock.Generation.AiGenerationService
import AudioBlock.Generation.GenerationLifecycle
import AudioBlock.Generation.GenerationRuns
import AudioBlock.Indexer.BufferedWrites
import AudioBlock.Foundation.FindOrInsert
import AudioBlock.Indexer.EventIdentity
import AudioBlock.Indexer.EventDecoders
import AudioBlock.Indexer.NetworkSeparation
import AudioBlock.Indexer.CursorOverlap
import AudioBlock.Foundation.Coercion
import AudioBlock.Indexer.BigintColumns
import AudioBlock.Indexer.ReorgCoverage
import AudioBlock.Indexer.BackfillCursor
import AudioBlock.Foundation.Breaker
import AudioBlock.Auth.PrivyCircuitBreaker
import AudioBlock.Auth.BreakerAdmission
import AudioBlock.Resilience.CircuitBreaker
import AudioBlock.Resilience.BreakerTransitions
import AudioBlock.Auth.PrivyJwksCache
import AudioBlock.Auth.ServedKeys
import AudioBlock.Auth.FetchPacing
import AudioBlock.Auth.RevocationRuns
import AudioBlock.Auth.RecoveryCodes
import AudioBlock.Foundation.EntityColumns
import AudioBlock.Auth.AccountTokens
import AudioBlock.Auth.TokenReuse
import AudioBlock.Foundation.Broker
import AudioBlock.Delivery.SongMessages
import AudioBlock.Delivery.AttemptCounts
import AudioBlock.Delivery.MessageLoss
import AudioBlock.Delivery.WorkerDrain
import AudioBlock.Auth.VerifiedLogin
import AudioBlock.Accounts.AccountMergeService
import AudioBlock.Accounts.MergeConservation
import AudioBlock.Foundation.Transactions
import AudioBlock.Foundation.CallTable
import AudioBlock.Accounts.AccountDeletionService
import AudioBlock.Accounts.Erasure
import AudioBlock.Accounts.DeletionEffects
import AudioBlock.Accounts.DeletionLifecycle
import AudioBlock.Accounts.CancelledDeletion
import AudioBlock.Releases.ReleaseService
import AudioBlock.Releases.ReleaseStates
import AudioBlock.Releases.PreSaveCampaign
import AudioBlock.Releases.CampaignCalls
import AudioBlock.Releases.Fulfilment
import AudioBlock.Subscriptions.SubscriptionService
import AudioBlock.Subscriptions.LazyFinalisation
import AudioBlock.Subscriptions.SubscriptionCalls
import AudioBlock.Subscriptions.ActiveSubscription
import AudioBlock.Royalty.ShareTotals
import AudioBlock.Artists.ArtistProfileService
import AudioBlock.Artists.VerifiedBadge
import AudioBlock.Webhooks.WebhookService
import AudioBlock.Webhooks.WebhookIntegrity
import AudioBlock.Moderation.TakedownReversal
import AudioBlock.Moderation.ReportCalls
import AudioBlock.Moderation.AutoFlagging
import AudioBlock.Processing.CompletionCalls
import AudioBlock.Processing.OutputOwnership
import AudioBlock.Middlewares.ReplayedResponses
import AudioBlock.Foundation.SlidingWindow
import AudioBlock.Middlewares.WindowLimit
import AudioBlock.Indexer.PayloadNumbers
import AudioBlock.Reconciliation.ReportSoundness
import AudioBlock.Foundation.ByteTexts
import AudioBlock.Auth.WebhookSignatures
import AudioBlock.Foundation.Positions
import AudioBlock.Playlists.PlaylistService
import AudioBlock.Playlists.PlaylistRows
import AudioBlock.Playlists.PlaylistPositions
import AudioBlock.Playlists.SongMoves
import AudioBlock.Foundation.Newest
import AudioBlock.Subscriptions.GiftAccess
import AudioBlock.Subscriptions.CancelledAccess
import AudioBlock.Songs.VersionRoundTrip
import AudioBlock.Songs.ChunkMerge
import AudioBlock.Foundation.Markers
import AudioBlock.Foundation.CodeUnits
import AudioBlock.AI.FenceIntegrity
import AudioBlock.Foundation.Doubles
import AudioBlock.Auth.RetryRuns
import AudioBlock.Auth.RetrySpecification
import AudioBlock.Resilience.ConsecutiveFailures
import AudioBlock.Foundation.PercentEncoding
import AudioBlock.Foundation.Walks
import AudioBlock.Indexer.Reindex
import AudioBlock.Indexer.ReindexCoverage
import AudioBlock.Streaming.SegmentSpellings
import AudioBlock.Processing.WaveformPeaks
import AudioBlock.Playlists.RuleInvariant
import AudioBlock.Indexer.LegacyPoller
import AudioBlock.Foundation.KeysetPages
import AudioBlock.Activity.FeedPages
import AudioBlock.Moderation.BulkModeration
import AudioBlock.Moderation.ReportResolution
import AudioBlock.Moderation.ResolutionAtomicity
import AudioBlock.Streaming.PlayCounts
import AudioBlock.Streaming.PlayWindows
import AudioBlock.Foundation.Erasure
import AudioBlock.Foundation.LikePattern
import AudioBlock.Catalog.SongSearch
import AudioBlock.Catalog.ListedPages
import AudioBlock.Middlewares.SanitizeInput
import AudioBlock.Middlewares.MarkupRemoval
import AudioBlock.Utils.ContentSniffing
import AudioBlock.Foundation.Der
import AudioBlock.Auth.SignatureEncoding
import AudioBlock.Indexer.DrainTermination
import AudioBlock.Indexer.Backpressure
import AudioBlock.Soroban.Semaphore
import AudioBlock.Songs.AudioFingerprint
import AudioBlock.Utils.Redaction
import AudioBlock.Catalog.TagService
