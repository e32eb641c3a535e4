import HamLogger.Library.Transition
import HamLogger.Library.HashChain
import HamLogger.Library.Replay
import HamLogger.Library.KeyMap
import HamLogger.Library.Program
import HamLogger.Library.FileReplace
import HamLogger.Library.DocumentStore
import HamLogger.Library.UpdateFirst
import HamLogger.Library.ByteText
import HamLogger.Core.Basic
import HamLogger.Core.Json
import HamLogger.Core.PluginSdk
import HamLogger.Core.Event
import HamLogger.Core.Bus
import HamLogger.Core.Permissions
import HamLogger.Core.Projection
import HamLogger.Core.Net
import HamLogger.Core.EmComm
import HamLogger.Core.Crates
import HamLogger.Core.Store
import HamLogger.Core.StoreInvariant
import HamLogger.Core.StoreRuns
import HamLogger.Core.StoreBatch
import HamLogger.Core.JsonlStore
import HamLogger.Core.EventLines
import HamLogger.Core.JsonlSchedule
import HamLogger.Core.JsonlFailure
import HamLogger.Core.Readability
import HamLogger.Core.NetReadability
import HamLogger.Core.EmCommReadability
import HamLogger.Core.ProposalSchema
import HamLogger.Core.Proposal
import HamLogger.Core.Submission
import HamLogger.Core.ProposalRuns
import HamLogger.Core.RemoteRebuild
import HamLogger.Core.ProposalRebuild
import HamLogger.Core.Adif
import HamLogger.Core.AdifCrates
import HamLogger.Core.AdifReading
import HamLogger.Core.AdifSafety
import HamLogger.Core.AdifExport
import HamLogger.Core.AdifRoundTrip
import HamLogger.Core.AdifContact
import HamLogger.Core.AdifReimport
import HamLogger.Sync.Pull
import HamLogger.Sync.PullOutcome
import HamLogger.Sync.PullGuarantees
import HamLogger.Sync.ProposalReplication
import HamLogger.Sync.Replicas
import HamLogger.Sync.LanTrust
import HamLogger.Sync.HostedAccountRuns
import HamLogger.Sync.LanReplay
import HamLogger.Sync.OfflineQueue
import HamLogger.Sync.QueueStore
import HamLogger.Sync.QueueRuns
import HamLogger.Sync.QueueEvolution
import HamLogger.Sync.QueueIdentifiers
import HamLogger.Sync.QueueAcceptance
import HamLogger.Sync.QueueSequences
import HamLogger.Sync.ConflictReview
import HamLogger.Sync.ReviewRuns
import HamLogger.Sync.TrustStore
import HamLogger.Sync.TrustRuns
import HamLogger.Sync.AtomicWrite
import HamLogger.Sync.CloudSession
import HamLogger.Sync.CloudRuns
import HamLogger.Core.EmCommAtomic
import HamLogger.Core.MessageNumbers
import HamLogger.Core.UploadQueue
import HamLogger.Core.UploadClaims
import HamLogger.Core.RecordLedgers
import HamLogger.Core.ContactRules
import HamLogger.Core.NetStates
import HamLogger.Core.EmCommLedgers
import HamLogger.Core.AppendOnly
import HamLogger.Sync.CloudService
import HamLogger.Sync.CloudAgreement
import HamLogger.Library.Catalog
import HamLogger.Library.TableStore
import HamLogger.Server.Records
import HamLogger.Server.State
import HamLogger.Server.MetadataStore
import HamLogger.Server.AccountHandlers
import HamLogger.Server.SaveInterruption
import HamLogger.Library.Credential
import HamLogger.Server.PushAgreement
import HamLogger.Server.SessionSteps
import HamLogger.Server.BackupHandlers
import HamLogger.Server.StationRules
import HamLogger.Server.ImportSteps
import HamLogger.Server.StationRuns
import HamLogger.Server.LogbookIsolation
import HamLogger.Server.SyncIsolation
import HamLogger.Server.ImportOutcome
import HamLogger.Server.ReplicationRights
import HamLogger.Sync.HostedAccount
import HamLogger.Sync.RetryResult
import HamLogger.Sync.LanPairing
import HamLogger.Sync.LanPairingRuns
import HamLogger.Sync.RetryOutcome
import HamLogger.Sync.CorrectiveEvents
import HamLogger.Sync.CorrectiveOutcome
import HamLogger.Sync.LocalBackup
import HamLogger.Sync.LocalBackupOutcome
import HamLogger.Sync.LanExposure
import HamLogger.Server.ProviderRuns
import HamLogger.Sync.CloudPush
import HamLogger.Sync.CloudPushOutcome
import HamLogger.Sync.QueueDraining
import HamLogger.Core.StationBook
import HamLogger.Core.StationBookRuns
import HamLogger.Server.PullPreview
import HamLogger.Core.ActivationStates
import HamLogger.Core.CredentialAgreement
import HamLogger.Core.DiagnosticRedaction
import HamLogger.Core.LiveUpload
import HamLogger.Core.LiveUploadRedaction
import HamLogger.Sync.HostedAccountSecrets
import HamLogger.Sync.HostedAccountSecretRuns
import HamLogger.Core.ActivationStatistics
import HamLogger.Core.ContactDeletion
import HamLogger.Sync.ConflictReport
import HamLogger.Sync.RetryDelay
import HamLogger.Sync.AttemptBudget
import HamLogger.Sync.QueueRecovery
import HamLogger.Sync.LegacyMigration
import HamLogger.Library.ChainSegment
import HamLogger.Sync.BatchSegment
import HamLogger.Core.AdifImport
import HamLogger.Core.AdifIdempotence
import HamLogger.Core.BusRedaction
import HamLogger.Core.Contest
import HamLogger.Core.TextForms
import HamLogger.Core.ContestExchange
import HamLogger.Core.ContestCatalog
import HamLogger.Core.GridLocators
import HamLogger.Library.WindowCounter
import HamLogger.Server.RateLimits
import HamLogger.Server.TimeToLive
import HamLogger.Core.Search
import HamLogger.Core.SearchDates
import HamLogger.Sync.PeerRegistry
import HamLogger.Sync.HostedAccountOverlap
import HamLogger.Sync.PeerSelection
import HamLogger.Server.DivergenceReview
import HamLogger.Server.DivergenceVerdict
import HamLogger.Core.CircuitBreaker
import HamLogger.Core.ProviderRateLimiter
import HamLogger.Core.RuntimeLog
import HamLogger.Core.BundleHash
import HamLogger.Core.ZipArchive
import HamLogger.Core.LookupCache
import HamLogger.Core.ContestSerde
import HamLogger.Core.ContestSignature
import HamLogger.Library.LineStream
import HamLogger.Server.HttpWire
import HamLogger.Server.HttpRoundTrip
import HamLogger.Server.HttpStream
import HamLogger.Server.HttpResponse
import HamLogger.Server.SyncRouter
import HamLogger.Server.SyncRouterRuns
import HamLogger.Server.ReportAccess
import HamLogger.Library.SavedFile
import HamLogger.Core.PermissionGrants
import HamLogger.Core.PermissionGrantRuns
import HamLogger.Library.SortedChoice
import HamLogger.Core.ServiceRegistry
import HamLogger.Core.ServiceSelection
import HamLogger.Core.LookupService
import HamLogger.Core.LookupServiceRuns
import HamLogger.Core.Awards
