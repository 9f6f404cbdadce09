import ImportService.Lib.Transition
import ImportService.Lib.KeyedTable
import ImportService.JsString
import ImportService.JsNumber
import ImportService.Json
import ImportService.ImportStatus
import ImportService.TransactionRecord
import ImportService.Database
import ImportService.Repositories
import ImportService.Statements
import ImportService.JobPoller
import ImportService.System
import ImportService.TerminalStatus
import ImportService.Integrity
import ImportService.Drift
import ImportService.Counters
import ImportService.EffectivelyOnce
import ImportService.Cancellation
import ImportService.Attempts
import ImportService.Lease
import ImportService.Fencing
import ImportService.Responsibility
import ImportService.Batching
import ImportService.ImportQuery
import ImportService.Lib.KeysetPage
import ImportService.RetryPolicy
import ImportService.Pagination
import ImportService.Summary
import ImportService.Lib.Paired
import ImportService.RawValues
import ImportService.StoredRecords
import ImportService.Lib.PieceCount
import ImportService.LineReader
import ImportService.TotalRecords
import ImportService.Rejections
import ImportService.ClosedRuns
import ImportService.CreateImport
import ImportService.Idempotency
import ImportService.Shutdown
import ImportService.Acceptance
import ImportService.Identities
import ImportService.Digits
import ImportService.IsoDate
import ImportService.JsonText
import ImportService.Reimport
import ImportService.Fingerprints
import ImportService.Lib.Ledger
import ImportService.ScoringPool
import ImportService.PoolShutdown
import ImportService.Semaphore
import ImportService.Backpressure
import ImportService.ExpiryTests
import ImportService.Heartbeats
import ImportService.Releases
import ImportService.PersistLimiter
import ImportService.SteadyPool
import ImportService.JsArithmetic
import ImportService.RetryDelays
import ImportService.FingerprintLookup
import ImportService.RiskScore
import ImportService.Saving
import ImportService.UploadCeiling
import ImportService.OrphanSweep
import ImportService.Recovery
import ImportService.JsonRoundTrip
import ImportService.Lib.PathSegments
import ImportService.Lib.FileTree
import ImportService.Queue
import ImportService.StoragePaths
import ImportService.GracefulShutdown
import ImportService.WorkerShutdown
import ImportService.PooledShutdown
import ImportService.HttpErrors
import ImportService.ImportApi
import ImportService.UploadSteps
import ImportService.UploadRetries
import ImportService.UploadGate
import ImportService.UploadProgress
import ImportService.Service
import ImportService.Arrival
import ImportService.Completion
import ImportService.ImportRoutes
import ImportService.ImportHistory
import ImportService.RouteReplies
