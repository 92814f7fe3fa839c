import BrunostJudge.LeasedWork
import BrunostJudge.StoreRun
import BrunostJudge.Raising
import BrunostJudge.StoreSpec
import BrunostJudge.Lifecycle
import BrunostJudge.Finality
import BrunostJudge.Fencing
import BrunostJudge.Cancellation
import BrunostJudge.Publication
import BrunostJudge.Outbox
import BrunostJudge.Postgres
import BrunostJudge.Interleaving
import BrunostJudge.Server
import BrunostJudge.Submission
import BrunostJudge.PyCollections
import BrunostJudge.Registrations
import BrunostJudge.SubmissionSpec
import BrunostJudge.Claimability
import BrunostJudge.Nodes
import BrunostJudge.Enrollment
import BrunostJudge.Idempotency
import BrunostJudge.Worker
import BrunostJudge.Acceptance
import BrunostJudge.Backends
import BrunostJudge.LeasedDelivery
import BrunostJudge.Deliveries
import BrunostJudge.Dispatch
import BrunostJudge.Notifications
import BrunostJudge.Endpoints
import BrunostJudge.Participation
import BrunostJudge.Compatibility
import BrunostJudge.Authority
import BrunostJudge.SharedRow
import BrunostJudge.Advertisements
import BrunostJudge.SingleUse
import BrunostJudge.SingleEnrollment
import BrunostJudge.Framing
import BrunostJudge.AgentRuntime
import BrunostJudge.AgentContainment
import BrunostJudge.AgentFraming
import BrunostJudge.PyFloat
import BrunostJudge.ClassicRunner
import BrunostJudge.OptimizationRunner
import BrunostJudge.Verdicts
import BrunostJudge.ManifestAgreement
import BrunostJudge.AnswerKeys
import BrunostJudge.ManifestText
import BrunostJudge.FlatManifests
import BrunostJudge.ManifestReaders
import BrunostJudge.QuizRunner
import BrunostJudge.TaskValidator
import BrunostJudge.FloatBounds
import BrunostJudge.PyDumpsSize
import BrunostJudge.RunnerResults
import BrunostJudge.QuizResults
import BrunostJudge.Selection
import BrunostJudge.ScorerResults
import BrunostJudge.InteractiveSession
import BrunostJudge.SessionChunking
import BrunostJudge.AgentExit
import BrunostJudge.AgentTurns
import BrunostJudge.AgentCleanup
import BrunostJudge.PluginLaunch
import BrunostJudge.TestFiles
import BrunostJudge.FileTree
import BrunostJudge.SafeExtract
import BrunostJudge.PackDirectory
import BrunostJudge.LengthPrefix
import BrunostJudge.TaskDigest
import BrunostJudge.PyUtf8
import BrunostJudge.CallbackSignature
import BrunostJudge.OrderedTable
import BrunostJudge.RateLimiter
import BrunostJudge.FixedWidth
import BrunostJudge.PyDatetime
import BrunostJudge.StoredTimes
import BrunostJudge.QuizRecords
import BrunostJudge.QuizScoring
import BrunostJudge.Means
import BrunostJudge.OptimizationScoring
import BrunostJudge.PluginResults
import BrunostJudge.PyDicts
import BrunostJudge.Deadlines
import BrunostJudge.InteractiveContainment
import BrunostJudge.AccessRuns
import BrunostJudge.TokenRotation
import BrunostJudge.WorkerCredentials
import BrunostJudge.ArtifactStore
import BrunostJudge.ArtifactRuns
import BrunostJudge.ModelRunner
import BrunostJudge.ModelPhases
import BrunostJudge.ModelExposure
import BrunostJudge.ModelManifest
import BrunostJudge.LeaseRenewal
import BrunostJudge.PostgresLifecycle
import BrunostJudge.PostgresSubmissions
