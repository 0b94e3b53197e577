import SafetyConfirmation.Lib.Checks
import SafetyConfirmation.Lib.StepMachine
import SafetyConfirmation.Lib.KeyedStore
import SafetyConfirmation.Retry.Evaluator
import SafetyConfirmation.Response.Row
import SafetyConfirmation.KeywordMatcher.Handler
import SafetyConfirmation.StateMachine.Iteration
import SafetyConfirmation.StateMachine.RowRun
import SafetyConfirmation.StateMachine.Redial
import SafetyConfirmation.Cycle.Finalize
import SafetyConfirmation.Cycle.Finalizer
import SafetyConfirmation.Employee.LoadTargets
import SafetyConfirmation.StateMachine.MapRun
import SafetyConfirmation.StateMachine.Drained
import SafetyConfirmation.StateMachine.Timers
import SafetyConfirmation.Cycle.Api
import SafetyConfirmation.StateMachine.Lifecycle
import SafetyConfirmation.Inbound.CycleSelection
import SafetyConfirmation.Lib.FlowGraph
import SafetyConfirmation.Data.Calendar
import SafetyConfirmation.Inbound.Contact
import SafetyConfirmation.Inbound.Handler
import SafetyConfirmation.Inbound.ContactFlow
import SafetyConfirmation.Data.Http
import SafetyConfirmation.Dictionary.Handler
import SafetyConfirmation.Dictionary.Agreement
import SafetyConfirmation.Dictionary.Concurrent
import SafetyConfirmation.Dictionary.Versions
import SafetyConfirmation.Dictionary.Replay
import SafetyConfirmation.Dictionary.Snapshots
import SafetyConfirmation.Cycle.Starts
import SafetyConfirmation.Cycle.Exclusivity
import SafetyConfirmation.Cycle.Idempotency
import SafetyConfirmation.Inbound.CycleHistory
import SafetyConfirmation.StateMachine.StartInput
import SafetyConfirmation.Cycle.FinalizerCalls
import SafetyConfirmation.Cycle.Closing
import SafetyConfirmation.Cycle.TimeoutReport
import SafetyConfirmation.Cycle.Settled
import SafetyConfirmation.Lib.Pattern
import SafetyConfirmation.Recording.Keys
import SafetyConfirmation.Response.Bookkeeping
import SafetyConfirmation.Recording.Relocator
import SafetyConfirmation.Recording.Api
import SafetyConfirmation.Recording.Relocation
import SafetyConfirmation.Recording.TranscriptMeta
import SafetyConfirmation.Recording.Transcription
import SafetyConfirmation.Data.Crypto
import SafetyConfirmation.Response.Api
import SafetyConfirmation.Inbound.Deliveries
import SafetyConfirmation.Inbound.FinalizeOnce
import SafetyConfirmation.Inbound.OneCycle
import SafetyConfirmation.Lib.Interleaving
import SafetyConfirmation.Employee.Csv
import SafetyConfirmation.Auth.Authorization
import SafetyConfirmation.Employee.Service
import SafetyConfirmation.Employee.Api
import SafetyConfirmation.Employee.Conduct
import SafetyConfirmation.Employee.Requests
import SafetyConfirmation.Employee.UniqueNumbers
import SafetyConfirmation.Employee.ImportRollback
import SafetyConfirmation.Employee.Deletion
import SafetyConfirmation.Employee.EncryptionModes
import SafetyConfirmation.Cycle.Routes
import SafetyConfirmation.Employee.CognitoRemoval
import SafetyConfirmation.Auth.AdministratorOnly
import SafetyConfirmation.Auth.Lockout
import SafetyConfirmation.Auth.LockoutRuns
import SafetyConfirmation.Auth.Roles
import SafetyConfirmation.Cycle.Client
import SafetyConfirmation.Keyword.Transcript
import SafetyConfirmation.StateMachine.UnreachableOnly
import SafetyConfirmation.Employee.PageChecks
import SafetyConfirmation.Employee.CsvFile
import SafetyConfirmation.Employee.CsvAgreement
import SafetyConfirmation.Employee.Anonymize
import SafetyConfirmation.Employee.AnonymizeRuns
import SafetyConfirmation.Lib.Lockstep
import SafetyConfirmation.Audit.Log
import SafetyConfirmation.Employee.Logged
import SafetyConfirmation.Employee.Renumbered
import SafetyConfirmation.Employee.RenumberedRequests
import SafetyConfirmation.Employee.LoggedNumbers
import SafetyConfirmation.Employee.LogRuns
import SafetyConfirmation.Inbound.Logged
import SafetyConfirmation.Inbound.Renumbered
import SafetyConfirmation.Audit.MaskedNumbers
import SafetyConfirmation.Lib.CivilTime
import SafetyConfirmation.Lib.IsoText
import SafetyConfirmation.Inbound.CycleRecords
import SafetyConfirmation.Inbound.LatestCycle
import SafetyConfirmation.Inbound.RecentCycles
import SafetyConfirmation.StateMachine.RetryLoop
import SafetyConfirmation.Lib.Binary64
import SafetyConfirmation.Retry.IsoInterval
import SafetyConfirmation.KeywordMatcher.Invocation
import SafetyConfirmation.Employee.DuplicateCheck
import SafetyConfirmation.Employee.IndexKeys
import SafetyConfirmation.Lib.UnicodeText
import SafetyConfirmation.Lib.Base64
import SafetyConfirmation.Lib.JsonText
import SafetyConfirmation.Crypto.Envelope
import SafetyConfirmation.Crypto.RoundTrip
import SafetyConfirmation.Employee.E164
import SafetyConfirmation.Employee.E164Runs
import SafetyConfirmation.Employee.FileGate
import SafetyConfirmation.Keyword.ClassificationLaw
import SafetyConfirmation.Recording.KeyCodecs
import SafetyConfirmation.Recording.JobNames
import SafetyConfirmation.Employee.ImportCounts
import SafetyConfirmation.Cycle.Aggregates
import SafetyConfirmation.Cycle.StatusPage
import SafetyConfirmation.Cycle.TimeoutRows
import SafetyConfirmation.Inbound.Listing
import SafetyConfirmation.Employee.TargetCalls
import SafetyConfirmation.Recording.NativeKeys
import SafetyConfirmation.Lib.Decimals
import SafetyConfirmation.Employee.AnonymizeItems
import SafetyConfirmation.Connect.Rows
import SafetyConfirmation.Pipeline.Transcripts
import SafetyConfirmation.Pipeline.Alone
