import JarvisCore.Foundation.TransitionSystem
import JarvisCore.Foundation.Dictionary
import JarvisCore.Foundation.AsyncIO
import JarvisCore.Foundation.Text
import JarvisCore.Domain.Values
import JarvisCore.Domain.Errors
import JarvisCore.Domain.Models
import JarvisCore.Manager.Operations
import JarvisCore.Manager.Execution
import JarvisCore.Manager.Invariant
import JarvisCore.Manager.Evolution
import JarvisCore.Manager.Connections
import JarvisCore.Manager.PendingOwnership
import JarvisCore.Manager.ResultCorrelation
import JarvisCore.Manager.AcceptedResults
import JarvisCore.Manager.Dispatch
import JarvisCore.Security.Credentials
import JarvisCore.Security.DeviceTables
import JarvisCore.Pairing.Challenges
import JarvisCore.Pairing.Contract
import JarvisCore.Pairing.Backends
import JarvisCore.Pairing.DurableClaim
import JarvisCore.Security.DeviceRecords
import JarvisCore.Service.Invariant
import JarvisCore.Service.GrantContainment
import JarvisCore.Service.Revocation
import JarvisCore.Gateway.Handlers
import JarvisCore.Gateway.Operations
import JarvisCore.Gateway.Effects
import JarvisCore.Gateway.Invariant
import JarvisCore.Gateway.ZombieSessions
import JarvisCore.Gateway.Cleanup
import JarvisCore.Security.CredentialHistory
import JarvisCore.Service.FailedRevocation
import JarvisCore.Manager.Isolation
import JarvisCore.Foundation.Url
import JarvisCore.Configuration.Settings
import JarvisCore.Configuration.TrustDomains
import JarvisCore.Manager.Deadlines
import JarvisCore.Gateway.Transports
import JarvisCore.Gateway.Wire
import JarvisCore.Gateway.Turns
import JarvisCore.Gateway.Sessions
import JarvisCore.Gateway.Frames
import JarvisCore.Gateway.FrameOrder
import JarvisCore.Gateway.CloseCodes
import JarvisCore.Gateway.ReferenceMachine
import JarvisCore.Gateway.Outputs
import JarvisCore.Gateway.Conformance
import JarvisCore.Gateway.ReferenceRuns
import JarvisCore.Gateway.ConnectionStates
import JarvisCore.Assistant.PromptBuilder
import JarvisCore.Pairing.ClaimRollback
import JarvisCore.Security.DurableProjection
import JarvisCore.Foundation.Files
import JarvisCore.Scripts.BackupPostgres
import JarvisCore.Gateway.Heartbeats
import JarvisCore.Foundation.Schema
import JarvisCore.Protocol.Json
import JarvisCore.Protocol.Messages
import JarvisCore.Protocol.RoundTrip
import JarvisCore.Protocol.Commands
import JarvisCore.Gateway.CommandResults
import JarvisCore.Foundation.Lockstep
import JarvisCore.Service.Compositions
import JarvisCore.Security.StoreAgreement
import JarvisCore.Service.SequentialPairing
import JarvisCore.Service.CompositionEquality
import JarvisCore.Foundation.Coroutines
import JarvisCore.Foundation.LockOrder
import JarvisCore.Gateway.Locks
import JarvisCore.Foundation.Utf8
import JarvisCore.Gateway.CloseReasons
import JarvisCore.Assistant.MemoryRepository
import JarvisCore.Domain.Documents
import JarvisCore.Foundation.Overlays
import JarvisCore.Scripts.ImportLegacyMemory
import JarvisCore.Foundation.FairLock
import JarvisCore.Manager.SendLocks
import JarvisCore.Foundation.Progress
import JarvisCore.Foundation.Restarts
import JarvisCore.Manager.DispatchOrder
import JarvisCore.Manager.Progress
import JarvisCore.Service.Restarts
import JarvisCore.Gateway.ResultOrigins
import JarvisCore.Scripts.RestorePostgres
import JarvisCore.Api.Authority
import JarvisCore.Assistant.Chats
import JarvisCore.Foundation.LockUsers
import JarvisCore.Pairing.Progress
import JarvisCore.Service.Progress
import JarvisCore.Api.DeviceViews
