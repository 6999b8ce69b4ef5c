import Secupload.Library.Table
import Secupload.Library.Runs
import Secupload.Library.BigEndian
import Secupload.Library.Parsing
import Secupload.Library.Lru
import Secupload.Shared.Models
import Secupload.Shared.Codec
import Secupload.Shared.Crypto
import Secupload.Shared.Envelope
import Secupload.Shared.Messages
import Secupload.Shared.Framing
import Secupload.Shared.Replay
import Secupload.Shared.CredentialState
import Secupload.Shared.RotationWindow
import Secupload.Shared.CredentialLifecycle
import Secupload.Shared.Keys
import Secupload.Server.Database
import Secupload.Server.Registry
import Secupload.Server.Enrollment
import Secupload.Server.Recovery
import Secupload.Library.Interleaving
import Secupload.Server.Concurrency
import Secupload.Server.Auth
import Secupload.Server.Identity
import Secupload.Server.Tunnel2
import Secupload.Server.OwnKeys
import Secupload.Server.ControlActions
import Secupload.Client.Identity
import Secupload.Client.Session
import Secupload.Client.ResponseAuthenticity
import Secupload.Library.Pump
import Secupload.Proxy.Cache
import Secupload.Proxy.Tunnel
import Secupload.Proxy.Validation
import Secupload.Library.Clock
import Secupload.Library.Blocks
import Secupload.Library.AppendLog
import Secupload.Shared.RotationTiming
import Secupload.Shared.Sealing
import Secupload.Server.Permanence
import Secupload.Server.EngineRefinement
import Secupload.Server.Objects
import Secupload.Server.Relay
import Secupload.Server.Uploads
import Secupload.Client.KeyAdoption
import Secupload.Client.Connect
import Secupload.Client.Api
import Secupload.System.Link
import Secupload.System.RoundTrip
import Secupload.System.ChunkOrder
import Secupload.Server.OwnRotation
import Secupload.System.Replies
import Secupload.System.ServerRotation
import Secupload.Shared.StatusTable
import Secupload.Client.Rotation
import Secupload.System.Control
import Secupload.System.Rotation
import Secupload.System.Agreement
import Secupload.System.Enrollment
import Secupload.System.Bystanders
import Secupload.System.Convergence
import Secupload.Library.Formats
import Secupload.Shared.Formats
import Secupload.Shared.Canonical
import Secupload.Shared.SignedBytes
import Secupload.Server.Succession
import Secupload.System.ProxyCheck
import Secupload.Server.Noninterference
import Secupload.Library.Renewal
import Secupload.Server.Continuity
import Secupload.System.Restarts
import Secupload.System.Delivery
import Secupload.System.ControlBurst
import Secupload.System.Bursts
import Secupload.Server.TokenAuthority
import Secupload.System.Effects
import Secupload.System.Service
import Secupload.System.RecoveryTokens
import Secupload.Server.CrashConsistency
import Secupload.System.Owners
import Secupload.Server.ObjectLife
import Secupload.Server.StoreEvents
import Secupload.System.Refusals
import Secupload.Server.Answers
import Secupload.System.Answered
import Secupload.System.Download
import Secupload.System.Persistence
import Secupload.Shared.ExpirySweep
import Secupload.Server.RegistryRuns
import Secupload.System.Submission
import Secupload.Server.KeyLengths
import Secupload.Library.Segments
import Secupload.Shared.FrameStream
import Secupload.Proxy.FrameRelay
import Secupload.System.ReplyKeys
import Secupload.Server.Audit
import Secupload.System.Relayed
import Secupload.System.RelayedProgress
import Secupload.Server.StoreThreads
import Secupload.System.Mediation
import Secupload.Shared.ReplayThreads
import Secupload.Server.EnrollThreads
import Secupload.System.ByteTunnel
import Secupload.System.Accountability
import Secupload.Server.Announcement
import Secupload.System.Attacker
import Secupload.System.Freshness
