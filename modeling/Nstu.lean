import Nstu.Audit.Chunk
import Nstu.Audit.Delivery
import Nstu.Audit.Line
import Nstu.Audit.Sanitize
import Nstu.Audit.Spool
import Nstu.Client.Bridge
import Nstu.Client.FileDistribution
import Nstu.Client.FileDistributionRuns
import Nstu.Client.FileNames
import Nstu.Client.Lockdown
import Nstu.Client.LockdownRuns
import Nstu.Client.LockdownSafety
import Nstu.Control.Agreement
import Nstu.Control.Auth
import Nstu.Control.Capacity
import Nstu.Control.Channel
import Nstu.Control.CommandIntegrity
import Nstu.Control.FleetStatus
import Nstu.Control.Handshake
import Nstu.Control.Messages
import Nstu.Control.Nonces
import Nstu.Control.Pairing
import Nstu.Control.PairingCodec
import Nstu.Control.Parser
import Nstu.Control.Protocol
import Nstu.Control.RateLimiter
import Nstu.Control.Reflection
import Nstu.Control.Replay
import Nstu.Control.ReplayRuns
import Nstu.Core.CType
import Nstu.Core.FramedLog
import Nstu.Core.Framing
import Nstu.Core.HashChain
import Nstu.Core.JsonGrammar
import Nstu.Core.JsonScan
import Nstu.Core.JsonSize
import Nstu.Core.Lines
import Nstu.Core.Mac
import Nstu.Core.Map
import Nstu.Core.RoundTrip
import Nstu.Core.Sha256
import Nstu.Core.StableSort
import Nstu.Core.Text
import Nstu.Core.Utf8
import Nstu.Core.Wire
import Nstu.Exam.AckCodec
import Nstu.Exam.Control
import Nstu.Exam.ControlCodec
import Nstu.Exam.EventCodec
import Nstu.Exam.Journal.Ack
import Nstu.Exam.Journal.Atomic
import Nstu.Exam.Journal.Def
import Nstu.Exam.Journal.Export
import Nstu.Exam.Journal.Invariant
import Nstu.Exam.Journal.Log
import Nstu.Exam.Journal.Recovery
import Nstu.Exam.Journal.State
import Nstu.Exam.Outbox.Codec
import Nstu.Exam.Outbox.Def
import Nstu.Exam.Outbox.Exit
import Nstu.Exam.Outbox.Frame
import Nstu.Exam.Outbox.Invariant
import Nstu.Exam.Outbox.Migrate
import Nstu.Exam.Outbox.Rebase
import Nstu.Exam.Outbox.Reload
import Nstu.Exam.PackageDigest
import Nstu.Exam.PackageInspection
import Nstu.Exam.Service.Client
import Nstu.Exam.Service.Order
import Nstu.Exam.Service.Safety
import Nstu.Exam.Service.Steps
import Nstu.Exam.Service.World
import Nstu.Exam.StateChunks
import Nstu.Exam.StateCodec
import Nstu.Exam.StateDecode
import Nstu.Exam.TicketCodec
import Nstu.Exam.Types
import Nstu.Maintenance.Authorize
import Nstu.Maintenance.Intent
import Nstu.Maintenance.IntentCodec
import Nstu.Server.AnswerKey
import Nstu.Server.Connection
import Nstu.Server.Enrollment
import Nstu.Server.ExamGate
import Nstu.Server.GradeExport
import Nstu.Server.Grader
import Nstu.Server.KeyStore
import Nstu.Server.Keyring
import Nstu.Server.Ownership
import Nstu.Server.Pairing
import Nstu.Server.Registry
import Nstu.Server.StreamRearm
import Nstu.Server.TelemetryGate
import Nstu.Telemetry.Batch
import Nstu.Telemetry.BatchCodec
import Nstu.Telemetry.Journal.Def
import Nstu.Telemetry.Journal.Exit
import Nstu.Telemetry.Journal.Growth
import Nstu.Telemetry.Journal.Index
import Nstu.Telemetry.Journal.Metadata
import Nstu.Telemetry.Journal.Once
import Nstu.Telemetry.Journal.Quota
import Nstu.Telemetry.Journal.Refusal
import Nstu.Telemetry.Journal.Reopen
import Nstu.Telemetry.Journal.Restart
import Nstu.Telemetry.Journal.Ring
import Nstu.Telemetry.Journal.Segments
import Nstu.Telemetry.Lifecycle
import Nstu.Telemetry.Messages
import Nstu.Telemetry.Outbox.Accounting
import Nstu.Telemetry.Outbox.Atomic
import Nstu.Telemetry.Outbox.Def
import Nstu.Telemetry.Outbox.Exit
import Nstu.Telemetry.Outbox.Filed
import Nstu.Telemetry.Outbox.Guarded
import Nstu.Telemetry.Outbox.Legacy
import Nstu.Telemetry.Outbox.LossQuota
import Nstu.Telemetry.Outbox.Open
import Nstu.Telemetry.Outbox.OpenExit
import Nstu.Telemetry.Outbox.Prune
import Nstu.Telemetry.Outbox.Reload
import Nstu.Telemetry.Outbox.Reserve
import Nstu.Telemetry.Outbox.RoundTrip
import Nstu.Telemetry.Outbox.Run
import Nstu.Telemetry.Outbox.Safe
import Nstu.Telemetry.Outbox.Sound
import Nstu.Telemetry.WireFormat
import Nstu.Update.Announced
import Nstu.Update.Installation
import Nstu.Update.Manifest
import Nstu.Update.Reader
import Nstu.Update.RecordObject
import Nstu.Update.RecordReader
import Nstu.Update.SavedRecord
import Nstu.Update.Signing
import Nstu.Update.Staging
import Nstu.Update.StagingRecord
import Nstu.Update.Types
import Nstu.Video.Buffered
import Nstu.Video.Delivery
import Nstu.Video.Jitter
import Nstu.Video.Loss
import Nstu.Video.Reassembler
import Nstu.Video.Sequence
import Nstu.Video.Transport
import Nstu.Web.Acknowledge
import Nstu.Web.Answers
import Nstu.Web.Changes
import Nstu.Web.Chunks
import Nstu.Web.Drafts
import Nstu.Web.Durable
import Nstu.Web.Event
import Nstu.Web.Host
import Nstu.Web.JsonConformance
import Nstu.Web.JsonEscape
import Nstu.Web.JsonReader
import Nstu.Web.JsonStrings
import Nstu.Web.LateState
import Nstu.Web.Load
import Nstu.Web.Manifest
import Nstu.Web.Origins
import Nstu.Web.Page
import Nstu.Web.Reassembly
import Nstu.Web.Recovery
import Nstu.Web.Restore
import Nstu.Web.Sha256
import Nstu.Web.Stored
import Nstu.Web.Studio
import Nstu.Web.Zip
