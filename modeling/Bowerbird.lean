import Bowerbird.Foundation.Machine
import Bowerbird.Foundation.Transaction
import Bowerbird.Foundation.Interaction
import Bowerbird.Foundation.Broadcast
import Bowerbird.Foundation.KeyedTable
import Bowerbird.Foundation.EventLog
import Bowerbird.Protocol.Event
import Bowerbird.Protocol.Json
import Bowerbird.Projection.State
import Bowerbird.Db.Codec
import Bowerbird.Db.Schema
import Bowerbird.Adapter.Normalize
import Bowerbird.Broadcast.Event
import Bowerbird.Daemon.LogFold
import Bowerbird.Daemon.PublishAfterCommit
import Bowerbird.Daemon.SyntheticEnd
import Bowerbird.Api.Filter
import Bowerbird.Api.Rest
import Bowerbird.Api.Ws
import Bowerbird.Daemon.Connection
import Bowerbird.Daemon.Delivery
import Bowerbird.Daemon.DroppedRecovery
import Bowerbird.Daemon.Freshness
import Bowerbird.Daemon.Mirror
import Bowerbird.Daemon.Recovery
import Bowerbird.Daemon.Coverage
import Bowerbird.Daemon.SnapshotBursts
import Bowerbird.Daemon.Supersession
import Bowerbird.Foundation.Utf8
import Bowerbird.Foundation.Channel
import Bowerbird.Ingest.Handler
import Bowerbird.Api.EventJson
import Bowerbird.Api.Replay
import Bowerbird.Daemon.Process
import Bowerbird.Daemon.IngestDrain
import Bowerbird.Daemon.Provenance
import Bowerbird.Daemon.FrontDoors
import Bowerbird.Daemon.Mortality
import Bowerbird.Daemon.RecordingWindow
import Bowerbird.Shim.ReplyAgreement
import Bowerbird.Shim.Truncation
import Bowerbird.Adapter.LostUpdate
import Bowerbird.Daemon.SingletonIdentity
import Bowerbird.Projection.CurrentState
import Bowerbird.Api.SessionList
import Bowerbird.Daemon.History
import Bowerbird.Daemon.CleanHistory
import Bowerbird.Daemon.PidSuccession
import Bowerbird.Daemon.LivenessSweep
import Bowerbird.Daemon.Coalescing
import Bowerbird.Daemon.DroppedBound
import Bowerbird.Daemon.Polling
import Bowerbird.Adapter.MergeStrip
import Bowerbird.Commands.Export
import Bowerbird.Projection.LogCopy
import Bowerbird.Daemon.LiveLog
import Bowerbird.Daemon.ReplayDrain
import Bowerbird.Daemon.RoundTrip
import Bowerbird.Broadcast.TopicGrammar
import Bowerbird.Api.CloseReason
import Bowerbird.Shim.Log
import Bowerbird.Api.ReplayAccounting
import Bowerbird.Foundation.Substring
import Bowerbird.Commands.LaunchAgent
import Bowerbird.Shim.WriteLoop
import Bowerbird.Commands.ExportPaging
import Bowerbird.Foundation.Directory
import Bowerbird.Foundation.Interference
import Bowerbird.Foundation.FileProgram
import Bowerbird.Adapter.AtomicWrite
import Bowerbird.Adapter.SeedToolReactions
import Bowerbird.Shim.HookDelivery
import Bowerbird.Commands.TokenAgreement
import Bowerbird.Commands.TokenSharing
import Bowerbird.Commands.BearerGate
import Bowerbird.Commands.ExportWire
import Bowerbird.Commands.ReplayWire
import Bowerbird.Commands.PipeWire
import Bowerbird.Commands.SupervisionRuns
