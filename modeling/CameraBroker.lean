import CameraBroker.Text.Blank
import CameraBroker.Text.Quoted
import CameraBroker.Text.Duration
import CameraBroker.Decimal.Text
import CameraBroker.Decimal.Numeral
import CameraBroker.Decimal.Unsigned
import CameraBroker.CameraId
import CameraBroker.Lifecycle
import CameraBroker.Retry.Call
import CameraBroker.Inbox
import CameraBroker.IdleTimer.Scripted
import CameraBroker.Handle.Bench
import CameraBroker.Hardware.Bench
import CameraBroker.Broker.Client
import CameraBroker.Toml.Grammar
import CameraBroker.Toml.Written
import CameraBroker.Toml.Schema
import CameraBroker.Config.File
import CameraBroker.Demonstration
import CameraBroker.CommandLine.Outcome
import CameraBroker.Main
import CameraBroker.Proofs.ActiveSessions
import CameraBroker.Proofs.Fates
import CameraBroker.Proofs.Shutdown
import CameraBroker.Proofs.Bindings
import CameraBroker.Proofs.Barrier
import CameraBroker.Proofs.IdleRelease
import CameraBroker.Proofs.NoStranded
import CameraBroker.Proofs.CloseRequests
import CameraBroker.Proofs.Overflow
import CameraBroker.Proofs.ExternalClosure
import CameraBroker.Proofs.Departures
import CameraBroker.Proofs.Failures
import CameraBroker.Proofs.TimerRuns
import CameraBroker.Proofs.AsksOnce
import CameraBroker.Proofs.HandleLife
import CameraBroker.Proofs.CameraCounts
import CameraBroker.Proofs.BackendRuns
import CameraBroker.Proofs.SessionTokens
import CameraBroker.Proofs.AnsweredOpens
import CameraBroker.Proofs.RefusedNotices
import CameraBroker.Proofs.Mirroring
import CameraBroker.Proofs.Progress
import CameraBroker.Proofs.SavedConfig
import CameraBroker.Proofs.Retrying
import CameraBroker.Proofs.OpenerCalls
import CameraBroker.Proofs.SharedTimer
import CameraBroker.Proofs.ReadTables
import CameraBroker.Proofs.TakenFields
import CameraBroker.Proofs.Overlay
import CameraBroker.Proofs.DemonstrationRuns
