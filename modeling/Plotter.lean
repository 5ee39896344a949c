import Plotter.Bench
import Plotter.Binary
import Plotter.Camera.Basic
import Plotter.Camera.Controller
import Plotter.Camera.Tuning
import Plotter.Decimal.Shortest
import Plotter.Decimal.Style
import Plotter.Engine.Basic
import Plotter.Engine.Expression
import Plotter.Engine.Pool
import Plotter.Engine.Surface
import Plotter.Error
import Plotter.FrameLoop.Basic
import Plotter.FrameLoop.Source
import Plotter.FrameLoop.State
import Plotter.Graph.Basic
import Plotter.Graph.Document
import Plotter.Graph.Edit
import Plotter.Json.Choice
import Plotter.Json.Codec
import Plotter.Json.Fault
import Plotter.Json.Numeral
import Plotter.Json.Quotation
import Plotter.Json.Record
import Plotter.Json.Scan
import Plotter.Json.Skip
import Plotter.Json.Value
import Plotter.Notice
import Plotter.Notification
import Plotter.Proofs.Accounting
import Plotter.Proofs.Acquisitions
import Plotter.Proofs.CameraRange
import Plotter.Proofs.Coherence
import Plotter.Proofs.ConfigDocuments
import Plotter.Proofs.Echoes
import Plotter.Proofs.ExpressionGrammar
import Plotter.Proofs.FrameCounts
import Plotter.Proofs.FrameRuns
import Plotter.Proofs.GraphDocuments
import Plotter.Proofs.GraphIndices
import Plotter.Proofs.GraphList
import Plotter.Proofs.History
import Plotter.Proofs.JsonCodecs
import Plotter.Proofs.JsonContents
import Plotter.Proofs.JsonNumerals
import Plotter.Proofs.JsonRefusals
import Plotter.Proofs.JsonSkipping
import Plotter.Proofs.JsonTexts
import Plotter.Proofs.LastInputs
import Plotter.Proofs.LiveEngines
import Plotter.Proofs.Lockstep
import Plotter.Proofs.LoopLives
import Plotter.Proofs.Notices
import Plotter.Proofs.OneSurface
import Plotter.Proofs.Ownership
import Plotter.Proofs.PoolSteps
import Plotter.Proofs.Protocol
import Plotter.Proofs.Reloads
import Plotter.Proofs.Renewal
import Plotter.Proofs.Replay
import Plotter.Proofs.RestrictedCharacters
import Plotter.Proofs.Rounding
import Plotter.Proofs.Separation
import Plotter.Proofs.SessionSteps
import Plotter.Proofs.Silence
import Plotter.Proofs.Singles
import Plotter.Proofs.Sizes
import Plotter.Proofs.SnapshotContract
import Plotter.Proofs.ZoomFloor
import Plotter.Session.Basic
import Plotter.Session.Config
import Plotter.Session.Event
import Plotter.Session.Operation
import Plotter.Session.Snapshot
import Plotter.Session.Status
import Plotter.Sync
import Plotter.Telemetry
import Plotter.Text.Blank
import Plotter.Text.Quoted
import Plotter.Text.Visible
import Plotter.Timestamp.Basic
import Plotter.Timestamp.Reader
import Plotter.Viewport
