import MemoryTimeline.Binary64
import MemoryTimeline.CommandLine
import MemoryTimeline.Decimal.Literal
import MemoryTimeline.Decimal.Scaling
import MemoryTimeline.Decimal.Shortest
import MemoryTimeline.Decimal.Style
import MemoryTimeline.Json.Basic
import MemoryTimeline.Json.Display
import MemoryTimeline.Json.Reader
import MemoryTimeline.Json.Writer
import MemoryTimeline.Main
import MemoryTimeline.Program.Decoding
import MemoryTimeline.Program.Entry
import MemoryTimeline.Program.Field
import MemoryTimeline.Program.Lookup
import MemoryTimeline.Program.Syntax
import MemoryTimeline.Program.Tag
import MemoryTimeline.Proofs.AllocationTable
import MemoryTimeline.Proofs.ArgumentContents
import MemoryTimeline.Proofs.ArrowTargets
import MemoryTimeline.Proofs.Balance
import MemoryTimeline.Proofs.BlockNaming
import MemoryTimeline.Proofs.DumpListing
import MemoryTimeline.Proofs.FrameStacking
import MemoryTimeline.Proofs.FunctionPlacement
import MemoryTimeline.Proofs.GridPlacement
import MemoryTimeline.Proofs.HeapIdentity
import MemoryTimeline.Proofs.HeapReplay
import MemoryTimeline.Proofs.LaterStatements
import MemoryTimeline.Proofs.LiveRecords
import MemoryTimeline.Proofs.MemberWrites
import MemoryTimeline.Proofs.NodeReading
import MemoryTimeline.Proofs.ObjectBoxes
import MemoryTimeline.Proofs.ObjectConstruction
import MemoryTimeline.Proofs.ParameterBinding
import MemoryTimeline.Proofs.Placement
import MemoryTimeline.Proofs.Recording
import MemoryTimeline.Proofs.ScopeAttribution
import MemoryTimeline.Proofs.ScopeMatching
import MemoryTimeline.Proofs.ScopeNesting
import MemoryTimeline.Proofs.ShownStep
import MemoryTimeline.Proofs.SideBySide
import MemoryTimeline.Proofs.StackAgreement
import MemoryTimeline.Proofs.TimelineWindow
import MemoryTimeline.Proofs.VisitedStatements
import MemoryTimeline.Proofs.WalkRules
import MemoryTimeline.Proofs.WalkedParts
import MemoryTimeline.Proofs.WellNested
import MemoryTimeline.Recorder.Basic
import MemoryTimeline.Recorder.Construction
import MemoryTimeline.Recorder.Naming
import MemoryTimeline.Recorder.Storage
import MemoryTimeline.Recorder.Walk
import MemoryTimeline.Scene.Arrow
import MemoryTimeline.Scene.Basic
import MemoryTimeline.Scene.Drawing
import MemoryTimeline.Scene.Geometry
import MemoryTimeline.Scene.Grid
import MemoryTimeline.Scene.Metrics
import MemoryTimeline.Scene.Number
import MemoryTimeline.Scene.Shape
import MemoryTimeline.Screen.Basic
import MemoryTimeline.Screen.Block
import MemoryTimeline.Screen.Canvas
import MemoryTimeline.Screen.Cell
import MemoryTimeline.Settings
import MemoryTimeline.Snapshot.Basic
import MemoryTimeline.Snapshot.Cursor
import MemoryTimeline.Snapshot.Live
import MemoryTimeline.Snapshot.Stack
import MemoryTimeline.Table
import MemoryTimeline.Text.Blank
import MemoryTimeline.Text.Numeral
import MemoryTimeline.Timeline.Event
import MemoryTimeline.Timeline.Export
import MemoryTimeline.Timeline.Name
import MemoryTimeline.Timeline.Record
import MemoryTimeline.Timeline.Summary
import MemoryTimeline.Toml.Basic
import MemoryTimeline.Toml.Draft
import MemoryTimeline.Toml.Lexeme
import MemoryTimeline.Toml.Plain
import MemoryTimeline.Toml.Reader
import MemoryTimeline.Viewer.Display
import MemoryTimeline.Viewer.FramesPane
import MemoryTimeline.Viewer.MemoryPane
import MemoryTimeline.Viewer.Palette
import MemoryTimeline.Viewer.Session
import MemoryTimeline.Viewer.StatusBar
import MemoryTimeline.Viewer.TimelinePane
