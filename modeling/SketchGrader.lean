import SketchGrader.Board.Machine
import SketchGrader.Board.Pin
import SketchGrader.Command.App
import SketchGrader.Command.Arguments
import SketchGrader.Disk.Folder
import SketchGrader.Disk.Load
import SketchGrader.Disk.Script
import SketchGrader.Document.Checked
import SketchGrader.Document.Datum
import SketchGrader.Document.Display
import SketchGrader.Document.Numeral
import SketchGrader.Document.Reader
import SketchGrader.Document.Whole
import SketchGrader.Grading.Compare
import SketchGrader.Grading.Feedback
import SketchGrader.Grading.Grader
import SketchGrader.Level.Basic
import SketchGrader.Level.Book
import SketchGrader.Level.Shipped
import SketchGrader.Live.Mark
import SketchGrader.Live.Recorder
import SketchGrader.Live.Runner
import SketchGrader.Log.Logger
import SketchGrader.Log.Notice
import SketchGrader.Log.Record
import SketchGrader.Main
import SketchGrader.Number.Double
import SketchGrader.Number.Shortest
import SketchGrader.Number.Weighing
import SketchGrader.Proofs.Appearance
import SketchGrader.Proofs.Assignments
import SketchGrader.Proofs.BalancedBrackets
import SketchGrader.Proofs.BodyBraces
import SketchGrader.Proofs.BracketStack
import SketchGrader.Proofs.CallGrammar
import SketchGrader.Proofs.ChangeLog
import SketchGrader.Proofs.ComparedPart
import SketchGrader.Proofs.Drift
import SketchGrader.Proofs.Effect
import SketchGrader.Proofs.EmissionRule
import SketchGrader.Proofs.Exchange
import SketchGrader.Proofs.FaultLines
import SketchGrader.Proofs.GapTolerance
import SketchGrader.Proofs.HiddenCalls
import SketchGrader.Proofs.History
import SketchGrader.Proofs.Journal
import SketchGrader.Proofs.Judging
import SketchGrader.Proofs.Latest
import SketchGrader.Proofs.Leniency
import SketchGrader.Proofs.LevelWalk
import SketchGrader.Proofs.Lexing
import SketchGrader.Proofs.LibraryUse
import SketchGrader.Proofs.LineComments
import SketchGrader.Proofs.LiveAgreement
import SketchGrader.Proofs.LiveSimulation
import SketchGrader.Proofs.LiveSteps
import SketchGrader.Proofs.LongestMatch
import SketchGrader.Proofs.LoopPeriod
import SketchGrader.Proofs.LoopStop
import SketchGrader.Proofs.Loosening
import SketchGrader.Proofs.OwnTarget
import SketchGrader.Proofs.PacedComparison
import SketchGrader.Proofs.PairAccounts
import SketchGrader.Proofs.Patterns
import SketchGrader.Proofs.PinCoverage
import SketchGrader.Proofs.Recording
import SketchGrader.Proofs.Respacing
import SketchGrader.Proofs.Rounding
import SketchGrader.Proofs.RunIsolation
import SketchGrader.Proofs.Script
import SketchGrader.Proofs.SessionChange
import SketchGrader.Proofs.ShownDuty
import SketchGrader.Proofs.SourceLines
import SketchGrader.Proofs.Spelling
import SketchGrader.Proofs.StopBoundary
import SketchGrader.Proofs.StopRequests
import SketchGrader.Proofs.StoredForm
import SketchGrader.Proofs.TargetMemory
import SketchGrader.Proofs.Uncommented
import SketchGrader.Settings.Basic
import SketchGrader.Settings.Decode
import SketchGrader.Sketch.Bracket
import SketchGrader.Sketch.Fault
import SketchGrader.Sketch.Library
import SketchGrader.Sketch.PinUse
import SketchGrader.Sketch.Program
import SketchGrader.Sketch.Reading
import SketchGrader.Sketch.Region
import SketchGrader.Sketch.Statement
import SketchGrader.Sketch.Token
import SketchGrader.Text.Basic
import SketchGrader.Text.Casing
import SketchGrader.Text.Pattern
import SketchGrader.Text.Quoted
import SketchGrader.Text.Word
import SketchGrader.Timeline.Event
import SketchGrader.Timeline.Replay
import SketchGrader.Timeline.Stored
