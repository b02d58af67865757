import PatternServer.Command.Arguments
import PatternServer.Command.Check
import PatternServer.Command.Run
import PatternServer.Data.Json
import PatternServer.Data.JsonText
import PatternServer.Data.Moment
import PatternServer.Data.Record
import PatternServer.Data.Toml.Document
import PatternServer.Data.Toml.Scalar
import PatternServer.Data.Value
import PatternServer.Diagnostics.Atom
import PatternServer.Diagnostics.Diagnostic
import PatternServer.Diagnostics.Published
import PatternServer.Diagnostics.Validate
import PatternServer.Document.Call
import PatternServer.Document.Change
import PatternServer.Document.Encoding
import PatternServer.Document.Literal
import PatternServer.Document.Position
import PatternServer.Editor.CodeAction
import PatternServer.Editor.Completion
import PatternServer.Editor.Hover
import PatternServer.Editor.SignatureHelp
import PatternServer.Editor.Wire
import PatternServer.Engine.Client
import PatternServer.Engine.Descriptor
import PatternServer.Engine.Message
import PatternServer.Engine.Simulation
import PatternServer.Engine.Watcher
import PatternServer.Files.Host
import PatternServer.Files.Path
import PatternServer.Files.Tree
import PatternServer.Files.Uri
import PatternServer.Main
import PatternServer.Notation.Brackets
import PatternServer.Notation.Outcome
import PatternServer.Notation.Quoting
import PatternServer.Number.Double
import PatternServer.Number.Reading
import PatternServer.Number.Shortest
import PatternServer.Proofs.ClientLinks
import PatternServer.Proofs.ClientRuns
import PatternServer.Proofs.EncodingIndependence
import PatternServer.Proofs.EngineNews
import PatternServer.Proofs.Freshness
import PatternServer.Proofs.LatestReport
import PatternServer.Proofs.LineFraming
import PatternServer.Proofs.PositionInverse
import PatternServer.Proofs.PositionOrder
import PatternServer.Proofs.Remapping
import PatternServer.Proofs.Remarks
import PatternServer.Proofs.Scanning
import PatternServer.Proofs.SessionLines
import PatternServer.Proofs.Utf8Decoding
import PatternServer.Proofs.Validation
import PatternServer.Proofs.WorkerRuns
import PatternServer.Server.Basic
import PatternServer.Server.Lifecycle
import PatternServer.Server.Workspace
import PatternServer.Settings.Basic
import PatternServer.Settings.Load
import PatternServer.Settings.LogLevel
import PatternServer.Text.Blank
import PatternServer.Text.CodePoint
import PatternServer.Text.ControlSequence
import PatternServer.Text.Digit
import PatternServer.Text.Lower
import PatternServer.Text.Printable
import PatternServer.Text.Quoted
import PatternServer.Text.Split
import PatternServer.Text.Utf8
import PatternServer.Text.WordChar
import PatternServer.Vocabulary.Catalog
import PatternServer.Vocabulary.FunctionRecord
import PatternServer.Vocabulary.Functions.Abbreviations
import PatternServer.Vocabulary.Functions.Effects
import PatternServer.Vocabulary.Functions.Essentials
import PatternServer.Vocabulary.Functions.Numbers
import PatternServer.Vocabulary.Functions.Patterns
import PatternServer.Vocabulary.Functions.Sequences
import PatternServer.Vocabulary.Functions.Sound
import PatternServer.Vocabulary.Functions.Steps
import PatternServer.Vocabulary.Functions.Wavetables
import PatternServer.Vocabulary.HostFunction
import PatternServer.Vocabulary.Registry
import PatternServer.Vocabulary.Similarity
import PatternServer.Worker.Child
import PatternServer.Worker.Pool
import PatternServer.Worker.Reply
import PatternServer.Proofs.WorkerReplies
import PatternServer.Proofs.WorkerStarts
import PatternServer.Proofs.WorkerEnds
import PatternServer.Proofs.ReportedVocabulary
import PatternServer.Proofs.VocabularyGrowth
import PatternServer.Proofs.LiteralScanners
import PatternServer.Proofs.OfferedWords
import PatternServer.Proofs.LostSessions
import PatternServer.Proofs.ClientShutdown
import PatternServer.Proofs.JsonLimits
import PatternServer.Proofs.LineFaults
import PatternServer.Proofs.ParseOutcomes
import PatternServer.Proofs.StateFileWatch
import PatternServer.Proofs.LiteralCover
import PatternServer.Proofs.JsonGrammar
import PatternServer.Proofs.StateFileReading
import PatternServer.Proofs.DoubleRange
import PatternServer.Proofs.TomlLimits
import PatternServer.Proofs.SettingsFaults
import PatternServer.Proofs.WorkspaceSettings
import PatternServer.Proofs.PlainJson
import PatternServer.Proofs.CheckedFiles
import PatternServer.Proofs.CallsPastLiterals
import PatternServer.Proofs.LineColumns
import PatternServer.Proofs.OpenCalls
import PatternServer.Proofs.EditScripts
import PatternServer.Proofs.RankedSuggestions
import PatternServer.Proofs.NearestFunctions
import PatternServer.Proofs.RegistryHistory
import PatternServer.Proofs.EnclosingLiterals
import PatternServer.Proofs.FallbackPlaces
import PatternServer.Proofs.LoadedSettings
import PatternServer.Proofs.RequestRange
import PatternServer.Proofs.Backtracking
import PatternServer.Proofs.LocationSpans
import PatternServer.Proofs.MethodCalls
import PatternServer.Proofs.OpeningCalls
import PatternServer.Proofs.QuotedBodies
import PatternServer.Proofs.FallbackWords
import PatternServer.Proofs.NameLists
