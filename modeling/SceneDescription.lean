import SceneDescription.Main
import SceneDescription.Reader
import SceneDescription.Proofs.Results
import SceneDescription.Proofs.Scopes.Stack
import SceneDescription.Proofs.Scopes.Words
import SceneDescription.Proofs.Scopes.Machine
import SceneDescription.Proofs.Sessions.Runs
import SceneDescription.Proofs.Sessions.ScopeWords
import SceneDescription.Proofs.Stages.Drafts
import SceneDescription.Proofs.Sessions.LexicalScoping
import SceneDescription.Proofs.Stages.References
import SceneDescription.Proofs.Sessions.ReferentialIntegrity
import SceneDescription.Proofs.Splicing.Operands
import SceneDescription.Proofs.Splicing.Parameters
import SceneDescription.Proofs.Stages.Relocated
import SceneDescription.Proofs.Splicing.Unlocated
import SceneDescription.Proofs.Splicing.FlatScopes
import SceneDescription.Proofs.Splicing.Replay
import SceneDescription.Proofs.Splicing.SplicedScenes
import SceneDescription.Proofs.Sessions.Recordings
import SceneDescription.Proofs.Stages.Names
import SceneDescription.Proofs.Sessions.NameTables
import SceneDescription.Proofs.Scopes.Imports
import SceneDescription.Proofs.Sessions.OpenImports
import SceneDescription.Proofs.Sessions.OpenFiles
import SceneDescription.Proofs.Sessions.Termination
import SceneDescription.Proofs.Parameters.WellFormed
import SceneDescription.Proofs.Readers.WellFormed
import SceneDescription.Proofs.Stages.WellFormed
import SceneDescription.Proofs.Sessions.WellFormedParameters
import SceneDescription.Proofs.Files.Paths
import SceneDescription.Proofs.Readers.Traces
import SceneDescription.Proofs.Sessions.Failures
import SceneDescription.Proofs.Tokens.NumberPattern
import SceneDescription.Proofs.Tokens.Grammar
import SceneDescription.Proofs.Tokens.Sights
import SceneDescription.Proofs.Tokens.Places
import SceneDescription.Proofs.Sessions.ErrorReports
import SceneDescription.Proofs.Files.Links
import SceneDescription.Proofs.Sessions.Twins
import SceneDescription.Proofs.Tokens.Scanning
import SceneDescription.Proofs.Sessions.Reinclusion
import SceneDescription.Proofs.Sessions.InMemory
import SceneDescription.Proofs.Sessions.Prologues
import SceneDescription.Proofs.Tokens.Lexemes
import SceneDescription.Proofs.Readers.Definite
import SceneDescription.Proofs.Sessions.RefusedFiles
import SceneDescription.Proofs.Sessions.ReportedLines
import SceneDescription.Proofs.Stages.Breakdowns
import SceneDescription.Proofs.Sessions.Breakdowns
import SceneDescription.Proofs.Streams.Calls
import SceneDescription.Proofs.Streams.Delivery
import SceneDescription.Proofs.Readers.Dialogues
import SceneDescription.Proofs.Readers.Layout
import SceneDescription.Proofs.Sessions.Readings
import SceneDescription.Proofs.Sessions.LayoutIndependence
import SceneDescription.Proofs.Sessions.Continuations
import SceneDescription.Proofs.Sessions.FailFast
import SceneDescription.Proofs.Stages.Emissions
import SceneDescription.Proofs.Sessions.FileBoundaries
import SceneDescription.Proofs.Stages.Growth
import SceneDescription.Proofs.Sessions.Appending
import SceneDescription.Proofs.Readers.Keywords
import SceneDescription.Proofs.Sessions.Stillness
import SceneDescription.Proofs.Sessions.Phases
import SceneDescription.Proofs.Stages.Slots
import SceneDescription.Proofs.Sessions.LastDeclarations
import SceneDescription.Proofs.Readers.Variants
import SceneDescription.Proofs.Scopes.States
import SceneDescription.Proofs.Stages.ShutterTimes
import SceneDescription.Proofs.Sessions.ShutterTimes
import SceneDescription.Proofs.Tokens.Layouts
import SceneDescription.Proofs.Tokens.Progress
import SceneDescription.Proofs.Tokens.NumberValues
import SceneDescription.Proofs.Parameters.ValueGrammar
import SceneDescription.Proofs.Parameters.Groups
import SceneDescription.Proofs.Sessions.CoordinateSystems
import SceneDescription.Proofs.InPlace.Sessions
import SceneDescription.Proofs.InPlace.FailedCalls
import SceneDescription.Proofs.Parameters.Lookup
import SceneDescription.Proofs.Decimal.Nearest
