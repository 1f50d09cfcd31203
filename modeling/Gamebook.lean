import Gamebook.Unicode.Range
import Gamebook.Unicode.Alnum
import Gamebook.Unicode.Printable
import Gamebook.Unicode.CaseTables
import Gamebook.Unicode.Class
import Gamebook.Unicode.Lower
import Gamebook.Text.Basic
import Gamebook.Text.Codes
import Gamebook.Story.Name
import Gamebook.Logic.Basic
import Gamebook.Logic.Token
import Gamebook.Logic.Parse
import Gamebook.Number.Double
import Gamebook.Number.Shortest
import Gamebook.Number.Layout
import Gamebook.Number.Arith
import Gamebook.Number.Read
import Gamebook.Data.Stamp
import Gamebook.Data.Value
import Gamebook.Data.Json.Read
import Gamebook.Data.Json.Write
import Gamebook.Data.Literal
import Gamebook.Markup.Line
import Gamebook.Story.Basic
import Gamebook.Markup.Error
import Gamebook.Markup.Parse
import Gamebook.Story.Reach
import Gamebook.Story.Check
import Gamebook.Story.Example
import Gamebook.Story.Cycle
import Gamebook.Story.Analysis
import Gamebook.Story.Dot
import Gamebook.Text.Placeholder
import Gamebook.Play.Vars
import Gamebook.Play.Progress
import Gamebook.Play.Session
import Gamebook.Play.Snapshot
import Gamebook.Play.Call
import Gamebook.Program.Path
import Gamebook.Program.Run
import Gamebook.Program.Analyzer
import Gamebook.Data.Yaml.Resolve
import Gamebook.Data.Yaml.Emit
import Gamebook.Data.Yaml.Mark
import Gamebook.Data.Yaml.Token
import Gamebook.Data.Yaml.Token.State
import Gamebook.Data.Yaml.Token.Scalar
import Gamebook.Data.Yaml.Token.Marker
import Gamebook.Data.Yaml.Token.Stream
import Gamebook.Data.Yaml.Event
import Gamebook.Data.Yaml.Node
import Gamebook.Data.Yaml.Scalar
import Gamebook.Data.Yaml.Load
import Gamebook.Play.SnapshotYaml
import Gamebook.Program.Player
import Gamebook.Main
import Gamebook.Proofs.Environment
import Gamebook.Proofs.Except
import Gamebook.Proofs.CanonicalName
import Gamebook.Proofs.CanonicalProgress
import Gamebook.Proofs.Choosing
import Gamebook.Proofs.MarkupReading
import Gamebook.Proofs.ParsedStory
import Gamebook.Proofs.MarkupGrammar
import Gamebook.Proofs.Reaching
import Gamebook.Proofs.Checking
import Gamebook.Proofs.CheckedPlay
import Gamebook.Proofs.JsonReading
import Gamebook.Proofs.SnapshotReading
import Gamebook.Proofs.Installing
import Gamebook.Proofs.Inventory
import Gamebook.Proofs.MarkupErrors
import Gamebook.Proofs.JsonScalars
import Gamebook.Proofs.JsonRoundTrip
import Gamebook.Proofs.SavedProgress
import Gamebook.Proofs.ResolvedLinks
import Gamebook.Proofs.LogicReading
import Gamebook.Proofs.DotReading
import Gamebook.Proofs.ArrowTargets
import Gamebook.Proofs.LogicPrinting
import Gamebook.Proofs.CycleSearch
import Gamebook.Proofs.CycleReport
import Gamebook.Proofs.GuardCheck
import Gamebook.Proofs.StoryBuilding
import Gamebook.Proofs.SnapshotRefusals
import Gamebook.Proofs.SnapshotPaths
