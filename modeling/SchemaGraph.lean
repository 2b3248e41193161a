import SchemaGraph.Calendar.Date
import SchemaGraph.Calendar.Instant
import SchemaGraph.Calendar.Reader
import SchemaGraph.Check
import SchemaGraph.CommandLine.Arguments
import SchemaGraph.CommandLine.Run
import SchemaGraph.Compile
import SchemaGraph.Compile.Error
import SchemaGraph.Compile.Inheritance
import SchemaGraph.Compile.Keyword
import SchemaGraph.Compile.Node
import SchemaGraph.Compile.Options
import SchemaGraph.Compile.Primitive
import SchemaGraph.Compile.Reference
import SchemaGraph.Compile.State
import SchemaGraph.Compile.Watch
import SchemaGraph.Compiled
import SchemaGraph.Decimal.Layout
import SchemaGraph.Decimal.Shortest
import SchemaGraph.Document.Key
import SchemaGraph.Document.Store
import SchemaGraph.FileTree
import SchemaGraph.Graph.Basic
import SchemaGraph.Graph.Listing
import SchemaGraph.Graph.Rule
import SchemaGraph.Inspect.Graph
import SchemaGraph.Inspect.Text
import SchemaGraph.Json.Equality
import SchemaGraph.Json.Reader
import SchemaGraph.Json.Value
import SchemaGraph.Json.Writer
import SchemaGraph.Loader
import SchemaGraph.Loader.Directory
import SchemaGraph.Main
import SchemaGraph.Path
import SchemaGraph.Pattern
import SchemaGraph.Pattern.Node
import SchemaGraph.Pattern.Program
import SchemaGraph.Pattern.Reader
import SchemaGraph.Pointer
import SchemaGraph.Settings.Basic
import SchemaGraph.Settings.Environment
import SchemaGraph.Settings.Layer
import SchemaGraph.Settings.Load
import SchemaGraph.Text.Blank
import SchemaGraph.Text.Lossy
import SchemaGraph.Toml.Document
import SchemaGraph.Toml.Scalar
import SchemaGraph.Toml.Table
import SchemaGraph.Toml.Text
import SchemaGraph.Toml.Writer
import SchemaGraph.Unicode.Age
import SchemaGraph.Unicode.CaseFolding
import SchemaGraph.Unicode.Category
import SchemaGraph.Unicode.CharSet
import SchemaGraph.Unicode.GraphemeBreak
import SchemaGraph.Unicode.Property
import SchemaGraph.Unicode.Query
import SchemaGraph.Unicode.Script
import SchemaGraph.Unicode.ScriptExtension
import SchemaGraph.Unicode.SentenceBreak
import SchemaGraph.Unicode.Word
import SchemaGraph.Unicode.WordBreak
import SchemaGraph.Violation
import SchemaGraph.Proofs.Check.Budget
import SchemaGraph.Proofs.Check.Containers
import SchemaGraph.Proofs.Graph.Deferral
import SchemaGraph.Proofs.Check.Deferral
import SchemaGraph.Proofs.Document.Nodes
import SchemaGraph.Proofs.Path.Normal
import SchemaGraph.Proofs.Compile.Growth
import SchemaGraph.Proofs.Inheritance.Requirements
import SchemaGraph.Proofs.Inheritance.Lineage
import SchemaGraph.Proofs.Compile.Step
import SchemaGraph.Proofs.Compile.Sound
import SchemaGraph.Proofs.Compile.Nesting
import SchemaGraph.Proofs.Compile.Ensures
import SchemaGraph.Proofs.Inheritance.Merge
import SchemaGraph.Proofs.Compile.Kinds
import SchemaGraph.Proofs.Compile.Resolve
import SchemaGraph.Proofs.Compile.Congruence
import SchemaGraph.Proofs.Compile.Fuel
import SchemaGraph.Proofs.Compile.Termination
import SchemaGraph.Proofs.Compile.Transparency
import SchemaGraph.Proofs.Inheritance.Extension
import SchemaGraph.Proofs.Compile.Loops
import SchemaGraph.Proofs.Check.Range
import SchemaGraph.Proofs.Compile.Closed
import SchemaGraph.Proofs.Check.Accepted
import SchemaGraph.Proofs.Check.Stripping
import SchemaGraph.Proofs.Compile.Stripping
import SchemaGraph.Proofs.Check.Leniency
import SchemaGraph.Proofs.Check.Pruning
import SchemaGraph.Proofs.Check.Complaints
import SchemaGraph.Proofs.Check.Reports
import SchemaGraph.Proofs.Check.UnknownKeys
import SchemaGraph.Proofs.Compile.UnknownKeys
import SchemaGraph.Proofs.Compile.Locality
import SchemaGraph.Proofs.Compile.Watching
import SchemaGraph.Proofs.Compile.Stacks
import SchemaGraph.Proofs.Compile.Tidy
import SchemaGraph.Proofs.Compile.Moments
import SchemaGraph.Proofs.Compile.Watched
import SchemaGraph.Proofs.Compile.Targets
import SchemaGraph.Proofs.Compile.BaseDirectory
import SchemaGraph.Proofs.Path.Climbing
import SchemaGraph.Proofs.Compile.AskedPaths
import SchemaGraph.Proofs.Json.PointerTexts
import SchemaGraph.Proofs.Check.Relocation
import SchemaGraph.Proofs.Check.ErrorPaths
import SchemaGraph.Proofs.Compile.CustomTypes
import SchemaGraph.Proofs.Check.Ending
import SchemaGraph.Proofs.Check.Outcomes
import SchemaGraph.Proofs.Check.Arrays
import SchemaGraph.Proofs.Check.Objects
import SchemaGraph.Proofs.Compile.Ending
import SchemaGraph.Proofs.Document.Indexes
import SchemaGraph.Proofs.Compile.LoadedOnce
import SchemaGraph.Proofs.Compile.Found
import SchemaGraph.Proofs.Inheritance.Collection
import SchemaGraph.Proofs.Compile.Intersections
import SchemaGraph.Proofs.Json.Routes
import SchemaGraph.Proofs.Json.Escaping
import SchemaGraph.Proofs.Document.Spellings
import SchemaGraph.Proofs.Document.Fragments
import SchemaGraph.Proofs.Binary64.Nearest
import SchemaGraph.Proofs.Binary64.Value
import SchemaGraph.Proofs.Binary64.Integer
import SchemaGraph.Proofs.Inheritance.Presences
import SchemaGraph.Proofs.Compile.Leaves
import SchemaGraph.Proofs.Compile.Limits
import SchemaGraph.Proofs.Compile.DateBounds
import SchemaGraph.Proofs.Json.Quantities
import SchemaGraph.Proofs.Json.Alike
import SchemaGraph.Proofs.Check.Sameness
import SchemaGraph.Proofs.Path.Moves
import SchemaGraph.Proofs.Binary64.Whole
import SchemaGraph.Proofs.Compile.NullMembers
import SchemaGraph.Proofs.Compile.PlainStrings
import SchemaGraph.Proofs.Loader.Preloading
import SchemaGraph.Proofs.Loader.Bundles
