import TypeReach.Classes.Ancestors
import TypeReach.Classes.Arithmetic
import TypeReach.Classes.Calling
import TypeReach.Classes.Completion
import TypeReach.Classes.Composition
import TypeReach.Classes.Contents
import TypeReach.Classes.Conversion
import TypeReach.Classes.Declaration
import TypeReach.Classes.Documentation
import TypeReach.Classes.Equality
import TypeReach.Classes.Hint
import TypeReach.Classes.Inspector
import TypeReach.Classes.Meaning
import TypeReach.Classes.Missing
import TypeReach.Classes.Object
import TypeReach.Classes.Operation
import TypeReach.Classes.Order
import TypeReach.Classes.Parameter
import TypeReach.Classes.Parts
import TypeReach.Classes.Reading
import TypeReach.Classes.Resolve
import TypeReach.Classes.Routine
import TypeReach.Classes.Shown
import TypeReach.Classes.Signature
import TypeReach.Classes.Special
import TypeReach.Classes.Standard
import TypeReach.Classes.Universe
import TypeReach.Command.Arguments
import TypeReach.Command.Check
import TypeReach.Command.Request
import TypeReach.Command.Run
import TypeReach.Command.Steps
import TypeReach.Data.Moment
import TypeReach.Data.Plain
import TypeReach.Data.Table
import TypeReach.Data.Value
import TypeReach.Decimal.Double
import TypeReach.Decimal.Integer
import TypeReach.Decimal.Reading
import TypeReach.Decimal.Shortest
import TypeReach.Discovery
import TypeReach.Expression.Parse
import TypeReach.Expression.Token
import TypeReach.Fault
import TypeReach.Files.Document
import TypeReach.Files.Path
import TypeReach.Files.Tree
import TypeReach.Formula.Basic
import TypeReach.Formula.Lexeme
import TypeReach.Formula.Literal
import TypeReach.Formula.Parse
import TypeReach.Graph.Definition
import TypeReach.Graph.Environment
import TypeReach.Graph.File
import TypeReach.Graph.Load
import TypeReach.Graph.Lookup
import TypeReach.Log.Level
import TypeReach.Log.Logger
import TypeReach.Log.Session
import TypeReach.Main
import TypeReach.Member
import TypeReach.Proofs.Answers
import TypeReach.Proofs.Course
import TypeReach.Proofs.Dependency
import TypeReach.Proofs.ExactClosure
import TypeReach.Proofs.GraphAnswers
import TypeReach.Proofs.Growth
import TypeReach.Proofs.Related
import TypeReach.Proofs.Replay
import TypeReach.Proofs.Retry
import TypeReach.Proofs.Reuse
import TypeReach.Proofs.Rollback
import TypeReach.Proofs.Session
import TypeReach.Proofs.Stretch
import TypeReach.Proofs.Survey
import TypeReach.Proofs.Unwinding
import TypeReach.Provider
import TypeReach.Provider.Planned
import TypeReach.Reference
import TypeReach.Settings.Basic
import TypeReach.Settings.File
import TypeReach.Text.Base64
import TypeReach.Text.Blank
import TypeReach.Text.Compatibility
import TypeReach.Text.Composition
import TypeReach.Text.Cut
import TypeReach.Text.Digit
import TypeReach.Text.Identifier
import TypeReach.Text.LetterCase
import TypeReach.Text.Lines
import TypeReach.Text.Normal
import TypeReach.Text.Printable
import TypeReach.Text.Quoted
import TypeReach.Text.Range
import TypeReach.Text.Surrogate
import TypeReach.Text.Utf8
import TypeReach.Text.Word
import TypeReach.Walk.Basic
import TypeReach.Walk.Walker
import TypeReach.Yaml.Cursor
import TypeReach.Yaml.Kind
import TypeReach.Yaml.Load
import TypeReach.Yaml.Merge
import TypeReach.Yaml.Node
import TypeReach.Yaml.Number
import TypeReach.Yaml.Scalar
import TypeReach.Yaml.Timestamp
import TypeReach.Yaml.Token
import TypeReach.Yaml.TokenQueue
import TypeReach.Proofs.Classification
import TypeReach.Proofs.Depth
import TypeReach.Proofs.Nesting
import TypeReach.Proofs.Obligation
import TypeReach.Proofs.Loading
import TypeReach.Proofs.Machine
import TypeReach.Proofs.WrittenClosure
import TypeReach.Proofs.Enabled
import TypeReach.Proofs.GraphCheck
import TypeReach.Proofs.Resolving
import TypeReach.Proofs.Splitting
import TypeReach.Proofs.Grammar
import TypeReach.Proofs.Rendering
import TypeReach.Proofs.MissingTypes
import TypeReach.Proofs.Forcing
import TypeReach.Proofs.Footprint
import TypeReach.Proofs.Handles
import TypeReach.Proofs.Registry
import TypeReach.Proofs.ClassClosure
import TypeReach.Proofs.Listing
import TypeReach.Proofs.Lighter
import TypeReach.Proofs.Ignoring
import TypeReach.Proofs.Fragments
import TypeReach.Proofs.Readings
import TypeReach.Proofs.Unfolding
import TypeReach.Proofs.SpelledOut
import TypeReach.Proofs.Encoding
import TypeReach.Proofs.GraphFiles
import TypeReach.Proofs.DottedNames
import TypeReach.Proofs.LazyNames
import TypeReach.Proofs.NestedNames
import TypeReach.Proofs.IdleAttributes
import TypeReach.Proofs.LazyValues
import TypeReach.Proofs.UnusableSettings
import TypeReach.Proofs.SeveralTargets
import TypeReach.Proofs.FileTrees
import TypeReach.Proofs.FirstWins
import TypeReach.Proofs.GivenOptions
import TypeReach.Proofs.WrittenSettings
import TypeReach.Proofs.RecordDelivery
import TypeReach.Proofs.Recording
import TypeReach.Proofs.Flattening
