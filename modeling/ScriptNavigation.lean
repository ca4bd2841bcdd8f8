import ScriptNavigation.Alias.Table
import ScriptNavigation.CommandLine.Arguments
import ScriptNavigation.CommandLine.Files
import ScriptNavigation.CommandLine.Session
import ScriptNavigation.Document.Place
import ScriptNavigation.Document.Script
import ScriptNavigation.Failure
import ScriptNavigation.Main
import ScriptNavigation.Navigation.Cursor
import ScriptNavigation.Navigation.Definition
import ScriptNavigation.Navigation.Hover
import ScriptNavigation.Navigation.Outline
import ScriptNavigation.Navigation.Query
import ScriptNavigation.Navigation.References
import ScriptNavigation.Number.Binary64
import ScriptNavigation.Place.Extent
import ScriptNavigation.Place.Position
import ScriptNavigation.Report.ColourNames
import ScriptNavigation.Report.Console
import ScriptNavigation.Report.Markup
import ScriptNavigation.Report.OutlineTree
import ScriptNavigation.Report.Record
import ScriptNavigation.Report.Style
import ScriptNavigation.Symbol.Basic
import ScriptNavigation.Symbol.Declared
import ScriptNavigation.Symbol.Identity
import ScriptNavigation.Symbol.Kind
import ScriptNavigation.Symbol.Naming
import ScriptNavigation.Symbol.Used
import ScriptNavigation.Text.Blank
import ScriptNavigation.Text.CaseFold
import ScriptNavigation.Text.ColumnTable
import ScriptNavigation.Text.Columns
import ScriptNavigation.Text.Digit
import ScriptNavigation.Text.FoldTable
import ScriptNavigation.Text.Integer
import ScriptNavigation.Text.Lines
import ScriptNavigation.Text.LowerCase
import ScriptNavigation.Text.Printable
import ScriptNavigation.Text.Quoted
import ScriptNavigation.Text.Search
import ScriptNavigation.Tree.Datum
import ScriptNavigation.Tree.Kind
import ScriptNavigation.Tree.Node
import ScriptNavigation.Tree.Occurrence
import ScriptNavigation.Tree.Schema
import ScriptNavigation.Tree.Script
import ScriptNavigation.Tree.Spelling
import ScriptNavigation.Tree.Typed
import ScriptNavigation.Tree.Walk
import ScriptNavigation.Typing.Inference
import ScriptNavigation.Typing.Surroundings
import ScriptNavigation.Typing.Wildcard
import ScriptNavigation.Value.Basic
import ScriptNavigation.Value.Display
import ScriptNavigation.Value.Form
import ScriptNavigation.Value.Printer
import ScriptNavigation.Value.Reader
import ScriptNavigation.Proofs.Alias.Directions
import ScriptNavigation.Proofs.Alias.EitherDirection
import ScriptNavigation.Proofs.Alias.Matching
import ScriptNavigation.Proofs.Alias.References
import ScriptNavigation.Proofs.Alias.Relation
import ScriptNavigation.Proofs.CommandLine.Loading
import ScriptNavigation.Proofs.CommandLine.Paths
import ScriptNavigation.Proofs.Continuation.Guess
import ScriptNavigation.Proofs.Continuation.Occurrence
import ScriptNavigation.Proofs.Continuation.Query
import ScriptNavigation.Proofs.Continuation.Script
import ScriptNavigation.Proofs.Continuation.Tree
import ScriptNavigation.Proofs.Document.Encoding
import ScriptNavigation.Proofs.Document.Mismatch
import ScriptNavigation.Proofs.Document.Objects
import ScriptNavigation.Proofs.Document.Placement
import ScriptNavigation.Proofs.Document.Reading
import ScriptNavigation.Proofs.Document.UnknownKind
import ScriptNavigation.Proofs.Mirror.Field
import ScriptNavigation.Proofs.Mirror.Guess
import ScriptNavigation.Proofs.Mirror.Query
import ScriptNavigation.Proofs.Mirror.Reading
import ScriptNavigation.Proofs.Mirror.Typed
import ScriptNavigation.Proofs.Navigation.Answers
import ScriptNavigation.Proofs.Navigation.Catalogue
import ScriptNavigation.Proofs.Navigation.CommandGap
import ScriptNavigation.Proofs.Navigation.CommandReach
import ScriptNavigation.Proofs.Navigation.CommandUnder
import ScriptNavigation.Proofs.Navigation.Declaration
import ScriptNavigation.Proofs.Navigation.FirstDeclaration
import ScriptNavigation.Proofs.Navigation.Functions
import ScriptNavigation.Proofs.Navigation.GuessIndependence
import ScriptNavigation.Proofs.Navigation.InferredMember
import ScriptNavigation.Proofs.Navigation.Keys
import ScriptNavigation.Proofs.Navigation.Located
import ScriptNavigation.Proofs.Navigation.Outline
import ScriptNavigation.Proofs.Navigation.OutlineDeclared
import ScriptNavigation.Proofs.Navigation.OutlineVariables
import ScriptNavigation.Proofs.Navigation.Overapproximation
import ScriptNavigation.Proofs.Navigation.Redeclaration
import ScriptNavigation.Proofs.Navigation.ReferenceClass
import ScriptNavigation.Proofs.Navigation.ReferenceOrder
import ScriptNavigation.Proofs.Navigation.SelfReference
import ScriptNavigation.Proofs.Navigation.Totality
import ScriptNavigation.Proofs.Navigation.UnderCursor
import ScriptNavigation.Proofs.Navigation.WholeDeclaration
import ScriptNavigation.Proofs.Place.Layout
import ScriptNavigation.Proofs.Place.Lines
import ScriptNavigation.Proofs.Place.Name
import ScriptNavigation.Proofs.Place.Offsets
import ScriptNavigation.Proofs.Reading.Around
import ScriptNavigation.Proofs.Reading.Budget
import ScriptNavigation.Proofs.Reading.Field
import ScriptNavigation.Proofs.Reading.Guess
import ScriptNavigation.Proofs.Reading.LastAssignment
import ScriptNavigation.Proofs.Reading.Probe
import ScriptNavigation.Proofs.Reading.Symbol
import ScriptNavigation.Proofs.Report.Markup
import ScriptNavigation.Proofs.Report.OutlinePlaces
import ScriptNavigation.Proofs.Report.OutlineTree
import ScriptNavigation.Proofs.Report.Pieces
import ScriptNavigation.Proofs.Report.Shown
import ScriptNavigation.Proofs.Report.Verbatim
import ScriptNavigation.Proofs.Result
import ScriptNavigation.Proofs.Symbol.Built
import ScriptNavigation.Proofs.Symbol.KnownOwner
import ScriptNavigation.Proofs.Symbol.Matching
import ScriptNavigation.Proofs.Symbol.Sameness
import ScriptNavigation.Proofs.Symbol.Spelling
import ScriptNavigation.Proofs.Symbol.Symmetry
import ScriptNavigation.Proofs.Tree.Ancestors
import ScriptNavigation.Proofs.Tree.Numbering
import ScriptNavigation.Proofs.Tree.Parents
import ScriptNavigation.Proofs.Walk.Calls
import ScriptNavigation.Proofs.Walk.Cancellation
import ScriptNavigation.Proofs.Walk.Order
import ScriptNavigation.Proofs.Wrapping.Mirror
import ScriptNavigation.Proofs.Wrapping.Occurrence
import ScriptNavigation.Proofs.Wrapping.Transparency
import ScriptNavigation.Proofs.Wrapping.Tree
