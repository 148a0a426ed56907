import SourceEdit.Arena
import SourceEdit.Batch
import SourceEdit.Decimal.Binary64
import SourceEdit.EditError
import SourceEdit.Editor
import SourceEdit.FilePath
import SourceEdit.Json.Reader
import SourceEdit.Json.Value
import SourceEdit.Json.Writer
import SourceEdit.Markup.Builder.Basic
import SourceEdit.Markup.Builder.Body
import SourceEdit.Markup.Builder.Foreign
import SourceEdit.Markup.Builder.Formatting
import SourceEdit.Markup.Builder.Head
import SourceEdit.Markup.Builder.Rules
import SourceEdit.Markup.Builder.Scope
import SourceEdit.Markup.Builder.Table
import SourceEdit.Markup.Doctype
import SourceEdit.Markup.Edit
import SourceEdit.Markup.Lexer
import SourceEdit.Markup.Node
import SourceEdit.Markup.Printer
import SourceEdit.Markup.Reader
import SourceEdit.Markup.Reference
import SourceEdit.Markup.Reference.Names
import SourceEdit.Markup.Token
import SourceEdit.Modification
import SourceEdit.Modification.Record
import SourceEdit.Proofs.Arena.DocumentOrder
import SourceEdit.Proofs.Arena.Graft
import SourceEdit.Proofs.Arena.Layout
import SourceEdit.Proofs.Arena.Loops
import SourceEdit.Proofs.Arena.Moving
import SourceEdit.Proofs.Arena.Operations
import SourceEdit.Proofs.Arena.Placing
import SourceEdit.Proofs.Arena.Rewriting
import SourceEdit.Proofs.Arena.Runs
import SourceEdit.Proofs.Arena.Slot
import SourceEdit.Proofs.Arena.Steps
import SourceEdit.Proofs.Arena.Traversal
import SourceEdit.Proofs.Arena.Values
import SourceEdit.Proofs.Arena.View
import SourceEdit.Proofs.Arena.WellFormed
import SourceEdit.Proofs.Batch.Grouping
import SourceEdit.Proofs.Batch.Outcome
import SourceEdit.Proofs.Checked
import SourceEdit.Proofs.EditOutcome
import SourceEdit.Proofs.FileResult
import SourceEdit.Proofs.Json
import SourceEdit.Proofs.Locate
import SourceEdit.Proofs.Markup.AttributeFrame
import SourceEdit.Proofs.Markup.AttributeLists
import SourceEdit.Proofs.Markup.Attributes
import SourceEdit.Proofs.Markup.Builder.Basic
import SourceEdit.Proofs.Markup.Builder.Body
import SourceEdit.Proofs.Markup.Builder.Formatting
import SourceEdit.Proofs.Markup.Builder.Head
import SourceEdit.Proofs.Markup.Builder.Rules
import SourceEdit.Proofs.Markup.Builder.Table
import SourceEdit.Proofs.Markup.Content.Basic
import SourceEdit.Proofs.Markup.Content.Formatting
import SourceEdit.Proofs.Markup.Content.Rules
import SourceEdit.Proofs.Markup.Edit
import SourceEdit.Proofs.Markup.Flow.Basic
import SourceEdit.Proofs.Markup.Flow.Reading
import SourceEdit.Proofs.Markup.Flow.Rules
import SourceEdit.Proofs.Markup.Import
import SourceEdit.Proofs.Markup.Insertion
import SourceEdit.Proofs.Markup.Lexer
import SourceEdit.Proofs.Markup.Placement
import SourceEdit.Proofs.Markup.Reading
import SourceEdit.Proofs.Markup.Rereading
import SourceEdit.Proofs.Markup.Rewriting
import SourceEdit.Proofs.Markup.Splice
import SourceEdit.Proofs.Markup.StartTag
import SourceEdit.Proofs.Markup.Update
import SourceEdit.Proofs.Markup.Wrappers
import SourceEdit.Proofs.Markup.Written
import SourceEdit.Proofs.Modification.Record
import SourceEdit.Proofs.Reached
import SourceEdit.Proofs.Script.Address
import SourceEdit.Proofs.Script.AttributeText
import SourceEdit.Proofs.Script.Attributes
import SourceEdit.Proofs.Script.DeclaresOnly
import SourceEdit.Proofs.Script.Deletion
import SourceEdit.Proofs.Script.Edit
import SourceEdit.Proofs.Script.Elements.Reading
import SourceEdit.Proofs.Script.Elements.Scripts
import SourceEdit.Proofs.Script.Elements.Setting
import SourceEdit.Proofs.Script.Elements.Spelling
import SourceEdit.Proofs.Script.Elements.Statements
import SourceEdit.Proofs.Script.Elements.Tags
import SourceEdit.Proofs.Script.Elements.Writing
import SourceEdit.Proofs.Script.Emptied
import SourceEdit.Proofs.Script.Follows
import SourceEdit.Proofs.Script.Furnished
import SourceEdit.Proofs.Script.Imports
import SourceEdit.Proofs.Script.Keyed
import SourceEdit.Proofs.Script.LoopHeads
import SourceEdit.Proofs.Script.OnePass
import SourceEdit.Proofs.Script.Parser.Declarations
import SourceEdit.Proofs.Script.Parser.Expressions
import SourceEdit.Proofs.Script.Parser.Functions
import SourceEdit.Proofs.Script.Parser.Modules
import SourceEdit.Proofs.Script.Parser.Patterns
import SourceEdit.Proofs.Script.Parser.Running
import SourceEdit.Proofs.Script.Parser.Statements
import SourceEdit.Proofs.Script.Parser.Tokens
import SourceEdit.Proofs.Script.Parser.Types
import SourceEdit.Proofs.Script.Parser.Yields
import SourceEdit.Proofs.Script.Parts
import SourceEdit.Proofs.Script.Pruning
import SourceEdit.Proofs.Script.Replacement
import SourceEdit.Proofs.Script.Rewriter
import SourceEdit.Proofs.Script.Settled
import SourceEdit.Proofs.Script.Substitution
import SourceEdit.Proofs.Script.Update
import SourceEdit.Proofs.Script.Values
import SourceEdit.Proofs.Script.Walk
import SourceEdit.Proofs.Script.WellFormed
import SourceEdit.Proofs.Selector.Pattern
import SourceEdit.Proofs.Stylesheet.Clean
import SourceEdit.Proofs.Stylesheet.CleanItem
import SourceEdit.Proofs.Stylesheet.Closed
import SourceEdit.Proofs.Stylesheet.Commutation
import SourceEdit.Proofs.Stylesheet.Concatenation
import SourceEdit.Proofs.Stylesheet.Containment
import SourceEdit.Proofs.Stylesheet.Cut
import SourceEdit.Proofs.Stylesheet.Edges
import SourceEdit.Proofs.Stylesheet.Edit
import SourceEdit.Proofs.Stylesheet.Format
import SourceEdit.Proofs.Stylesheet.InPlace
import SourceEdit.Proofs.Stylesheet.Lexeme
import SourceEdit.Proofs.Stylesheet.Marks
import SourceEdit.Proofs.Stylesheet.ReadBack
import SourceEdit.Proofs.Stylesheet.Reading
import SourceEdit.Proofs.Stylesheet.Rewriting
import SourceEdit.Proofs.Stylesheet.Scan
import SourceEdit.Proofs.Stylesheet.SelectorList
import SourceEdit.Proofs.Stylesheet.Shape
import SourceEdit.Proofs.Stylesheet.Update
import SourceEdit.Proofs.Stylesheet.Word
import SourceEdit.Proofs.Text.Letters
import SourceEdit.Proofs.Text.Normalize
import SourceEdit.Proofs.Text.Trim
import SourceEdit.Proofs.Tree.Path
import SourceEdit.Proofs.Tree.Placement
import SourceEdit.Proofs.Tree.Rewriting
import SourceEdit.Proofs.UpdateTwice
import SourceEdit.Regex.Basic
import SourceEdit.Regex.ClassName
import SourceEdit.Regex.Encoding
import SourceEdit.Regex.Parser
import SourceEdit.Regex.Size
import SourceEdit.Script.Dialect
import SourceEdit.Script.Edit
import SourceEdit.Script.Keyed
import SourceEdit.Script.Lexer
import SourceEdit.Script.Locate
import SourceEdit.Script.Node
import SourceEdit.Script.Number
import SourceEdit.Script.Parser.Basic
import SourceEdit.Script.Parser.Classes
import SourceEdit.Script.Parser.Declarations
import SourceEdit.Script.Parser.Elements
import SourceEdit.Script.Parser.Expressions
import SourceEdit.Script.Parser.Functions
import SourceEdit.Script.Parser.Modules
import SourceEdit.Script.Parser.Patterns
import SourceEdit.Script.Parser.Program
import SourceEdit.Script.Parser.Statements
import SourceEdit.Script.Parser.Targets
import SourceEdit.Script.Parser.Types
import SourceEdit.Script.Precedence
import SourceEdit.Script.Printer.Basic
import SourceEdit.Script.Printer.Expressions
import SourceEdit.Script.Printer.Program
import SourceEdit.Script.Printer.Statements
import SourceEdit.Script.Printer.Types
import SourceEdit.Script.Rewriter
import SourceEdit.Script.Token
import SourceEdit.Script.Word
import SourceEdit.Selector.Pattern
import SourceEdit.Selector.Simple
import SourceEdit.Stylesheet.Edit
import SourceEdit.Stylesheet.Lexeme
import SourceEdit.Stylesheet.Node
import SourceEdit.Stylesheet.Printer
import SourceEdit.Text.Characters
import SourceEdit.Tree
import SourceEdit.Unicode.Age
import SourceEdit.Unicode.Boundary
import SourceEdit.Unicode.CaseFold
import SourceEdit.Unicode.Category
import SourceEdit.Unicode.Identifier
import SourceEdit.Unicode.Property
import SourceEdit.Unicode.Ranges
import SourceEdit.Unicode.WritingScript
import SourceEdit.Unicode.WritingScriptExtension
