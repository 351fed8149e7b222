import BlitzLens.Text.Digit
import BlitzLens.Text.Lowercase
import BlitzLens.Line.Word
import BlitzLens.Line.Nesting
import BlitzLens.Keyword.Reserved
import BlitzLens.Keyword.Manual
import BlitzLens.Declaration.Part
import BlitzLens.Symbol.Basic
import BlitzLens.Files.Tree
import BlitzLens.Event
import BlitzLens.Extraction.Scan
import BlitzLens.Query.Hover
import BlitzLens.Query.Definition
import BlitzLens.Query.Completion
import BlitzLens.Query.Signature
import BlitzLens.Query.Highlight
import BlitzLens.Query.Outline
import BlitzLens.Query.Todo
import BlitzLens.Data.Json
import BlitzLens.Data.Checked
import BlitzLens.Data.Toml.Document
import BlitzLens.Stub.Table
import BlitzLens.Service
import BlitzLens.Workspace.Sources
import BlitzLens.Exchange.Answers
import BlitzLens.Exchange.Questions
import BlitzLens.Exchange.Settings
import BlitzLens.Exchange.Stubs
import BlitzLens.Determinism
import BlitzLens.Main
import BlitzLens.Proofs.Service.Coherence
import BlitzLens.Proofs.Extraction.Visit
import BlitzLens.Proofs.Extraction.Readers
import BlitzLens.Proofs.Text.Caseless
import BlitzLens.Proofs.Extraction.Failure
import BlitzLens.Proofs.Line.Word
import BlitzLens.Proofs.Extraction.Parts
import BlitzLens.Proofs.Extraction.Placement
import BlitzLens.Proofs.Extraction.Invariant
import BlitzLens.Proofs.Extraction.Run
import BlitzLens.Proofs.Extraction.Scopes
import BlitzLens.Proofs.Extraction.OwnDocument
import BlitzLens.Proofs.Extraction.Likeness
import BlitzLens.Proofs.Scope.Choice
import BlitzLens.Proofs.Query.Highlight
import BlitzLens.Proofs.Extraction.Erasure
import BlitzLens.Proofs.Line.Comment
import BlitzLens.Proofs.Extraction.Comments
import BlitzLens.Proofs.Line.Spelling
import BlitzLens.Proofs.Extraction.Caseless
import BlitzLens.Proofs.Extraction.Body
import BlitzLens.Proofs.Extraction.Order
import BlitzLens.Proofs.Scope.Iterator
import BlitzLens.Proofs.Query.Tokens
import BlitzLens.Proofs.Query.Hover
import BlitzLens.Proofs.Extraction.Origin
import BlitzLens.Proofs.Query.BuiltIn
import BlitzLens.Proofs.Query.Definition
import BlitzLens.Proofs.Query.Stream
import BlitzLens.Proofs.Extraction.Change
import BlitzLens.Proofs.Extraction.Slots
import BlitzLens.Proofs.Extraction.Arrangement
import BlitzLens.Proofs.Extraction.Levels
import BlitzLens.Proofs.Extraction.Matching
import BlitzLens.Proofs.Query.Completion
import BlitzLens.Proofs.Cache.Accounting
import BlitzLens.Proofs.Extraction.Inclusion
import BlitzLens.Proofs.Extraction.Variables
import BlitzLens.Proofs.Extraction.Columns
import BlitzLens.Proofs.Declaration.Part
import BlitzLens.Proofs.Query.FieldTokens
import BlitzLens.Proofs.Scope.Reading
import BlitzLens.Proofs.Scope.Subscript
import BlitzLens.Proofs.Line.Parenthesis
import BlitzLens.Proofs.Query.Signature
import BlitzLens.Proofs.Query.Everything
import BlitzLens.Proofs.Query.WithinWord
import BlitzLens.Proofs.Query.Parameters
import BlitzLens.Proofs.Query.Pairing
import BlitzLens.Proofs.Query.StatementCall
import BlitzLens.Proofs.Extraction.Skipped
import BlitzLens.Proofs.Cache.Repetition
import BlitzLens.Proofs.Stub.Documentation
import BlitzLens.Proofs.Query.Arguments
import BlitzLens.Proofs.Query.Answered
import BlitzLens.Proofs.Service.Answers
import BlitzLens.Proofs.Query.Outline
import BlitzLens.Proofs.Query.Todo
import BlitzLens.Proofs.Text.Encoding
import BlitzLens.Proofs.Data.Toml
import BlitzLens.Proofs.Data.Checked
import BlitzLens.Proofs.Settings.Loading
import BlitzLens.Proofs.Line.Splitting
import BlitzLens.Proofs.Line.CodeWord
import BlitzLens.Proofs.Text.Lines
import BlitzLens.Proofs.Service.Lines
