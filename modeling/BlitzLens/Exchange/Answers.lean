import BlitzLens.Exchange.Symbols
import BlitzLens.Query.Completion
import BlitzLens.Query.Definition
import BlitzLens.Query.Highlight
import BlitzLens.Query.Hover
import BlitzLens.Query.Outline
import BlitzLens.Query.Signature
import BlitzLens.Query.Todo

/-!
# Answers as data

The form in which the answers to an editor's questions are handed to other programs.
-/

namespace BlitzLens.Exchange

/-- An answer that may be missing. -/
def optional {α : Type} (encode : α → Value) : Option α → Value
  | some answer => encode answer
  | none => .null

/-- An answer with several items. -/
def each {α : Type} (encode : α → Value) (answers : List α) : Value :=
  .list (answers.map encode)

/-- A place in a document. -/
def ofPosition (position : Position) : Value :=
  .record [("line", .int position.line), ("character", .int position.character)]

/-- A hover text. -/
def ofHover (hover : Hover) : Value :=
  .record [("contents", .text hover.contents), ("range", ofSpan hover.range)]

/-- A place in a file. -/
def ofLocation (location : Location) : Value :=
  .record [("path", .text location.path), ("position", ofPosition location.position)]

/-- A completion item. -/
def ofCompletion (item : CompletionItem) : Value :=
  .record [
    ("label", .text item.label),
    ("kind", .text item.kind.word),
    ("detail", .text item.detail),
    ("insert_text", .text item.insertText),
    ("is_snippet", .bool item.isSnippet),
    ("documentation", .ofText? item.documentation),
    ("trigger_parameter_hints", .bool item.showsParameters)]

/-- A parameter of a signature. -/
def ofParameter (parameter : ParameterInfo) : Value :=
  .record [
    ("label", .list [.int parameter.label.1, .int parameter.label.2]),
    ("documentation", .ofText? parameter.documentation)]

/-- A signature. -/
def ofSignature (signature : Signature) : Value :=
  .record [
    ("label", .text signature.label),
    ("documentation", .ofText? signature.documentation),
    ("parameters", each ofParameter signature.parameters)]

/-- A session of signature help. -/
def ofSignatureHelp (help : SignatureHelp) : Value :=
  .record [
    ("signatures", each ofSignature help.signatures),
    ("active_signature", .int help.activeSignature),
    ("active_parameter", .int help.activeParameter),
    ("start", ofPosition help.start)]

/-- A highlighted word. -/
def ofToken (token : Token) : Value :=
  .record [
    ("line", .int token.line),
    ("start", .int token.start),
    ("length", .int token.length),
    ("classification", .text token.tokenClass.word)]

/-- The entries of an outline, each with the entries it holds. -/
def ofEntry (entry : OutlineEntry) (children : List Value) : Value :=
  .record [
    ("name", .text entry.name),
    ("kind", .text entry.kind.word),
    ("detail", .text entry.detail),
    ("range", ofSpan entry.range),
    ("selection_range", ofSpan entry.selection),
    ("children", .list children)]

/-- An outline node. -/
def ofNode (node : OutlineNode) : Value :=
  ofEntry node.toOutlineEntry (node.children.map fun child => ofEntry child [])

/-- An open point. -/
def ofTodo (todo : Todo) : Value :=
  .record [
    ("line", .int todo.line),
    ("character", .int todo.character),
    ("tag", .text todo.tag),
    ("text", .text todo.text)]

end BlitzLens.Exchange
