import BlitzLens.Data.Checked
import BlitzLens.Query.Highlight
import BlitzLens.Query.Signature

/-!
# Questions as data

The form in which the circumstances of a question for signature help, and highlighted words, are
taken from other programs.
-/

namespace BlitzLens.Exchange

/-- Reads one of some words. -/
def readWord {α : Type} (words : List (Text × α)) : Reader α
  | .text t =>
    match words.lookup t with
    | some meaning => .valid meaning
    | none => .fault .unexpectedWord
  | _ => .fault .unexpectedWord

/-- Reads a place in a document. -/
def readPosition : Reader Position :=
  Reader.record fun value =>
    Position.mk
      <$> Reader.required "line" Reader.int value
      <*> Reader.required "character" Reader.int value

/-- Reads a parameter of a signature. -/
def readParameter : Reader ParameterInfo :=
  Reader.record fun value =>
    ParameterInfo.mk
      <$> Reader.required "label" (Reader.pair Reader.int) value
      <*> Reader.withDefault "documentation" (Reader.optional Reader.text) none value

/-- Reads a signature. -/
def readSignature : Reader Signature :=
  Reader.record fun value =>
    Signature.mk
      <$> Reader.required "label" Reader.text value
      <*> Reader.withDefault "documentation" (Reader.optional Reader.text) none value
      <*> Reader.withDefault "parameters" (Reader.list readParameter) [] value

/-- Reads a session of signature help. -/
def readSignatureHelp : Reader SignatureHelp :=
  Reader.record fun value =>
    SignatureHelp.mk
      <$> Reader.required "signatures" (Reader.list readSignature) value
      <*> Reader.withDefault "active_signature" Reader.int 0 value
      <*> Reader.withDefault "active_parameter" Reader.int 0 value
      <*> Reader.required "start" readPosition value

/-- The words for what makes an editor ask for help. -/
def triggerWords : List (Text × HelpTrigger) :=
  [("invoke", .invoke), ("trigger", .typed), ("retrigger", .again)]

/-- Reads the circumstances of a question for signature help. -/
def readContext : Reader HelpContext :=
  Reader.record fun value =>
    HelpContext.mk
      <$> Reader.withDefault "trigger_kind" (readWord triggerWords) .invoke value
      <*> Reader.withDefault "trigger_character" (Reader.optional Reader.text) none value
      <*> Reader.withDefault "active_help" (Reader.optional readSignatureHelp) none value

/-- The words for the classes of highlighted words. -/
def classWords : List (Text × TokenClass) :=
  TokenClass.all.map fun tokenClass => (tokenClass.word, tokenClass)

/-- Reads a highlighted word. -/
def readToken : Reader Token :=
  Reader.record fun value =>
    Token.mk
      <$> Reader.required "line" Reader.int value
      <*> Reader.required "start" Reader.int value
      <*> Reader.required "length" Reader.int value
      <*> Reader.required "classification" (readWord classWords) value

end BlitzLens.Exchange
