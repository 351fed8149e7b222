import BlitzLens.Cache
import BlitzLens.Query.Completion
import BlitzLens.Query.Definition
import BlitzLens.Query.Highlight
import BlitzLens.Query.Hover
import BlitzLens.Query.Outline
import BlitzLens.Query.Signature
import BlitzLens.Settings
import BlitzLens.Stub.Table

/-!
# The language service

Answers the questions of an editor about the documents of one workspace. Every question is answered
from the symbols of a pass over the document, or from the cache. A question about a place never
fails: if it cannot be answered, an event says so and the answer is empty.
-/

namespace BlitzLens

/-- A coordinate that an editor gives. -/
inductive Coordinate where
  /-- A whole number. -/
  | whole (n : Int)
  /-- No whole number; `n` is its whole part. -/
  | broken (n : Int)
  deriving DecidableEq, Repr

namespace Coordinate

/-- The whole part of a coordinate. -/
def wholePart : Coordinate → Int
  | .whole n => n
  | .broken n => n

/-- The number that a coordinate is, if it is whole. -/
def whole? : Coordinate → Option Int
  | .whole n => some n
  | .broken _ => none

end Coordinate

/-- A place in a document that an editor asks about. -/
structure Caret where
  /-- The line. -/
  line : Coordinate
  /-- The column. -/
  character : Coordinate
  deriving DecidableEq, Repr

/-- The position of a caret with whole coordinates. -/
def Caret.position? (caret : Caret) : Option Position := do
  return ⟨← caret.line.whole?, ← caret.character.whole?⟩

/-- The caret at a position. -/
def Caret.ofPosition (position : Position) : Caret :=
  ⟨.whole position.line, .whole position.character⟩

/-- Why a service cannot be set up. -/
inductive SetupError where
  /-- The settings cannot be read. -/
  | settings (error : SettingsError)
  /-- The stubs cannot be loaded. -/
  | stubs (error : StubError)
  /-- A path of the settings has no real form. -/
  | path (error : FileTree.ResolveError)
  deriving DecidableEq, Repr

/-- A service for the documents of one workspace. -/
structure Service where
  /-- The settings. -/
  settings : Settings
  /-- The directories that includes start from. -/
  roots : List Text
  /-- The stubs. -/
  stubs : StubTable
  /-- The cache, unless every question runs a pass of its own. -/
  cache : Option Cache
  /-- What happened since the service was set up. -/
  events : List Event

/-- An answer of a service, which changes its cache and its events. -/
abbrev Answer := StateM Service

namespace Service

/-- The rules for includes that settings and roots make. -/
def includeRules (settings : Settings) (roots : List Text) : IncludeRules :=
  ⟨roots, settings.cycleGuard, settings.maxDepth⟩

/-- A service with given stubs; the digest is that of its cache. -/
def ofStubs (settings : Settings) (roots : List Text) (stubs : StubTable) (useCache : Bool)
    (digest : Text → Text := id) : Service :=
  { settings, roots, stubs
    cache := if useCache then
      some (.empty (includeRules settings roots) Cache.defaultCapacity digest) else none
    events := [] }

/-- A service with the stubs that the settings name, and the events of loading them. -/
def ofSettings (tree : FileTree) (settings : Settings) (roots : List Text) (useCache : Bool) :
    Except SetupError (Service × List Event) :=
  match StubTable.load tree settings.stubPath settings.libraries with
  | .ok (stubs, events) => .ok (ofStubs settings roots stubs useCache, events)
  | .error error => .error (.stubs error)

/-- A service for the workspace in a directory, which is also the first root. -/
def ofWorkspace (tree : FileTree) (root : Path) (extraRoots : List Text) (useCache : Bool) :
    Except SetupError (Service × List Event) := do
  -- the settings go first: what is wrong with them is told before anything about the stubs
  let settings ← (Settings.load tree root).mapError .settings
  let stubPath ← (Settings.resolvePath tree root settings.stubPath).mapError .path
  let libraries ← (Settings.resolvePath tree root settings.libraries).mapError .path
  ofSettings tree { settings with stubPath, libraries } (root.toText :: extraRoots) useCache

/-- Records events. -/
def record (events : List Event) : Answer Unit :=
  modify fun service => { service with events := service.events ++ events }

/-- The symbols of a document. -/
def symbols (disk : Disk) (path text : Text) : Answer (Except CacheError (List Symbol)) := do
  let service ← get
  match service.cache with
  | some cache =>
    let (found, cache, events) := cache.symbols disk path text
    set { service with cache := some cache }
    record events
    return found
  | none =>
    let (found, trace) := extract disk (includeRules service.settings service.roots) path text
    record trace.events
    return found.mapError .failed

/-- The answer to a question about a place: `ask` is asked with the symbols of the document, and
`empty` is the answer if something fails. -/
def atCaret {α : Type} (query : CaretQuery) (disk : Disk) (path text : Text) (caret : Caret)
    (empty : α)
    (ask : Service → List Symbol → List Text → Position → Except ColumnError α) : Answer α := do
  let found ← symbols disk path text
  let service ← get
  match found, caret.position? with
  | .ok symbols, some position =>
    match ask service symbols text.lines position with
    | .ok answer => return answer
    | .error _ => failed
  | _, _ => failed
where
  /-- Records that the question could not be answered. -/
  failed : Answer α := do
    record [.caretQueryFailed query path caret.line.wholePart caret.character.wholePart]
    return empty

/-- What is shown at a caret. -/
def hover? (disk : Disk) (path text : Text) (caret : Caret) : Answer (Option Hover) :=
  atCaret .hover disk path text caret none fun service symbols lines position =>
    BlitzLens.hover? symbols service.stubs path lines position

/-- Where the word at a caret is declared. -/
def definition (disk : Disk) (path text : Text) (caret : Caret) : Answer (List Location) :=
  atCaret .definition disk path text caret [] fun service symbols lines position =>
    BlitzLens.definition symbols service.stubs path lines position

/-- The words that may be written at a caret. -/
def complete (disk : Disk) (path text : Text) (caret : Caret) (trigger : Option Text) :
    Answer (List CompletionItem) :=
  atCaret .completion disk path text caret [] fun service symbols lines position =>
    BlitzLens.complete symbols service.stubs path lines position trigger
      service.settings.bracketsEverywhere

/-- The signatures of the call that is being written at a caret. -/
def signatureHelp? (disk : Disk) (path text : Text) (caret : Caret)
    (context : Option HelpContext) : Answer (Option SignatureHelp) :=
  atCaret .signature disk path text caret none fun service symbols lines position =>
    BlitzLens.signatureHelp? symbols service.stubs lines position context

/-- The highlighted words of a document. -/
def tokens (disk : Disk) (path text : Text) : Answer (List Token) := do
  match ← symbols disk path text with
  | .ok symbols =>
    match Highlight.tokens symbols path text.lines with
    | .ok tokens => return tokens
    | .error _ =>
      record [.documentQueryFailed .highlights path]
      return []
  | .error _ =>
    record [.documentQueryFailed .highlights path]
    return []

/-- The outline of a document. -/
def outline (disk : Disk) (path text : Text) : Answer (List OutlineNode) := do
  match ← symbols disk path text with
  | .ok symbols => return BlitzLens.outline symbols path
  | .error _ =>
    record [.documentQueryFailed .outline path]
    return []

/-- The open points of a text. -/
def todos (service : Service) (text : Text) : List Todo :=
  Todo.find text service.settings.todoTags

end Service

end BlitzLens
