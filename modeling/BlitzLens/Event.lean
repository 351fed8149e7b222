import BlitzLens.Files.Disk

/-!
# Events

What the library reports besides its answers. An event has a level and a source, and is written as
one line.
-/

namespace BlitzLens

/-- How much an event matters. -/
inductive Level where
  /-- Of interest when something is traced. -/
  | debug
  /-- Progress. -/
  | info
  /-- Something was left out. -/
  | warning
  /-- A question could not be answered. -/
  | error
  deriving DecidableEq, Repr

namespace Level

/-- The rank of a level. -/
def rank : Level → Nat
  | .debug => 0
  | .info => 1
  | .warning => 2
  | .error => 3

/-- The word for a level. -/
def word : Level → Text
  | .debug => "DEBUG"
  | .info => "INFO"
  | .warning => "WARNING"
  | .error => "ERROR"

end Level

/-- The questions about a place in a document. -/
inductive CaretQuery where
  /-- The text to show over a word. -/
  | hover
  /-- The place of a declaration. -/
  | definition
  /-- The words that may be written. -/
  | completion
  /-- The parameters of the call that is being written. -/
  | signature
  deriving DecidableEq, Repr

/-- The name of a question. -/
def CaretQuery.word : CaretQuery → Text
  | .hover => "Hover"
  | .definition => "Definition"
  | .completion => "Completion"
  | .signature => "Signature help"

/-- The questions about a whole document. -/
inductive DocumentQuery where
  /-- The highlighted words. -/
  | highlights
  /-- The outline. -/
  | outline
  deriving DecidableEq, Repr

/-- The name of a question. -/
def DocumentQuery.word : DocumentQuery → Text
  | .highlights => "Semantic tokens"
  | .outline => "Outline"

/-- Something that happened while a question was answered. -/
inductive Event where
  /-- An include of a file that is being included already was skipped. -/
  | cycleSkipped (including included : Text)
  /-- An include was nested too deeply. -/
  | depthReached (included : Text)
  /-- An included file could not be read. -/
  | includeUnreadable (included : Text) (error : FileError)
  /-- Stubs were read from a stub file. -/
  | stubsLoaded (count : Nat) (origin : Text)
  /-- Stubs were read from the declaration files of a directory. -/
  | libraryStubsLoaded (count : Nat) (directory : Text)
  /-- The directory of declaration files does not exist. -/
  | libraryMissing (directory : Text)
  /-- A declaration file could not be read. -/
  | libraryUnreadable (path : Text) (error : FileError)
  /-- An extraction was answered from the cache. -/
  | cacheHit (path : Text)
  /-- An extraction was not in the cache. -/
  | cacheMiss (path : Text)
  /-- A question about a place could not be answered. -/
  | caretQueryFailed (query : CaretQuery) (path : Text) (line column : Int)
  /-- A question about a document could not be answered. -/
  | documentQueryFailed (query : DocumentQuery) (path : Text)
  deriving DecidableEq, Repr

namespace Event

/-- The level of an event. -/
def level : Event → Level
  | .cycleSkipped .. => .debug
  | .depthReached .. => .warning
  | .includeUnreadable .. => .warning
  | .stubsLoaded .. => .debug
  | .libraryStubsLoaded .. => .debug
  | .libraryMissing .. => .warning
  | .libraryUnreadable .. => .warning
  | .cacheHit .. => .debug
  | .cacheMiss .. => .debug
  | .caretQueryFailed .. => .error
  | .documentQueryFailed .. => .error

/-- The part of the library that reports an event. -/
def source : Event → Text
  | .cycleSkipped .. => "parse.extract"
  | .depthReached .. => "parse.extract"
  | .includeUnreadable .. => "parse.extract"
  | .stubsLoaded .. => "stubs.table"
  | .libraryStubsLoaded .. => "stubs.table"
  | .libraryMissing .. => "stubs.decls"
  | .libraryUnreadable .. => "stubs.decls"
  | .cacheHit .. => "index.cache"
  | .cacheMiss .. => "index.cache"
  | .caretQueryFailed .. => "providers.service"
  | .documentQueryFailed .. => "providers.service"

/-- The wording of an event. -/
def message : Event → Text
  | .cycleSkipped including included =>
    "Skipping include cycle " ++ including ++ " -> " ++ included
  | .depthReached included => "Include depth limit reached at " ++ included
  | .includeUnreadable included error =>
    "Cannot read included file " ++ included ++ ": " ++ error.message
  | .stubsLoaded count origin => "Loaded " ++ Text.ofInt count ++ " stubs from " ++ origin
  | .libraryStubsLoaded count directory =>
    "Loaded " ++ Text.ofInt count ++ " userlib stubs from " ++ directory
  | .libraryMissing directory => "Userlibs directory " ++ directory ++ " does not exist"
  | .libraryUnreadable path error => "Cannot read " ++ path ++ ": " ++ error.message
  | .cacheHit path => "Symbol cache hit for " ++ path
  | .cacheMiss path => "Symbol cache miss for " ++ path
  | .caretQueryFailed query path line column =>
    query.word ++ " failed for " ++ path ++ ":" ++ Text.ofInt line ++ ":" ++ Text.ofInt column
  | .documentQueryFailed query path => query.word ++ " failed for " ++ path

/-- The line that reports an event. -/
def line (event : Event) : Text :=
  event.level.word ++ " " ++ event.source ++ ": " ++ event.message

/-- The events of at least a level. -/
def atLeast (level : Level) (events : List Event) : List Event :=
  events.filter fun event => level.rank ≤ event.level.rank

end Event

end BlitzLens
