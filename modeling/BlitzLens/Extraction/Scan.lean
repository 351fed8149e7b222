import BlitzLens.Event
import BlitzLens.Extraction.Step

/-!
# Extraction

One forward pass over the lines of a document turns it into its symbols. An include is followed
where it stands: the symbols of the included file are spliced in at that place. The files that are
being included form a chain, which may not grow beyond a limit, and in which, if the settings say
so, no file occurs twice. Every pass records what it read and what happened on the way.
-/

namespace BlitzLens

/-- How includes are followed. -/
structure IncludeRules where
  /-- Included paths start from the first of these directories, or, when there is none, from the
  directory of the including file. -/
  roots : List Text
  /-- Whether a file that is being included already is skipped. -/
  guarded : Bool
  /-- The number of files that may be nested in the document. -/
  maxDepth : Int
  deriving DecidableEq, Repr

/-- A file that a pass depends on: its path, and its stamp if it could be read. -/
structure Dependency where
  /-- The path of the file. -/
  path : Text
  /-- The stamp of the file, if it could be read. -/
  stamp : Option Stamp
  deriving DecidableEq, Repr

/-- What a pass leaves behind besides its symbols. -/
structure Trace where
  /-- The events, in order. -/
  events : List Event
  /-- The files the pass depends on, in the order in which they were first met. -/
  dependencies : List Dependency
  deriving DecidableEq, Repr

namespace Trace

/-- The trace before a pass. -/
def empty : Trace := ⟨[], []⟩

/-- The trace with one more event. -/
def report (trace : Trace) (event : Event) : Trace :=
  { trace with events := trace.events ++ [event] }

/-- The trace with the outcome of reading a file; a file met before keeps its place. -/
def depend (trace : Trace) (path : Text) (stamp : Option Stamp) : Trace :=
  let known := trace.dependencies.any fun dependency => dependency.path == path
  { trace with
    dependencies :=
      if known then
        trace.dependencies.map fun dependency =>
          if dependency.path == path then ⟨path, stamp⟩ else dependency
      else trace.dependencies ++ [⟨path, stamp⟩] }

end Trace

/-- A pass: it either yields a value or fails, and leaves a trace in both cases. -/
abbrev Pass := ExceptT ExtractError (StateM Trace)

namespace Extraction

/-- Reports an event. -/
def report (event : Event) : Pass Unit :=
  modify fun trace => trace.report event

/-- The path of the file that a file includes. -/
def includedPath (rules : IncludeRules) (including target : Text) : Text :=
  let base : Path := match rules.roots with
    | root :: _ => Path.ofText root
    | [] => (Path.ofText including).parent
  (base.join target).collapse.toText

/-- The text and stamp of a file. -/
def readStamped (disk : Disk) (path : Text) : Except FileError (Text × Stamp) := do
  let text ← disk.readSource path
  let stamp ← disk.stat path
  return (text, stamp)

/-- The symbols of the file that an include names. `chain` holds the identities of the files that
are being included, and `deeper` reads a file that is nested one level deeper, unless the limit is
reached. -/
def splice (disk : Disk) (rules : IncludeRules)
    (deeper : Option (Text → Text → List Text → Pass (List Symbol))) (including : Text)
    (chain : List Text) (target : Text) : Pass (List Symbol) := do
  let included := includedPath rules including target
  let identity := disk.identity included
  -- the guard goes before the limit, so a circle is reported as such at any depth
  if rules.guarded && chain.contains identity then
    report (.cycleSkipped including included)
    return []
  match deeper with
  | none =>
    report (.depthReached included)
    return []
  | some deeper =>
    match readStamped disk included with
    | .error error =>
      -- a file that appears later must be noticed, so the failure is a dependency too
      modify fun trace => trace.depend included none
      report (.includeUnreadable included error)
      return []
    | .ok (text, stamp) =>
      modify fun trace => trace.depend included (some stamp)
      deeper included text (identity :: chain)

/-- The draft after a line. -/
def scanLine (source : Source) (splice : Text → Pass (List Symbol)) (draft : Draft)
    (numbered : Text × Nat) : Pass Draft :=
  let (line, number) := numbered
  match Statement.read line with
  | .includeFile target => do
    let found ← splice target
    return { draft with symbols := draft.symbols ++ found }
  | statement =>
    match draft.step source number line statement with
    | .ok draft => pure draft
    | .error error => throw error

/-- The symbols of a file whose includes are read by `splice`. -/
def scanLines (source : Source) (splice : Text → Pass (List Symbol)) : Pass (List Symbol) := do
  let draft ← source.lines.zipIdx.foldlM (scanLine source splice) .empty
  return draft.finish source

/-- The symbols of a file in which files may be nested up to a depth. -/
def scan (disk : Disk) (rules : IncludeRules) :
    Nat → Text → Text → List Text → Pass (List Symbol)
  | 0, path, text, chain =>
    scanLines (.ofText path text) (splice disk rules none path chain)
  | depth + 1, path, text, chain =>
    scanLines (.ofText path text) (splice disk rules (some (scan disk rules depth)) path chain)

/-- The symbols of a document, as a pass. -/
def pass (disk : Disk) (rules : IncludeRules) (path text : Text) : Pass (List Symbol) :=
  scan disk rules rules.maxDepth.toNat path text [disk.identity path]

end Extraction

/-- The symbols of a document, and the trace of the pass that found them. -/
def extract (disk : Disk) (rules : IncludeRules) (path text : Text) :
    Except ExtractError (List Symbol) × Trace :=
  (Extraction.pass disk rules path text).run.run .empty

end BlitzLens
