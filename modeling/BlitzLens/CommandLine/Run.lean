import BlitzLens.CommandLine.Outcome
import BlitzLens.CommandLine.Request
import BlitzLens.Exchange.Answers

/-!
# Carrying out requests

A request is carried out on a tree of files. First the service is set up, for the workspace in the
first root if there is one; what stands in the way of that, and of reading the file in question, is
told in a notice.
-/

namespace BlitzLens.CommandLine

/-- The least level of events that make notices. -/
def noticeLevel (verbosity : Nat) : Level :=
  match verbosity with
  | 0 => .warning
  | 1 => .info
  | _ => .debug

/-- The notices that events make. -/
def noticesOf (verbosity : Nat) (events : List Event) : List Text :=
  (Event.atLeast (noticeLevel verbosity) events).map Event.line

/-- The real form of a path that was given. -/
def realPath (tree : FileTree) (path : Text) : Except Failure Path := do
  let path ← (tree.expandHome (Path.ofText path)).mapError Failure.path
  (tree.resolve path).mapError Failure.path

/-- A service for the workspace in the first root, or for none, and the events of setting it up. -/
def setUp (tree : FileTree) (roots : List Path) : Except SetupError (Service × List Event) :=
  match roots with
  | [] => Service.ofSettings tree {} [] true
  | root :: others => Service.ofWorkspace tree root (others.map Path.toText) true

/-- The outcome when the service cannot be set up. -/
def setUpFailed (error : SetupError) : Except Failure Outcome :=
  match error with
  | .settings (.unreachable error) => .error (.file error)
  | .settings .noText => .error (.settings .noText)
  | .settings .longNumber => .error (.settings .longNumber)
  | .settings error => .ok (.error error.message error.details)
  | .stubs (.unreachable error) => .error (.file error)
  | .stubs error => .ok (.error error.message [])
  | .path error => .error (.path error)

/-- An answer of a service, and the notices about it. -/
def ask {α : Type} (verbosity : Nat) (service : Service) (answer : Answer α) : α × List Text :=
  let (found, service) := answer.run { service with events := [] }
  (found, noticesOf verbosity service.events)

/-- The outcome of a question that is answered for the text of a file. -/
def askFile (tree : FileTree) (file : Text) (answer : Text → Text → Except Failure Outcome) :
    Except Failure Outcome := do
  let path := (← realPath tree file).toText
  match tree.disk.readSource path with
  | .error error => return .error error.message []
  | .ok text => answer path text

/-- The outcome of a question that is always answered. -/
def askSafely {α : Type} (tree : FileTree) (verbosity : Nat) (service : Service) (file : Text)
    (question : Text → Text → Answer α) (outcome : α → Outcome) : Except Failure Outcome :=
  askFile tree file fun path text =>
    let (found, notices) := ask verbosity service (question path text)
    .ok ((outcome found).after notices)

/-- The symbols of a file. -/
def runSymbols (tree : FileTree) (verbosity : Nat) (service : Service) (file : Text) :
    Except Failure Outcome :=
  askFile tree file fun path text =>
    match ask verbosity service (Service.symbols tree.disk path text) with
    | (.ok symbols, notices) => .ok ((Outcome.answer (Exchange.ofSymbols symbols)).after notices)
    | (.error error, _) => .error (.document error)

/-- The highlighted words of a file, as numbers behind the legend of their classes. -/
def encodedTokens (tokens : List Token) : Except EncodeError Value := do
  let numbers ← Token.encode Token.fullLegend tokens
  return .record [("legend", .ofTexts Token.fullLegend), ("data", .list (numbers.map .int))]

/-- The highlighted words of a file. -/
def runTokens (tree : FileTree) (verbosity : Nat) (service : Service) (file : Text)
    (encoded : Bool) : Except Failure Outcome :=
  askFile tree file fun path text =>
    let (tokens, notices) := ask verbosity service (Service.tokens tree.disk path text)
    if !encoded then .ok ((Outcome.answer (Exchange.each Exchange.ofToken tokens)).after notices)
    else
      match encodedTokens tokens with
      | .ok value => .ok ((Outcome.answer value).after notices)
      | .error error => .error (.tokens error)

/-- The symbols that a source file declares itself, and the notices about it. -/
def indexFile (tree : FileTree) (verbosity : Nat) (service : Service) (path : Text) :
    Except Failure (List Symbol × List Text × Service) :=
  match tree.disk.readSource path with
  | .error error => .ok ([], ["skipped: " ++ path ++ ": " ++ error.message], service)
  | .ok text =>
    let (found, service) := (Service.symbols tree.disk path text).run { service with events := [] }
    match found with
    | .error error => .error (.document error)
    | .ok symbols =>
      .ok (symbols.filter fun symbol => symbol.declared.path == path,
        noticesOf verbosity service.events, service)

/-- The symbols that source files declare themselves, and the notices about them. -/
def indexFiles (tree : FileTree) (verbosity : Nat) (service : Service) :
    List Text → Except Failure (List Symbol × List Text)
  | [] => .ok ([], [])
  | path :: paths => do
    let (symbols, notices, service) ← indexFile tree verbosity service path
    let (more, later) ← indexFiles tree verbosity service paths
    return (symbols ++ more, notices ++ later)

/-- The failure that a problem with source files is. -/
def sourceFailure : SourceError → Failure
  | .unreachable error => .file error
  | .ignore error => .ignore error

/-- The outcome of an index that is written to a file, or else to the output. -/
def indexOutcome (tree : FileTree) (out : Option Text) (lines : Text) (notices : List Text) :
    Except Failure Outcome :=
  match out with
  | none => .ok { exitCode := Outcome.success, output := lines, notices }
  | some out => do
    let path := (← realPath tree out).toText
    -- the file is opened after the passes, so a refusal comes last
    let _ ← (tree.writable path).mapError Failure.file
    return { exitCode := Outcome.success, notices, written := some (path, lines) }

/-- The symbols of all source files below a directory. -/
def runIndex (tree : FileTree) (verbosity : Nat) (service : Service) (directory : Text)
    (out : Option Text) : Except Failure Outcome := do
  let root ← realPath tree directory
  if !(← (tree.isDirectory root.toText).mapError Failure.file) then
    return .error ("not a directory: " ++ root.toText) []
  let sources ← (Sources.find tree root service.settings.sourceExtensions []).mapError sourceFailure
  let paths := sources.map fun source => (root.join (Path.ofText source)).toText
  let (symbols, notices) ← indexFiles tree verbosity service paths
  indexOutcome tree out (Outcome.jsonLines (symbols.map Exchange.ofSymbol)) notices

/-- The check that passes over a file find the same. -/
def runVerify (tree : FileTree) (verbosity : Nat) (service : Service) (file : Text) :
    Except Failure Outcome := do
  let path := (← realPath tree file).toText
  let rules := Service.includeRules service.settings service.roots
  match Determinism.check tree rules path with
  | (.ok outcome, events) =>
    let mismatches : List Text :=
      outcome.mismatches.map fun pass => "mismatch: " ++ pass.word
    return {
      exitCode := if outcome.holds then Outcome.success else Outcome.nothingFound
      notices := noticesOf verbosity events ++ mismatches }
  | (.error (.failed error), _) => .error (.document error)
  | (.error (.missing path), _) => return .error (DeterminismError.message (.missing path)) []
  | (.error (.unreadable error), _) => return .error error.message []

/-- Carries out a command on a service that is set up. -/
def runCommand (tree : FileTree) (verbosity : Nat) (service : Service) :
    Command → Except Failure Outcome
  | .symbols file => runSymbols tree verbosity service file
  | .hover file position =>
    askSafely tree verbosity service file
      (fun path text => Service.hover? tree.disk path text (.ofPosition position))
      fun hover => .found hover.isSome (Exchange.optional Exchange.ofHover hover)
  | .definition file position =>
    askSafely tree verbosity service file
      (fun path text => Service.definition tree.disk path text (.ofPosition position))
      fun places => .found (!places.isEmpty) (Exchange.each Exchange.ofLocation places)
  | .complete file position trigger =>
    askSafely tree verbosity service file
      (fun path text => Service.complete tree.disk path text (.ofPosition position) trigger)
      fun items => .answer (Exchange.each Exchange.ofCompletion items)
  | .signature file position =>
    askSafely tree verbosity service file
      (fun path text =>
        Service.signatureHelp? tree.disk path text (.ofPosition position)
          (some ⟨.invoke, none, none⟩))
      fun help => .found help.isSome (Exchange.optional Exchange.ofSignatureHelp help)
  | .tokens file encoded => runTokens tree verbosity service file encoded
  | .outline file =>
    askSafely tree verbosity service file (Service.outline tree.disk)
      fun nodes => .answer (Exchange.each Exchange.ofNode nodes)
  | .todos file =>
    askFile tree file fun _ text =>
      .ok (.answer (Exchange.each Exchange.ofTodo (service.todos text)))
  | .index directory out => runIndex tree verbosity service directory out
  | .verify file => runVerify tree verbosity service file

/-- Carries out a request. -/
def run (tree : FileTree) (request : Request) : Except Failure Outcome := do
  let roots ← request.roots.mapM (realPath tree)
  match setUp tree roots with
  | .error error => setUpFailed error
  | .ok (service, events) =>
    let outcome ← runCommand tree request.verbosity service request.command
    return outcome.after (noticesOf request.verbosity events)

end BlitzLens.CommandLine
