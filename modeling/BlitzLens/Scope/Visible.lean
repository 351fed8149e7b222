import BlitzLens.Symbol.Basic

/-!
# Visibility and precedence

Which symbols may be referenced on a line, and which of several symbols of one name is meant.

The symbols visible on a line come in an order: first the top-level symbols as they were declared,
then the fields of the types that are open there, then the variables of the enclosing function. The
first function, type or label that admits an occurrence is meant. Variables do not stop the search:
a later one, such as a local declared after a global of the same name or a loop iterator that reuses
it, overrides an earlier one.
-/

namespace BlitzLens.Scope

/-- The function of a file whose body holds a line. -/
def enclosingFunction? (symbols : List Symbol) (path : Text) (line : Int) : Option Function :=
  (symbols.filterMap Symbol.asFunction?).find? fun f => f.path == path && f.scope.containsLine line

/-- Whether a top-level variable may be referenced on a line of a file. An iterator is visible
inside its loop only, and a top-level local outside functions only. -/
def reaches (v : Variable) (path : Text) (line : Int) (insideFunction : Bool) : Bool :=
  if v.isIterator then v.path == path && v.scope.containsLine line
  else !(v.storage == .localVar && insideFunction)

/-- Whether a top-level symbol may be referenced on a line of a file. -/
def isVisible (path : Text) (line : Int) (insideFunction : Bool) : Symbol → Bool
  | .ofVariable v => reaches v path line insideFunction
  | _ => true

/-- The variables of a function that may be referenced on a line. -/
def visibleLocals (f : Function) (line : Int) : List Variable :=
  f.locals.filter fun v => !v.isIterator || v.scope.containsLine line

/-- The fields of the types of a file that are open on a line. -/
def openFields (symbols : List Symbol) (path : Text) (line : Int) : List Variable :=
  ((symbols.filterMap Symbol.asType?).filter fun t =>
    t.path == path && t.scope.containsLine line).flatMap RecordType.fields

/-- The symbols that may be referenced on a line of a file, in the order in which they are
considered. -/
def visible (symbols : List Symbol) (path : Text) (line : Int) (withFields : Bool) :
    List Symbol :=
  let enclosing := enclosingFunction? symbols path line
  symbols.filter (isVisible path line enclosing.isSome) ++
    (if withFields then (openFields symbols path line).map .ofVariable else []) ++
    (match enclosing with
      | some f => (visibleLocals f line).map .ofVariable
      | none => [])

/-- Whether the guard of a symbol admits a word of a line. -/
def accepts (symbol : Symbol) (line : Text) (word : Word) : Except ColumnError Bool :=
  symbol.declared.guard.accepts line word.start word.stop

/-- The symbol that a word of a line refers to, out of `candidates` that have its name, where `best`
is the last variable that was admitted so far. -/
def choose (line : Text) (word : Word) (best : Option Symbol) :
    List Symbol → Except ColumnError (Option Symbol)
  | [] => .ok best
  | candidate :: candidates => do
    if ← accepts candidate line word then
      if candidate.isVariable then choose line word (some candidate) candidates
      else return some candidate
    else choose line word best candidates

/-- The symbol that a word on a line of a file refers to. -/
def resolve? (symbols : List Symbol) (path : Text) (number : Int) (line : Text) (word : Word) :
    Except ColumnError (Option Symbol) :=
  choose line word none
    ((visible symbols path number true).filter fun symbol => symbol.key == word.text.lower)

end BlitzLens.Scope
