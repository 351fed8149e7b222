import BlitzLens.Text.Lowercase

/-!
# Stubs

A stub documents a built-in function, or a function of a user library. Stubs are gathered in a
table, in which several stubs may have one name.
-/

namespace BlitzLens

/-- The documentation of one function that has no source. -/
structure Stub where
  /-- The name as it is written. -/
  name : Text
  /-- The declaration. -/
  declaration : Text
  /-- The documentation of the parameters. -/
  paramDocs : List Text := []
  /-- The lines of the description. -/
  description : List Text := []
  /-- An example of a call. -/
  sample : Text := []
  /-- The declaration file of the user library the function comes from. -/
  source : Option Text := none
  deriving DecidableEq, Repr

namespace Stub

/-- The key a stub is looked up by. -/
def key (stub : Stub) : Text :=
  stub.name.lower

/-- The text between the first opening and the last closing parenthesis of a declaration, or to its
end when none closes. -/
def argumentText? (stub : Stub) : Option Text := do
  let opening ← stub.declaration.indexFrom? '(' 0
  match stub.declaration.lastIndexOf? ')' with
  | some closing =>
    if opening < closing then return stub.declaration.slice (opening + 1 : Nat) closing
    else return stub.declaration.drop (opening + 1)
  | none => return stub.declaration.drop (opening + 1)

/-- Whether the declaration lists at least one parameter. -/
def takesArguments (stub : Stub) : Bool :=
  stub.argumentText?.any fun text => !text.isBlankText

end Stub

/-- The stubs of a workspace, in order. -/
structure StubTable where
  /-- The stubs. -/
  stubs : List Stub
  deriving DecidableEq, Repr

namespace StubTable

/-- All stubs of a name. -/
def lookup (table : StubTable) (name : Text) : List Stub :=
  table.stubs.filter fun stub => stub.key == name.lower

/-- The first stub of a name. -/
def first? (table : StubTable) (name : Text) : Option Stub :=
  table.stubs.find? fun stub => stub.key == name.lower

/-- Whether a name has a stub. -/
def contains (table : StubTable) (name : Text) : Bool :=
  (table.first? name).isSome

/-- The table with more stubs behind its own. -/
def append (table : StubTable) (extra : List Stub) : StubTable :=
  ⟨table.stubs ++ extra⟩

end StubTable

end BlitzLens
