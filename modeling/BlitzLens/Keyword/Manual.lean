import BlitzLens.Text.Lowercase

/-!
# The manual of keywords

Short documentation of reserved words and of the two-word phrases that close or continue a block.
-/

namespace BlitzLens.Keyword

/-- The manual entry of a keyword or phrase. -/
structure Entry where
  /-- The keyword in lower case; the words of a phrase are separated by one space. -/
  key : Text
  /-- How the keyword is used. -/
  usage : Text
  /-- What the keyword does. -/
  description : Text

/-- The entries of the manual. -/
def manual : List Entry := [
  ⟨"if", "If condition Then", "Runs the following block when the condition is true."⟩,
  ⟨"then", "If condition Then", "Separates an If condition from its statements."⟩,
  ⟨"else", "Else", "Starts the block run when no If or ElseIf condition held."⟩,
  ⟨"else if", "Else If condition", "Tests another condition when the previous ones failed."⟩,
  ⟨"elseif", "ElseIf condition", "Tests another condition when the previous ones failed."⟩,
  ⟨"end if", "End If", "Closes an If block."⟩,
  ⟨"endif", "EndIf", "Closes an If block."⟩,
  ⟨"select", "Select expression", "Compares an expression against a list of Case values."⟩,
  ⟨"case", "Case value[, value...]",
    "Starts the block run when the Select expression matches."⟩,
  ⟨"default", "Default", "Starts the block run when no Case matched."⟩,
  ⟨"end select", "End Select", "Closes a Select block."⟩,
  ⟨"for", "For variable = start To end [Step step]", "Repeats a block for a range of values."⟩,
  ⟨"each", "For variable.Type = Each Type", "Iterates over every object of a type."⟩,
  ⟨"to", "For variable = start To end", "Separates the start and end values of a For loop."⟩,
  ⟨"step", "Step increment", "Sets the increment of a For loop."⟩,
  ⟨"next", "Next", "Closes a For loop."⟩,
  ⟨"while", "While condition", "Repeats a block while the condition is true."⟩,
  ⟨"wend", "Wend", "Closes a While loop."⟩,
  ⟨"repeat", "Repeat", "Starts a loop closed by Until or Forever."⟩,
  ⟨"until", "Until condition", "Closes a Repeat loop once the condition is true."⟩,
  ⟨"forever", "Forever", "Closes a Repeat loop that never ends on its own."⟩,
  ⟨"exit", "Exit", "Leaves the innermost loop."⟩,
  ⟨"function", "Function name[suffix]([parameters])", "Declares a function."⟩,
  ⟨"end function", "End Function", "Closes a function declaration."⟩,
  ⟨"return", "Return [value]", "Leaves a function, optionally returning a value."⟩,
  ⟨"type", "Type name", "Declares a custom type."⟩,
  ⟨"field", "Field name[suffix][, ...]", "Declares fields of a custom type."⟩,
  ⟨"end type", "End Type", "Closes a type declaration."⟩,
  ⟨"new", "New Type", "Creates an object of a custom type."⟩,
  ⟨"delete", "Delete object", "Deletes an object, or every object with Delete Each."⟩,
  ⟨"first", "First Type", "Returns the first object of a type."⟩,
  ⟨"last", "Last Type", "Returns the last object of a type."⟩,
  ⟨"before", "Before object", "Returns the object before another in its type list."⟩,
  ⟨"after", "After object", "Returns the object after another in its type list."⟩,
  ⟨"insert", "Insert object Before|After other", "Moves an object within its type list."⟩,
  ⟨"null", "Null", "The empty object reference."⟩,
  ⟨"global", "Global name[suffix][ = value]", "Declares a variable visible everywhere."⟩,
  ⟨"local", "Local name[suffix][ = value]", "Declares a variable local to its function."⟩,
  ⟨"const", "Const name[suffix] = value", "Declares a constant."⟩,
  ⟨"dim", "Dim name[suffix](size[, ...])", "Declares a global array."⟩,
  ⟨"goto", "Goto label", "Jumps to a label."⟩,
  ⟨"gosub", "Gosub label", "Jumps to a label and returns on Return."⟩,
  ⟨"include", "Include \"file\"", "Includes another source file."⟩,
  ⟨"and", "a And b", "Logical and bitwise and."⟩,
  ⟨"or", "a Or b", "Logical and bitwise or."⟩,
  ⟨"xor", "a Xor b", "Bitwise exclusive or."⟩,
  ⟨"not", "Not a", "Logical negation."⟩,
  ⟨"mod", "a Mod b", "Remainder of a division."⟩,
  ⟨"shl", "a Shl b", "Shifts bits left."⟩,
  ⟨"shr", "a Shr b", "Shifts bits right."⟩,
  ⟨"sar", "a Sar b", "Shifts bits right, keeping the sign."⟩,
  ⟨"true", "True", "The value 1."⟩,
  ⟨"false", "False", "The value 0."⟩,
  ⟨"pi", "Pi", "The constant 3.14159..."⟩,
  ⟨"end", "End", "Ends the program."⟩]

/-- The manual entry of a word or phrase, in any case and spacing. -/
def entry? (words : Text) : Option Entry :=
  let key := (Text.joinWith [' '] (Text.blankSeparated words)).lower
  manual.find? fun entry => entry.key == key

/-- Whether a word, in lower case, opens a two-word phrase. -/
def opensPhrase (word : Text) : Bool :=
  word == "end".toList || word == "else".toList

/-- The words, in lower case, that continue a word to a phrase. -/
def continuations (word : Text) : List Text :=
  if word == "end".toList then ["if", "function", "type", "select"]
  else if word == "else".toList then ["if"]
  else []

/-- The phrase that two words make, in lower case. -/
def phrase? (first second : Text) : Option Text :=
  if (continuations first.lower).contains second.lower then
    some (first.lower ++ [' '] ++ second.lower)
  else none

end BlitzLens.Keyword
