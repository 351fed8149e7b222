import BlitzLens.Text.Lowercase

/-!
# Reserved words

The words that a name may not be. They are compared by their lower case.
-/

namespace BlitzLens.Keyword

/-- The reserved words in lower case. -/
def reservedWords : List Text :=
  List.map String.toList [
    "after", "and", "before", "case", "const", "data", "default", "delete", "dim", "each", "else",
    "elseif", "end", "endfunction", "endif", "endselect", "endtype", "exit", "false", "field",
    "first", "float", "for", "forever", "function", "global", "gosub", "goto", "if", "include",
    "insert", "int", "last", "local", "mod", "new", "next", "not", "null", "or", "pi", "read",
    "repeat", "restore", "return", "sar", "select", "shl", "shr", "step", "str", "then", "to",
    "true", "type", "until", "wend", "while", "xor"]

/-- Whether `word` is reserved, in any case. -/
def isReserved (word : Text) : Bool :=
  reservedWords.contains word.lower

end BlitzLens.Keyword
