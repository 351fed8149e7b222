import BlitzLens.Text.Lowercase

/-!
# Value types

A name carries its type as a suffix: one of three signs for the plain types, or a dot and the name
of a record type for objects.
-/

namespace BlitzLens

/-- The kinds of values a name can hold. -/
inductive ValueType where
  /-- No type is annotated. -/
  | untyped
  /-- Whole numbers, `%`. -/
  | integer
  /-- Floating-point numbers, `#`. -/
  | float
  /-- Strings, `$`. -/
  | string
  /-- Objects of a record type. -/
  | object
  deriving DecidableEq, Repr

/-- The word for a value type. -/
def ValueType.word : ValueType → Text
  | .untyped => "untyped"
  | .integer => "integer"
  | .float => "float"
  | .string => "string"
  | .object => "object"

/-- What a suffix says about the type of a name. -/
structure TypeMark where
  /-- The kind of values. -/
  valueType : ValueType
  /-- The key of the record type, for objects. -/
  typeName : Option Text
  /-- The name of the record type as it is written, for objects. -/
  typeDisplay : Option Text
  deriving DecidableEq, Repr

namespace TypeMark

/-- The type mark of a name without a suffix. -/
def none : TypeMark := ⟨.untyped, Option.none, Option.none⟩

/-- The type mark with a plain value type. -/
def plain (valueType : ValueType) : TypeMark := ⟨valueType, Option.none, Option.none⟩

/-- The type mark that a suffix stands for; a suffix of dots and blanks says nothing. -/
def ofSuffix (suffix : Text) : TypeMark :=
  if suffix.isEmpty then .none
  else if suffix == ['%'] then plain .integer
  else if suffix == ['#'] then plain .float
  else if suffix == ['$'] then plain .string
  else
    let display := Text.trim (suffix.dropWhile (· == '.'))
    if display.isEmpty then .none else ⟨.object, some (Text.lower display), some display⟩

end TypeMark

/-- Whether `c` is one of the three signs that annotate a plain type. -/
def isTypeSign (c : Char) : Bool :=
  c == '%' || c == '#' || c == '$'

end BlitzLens
