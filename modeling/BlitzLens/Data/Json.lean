import BlitzLens.Data.Value
import BlitzLens.Text.Quoted

/-!
# JSON

The written form of values. The fields of a record come in the order of their names. Only quotes,
backslashes and control characters are escaped in texts. Whole numbers must fit into 64 bits, with
or without a sign.
-/

namespace BlitzLens

/-- Why a value has no written form. -/
inductive JsonError where
  /-- A whole number does not fit into 64 bits. -/
  | integerTooLarge (n : Int)
  deriving DecidableEq, Repr

namespace Json

/-- One character of a text. -/
def escaped (c : Char) : Text :=
  if c == '"' then "\\\""
  else if c == '\\' then "\\\\"
  else if c == '\n' then "\\n"
  else if c == '\r' then "\\r"
  else if c == '\t' then "\\t"
  else if c == '\x08' then "\\b"
  else if c == '\x0c' then "\\f"
  else if c.toNat < 32 then "\\u" ++ hexDigits 4 c.toNat
  else [c]

/-- A text in quotes. -/
def quotedText (text : Text) : Text :=
  ['"'] ++ text.flatMap escaped ++ ['"']

/-- The number with some digits and its decimal point at `point`. Numbers are written positionally
from five places behind the point up to sixteen before it. -/
def decimalText (digits : Text) (point : Int) : Text :=
  let count : Int := digits.length
  if count ≤ point && point ≤ 16 then
    digits ++ List.replicate (point - count).toNat '0' ++ ['.', '0']
  else if 0 < point && point ≤ 16 then
    digits.take point.toNat ++ ['.'] ++ digits.drop point.toNat
  else if -5 < point && point ≤ 0 then
    ['0', '.'] ++ List.replicate (-point).toNat '0' ++ digits
  else
    let power := ['e'] ++ Text.ofInt (point - 1)
    if digits.length == 1 then digits ++ power
    else digits.take 1 ++ ['.'] ++ digits.drop 1 ++ power

/-- A floating-point number; infinite and undefined ones are written as no value. -/
def floatText : Binary64 → Text
  | .finite negative mantissa exponent =>
    let magnitude : Text :=
      if mantissa == 0 then "0.0"
      else
        let (digits, power) := Binary64.shortest mantissa exponent
        let digits := Nat.toDigits 10 digits
        decimalText digits (digits.length + power)
    if negative then '-' :: magnitude else magnitude
  | _ => "null"

/-- The start of a new line at a depth. -/
def newLine (depth : Nat) : Text :=
  '\n' :: List.replicate (2 * depth) ' '

mutual

/-- A value at a depth, on several lines if `spread`. -/
def print (spread : Bool) (depth : Nat) : Value → Text
  | .null => "null"
  | .bool true => "true"
  | .bool false => "false"
  | .int n => Text.ofInt n
  | .float x => floatText x
  | .text t => quotedText t
  | .moment t => quotedText t
  | .list [] => "[]"
  | .list (item :: items) =>
    let gap := if spread then newLine (depth + 1) else []
    let close := if spread then newLine depth else []
    "[" ++ gap ++ print spread (depth + 1) item ++ printItems spread depth gap items ++ close ++ "]"
  | .record [] => "\x7b\x7d"
  | .record ((name, value) :: fields) =>
    let gap := if spread then newLine (depth + 1) else []
    let close := if spread then newLine depth else []
    let colon : Text := if spread then ": " else ":"
    "\x7b" ++ gap ++ quotedText name ++ colon ++ print spread (depth + 1) value ++
      printFields spread depth gap colon fields ++ close ++ "\x7d"

/-- The later items of a list, each behind a comma and `gap`. -/
def printItems (spread : Bool) (depth : Nat) (gap : Text) : List Value → Text
  | [] => []
  | item :: items =>
    "," ++ gap ++ print spread (depth + 1) item ++ printItems spread depth gap items

/-- The later fields of a record, each behind a comma and `gap`. -/
def printFields (spread : Bool) (depth : Nat) (gap colon : Text) : List (Text × Value) → Text
  | [] => []
  | (name, value) :: fields =>
    "," ++ gap ++ quotedText name ++ colon ++ print spread (depth + 1) value ++
      printFields spread depth gap colon fields

end

/-- Whether a whole number fits into 64 bits, with or without a sign. -/
def fits (n : Int) : Bool :=
  -9223372036854775808 ≤ n && n < 18446744073709551616

mutual

/-- A whole number within a value that does not fit. -/
def tooLarge? : Value → Option Int
  | .int n => if fits n then none else some n
  | .list items => tooLargeItem? items
  | .record fields => tooLargeField? fields
  | _ => none

/-- A whole number within some values that does not fit. -/
def tooLargeItem? : List Value → Option Int
  | [] => none
  | item :: items => (tooLarge? item).or (tooLargeItem? items)

/-- A whole number within some fields that does not fit. -/
def tooLargeField? : List (Text × Value) → Option Int
  | [] => none
  | (_, value) :: fields => (tooLarge? value).or (tooLargeField? fields)

end

/-- The written form of a value. -/
def encode (spread : Bool) (value : Value) : Except JsonError Text :=
  match tooLarge? value with
  | some n => .error (.integerTooLarge n)
  | none => .ok (print spread 0 value.sorted)

/-- The written form of a value on one line. -/
def line (value : Value) : Text :=
  print false 0 value.sorted

end Json

end BlitzLens
