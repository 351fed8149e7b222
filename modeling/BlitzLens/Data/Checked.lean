import BlitzLens.Data.Value
import BlitzLens.Text.Numeral

/-!
# Checked data

Reading values of a known form out of data. All faults are gathered, each with its location, the
names and indices that lead to it. Whole numbers and truth values are read leniently, for they may
be given in each other's form or as text; texts and lists are not.
-/

namespace BlitzLens

/-- What is wrong with a piece of data. -/
inductive Fault where
  /-- A required field is missing. -/
  | missing
  /-- A field is not known. -/
  | extraField
  /-- No text. -/
  | noText
  /-- No truth value. -/
  | noBool
  /-- A number or text that stands for no truth value. -/
  | unreadableBool
  /-- No whole number. -/
  | noInt
  /-- A text that stands for no whole number. -/
  | unreadableInt
  /-- A number with a fraction where a whole number is needed. -/
  | fraction
  /-- An infinite or undefined number. -/
  | notFinite
  /-- A floating-point number beyond the whole numbers of 64 bits. -/
  | tooLarge
  /-- A number below the least one that is allowed. -/
  | tooSmall
  /-- No list. -/
  | noList
  /-- No list of a fixed form. -/
  | noTuple
  /-- More items than the form has. -/
  | tooLong
  /-- A text that is none of the expected words. -/
  | unexpectedWord
  /-- No record. -/
  | noRecord
  /-- A value of the right form that is not allowed. -/
  | notAllowed
  deriving DecidableEq, Repr

/-- The word for a fault. -/
def Fault.word : Fault → Text
  | .missing => "missing"
  | .extraField => "extra_forbidden"
  | .noText => "string_type"
  | .noBool => "bool_type"
  | .unreadableBool => "bool_parsing"
  | .noInt => "int_type"
  | .unreadableInt => "int_parsing"
  | .fraction => "int_from_float"
  | .notFinite => "finite_number"
  | .tooLarge => "int_parsing_size"
  | .tooSmall => "greater_than_equal"
  | .noList => "list_type"
  | .noTuple => "tuple_type"
  | .tooLong => "too_long"
  | .unexpectedWord => "literal_error"
  | .noRecord => "model_type"
  | .notAllowed => "value_error"

/-- A fault and the names and indices that lead to it. -/
structure Problem where
  /-- The way to the fault. -/
  location : List Text
  /-- The fault. -/
  fault : Fault
  deriving DecidableEq, Repr

namespace Problem

/-- The location of a problem, its steps separated by dots. -/
def place (problem : Problem) : Text :=
  Text.joinWith ['.'] problem.location

/-- Whether a problem is listed before another, or alike: by place, then by the word for the
fault. -/
def notAfter (a b : Problem) : Bool :=
  Text.before a.place b.place || (a.place == b.place && !Text.before b.fault.word a.fault.word)

/-- Problems in the order in which they are listed. -/
def listed (problems : List Problem) : List Problem :=
  problems.mergeSort notAfter

end Problem

/-- A value that was read, or everything that was wrong with the data. -/
inductive Checked (α : Type) where
  /-- The value. -/
  | valid (value : α)
  /-- The problems. -/
  | invalid (problems : List Problem)

namespace Checked

/-- A single fault. -/
def fault {α : Type} (fault : Fault) : Checked α :=
  .invalid [⟨[], fault⟩]

/-- Applies a read function to a read argument; the problems of both are gathered. -/
def apply {α β : Type} : Checked (α → β) → Checked α → Checked β
  | .valid f, .valid a => .valid (f a)
  | .valid _, .invalid problems => .invalid problems
  | .invalid problems, .valid _ => .invalid problems
  | .invalid problems, .invalid others => .invalid (problems ++ others)

instance : Applicative Checked where
  pure := .valid
  seq f a := apply f (a ())

/-- Reads on from a value. -/
def andThen {α β : Type} (checked : Checked α) (next : α → Checked β) : Checked β :=
  match checked with
  | .valid value => next value
  | .invalid problems => .invalid problems

/-- The value, unless it fails a test. -/
def require {α : Type} (checked : Checked α) (test : α → Bool) (fault : Fault) : Checked α :=
  checked.andThen fun value => if test value then .valid value else Checked.fault fault

/-- What was read, with problems located below `step`. -/
def under {α : Type} (step : Text) : Checked α → Checked α
  | .valid value => .valid value
  | .invalid problems =>
    .invalid (problems.map fun problem => { problem with location := step :: problem.location })

/-- What was read, as a result. -/
def toExcept {α : Type} : Checked α → Except (List Problem) α
  | .valid value => .ok value
  | .invalid problems => .error (Problem.listed problems)

end Checked

/-- A way to read a value. -/
abbrev Reader (α : Type) := Value → Checked α

namespace Reader

/-- Reads a text. -/
def text : Reader Text
  | .text t => .valid t
  | _ => .fault .noText

/-- Reads nothing, or what `reader` reads. -/
def optional {α : Type} (reader : Reader α) : Reader (Option α)
  | .null => .valid none
  | value => some <$> reader value

/-- The texts that stand for the two truth values, in lower case. -/
def boolWords : List (Text × Bool) :=
  [("0", false), ("off", false), ("f", false), ("false", false), ("n", false), ("no", false),
    ("1", true), ("on", true), ("t", true), ("true", true), ("y", true), ("yes", true)]

/-- The number behind the last signed number of 64 bits. -/
def wordBound : Int := 9223372036854775808

/-- The truth value of a whole number. A number of more than 64 bits is not even looked at. -/
def boolOfInt (n : Int) : Checked Bool :=
  if n == 0 then .valid false
  else if n == 1 then .valid true
  else if n < -wordBound || wordBound ≤ n then .fault .noBool
  else .fault .unreadableBool

/-- Reads a whole number that is given as a floating-point number. -/
def intOfFloat (x : Binary64) : Checked Int :=
  match x, x.toInt? with
  | _, some n => if -wordBound < n && n < wordBound then .valid n else .fault .tooLarge
  | .finite .., none => .fault .fraction
  | _, none => .fault .notFinite

/-- Reads a truth value, also from the numbers 0 and 1 and from a few words. -/
def bool : Reader Bool
  | .bool b => .valid b
  | .int n => boolOfInt n
  | .float x =>
    match intOfFloat x with
    | .valid n => boolOfInt n
    | .invalid _ => .fault .noBool
  | .text t =>
    match boolWords.lookup (t.map Char.toLower) with
    | some b => .valid b
    | none => .fault .unreadableBool
  | _ => .fault .noBool

/-- A text without the zeros behind its decimal point. -/
def withoutFraction (text : Text) : Text :=
  if ((text.dropWhile (· != '.')).drop 1).all (· == '0') then text.takeWhile (· != '.') else text

/-- A text without its underscores, if each of them stands alone between other characters. -/
def withoutUnderscores (text : Text) : Text :=
  if (text.splitAtChar '_').any List.isEmpty then text else text.filter (· != '_')

/-- A text without the zeros that lead its number and the underscores among them; the last of these
characters stays where no other digit follows. -/
def withoutLeadingZeros (text : Text) : Text :=
  match text with
  | '0' :: rest =>
    let isPadding (c : Char) : Bool := c == '0' || c == '_'
    let last := ((rest.takeWhile isPadding).getLast?).getD '0'
    match rest.dropWhile isPadding with
    | [] => [last]
    | c :: digits =>
      if c == '.' then last :: c :: digits
      else if c.isDigit then c :: digits
      else text
  | _ => text

/-- The number that digits spell; no number but zero starts with a zero. -/
def natOfDigits? (digits : Text) : Option Nat :=
  match digits with
  | [] => none
  | '0' :: _ :: _ => none
  | digits => Numeral.ofDigits? asciiDigitValue? digits

/-- The whole number that a text spells; blanks around it, zeros behind a decimal point, single
underscores and, unless it is negative, zeros that lead it do not matter. -/
def intOfText? (text : Text) : Option Int :=
  match Numeral.trim text with
  | '-' :: digits =>
    (natOfDigits? ((withoutUnderscores ('-' :: withoutFraction digits)).drop 1)).map
      fun n => -(n : Int)
  | '+' :: digits => (unsigned? digits).map fun n => (n : Int)
  | digits => (unsigned? digits).map fun n => (n : Int)
where
  /-- The number that a text without a sign spells. -/
  unsigned? (text : Text) : Option Nat :=
    natOfDigits? (withoutUnderscores (withoutFraction (withoutLeadingZeros text)))

/-- Reads a whole number, also from a truth value, a number without a fraction, or a text. -/
def int : Reader Int
  | .int n => .valid n
  | .bool b => .valid (if b then 1 else 0)
  | .float x => intOfFloat x
  | .text t =>
    match intOfText? t with
    | some n => .valid n
    | none => .fault .unreadableInt
  | _ => .fault .noInt

/-- Reads every item of a list from the given index on. -/
def items {α : Type} (reader : Reader α) (index : Nat) : List Value → Checked (List α)
  | [] => .valid []
  | value :: values =>
    List.cons <$> (reader value).under (Text.ofInt index) <*> items reader (index + 1) values

/-- Reads a list. -/
def list {α : Type} (reader : Reader α) : Reader (List α)
  | .list values => items reader 0 values
  | _ => .fault .noList

/-- Reads a list of any length that stands for a tuple. -/
def tuple {α : Type} (reader : Reader α) : Reader (List α)
  | .list values => items reader 0 values
  | _ => .fault .noTuple

/-- Reads a pair. -/
def pair {α : Type} (reader : Reader α) : Reader (α × α)
  | .list values =>
    let item (i : Nat) : Checked α :=
      (match values[i]? with
        | some value => reader value
        | none => .fault .missing).under (Text.ofInt i)
    if 2 < values.length then .fault .tooLong else Prod.mk <$> item 0 <*> item 1
  | _ => .fault .noTuple

/-- Reads a field that must be present. -/
def required {α : Type} (name : Text) (reader : Reader α) (value : Value) : Checked α :=
  (match value.field? name with
    | some value => reader value
    | none => .fault .missing).under name

/-- Reads a field that has a default. -/
def withDefault {α : Type} (name : Text) (reader : Reader α) (default : α) (value : Value) :
    Checked α :=
  match value.field? name with
  | some value => (reader value).under name
  | none => .valid default

/-- Reads a record. -/
def record {α : Type} (reader : Reader α) : Reader α
  | .record fields => reader (.record fields)
  | _ => .fault .noRecord

/-- The problems of the fields of a record that are not among `names`. -/
def extraFields (names : List Text) : Value → Checked Unit
  | .record fields =>
    match (fields.map Prod.fst).filter fun name => !names.contains name with
    | [] => .valid ()
    | extra => .invalid (extra.map fun name => ⟨[name], .extraField⟩)
  | _ => .valid ()

end Reader

end BlitzLens
