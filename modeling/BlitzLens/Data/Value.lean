import BlitzLens.Data.Binary64

/-!
# Values

Structured data without a fixed form, as it is read from settings and written as output.
-/

namespace BlitzLens

/-- A piece of data. -/
inductive Value where
  /-- No value. -/
  | null
  /-- A truth value. -/
  | bool (b : Bool)
  /-- A whole number. -/
  | int (n : Int)
  /-- A floating-point number. -/
  | float (x : Binary64)
  /-- A text. -/
  | text (t : Text)
  /-- A date or a time, as it is written. -/
  | moment (t : Text)
  /-- A list of values. -/
  | list (items : List Value)
  /-- Values under names, in order. -/
  | record (fields : List (Text × Value))
  deriving Repr

namespace Value

/-- The value under a name. -/
def field? (name : Text) : Value → Option Value
  | .record fields => fields.lookup name
  | _ => none

/-- The text that a value is. -/
def text? : Value → Option Text
  | .text t => some t
  | _ => none

/-- A text, or no value. -/
def ofText? (t : Option Text) : Value :=
  match t with
  | some t => .text t
  | none => .null

/-- A whole number, or no value. -/
def ofInt? (n : Option Int) : Value :=
  match n with
  | some n => .int n
  | none => .null

/-- A list of texts. -/
def ofTexts (texts : List Text) : Value :=
  .list (texts.map .text)

mutual

/-- The value with the fields of every record in the order of their names. -/
def sorted : Value → Value
  | .list items => .list (sortedItems items)
  | .record fields =>
    .record ((sortedFields fields).mergeSort fun a b => !Text.before b.1 a.1)
  | value => value

/-- Values with the fields of every record in the order of their names. -/
def sortedItems : List Value → List Value
  | [] => []
  | item :: items => sorted item :: sortedItems items

/-- Fields whose values have the fields of every record in the order of their names. -/
def sortedFields : List (Text × Value) → List (Text × Value)
  | [] => []
  | (name, value) :: fields => (name, sorted value) :: sortedFields fields

end

end Value

end BlitzLens
