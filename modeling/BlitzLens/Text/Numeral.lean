import BlitzLens.Text.Basic
import BlitzLens.Text.Digit

/-!
# Numerals

Whole numbers as people type them: blanks around the number, a sign, and digits that single
underscores may separate. Which characters are digits is a parameter.
-/

namespace BlitzLens.Numeral

/-- Whether `c` is a blank around a number. The information separators are none. -/
def isPadding (c : Char) : Bool :=
  isBlank c && !(28 ≤ c.toNat && c.toNat ≤ 31)

/-- The text without blanks at either end. -/
def trim (text : Text) : Text :=
  Text.dropEndWhile isPadding (text.dropWhile isPadding)

/-- The number that digits spell, most significant first. -/
def ofDigits? (digit : Char → Option Nat) (digits : Text) : Option Nat :=
  digits.foldl (fun n c => return (← n) * 10 + (← digit c)) (some 0)

/-- The number that groups of digits spell, with an underscore between each two groups. -/
def natural? (digit : Char → Option Nat) (text : Text) : Option Nat :=
  let groups := text.splitAtChar '_'
  if groups.any List.isEmpty then none else ofDigits? digit groups.flatten

/-- The number that a text spells in full, perhaps with a sign. -/
def signed? (digit : Char → Option Nat) (text : Text) : Option Int :=
  match text with
  | '-' :: digits => (natural? digit digits).map fun n => -(n : Int)
  | '+' :: digits => (natural? digit digits).map fun n => (n : Int)
  | digits => (natural? digit digits).map fun n => (n : Int)

end BlitzLens.Numeral
