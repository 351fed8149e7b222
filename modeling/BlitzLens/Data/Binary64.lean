import BlitzLens.Text.Basic

/-!
# Binary floating-point numbers

Numbers of 64 bits with 53 significant bits, as exact values: a finite number is a whole mantissa
times a power of two. Decimal numbers are rounded to the nearest such number, ties to an even
mantissa. The other way, a number is written with the fewest digits that are rounded back to it.
-/

namespace BlitzLens

/-- A floating-point number of 64 bits. -/
inductive Binary64 where
  /-- The number `mantissa * 2 ^ exponent`, or its negative. -/
  | finite (negative : Bool) (mantissa : Nat) (exponent : Int)
  /-- A number beyond the greatest finite one. -/
  | infinite (negative : Bool)
  /-- No number. -/
  | undefined
  deriving DecidableEq, Repr

namespace Binary64

/-- The least exponent of a finite number. -/
def leastExponent : Int := -1074

/-- The greatest exponent of a finite number. -/
def greatestExponent : Int := 971

/-- A power of two. -/
def twoTo (exponent : Nat) : Nat :=
  Nat.pow 2 exponent

/-- A power of ten. -/
def tenTo (exponent : Nat) : Nat :=
  Nat.pow 10 exponent

/-- The quotient of two natural numbers, rounded to the nearest, ties to even. -/
def roundedQuotient (num den : Nat) : Nat :=
  let quotient := num / den
  let rest := num % den
  if 2 * rest < den then quotient
  else if 2 * rest == den && quotient % 2 == 0 then quotient
  else quotient + 1

/-- The fraction `num / den` in units of `2 ^ exponent`, as a fraction. -/
def inUnits (num den : Nat) (exponent : Int) : Nat × Nat :=
  if exponent < 0 then (num * twoTo (-exponent).toNat, den) else (num, den * twoTo exponent.toNat)

/-- The number nearest to a fraction. -/
def ofFraction (negative : Bool) (num den : Nat) : Binary64 :=
  if num == 0 then .finite negative 0 leastExponent
  else
    let guess := max leastExponent ((num.log2 : Int) - den.log2 - 53)
    let (n, d) := inUnits num den guess
    let exponent := if n / d < twoTo 53 then guess else guess + 1
    let (n, d) := inUnits num den exponent
    let mantissa := roundedQuotient n d
    let (mantissa, exponent) :=
      if mantissa == twoTo 53 then (twoTo 52, exponent + 1) else (mantissa, exponent)
    if greatestExponent < exponent then .infinite negative
    else .finite negative mantissa exponent

/-- The number nearest to `digits * 10 ^ exponent`. -/
def ofDecimal (negative : Bool) (digits : Nat) (exponent : Int) : Binary64 :=
  if digits == 0 then .finite negative 0 leastExponent
  else if 400 < exponent then .infinite negative
  else if exponent < -400 - digits.log2 then .finite negative 0 leastExponent
  else if exponent < 0 then ofFraction negative digits (tenTo (-exponent).toNat)
  else ofFraction negative (digits * tenTo exponent.toNat) 1

/-- The whole number that a number is. -/
def toInt? : Binary64 → Option Int
  | .finite negative mantissa exponent =>
    let magnitude :=
      if 0 ≤ exponent then some (mantissa * twoTo exponent.toNat)
      else if mantissa % twoTo (-exponent).toNat == 0 then some (mantissa / twoTo (-exponent).toNat)
      else none
    magnitude.map fun n => if negative then -(n : Int) else n
  | _ => none

/-- The whole part of a number, without its fraction. -/
def truncate : Binary64 → Int
  | .finite negative mantissa exponent =>
    let n :=
      if 0 ≤ exponent then mantissa * twoTo exponent.toNat else mantissa / twoTo (-exponent).toNat
    if negative then -(n : Int) else n
  | _ => 0

/-- The places of the decimal point of a fraction below one: the least `n` with
`1 ≤ num * 10 ^ n / den`, if it is at most `most`. -/
def leadingZeros (num den : Nat) : Nat → Nat
  | 0 => 0
  | most + 1 => if den ≤ num then 0 else leadingZeros (num * 10) den most + 1

/-- The exponent of the first digit of a positive fraction. -/
def decimalExponent (num den : Nat) : Int :=
  if den ≤ num then ((Nat.toDigits 10 (num / den)).length : Int) - 1
  else -(leadingZeros num den 400 : Int)

/-- Whether `a` is below `b`, or equal to it if `closed`. -/
def isBelow (closed : Bool) (a b : Nat) : Bool :=
  a < b || (closed && a == b)

/-- The decimal `digits * 10 ^ exponent` with `count` digits that is rounded to the number
`mantissa * 2 ^ binaryExponent`; of two such decimals the nearer one, or the even one if both are as
near. -/
def decimalOfLength? (mantissa : Nat) (binaryExponent : Int) (count : Nat) : Option (Nat × Int) :=
  -- in quarters of a unit the ends of the interval that is rounded to the number are whole
  let scale := twoTo (binaryExponent - 2).toNat
  let den := twoTo (2 - binaryExponent).toNat
  let value := 4 * mantissa * scale
  let upper := (4 * mantissa + 2) * scale
  -- below a power of two the neighbour is half as far away
  let narrow := mantissa == twoTo 52 && leastExponent < binaryExponent
  let lower := (4 * mantissa - if narrow then 1 else 2) * scale
  -- an end is rounded to the even neighbour
  let closed := mantissa % 2 == 0
  let exponent := decimalExponent value den - count + 1
  let up := tenTo exponent.toNat * den
  let down := tenTo (-exponent).toNat
  let digits := value * down / up
  let fits (d : Nat) : Bool :=
    isBelow closed (lower * down) (d * up) && isBelow closed (d * up) (upper * down)
  let above := (digits + 1) * up - value * down
  let below := value * down - digits * up
  let nearer := below < above || (below == above && digits % 2 == 0)
  if fits digits && (!fits (digits + 1) || nearer) then some (digits, exponent)
  else if fits (digits + 1) then some (digits + 1, exponent)
  else none

/-- A decimal without the zeros at the end of its digits. -/
def withoutZeros : Nat → Nat × Int → Nat × Int
  | 0, decimal => decimal
  | fuel + 1, (digits, exponent) =>
    if digits != 0 && digits % 10 == 0 then withoutZeros fuel (digits / 10, exponent + 1)
    else (digits, exponent)

/-- The decimal with the fewest digits that is rounded to a positive number; seventeen digits always
suffice. -/
def shortest (mantissa : Nat) (exponent : Int) : Nat × Int :=
  let found := (List.range 17).findSome? fun i => decimalOfLength? mantissa exponent (i + 1)
  withoutZeros 20 (found.getD (0, 0))

end Binary64

end BlitzLens
