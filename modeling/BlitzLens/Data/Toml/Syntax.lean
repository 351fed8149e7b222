import BlitzLens.Data.Value
import BlitzLens.Text.Digit
import BlitzLens.Text.Encoding

/-!
# The syntax of settings files

Settings are written in TOML. This module reads the pieces of a document: comments, keys, texts,
numbers and moments. Reading fails on the first character that does not fit, and on a whole number
with more digits than such a number may have. What the pieces mean together is decided by
`Toml.Document`.
-/

namespace BlitzLens.Toml

/-- A key: the names on the way to a value. -/
abbrev Key := List Text

/-- Why a document cannot be read. -/
inductive Fault where
  /-- It is not well formed. -/
  | malformed
  /-- A whole number in decimal notation has too many digits. -/
  | longNumber
  deriving DecidableEq, Repr

/-- What has to be there, for otherwise the document is not well formed. -/
def required {α : Type} : Option α → Except Fault α
  | some found => .ok found
  | none => .error .malformed

/-- Reads something from the start of a text, and yields it with the rest. -/
abbrev Parser (α : Type) := Text → Option (α × Text)

/-- Reads something from the start of a text, and yields it with the rest or tells why it cannot. -/
abbrev Decoder (α : Type) := Text → Except Fault (α × Text)

/-- Whether `c` is a space or a tab. -/
def isGap (c : Char) : Bool :=
  c == ' ' || c == '\t'

/-- Whether `c` is a control character that may not be written. -/
def isControl (c : Char) : Bool :=
  (c.toNat < 32 || c.toNat == 127) && c != '\t'

/-- Whether `c` may stand in a key without quotes. -/
def isBareKeyChar (c : Char) : Bool :=
  c.isAlphanum || c == '-' || c == '_'

/-- The text without leading gaps. -/
def skipGaps (text : Text) : Text :=
  text.dropWhile isGap

/-- What follows a comment, up to the end of its line. -/
def skipComment? (text : Text) : Option Text :=
  match text with
  | '#' :: rest =>
    if (rest.takeWhile (· != '\n')).any isControl then none
    else some (rest.dropWhile (· != '\n'))
  | _ => some text

/-- What follows gaps, line feeds and comments; `fuel` bounds the number of comments. -/
def skipLines? : Nat → Text → Option Text
  | 0, text => some text
  | fuel + 1, text =>
    match text.dropWhile fun c => isGap c || c == '\n' with
    | '#' :: rest => (skipComment? ('#' :: rest)).bind (skipLines? fuel)
    | rest => some rest

/-- The value of a hexadecimal digit. -/
def hexValue? (c : Char) : Option Nat :=
  if c.isDigit then some (c.toNat - '0'.toNat)
  else if 'a' ≤ c && c ≤ 'f' then some (c.toNat - 'a'.toNat + 10)
  else if 'A' ≤ c && c ≤ 'F' then some (c.toNat - 'A'.toNat + 10)
  else none

/-- Reads the character with a code of `count` hexadecimal digits. -/
def hexChar (count : Nat) : Parser Char := fun text => do
  let digits := text.take count
  if digits.length < count then none
  else
    let code ← digits.foldl (fun n c => return (← n) * 16 + (← hexValue? c)) (some 0)
    return (← Encoding.scalar? 0 code, text.drop count)

/-- The character that a backslash and a letter stand for. -/
def escape? (c : Char) : Option Char :=
  if c == 'b' then some '\x08'
  else if c == 't' then some '\t'
  else if c == 'n' then some '\n'
  else if c == 'f' then some '\x0c'
  else if c == 'r' then some '\r'
  else if c == '"' then some '"'
  else if c == '\\' then some '\\'
  else none

/-- Reads the rest of an escape in a text; a backslash at the end of a line of a text over several
lines stands for nothing, and neither do the blanks and line feeds that follow it. -/
def escape (several : Bool) : Parser Text
  | [] => none
  | c :: rest =>
    if several && (isGap c || c == '\n') then
      match (c :: rest).dropWhile isGap with
      | [] => some ([], [])
      | '\n' :: rest => some ([], rest.dropWhile fun c => isGap c || c == '\n')
      | _ => none
    else if c == 'u' then (hexChar 4 rest).map fun (c, rest) => ([c], rest)
    else if c == 'U' then (hexChar 8 rest).map fun (c, rest) => ([c], rest)
    else (escape? c).map fun c => ([c], rest)

/-- Reads the rest of a text in double quotes; `fuel` bounds the number of its characters. -/
def basicText (several : Bool) : Nat → Parser Text
  | 0, _ => none
  | _ + 1, [] => none
  | fuel + 1, c :: rest =>
    if c == '"' then
      if !several then some ([], rest)
      else
        match rest with
        | '"' :: '"' :: rest => some ([], rest)
        | _ => (basicText several fuel rest).map fun (t, rest) => (c :: t, rest)
    else if c == '\\' then do
      let (escaped, rest) ← escape several rest
      let (t, rest) ← basicText several fuel rest
      return (escaped ++ t, rest)
    else if isControl c && !(several && c == '\n') then none
    else (basicText several fuel rest).map fun (t, rest) => (c :: t, rest)

/-- Reads the rest of a text in single quotes. -/
def literalText : Parser Text := fun text =>
  let body := text.takeWhile (· != '\x27')
  if body.any isControl then none
  else
    match text.drop body.length with
    | [] => none
    | _ :: rest => some (body, rest)

/-- Reads the rest of a text in three single quotes. -/
def literalLines : Parser Text
  | [] => none
  | c :: rest =>
    match c, rest with
    | '\x27', '\x27' :: '\x27' :: rest => some ([], rest)
    | _, _ =>
      if isControl c && c != '\n' then none
      else (literalLines rest).map fun (t, rest) => (c :: t, rest)

/-- Up to two more quotes behind the three that close a text belong to it. -/
def extraQuotes (quote : Char) (t rest : Text) : Text × Text :=
  let more := (rest.take 2).takeWhile (· == quote)
  (t ++ more, rest.drop more.length)

/-- The text without a leading line feed. -/
def dropLineFeed : Text → Text
  | '\n' :: rest => rest
  | text => text

/-- Reads a text in quotes of any kind. -/
def quotedText : Parser Text := fun text =>
  match text with
  | '"' :: '"' :: '"' :: rest =>
    (basicText true (text.length + 1) (dropLineFeed rest)).map fun (t, rest) =>
      extraQuotes '"' t rest
  | '"' :: rest => basicText false (text.length + 1) rest
  | '\x27' :: '\x27' :: '\x27' :: rest =>
    (literalLines (dropLineFeed rest)).map fun (t, rest) => extraQuotes '\x27' t rest
  | '\x27' :: rest => literalText rest
  | _ => none

/-- Reads one name of a key. -/
def keyName : Parser Text
  | [] => none
  | c :: rest =>
    if isBareKeyChar c then
      some (c :: rest.takeWhile isBareKeyChar, rest.dropWhile isBareKeyChar)
    else if c == '"' then basicText false (rest.length + 1) rest
    else if c == '\x27' then literalText rest
    else none

/-- Reads a key; `fuel` bounds the number of its names. -/
def key : Nat → Parser Key
  | 0, _ => none
  | fuel + 1, text => do
    let (name, rest) ← keyName text
    match skipGaps rest with
    | '.' :: rest =>
      let (names, rest) ← key fuel (skipGaps rest)
      return (name :: names, rest)
    | rest => return ([name], rest)

/-- The digits at the start of a text, which single underscores may separate, and the rest. -/
def digitRun (isDigit : Char → Bool) : Text → Text × Text
  | [] => ([], [])
  | c :: rest =>
    if isDigit c then
      let (digits, rest) := digitRun isDigit rest
      (c :: digits, rest)
    else
      match c, rest with
      | '_', d :: rest' =>
        if isDigit d then
          let (digits, rest) := digitRun isDigit rest'
          (d :: digits, rest)
        else ([], c :: rest)
      | _, _ => ([], c :: rest)

/-- The digits at the start of a text, of which the first is no underscore. -/
def digits (isDigit : Char → Bool) (text : Text) : Text × Text :=
  match text with
  | [] => ([], [])
  | c :: _ => if isDigit c then digitRun isDigit text else ([], text)

/-- The number that digits to a base spell. -/
def numberOf (base : Nat) (digits : Text) : Nat :=
  digits.foldl (fun n c => n * base + (hexValue? c).getD 0) 0

/-- Reads the digits of a whole number to a base. -/
def basedDigits (base : Nat) (isDigit : Char → Bool) : Parser Value := fun text =>
  match digits isDigit text with
  | ([], _) => none
  | (found, rest) => some (.int (numberOf base found), rest)

/-- Reads a whole number to another base. -/
def basedNumber : Parser Value := fun text =>
  match text with
  | '0' :: 'x' :: rest => basedDigits 16 (fun c => (hexValue? c).isSome) rest
  | '0' :: 'o' :: rest => basedDigits 8 (fun c => '0' ≤ c && c ≤ '7') rest
  | '0' :: 'b' :: rest => basedDigits 2 (fun c => c == '0' || c == '1') rest
  | _ => none

/-- The sign at the start of a text: whether it is a minus, and the rest. -/
def sign (text : Text) : Bool × Text :=
  match text with
  | '-' :: rest => (true, rest)
  | '+' :: rest => (false, rest)
  | _ => (false, text)

/-- The digits behind the mark of a fraction or an exponent. -/
def markedDigits (isMark : Char → Bool) (signed : Bool) (text : Text) :
    Option (Bool × Text × Text) :=
  match text with
  | [] => none
  | c :: rest =>
    if !isMark c then none
    else
      let (negative, rest) := if signed then sign rest else (false, rest)
      match digits Char.isDigit rest with
      | ([], _) => none
      | (found, rest) => some (negative, found, rest)

/-- The digits in front of a decimal point; a leading zero is the only one. -/
def wholeDigits (text : Text) : Text × Text :=
  match text with
  | '0' :: rest => (['0'], rest)
  | _ => digits Char.isDigit text

/-- Reads a decimal number, with or without a fraction and an exponent. -/
def decimalNumber : Decoder Value := fun text =>
  let (negative, rest) := sign text
  let (whole, rest) := wholeDigits rest
  if whole.isEmpty then .error .malformed
  else
    let fraction := markedDigits (· == '.') false rest
    let rest := (fraction.map fun (_, _, rest) => rest).getD rest
    let exponent := markedDigits (fun c => c == 'e' || c == 'E') true rest
    let rest := (exponent.map fun (_, _, rest) => rest).getD rest
    if fraction.isNone && exponent.isNone then
      if mostDigits < whole.length then .error .longNumber
      else
        let n : Int := numberOf 10 whole
        .ok (.int (if negative then -n else n), rest)
    else
      let behind := (fraction.map fun (_, found, _) => found).getD []
      let power : Int := match exponent with
        | some (true, found, _) => -(numberOf 10 found : Int)
        | some (false, found, _) => numberOf 10 found
        | none => 0
      .ok (.float (.ofDecimal negative (numberOf 10 (whole ++ behind))
        (power - behind.length)), rest)

/-- Reads an infinite or undefined number. -/
def specialNumber : Parser Value := fun text =>
  let (negative, rest) := sign text
  match rest with
  | 'i' :: 'n' :: 'f' :: rest => some (.float (.infinite negative), rest)
  | 'n' :: 'a' :: 'n' :: rest => some (.float .undefined, rest)
  | _ => none

/-- Reads a number of exactly `count` ASCII digits. -/
def fixedNumber (count : Nat) : Parser Nat := fun text =>
  let found := text.take count
  if found.length == count && found.all Char.isDigit then
    some (numberOf 10 found, text.drop count)
  else none

/-- Reads the character `c`. -/
def mark (c : Char) : Parser Unit
  | [] => none
  | d :: rest => if d == c then some ((), rest) else none

/-- Reads a time of day. -/
def timeOfDay : Parser Unit := fun text => do
  let (hour, rest) ← fixedNumber 2 text
  let (_, rest) ← mark ':' rest
  let (minute, rest) ← fixedNumber 2 rest
  let (_, rest) ← mark ':' rest
  let (second, rest) ← fixedNumber 2 rest
  if 24 ≤ hour || 60 ≤ minute || 60 ≤ second then none
  else
    match rest with
    | '.' :: c :: rest' =>
      if c.isDigit then return ((), rest'.dropWhile Char.isDigit) else return ((), rest)
    | _ => return ((), rest)

/-- What follows the offset of a time zone at the start of a text, which may be missing. -/
def skipZone (text : Text) : Text :=
  match text with
  | 'Z' :: rest => rest
  | 'z' :: rest => rest
  | '+' :: rest => (zone rest).getD text
  | '-' :: rest => (zone rest).getD text
  | _ => text
where
  /-- What follows hours and minutes. -/
  zone (text : Text) : Option Text := do
    let (hour, rest) ← fixedNumber 2 text
    let (_, rest) ← mark ':' rest
    let (minute, rest) ← fixedNumber 2 rest
    if 24 ≤ hour || 60 ≤ minute then none else some rest

/-- The number of days of a month. -/
def daysOf (year month : Nat) : Nat :=
  if month == 2 then
    if year % 4 == 0 && (year % 100 != 0 || year % 400 == 0) then 29 else 28
  else if month == 4 || month == 6 || month == 9 || month == 11 then 30
  else 31

/-- What follows the form of a date at the start of a text, and whether there is such a day; a month
lies between 1 and 12 and a day between 1 and 31. -/
def date : Parser Bool := fun text => do
  let (year, rest) ← fixedNumber 4 text
  let (_, rest) ← mark '-' rest
  let (month, rest) ← fixedNumber 2 rest
  let (_, rest) ← mark '-' rest
  let (day, rest) ← fixedNumber 2 rest
  if month == 0 || 12 < month || day == 0 || 31 < day then none
  else return (year != 0 && day ≤ daysOf year month, rest)

/-- What follows the time that may stand behind a date. -/
def skipTime (text : Text) : Text :=
  match text with
  | [] => text
  | c :: rest =>
    if c == 'T' || c == 't' || c == ' ' then
      match timeOfDay rest with
      | some (_, rest) => skipZone rest
      | none => text
    else text

/-- Reads a date, a time, or a number. -/
def scalar : Decoder Value := fun text =>
  match date text with
  | some (true, rest) =>
    let rest := skipTime rest
    .ok (.moment (text.take (text.length - rest.length)), rest)
  -- a date of no calendar is an error and not a number
  | some (false, _) => .error .malformed
  | none =>
    match timeOfDay text with
    | some (_, rest) => .ok (.moment (text.take (text.length - rest.length)), rest)
    | none =>
      match basedNumber text <|> specialNumber text with
      | some found => .ok found
      | none => decimalNumber text

/-- Reads a truth value. -/
def truth : Parser Value := fun text =>
  ((Text.dropLead? "true" text).map fun rest => (.bool true, rest)) <|>
    ((Text.dropLead? "false" text).map fun rest => (.bool false, rest))

/-- Whether `c` may open a key. -/
def opensKey (c : Char) : Bool :=
  isBareKeyChar c || c == '"' || c == '\x27'

/-- A text in which no line feed follows a carriage return, for the two are read as one. -/
def withoutReturns : Text → Text
  | [] => []
  | '\r' :: '\n' :: rest => '\n' :: withoutReturns rest
  | c :: rest => c :: withoutReturns rest

end BlitzLens.Toml
