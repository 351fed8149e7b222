import BlitzLens.Proofs.Query.Highlight
import BlitzLens.Proofs.Text.AsciiLower

/-!
# Lines up to the case of their ASCII letters

Comments, strings, brackets and words are found at the same columns of two lines that differ in the
case of ASCII letters only, and every guard accepts the same stretches of both
(`Guard.accepts_asciiLower`). So the words of such lines are referred to alike
(`Line.sameReference_of_asciiLower_eq`).
-/

namespace BlitzLens

open Text

namespace Text

/-- A mark that is no letter ends both texts, or none. -/
theorem getLast?_asciiLower_beq {d : Char} (hd : isNoAsciiLetter d = true) (text : Text) :
    ((asciiLower text).getLast? == some d) = (text.getLast? == some d) := by
  rw [asciiLower, List.getLast?_map]
  cases text.getLast? with
  | none => rfl
  | some c => exact toLower_beq hd c

/-- A mark that is no letter opens both texts, or none. -/
theorem head?_asciiLower_beq {d : Char} (hd : isNoAsciiLetter d = true) (text : Text) :
    ((asciiLower text).head? == some d) = (text.head? == some d) := by
  cases text with
  | nil => rfl
  | cons c text => exact toLower_beq hd c

/-- Both texts are a mark that is no letter, or none is. -/
theorem asciiLower_beq_singleton {d : Char} (hd : isNoAsciiLetter d = true) (text : Text) :
    (asciiLower text == [d]) = (text == [d]) := by
  cases text with
  | nil => rfl
  | cons c text =>
    change (c.toLower == d && asciiLower text == []) = (c == d && text == [])
    rw [toLower_beq hd]
    cases text <;> rfl

/-- A mark that is no letter stands as often in both texts. -/
theorem count_asciiLower {d : Char} (hd : isNoAsciiLetter d = true) (text : Text) :
    (asciiLower text).count d = text.count d := by
  rw [List.count_eq_countP, List.count_eq_countP, asciiLower, List.countP_map]
  exact congrArg (List.countP · text) (funext fun c => toLower_beq hd c)

end Text

namespace Nesting

/-- A place is the same behind both cases of a character. -/
theorem after_toLower (place : Nesting) (c : Char) : place.after c.toLower = place.after c := by
  have hmark {d : Char} (hd : isNoAsciiLetter d = true) := toLower_beq hd c
  simp only [after, hmark (show isNoAsciiLetter '"' = true by decide),
    hmark (show isNoAsciiLetter '(' = true by decide),
    hmark (show isNoAsciiLetter '[' = true by decide),
    hmark (show isNoAsciiLetter ')' = true by decide),
    hmark (show isNoAsciiLetter ']' = true by decide)]

/-- A separator that is no letter divides at both cases of a character, or at none. -/
theorem divides_toLower {separator : Char} (hseparator : isNoAsciiLetter separator = true)
    (place : Nesting) (c : Char) :
    place.divides separator c.toLower = place.divides separator c := by
  have hdelimits : delimits c.toLower = delimits c := apply_toLower (by decide) c
  rw [divides, divides, hdelimits, toLower_beq hseparator]

end Nesting

namespace Line

variable (line : Text)

/-! ## Comments and strings -/

/-- The comment starts at the same column. -/
theorem semicolonFrom?_asciiLower (quoted : Bool) :
    semicolonFrom? quoted (asciiLower line) = semicolonFrom? quoted line := by
  induction line generalizing quoted with
  | nil => rfl
  | cons c line ih =>
    rw [asciiLower_cons, semicolonFrom?, semicolonFrom?, toLower_beq (by decide),
      toLower_beq (by decide), ih, ih]

@[simp]
theorem codeEnd_asciiLower : codeEnd (asciiLower line) = codeEnd line := by
  rw [codeEnd, codeEnd, commentStart?, semicolonFrom?_asciiLower, length_asciiLower, commentStart?]

@[simp]
theorem code_asciiLower : code (asciiLower line) = asciiLower (code line) := by
  rw [code, code, codeEnd_asciiLower, take_asciiLower]

@[simp]
theorem inComment_asciiLower (column : Int) :
    inComment (asciiLower line) column = inComment line column := by
  rw [inComment, inComment, commentStart?, semicolonFrom?_asciiLower, commentStart?]

@[simp]
theorem inString_asciiLower (column : Int) :
    inString (asciiLower line) column = inString line column := by
  rw [inString, inString, upTo_asciiLower, count_asciiLower (by decide)]

/-! ## Nesting -/

/-- A separator that is no letter divides both texts at the same columns. -/
theorem splitFrom_asciiLower {separator : Char} (hseparator : isNoAsciiLetter separator = true)
    (place : Nesting) (text : Text) :
    splitFrom separator place (asciiLower text) =
      (splitFrom separator place text).map asciiLower := by
  induction text generalizing place with
  | nil => rfl
  | cons c text ih =>
    rw [asciiLower_cons, splitFrom, splitFrom, Nesting.divides_toLower hseparator,
      Nesting.after_toLower, ih, ih]
    split_ifs
    · rfl
    · cases splitFrom separator (place.after c) text <;> rfl

/-- The same parenthesis closes. -/
theorem closingFrom?_asciiLower (depth : Int) (quoted : Bool) (column : Int) (text : Text) :
    closingFrom? depth quoted column (asciiLower text) = closingFrom? depth quoted column text := by
  induction text generalizing depth quoted column with
  | nil => rfl
  | cons c text ih =>
    rw [asciiLower_cons, closingFrom?, closingFrom?, toLower_beq (by decide),
      toLower_beq (by decide), toLower_beq (by decide)]
    simp only [ih]

@[simp]
theorem closingParen?_asciiLower (text : Text) (column : Nat) :
    closingParen? (asciiLower text) column = closingParen? text column := by
  rw [closingParen?, closingParen?, drop_asciiLower, closingFrom?_asciiLower]

/-! ## Words -/

/-- Words stand at the same columns. -/
theorem wordRuns_asciiLower (column : Nat) (text : Text) :
    wordRuns column (asciiLower text) = (wordRuns column text).map (Prod.map id asciiLower) := by
  induction text generalizing column with
  | nil => rfl
  | cons c text ih =>
    rw [asciiLower_cons, wordRuns, wordRuns, ih, isWordChar_toLower]
    split_ifs
    · cases wordRuns (column + 1) text with
      | nil => rfl
      | cons found later =>
        rw [List.map_cons]
        dsimp only [Prod.map, id_eq]
        split_ifs <;> rfl
    · rfl

/-- A word character stands at a column of both lines, or of none. -/
theorem wordCharAt_asciiLower (column : Int) :
    wordCharAt (asciiLower line) column = wordCharAt line column := by
  have hchar : (asciiLower line).charAt? column = (line.charAt? column).map Char.toLower := by
    cases column with
    | ofNat n => exact List.getElem?_map ..
    | negSucc k =>
      rw [charAt?, charAt?, length_asciiLower, asciiLower, List.getElem?_map]
      split_ifs <;> rfl
  rw [wordCharAt, wordCharAt, charAt, charAt, hchar]
  cases line.charAt? column with
  | none => rfl
  | some c => exact congrArg Except.ok (isWordChar_toLower c)

@[simp]
theorem isWordBoundary_asciiLower (start stop : Int) :
    isWordBoundary (asciiLower line) start stop = isWordBoundary line start stop := by
  simp only [isWordBoundary, wordCharAt_asciiLower, length_asciiLower]

end Line

/-! ## Guards -/

namespace Guard

variable (before : Text)

/-- Both texts end with a keyword, or none does. -/
theorem endsWithKeyword_asciiLower (keywords : List Text) :
    endsWithKeyword keywords (asciiLower before) = endsWithKeyword keywords before := by
  simp only [endsWithKeyword, trimEnd_asciiLower, length_asciiLower,
    takeEndWhile_asciiLower isWordChar_toLower, spells_asciiLower]

/-- Both texts end with a mark that is no letter, or none does. -/
theorem endsWithMark_asciiLower {mark : Char} (hmark : isNoAsciiLetter mark = true) :
    endsWithMark mark (asciiLower before) = endsWithMark mark before := by
  rw [endsWithMark, endsWithMark, trimEnd_asciiLower, getLast?_asciiLower_beq hmark]

/-- Both texts declare fields, or none does. -/
theorem declaresField_asciiLower : declaresField (asciiLower before) = declaresField before := by
  rw [declaresField, declaresField, takeEndWhile_asciiLower (toLower_bne (by decide)),
    Line.wordRuns_asciiLower, List.any_map]
  exact congrArg (List.any _) (funext fun found => spells_asciiLower found.2 _)

/-- A label may follow both texts, or none. -/
theorem introducesLabel_asciiLower :
    introducesLabel (asciiLower before) = introducesLabel before := by
  rw [introducesLabel, introducesLabel, trimStart_asciiLower, asciiLower_beq_singleton (by decide),
    getLast?_asciiLower_beq (by decide)]
  split_ifs
  · have hdropLast : (asciiLower before).dropLast = asciiLower before.dropLast :=
      List.map_dropLast.symm
    rw [hdropLast, endsWithKeyword_asciiLower]
  · rw [endsWithKeyword_asciiLower]

/-- A guard admits both texts in front of an occurrence, or none. -/
theorem admitsBefore_asciiLower (guard : Guard) :
    guard.admitsBefore (asciiLower before) = guard.admitsBefore before := by
  have hdot : endsWithMark '.' (asciiLower before) = endsWithMark '.' before :=
    endsWithMark_asciiLower before (by decide)
  have hfield : endsWithMark '\\' (asciiLower before) = endsWithMark '\\' before :=
    endsWithMark_asciiLower before (by decide)
  cases guard with
  | recordType =>
    rw [admitsBefore, admitsBefore, introducesType, introducesType, hdot,
      endsWithKeyword_asciiLower]
  | name =>
    rw [admitsBefore, admitsBefore, admitsVariable, admitsVariable, hdot, hfield,
      contains_asciiLower before (by decide), endsWithKeyword_asciiLower]
  | field =>
    rw [admitsBefore, admitsBefore, introducesField, introducesField, hfield,
      declaresField_asciiLower]
  | label => exact introducesLabel_asciiLower before
  | anywhere => rfl
  | call => rfl

/-- A guard admits both texts behind an occurrence, or none. -/
theorem admitsAfter_asciiLower (guard : Guard) (after : Text) :
    guard.admitsAfter (asciiLower after) = guard.admitsAfter after := by
  cases guard with
  | call =>
    rw [admitsAfter, admitsAfter, trimStart_asciiLower, head?_asciiLower_beq (by decide)]
  | _ => rfl

/-- A guard accepts the same stretches of two lines that differ in the case of ASCII letters. -/
theorem accepts_asciiLower (guard : Guard) (line : Text) (start stop : Int) :
    guard.accepts (asciiLower line) start stop = guard.accepts line start stop := by
  simp only [accepts, admits, Line.isWordBoundary_asciiLower, Line.inString_asciiLower,
    Line.inComment_asciiLower, upTo_asciiLower, startingAt_asciiLower, admitsBefore_asciiLower,
    admitsAfter_asciiLower]

end Guard

/-- The word with the lower case of its ASCII letters. -/
def Word.asciiLower (word : Word) : Word :=
  { word with text := Text.asciiLower word.text }

namespace Line

/-- The identifiers of the code are the same, but for case. -/
theorem codeWords_asciiLower (line : Text) :
    codeWords (asciiLower line) = (codeWords line).map Word.asciiLower := by
  have hopens (run : Text) : opensIdentifier (asciiLower run) = opensIdentifier run := by
    cases run with
    | nil => rfl
    | cons c run => exact isIdentifierStart_toLower c
  rw [codeWords, codeWords, code_asciiLower, wordRuns_asciiLower, List.filter_map, List.map_map,
    List.map_map]
  simp only [Function.comp_def, Prod.map, id_eq, hopens, inString_asciiLower]
  refine List.map_congr_left fun found _ => ?_
  simp only [Word.asciiLower, length_asciiLower]

/-- The words of two lines that differ in the case of ASCII letters are referred to alike. -/
theorem sameReference_of_asciiLower_eq {line line' : Text}
    (h : asciiLower line = asciiLower line') :
    List.Forall₂ (SameReference line line') (codeWords line) (codeWords line') := by
  have hwords := codeWords_asciiLower line
  rw [h, codeWords_asciiLower, ← List.forall₂_eq_eq_eq, List.forall₂_map_left_iff,
    List.forall₂_map_right_iff] at hwords
  refine hwords.flip.imp fun word word' hword => ?_
  have hstart := congrArg Word.start hword
  have hstop := congrArg Word.stop hword
  have htext := congrArg Word.text hword
  refine ⟨hstart.symm, hstop.symm, (lower_eq_of_asciiLower_eq htext).symm, fun guard => ?_⟩
  rw [← Guard.accepts_asciiLower, h, Guard.accepts_asciiLower]
  exact congrArg₂ (guard.accepts line') hstart.symm hstop.symm

end Line

end BlitzLens
