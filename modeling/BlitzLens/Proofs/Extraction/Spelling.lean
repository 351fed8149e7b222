import BlitzLens.Proofs.Extraction.Readers
import BlitzLens.Proofs.Line.Spelling

/-!
# Statements up to the case of letters

No keyword and no name tells the cases of an ASCII letter apart. A part is read alike in both cases,
with its texts spelled in another way (`Part.parse?_asciiLower`), and so is every statement: each
reader commutes with `Text.asciiLower`, and so does the reading of a line
(`Statement.read_asciiLower`).
-/

namespace BlitzLens

open Text

/-! ## Parts -/

/-- The type mark with the lower case of its ASCII letters. -/
def TypeMark.asciiLower (mark : TypeMark) : TypeMark :=
  { mark with typeDisplay := mark.typeDisplay.map Text.asciiLower }

/-- The part with the lower case of its ASCII letters. -/
def Part.asciiLower (part : Part) : Part :=
  { part with
    name := Text.asciiLower part.name
    text := Text.asciiLower part.text
    typeMark := part.typeMark.asciiLower
    default := part.default.map Text.asciiLower }

/-- A suffix means the same in every case, but for how a type is shown. -/
theorem TypeMark.ofSuffix_asciiLower (suffix : Text) :
    ofSuffix (Text.asciiLower suffix) = (ofSuffix suffix).asciiLower := by
  unfold ofSuffix
  rw [isEmpty_asciiLower, asciiLower_beq_singleton (by decide),
    asciiLower_beq_singleton (by decide), asciiLower_beq_singleton (by decide),
    dropWhile_asciiLower (toLower_beq (by decide)), trim_asciiLower]
  dsimp only
  rw [isEmpty_asciiLower, lower_asciiLower]
  split_ifs <;> rfl

namespace Part

/-- A type suffix is cut off alike. -/
theorem takeSuffix_asciiLower (text : Text) :
    takeSuffix (Text.asciiLower text) =
      Prod.map Text.asciiLower Text.asciiLower (takeSuffix text) := by
  cases text with
  | nil => rfl
  | cons c rest =>
    rw [asciiLower_cons, takeSuffix, takeSuffix, isTypeSign_toLower, toLower_beq (by decide),
      takeWhile_asciiLower isBlank_toLower, dropWhile_asciiLower isBlank_toLower]
    dsimp only
    rw [identifier?_asciiLower]
    split_ifs
    · rfl
    · cases identifier? (rest.dropWhile isBlank) with
      | none => rfl
      | some name => simp
    · rfl

/-- A group of dimensions is cut off alike. -/
theorem dropDimensions?_asciiLower (text : Text) :
    dropDimensions? (Text.asciiLower text) = (dropDimensions? text).map Text.asciiLower := by
  cases text with
  | nil => rfl
  | cons c rest =>
    rw [asciiLower_cons, dropDimensions?, dropDimensions?, toLower_beq (by decide),
      toLower_beq (by decide)]
    have hclosing {closing : Char} (hmark : isNoAsciiLetter closing = true) :
        (Text.asciiLower rest).dropWhile (· != closing) =
          Text.asciiLower (rest.dropWhile (· != closing)) :=
      dropWhile_asciiLower (toLower_bne hmark) rest
    split_ifs
    · dsimp only
      rw [hclosing (by decide)]
      cases rest.dropWhile (· != ']') <;> rfl
    · dsimp only
      rw [hclosing (by decide)]
      cases rest.dropWhile (· != ')') <;> rfl
    · rfl

/-- A default value is read alike. -/
theorem readDefault?_asciiLower (text : Text) :
    readDefault? (Text.asciiLower text) =
      (readDefault? text).map (Option.map Text.asciiLower) := by
  cases text with
  | nil => rfl
  | cons c rest =>
    rw [asciiLower_cons, readDefault?, readDefault?, bne, bne, toLower_beq (by decide),
      trimStart_asciiLower, contains_asciiLower _ (by decide), isEmpty_asciiLower]
    split_ifs <;> rfl

/-- A whole part is read alike. -/
theorem readWhole?_asciiLower (text : Text) :
    readWhole? (Text.asciiLower text) = (readWhole? text).map Part.asciiLower := by
  unfold readWhole?
  rw [identifier?_asciiLower]
  cases text.identifier? with
  | none => rfl
  | some name =>
    simp only [Option.map_some, Option.bind_eq_bind, Option.bind_some, length_asciiLower,
      drop_asciiLower, trimStart_asciiLower, takeSuffix_asciiLower]
    rcases takeSuffix (trimStart (text.drop name.length)) with ⟨suffix, rest⟩
    simp only [Prod.map, trimStart_asciiLower, dropDimensions?_asciiLower]
    have hgetD : ((dropDimensions? rest.trimStart).map Text.asciiLower).getD
        (Text.asciiLower rest.trimStart) =
          Text.asciiLower ((dropDimensions? rest.trimStart).getD rest.trimStart) := by
      cases dropDimensions? rest.trimStart <;> rfl
    rw [hgetD, trimStart_asciiLower, readDefault?_asciiLower]
    cases readDefault? (trimStart ((dropDimensions? rest.trimStart).getD rest.trimStart)) with
    | none => rfl
    | some value =>
      simp only [Option.map_some, Option.bind_some, Option.pure_def, Option.isSome_map,
        TypeMark.ofSuffix_asciiLower, Part.asciiLower]

/-- A part is read alike. -/
theorem parse?_asciiLower (text : Text) :
    parse? (Text.asciiLower text) = (parse? text).map Part.asciiLower := by
  unfold parse?
  rw [trim_asciiLower]
  dsimp only
  rw [readWhole?_asciiLower, identifier?_asciiLower]
  cases readWhole? text.trim with
  | some part => rfl
  | none => cases text.trim.identifier? <;> rfl

/-- The parts of a list are read alike. -/
theorem parseList_asciiLower (list : Text) :
    parseList (Text.asciiLower list) = (parseList list).map Part.asciiLower := by
  rw [parseList, parseList, Line.splitTopLevel, Line.splitFrom_asciiLower (by decide),
    List.filterMap_map, List.map_filterMap]
  exact congrArg (List.filterMap · _) (funext parse?_asciiLower)

end Part

/-! ## Statements -/

namespace Statement

/-- The statement with the lower case of the ASCII letters of its texts. -/
def asciiLower : Statement → Statement
  | includeFile target => includeFile (Text.asciiLower target)
  | declare keyword list column =>
    declare (Text.asciiLower keyword) (Text.asciiLower list) column
  | openLoop name suffix column closed =>
    openLoop (Text.asciiLower name) (Text.asciiLower suffix) column closed
  | closeLoop => closeLoop
  | assign name sign column => assign (Text.asciiLower name) (Text.asciiLower sign) column
  | documentParameter text => documentParameter (Text.asciiLower text)
  | documentExample text => documentExample (Text.asciiLower text)
  | document text => document (Text.asciiLower text)
  | closeFunction => closeFunction
  | openFunction name suffix column parameters =>
    openFunction (Text.asciiLower name) (Text.asciiLower suffix) column
      (parameters.map (Prod.map Text.asciiLower id))
  | closeType => closeType
  | openType name column => openType (Text.asciiLower name) column
  | declareFields list column => declareFields (Text.asciiLower list) column
  | label name column => label (Text.asciiLower name) column
  | other => other

@[simp]
theorem columnOf_asciiLower (line rest : Text) :
    columnOf (Text.asciiLower line) (Text.asciiLower rest) = columnOf line rest := by
  rw [columnOf, columnOf, length_asciiLower, length_asciiLower]

variable (code : Text)

@[simp]
theorem afterKeyword?_asciiLower (keyword : Text) :
    afterKeyword? keyword (Text.asciiLower code) =
      (afterKeyword? keyword code).map Text.asciiLower := by
  unfold afterKeyword?
  rw [trimStart_asciiLower, dropKeyword?_asciiLower]
  cases dropKeyword? keyword code.trimStart with
  | none => rfl
  | some rest => exact dropBlanks?_asciiLower rest

/-- An include is read alike. -/
theorem readInclude?_asciiLower :
    readInclude? (Text.asciiLower code) = (readInclude? code).map asciiLower := by
  unfold readInclude?
  rw [afterKeyword?_asciiLower]
  cases afterKeyword? "include" code with
  | none => rfl
  | some found =>
    cases found with
    | nil => rfl
    | cons c rest =>
      by_cases hc : c = '"'
      · subst hc
        have htarget : (Text.asciiLower rest).takeWhile (· != '"') =
            Text.asciiLower (rest.takeWhile (· != '"')) :=
          takeWhile_asciiLower (toLower_bne (by decide)) rest
        change (if (Text.asciiLower rest).contains '"' then
            some (includeFile ((Text.asciiLower rest).takeWhile (· != '"'))) else none) =
          Option.map _ (if rest.contains '"' then _ else none)
        rw [contains_asciiLower _ (by decide), htarget]
        split_ifs <;> rfl
      · have hlower : c.toLower ≠ '"' := toLower_ne (by decide) hc
        simp [hc, hlower]

/-- A declaration is read alike. -/
theorem readDeclaration?_asciiLower :
    readDeclaration? (Text.asciiLower code) = (readDeclaration? code).map asciiLower := by
  have hreader (keyword : Text) : readDeclaratorList? (Text.asciiLower code) keyword =
      (readDeclaratorList? code keyword).map asciiLower := by
    unfold readDeclaratorList?
    rw [afterKeyword?_asciiLower]
    cases afterKeyword? keyword code with
    | none => rfl
    | some list => simp [asciiLower]
  unfold readDeclaration?
  generalize declarators = keywords
  induction keywords with
  | nil => rfl
  | cons keyword keywords ih =>
    rw [List.findSome?_cons, List.findSome?_cons, hreader, ih]
    cases readDeclaratorList? code keyword <;> rfl

/-- The suffix of a loop variable or function is cut off alike. -/
theorem takeLooseSuffix_asciiLower (text : Text) :
    takeLooseSuffix (Text.asciiLower text) =
      Prod.map Text.asciiLower Text.asciiLower (takeLooseSuffix text) := by
  cases text with
  | nil => rfl
  | cons c rest =>
    rw [asciiLower_cons, takeLooseSuffix, takeLooseSuffix, isTypeSign_toLower,
      toLower_beq (by decide), takeWhile_asciiLower isBlank_toLower,
      dropWhile_asciiLower isBlank_toLower, looseIdentifier?_asciiLower]
    split_ifs
    · rfl
    · cases looseIdentifier? (rest.dropWhile isBlank) with
      | none => rfl
      | some found => simp
    · rfl

@[simp]
theorem closesLoop_asciiLower (text : Text) :
    closesLoop (Text.asciiLower text) = closesLoop text := by
  rw [closesLoop, closesLoop, trimStart_asciiLower, dropWholeKeyword?_asciiLower,
    Option.isSome_map]

/-- A text goes on with an equals sign in both cases, or in none. -/
theorem head?_asciiLower_bne (text : Text) :
    ((Text.asciiLower text).head? != some '=') = (text.head? != some '=') :=
  congrArg not (head?_asciiLower_beq (by decide) text)

/-- A loop is read alike. -/
theorem readLoop?_asciiLower :
    readLoop? (Text.asciiLower code) = (readLoop? code).map asciiLower := by
  unfold readLoop?
  rw [afterKeyword?_asciiLower]
  cases afterKeyword? "for" code with
  | none => rfl
  | some named =>
    simp only [Option.map_some, Option.bind_eq_bind, Option.bind_some,
      looseIdentifier?_asciiLower]
    cases looseIdentifier? named with
    | none => rfl
    | some found =>
      rcases found with ⟨name, rest⟩
      simp only [Option.map_some, Option.bind_some, Prod.map, trimStart_asciiLower,
        takeLooseSuffix_asciiLower, head?_asciiLower_bne]
      rw [Line.splitTopLevel, Line.splitFrom_asciiLower (by decide), ← List.map_tail,
        List.any_map, Line.splitTopLevel]
      split_ifs
      · rfl
      · simp [asciiLower, Function.comp_def]

/-- The end of a loop is read alike. -/
theorem readLoopEnd?_asciiLower :
    readLoopEnd? (Text.asciiLower code) = (readLoopEnd? code).map asciiLower := by
  rw [readLoopEnd?, readLoopEnd?, closesLoop_asciiLower]
  split_ifs <;> rfl

/-- A name is reserved in both cases, or in none. -/
theorem isReserved_asciiLower (word : Text) :
    Keyword.isReserved (Text.asciiLower word) = Keyword.isReserved word := by
  rw [Keyword.isReserved, Keyword.isReserved, lower_asciiLower]

/-- An assignment is read alike. -/
theorem readAssignment?_asciiLower :
    readAssignment? (Text.asciiLower code) = (readAssignment? code).map asciiLower := by
  unfold readAssignment?
  rw [trimStart_asciiLower]
  dsimp only
  rw [identifier?_asciiLower]
  cases code.trimStart.identifier? with
  | none => rfl
  | some name =>
    have hsign (text : Text) : (Text.asciiLower text).filter isTypeSign =
        Text.asciiLower (text.filter isTypeSign) := by
      rw [Text.asciiLower, List.filter_map, Text.asciiLower]
      exact congrArg (fun p => (text.filter p).map _) (funext isTypeSign_toLower)
    simp only [Option.map_some, Option.bind_eq_bind, Option.bind_some, length_asciiLower,
      drop_asciiLower, trimStart_asciiLower, take_asciiLower, hsign, head?_asciiLower_bne,
      isReserved_asciiLower, columnOf_asciiLower]
    split_ifs <;> rfl

/-- A line of documentation is read alike. -/
theorem readDocument?_asciiLower (line : Text) :
    readDocument? (Text.asciiLower line) = (readDocument? line).map asciiLower := by
  have hlead (text : Text) : dropLead? ";;" (Text.asciiLower text) =
      (dropLead? ";;" text).map Text.asciiLower := by
    have hstarts : List.isPrefixOf ";;".toList (Text.asciiLower text) =
        List.isPrefixOf ";;".toList text := by
      change List.isPrefixOf [';', ';'] _ = List.isPrefixOf [';', ';'] _
      rcases text with - | ⟨c, - | ⟨c', text⟩⟩
      · rfl
      · simp [List.isPrefixOf]
      · simp only [asciiLower_cons, List.isPrefixOf, Bool.and_true, BEq.comm (a := ';'),
          toLower_beq (show isNoAsciiLetter ';' = true by decide)]
    unfold dropLead?
    rw [hstarts, drop_asciiLower]
    split_ifs <;> rfl
  have hplain (text : Text) : readDocument?.plain (Text.asciiLower text) =
      (readDocument?.plain text).map asciiLower := by
    cases text with
    | nil => rfl
    | cons c text =>
      by_cases hc : c = ' '
      · subst hc
        change some (document (trimEnd (Text.asciiLower text))) = _
        rw [trimEnd_asciiLower]
        rfl
      · have hlower : c.toLower ≠ ' ' := toLower_ne (by decide) hc
        simp [readDocument?.plain, hc, hlower]
  unfold readDocument?
  rw [trimStart_asciiLower, hlead]
  cases dropLead? ";;" line.trimStart with
  | none => rfl
  | some text =>
    simp only [Option.map_some, Option.bind_eq_bind, Option.bind_some, dropKeyword?_asciiLower]
    have hblanks : ((dropKeyword? "param" text).map Text.asciiLower).bind dropBlanks? =
        ((dropKeyword? "param" text).bind dropBlanks?).map Text.asciiLower := by
      cases dropKeyword? "param" text with
      | none => rfl
      | some rest => exact dropBlanks?_asciiLower rest
    rw [hblanks]
    cases (dropKeyword? "param" text).bind dropBlanks? with
    | some doc =>
      simp only [Option.map_some, trimEnd_asciiLower]
      rfl
    | none =>
      simp only [Option.map_none]
      cases dropKeyword? "example" text with
      | none => exact hplain text
      | some rest =>
        cases rest with
        | nil => rfl
        | cons c doc =>
          simp only [Option.map_some, asciiLower_cons, isBlank_toLower, trimEnd_asciiLower, hplain]
          split_ifs <;> rfl

@[simp]
theorem afterEnd?_asciiLower (keyword : Text) :
    afterEnd? keyword (Text.asciiLower code) = (afterEnd? keyword code).map Text.asciiLower := by
  unfold afterEnd?
  rw [trimStart_asciiLower, dropKeyword?_asciiLower]
  cases dropKeyword? "end" code.trimStart with
  | none => rfl
  | some rest =>
    simp only [Option.map_some, Option.bind_eq_bind, Option.bind_some, trimStart_asciiLower,
      dropWholeKeyword?_asciiLower]

/-- The end of a function is read alike. -/
theorem readFunctionEnd?_asciiLower :
    readFunctionEnd? (Text.asciiLower code) = (readFunctionEnd? code).map asciiLower := by
  rw [readFunctionEnd?, readFunctionEnd?, afterEnd?_asciiLower]
  cases afterEnd? "function" code <;> rfl

/-- The parameters of a function are read alike. -/
theorem parameterList?_asciiLower (column : Nat) :
    parameterList? (Text.asciiLower code) column =
      (parameterList? code column).map (Prod.map Text.asciiLower id) := by
  unfold parameterList?
  rw [indexFrom?_asciiLower _ (by decide)]
  cases code.indexFrom? '(' column with
  | none => rfl
  | some opening =>
    simp only [Option.bind_eq_bind, Option.bind_some, Line.closingParen?_asciiLower,
      slice_asciiLower, drop_asciiLower]
    cases Line.closingParen? code opening <;> rfl

/-- A function is read alike. -/
theorem readFunction?_asciiLower :
    readFunction? (Text.asciiLower code) = (readFunction? code).map asciiLower := by
  unfold readFunction?
  rw [afterKeyword?_asciiLower]
  cases afterKeyword? "function" code with
  | none => rfl
  | some named =>
    simp only [Option.map_some, Option.bind_eq_bind, Option.bind_some,
      looseIdentifier?_asciiLower]
    cases looseIdentifier? named with
    | none => rfl
    | some found =>
      rcases found with ⟨name, rest⟩
      simp only [Option.map_some, Option.bind_some, Prod.map, trimStart_asciiLower,
        takeLooseSuffix_asciiLower, columnOf_asciiLower, parameterList?_asciiLower]
      rfl

/-- The end of a type is read alike. -/
theorem readTypeEnd?_asciiLower :
    readTypeEnd? (Text.asciiLower code) = (readTypeEnd? code).map asciiLower := by
  rw [readTypeEnd?, readTypeEnd?, afterEnd?_asciiLower]
  cases afterEnd? "type" code <;> rfl

/-- A type is read alike. -/
theorem readType?_asciiLower :
    readType? (Text.asciiLower code) = (readType? code).map asciiLower := by
  unfold readType?
  rw [afterKeyword?_asciiLower]
  cases afterKeyword? "type" code with
  | none => rfl
  | some named =>
    simp only [Option.map_some, Option.bind_eq_bind, Option.bind_some,
      looseIdentifier?_asciiLower, columnOf_asciiLower]
    cases looseIdentifier? named <;> rfl

/-- A declaration of fields is read alike. -/
theorem readFields?_asciiLower :
    readFields? (Text.asciiLower code) = (readFields? code).map asciiLower := by
  unfold readFields?
  rw [afterKeyword?_asciiLower]
  cases afterKeyword? "field" code with
  | none => rfl
  | some list => simp [asciiLower]

/-- A label is read alike. -/
theorem readLabel?_asciiLower :
    readLabel? (Text.asciiLower code) = (readLabel? code).map asciiLower := by
  unfold readLabel?
  rw [trimStart_asciiLower]
  cases code.trimStart with
  | nil => rfl
  | cons c rest =>
    by_cases hc : c = '.'
    · subst hc
      change (identifier? (Text.asciiLower rest)).map (fun name =>
          label name (columnOf (Text.asciiLower code) (Text.asciiLower rest))) =
        Option.map _ ((identifier? rest).map _)
      rw [identifier?_asciiLower, columnOf_asciiLower]
      cases identifier? rest <;> rfl
    · have hlower : c.toLower ≠ '.' := toLower_ne (by decide) hc
      simp [hc, hlower]

/-- Every reader makes the same of a line in both cases. -/
theorem readings_asciiLower (line : Text) :
    readings (Text.asciiLower line) = (readings line).map (Option.map asciiLower) := by
  simp only [readings, Line.code_asciiLower, readInclude?_asciiLower, readDeclaration?_asciiLower,
    readLoop?_asciiLower, readLoopEnd?_asciiLower, readAssignment?_asciiLower,
    readDocument?_asciiLower, readFunctionEnd?_asciiLower, readFunction?_asciiLower,
    readTypeEnd?_asciiLower, readType?_asciiLower, readFields?_asciiLower, readLabel?_asciiLower,
    List.map_cons, List.map_nil]

/-- A line says the same in both cases. -/
theorem read_asciiLower (line : Text) : read (Text.asciiLower line) = (read line).asciiLower := by
  rw [read_eq_findSome?, read_eq_findSome?, readings_asciiLower]
  generalize readings line = list
  induction list with
  | nil => rfl
  | cons reading list ih =>
    cases reading with
    | none => exact ih
    | some statement => rfl

/-- Lines that differ in the case of ASCII letters only say the same, but for case. -/
theorem asciiLower_read_eq {line line' : Text} (h : Text.asciiLower line = Text.asciiLower line') :
    (read line).asciiLower = (read line').asciiLower := by
  rw [← read_asciiLower, h, read_asciiLower]

end Statement

end BlitzLens
