import BlitzLens.Declaration.Part
import BlitzLens.Proofs.Symbol.Guard
import BlitzLens.Proofs.Text.Word

/-!
# Reading a part that was written down

A part is written as a name, a type suffix, a group of dimensions and a default value, of which all
but the name may be missing (`Part.Spelling`). Reading finds the first closing bracket of the kind
of the group, whatever is opened in between. So what was written is read again exactly if that
bracket does not occur inside the group (`Part.parse?_spelling_iff`). Where it does, the rest of the
group is taken for a default value, or the part keeps nothing but its name.

## Main definitions

* `Identifier`, `TypeSuffix`, `Dimensions`, `DefaultText`: the pieces of a part, well-formed.
* `Part.Spelling`: a part by its pieces, and the text that they make.

## Main results

* `Part.readWhole?_append`: the name and the suffix are read, and the rest is left to the group and
  the default value.
* `Part.parse?_spelling_iff`: when all pieces are read again.
-/

namespace BlitzLens

/-! ## The pieces of a part -/

/-- A name as declarations and types have it: an ASCII letter or underscore, and word characters. -/
structure Identifier where
  /-- Its characters. -/
  text : Text
  /-- They make an identifier as a whole. -/
  whole : text.identifier? = some text

/-- What annotates the type of a name. -/
inductive TypeSuffix where
  /-- Nothing. -/
  | none
  /-- The sign for whole numbers. -/
  | integer
  /-- The sign for floating-point numbers. -/
  | float
  /-- The sign for strings. -/
  | string
  /-- A dot and the name of a record type. -/
  | record (type : Identifier)

namespace TypeSuffix

/-- The suffix as it is written. -/
def text : TypeSuffix → Text
  | none => []
  | integer => ['%']
  | float => ['#']
  | string => ['$']
  | record type => '.' :: type.text

/-- The type that the suffix annotates. -/
def mark : TypeSuffix → TypeMark
  | none => .none
  | integer => .plain .integer
  | float => .plain .float
  | string => .plain .string
  | record type => ⟨.object, some type.text.lower, some type.text⟩

end TypeSuffix

/-- A group of dimensions: any text in round or in square brackets. -/
structure Dimensions where
  /-- Whether the brackets are square. -/
  square : Bool
  /-- The text between them. -/
  content : Text

namespace Dimensions

/-- The bracket that opens the group. -/
def opening (group : Dimensions) : Char :=
  if group.square then '[' else '('

/-- The bracket that closes the group. -/
def closing (group : Dimensions) : Char :=
  if group.square then ']' else ')'

/-- The group as it is written. -/
def text (group : Dimensions) : Text :=
  group.opening :: (group.content ++ [group.closing])

end Dimensions

/-- A default value as it may be written on a line. -/
structure DefaultText where
  /-- Its characters. -/
  text : Text
  /-- There are some. -/
  ne_nil : text ≠ []
  /-- No blanks surround them. -/
  trim_eq : text.trim = text
  /-- They stand on one line. -/
  newline : '\n' ∉ text

/-- The pieces that a part is written with. -/
structure Part.Spelling where
  /-- The declared name. -/
  name : Identifier
  /-- Its type suffix. -/
  suffix : TypeSuffix
  /-- Its dimensions. -/
  group : Option Dimensions
  /-- Its default value. -/
  default : Option DefaultText

namespace Part.Spelling

/-- The default value as it is written behind an equals sign. -/
def defaultText (spelling : Spelling) : Text :=
  match spelling.default with
  | none => []
  | some value => " = ".toList ++ value.text

/-- What is written behind the suffix. -/
def tail (spelling : Spelling) : Text :=
  match spelling.group with
  | none => spelling.defaultText
  | some group => group.text ++ spelling.defaultText

/-- The part as it is written. -/
def text (spelling : Spelling) : Text :=
  spelling.name.text ++ (spelling.suffix.text ++ spelling.tail)

end Part.Spelling

/-! ## Texts around blanks -/

namespace Text

variable {text rest : Text} {c : Char}

/-- A text that starts with a visible character has no leading blanks. -/
theorem trimStart_cons (h : isBlank c = false) : trimStart (c :: rest) = c :: rest :=
  List.dropWhile_cons_of_neg (by simp [h])

/-- Trimming the start a second time changes nothing. -/
theorem trimStart_trimStart (text : Text) : trimStart (trimStart text) = trimStart text :=
  List.dropWhile_idempotent isBlank text

/-- An ending that starts with a visible character is still one when the start is trimmed. -/
theorem isSuffix_trimStart (hc : isBlank c = false) (h : c :: rest <:+ text) :
    c :: rest <:+ trimStart text := by
  obtain ⟨front, rfl⟩ := h
  rw [trimStart, List.dropWhile_append]
  split
  · exact ⟨[], (trimStart_cons hc).symm⟩
  · exact List.suffix_append _ _

/-- Where both ends are trimmed at once and nothing changes, each of them is trimmed. -/
theorem trimStart_trimEnd_of_trim_eq (h : text.trim = text) :
    text.trimStart = text ∧ text.trimEnd = text := by
  have hstart : text.trimStart <:+ text := List.dropWhile_suffix isBlank
  have hend : text.trim <+: text.trimStart := List.rdropWhile_prefix isBlank text.trimStart
  have hlength := hend.length_le
  rw [h] at hlength
  have heq : text.trimStart = text :=
    hstart.eq_of_length (Nat.le_antisymm hstart.length_le hlength)
  rw [trim, heq] at h
  exact ⟨heq, h⟩

/-- What ends with a trimmed text is trimmed at its end. -/
theorem trimEnd_append (front : Text) (hne : text ≠ []) (h : text.trimEnd = text) :
    trimEnd (front ++ text) = front ++ text := by
  refine List.rdropWhile_eq_self_iff.2 fun hne' => ?_
  rw [List.getLast_append_of_ne_nil hne' hne]
  exact List.rdropWhile_eq_self_iff.1 h hne

end Text

namespace Identifier

variable (name : Identifier)

/-- The characters of an identifier are word characters, and the first one starts identifiers. -/
theorem exists_eq_cons : ∃ c rest, name.text = c :: rest ∧ isIdentifierStart c = true ∧
    ∀ d ∈ name.text, isWordChar d = true := by
  have hwhole := name.whole
  cases htext : name.text with
  | nil =>
    rw [htext] at hwhole
    cases hwhole
  | cons c rest =>
    rw [htext, Text.identifier?] at hwhole
    by_cases hstart : isIdentifierStart c = true
    · rw [if_pos hstart, Option.some.injEq, List.cons.injEq] at hwhole
      refine ⟨c, rest, rfl, hstart, fun d hd => ?_⟩
      rcases List.mem_cons.1 hd with rfl | hd
      · exact isWordChar_of_isIdentifierStart hstart
      · rw [← hwhole.2] at hd
        exact List.mem_takeWhile_imp hd
    · rw [if_neg hstart] at hwhole
      cases hwhole

/-- An identifier is read where no word goes on behind it. -/
theorem identifier?_append {rest : Text} (h : Text.startsWord rest = false) :
    Text.identifier? (name.text ++ rest) = some name.text := by
  obtain ⟨c, run, htext, hstart, hword⟩ := name.exists_eq_cons
  rw [htext] at hword
  have hrun : Text.wordRun (run ++ rest) = run :=
    Text.wordRun_append (fun d hd => hword d (List.mem_cons_of_mem _ hd)) h
  rw [htext, List.cons_append, Text.identifier?, if_pos hstart]
  exact congrArg (fun read => some (c :: read)) hrun

/-- An identifier starts and ends with visible characters. -/
theorem isBlank_eq_false {c : Char} (h : c ∈ name.text) : isBlank c = false := by
  obtain ⟨-, -, -, -, hword⟩ := name.exists_eq_cons
  exact isBlank_of_isWordChar (hword c h)

/-- An identifier is no empty text. -/
theorem text_ne_nil : name.text ≠ [] := by
  obtain ⟨c, run, htext, -, -⟩ := name.exists_eq_cons
  rw [htext]
  exact List.cons_ne_nil c run

/-- No blanks stand at the start of an identifier, whatever follows it. -/
theorem trimStart_append (rest : Text) :
    Text.trimStart (name.text ++ rest) = name.text ++ rest := by
  obtain ⟨c, run, htext, -, -⟩ := name.exists_eq_cons
  rw [htext, List.cons_append]
  exact Text.trimStart_cons (name.isBlank_eq_false (htext ▸ List.mem_cons_self))

/-- No blanks stand at the end of an identifier. -/
theorem trimEnd_text : name.text.trimEnd = name.text :=
  List.rdropWhile_eq_self_iff.2 fun hne => by
    simp [name.isBlank_eq_false (List.getLast_mem hne)]

end Identifier

/-! ## Reading the pieces -/

namespace TypeSuffix

variable (suffix : TypeSuffix)

/-- The type of a suffix is the one that its text stands for. -/
theorem ofSuffix_text : TypeMark.ofSuffix suffix.text = suffix.mark := by
  cases suffix with
  | record type =>
    obtain ⟨c, run, htext, hstart, -⟩ := type.exists_eq_cons
    have hdot : c ≠ '.' := by
      rintro rfl
      revert hstart
      decide
    have hdisplay : Text.trim (('.' :: type.text).dropWhile (· == '.')) = type.text := by
      rw [List.dropWhile_cons_of_pos (by decide), htext, List.dropWhile_cons_of_neg (by simpa),
        ← htext, Text.trim, ← List.append_nil type.text, type.trimStart_append, List.append_nil,
        type.trimEnd_text]
    have hne : type.text.isEmpty = false := by simp [type.text_ne_nil]
    simp only [TypeMark.ofSuffix, text, mark, hdisplay, hne]
    simp
  | _ => rfl

/-- A suffix is read, and the rest is left, up to blanks, unless there is no suffix and the rest
would be one. -/
theorem exists_takeSuffix_eq {rest : Text} (hword : Text.startsWord rest = false)
    (hrest : ∀ c ∈ rest.trimStart.head?, isTypeSign c = false ∧ c ≠ '.') :
    ∃ left, Part.takeSuffix (Text.trimStart (suffix.text ++ rest)) = (suffix.text, left) ∧
      Text.trimStart left = Text.trimStart rest := by
  cases suffix with
  | none =>
    refine ⟨rest.trimStart, ?_, Text.trimStart_trimStart rest⟩
    change Part.takeSuffix rest.trimStart = ([], rest.trimStart)
    cases htrim : rest.trimStart with
    | nil => rfl
    | cons c front =>
      obtain ⟨hsign, hdot⟩ := hrest c (by rw [htrim]; rfl)
      rw [Part.takeSuffix]
      simp [hsign, hdot]
  | integer => exact ⟨rest, rfl, rfl⟩
  | float => exact ⟨rest, rfl, rfl⟩
  | string => exact ⟨rest, rfl, rfl⟩
  | record type =>
    refine ⟨rest, ?_, rfl⟩
    change Part.takeSuffix (Text.trimStart ('.' :: (type.text ++ rest))) = _
    have hstart : Text.trimStart (type.text ++ rest) = type.text ++ rest :=
      type.trimStart_append rest
    -- no blanks stand between the dot and the name of the type
    have hblanks : (type.text ++ rest).takeWhile isBlank = [] := by
      have hsplit := List.takeWhile_append_dropWhile (p := isBlank) (l := type.text ++ rest)
      rw [show (type.text ++ rest).dropWhile isBlank = type.text ++ rest from hstart] at hsplit
      exact List.append_left_eq_self.1 hsplit
    rw [Text.trimStart_cons (by decide), Part.takeSuffix]
    rw [show (type.text ++ rest).dropWhile isBlank = type.text ++ rest from hstart, hblanks]
    simp only [type.identifier?_append hword, List.drop_left]
    rfl

end TypeSuffix

namespace Dimensions

variable (group : Dimensions)

/-- The brackets of a group are visible. -/
theorem isBlank_brackets : isBlank group.opening = false ∧ isBlank group.closing = false := by
  rw [opening, closing]
  cases group.square <;> decide

/-- A group is passed over up to the first bracket that could close it. -/
theorem dropDimensions?_eq {front : Text} (h : group.closing ∉ front) (rest : Text) :
    Part.dropDimensions? (group.opening :: (front ++ group.closing :: rest)) = some rest := by
  have hdrop : (front ++ group.closing :: rest).dropWhile (· != group.closing) =
      group.closing :: rest := by
    have hfront : ∀ c ∈ front, (c != group.closing) = true := fun c hc =>
      bne_iff_ne.2 fun heq => h (heq ▸ hc)
    rw [List.dropWhile_append_of_pos hfront, List.dropWhile_cons_of_neg (by simp)]
  have hclosing : (if group.opening == '[' then some ']'
      else if group.opening == '(' then some ')' else none) = some group.closing := by
    rw [opening, closing]
    cases group.square <;> rfl
  simp only [Part.dropDimensions?, hclosing, hdrop]

end Dimensions

namespace Part

/-- Behind a name and a suffix, reading goes on with what is left, unless a suffix is missing and
the rest would be one. -/
theorem readWhole?_append (name : Identifier) (suffix : TypeSuffix) {rest : Text}
    (hword : Text.startsWord rest = false)
    (hrest : ∀ c ∈ rest.trimStart.head?, isTypeSign c = false ∧ c ≠ '.') :
    readWhole? (name.text ++ (suffix.text ++ rest)) =
      (readDefault? (Text.trimStart
        ((dropDimensions? rest.trimStart).getD rest.trimStart))).map fun value =>
          { name := name.text, text := name.text ++ (suffix.text ++ rest), typeMark := suffix.mark,
            array := (dropDimensions? rest.trimStart).isSome, default := value } := by
  have hsuffix : Text.startsWord (suffix.text ++ rest) = false := by
    cases suffix with
    | none => exact hword
    | integer | float | string | record => rfl
  obtain ⟨left, htake, hleft⟩ := suffix.exists_takeSuffix_eq hword hrest
  simp only [readWhole?, name.identifier?_append hsuffix, Option.bind_eq_bind, Option.bind_some,
    List.drop_left, htake, hleft, suffix.ofSuffix_text]
  cases readDefault? (Text.trimStart ((dropDimensions? rest.trimStart).getD rest.trimStart)) <;> rfl

/-- A default value is read from behind its equals sign. -/
theorem readDefault?_defaultText (spelling : Spelling) :
    readDefault? spelling.defaultText.trimStart =
      some (spelling.default.map DefaultText.text) := by
  rw [Spelling.defaultText]
  cases spelling.default with
  | none => rfl
  | some value =>
    obtain ⟨hstart, -⟩ := Text.trimStart_trimEnd_of_trim_eq value.trim_eq
    have hblank : Text.trimStart (' ' :: value.text) = value.text :=
      (List.dropWhile_cons_of_pos (by decide)).trans hstart
    change readDefault? ('=' :: ' ' :: value.text) = some (some value.text)
    simp [readDefault?, hblank, value.newline, value.ne_nil]

/-- Where a visible character other than the equals sign is left, a part can end only with a default
value, which contains the character and what is behind it. -/
theorem exists_of_readDefault? {text rest : Text} {c : Char} {found : Option Text}
    (hc : isBlank c = false) (hne : c ≠ '=') (htext : c :: rest <:+ text)
    (h : readDefault? text.trimStart = some found) :
    ∃ value, found = some value ∧ c :: rest <:+ value := by
  have hsuffix := Text.isSuffix_trimStart hc htext
  cases htrim : text.trimStart with
  | nil =>
    rw [htrim] at hsuffix
    cases List.suffix_nil.1 hsuffix
  | cons d left =>
    rw [htrim, readDefault?] at h
    split at h
    · cases h
    · next hsign =>
      rw [Bool.or_eq_true, not_or, bne_iff_ne, not_not] at hsign
      -- the character is not the equals sign, so it stands behind the sign
      have hleft : c :: rest <:+ left := by
        rw [htrim] at hsuffix
        rcases List.suffix_cons_iff.1 hsuffix with heq | hleft
        · exact absurd ((List.cons.inj heq).1.trans hsign.1) hne
        · exact hleft
      have hvalue : c :: rest <:+ Text.trimStart left := Text.isSuffix_trimStart hc hleft
      have hempty : (Text.trimStart left).isEmpty = false := by
        rw [List.isEmpty_eq_false_iff]
        intro hnil
        rw [hnil] at hvalue
        cases List.suffix_nil.1 hvalue
      rw [hempty] at h
      exact ⟨Text.trimStart left, (Option.some.inj h).symm, hvalue⟩

/-! ## Reading a whole part -/

namespace Spelling

variable (spelling : Spelling)

/-- A part as it is written has no surrounding blanks. -/
theorem trim_text : spelling.text.trim = spelling.text := by
  have hstart : spelling.text.trimStart = spelling.text := spelling.name.trimStart_append _
  rw [Text.trim, hstart]
  rw [text, tail, defaultText]
  -- the last piece that is written ends with a visible character
  cases spelling.default with
  | some value =>
    obtain ⟨-, hend⟩ := Text.trimStart_trimEnd_of_trim_eq value.trim_eq
    cases spelling.group with
    | some group =>
      simp only [← List.append_assoc]
      exact Text.trimEnd_append _ value.ne_nil hend
    | none =>
      simp only [← List.append_assoc]
      exact Text.trimEnd_append _ value.ne_nil hend
  | none =>
    cases spelling.group with
    | some group =>
      have hclosing : Text.trimEnd ([] ++ [group.closing]) = [] ++ [group.closing] :=
        Text.trimEnd_concat group.isBlank_brackets.2
      simp only [List.append_nil, Dimensions.text, ← List.cons_append, ← List.append_assoc]
      exact Text.trimEnd_append _ (List.cons_ne_nil _ _) hclosing
    | none =>
      simp only [List.append_nil]
      cases spelling.suffix with
      | none =>
        simp only [TypeSuffix.text, List.append_nil]
        exact spelling.name.trimEnd_text
      | record type =>
        have htype : Text.trimEnd ('.' :: type.text) = '.' :: type.text :=
          Text.trimEnd_append ['.'] type.text_ne_nil type.trimEnd_text
        exact Text.trimEnd_append _ (List.cons_ne_nil _ _) htype
      | integer | float | string => exact Text.trimEnd_append _ (List.cons_ne_nil _ _) rfl

/-- What is written behind the suffix does not continue a word and is no suffix. -/
theorem startsWord_tail : Text.startsWord spelling.tail = false ∧
    ∀ c ∈ spelling.tail.trimStart.head?, isTypeSign c = false ∧ c ≠ '.' := by
  rw [tail]
  cases spelling.group with
  | none =>
    rw [defaultText]
    cases spelling.default with
    | none => exact ⟨rfl, nofun⟩
    | some value =>
      refine ⟨rfl, fun c hc => ?_⟩
      obtain rfl : '=' = c := Option.some.inj hc
      decide
  | some group =>
    have hopening : isWordChar group.opening = false ∧ isTypeSign group.opening = false ∧
        group.opening ≠ '.' := by
      rw [Dimensions.opening]
      cases group.square <;> decide
    have hstart : Text.trimStart (group.text ++ spelling.defaultText) =
        group.text ++ spelling.defaultText := Text.trimStart_cons group.isBlank_brackets.1
    refine ⟨hopening.1, fun c hc => ?_⟩
    rw [hstart] at hc
    obtain rfl : group.opening = c := Option.some.inj hc
    exact hopening.2

/-- A part is read with its name, and with the other pieces if what is behind the suffix can be read
as a group and a default value. -/
theorem parse?_text : parse? spelling.text =
    some (((readDefault? (Text.trimStart ((dropDimensions? spelling.tail.trimStart).getD
      spelling.tail.trimStart))).map fun value =>
        { name := spelling.name.text, text := spelling.text, typeMark := spelling.suffix.mark,
          array := (dropDimensions? spelling.tail.trimStart).isSome, default := value }).getD
      { name := spelling.name.text, text := spelling.text }) := by
  obtain ⟨hword, hrest⟩ := spelling.startsWord_tail
  have hread := readWhole?_append spelling.name spelling.suffix hword hrest
  rw [← text] at hread
  have hname : spelling.text.identifier? = some spelling.name.text := by
    refine spelling.name.identifier?_append ?_
    cases spelling.suffix with
    | none => exact hword
    | integer | float | string | record => rfl
  rw [parse?, trim_text, hread]
  cases readDefault? (Text.trimStart ((dropDimensions? spelling.tail.trimStart).getD
    spelling.tail.trimStart)) with
  | none => simp [hname]
  | some value => rfl

/-- A group stands behind the suffix with its brackets and the default value. -/
theorem trimStart_tail {group : Dimensions} (h : spelling.group = some group) :
    spelling.tail.trimStart =
      group.opening :: (group.content ++ group.closing :: spelling.defaultText) := by
  have hwritten : spelling.tail =
      group.opening :: (group.content ++ group.closing :: spelling.defaultText) := by
    simp [tail, h, Dimensions.text]
  rw [hwritten]
  exact Text.trimStart_cons group.isBlank_brackets.1

/-- Where the closing bracket of a group is left, the default value that was written is not read. -/
theorem readDefault?_ne_of_closing (group : Dimensions) {text : Text}
    (h : group.closing :: spelling.defaultText <:+ text) :
    readDefault? text.trimStart ≠ some (spelling.default.map DefaultText.text) := by
  intro hread
  have hne : group.closing ≠ '=' := by
    rw [Dimensions.closing]
    cases group.square <;> decide
  obtain ⟨value, hdefault, hvalue⟩ :=
    exists_of_readDefault? group.isBlank_brackets.2 hne h hread
  -- the value that was written is shorter than what would have to be read
  obtain ⟨written, hwritten, rfl⟩ := Option.map_eq_some_iff.1 hdefault
  have hlength := hvalue.length_le
  rw [defaultText, hwritten] at hlength
  simp only [List.length_cons, List.length_append] at hlength
  omega

end Spelling

/-- A part as it is written is read with its name, and all its other pieces are read exactly if the
bracket that closes the group does not occur inside the group. -/
theorem parse?_spelling_iff (spelling : Spelling) :
    ∃ part, parse? spelling.text = some part ∧ part.name = spelling.name.text ∧
      part.text = spelling.text ∧
      ((part.typeMark = spelling.suffix.mark ∧ part.array = spelling.group.isSome ∧
          part.default = spelling.default.map DefaultText.text) ↔
        ∀ group, spelling.group = some group → group.closing ∉ group.content) := by
  refine ⟨_, spelling.parse?_text, ?_⟩
  cases hgroup : spelling.group with
  | none =>
    -- there is no group, and a default value is none
    have htail : spelling.tail = spelling.defaultText := by rw [Spelling.tail, hgroup]
    have hdrop : dropDimensions? spelling.defaultText.trimStart = none := by
      rw [Spelling.defaultText]
      cases spelling.default <;> rfl
    rw [htail, hdrop, Option.getD_none, Text.trimStart_trimStart,
      readDefault?_defaultText spelling]
    exact ⟨rfl, rfl, fun _ => nofun, fun _ => ⟨rfl, rfl, rfl⟩⟩
  | some group =>
    have htail := spelling.trimStart_tail hgroup
    by_cases hclosing : group.closing ∈ group.content
    · -- the group is cut short, so its closing bracket is left for the default value
      obtain ⟨front, back, hcontent, hfront⟩ := List.eq_append_cons_of_mem hclosing
      have hdrop : dropDimensions? spelling.tail.trimStart =
          some (back ++ group.closing :: spelling.defaultText) := by
        rw [htail, hcontent, List.append_assoc, List.cons_append]
        exact group.dropDimensions?_eq hfront _
      have hdefault := spelling.readDefault?_ne_of_closing group (List.suffix_append back _)
      rw [hdrop, Option.getD_some]
      cases hread : readDefault? (Text.trimStart
          (back ++ group.closing :: spelling.defaultText)) with
      | none =>
        refine ⟨rfl, rfl, fun hpieces => ?_, fun hnone => absurd hclosing (hnone group rfl)⟩
        cases hpieces.2.1
      | some found =>
        refine ⟨rfl, rfl, fun hpieces => ?_, fun hnone => absurd hclosing (hnone group rfl)⟩
        exact absurd (hread.trans (congrArg some hpieces.2.2)) hdefault
    · have hdrop : dropDimensions? spelling.tail.trimStart = some spelling.defaultText := by
        rw [htail]
        exact group.dropDimensions?_eq hclosing _
      rw [hdrop, Option.getD_some, readDefault?_defaultText spelling]
      refine ⟨rfl, rfl, fun _ other hother => ?_, fun _ => ⟨rfl, rfl, rfl⟩⟩
      cases hother
      exact hclosing

example : parse? "cells.Cell[Len(x), (2)] = New Cell".toList =
    some { name := "cells", text := "cells.Cell[Len(x), (2)] = New Cell", array := true,
           typeMark := ⟨.object, some "cell", some "Cell"⟩, default := some "New Cell" } := by
  decide +kernel

/-- The parenthesis that opens the group is closed by the last character, but the group holds a call
and is not read. -/
theorem parse?_spelling_nested :
    let spelling : Spelling :=
      ⟨⟨"map", by decide +kernel⟩, .none, some ⟨false, "Len(x), 2"⟩, none⟩
    spelling.text = "map(Len(x), 2)".toList ∧ Line.closingParen? spelling.text 3 = some 13 ∧
      (parse? spelling.text).map Part.array = some false := by
  decide +kernel

end Part

end BlitzLens
