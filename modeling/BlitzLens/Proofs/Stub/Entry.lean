import BlitzLens.Proofs.Extraction.Comments
import BlitzLens.Stub.Reader

/-!
# What a line says in a stub file and in a source

Stub files and sources are read by different readers, which agree on documentation and on the names
of functions: in a stub file a line says what its statement says (`Stub.Entry.ofLine_eq_iff`). The
only lines on which they disagree are those of two semicolons with nothing but blanks behind, of
which the first is no space: they are empty lines of a description in a stub file and say nothing in
a source.

A stub file is read with its comments. A keyword and a name are found in a line as they are in its
code, for neither goes on into a comment (`Statement.functionName?_code`).

## Main definitions

* `Statement.functionName?`: the name of the function that a text declares.
* `Statement.entry`: what a statement says in a stub file.
* `Text.isBareDoc`: two semicolons with nothing behind, not even a space.

## Main results

* `Statement.functionName?_eq_some_iff`: only lines that declare a function open one, and no other
  reader takes them.
* `Stub.Entry.ofLine_eq_iff`: the lines that say the same to both readers.
-/

namespace BlitzLens

/-! ## Texts with a comment behind -/

namespace Text

section Comment

variable {text tail keyword : Text} (htail : tail.head? = none ∨ tail.head? = some ';')

include htail

/-- A comment is not blank at its start. -/
theorem dropWhile_isBlank_comment : tail.dropWhile isBlank = tail := by
  cases tail with
  | nil => rfl
  | cons c tail =>
    have hc : c = ';' := by simpa using htail
    exact List.dropWhile_cons_of_neg (by rw [hc]; decide)

/-- Leading blanks end in front of a comment. -/
theorem trimStart_append_comment : trimStart (text ++ tail) = text.trimStart ++ tail := by
  rw [trimStart, List.dropWhile_append]
  split
  · next hblank =>
    rw [dropWhile_isBlank_comment htail, trimStart, List.isEmpty_iff.1 hblank, List.nil_append]
  · rfl

/-- A keyword does not go on into a comment. -/
theorem dropKeyword?_append_comment (hkeyword : ';' ∉ keyword) :
    dropKeyword? keyword (text ++ tail) = (dropKeyword? keyword text).map (· ++ tail) := by
  cases h : dropKeyword? keyword text with
  | some rest =>
    obtain ⟨word, rfl, hspells⟩ := dropKeyword?_eq_some h
    rw [List.append_assoc, dropKeyword?_append hspells]
    rfl
  | none =>
    rw [Option.map_none, Option.eq_none_iff_forall_ne_some]
    intro rest hrest
    obtain ⟨word, hword, hspells⟩ := dropKeyword?_eq_some hrest
    rcases List.append_eq_append_iff.1 hword with ⟨more, rfl, rfl⟩ | ⟨behind, rfl, -⟩
    · cases more with
      | nil =>
        rw [List.append_nil] at hspells
        have hsome := dropKeyword?_append hspells []
        rw [List.append_nil, h] at hsome
        cases hsome
      | cons c more =>
        -- the keyword would hold the semicolon
        have hc : c = ';' := by simpa using htail
        have hmap : (text ++ c :: more).map caseless = keyword := by simpa [spells] using hspells
        refine hkeyword (hmap ▸ List.mem_map.2 ⟨';', ?_, by decide⟩)
        simp [hc]
    · rw [dropKeyword?_append hspells] at h
      cases h

/-- Blanks do not go on into a comment. -/
theorem dropBlanks?_append_comment :
    dropBlanks? (text ++ tail) = (dropBlanks? text).map (· ++ tail) := by
  cases text with
  | nil =>
    cases tail with
    | nil => rfl
    | cons c tail =>
      have hc : c = ';' := by simpa using htail
      subst hc
      rfl
  | cons c text =>
    have htrim := @trimStart_append_comment (c :: text) tail htail
    rw [List.cons_append] at htrim ⊢
    unfold dropBlanks?
    simp only [htrim]
    split <;> rfl

/-- A word does not go on into a comment. -/
theorem wordRun_append_comment : (text ++ tail).takeWhile isWordChar = text.takeWhile isWordChar ∧
    (text ++ tail).dropWhile isWordChar = text.dropWhile isWordChar ++ tail := by
  have htake : tail.takeWhile isWordChar = [] ∧ tail.dropWhile isWordChar = tail := by
    cases tail with
    | nil => exact ⟨rfl, rfl⟩
    | cons c tail =>
      have hc : c = ';' := by simpa using htail
      subst hc
      exact ⟨rfl, rfl⟩
  induction text with
  | nil => exact htake
  | cons c text ih =>
    rw [List.cons_append]
    by_cases hc : isWordChar c = true
    · rw [List.takeWhile_cons_of_pos hc, List.takeWhile_cons_of_pos hc,
        List.dropWhile_cons_of_pos hc, List.dropWhile_cons_of_pos hc, ih.1]
      exact ⟨rfl, ih.2⟩
    · rw [List.takeWhile_cons_of_neg hc, List.takeWhile_cons_of_neg hc,
        List.dropWhile_cons_of_neg hc, List.dropWhile_cons_of_neg hc]
      exact ⟨rfl, rfl⟩

/-- A name does not go on into a comment. -/
theorem looseIdentifier?_append_comment : looseIdentifier? (text ++ tail) =
    (looseIdentifier? text).map fun found => (found.1, found.2 ++ tail) := by
  cases text with
  | nil =>
    cases tail with
    | nil => rfl
    | cons c tail =>
      have hc : c = ';' := by simpa using htail
      subst hc
      rfl
  | cons c text =>
    obtain ⟨htake, hdrop⟩ := @wordRun_append_comment text tail htail
    rw [List.cons_append, looseIdentifier?, looseIdentifier?, htake, hdrop]
    split <;> rfl

end Comment

end Text

/-! ## The names of functions -/

namespace Statement

variable {line name : Text}

/-- The name of the function that a text declares. -/
def functionName? (text : Text) : Option Text := do
  let named ← afterKeyword? "function" text
  let (name, _) ← Text.looseIdentifier? named
  return name

/-- What follows a keyword goes on into a comment. -/
theorem afterKeyword?_append_comment {text tail keyword : Text}
    (htail : tail.head? = none ∨ tail.head? = some ';') (hkeyword : ';' ∉ keyword) :
    afterKeyword? keyword (text ++ tail) = (afterKeyword? keyword text).map (· ++ tail) := by
  unfold afterKeyword?
  rw [Text.trimStart_append_comment htail, Text.dropKeyword?_append_comment htail hkeyword]
  cases Text.dropKeyword? keyword text.trimStart with
  | none => rfl
  | some rest => exact Text.dropBlanks?_append_comment htail

/-- A comment does not matter to the name of a function. -/
theorem functionName?_code (line : Text) : functionName? (Line.code line) = functionName? line := by
  have htail := Line.head?_drop_codeEnd line
  have happend : functionName? (Line.code line ++ line.drop (Line.codeEnd line)) =
      functionName? (Line.code line) := by
    unfold functionName?
    rw [afterKeyword?_append_comment htail (by decide)]
    cases afterKeyword? "function" (Line.code line) with
    | none => rfl
    | some named =>
      simp only [Option.map_some, Option.bind_eq_bind, Option.bind_some,
        Text.looseIdentifier?_append_comment htail]
      cases Text.looseIdentifier? named <;> rfl
  rw [← happend, Line.code_append_drop]

/-- A text that starts with one keyword does not start with another one that is no longer and not
the start of the first. -/
theorem dropKeyword?_eq_none_of_spells {word rest keyword other : Text}
    (hspells : word.spells keyword = true) (hlength : other.length ≤ keyword.length)
    (hother : keyword.take other.length ≠ other) :
    Text.dropKeyword? other (word ++ rest) = none := by
  have hmap : word.map caseless = keyword := by simpa [Text.spells] using hspells
  have hword := Text.length_of_spells hspells
  rw [Text.dropKeyword?, List.take_append_of_le_length (by omega), List.map_take, hmap]
  exact if_neg (by rwa [beq_iff_eq])

/-- The name of a function stands behind the keyword. -/
theorem functionName?_eq_some {text : Text} (h : functionName? text = some name) :
    ∃ named behind, afterKeyword? "function" text = some named ∧
      Text.looseIdentifier? named = some (name, behind) := by
  obtain ⟨named, hnamed, hname⟩ := Option.bind_eq_some_iff.1 h
  obtain ⟨⟨name, behind⟩, hname, hsome⟩ := Option.bind_eq_some_iff.1 hname
  cases hsome
  exact ⟨named, behind, hnamed, hname⟩

/-- What declares a function assigns nothing. -/
theorem readAssignment?_of_functionName? {text : Text} (h : functionName? text = some name) :
    readAssignment? text = none := by
  obtain ⟨named, behind, hnamed, hname⟩ := functionName?_eq_some h
  obtain ⟨word, gap, htrim, hspells, hgap, hblank⟩ := afterKeyword?_eq_some hnamed
  obtain ⟨rfl, hisWord, -⟩ := Text.looseIdentifier?_eq_some hname
  have hword := Text.IsWord.of_spells hspells (by decide) (by decide)
  rw [Option.eq_none_iff_forall_ne_some]
  intro statement hread
  obtain ⟨assigned, hassigned, hread⟩ := Option.bind_eq_some_iff.1 hread
  extract_lets rest sign at hread
  -- only the keyword itself could be assigned
  have hkeyword : assigned = word := by
    obtain ⟨more, hmore, hisAssigned, hstarts⟩ := Text.identifier?_eq_some hassigned
    have hgapStarts : Text.startsWord (gap ++ (name ++ behind)) = false := by
      rw [Text.startsWord_append hgap]
      exact Text.startsWord_of_isBlank hblank
    exact hisAssigned.eq_of_append_eq hword hstarts hgapStarts (hmore.symm.trans htrim)
  -- but the name of the function follows it, and no sign
  obtain ⟨c, name, rfl⟩ := List.exists_cons_of_ne_nil hisWord.ne_nil
  have hc := hisWord.all_word c List.mem_cons_self
  have htrimmed (text : Text) : Text.trimStart (c :: text) = c :: text :=
    List.dropWhile_cons_of_neg (by simp [isBlank_of_isWordChar hc])
  have hrest : rest = c :: (name ++ behind) := by
    rw [show rest = Text.trimStart (text.trimStart.drop assigned.length) from rfl, htrim, hkeyword,
      List.drop_left, Text.trimStart, List.dropWhile_append_of_pos hblank]
    exact htrimmed _
  have hsign : sign = [] := by
    have hnone : ¬isTypeSign c = true := fun hsign => by
      rw [isWordChar_of_isTypeSign hsign] at hc
      cases hc
    rw [show sign = (rest.take 1).filter isTypeSign from rfl, hrest]
    exact List.filter_cons_of_neg hnone
  have hequals : c ≠ '=' := by
    rintro rfl
    revert hc
    decide
  rw [hsign, hrest, List.length_nil, List.drop_zero, htrimmed, List.head?_cons] at hread
  simp [hequals] at hread

/-- A line that declares a function opens it. -/
theorem read_of_functionName? (h : functionName? (Line.code line) = some name) :
    ∃ suffix column parameters, read line = .openFunction name suffix column parameters := by
  obtain ⟨named, behind, hnamed, hname⟩ := functionName?_eq_some h
  obtain ⟨word, gap, htrim, hspells, -⟩ := afterKeyword?_eq_some hnamed
  -- no other keyword starts the line
  have hnone {other : Text} (hlength : other.length ≤ "function".toList.length)
      (hother : "function".toList.take other.length ≠ other) :
      Text.dropKeyword? other (Line.code line).trimStart = none := by
    rw [htrim]
    exact dropKeyword?_eq_none_of_spells hspells hlength hother
  have hafter {other : Text} (hlength : other.length ≤ "function".toList.length)
      (hother : "function".toList.take other.length ≠ other) :
      afterKeyword? other (Line.code line) = none := by
    rw [afterKeyword?, hnone hlength hother]
    rfl
  have hcode : (Line.code line).isBlankText = false := Bool.eq_false_iff.2 fun hblank => by
    rw [afterKeyword?_eq_none_of_blank hblank] at hnamed
    cases hnamed
  have hinclude : readInclude? (Line.code line) = none := by
    rw [readInclude?, hafter (by decide) (by decide)]
    rfl
  have hdeclaration : readDeclaration? (Line.code line) = none := by
    simp only [readDeclaration?, declarators, List.findSome?_cons, readDeclaratorList?]
    rw [hafter (by decide) (by decide), hafter (by decide) (by decide),
      hafter (by decide) (by decide), hafter (by decide) (by decide)]
    rfl
  have hloop : readLoop? (Line.code line) = none := by
    rw [readLoop?, hafter (by decide) (by decide)]
    rfl
  have hloopEnd : readLoopEnd? (Line.code line) = none := by
    rw [readLoopEnd?, closesLoop, Text.dropWholeKeyword?, hnone (by decide) (by decide)]
    rfl
  have hfunctionEnd : readFunctionEnd? (Line.code line) = none := by
    rw [readFunctionEnd?, afterEnd?, hnone (by decide) (by decide)]
    rfl
  have hfunction : ∃ suffix column parameters, readFunction? (Line.code line) =
      some (.openFunction name suffix column parameters) := by
    unfold readFunction?
    rw [hnamed]
    simp only [Option.bind_eq_bind, Option.bind_some, hname]
    exact ⟨_, _, _, rfl⟩
  obtain ⟨suffix, column, parameters, hfunction⟩ := hfunction
  refine ⟨suffix, column, parameters, ?_⟩
  simp only [read, hinclude, hdeclaration, hloop, hloopEnd, readAssignment?_of_functionName? h,
    readDocument?_eq_none hcode, hfunctionEnd, hfunction]
  rfl

/-- A line opens the function that it declares, and no other. -/
theorem functionName?_eq_some_iff : functionName? line = some name ↔
    ∃ suffix column parameters, read line = .openFunction name suffix column parameters := by
  rw [← functionName?_code]
  refine ⟨read_of_functionName?, ?_⟩
  rintro ⟨suffix, column, parameters, hread⟩
  have hreader := fromReader_read line
  rw [hread] at hreader
  obtain ⟨named, name', behind, hnamed, hname, heq⟩ := of_readFunction? hreader
  cases heq
  rw [functionName?, hnamed]
  simp only [Option.bind_eq_bind, Option.bind_some, hname]
  rfl

end Statement

/-! ## Lines -/

/-- Whether a line is two semicolons with nothing but blanks behind, of which the first is no
space. -/
def Text.isBareDoc (line : Text) : Bool :=
  (Text.dropLead? ";;" line.trimStart).any fun text =>
    text.isBlankText && text.head? != some ' '

/-- A keyword is no blank. -/
theorem Text.dropKeyword?_eq_none_of_blank {text keyword : Text} (hblank : text.isBlankText = true)
    (hne : keyword ≠ []) (hletters : keyword.all isIdentifierStart = true) :
    Text.dropKeyword? keyword text = none := by
  rw [Option.eq_none_iff_forall_ne_some]
  intro rest hrest
  obtain ⟨word, rfl, hspells⟩ := Text.dropKeyword?_eq_some hrest
  have hword := Text.IsWord.of_spells hspells hne hletters
  have hstarts := hword.startsWord_append rest
  rw [Text.startsWord_of_isBlank (List.all_eq_true.1 hblank)] at hstarts
  cases hstarts

namespace Statement

variable {line : Text}

/-- What the statement of a line says in a stub file. -/
def entry (line : Text) : Statement → Stub.Entry
  | .documentParameter text => .parameter text
  | .documentExample text => .sample text
  | .document text => .description text
  | .openFunction name _ _ _ => .function name line.trim
  | _ => .other

/-- What neither documents nor opens a function says nothing in a stub file. -/
theorem entry_read_eq_other (hdocument : readDocument? line = none)
    (hname : functionName? line = none) : (read line).entry line = .other := by
  rcases read_mem_readings line with hother | hmem
  · rw [hother]
    rfl
  have hopens (name suffix : Text) (column : Nat) (parameters : Option (Text × Nat))
      (hread : read line = .openFunction name suffix column parameters) : False := by
    rw [functionName?_eq_some_iff.2 ⟨suffix, column, parameters, hread⟩] at hname
    cases hname
  -- one case for each reader, in the order in which they are tried
  generalize read line = statement at hmem hopens
  simp only [readings, hdocument, List.mem_cons, List.not_mem_nil, or_false] at hmem
  rcases hmem with hread | hread | hread | hread | hread | hread | hread | hread | hread | hread |
    hread | hread
  · obtain ⟨target, rfl⟩ := of_readInclude? hread.symm
    rfl
  · obtain ⟨keyword, -, list, -, rfl⟩ := of_readDeclaration? hread.symm
    rfl
  · obtain ⟨named, name, behind, closed, -, -, rfl⟩ := of_readLoop? hread.symm
    rfl
  · rw [of_readLoopEnd? hread.symm]
    rfl
  · obtain ⟨name, sign, -, -, rfl⟩ := of_readAssignment? hread.symm
    rfl
  · cases hread
  · rw [of_readFunctionEnd? hread.symm]
    rfl
  · obtain ⟨named, name, behind, -, -, rfl⟩ := of_readFunction? hread.symm
    exact (hopens _ _ _ _ rfl).elim
  · rw [of_readTypeEnd? hread.symm]
    rfl
  · obtain ⟨named, name, behind, -, -, rfl⟩ := of_readType? hread.symm
    rfl
  · obtain ⟨list, -, rfl⟩ := of_readFields? hread.symm
    rfl
  · obtain ⟨rest, name, -, -, rfl⟩ := of_readLabel? hread.symm
    rfl

end Statement

namespace Stub.Entry

variable {line text : Text}

/-- A stub file is read for the names of functions like a source. -/
theorem ofFunction?_eq (line : Text) :
    ofFunction? line = (Statement.functionName? line).map fun name => .function name line.trim := by
  unfold ofFunction? Statement.functionName? Statement.afterKeyword?
  cases Text.dropKeyword? "function" line.trimStart with
  | none => rfl
  | some rest =>
    simp only [Option.bind_eq_bind, Option.bind_some]
    cases Text.dropBlanks? rest with
    | none => rfl
    | some named =>
      simp only [Option.bind_some]
      cases Text.looseIdentifier? named <;> rfl

/-- What does not start with a space is a line of a description only if it is blank. -/
theorem plain_of_head?_ne (hspace : text.head? ≠ some ' ') :
    ofDoc?.plain text = (if text.isBlankText then some (.description []) else none) ∧
      Statement.readDocument?.plain text = none := by
  unfold ofDoc?.plain Statement.readDocument?.plain
  constructor <;> split
  · exact absurd rfl hspace
  · rfl
  · exact absurd rfl hspace
  · rfl

/-- Documentation that is not bare says in a stub file what it says in a source. -/
theorem ofDoc?_eq (hlead : Text.dropLead? ";;" line.trimStart = some text)
    (hbare : (text.isBlankText && text.head? != some ' ') = false) :
    ofDoc? text = (Statement.readDocument? line).map (Statement.entry line) := by
  have hplain : ofDoc?.plain text =
      (Statement.readDocument?.plain text).map (Statement.entry line) := by
    by_cases hspace : text.head? = some ' '
    · obtain ⟨doc, rfl⟩ := List.head?_eq_some_iff.1 hspace
      rfl
    · have hblank : text.isBlankText = false := by simpa [hspace] using hbare
      obtain ⟨hstub, hsource⟩ := plain_of_head?_ne hspace
      rw [hstub, hsource, hblank]
      rfl
  unfold ofDoc? Statement.readDocument?
  simp only [hlead, Option.bind_eq_bind, Option.bind_some]
  cases (Text.dropKeyword? "param" text).bind Text.dropBlanks? with
  | some doc => rfl
  | none =>
    cases Text.dropKeyword? "example" text with
    | none => exact hplain
    | some doc =>
      cases doc with
      | nil => rfl
      | cons c doc =>
        dsimp only
        split
        · rfl
        · exact hplain

/-- A bare line is an empty line of a description in a stub file, and nothing in a source. -/
theorem ofDoc?_of_bare (hlead : Text.dropLead? ";;" line.trimStart = some text)
    (hblank : text.isBlankText = true) (hspace : text.head? ≠ some ' ') :
    ofDoc? text = some (.description []) ∧ Statement.readDocument? line = none := by
  have hparam := Text.dropKeyword?_eq_none_of_blank hblank
    (by decide : "param".toList ≠ []) (by decide)
  have hexample := Text.dropKeyword?_eq_none_of_blank hblank
    (by decide : "example".toList ≠ []) (by decide)
  obtain ⟨hstub, hsource⟩ := plain_of_head?_ne hspace
  rw [if_pos hblank] at hstub
  constructor
  · simp only [ofDoc?, hparam, hexample, Option.bind_none, hstub]
  · simp only [Statement.readDocument?, hlead, hparam, hexample, Option.bind_eq_bind,
      Option.bind_some, Option.bind_none, hsource]

/-- In a stub file a line says what its statement says, unless it is bare documentation. -/
theorem ofLine_eq_iff :
    ofLine line = (Statement.read line).entry line ↔ line.isBareDoc = false := by
  unfold ofLine Text.isBareDoc
  rw [ofFunction?_eq]
  cases hlead : Text.dropLead? ";;" line.trimStart with
  | none =>
    refine iff_of_true ?_ rfl
    have hdocument : Statement.readDocument? line = none := by
      rw [Statement.readDocument?, hlead]
      rfl
    cases hname : Statement.functionName? line with
    | none => exact (Statement.entry_read_eq_other hdocument hname).symm
    | some name =>
      obtain ⟨suffix, column, parameters, hread⟩ := Statement.functionName?_eq_some_iff.1 hname
      rw [hread]
      rfl
  | some text =>
    have hcode := Statement.isBlankText_code_of_dropLead? hlead
    have hname : Statement.functionName? line = none := by
      rw [← Statement.functionName?_code, Statement.functionName?,
        Statement.afterKeyword?_eq_none_of_blank hcode]
      rfl
    rw [hname, Statement.read_of_blank_code hcode, Option.bind_some, Option.any_some]
    cases hbare : (text.isBlankText && text.head? != some ' ') with
    | true =>
      simp only [Bool.and_eq_true, bne_iff_ne] at hbare
      obtain ⟨hstub, hsource⟩ := ofDoc?_of_bare hlead hbare.1 hbare.2
      rw [hstub, hsource]
      exact iff_of_false nofun nofun
    | false =>
      refine iff_of_true ?_ rfl
      rw [ofDoc?_eq hlead hbare]
      cases Statement.readDocument? line <;> rfl

end Stub.Entry

end BlitzLens
