import BlitzLens.Proofs.Extraction.Statement
import BlitzLens.Proofs.Symbol.Guard
import BlitzLens.Proofs.Text.AsciiLower
import BlitzLens.Symbol.Basic

/-!
# How names are introduced

A statement that gives one name to a symbol introduces it in a fixed way: a function, a loop and a
type by their keyword, a label by a dot, and an assigned variable at the start of the line
(`Statement.Gives.introduces`). The name stands in the code and is no number.
-/

namespace BlitzLens

/-! ## Names are no numbers -/

/-- The start of an identifier is ASCII. -/
theorem toNat_lt_of_isIdentifierStart {c : Char} (h : isIdentifierStart c = true) :
    c.toNat < 128 := by
  rw [isIdentifierStart, Bool.or_eq_true, beq_iff_eq] at h
  rcases h with rfl | halpha
  · decide
  · have hletter : (decide (c.val ≥ 'A'.val ∧ c.val ≤ 'Z'.val) ||
        (decide (c.val ≥ 'a'.val) && decide (c.val ≤ 'z'.val))) = true := halpha
    simp only [Bool.or_eq_true, Bool.and_eq_true, decide_eq_true_eq, UInt32.le_iff_toNat_le]
      at hletter
    rcases hletter with ⟨-, hupper⟩ | ⟨-, hupper⟩ <;>
      exact Nat.lt_of_le_of_lt hupper (by decide)

/-- What counts as the start of an identifier when case is disregarded is neither a digit nor a
point. -/
theorem isDecimalDigit_of_isIdentifierStart_caseless {c : Char}
    (h : isIdentifierStart (caseless c) = true) :
    isDecimalDigit c = false ∧ (c == '.') = false := by
  by_cases hascii : c.toNat < 128
  · have hcodes : ∀ n < 128, isIdentifierStart (caseless (Char.ofNat n)) = true →
        isDecimalDigit (Char.ofNat n) = false ∧ (Char.ofNat n == '.') = false := by
      decide +kernel
    rw [← Char.ofNat_toNat c] at h ⊢
    exact hcodes c.toNat hascii h
  · rcases eq_of_caseless_isAscii (toNat_lt_of_isIdentifierStart h) hascii with
      rfl | rfl | rfl | rfl <;> decide +kernel

namespace Line

/-- What starts like an identifier is no number. -/
theorem isNumber_cons {c : Char} {rest : Text} (h : isIdentifierStart (caseless c) = true) :
    isNumber (c :: rest) = false := by
  obtain ⟨hdigit, hpoint⟩ := isDecimalDigit_of_isIdentifierStart_caseless h
  rw [isNumber, List.dropWhile_cons_of_neg (by simp [hdigit])]
  dsimp only
  rw [hpoint]
  rfl

/-- An identifier is no number. -/
theorem isNumber_of_looseIdentifier? {text name rest : Text}
    (h : Text.looseIdentifier? text = some (name, rest)) : isNumber name = false := by
  cases text with
  | nil => cases h
  | cons c text =>
    rw [Text.looseIdentifier?] at h
    split_ifs at h with hc
    cases h
    exact isNumber_cons hc

/-- A word that opens like an identifier is no number. -/
theorem isNumber_of_opensIdentifier {text : Text} (h : opensIdentifier text = true) :
    isNumber text = false := by
  cases text with
  | nil => cases h
  | cons c text =>
    have hc : isIdentifierStart c = true := h
    refine isNumber_cons ?_
    rwa [caseless_of_isAscii (toNat_lt_of_isIdentifierStart hc), isIdentifierStart_toLower]

/-- An identifier is no number. -/
theorem isNumber_of_identifier? {text name : Text} (h : text.identifier? = some name) :
    isNumber name = false := by
  cases text with
  | nil => cases h
  | cons c text =>
    rw [Text.identifier?] at h
    split_ifs at h with hc
    cases h
    exact isNumber_of_opensIdentifier hc

/-- What stands in front of the end of the code behind a text without quotes is code. -/
theorem isCode_of_no_quote {line : Text} {column : Nat} (hquote : '"' ∉ line.take column)
    (hcolumn : column < codeEnd line) : isCode line (column : Int) = true := by
  have hle := codeEnd_le line
  have hcomment : inComment line (column : Int) = false := by
    unfold inComment
    cases hstart : commentStart? line with
    | none => rfl
    | some semicolon =>
      rw [codeEnd, hstart, Option.getD_some] at hcolumn
      exact decide_eq_false (by omega)
  rw [isCode, inString, Text.upTo_natCast (by omega), List.count_eq_zero.2 hquote, hcomment]
  rfl

end Line

/-! ## Single names -/

/-- A statement gives a name, at a column, to a symbol of a kind. -/
inductive Statement.Gives : Statement → SymbolKind → Text → Nat → Prop
  | openLoop (name suffix : Text) (column : Nat) (closed : Bool) :
      Gives (.openLoop name suffix column closed) .var name column
  | assign (name sign : Text) (column : Nat) : Gives (.assign name sign column) .var name column
  | openFunction (name suffix : Text) (column : Nat) (parameters : Option (Text × Nat)) :
      Gives (.openFunction name suffix column parameters) .function name column
  | openType (name : Text) (column : Nat) : Gives (.openType name column) .type name column
  | label (name : Text) (column : Nat) : Gives (.label name column) .label name column

/-- The text in front of a name introduces a symbol of a kind. -/
def SymbolKind.IntroducedBy (before : Text) : SymbolKind → Prop
  | .var | .function => Guard.opensDeclaration before = true
  | .type => Guard.endsWithKeyword ["type"] before = true
  | .label => before.trimStart = ['.']

namespace Statement

open Line

variable {line name : Text} {kind : SymbolKind} {column : Nat}

/-- Neither a blank nor a word character is a quote. -/
theorem ne_quote {c : Char} (h : isBlank c = true ∨ isWordChar c = true) : c ≠ '"' := by
  rintro rfl
  revert h
  decide

/-- What stands in front of the rest of the code is the line up to the column of the rest. -/
theorem take_columnOf {before rest : Text} (h : code line = before ++ rest) :
    line.take (columnOf (code line) rest) = before := by
  have hline : code line ++ line.drop (codeEnd line) = line := List.take_append_drop _ _
  rw [h, List.append_assoc] at hline
  rw [h, columnOf_append, ← hline, List.take_left]

/-- The keyword stands in front of what follows it, between blanks. -/
theorem exists_take_of_afterKeyword? {keyword named : Text}
    (h : afterKeyword? keyword (code line) = some named) (hne : keyword ≠ [])
    (hletters : keyword.all isIdentifierStart = true) :
    ∃ lead word gap, line.take (columnOf (code line) named) = lead ++ (word ++ gap) ∧
      (∀ c ∈ lead, isBlank c = true) ∧ Text.IsWord word ∧ Text.spells word keyword = true ∧
      gap ≠ [] ∧ ∀ c ∈ gap, isBlank c = true := by
  obtain ⟨word, gap, htrim, hspells, hgap, hblank⟩ := afterKeyword?_eq_some h
  have hword := Text.IsWord.of_spells hspells hne hletters
  have hcode : code line = ((code line).takeWhile isBlank ++ (word ++ gap)) ++ named := by
    calc code line
      _ = (code line).takeWhile isBlank ++ (code line).trimStart :=
        (Text.blanks_append_trimStart _).symm
      _ = _ := by rw [htrim, List.append_assoc, List.append_assoc]
  exact ⟨_, word, gap, take_columnOf hcode, fun c hc => List.mem_takeWhile_imp hc, hword, hspells,
    hgap, hblank⟩

/-- What follows a keyword stands behind a text that ends with it and has no quote. -/
theorem take_of_afterKeyword? {keyword named : Text} {keywords : List Text}
    (h : afterKeyword? keyword (code line) = some named) (hmem : keyword ∈ keywords)
    (hne : keyword ≠ []) (hletters : keyword.all isIdentifierStart = true) :
    Guard.endsWithKeyword keywords (line.take (columnOf (code line) named)) = true ∧
      '"' ∉ line.take (columnOf (code line) named) := by
  obtain ⟨lead, word, gap, htake, hlead, hword, hspells, hgap, hblank⟩ :=
    exists_take_of_afterKeyword? h hne hletters
  rw [htake]
  refine ⟨Guard.endsWithKeyword_of_spells (Text.endsWord_of_isBlank hlead) hword hspells hgap
    hblank hmem, fun hquote => ?_⟩
  rcases List.mem_append.1 hquote with hmem | hmem
  · exact ne_quote (.inl (hlead _ hmem)) rfl
  rcases List.mem_append.1 hmem with hmem | hmem
  · exact ne_quote (.inr (hword.all_word _ hmem)) rfl
  · exact ne_quote (.inl (hblank _ hmem)) rfl

/-- Only the reader of fields declares fields. -/
theorem afterKeyword?_of_read {list : Text} (h : read line = .declareFields list column) :
    afterKeyword? "field" (code line) = some list ∧ column = columnOf (code line) list := by
  rcases read_mem_readings line with hother | hmem
  · rw [h] at hother
    cases hother
  rw [h] at hmem
  simp only [readings, List.mem_cons, List.not_mem_nil, or_false] at hmem
  rcases hmem with hread | hread | hread | hread | hread | hread | hread | hread | hread | hread |
    hread | hread
  · obtain ⟨_, hne⟩ := of_readInclude? hread.symm
    cases hne
  · obtain ⟨_, -, _, -, hne⟩ := of_readDeclaration? hread.symm
    cases hne
  · obtain ⟨_, _, _, _, -, -, hne⟩ := of_readLoop? hread.symm
    cases hne
  · cases of_readLoopEnd? hread.symm
  · obtain ⟨_, _, -, -, hne⟩ := of_readAssignment? hread.symm
    cases hne
  · obtain ⟨_, hne | hne | hne⟩ := of_readDocument? hread.symm <;> cases hne
  · cases of_readFunctionEnd? hread.symm
  · obtain ⟨_, _, _, -, -, hne⟩ := of_readFunction? hread.symm
    cases hne
  · cases of_readTypeEnd? hread.symm
  · obtain ⟨_, _, _, -, -, hne⟩ := of_readType? hread.symm
    cases hne
  · obtain ⟨found, hfound, heq⟩ := of_readFields? hread.symm
    cases heq
    exact ⟨hfound, rfl⟩
  · obtain ⟨_, _, -, -, hne⟩ := of_readLabel? hread.symm
    cases hne

/-- The names in a list of fields stand behind the word that declares fields. -/
theorem declaresField_of_read {list : Text} {start : Nat}
    (h : read line = .declareFields list column) (hle : column ≤ start)
    (hline : '\n' ∉ line.take start) : Guard.declaresField (line.take start) = true := by
  obtain ⟨hfield, rfl⟩ := afterKeyword?_of_read h
  obtain ⟨lead, word, gap, htake, hlead, hword, hspells, hgap, hblank⟩ :=
    exists_take_of_afterKeyword? hfield (by decide) (by decide)
  obtain ⟨more, rfl⟩ := Nat.exists_eq_add_of_le hle
  rw [List.take_add, htake, List.append_assoc, List.append_assoc] at hline ⊢
  refine Guard.declaresField_append (Text.endsWord_of_isBlank hlead) hword hspells ?_ hline
  rw [Text.startsWord_append hgap]
  exact Text.startsWord_of_isBlank hblank

/-- A name that a statement gives stands in the code. -/
theorem Gives.nameAt (h : (read line).Gives kind name column) : NameAt line column name := by
  have hplaced := wellPlaced_read line
  generalize read line = statement at h hplaced
  cases h with
  | openLoop => exact hplaced.1
  | assign => exact hplaced.1
  | openFunction => exact hplaced.1
  | openType => exact hplaced
  | label => exact hplaced

/-- A name that a statement gives is introduced by the text before it, in which there is no quote,
and it is no number. -/
theorem Gives.introduces (h : (read line).Gives kind name column) :
    kind.IntroducedBy (line.take column) ∧ '"' ∉ line.take column ∧ isNumber name = false := by
  have hlead : ∀ c ∈ (code line).takeWhile isBlank, isBlank c = true := fun c hc =>
    List.mem_takeWhile_imp hc
  rcases read_mem_readings line with hother | hmem
  · rw [hother] at h
    cases h
  -- one case for each reader, in the order in which they are tried
  generalize read line = statement at h hmem
  simp only [readings, List.mem_cons, List.not_mem_nil, or_false] at hmem
  rcases hmem with hread | hread | hread | hread | hread | hread | hread | hread | hread | hread |
    hread | hread
  · obtain ⟨target, rfl⟩ := of_readInclude? hread.symm
    cases h
  · obtain ⟨keyword, -, list, -, rfl⟩ := of_readDeclaration? hread.symm
    cases h
  · obtain ⟨named, name, behind, closed, hnamed, hname, rfl⟩ := of_readLoop? hread.symm
    cases h
    obtain ⟨hkeyword, hquote⟩ := take_of_afterKeyword? hnamed
      (by decide : _ ∈ Guard.declaringKeywords) (by decide) (by decide)
    exact ⟨Guard.opensDeclaration_of_keyword hkeyword, hquote, isNumber_of_looseIdentifier? hname⟩
  · rw [of_readLoopEnd? hread.symm] at h
    cases h
  · obtain ⟨name, sign, hname, -, rfl⟩ := of_readAssignment? hread.symm
    cases h
    have hcode := (Text.blanks_append_trimStart (code line)).symm
    rw [take_columnOf hcode]
    refine ⟨Guard.opensDeclaration_of_blank ?_, fun hquote => ?_, isNumber_of_identifier? hname⟩
    · exact List.all_eq_true.2 hlead
    · exact ne_quote (.inl (hlead _ hquote)) rfl
  · obtain ⟨text, rfl | rfl | rfl⟩ := of_readDocument? hread.symm <;> cases h
  · rw [of_readFunctionEnd? hread.symm] at h
    cases h
  · obtain ⟨named, name, behind, hnamed, hname, rfl⟩ := of_readFunction? hread.symm
    cases h
    obtain ⟨hkeyword, hquote⟩ := take_of_afterKeyword? hnamed
      (by decide : _ ∈ Guard.declaringKeywords) (by decide) (by decide)
    exact ⟨Guard.opensDeclaration_of_keyword hkeyword, hquote, isNumber_of_looseIdentifier? hname⟩
  · rw [of_readTypeEnd? hread.symm] at h
    cases h
  · obtain ⟨named, name, behind, hnamed, hname, rfl⟩ := of_readType? hread.symm
    cases h
    obtain ⟨hkeyword, hquote⟩ := take_of_afterKeyword? hnamed (List.mem_singleton_self _)
      (by decide) (by decide)
    exact ⟨hkeyword, hquote, isNumber_of_looseIdentifier? hname⟩
  · obtain ⟨list, -, rfl⟩ := of_readFields? hread.symm
    cases h
  · obtain ⟨rest, name, htrim, hname, rfl⟩ := of_readLabel? hread.symm
    cases h
    have hcode := (Text.blanks_append_trimStart (code line)).symm
    rw [htrim, ← List.singleton_append, ← List.append_assoc] at hcode
    rw [take_columnOf hcode]
    refine ⟨?_, fun hquote => ?_, isNumber_of_identifier? hname⟩
    · exact (List.dropWhile_append_of_pos hlead).trans (List.dropWhile_cons_of_neg (by decide))
    · rcases List.mem_append.1 hquote with hmem | hmem
      · exact ne_quote (.inl (hlead _ hmem)) rfl
      · revert hmem
        decide

end Statement

end BlitzLens
