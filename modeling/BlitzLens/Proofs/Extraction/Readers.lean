import BlitzLens.Extraction.Statement
import Mathlib.Data.List.TakeWhile
import Mathlib.Tactic.SplitIfs

/-!
# The readers of statements

What a line says is what the first of a list of readers makes of it (`Statement.read_mem_readings`).
Every reader has a lemma here that says which statements it makes, and from which parts of the line:
what follows a keyword (`Statement.afterKeyword?_eq_some`), and the name that stands there.
-/

namespace BlitzLens

/-! ## Texts that begin with a keyword -/

namespace Text

/-- Leading blanks and what follows them make up a text. -/
theorem blanks_append_trimStart (text : Text) :
    text.takeWhile isBlank ++ text.trimStart = text :=
  List.takeWhile_append_dropWhile

/-- A keyword at the start of a text is a word that spells it. -/
theorem dropKeyword?_eq_some {keyword text rest : Text}
    (h : dropKeyword? keyword text = some rest) :
    ∃ word, text = word ++ rest ∧ word.spells keyword = true := by
  unfold dropKeyword? at h
  split at h
  · next hspells =>
    cases h
    exact ⟨text.take keyword.length, (List.take_append_drop _ _).symm, hspells⟩
  · cases h

/-- A word is as long as the keyword that it spells. -/
theorem length_of_spells {word keyword : Text} (h : word.spells keyword = true) :
    word.length = keyword.length := by
  have hmap : word.map caseless = keyword := by simpa [spells] using h
  rw [← hmap, List.length_map]

/-- A word that spells a keyword is found at the start of a text. -/
theorem dropKeyword?_append {keyword word : Text} (h : word.spells keyword = true)
    (rest : Text) : dropKeyword? keyword (word ++ rest) = some rest := by
  have hlength := length_of_spells h
  have htake : (word ++ rest).take keyword.length = word := by
    rw [← hlength, List.take_left]
  have hdrop : (word ++ rest).drop keyword.length = rest := by
    rw [← hlength, List.drop_left]
  rw [dropKeyword?, htake, hdrop]
  exact if_pos h

/-- Blanks are dropped if the text starts with one. -/
theorem dropBlanks?_eq_some {text rest : Text} (h : dropBlanks? text = some rest) :
    ∃ gap, text = gap ++ rest ∧ gap ≠ [] ∧ (∀ c ∈ gap, isBlank c = true) := by
  unfold dropBlanks? at h
  split at h
  · cases h
  · next c text =>
    split at h
    · next hc =>
      cases h
      refine ⟨(c :: text).takeWhile isBlank, (blanks_append_trimStart _).symm, ?_, fun d hd => ?_⟩
      · rw [List.takeWhile_cons_of_pos hc]
        exact List.cons_ne_nil _ _
      · exact List.mem_takeWhile_imp hd
    · cases h

end Text

namespace Statement

variable {keyword line rest word : Text}

/-- What follows a keyword is preceded by a word that spells it and by blanks. -/
theorem afterKeyword?_eq_some (h : afterKeyword? keyword line = some rest) :
    ∃ word gap, line.trimStart = word ++ (gap ++ rest) ∧ word.spells keyword = true ∧ gap ≠ [] ∧
      (∀ c ∈ gap, isBlank c = true) := by
  obtain ⟨behind, hkeyword, hblanks⟩ := Option.bind_eq_some_iff.1 h
  obtain ⟨word, hword, hspells⟩ := Text.dropKeyword?_eq_some hkeyword
  obtain ⟨gap, rfl, hgap⟩ := Text.dropBlanks?_eq_some hblanks
  exact ⟨word, gap, hword, hspells, hgap⟩

/-- A keyword in front of a blank is found. -/
theorem afterKeyword?_of_spells {b : Char} (hline : line.trimStart = word ++ b :: rest)
    (hspells : word.spells keyword = true) (hb : isBlank b = true) :
    afterKeyword? keyword line = some (Text.trimStart (b :: rest)) := by
  rw [afterKeyword?, hline, Text.dropKeyword?_append hspells]
  exact if_pos hb

/-- The first letter of the code counts as the first letter of the keyword that is found there. -/
theorem head?_of_afterKeyword? (h : afterKeyword? keyword line = some rest) (hne : keyword ≠ []) :
    line.trimStart.head?.map caseless = keyword.head? := by
  obtain ⟨word, gap, hline, hspells, -, -⟩ := afterKeyword?_eq_some h
  have hmap : word.map caseless = keyword := by simpa [Text.spells] using hspells
  -- the keyword is not empty, so neither is the word that spells it
  cases word with
  | nil => exact absurd hmap.symm hne
  | cons c word => rw [hline, ← hmap]; rfl

end Statement

/-! ## What the readers make of a line -/

namespace Statement

/-- What each of the readers makes of a line, in the order in which they are tried. -/
def readings (line : Text) : List (Option Statement) :=
  let code := Line.code line
  [readInclude? code, readDeclaration? code, readLoop? code, readLoopEnd? code,
    readAssignment? code, readDocument? line, readFunctionEnd? code, readFunction? code,
    readTypeEnd? code, readType? code, readFields? code, readLabel? code]

/-- The first reader that makes something of a line decides. -/
theorem read_eq_findSome? (line : Text) :
    read line = ((readings line).findSome? id).getD .other := by
  rw [read]
  simp only [readings, List.findSome?_cons, List.findSome?_nil, id_eq]
  congr 1
  repeat' split <;> simp_all

/-- What a line says is what one of the readers makes of it. -/
theorem read_mem_readings (line : Text) :
    read line = .other ∨ some (read line) ∈ readings line := by
  rw [read_eq_findSome?]
  cases h : (readings line).findSome? id with
  | none => exact .inl rfl
  | some statement =>
    obtain ⟨reading, hmem, hreading⟩ := List.exists_of_findSome?_eq_some h
    have heq : reading = some statement := hreading
    exact .inr (heq ▸ hmem)

/-! ## What each reader makes -/

section Readers

variable {code line : Text} {statement : Statement}

/-- The reader of includes makes includes. -/
theorem of_readInclude? (h : readInclude? code = some statement) :
    ∃ target, statement = .includeFile target := by
  obtain ⟨rest, -, hrest⟩ := Option.bind_eq_some_iff.1 h
  split at hrest
  · split at hrest
    · exact ⟨_, (Option.some.inj hrest).symm⟩
    · cases hrest
  · cases hrest

/-- The reader of declarations makes declarations of what follows a declaring keyword. -/
theorem of_readDeclaration? (h : readDeclaration? code = some statement) :
    ∃ name ∈ declarators, ∃ list, afterKeyword? name code = some list ∧
      statement = .declare (code.trimStart.take name.length) list (columnOf code list) := by
  obtain ⟨name, hname, hread⟩ := List.exists_of_findSome?_eq_some h
  obtain ⟨list, hlist, hstatement⟩ := Option.bind_eq_some_iff.1 hread
  exact ⟨name, hname, list, hlist, (Option.some.inj hstatement).symm⟩

/-- The reader of loops makes a loop of the name that follows the keyword. -/
theorem of_readLoop? (h : readLoop? code = some statement) :
    ∃ named name behind closed, afterKeyword? "for" code = some named ∧
      Text.looseIdentifier? named = some (name, behind) ∧
      statement = .openLoop name (takeLooseSuffix behind.trimStart).1 (columnOf code named)
        closed := by
  obtain ⟨named, hnamed, h⟩ := Option.bind_eq_some_iff.1 h
  obtain ⟨⟨name, behind⟩, hname, h⟩ := Option.bind_eq_some_iff.1 h
  change (if _ then none else some (openLoop name (takeLooseSuffix behind.trimStart).1 _ _)) =
    some statement at h
  split_ifs at h
  exact ⟨named, name, behind, _, hnamed, hname, (Option.some.inj h).symm⟩

/-- The reader of loop ends makes loop ends. -/
theorem of_readLoopEnd? (h : readLoopEnd? code = some statement) : statement = .closeLoop := by
  unfold readLoopEnd? at h
  split at h
  · exact (Option.some.inj h).symm
  · cases h

/-- The reader of assignments makes an assignment of the name that the code starts with. -/
theorem of_readAssignment? (h : readAssignment? code = some statement) :
    ∃ name sign, code.trimStart.identifier? = some name ∧ (∀ c ∈ sign, isTypeSign c = true) ∧
      statement = .assign name sign (columnOf code code.trimStart) := by
  obtain ⟨name, hname, h⟩ := Option.bind_eq_some_iff.1 h
  extract_lets rest sign at h
  split_ifs at h
  exact ⟨name, sign, hname, fun c hc => (List.mem_filter.1 hc).2, (Option.some.inj h).symm⟩

/-- The reader of documentation makes documentation. -/
theorem of_readDocument? (h : readDocument? line = some statement) :
    ∃ text, statement = .documentParameter text ∨ statement = .documentExample text ∨
      statement = .document text := by
  have hplain {text : Text} (h : readDocument?.plain text = some statement) :
      ∃ text, statement = .document text := by
    unfold readDocument?.plain at h
    split at h
    · exact ⟨_, (Option.some.inj h).symm⟩
    · cases h
  obtain ⟨text, -, h⟩ := Option.bind_eq_some_iff.1 h
  split at h
  · exact ⟨_, .inl (Option.some.inj h).symm⟩
  split at h
  · exact ⟨_, .inr (.inl (Option.some.inj h).symm)⟩
  · split at h
    · exact ⟨_, .inr (.inl (Option.some.inj h).symm)⟩
    · obtain ⟨text, htext⟩ := hplain h
      exact ⟨text, .inr (.inr htext)⟩
  · obtain ⟨text, htext⟩ := hplain h
    exact ⟨text, .inr (.inr htext)⟩

/-- The reader of function ends makes function ends. -/
theorem of_readFunctionEnd? (h : readFunctionEnd? code = some statement) :
    statement = .closeFunction := by
  obtain ⟨-, -, h⟩ := Option.bind_eq_some_iff.1 h
  exact (Option.some.inj h).symm

/-- The reader of functions makes a function of the name that follows the keyword, and of the
parameters behind its suffix. -/
theorem of_readFunction? (h : readFunction? code = some statement) :
    ∃ named name behind, afterKeyword? "function" code = some named ∧
      Text.looseIdentifier? named = some (name, behind) ∧
      statement = .openFunction name (takeLooseSuffix behind.trimStart).1 (columnOf code named)
        (parameterList? code (columnOf code (takeLooseSuffix behind.trimStart).2)) := by
  obtain ⟨named, hnamed, h⟩ := Option.bind_eq_some_iff.1 h
  obtain ⟨⟨name, behind⟩, hname, h⟩ := Option.bind_eq_some_iff.1 h
  exact ⟨named, name, behind, hnamed, hname, (Option.some.inj h).symm⟩

/-- The reader of type ends makes type ends. -/
theorem of_readTypeEnd? (h : readTypeEnd? code = some statement) : statement = .closeType := by
  obtain ⟨-, -, h⟩ := Option.bind_eq_some_iff.1 h
  exact (Option.some.inj h).symm

/-- The reader of types makes a type of the name that follows the keyword. -/
theorem of_readType? (h : readType? code = some statement) :
    ∃ named name behind, afterKeyword? "type" code = some named ∧
      Text.looseIdentifier? named = some (name, behind) ∧
      statement = .openType name (columnOf code named) := by
  obtain ⟨named, hnamed, h⟩ := Option.bind_eq_some_iff.1 h
  obtain ⟨⟨name, behind⟩, hname, h⟩ := Option.bind_eq_some_iff.1 h
  exact ⟨named, name, behind, hnamed, hname, (Option.some.inj h).symm⟩

/-- The reader of fields makes fields of what follows the keyword. -/
theorem of_readFields? (h : readFields? code = some statement) :
    ∃ list, afterKeyword? "field" code = some list ∧
      statement = .declareFields list (columnOf code list) := by
  obtain ⟨list, hlist, h⟩ := Option.bind_eq_some_iff.1 h
  exact ⟨list, hlist, (Option.some.inj h).symm⟩

/-- The reader of labels makes a label of the name behind the dot that the code starts with. -/
theorem of_readLabel? (h : readLabel? code = some statement) :
    ∃ rest name, code.trimStart = '.' :: rest ∧ Text.identifier? rest = some name ∧
      statement = .label name (columnOf code rest) := by
  unfold readLabel? at h
  split at h
  · next rest hrest =>
    obtain ⟨name, hname, h⟩ := Option.map_eq_some_iff.1 h
    exact ⟨rest, name, hrest, hname, h.symm⟩
  · cases h

end Readers

/-- Declarations and functions are what their own readers make of the code of a line. -/
def FromReader (line : Text) : Statement → Prop
  | .declare keyword list column =>
    readDeclaration? (Line.code line) = some (.declare keyword list column)
  | .openFunction name suffix column parameters =>
    readFunction? (Line.code line) = some (.openFunction name suffix column parameters)
  | _ => True

/-- No reader but their own makes declarations and functions. -/
theorem fromReader_read (line : Text) : (read line).FromReader line := by
  rcases read_mem_readings line with hother | hmem
  · rw [hother]
    trivial
  -- one case for each reader, in the order in which they are tried
  generalize read line = statement at hmem
  simp only [readings, List.mem_cons, List.not_mem_nil, or_false] at hmem
  rcases hmem with hread | hread | hread | hread | hread | hread | hread | hread | hread | hread |
    hread | hread
  · obtain ⟨target, rfl⟩ := of_readInclude? hread.symm
    trivial
  · obtain ⟨keyword, -, list, -, rfl⟩ := of_readDeclaration? hread.symm
    exact hread.symm
  · obtain ⟨named, name, behind, closed, -, -, rfl⟩ := of_readLoop? hread.symm
    trivial
  · rw [of_readLoopEnd? hread.symm]
    trivial
  · obtain ⟨name, sign, -, -, rfl⟩ := of_readAssignment? hread.symm
    trivial
  · obtain ⟨text, rfl | rfl | rfl⟩ := of_readDocument? hread.symm <;> trivial
  · rw [of_readFunctionEnd? hread.symm]
    trivial
  · obtain ⟨named, name, behind, -, -, rfl⟩ := of_readFunction? hread.symm
    exact hread.symm
  · rw [of_readTypeEnd? hread.symm]
    trivial
  · obtain ⟨named, name, behind, -, -, rfl⟩ := of_readType? hread.symm
    trivial
  · obtain ⟨list, -, rfl⟩ := of_readFields? hread.symm
    trivial
  · obtain ⟨rest, name, -, -, rfl⟩ := of_readLabel? hread.symm
    trivial

end Statement

end BlitzLens
