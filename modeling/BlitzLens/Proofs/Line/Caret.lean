import BlitzLens.Proofs.Extraction.Statement
import Mathlib.Data.List.DropRight

/-!
# The word under a caret

A caret on a word character stands on a word of its line (`Line.exists_caretOn`), and that is the
word found there (`Line.CaretOn.wordAt?_eq`). No quote and no semicolon is part of a word, so the
caret is in the code exactly if the start of the word is (`Line.CaretOn.isCode_eq`). The words of
the code are words that a caret can stand on (`Line.exists_nameAt_of_mem_codeWords`).
-/

namespace BlitzLens

/-- The word that a text makes at a column. -/
def Word.ofText (start : Nat) (text : Text) : Word :=
  ⟨start, start + text.length, text⟩

namespace Word

@[simp]
theorem ofText_start (start : Nat) (text : Text) : (ofText start text).start = start := rfl

@[simp]
theorem ofText_text (start : Nat) (text : Text) : (ofText start text).text = text := rfl

@[simp]
theorem ofText_stop (start : Nat) (text : Text) :
    (ofText start text).stop = ((start + text.length : Nat) : Int) := rfl

end Word

namespace Line

variable {line text : Text} {column start : Nat}

/-- A caret at a column stands on a character of the word that starts at `start`. -/
structure CaretOn (line : Text) (column start : Nat) (text : Text) : Prop extends
    StandsAt line start text where
  /-- The piece is a word. -/
  isWord : Text.IsWord text
  /-- The word does not start behind the caret. -/
  start_le : start ≤ column
  /-- The word goes on behind the caret. -/
  lt_stop : column < start + text.length

/-- A caret inside a word or at one of its ends touches the word. -/
theorem StandsAt.wordTouching?_eq (h : StandsAt line start text) (hword : Text.IsWord text)
    (hstart : start ≤ column) (hstop : column ≤ start + text.length) :
    wordTouching? line column = some (.ofText start text) := by
  obtain ⟨before, after, rfl, rfl, hbefore, hafter⟩ := h.exists_append
  -- the caret cuts the word in two
  obtain ⟨cut, rfl⟩ := Nat.exists_eq_add_of_le hstart
  have hcut : cut ≤ text.length := by omega
  have hleft : Text.takeEndWhile isWordChar
      ((before ++ (text ++ after)).take (before.length + cut)) = text.take cut := by
    rw [List.take_length_add_append, List.take_append_of_le_length hcut]
    exact Text.takeEndWhile_append hbefore fun c hc => hword.all_word c (List.mem_of_mem_take hc)
  have hright : Text.wordRun ((before ++ (text ++ after)).drop (before.length + cut)) =
      text.drop cut := by
    rw [List.drop_length_add_append, List.drop_append_of_le_length hcut]
    exact Text.wordRun_append (fun c hc => hword.all_word c (List.mem_of_mem_drop hc)) hafter
  have hne : ¬((text.take cut).isEmpty && (text.drop cut).isEmpty) = true := by
    rw [Bool.and_eq_true, List.isEmpty_iff, List.isEmpty_iff]
    intro ⟨hnone, hnone'⟩
    refine hword.ne_nil ?_
    rw [← List.take_append_drop cut text, hnone, hnone', List.append_nil]
  rw [wordTouching?, hleft, hright, if_neg hne, List.take_append_drop, Nat.min_eq_left (by
    simp only [List.length_append]
    omega)]
  simp only [Word.ofText, List.length_take, List.length_drop, Option.some.injEq, Word.mk.injEq,
    and_true]
  omega

/-- A caret inside a word or at one of its ends is in a string exactly if the start of the word
is. -/
theorem StandsAt.inString_eq (h : StandsAt line start text) (hword : Text.IsWord text)
    (hstart : start ≤ column) (hstop : column ≤ start + text.length) :
    inString line (column : Int) = inString line (start : Int) := by
  have hinside := h.inside
  obtain ⟨before, after, rfl, rfl, -, -⟩ := h.exists_append
  obtain ⟨cut, rfl⟩ := Nat.exists_eq_add_of_le hstart
  have hcut : cut ≤ text.length := by omega
  -- the part of the word in front of the caret has no quote
  have hquote : (text.take cut).count '"' = 0 := by
    refine List.count_eq_zero.2 fun hmem => ?_
    have hchar := hword.all_word _ (List.mem_of_mem_take hmem)
    revert hchar
    decide
  rw [inString, inString, Text.upTo_natCast (by omega), Text.upTo_natCast (by omega),
    List.take_length_add_append,
    List.take_append_of_le_length hcut, List.count_append, hquote, List.take_left, Nat.add_zero]

namespace CaretOn

/-- The caret stands on a word character. -/
theorem startsWord_drop (h : CaretOn line column start text) :
    Text.startsWord (line.drop column) = true := by
  obtain ⟨before, after, rfl, rfl, -, -⟩ := h.exists_append
  obtain ⟨cut, rfl⟩ := Nat.exists_eq_add_of_le h.start_le
  have hcut : cut < text.length := by
    have := h.lt_stop
    omega
  rw [List.drop_length_add_append, List.drop_append_of_le_length (Nat.le_of_lt hcut),
    List.drop_eq_getElem_cons hcut, List.cons_append, Text.startsWord_cons]
  exact h.isWord.all_word _ (List.getElem_mem hcut)

/-- The caret is on the line. -/
theorem lt_length (h : CaretOn line column start text) : column < line.length :=
  Nat.lt_of_lt_of_le h.lt_stop h.inside

/-- The character under the caret is a word character. -/
theorem wordCharAt_eq (h : CaretOn line column start text) :
    wordCharAt line (column : Int) = .ok true := by
  rw [wordCharAt_natCast h.lt_length, h.startsWord_drop]

/-- The word under the caret is found. -/
theorem wordAt?_eq (h : CaretOn line column start text) :
    wordAt? line (column : Int) = .ok (some (.ofText start text)) := by
  have hline : ¬line.isEmpty = true := by
    rw [List.isEmpty_iff, ← List.length_eq_zero_iff]
    have := h.lt_length
    omega
  rw [wordAt?.eq_def, if_neg hline]
  exact congrArg Except.ok
    (h.toStandsAt.wordTouching?_eq h.isWord h.start_le (Nat.le_of_lt h.lt_stop))

/-- A caret is in a string exactly if the start of its word is. -/
theorem inString_eq (h : CaretOn line column start text) :
    inString line (column : Int) = inString line (start : Int) :=
  h.toStandsAt.inString_eq h.isWord h.start_le (Nat.le_of_lt h.lt_stop)

/-- The comment does not start under the caret: no semicolon is part of a word. -/
theorem commentStart?_ne (h : CaretOn line column start text) :
    commentStart? line ≠ some column := by
  intro hcomment
  have hword := h.startsWord_drop
  rw [Text.startsWord, head?_drop_semicolonFrom? hcomment] at hword
  revert hword
  decide

/-- A caret is in the comment exactly if the start of its word is. -/
theorem inComment_eq (h : CaretOn line column start text) :
    inComment line (column : Int) = inComment line (start : Int) := by
  unfold inComment
  cases hcomment : commentStart? line with
  | none => rfl
  | some semicolon =>
    have hle := h.start_le
    have hlt := h.lt_stop
    have houtside : ¬(start < semicolon ∧ semicolon ≤ column) := fun ⟨hafter, hbefore⟩ =>
      commentStart?_ne ⟨h.toStandsAt, h.isWord, by omega, by omega⟩ hcomment
    rw [decide_eq_decide]
    omega

/-- A caret is in the code exactly if the start of its word is. -/
theorem isCode_eq (h : CaretOn line column start text) :
    isCode line (column : Int) = isCode line (start : Int) := by
  rw [isCode, isCode, h.inString_eq, h.inComment_eq]

end CaretOn

/-- A caret inside a word of the code or at one of its ends is in the code, unless the comment
starts right at the caret, which is only possible at the end. -/
theorem StandsAt.isCode_iff (h : StandsAt line start text) (hword : Text.IsWord text)
    (hcode : isCode line (start : Int) = true) (hstart : start ≤ column)
    (hstop : column ≤ start + text.length) :
    isCode line (column : Int) = true ↔ commentStart? line ≠ some column := by
  rw [isCode, Bool.and_eq_true, Bool.not_eq_true', Bool.not_eq_true'] at hcode
  rw [isCode, h.inString_eq hword hstart hstop, hcode.1, Bool.not_false, Bool.true_and,
    Bool.not_eq_true']
  unfold inComment at hcode ⊢
  cases hcomment : commentStart? line with
  | none => exact iff_of_true rfl nofun
  | some semicolon =>
    rw [hcomment] at hcode
    have hbefore : (start : Int) < semicolon := by simpa using hcode.2
    have houtside : ¬semicolon < column := fun hlt =>
      CaretOn.commentStart?_ne ⟨h, hword, by omega, by omega⟩ hcomment
    rw [decide_eq_false_iff_not, ne_eq, Option.some.injEq]
    omega

/-- A caret on a word character stands on a word. -/
theorem exists_caretOn (hcolumn : column < line.length)
    (h : Text.startsWord (line.drop column) = true) :
    ∃ start text, CaretOn line column start text := by
  -- the word reaches as far as there are word characters on both sides
  have hline : line = (line.take column).rdropWhile isWordChar ++
      (((line.take column).rtakeWhile isWordChar ++ (line.drop column).takeWhile isWordChar) ++
        (line.drop column).dropWhile isWordChar) := by
    rw [List.append_assoc, List.takeWhile_append_dropWhile, ← List.append_assoc,
      List.rdropWhile_append_rtakeWhile, List.take_append_drop]
  have hbefore : Text.endsWord ((line.take column).rdropWhile isWordChar) = false := by
    by_cases hnil : (line.take column).rdropWhile isWordChar = []
    · rw [hnil]
      rfl
    · rw [Text.endsWord, List.getLast?_eq_some_getLast hnil]
      simpa using List.rdropWhile_last_not _ _ hnil
  have hpiece (piece : Text) : StandsAt ((line.take column).rdropWhile isWordChar ++
      (piece ++ (line.drop column).dropWhile isWordChar)) _ piece :=
    .of_append hbefore (Text.startsWord_dropWhile (line.drop column))
  have hstands := hpiece
    ((line.take column).rtakeWhile isWordChar ++ (line.drop column).takeWhile isWordChar)
  rw [← hline] at hstands
  have hlength := congrArg List.length
    (List.rdropWhile_append_rtakeWhile (p := isWordChar) (l := line.take column))
  rw [List.length_append, List.length_take, Nat.min_eq_left (Nat.le_of_lt hcolumn)] at hlength
  have hright : 0 < ((line.drop column).takeWhile isWordChar).length := by
    rw [List.drop_eq_getElem_cons hcolumn, Text.startsWord_cons] at h
    rw [List.drop_eq_getElem_cons hcolumn, List.takeWhile_cons_of_pos h]
    exact Nat.succ_pos _
  refine ⟨_, _, hstands, ⟨?_, fun c hc => ?_⟩, by omega, ?_⟩
  · exact List.append_ne_nil_of_right_ne_nil _ (List.length_pos_iff.1 hright)
  · rcases List.mem_append.1 hc with hc | hc
    · exact List.mem_rtakeWhile_imp hc
    · exact List.mem_takeWhile_imp hc
  · rw [List.length_append]
    omega

/-! ## The words of the code -/

/-- A run of the word characters of a text stands apart, unless the text starts inside a word. -/
theorem standsAt_of_mem_wordRuns (before : Text) {text run : Text} {column : Nat}
    (hcursor : (Text.endsWord before && Text.startsWord text) = false)
    (h : (column, run) ∈ wordRuns before.length text) :
    StandsAt (before ++ text) column run ∧ Text.IsWord run := by
  induction text using Text.wordInduction generalizing before with
  | nil => cases h
  | char c text hc ih =>
    rw [wordRuns_cons_of_not hc] at h
    have hcursor' : (Text.endsWord (before ++ [c]) && Text.startsWord text) = false := by
      simp [hc]
    have hlater := ih (before ++ [c]) hcursor' (by simpa using h)
    rwa [List.append_assoc] at hlater
  | word first rest hfirst hrest ih =>
    rw [hfirst.startsWord_append, Bool.and_true] at hcursor
    rw [wordRuns_word_append hfirst hrest] at h
    rcases List.mem_cons.1 h with heq | h
    · cases heq
      exact ⟨.of_append hcursor hrest, hfirst⟩
    · have hcursor' : (Text.endsWord (before ++ first) && Text.startsWord rest) = false := by
        rw [hrest, Bool.and_false]
      have hlater := ih (before ++ first) hcursor' (by rwa [List.length_append])
      rwa [List.append_assoc] at hlater

/-- What starts in front of the end of the code is not in the comment. -/
theorem inComment_eq_false (h : start < codeEnd line) : inComment line (start : Int) = false := by
  unfold inComment
  cases hcomment : commentStart? line with
  | none => rfl
  | some semicolon =>
    rw [codeEnd, hcomment, Option.getD_some] at h
    exact decide_eq_false (by omega)

/-- A word of the code is a name that stands in the code. -/
theorem exists_nameAt_of_mem_codeWords {word : Word} (h : word ∈ codeWords line) :
    ∃ start : Nat, word = .ofText start word.text ∧ NameAt line start word.text ∧
      opensIdentifier word.text = true ∧ isCode line (start : Int) = true := by
  obtain ⟨⟨start, run⟩, hrun, rfl⟩ := List.mem_map.1 h
  obtain ⟨hmem, hkept⟩ := List.mem_filter.1 hrun
  rw [Bool.and_eq_true, Bool.not_eq_true'] at hkept
  obtain ⟨hstands, hword⟩ : StandsAt (code line) start run ∧ Text.IsWord run :=
    standsAt_of_mem_wordRuns [] rfl hmem
  have hinside := hstands.inside
  have hpositive := hword.length_pos
  rw [length_code] at hinside
  refine ⟨start, rfl, ⟨⟨?_, hinside⟩, hword⟩, hkept.1, ?_⟩
  · obtain ⟨before, after, hcode, rfl, hbefore, hafter⟩ := hstands.exists_append
    exact (CodeAt.of_code hcode hbefore hafter).toStandsAt
  · rw [isCode, hkept.2, inComment_eq_false (by omega)]
    rfl

end Line

end BlitzLens
