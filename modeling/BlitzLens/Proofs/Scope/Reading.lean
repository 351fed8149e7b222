import BlitzLens.Proofs.Scope.Chain

/-!
# How the words in front of a field marker are read

Reading left of a column passes over one group in parentheses at most, with blanks around it
(`Scope.Trail`), and takes the word in front of it (`Scope.ReadsWord`). It goes on at the field
marker in front of the word, until there is none (`Scope.ReadsChain`). Both relations say exactly
what the search finds (`Scope.readWord?_eq_some_iff`, `Scope.memberChain?_eq_ok_iff`), so that
the search can be compared on two lines.

What is read depends on nothing to the right but the end of a word (`Scope.ReadsChain.congr`), and
between a field marker and a column it depends on nothing to the left
(`Scope.readsWord_append_left`).
-/

namespace BlitzLens

/-- A word that stands further to the right. -/
def Word.shift (width : Nat) (word : Word) : Word :=
  ⟨word.start + width, word.stop + width, word.text⟩

open Line

namespace Scope

/-! ## Passing over a group -/

variable {front paren text : Text}

/-- What stands in front of an opening parenthesis is less than the text. -/
theorem openingBack?_lt {depth n : Nat} {text : Text} (h : openingBack? depth text = some n) :
    n < text.length := by
  cases text with
  | nil => cases h
  | cons c text =>
    rw [openingBack?] at h
    rw [List.length_cons]
    split_ifs at h
    · exact Nat.lt_succ_of_le (openingBack?_le h)
    · cases h
      exact Nat.lt_succ_self _
    · exact Nat.lt_succ_of_le (openingBack?_le h)
    · exact Nat.lt_succ_of_le (openingBack?_le h)

/-- Once the opening parenthesis is found, what stands in front of it is left as it is. -/
theorem openingBack?_append {depth n : Nat} {back : Text} (h : openingBack? depth back = some n)
    (rest : Text) : openingBack? depth (back ++ rest) = some (n + rest.length) := by
  induction back generalizing depth with
  | nil => cases h
  | cons c back ih =>
    rw [openingBack?] at h
    rw [List.cons_append, openingBack?]
    split_ifs at h ⊢
    · exact ih h
    · cases h
      rw [List.length_append]
    · exact ih h
    · exact ih h

/-- Where everything behind a text is passed over, it is passed over without the text. -/
theorem openingBack?_of_append {depth : Nat} {back rest : Text}
    (h : openingBack? depth (back ++ rest) = some rest.length) :
    openingBack? depth back = some 0 := by
  induction back generalizing depth with
  | nil => exact absurd (openingBack?_lt h) (Nat.lt_irrefl _)
  | cons c back ih =>
    rw [List.cons_append, openingBack?] at h
    rw [openingBack?]
    split_ifs at h ⊢
    · exact ih h
    · have hlength := Option.some.inj h
      rw [List.length_append] at hlength
      exact congrArg some (by omega)
    · exact ih h
    · exact ih h

/-- Passing over a text ends with an opening parenthesis. -/
theorem getLast?_of_openingBack? {depth : Nat} {back : Text}
    (h : openingBack? depth back = some 0) : back.getLast? = some '(' := by
  induction back generalizing depth with
  | nil => cases h
  | cons c back ih =>
    have hlater {depth : Nat} (h : openingBack? depth back = some 0) :
        (c :: back).getLast? = some '(' := by
      rw [List.getLast?_cons, ih h]
      rfl
    rw [openingBack?] at h
    split_ifs at h with hclosing hopening hdepth
    · exact hlater h
    · -- the parenthesis is the last character that is left
      obtain rfl := List.length_eq_zero_iff.1 (Option.some.inj h)
      exact congrArg some (beq_iff_eq.1 hopening)
    · exact hlater h
    · exact hlater h

/-- A text is a group that is passed over as a whole. -/
structure IsPassedOver (paren : Text) : Prop where
  /-- There is something to pass over. -/
  ne_nil : paren ≠ []
  /-- Nothing is left in front of it. -/
  passes : endBeforeGroup? paren = some 0

namespace IsPassedOver

/-- A group that is passed over ends with a closing parenthesis. -/
theorem getLast?_eq (h : IsPassedOver paren) : paren.getLast? = some ')' := by
  have hpasses := h.passes
  rw [endBeforeGroup?] at hpasses
  split_ifs at hpasses with hlast
  · exact beq_iff_eq.1 hlast
  · exact absurd (List.length_eq_zero_iff.1 (Option.some.inj hpasses)) h.ne_nil

/-- A group that is passed over starts with an opening parenthesis. -/
theorem head?_eq (h : IsPassedOver paren) : paren.head? = some '(' := by
  have hpasses := h.passes
  rw [endBeforeGroup?, h.getLast?_eq] at hpasses
  rw [← List.getLast?_reverse]
  exact getLast?_of_openingBack? hpasses

/-- A group is passed over behind any text. -/
theorem endBeforeGroup?_append (h : IsPassedOver paren) (front : Text) :
    endBeforeGroup? (front ++ paren) = some front.length := by
  have hpasses := h.passes
  have hlast : (front ++ paren).getLast? = some ')' := by
    rw [List.getLast?_append, h.getLast?_eq]
    rfl
  rw [endBeforeGroup?, h.getLast?_eq] at hpasses
  rw [endBeforeGroup?, hlast, List.reverse_append]
  have hfront := openingBack?_append hpasses front.reverse
  rwa [Nat.zero_add, List.length_reverse] at hfront

end IsPassedOver

/-- What is passed over behind a text is passed over without it. -/
theorem isPassedOver_of_append (hne : paren ≠ [])
    (h : endBeforeGroup? (front ++ paren) = some front.length) : IsPassedOver paren := by
  refine ⟨hne, ?_⟩
  have hlast : (front ++ paren).getLast? = paren.getLast? := List.getLast?_append_of_ne_nil _ hne
  rw [endBeforeGroup?, hlast] at h
  rw [endBeforeGroup?]
  split_ifs at h ⊢
  · rw [List.reverse_append, ← @List.length_reverse _ front] at h
    exact openingBack?_of_append h
  · have hlength := Option.some.inj h
    rw [List.length_append] at hlength
    exact absurd (List.length_eq_zero_iff.1 (by omega)) hne

/-! ## Reading a word -/

/-- What may stand between a word and the column left of which it is read: spaces and tabs, and
perhaps one group in parentheses. -/
inductive Trail : Text → Prop
  | gap {gap : Text} (h : ∀ c ∈ gap, isSpaceOrTab c = true) : Trail gap
  | group {gap paren gap' : Text} (hgap : ∀ c ∈ gap, isSpaceOrTab c = true)
      (hparen : IsPassedOver paren) (hgap' : ∀ c ∈ gap', isSpaceOrTab c = true) :
      Trail (gap ++ (paren ++ gap'))

/-- A word is read left of a column: its last character in front of the column is left once what is
passed over is left out. -/
structure ReadsWord (line : Text) (column : Nat) (word : Word) : Prop where
  /-- The column is on the line. -/
  inside : column ≤ line.length
  /-- The caret on that character stands on the word. -/
  caret : ∃ caret start text, word = .ofText start text ∧ CaretOn line caret start text ∧
    caret < column ∧ Trail ((line.take column).drop (caret + 1))

/-- The words that are read left of a column, one marker after the other. -/
inductive ReadsChain (line : Text) : Nat → List Word → Prop
  | last {column : Nat} {word : Word} (hword : ReadsWord line column word)
      (hmarker : memberMarker? line word.start = .ok none) : ReadsChain line column [word]
  | step {column marker : Nat} {word : Word} {words : List Word}
      (hword : ReadsWord line column word)
      (hmarker : memberMarker? line word.start = .ok (some marker))
      (hrest : ReadsChain line marker words) : ReadsChain line column (words ++ [word])

section Reading

variable {line : Text} {column : Nat} {word : Word} {words : List Word}

/-- A trail starts with a blank or with an opening parenthesis, so no word goes on in it. -/
theorem Trail.startsWord (h : Trail text) : Text.startsWord text = false := by
  have hgap {gap : Text} (h : ∀ c ∈ gap, isSpaceOrTab c = true) : Text.startsWord gap = false :=
    Text.startsWord_of_isBlank fun c hc => isBlank_of_isSpaceOrTab (h c hc)
  cases h with
  | gap h => exact hgap h
  | group h hparen _ =>
    refine Text.startsWord_append_eq_false (hgap h) ?_
    rw [Text.startsWord, List.head?_append, hparen.head?_eq]
    change isWordChar '(' = false
    decide

/-- Spaces and tabs are dropped from behind a text that does not end with one. -/
theorem dropEndWhile_append_gap {gap : Text} {c : Char} (hc : isSpaceOrTab c = false)
    (hlast : text.getLast? = some c) (hgap : ∀ c ∈ gap, isSpaceOrTab c = true) :
    Text.dropEndWhile isSpaceOrTab (text ++ gap) = text := by
  obtain ⟨front, rfl⟩ := List.getLast?_eq_some_iff.1 hlast
  rw [Text.dropEndWhile_append hgap]
  exact List.rdropWhile_concat_neg isSpaceOrTab front c (by simp [hc])

/-- A text is what is left when spaces and tabs are dropped from its end, and these. -/
theorem exists_dropEndWhile_append (text : Text) :
    ∃ gap, (∀ c ∈ gap, isSpaceOrTab c = true) ∧
      text = Text.dropEndWhile isSpaceOrTab text ++ gap :=
  ⟨text.rtakeWhile isSpaceOrTab, fun _ hc => List.mem_rtakeWhile_imp hc,
    (List.rdropWhile_append_rtakeWhile (p := isSpaceOrTab) (l := text)).symm⟩

/-- A caret on a word has a word character in front of what is behind it. -/
theorem exists_getLast?_take {caret start : Nat} (h : CaretOn line caret start text) :
    ∃ c, (line.take (caret + 1)).getLast? = some c ∧ isWordChar c = true := by
  have hlt := h.lt_length
  have hword := h.startsWord_drop
  rw [List.drop_eq_getElem_cons hlt, Text.startsWord_cons] at hword
  refine ⟨(line)[caret], ?_, hword⟩
  rw [List.take_succ_eq_append_getElem hlt, List.getLast?_concat]

/-- No word character is a space or a tab. -/
theorem isSpaceOrTab_of_isWordChar {c : Char} (h : isWordChar c = true) :
    isSpaceOrTab c = false := by
  by_contra hblank
  rw [Bool.not_eq_false] at hblank
  exact absurd (isBlank_of_isSpaceOrTab hblank) (by simp [isBlank_of_isWordChar h])

/-- The word before a column is told from the last character in front that is no space or tab. -/
theorem wordBefore?_eq_bind {bare : Text} (hcolumn : column ≤ line.length)
    (hbare : Text.dropEndWhile isSpaceOrTab (line.take column) = bare) :
    wordBefore? line (column : Int) = .ok (bare.getLast?.bind fun c =>
      if isWordChar c then wordTouching? line (bare.length - 1) else none) := by
  subst hbare
  change (if line.length < column then _ else _) = _
  rw [if_neg (Nat.not_lt.2 hcolumn)]
  cases (Text.dropEndWhile isSpaceOrTab (line.take column)).getLast? <;> rfl

/-- A text up to a column is the text up to a column in front of it, and what is in between. -/
theorem take_eq_append_drop (text : Text) {first last : Nat} (h : first ≤ last) :
    text.take last = text.take first ++ (text.take last).drop first := by
  have := (List.take_append_drop first (text.take last)).symm
  rwa [List.take_take, Nat.min_eq_left h] at this

/-- The word in front of spaces and tabs is found. -/
theorem wordBefore?_of_caretOn {caret start : Nat} (h : CaretOn line caret start text)
    (hcaret : caret < column) (hcolumn : column ≤ line.length)
    (hgap : ∀ c ∈ (line.take column).drop (caret + 1), isSpaceOrTab c = true) :
    wordBefore? line (column : Int) = .ok (some (.ofText start text)) := by
  obtain ⟨c, hlast, hchar⟩ := exists_getLast?_take h
  have hbare : Text.dropEndWhile isSpaceOrTab (line.take column) = line.take (caret + 1) := by
    rw [take_eq_append_drop line hcaret]
    exact dropEndWhile_append_gap (isSpaceOrTab_of_isWordChar hchar) hlast hgap
  have hlength : (line.take (caret + 1)).length - 1 = caret := by
    have := h.lt_length
    rw [List.length_take]
    omega
  have htouching : wordTouching? line caret = some (.ofText start text) :=
    h.toStandsAt.wordTouching?_eq h.isWord h.start_le (Nat.le_of_lt h.lt_stop)
  rw [wordBefore?_eq_bind hcolumn hbare, hlast, Option.bind_some, if_pos hchar, hlength, htouching]

/-- The word before a column is one that a caret in front of the column stands on, with nothing but
spaces and tabs in between. -/
theorem exists_caretOn_of_wordBefore? (hcolumn : column ≤ line.length)
    (h : wordBefore? line (column : Int) = .ok (some word)) :
    ∃ caret start text, word = .ofText start text ∧ CaretOn line caret start text ∧
      caret < column ∧ ∀ c ∈ (line.take column).drop (caret + 1), isSpaceOrTab c = true := by
  obtain ⟨gap, hgap, hsplit⟩ := exists_dropEndWhile_append (line.take column)
  generalize hbare : Text.dropEndWhile isSpaceOrTab (line.take column) = bare at hsplit
  rw [wordBefore?_eq_bind hcolumn hbare] at h
  obtain ⟨c, hlast, hword⟩ := Option.bind_eq_some_iff.1 (Except.ok.inj h)
  obtain ⟨init, rfl⟩ := List.getLast?_eq_some_iff.1 hlast
  have hlength := congrArg List.length hsplit
  simp only [List.length_append, List.length_take, List.length_singleton] at hlength
  rw [Nat.min_eq_left hcolumn] at hlength
  split_ifs at hword with hchar
  -- the caret is on the last character that is no blank
  have hcaret : init.length < line.length := by omega
  have htake : line = init ++ (c :: (gap ++ line.drop column)) := by
    conv_lhs => rw [← List.take_append_drop column line, hsplit]
    simp
  have hstarts : Text.startsWord (line.drop init.length) = true := by
    rw [htake, List.drop_left, Text.startsWord_cons]
    exact hchar
  obtain ⟨start, text, hcaretOn⟩ := exists_caretOn hcaret hstarts
  refine ⟨init.length, start, text, ?_, hcaretOn, by omega, ?_⟩
  · have htouching : wordTouching? line init.length = some (.ofText start text) :=
      hcaretOn.toStandsAt.wordTouching?_eq hcaretOn.isWord hcaretOn.start_le
        (Nat.le_of_lt hcaretOn.lt_stop)
    rw [List.length_append, List.length_singleton, Nat.add_sub_cancel, htouching] at hword
    exact (Option.some.inj hword).symm
  · rw [hsplit, List.drop_left' (by simp)]
    exact hgap

/-! ## The search reads what the relation says -/

/-- The word that the search takes left of a column. -/
def readWord? (line : Text) (column : Nat) : Option Word :=
  (endBeforeGroup? (Text.dropEndWhile isSpaceOrTab (line.take column))).bind fun stop =>
    (wordBefore? line (stop : Int)).toOption.join

/-- The word before a column of the line is looked for without failure. -/
theorem join_wordBefore?_eq_some_iff (hcolumn : column ≤ line.length) :
    (wordBefore? line (column : Int)).toOption.join = some word ↔
      wordBefore? line (column : Int) = .ok (some word) := by
  obtain ⟨found, hbefore, -⟩ := exists_wordBefore? hcolumn
  rw [hbefore]
  exact ⟨fun h => congrArg Except.ok h, fun h => Except.ok.inj h⟩

/-- The word that the search takes is read. -/
theorem readsWord_of_readWord? (hcolumn : column ≤ line.length)
    (h : readWord? line column = some word) : ReadsWord line column word := by
  obtain ⟨stop, hend, hword⟩ := Option.bind_eq_some_iff.1 h
  obtain ⟨gap, hgap, hsplit⟩ := exists_dropEndWhile_append (line.take column)
  generalize Text.dropEndWhile isSpaceOrTab (line.take column) = bare at hend hsplit
  have hle := endBeforeGroup?_le hend
  have hbare : bare.length ≤ column := by
    have := congrArg List.length hsplit
    rw [List.length_take, List.length_append] at this
    omega
  -- what is passed over is cut off from what ends with the word
  obtain ⟨front, paren, rfl, rfl⟩ : ∃ front paren, bare = front ++ paren ∧ front.length = stop :=
    ⟨bare.take stop, bare.drop stop, (List.take_append_drop _ _).symm, by
      rw [List.length_take]
      omega⟩
  have hinside : front.length ≤ line.length := Nat.le_trans hle (Nat.le_trans hbare hcolumn)
  obtain ⟨caret, start, text, heq, hcaret, hlt, hblank⟩ :=
    exists_caretOn_of_wordBefore? hinside ((join_wordBefore?_eq_some_iff hinside).1 hword)
  have htake : line.take front.length = front := by
    have := congrArg (List.take front.length) hsplit
    rwa [List.take_take, Nat.min_eq_left (Nat.le_trans hle hbare), List.append_assoc,
      List.take_left] at this
  rw [htake] at hblank
  refine ⟨hcolumn, caret, start, text, heq, hcaret, Nat.lt_of_lt_of_le hlt
    (Nat.le_trans hle hbare), ?_⟩
  rw [hsplit, List.append_assoc, List.drop_append_of_le_length hlt]
  by_cases hnil : paren = []
  · rw [hnil, List.nil_append]
    refine .gap fun c hc => ?_
    exact (List.mem_append.1 hc).elim (hblank c) (hgap c)
  · exact .group hblank (isPassedOver_of_append hnil hend) hgap

section Taken

variable {caret start : Nat} {gap gap' : Text}

/-- A word is taken if nothing but spaces and tabs is behind it. -/
theorem readWord?_of_gap (h : CaretOn line caret start text)
    (htake : line.take column = line.take (caret + 1) ++ gap)
    (hgap : ∀ c ∈ gap, isSpaceOrTab c = true) :
    readWord? line column = some (.ofText start text) := by
  obtain ⟨c, hlast, hchar⟩ := exists_getLast?_take h
  have hlt := h.lt_length
  have hbare : Text.dropEndWhile isSpaceOrTab (line.take column) = line.take (caret + 1) := by
    rw [htake]
    exact dropEndWhile_append_gap (isSpaceOrTab_of_isWordChar hchar) hlast hgap
  have hparen : c ≠ ')' := by
    rintro rfl
    revert hchar
    decide
  -- nothing is passed over, and the word ends in front of the gap
  have hlength : (line.take (caret + 1)).length = caret + 1 := List.length_take_of_le hlt
  have hend : endBeforeGroup? (line.take (caret + 1)) = some (caret + 1) := by
    rw [endBeforeGroup?, hlast, if_neg (by simpa using hparen), hlength]
  rw [readWord?, hbare, hend]
  refine (join_wordBefore?_eq_some_iff hlt).2
    (wordBefore?_of_caretOn h (Nat.lt_succ_self _) hlt ?_)
  rw [List.drop_eq_nil_of_le (Nat.le_of_eq hlength)]
  exact fun _ hc => absurd hc List.not_mem_nil

/-- A word is taken if one group is behind it, with spaces and tabs around the group. -/
theorem readWord?_of_group (h : CaretOn line caret start text) (hcolumn : column ≤ line.length)
    (htake : line.take column = line.take (caret + 1) ++ (gap ++ (paren ++ gap')))
    (hgap : ∀ c ∈ gap, isSpaceOrTab c = true) (hparen : IsPassedOver paren)
    (hgap' : ∀ c ∈ gap', isSpaceOrTab c = true) :
    readWord? line column = some (.ofText start text) := by
  have hlt := h.lt_length
  have hlength : (line.take (caret + 1)).length = caret + 1 := List.length_take_of_le hlt
  generalize hword : line.take (caret + 1) = word at htake hlength
  have hlast : (word ++ gap ++ paren).getLast? = some ')' := by
    rw [List.getLast?_append_of_ne_nil _ hparen.ne_nil, hparen.getLast?_eq]
  have hbare : Text.dropEndWhile isSpaceOrTab (line.take column) = word ++ gap ++ paren := by
    rw [htake, ← List.append_assoc gap, ← List.append_assoc, ← List.append_assoc word]
    exact dropEndWhile_append_gap (by decide) hlast hgap'
  -- the group is passed over, and what is in front of it ends with the word and a gap
  have hstop : (word ++ gap).length ≤ column := by
    have := congrArg List.length htake
    simp only [List.length_append, List.length_take] at this ⊢
    omega
  have hfront : line.take (word ++ gap).length = word ++ gap := by
    have := congrArg (List.take (word ++ gap).length) htake
    rwa [List.take_take, Nat.min_eq_left hstop, ← List.append_assoc, List.take_left] at this
  have hinside := Nat.le_trans hstop hcolumn
  rw [readWord?, hbare, hparen.endBeforeGroup?_append]
  refine (join_wordBefore?_eq_some_iff hinside).2 (wordBefore?_of_caretOn h ?_ hinside ?_)
  · rw [List.length_append]
    omega
  · rw [hfront, List.drop_left' hlength]
    exact hgap

end Taken

/-- The word that the search takes is the one that is read. -/
theorem readWord?_eq_some_iff (hcolumn : column ≤ line.length) :
    readWord? line column = some word ↔ ReadsWord line column word := by
  refine ⟨readsWord_of_readWord? hcolumn, ?_⟩
  rintro ⟨-, caret, start, text, rfl, hcaret, hlt, htrail⟩
  have htake := take_eq_append_drop line hlt
  generalize (line.take column).drop (caret + 1) = behind at htrail htake
  cases htrail with
  | gap hgap => exact readWord?_of_gap hcaret htake hgap
  | group hgap hparen hgap' => exact readWord?_of_group hcaret hcolumn htake hgap hparen hgap'

/-- The search goes on from the word that is read, at the field marker in front of it. -/
theorem chainFrom?_eq_readWord? (hcolumn : column ≤ line.length) (chain : List Word) :
    chainFrom? line column chain =
      match readWord? line column with
      | none => .ok none
      | some word => do
        match ← memberMarker? line word.start with
        | none => return some (word :: chain)
        | some marker =>
          if marker < column then chainFrom? line marker (word :: chain)
          else return some (word :: chain) := by
  rw [chainFrom?, if_neg (Nat.not_lt.2 hcolumn), readWord?]
  cases hend : endBeforeGroup? (Text.dropEndWhile isSpaceOrTab (line.take column)) with
  | none => rfl
  | some stop =>
    have hstop := endBeforeGroup?_take_le hend
    obtain ⟨found, hbefore, -⟩ := exists_wordBefore? hstop
    simp only [Option.bind_some, hbefore]
    cases found <;> rfl

/-- A word that is read stands in front of the column. -/
theorem ReadsWord.start_lt (h : ReadsWord line column word) :
    ∃ start : Nat, word.start = start ∧ start < column := by
  obtain ⟨caret, start, text, rfl, hcaret, hlt, -⟩ := h.caret
  exact ⟨start, rfl, Nat.lt_of_le_of_lt hcaret.start_le hlt⟩

/-- The field marker in front of a word does not stand behind the start of the word. -/
theorem ReadsWord.marker_le (h : ReadsWord line column word) {marker : Nat}
    (hmarker : memberMarker? line word.start = .ok (some marker)) :
    (marker : Int) ≤ word.start := by
  obtain ⟨start, hstart, hlt⟩ := h.start_lt
  obtain ⟨found, hfound, hle⟩ := exists_memberMarker? (Nat.le_trans (Nat.le_of_lt hlt) h.inside)
  rw [hstart, hfound] at hmarker
  rw [hstart]
  exact Int.ofNat_le.2 (hle marker (Except.ok.inj hmarker))

/-- The field marker in front of a word stands in front of the column as well. -/
theorem ReadsWord.marker_lt (h : ReadsWord line column word) {marker : Nat}
    (hmarker : memberMarker? line word.start = .ok (some marker)) : marker < column := by
  obtain ⟨start, hstart, hlt⟩ := h.start_lt
  have hle := h.marker_le hmarker
  omega

/-- At most one word is read left of a column. -/
theorem ReadsWord.unique {word' : Word} (h : ReadsWord line column word)
    (h' : ReadsWord line column word') : word = word' :=
  Option.some.inj (((readWord?_eq_some_iff h.inside).2 h).symm.trans
    ((readWord?_eq_some_iff h.inside).2 h'))

/-- The last of the words that are read is the one left of the column, and the others are read left
of the marker in front of it. -/
theorem readsChain_concat_iff :
    ReadsChain line column (words ++ [word]) ↔
      ReadsWord line column word ∧ (words = [] ∧ memberMarker? line word.start = .ok none ∨
        ∃ marker, memberMarker? line word.start = .ok (some marker) ∧
          ReadsChain line marker words) := by
  constructor
  · intro h
    -- the rules put the last word behind the others, so the two ways to split are compared
    generalize hall : words ++ [word] = all at h
    cases h with
    | @last _ word' hword hmarker =>
      obtain ⟨rfl, hlast⟩ := List.append_inj' (hall.trans (List.nil_append [word']).symm) rfl
      obtain rfl := (List.cons.inj hlast).1
      exact ⟨hword, .inl ⟨rfl, hmarker⟩⟩
    | step hword hmarker hrest =>
      obtain ⟨rfl, hlast⟩ := List.append_inj' hall rfl
      obtain rfl := (List.cons.inj hlast).1
      exact ⟨hword, .inr ⟨_, hmarker, hrest⟩⟩
  · rintro ⟨hword, ⟨rfl, hmarker⟩ | ⟨marker, hmarker, hrest⟩⟩
    · exact .last hword hmarker
    · exact .step hword hmarker hrest

/-- Some words are read. -/
theorem ReadsChain.exists_eq_concat (h : ReadsChain line column words) :
    ∃ init word, words = init ++ [word] := by
  cases h with
  | last => exact ⟨[], _, rfl⟩
  | step => exact ⟨_, _, rfl⟩

/-- What is read in front of a word that is read is told by the field marker in front of it. -/
theorem ReadsWord.readsChain_iff (h : ReadsWord line column word) {marker : Option Nat}
    (hmarker : memberMarker? line word.start = .ok marker) :
    ReadsChain line column words ↔ ∃ init, words = init ++ [word] ∧
      (init = [] ∧ marker = none ∨ ∃ m, marker = some m ∧ ReadsChain line m init) := by
  constructor
  · intro hchain
    obtain ⟨init, other, rfl⟩ := hchain.exists_eq_concat
    obtain ⟨hother, hrest⟩ := readsChain_concat_iff.1 hchain
    obtain rfl := hother.unique h
    rw [hmarker] at hrest
    refine ⟨init, rfl, ?_⟩
    rcases hrest with ⟨hinit, hnone⟩ | ⟨m, hm, hinit⟩
    · exact .inl ⟨hinit, Except.ok.inj hnone⟩
    · exact .inr ⟨m, Except.ok.inj hm, hinit⟩
  · rintro ⟨init, rfl, ⟨rfl, rfl⟩ | ⟨m, rfl, hinit⟩⟩
    · exact .last h hmarker
    · exact .step h hmarker hinit

/-- The search finds the words that are read left of a column, in front of those that it has. -/
theorem chainFrom?_eq_ok_iff (hcolumn : column ≤ line.length) {chain found : List Word} :
    chainFrom? line column chain = .ok (some found) ↔
      ∃ words, found = words ++ chain ∧ ReadsChain line column words := by
  -- the search goes from marker to marker, each in front of the one before
  induction column using Nat.strongRecOn generalizing chain found with
  | ind column ih =>
    rw [chainFrom?_eq_readWord? hcolumn]
    cases hread : readWord? line column with
    | none =>
      constructor
      · intro h
        cases h
      · rintro ⟨words, -, hwords⟩
        obtain ⟨init, word, rfl⟩ := hwords.exists_eq_concat
        have hword := (readWord?_eq_some_iff hcolumn).2 (readsChain_concat_iff.1 hwords).1
        rw [hread] at hword
        cases hword
    | some word =>
      have hword := (readWord?_eq_some_iff hcolumn).1 hread
      obtain ⟨start, hstart, hlt⟩ := hword.start_lt
      obtain ⟨marker, hmarker, -⟩ := exists_memberMarker? ((Nat.le_of_lt hlt).trans hcolumn)
      rw [← hstart] at hmarker
      simp only [hword.readsChain_iff hmarker]
      change (memberMarker? line word.start >>= _) = _ ↔ _
      rw [hmarker]
      cases marker with
      | none =>
        change Except.ok (some (word :: chain)) = .ok (some found) ↔ _
        constructor
        · intro h
          cases h
          exact ⟨[word], rfl, [], rfl, .inl ⟨rfl, rfl⟩⟩
        · rintro ⟨_, rfl, init, rfl, ⟨rfl, -⟩ | ⟨m, hm, -⟩⟩
          · rfl
          · cases hm
      | some m =>
        have hless := hword.marker_lt hmarker
        change (if m < column then chainFrom? line m (word :: chain) else _) = _ ↔ _
        rw [if_pos hless, ih m hless (by omega)]
        constructor
        · rintro ⟨words, rfl, hwords⟩
          exact ⟨words ++ [word], by simp, words, rfl, .inr ⟨m, rfl, hwords⟩⟩
        · rintro ⟨_, rfl, init, rfl, ⟨-, hnone⟩ | ⟨m', hm, hinit⟩⟩
          · cases hnone
          · cases hm
            exact ⟨init, by simp, hinit⟩

/-- The search from a marker finds the words that are read left of it. -/
theorem memberChain?_eq_ok_iff {marker : Nat} :
    memberChain? line (marker : Int) = .ok (some words) ↔ ReadsChain line marker words := by
  change chainFrom? line marker [] = _ ↔ _
  by_cases hcolumn : marker ≤ line.length
  · rw [chainFrom?_eq_ok_iff hcolumn]
    simp
  · rw [chainFrom?, if_pos (Nat.lt_of_not_le hcolumn)]
    constructor
    · intro h
      cases h
    · intro h
      obtain ⟨init, word, rfl⟩ := h.exists_eq_concat
      exact absurd (readsChain_concat_iff.1 h).1.inside hcolumn

/-! ## What reading depends on -/

variable {before before' behind behind' : Text} {caret start : Nat}

/-- The word on which a caret stands depends on nothing behind its end. -/
theorem caretOn_congr (hbehind : Text.startsWord behind = false)
    (hbehind' : Text.startsWord behind' = false) (hcaret : caret < front.length)
    (h : CaretOn (front ++ behind) caret start text) :
    CaretOn (front ++ behind') caret start text := by
  obtain ⟨before, after, hline, hlength, hbefore, hafter⟩ := h.exists_append
  have hstart := h.start_le
  -- the word ends in front, for no word goes on behind
  obtain ⟨rest, hfront, hafter'⟩ : ∃ rest, front = before ++ text ++ rest ∧
      after = rest ++ behind := by
    rw [← List.append_assoc] at hline
    rcases List.append_eq_append_iff.1 hline with ⟨excess, hword, hexcess⟩ | ⟨rest, hfront, hrest⟩
    · have hnil : excess = [] := by
        by_contra hne
        have hlast : excess.length < text.length := by
          have := congrArg List.length hword
          simp only [List.length_append] at this
          omega
        have hsuffix : excess <:+ text := by
          have hend : excess <:+ before ++ text := hword ▸ List.suffix_append _ _
          exact List.suffix_of_suffix_length_le hend (List.suffix_append _ _) (Nat.le_of_lt hlast)
        have hstarts : Text.startsWord (excess ++ after) = true :=
          Text.IsWord.startsWord_append
            ⟨hne, fun c hc => h.isWord.all_word c (hsuffix.subset hc)⟩ after
        rw [← hexcess, hbehind] at hstarts
        cases hstarts
      subst hnil
      rw [List.append_nil] at hword
      exact ⟨[], by rw [List.append_nil, hword], hexcess.symm⟩
    · exact ⟨rest, hfront, hrest⟩
  have hright : Text.startsWord (rest ++ behind') = false := by
    cases rest with
    | nil => exact hbehind'
    | cons c rest =>
      rw [hafter', List.cons_append, Text.startsWord_cons] at hafter
      rw [List.cons_append, Text.startsWord_cons, hafter]
  have hstands : StandsAt (before ++ (text ++ (rest ++ behind'))) before.length text :=
    .of_append hbefore hright
  rw [hlength, ← List.append_assoc, ← List.append_assoc, ← hfront] at hstands
  exact ⟨hstands, h.isWord, h.start_le, h.lt_stop⟩

/-- The field marker in front of a column depends on nothing behind the column. -/
theorem memberMarker?_congr (hcolumn : column ≤ front.length) :
    memberMarker? (front ++ behind) (column : Int) =
      memberMarker? (front ++ behind') (column : Int) := by
  have hlength : (front.take column).length = column := by
    rw [List.length_take]
    omega
  have hmarker (rest : Text) := memberMarker?_append (front.take column) (front.drop column ++ rest)
  simp only [← List.append_assoc, List.take_append_drop, hlength] at hmarker
  rw [hmarker behind, hmarker behind']

/-- What is read left of a column depends on nothing behind the end of a word. -/
theorem ReadsWord.congr (hbehind : Text.startsWord behind = false)
    (hbehind' : Text.startsWord behind' = false) (hcolumn : column ≤ front.length)
    (h : ReadsWord (front ++ behind) column word) : ReadsWord (front ++ behind') column word := by
  obtain ⟨caret, start, text, rfl, hcaret, hlt, htrail⟩ := h.caret
  rw [List.take_append_of_le_length hcolumn] at htrail
  refine ⟨Nat.le_trans hcolumn (by simp), caret, start, text, rfl, ?_, hlt, ?_⟩
  · exact caretOn_congr hbehind hbehind' (by omega) hcaret
  · rwa [List.take_append_of_le_length hcolumn]

/-- Each of the words is read left of the column or of some place in front of it. -/
theorem ReadsChain.exists_readsWord (h : ReadsChain line column words) :
    ∀ word ∈ words, ∃ place ≤ column, ReadsWord line place word := by
  induction h with
  | @last column _ hword hmarker =>
    intro word hmem
    rw [List.mem_singleton.1 hmem]
    exact ⟨column, Nat.le_refl _, hword⟩
  | @step column _ _ _ hword hmarker hrest ih =>
    intro word hmem
    rcases List.mem_append.1 hmem with hmem | hmem
    · obtain ⟨place, hle, hread⟩ := ih word hmem
      exact ⟨place, Nat.le_trans hle (Nat.le_of_lt (hword.marker_lt hmarker)), hread⟩
    · rw [List.mem_singleton.1 hmem]
      exact ⟨column, Nat.le_refl _, hword⟩

/-- All words that are read stand in front of the column. -/
theorem ReadsChain.start_lt (h : ReadsChain line column words) :
    ∀ word ∈ words, word.start < column := by
  intro word hmem
  obtain ⟨place, hle, hread⟩ := h.exists_readsWord word hmem
  obtain ⟨start, hstart, hlt⟩ := hread.start_lt
  omega

/-- The words that are read left of a column depend on nothing behind the end of a word. -/
theorem ReadsChain.congr (hbehind : Text.startsWord behind = false)
    (hbehind' : Text.startsWord behind' = false) (hcolumn : column ≤ front.length)
    (h : ReadsChain (front ++ behind) column words) :
    ReadsChain (front ++ behind') column words := by
  generalize hline : front ++ behind = line at h
  -- markers stand further and further to the left
  induction h with
  | last hword hmarker =>
    subst hline
    obtain ⟨start, hstart, hlt⟩ := hword.start_lt
    refine .last (hword.congr hbehind hbehind' hcolumn) ?_
    rw [hstart, ← memberMarker?_congr (by omega), ← hstart, hmarker]
  | step hword hmarker hrest ih =>
    subst hline
    obtain ⟨start, hstart, hlt⟩ := hword.start_lt
    have hmarker' := hword.marker_lt hmarker
    refine .step (hword.congr hbehind hbehind' hcolumn) ?_ (ih (by omega))
    rw [hstart, ← memberMarker?_congr (by omega), ← hstart, hmarker]

end Reading

/-! ## Reading behind a field marker -/

section Shift

variable {front front' text piece : Text} {caret start column width : Nat} {word : Word}

/-- Behind a text that no word reaches out of, a caret stands on a word as it does without the
text. -/
theorem caretOn_append_left (hfront : Text.endsWord front = false) :
    CaretOn (front ++ text) (front.length + caret) (front.length + start) piece ↔
      CaretOn text caret start piece := by
  have hends : Text.endsWord (front ++ text.take start) = false ↔
      Text.endsWord (text.take start) = false := by
    by_cases hnil : text.take start = []
    · rw [hnil, List.append_nil, hfront]
      exact ⟨fun _ => rfl, fun _ => rfl⟩
    · rw [Text.endsWord_append hnil]
  constructor
  · intro h
    refine ⟨⟨?_, ?_, ?_, ?_⟩, h.isWord, ?_, ?_⟩
    · have := h.inside
      rw [List.length_append] at this
      omega
    · have := h.slice
      rwa [List.drop_length_add_append] at this
    · have := h.left
      rw [List.take_length_add_append] at this
      exact hends.1 this
    · have := h.right
      rwa [Nat.add_assoc, List.drop_length_add_append] at this
    · have := h.start_le
      omega
    · have := h.lt_stop
      omega
  · intro h
    refine ⟨⟨?_, ?_, ?_, ?_⟩, h.isWord, ?_, ?_⟩
    · have := h.inside
      rw [List.length_append]
      omega
    · rw [List.drop_length_add_append]
      exact h.slice
    · rw [List.take_length_add_append]
      exact hends.2 h.left
    · rw [Nat.add_assoc, List.drop_length_add_append]
      exact h.right
    · have := h.start_le
      omega
    · have := h.lt_stop
      omega

/-- Behind a text that no word reaches out of, a word is read as it is without the text. -/
theorem readsWord_append_left (hfront : Text.endsWord front = false) :
    ReadsWord (front ++ text) (front.length + column) (.ofText (front.length + start) piece) ↔
      ReadsWord text column (.ofText start piece) := by
  have htrail (caret : Nat) :
      ((front ++ text).take (front.length + column)).drop (front.length + caret + 1) =
        (text.take column).drop (caret + 1) := by
    rw [List.take_length_add_append, Nat.add_assoc, List.drop_length_add_append]
  constructor
  · rintro ⟨hinside, caret, start', piece', heq, hcaret, hlt, hbehind⟩
    obtain rfl : front.length + start = start' :=
      Int.ofNat_inj.1 (congrArg Word.start heq)
    obtain rfl : piece = piece' := congrArg Word.text heq
    obtain ⟨caret, rfl⟩ := Nat.exists_eq_add_of_le
      (Nat.le_trans (Nat.le_add_right _ _) hcaret.start_le)
    rw [List.length_append] at hinside
    rw [htrail] at hbehind
    exact ⟨by omega, caret, start, piece, rfl, (caretOn_append_left hfront).1 hcaret, by omega,
      hbehind⟩
  · rintro ⟨hinside, caret, start', piece', heq, hcaret, hlt, hbehind⟩
    obtain rfl : start = start' := Int.ofNat_inj.1 (congrArg Word.start heq)
    obtain rfl : piece = piece' := congrArg Word.text heq
    refine ⟨by rw [List.length_append]; omega, front.length + caret, _, _, rfl,
      (caretOn_append_left hfront).2 hcaret, by omega, ?_⟩
    rwa [htrail]

/-- A field marker in front of a column has nothing but spaces and tabs behind it. -/
theorem memberMarker?_eq_some_iff {line : Text} {marker : Nat} (hcolumn : column ≤ line.length) :
    memberMarker? line (column : Int) = .ok (some marker) ↔
      ∃ init gap, line.take column = init ++ '\\' :: gap ∧ init.length = marker ∧
        ∀ c ∈ gap, isSpaceOrTab c = true := by
  obtain ⟨gap, hgap, hsplit⟩ := exists_dropEndWhile_append (line.take column)
  change (if line.length < column then _ else _) = _ ↔ _
  rw [if_neg (Nat.not_lt.2 hcolumn)]
  constructor
  · intro h
    generalize Text.dropEndWhile isSpaceOrTab (line.take column) = bare at h hsplit
    replace h := Except.ok.inj h
    split_ifs at h with hlast
    obtain ⟨init, rfl⟩ := List.getLast?_eq_some_iff.1 (beq_iff_eq.1 hlast)
    refine ⟨init, gap, by rw [hsplit]; simp, ?_, hgap⟩
    have := Option.some.inj h
    rw [List.length_append, List.length_singleton] at this
    omega
  · rintro ⟨init, gap, htake, rfl, hgap⟩
    have hbare : Text.dropEndWhile isSpaceOrTab (line.take column) = init ++ ['\\'] := by
      rw [htake, ← List.singleton_append, ← List.append_assoc]
      exact dropEndWhile_append_gap (by decide) List.getLast?_concat hgap
    rw [hbare, List.getLast?_concat, List.length_append, List.length_singleton]
    rfl

/-- A word that is read behind a field marker is read there as well when the text in front of the
marker is another one. -/
theorem readsWord_shift {behind : Text} (hwidth : front'.length = front.length + width)
    (h : ReadsWord (front ++ '\\' :: behind) column word)
    (hmarker : memberMarker? (front ++ '\\' :: behind) word.start = .ok (some front.length)) :
    ReadsWord (front' ++ '\\' :: behind) (column + width) (word.shift width) ∧
      memberMarker? (front' ++ '\\' :: behind) (word.shift width).start =
        .ok (some front'.length) := by
  obtain ⟨caret, start, piece, rfl, hcaret, hlt, -⟩ := h.caret
  have hinside := h.inside
  have hstart := hcaret.start_le
  have hends (init : Text) : Text.endsWord (init ++ ['\\']) = false := by
    rw [Text.endsWord_concat]
    decide
  have hline (init : Text) : init ++ '\\' :: behind = (init ++ ['\\']) ++ behind := by simp
  -- the word stands behind the marker, with a gap in between
  obtain ⟨init, gap, htake, hinit, hgap⟩ := (memberMarker?_eq_some_iff (by omega)).1 hmarker
  have hbehind : (front ++ ['\\']).length ≤ start := by
    have hlength := congrArg List.length htake
    rw [List.length_take_of_le (by omega), List.length_append, List.length_cons] at hlength
    rw [List.length_append, List.length_singleton]
    omega
  obtain ⟨offset, rfl⟩ := Nat.exists_eq_add_of_le hbehind
  obtain ⟨reach, rfl⟩ : ∃ reach, column = (front ++ ['\\']).length + reach :=
    Nat.exists_eq_add_of_le (by omega)
  rw [hline, readsWord_append_left (hends front)] at h
  have hgap' : behind.take offset = gap := by
    rw [hline, List.take_length_add_append, List.append_assoc, List.singleton_append] at htake
    exact (List.cons.inj (List.append_inj htake hinit.symm).2).2
  have hshift (n : Nat) : (front ++ ['\\']).length + n + width = (front' ++ ['\\']).length + n := by
    simp only [List.length_append, List.length_singleton]
    omega
  have hword : (Word.ofText ((front ++ ['\\']).length + offset) piece).shift width =
      .ofText ((front' ++ ['\\']).length + offset) piece := by
    rw [← hshift]
    simp only [Word.shift, Word.ofText, Word.mk.injEq, and_true]
    omega
  rw [hshift, hword, hline front']
  refine ⟨(readsWord_append_left (hends front')).2 h, ?_⟩
  have hoffset : offset ≤ behind.length := by
    have := h.inside
    omega
  have hcolumn : (front' ++ ['\\']).length + offset ≤ (front' ++ ['\\'] ++ behind).length := by
    rw [@List.length_append _ _ behind]
    exact Nat.add_le_add_left hoffset _
  rw [Word.ofText_start, memberMarker?_eq_some_iff hcolumn]
  refine ⟨front', gap, ?_, rfl, hgap⟩
  rw [List.take_length_add_append, hgap', List.append_assoc, List.singleton_append]

end Shift

end Scope

end BlitzLens
