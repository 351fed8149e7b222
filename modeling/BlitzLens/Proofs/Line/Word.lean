import BlitzLens.Extraction.Draft
import BlitzLens.Proofs.Text.Word

/-!
# Whole words of a line

A piece of a line stands apart when no word of the line goes on beyond its ends (`Line.StandsAt`).
The names that a line declares are words that stand apart. They are found again by `locate`, which
goes over the runs of word characters from a cursor on: if a word stands apart somewhere behind a
cursor that is not inside a word, then `locate` finds it there or before (`exists_locate_eq`).
-/

namespace BlitzLens

namespace Line

/-- A piece of text stands at a column of a line, and no word of the line goes on beyond its
ends. -/
structure StandsAt (line : Text) (column : Nat) (piece : Text) : Prop where
  /-- The piece ends within the line. -/
  inside : column + piece.length ≤ line.length
  /-- The piece is what the line holds there. -/
  slice : (line.drop column).take piece.length = piece
  /-- No word ends in front of the piece. -/
  left : Text.endsWord (line.take column) = false
  /-- No word starts behind the piece. -/
  right : Text.startsWord (line.drop (column + piece.length)) = false

/-- What stands between two texts that no word reaches out of stands apart. -/
theorem StandsAt.of_append {before piece after : Text} (hleft : Text.endsWord before = false)
    (hright : Text.startsWord after = false) :
    StandsAt (before ++ (piece ++ after)) before.length piece where
  inside := by simp only [List.length_append]; omega
  slice := by rw [List.drop_left, List.take_left]
  left := by rwa [List.take_left]
  right := by rwa [← List.drop_drop, List.drop_left, List.drop_left]

/-- A line is made of what stands before a piece, the piece, and what stands behind it. -/
theorem StandsAt.exists_append {line piece : Text} {column : Nat} (h : StandsAt line column piece) :
    ∃ before after, line = before ++ (piece ++ after) ∧ before.length = column ∧
      Text.endsWord before = false ∧ Text.startsWord after = false := by
  refine ⟨line.take column, line.drop (column + piece.length), ?_, ?_, h.left, h.right⟩
  · calc line
      _ = line.take column ++ line.drop column := (List.take_append_drop _ _).symm
      _ = line.take column ++
          ((line.drop column).take piece.length ++ (line.drop column).drop piece.length) := by
        rw [List.take_append_drop piece.length]
      _ = _ := by rw [h.slice, List.drop_drop]
  · have := h.inside
    rw [List.length_take]
    omega

/-! ## Word boundaries -/

/-- Whether the character at a column of a line is a word character. -/
theorem wordCharAt_natCast {line : Text} {column : Nat} (h : column < line.length) :
    wordCharAt line (column : Int) = .ok (Text.startsWord (line.drop column)) := by
  have hchar : Text.charAt? line (column : Int) = some (line)[column] :=
    List.getElem?_eq_getElem h
  rw [wordCharAt, Text.charAt, hchar, List.drop_eq_getElem_cons h, Text.startsWord_cons]
  rfl

/-- A word character stands on the line. -/
theorem lt_length_of_wordCharAt {line : Text} {column : Nat} {found : Bool}
    (h : wordCharAt line (column : Int) = .ok found) : column < line.length := by
  by_contra hout
  have hchar : Text.charAt? line (column : Int) = none :=
    List.getElem?_eq_none (Nat.not_lt.1 hout)
  rw [wordCharAt, Text.charAt, hchar] at h
  cases h

/-- Whether two columns are inside a word: none may end at the first or start at the second. -/
theorem isWordBoundary_natCast {line : Text} {start : Nat} (h : start ≤ line.length)
    (stop : Nat) : isWordBoundary line (start : Int) (stop : Int) =
      .ok (!Text.endsWord (line.take start) && !Text.startsWord (line.drop stop)) := by
  have hleft : 0 < start →
      wordCharAt line ((start : Int) - 1) = .ok (Text.endsWord (line.take start)) := by
    intro hpositive
    have hpred : (start : Int) - 1 = ((start - 1 : Nat) : Int) := by omega
    rw [hpred, wordCharAt_natCast (by omega), Text.startsWord, Text.endsWord, List.head?_drop,
      List.getLast?_eq_getElem?, List.length_take, Nat.min_eq_left h,
      List.getElem?_take_of_lt (by omega)]
  have hbefore : ¬0 < start → Text.endsWord (line.take start) = false := by
    intro hzero
    rw [Nat.eq_zero_of_not_pos hzero, List.take_zero]
    rfl
  have hbehind : ¬stop < line.length → Text.startsWord (line.drop stop) = false := by
    intro hend
    rw [List.drop_eq_nil_of_le (Nat.le_of_not_lt hend), Text.startsWord_nil]
  -- each end is looked at only if the line has a character there
  unfold Line.isWordBoundary
  by_cases hstart : (start : Int) > 0
  · rw [if_pos hstart, hleft (Int.natCast_pos.1 hstart)]
    cases Text.endsWord (line.take start) with
    | true => rfl
    | false =>
      by_cases hstop : (stop : Int) < line.length
      · rw [if_pos hstop, wordCharAt_natCast (Int.ofNat_lt.1 hstop)]
        rfl
      · rw [if_neg hstop, hbehind (by omega)]
        rfl
  · rw [if_neg hstart, hbefore (by omega)]
    by_cases hstop : (stop : Int) < line.length
    · rw [if_pos hstop, wordCharAt_natCast (Int.ofNat_lt.1 hstop)]
      rfl
    · rw [if_neg hstop, hbehind (by omega)]
      rfl

/-- The columns of a piece that stands apart are not inside a word. -/
theorem StandsAt.isWordBoundary {line piece : Text} {column : Nat}
    (h : StandsAt line column piece) :
    isWordBoundary line (column : Int) ((column + piece.length : Nat) : Int) = .ok true := by
  rw [isWordBoundary_natCast (Nat.le_trans (Nat.le_add_right _ _) h.inside), h.left, h.right]
  rfl

/-! ## Runs of word characters -/

/-- A character that belongs to no word is passed over. -/
theorem wordRuns_cons_of_not {c : Char} (h : isWordChar c = false) (column : Nat) (text : Text) :
    wordRuns column (c :: text) = wordRuns (column + 1) text := by
  simp [wordRuns, h]

/-- Runs start at or behind the column where the text starts. -/
theorem le_of_mem_wordRuns {column : Nat} {text : Text} {run : Nat × Text}
    (h : run ∈ wordRuns column text) : column ≤ run.1 := by
  induction text generalizing column run with
  | nil => cases h
  | cons c text ih =>
    -- what the rest of the text holds starts further on
    have hlater (run : Nat × Text) (h : run ∈ wordRuns (column + 1) text) : column ≤ run.1 :=
      Nat.le_of_succ_le (ih h)
    rw [wordRuns] at h
    split_ifs at h with hc
    · cases hruns : wordRuns (column + 1) text with
      | nil =>
        rw [hruns] at h
        rw [List.mem_singleton.1 h]
      | cons first others =>
        rw [hruns] at h hlater
        dsimp only at h
        split_ifs at h
        · rcases List.mem_cons.1 h with rfl | h
          · exact Nat.le_refl _
          · exact hlater run (List.mem_cons_of_mem _ h)
        · rcases List.mem_cons.1 h with rfl | h
          · exact Nat.le_refl _
          · exact hlater run h
    · exact hlater run h

/-- No run of a text that does not start with a word starts where the text does. -/
theorem ne_of_mem_wordRuns {column : Nat} {text : Text} {run : Nat × Text}
    (htext : Text.startsWord text = false) (h : run ∈ wordRuns column text) : run.1 ≠ column := by
  cases text with
  | nil => cases h
  | cons c text =>
    rw [Text.startsWord_cons] at htext
    rw [wordRuns_cons_of_not htext] at h
    have := le_of_mem_wordRuns h
    omega

/-- Runs stop within the text. -/
theorem stop_le_of_mem_wordRuns {column : Nat} {text : Text} {run : Nat × Text}
    (h : run ∈ wordRuns column text) : run.1 + run.2.length ≤ column + text.length := by
  induction text generalizing column run with
  | nil => cases h
  | cons c text ih =>
    -- the text goes on from the next column
    have hlength : column + (c :: text).length = column + 1 + text.length := by
      rw [List.length_cons]
      omega
    have hlater (run : Nat × Text) (h : run ∈ wordRuns (column + 1) text) :
        run.1 + run.2.length ≤ column + (c :: text).length := hlength ▸ ih h
    rw [wordRuns] at h
    split_ifs at h with hc
    · cases hruns : wordRuns (column + 1) text with
      | nil =>
        rw [hruns] at h
        rw [List.mem_singleton.1 h, hlength, List.length_singleton]
        omega
      | cons first others =>
        rw [hruns] at h hlater
        dsimp only at h
        split_ifs at h with hnext
        · rcases List.mem_cons.1 h with rfl | h
          · have hfirst := hlater first List.mem_cons_self
            rw [beq_iff_eq] at hnext
            simp only [List.length_cons] at hfirst ⊢
            omega
          · exact hlater run (List.mem_cons_of_mem _ h)
        · rcases List.mem_cons.1 h with rfl | h
          · simp only [List.length_cons, List.length_nil]
            omega
          · exact hlater run h
    · exact hlater run h

/-- Between two runs of a text stands another character. -/
theorem pairwise_wordRuns (column : Nat) (text : Text) :
    (wordRuns column text).Pairwise fun run later => run.1 + run.2.length < later.1 := by
  induction text generalizing column with
  | nil => exact .nil
  | cons c text ih =>
    have hlater := ih (column + 1)
    have hle (run : Nat × Text) (h : run ∈ wordRuns (column + 1) text) : column + 1 ≤ run.1 :=
      le_of_mem_wordRuns h
    rw [wordRuns]
    split_ifs with hc
    · cases hruns : wordRuns (column + 1) text with
      | nil => exact List.pairwise_singleton _ _
      | cons first others =>
        rw [hruns] at hlater hle
        obtain ⟨hfirst, hothers⟩ := List.pairwise_cons.1 hlater
        have hfirstLe := hle first List.mem_cons_self
        dsimp only
        split_ifs with hnext
        · -- the character belongs to the first run
          rw [beq_iff_eq] at hnext
          refine List.pairwise_cons.2 ⟨fun run hrun => ?_, hothers⟩
          have hlt := hfirst run hrun
          simp only [List.length_cons]
          omega
        · rw [beq_iff_eq] at hnext
          refine List.pairwise_cons.2 ⟨fun run hrun => ?_, hlater⟩
          rcases List.mem_cons.1 hrun with rfl | hother
          · simp only [List.length_singleton]
            omega
          · have hlt := hfirst run hother
            simp only [List.length_singleton]
            omega
    · exact hlater

/-- The runs of two texts are those of the texts one after the other, if no word goes on from the
first one into the second one. -/
theorem wordRuns_append_of_apart {text tail : Text}
    (hapart : (Text.endsWord text && Text.startsWord tail) = false) (column : Nat) :
    wordRuns column (text ++ tail) =
      wordRuns column text ++ wordRuns (column + text.length) tail := by
  induction text generalizing column with
  | nil => rfl
  | cons c text ih =>
    have hlength : column + (c :: text).length = column + 1 + text.length := by
      rw [List.length_cons]
      omega
    have hrest : (Text.endsWord text && Text.startsWord tail) = false := by
      by_cases hnil : text = []
      · rw [hnil]
        rfl
      · rwa [← List.singleton_append, Text.endsWord_append hnil] at hapart
    specialize ih hrest
    rw [List.cons_append, hlength]
    cases hc : isWordChar c with
    | false => rw [wordRuns_cons_of_not hc, wordRuns_cons_of_not hc, ih]
    | true =>
      rw [wordRuns, wordRuns, if_pos hc, if_pos hc, ih]
      cases hruns : wordRuns (column + 1) text with
      | cons first others =>
        simp only [List.cons_append]
        split_ifs <;> rfl
      | nil =>
        -- the next run belongs to the second text, and does not start at the next column
        rw [List.nil_append]
        cases hlater : wordRuns (column + 1 + text.length) tail with
        | nil => rfl
        | cons first others =>
          have hmem : first ∈ wordRuns (column + 1 + text.length) tail :=
            hlater ▸ List.mem_cons_self
          have hle := le_of_mem_wordRuns hmem
          have hgap : ¬(first.1 == column + 1) = true := by
            rw [beq_iff_eq]
            intro hnext
            -- then the first text is the one character, which a word may not follow
            obtain rfl : text = [] := List.length_eq_zero_iff.1 (by omega)
            have htail : Text.startsWord tail = false := by simpa [Text.endsWord, hc] using hapart
            exact ne_of_mem_wordRuns htail hmem hnext
          dsimp only
          rw [if_neg hgap]
          rfl

/-- The runs of two texts are those of the texts one after the other, if no word starts with the
second one. -/
theorem wordRuns_append {text tail : Text} (htail : Text.startsWord tail = false) (column : Nat) :
    wordRuns column (text ++ tail) =
      wordRuns column text ++ wordRuns (column + text.length) tail :=
  wordRuns_append_of_apart (by rw [htail, Bool.and_false]) column

/-- A word is its only run. -/
theorem wordRuns_word {word : Text} (hword : Text.IsWord word) (column : Nat) :
    wordRuns column word = [(column, word)] := by
  induction word generalizing column with
  | nil => exact absurd rfl hword.ne_nil
  | cons c word ih =>
    rw [wordRuns, if_pos (hword.all_word c List.mem_cons_self)]
    cases word with
    | nil => rfl
    | cons d word =>
      have htail : Text.IsWord (d :: word) :=
        ⟨List.cons_ne_nil _ _, fun e he => hword.all_word e (List.mem_cons_of_mem _ he)⟩
      rw [ih htail]
      exact if_pos (beq_self_eq_true _)

/-- A word at the start of a text is its first run, if no word goes on behind it. -/
theorem wordRuns_word_append {word after : Text} (hword : Text.IsWord word)
    (hafter : Text.startsWord after = false) (column : Nat) :
    wordRuns column (word ++ after) =
      (column, word) :: wordRuns (column + word.length) after := by
  rw [wordRuns_append hafter, wordRuns_word hword, List.singleton_append]

/-- The first run of `text`, which stands behind `before` on a line, that equals a word stands apart
on the line, at `last` or before. -/
def FindsApart (before text word : Text) (last : Nat) : Prop :=
  ∃ start, before.length ≤ start ∧ start ≤ last ∧ StandsAt (before ++ text) start word ∧
    (wordRuns before.length text).find? (fun (_, run) => run == word) = some (start, word)

/-- What holds no run that equals a word may be passed over in the search for the word. -/
theorem FindsApart.pass {before passed text word : Text} {last : Nat}
    (h : FindsApart (before ++ passed) text word last)
    (hpassed : (wordRuns before.length (passed ++ text)).find? (fun (_, run) => run == word) =
      (wordRuns (before ++ passed).length text).find? (fun (_, run) => run == word)) :
    FindsApart before (passed ++ text) word last := by
  obtain ⟨start, hlow, hhigh, hstands, hfind⟩ := h
  rw [List.append_assoc] at hstands
  rw [List.length_append] at hlow
  exact ⟨start, by omega, hhigh, hstands, hpassed.trans hfind⟩

/-- If a word stands apart behind a column that is not inside a word, then the first run that equals
it stands apart as well, there or before. -/
theorem findsApart {before gap name after : Text} (hname : Text.IsWord name)
    (hafter : Text.startsWord after = false) (hgap : Text.endsWord (before ++ gap) = false)
    (hcursor : (Text.endsWord before && Text.startsWord (gap ++ (name ++ after))) = false) :
    FindsApart before (gap ++ (name ++ after)) name (before ++ gap).length := by
  -- the search passes over one character or one run at a time
  induction gap using Text.wordInduction generalizing before with
  | nil =>
    rw [List.append_nil] at hgap ⊢
    refine ⟨before.length, Nat.le_refl _, Nat.le_refl _, .of_append hgap hafter, ?_⟩
    rw [List.nil_append, wordRuns_word_append hname hafter, List.find?_cons_of_pos (by simp)]
  | char c gap hc ih =>
    -- behind a character that belongs to no word, the cursor is not inside a word either
    have hgap' : Text.endsWord (before ++ [c] ++ gap) = false := by simpa using hgap
    have hcursor' : (Text.endsWord (before ++ [c]) &&
        Text.startsWord (gap ++ (name ++ after))) = false := by simp [hc]
    have hfinds := ih hgap' hcursor'
    rw [List.append_assoc before] at hfinds
    refine hfinds.pass ?_
    rw [List.singleton_append, wordRuns_cons_of_not hc, List.length_append,
      List.length_singleton]
  | word run rest hrun hstart ih =>
    -- the cursor stands in front of a run, which may be the word itself
    rw [List.append_assoc, hrun.startsWord_append, Bool.and_true] at hcursor
    have hrest : rest ≠ [] := by
      rintro rfl
      rw [List.append_nil, Text.endsWord_append hrun.ne_nil, hrun.endsWord] at hgap
      cases hgap
    have hbehind : Text.startsWord (rest ++ (name ++ after)) = false := by
      rwa [Text.startsWord_append hrest]
    rw [List.append_assoc]
    by_cases heq : run = name
    · subst heq
      refine ⟨before.length, Nat.le_refl _, ?_, .of_append hcursor hbehind, ?_⟩
      · rw [List.length_append]
        omega
      · rw [wordRuns_word_append hrun hbehind, List.find?_cons_of_pos (by simp)]
    · rw [← List.append_assoc] at hgap
      have hcursor' : (Text.endsWord (before ++ run) &&
          Text.startsWord (rest ++ (name ++ after))) = false := by
        rw [hbehind, Bool.and_false]
      have hfinds := ih hgap hcursor'
      rw [List.append_assoc before] at hfinds
      refine hfinds.pass ?_
      rw [wordRuns_word_append hrun hbehind, List.find?_cons_of_neg (by simpa using heq),
        List.length_append]

/-- A column of a line is not inside a word. -/
def BetweenWords (line : Text) (column : Nat) : Prop :=
  (Text.endsWord (line.take column) && Text.startsWord (line.drop column)) = false

/-- A word that stands apart behind a cursor that is not inside a word is located at a place where
it stands apart as well, there or before; what stands behind the line does not matter. -/
theorem exists_locate_eq {line before name after : Text} {column : Nat}
    (hline : line = before ++ (name ++ after)) (hcolumn : column ≤ before.length)
    (hcursor : BetweenWords line column) (hbefore : Text.endsWord before = false)
    (hname : Text.IsWord name) (hafter : Text.startsWord after = false) :
    ∃ start, column ≤ start ∧ start ≤ before.length ∧ StandsAt line start name ∧
      ∀ tail, Text.startsWord tail = false →
        locate (line ++ tail) name column = (start, start + name.length) := by
  have htake : line.take column = before.take column := by
    rw [hline, List.take_append_of_le_length hcolumn]
  have hdrop : line.drop column = before.drop column ++ (name ++ after) := by
    rw [hline, List.drop_append_of_le_length hcolumn]
  have hsplit : line = before.take column ++ (before.drop column ++ (name ++ after)) := by
    rw [← htake, ← hdrop, List.take_append_drop]
  have hlength : (before.take column).length = column := by
    rw [List.length_take, Nat.min_eq_left hcolumn]
  rw [BetweenWords, htake, hdrop] at hcursor
  rw [← List.take_append_drop column before] at hbefore
  obtain ⟨start, hlow, hhigh, hstands, hfind⟩ := findsApart hname hafter hbefore hcursor
  rw [← hsplit] at hstands
  rw [hlength] at hlow hfind
  rw [← hdrop] at hfind
  rw [List.take_append_drop] at hhigh
  refine ⟨start, hlow, hhigh, hstands, fun tail htail => ?_⟩
  -- the word is found among the runs of the line, in front of those of the tail
  have hinside : column ≤ line.length := by
    rw [hline, List.length_append]
    omega
  rw [locate, List.drop_append_of_le_length hinside, wordRuns_append htail, List.find?_append,
    hfind, Option.some_or]

end Line

end BlitzLens
