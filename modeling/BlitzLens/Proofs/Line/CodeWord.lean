import BlitzLens.Proofs.Line.Caret
import BlitzLens.Proofs.Line.Comment
import BlitzLens.Proofs.Line.Parenthesis
import Mathlib.Data.Nat.Find

/-!
# Code words

The words that highlighting goes through are the maximal runs of word characters of a line that
open like an identifier, start in front of the comment and stand outside strings. The comment
starts at the first semicolon behind an even number of quotes (`Line.commentStart?_eq_some_iff`),
and the runs of a text are the words that stand apart in it (`Line.mem_wordRuns_iff`). A scan for
identifiers, which may begin in the middle of a run, finds the same words once the matches that a
word character stands in front of are dropped (`Line.filter_identifiers`).

## Main definitions

* `Line.MarksComment`: a semicolon behind an even number of quotes.
* `Line.IsCodeWord`: a maximal run that is a word of the code.
* `Line.identifiers`: the matches of a scan for identifiers.

## Main results

* `Line.codeWords_maximal`: the words of the code of a line.
-/

namespace BlitzLens

namespace Line

variable {line text run : Text} {quoted : Bool} {start column n : Nat} {word : Word}

/-! ## The start of the comment -/

/-- A semicolon stands at a column of a line, behind an even number of quotes. -/
structure MarksComment (text : Text) (column : Nat) : Prop where
  /-- A semicolon stands there. -/
  char_eq : text[column]? = some ';'
  /-- An even number of quotes stands before it. -/
  even : (text.take column).count '"' % 2 = 0

/-- A semicolon stands at a column of a text, and the quotes before it leave no string open, where
`quoted` tells whether the text starts inside a string. -/
def MarksFrom (quoted : Bool) (text : Text) (column : Nat) : Prop :=
  text[column]? = some ';' ∧ (quoted.toNat + (text.take column).count '"') % 2 = 0

theorem marksFrom_zero {c : Char} : MarksFrom quoted (c :: text) 0 ↔ c = ';' ∧ quoted = false := by
  cases quoted <;> simp [MarksFrom]

/-- Further on, the first character matters only if it is a quote. -/
theorem marksFrom_succ {c : Char} : MarksFrom quoted (c :: text) (n + 1) ↔
    MarksFrom (if c == '"' then !quoted else quoted) text n := by
  rw [MarksFrom, MarksFrom, quotes_take_succ, List.getElem?_cons_succ]

/-- The least number with a property that zero does not have comes right behind the least one from
which the next number has it. -/
theorem isLeast_iff_of_not_zero {p : Nat → Prop} (hzero : ¬p 0) :
    IsLeast {m | p m} n ↔ ∃ m, IsLeast {m | p (m + 1)} m ∧ m + 1 = n := by
  constructor
  · intro h
    cases n with
    | zero => exact absurd h.1 hzero
    | succ n => exact ⟨n, ⟨h.1, fun m hm => Nat.le_of_succ_le_succ (h.2 hm)⟩, rfl⟩
  · rintro ⟨m, h, rfl⟩
    refine ⟨h.1, fun k hk => ?_⟩
    cases k with
    | zero => exact absurd hk hzero
    | succ k => exact Nat.succ_le_succ (h.2 hk)

/-- The semicolon that is found is the first one outside strings. -/
theorem semicolonFrom?_eq_some_iff :
    semicolonFrom? quoted text = some n ↔ IsLeast {m | MarksFrom quoted text m} n := by
  induction text generalizing quoted n with
  | nil => exact iff_of_false nofun fun h => nomatch h.1.1
  | cons c text ih =>
    by_cases hfirst : c = ';' ∧ quoted = false
    · -- the first character is found, and nothing stands before it
      obtain ⟨rfl, rfl⟩ := hfirst
      have hzero : MarksFrom false (';' :: text) 0 := marksFrom_zero.2 ⟨rfl, rfl⟩
      have hleast : IsLeast {m | MarksFrom false (';' :: text) m} 0 :=
        ⟨hzero, fun m _ => Nat.zero_le m⟩
      constructor
      · intro h
        cases h
        exact hleast
      · intro h
        rw [h.unique hleast]
        rfl
    · -- the search goes on behind the first character
      have hpass : semicolonFrom? quoted (c :: text) =
          (semicolonFrom? (if c == '"' then !quoted else quoted) text).map (· + 1) := by
        rw [semicolonFrom?]
        split_ifs with hquote hsemicolon
        · rfl
        · simp only [Bool.and_eq_true, beq_iff_eq, Bool.not_eq_true'] at hsemicolon
          exact absurd hsemicolon hfirst
        · rfl
      rw [hpass, isLeast_iff_of_not_zero (mt marksFrom_zero.1 hfirst), Option.map_eq_some_iff]
      simp only [marksFrom_succ, ih]

/-- The comment of a line starts at the first semicolon behind an even number of quotes. -/
theorem commentStart?_eq_some_iff :
    commentStart? line = some n ↔ IsLeast {column | MarksComment line column} n := by
  have hmarks (column : Nat) : MarksFrom false line column ↔ MarksComment line column := by
    rw [MarksFrom, Bool.toNat_false, Nat.zero_add]
    exact ⟨fun ⟨hchar, heven⟩ => ⟨hchar, heven⟩, fun h => ⟨h.char_eq, h.even⟩⟩
  rw [commentStart?, semicolonFrom?_eq_some_iff]
  simp only [hmarks]

/-- A column of a line is in front of the end of the code exactly if it is in front of every
semicolon that may start the comment. -/
theorem lt_codeEnd_iff (hcolumn : column < line.length) :
    column < codeEnd line ↔ ∀ semicolon, MarksComment line semicolon → column < semicolon := by
  unfold codeEnd
  cases hstart : commentStart? line with
  | none =>
    refine iff_of_true hcolumn fun semicolon hmarks => ?_
    -- the least of the semicolons would be found
    classical
    have hleast : IsLeast {column | MarksComment line column} (Nat.find ⟨semicolon, hmarks⟩) :=
      ⟨Nat.find_spec ⟨semicolon, hmarks⟩, fun m hm => Nat.find_min' _ hm⟩
    rw [← commentStart?_eq_some_iff, hstart] at hleast
    cases hleast
  | some semicolon =>
    have hleast := commentStart?_eq_some_iff.1 hstart
    exact ⟨fun hlt later hlater => Nat.lt_of_lt_of_le hlt (hleast.2 hlater),
      fun h => h semicolon hleast.1⟩

/-! ## The runs of a text -/

/-- The runs of word characters of a text are the words that stand apart in it. -/
theorem mem_wordRuns_iff :
    (start, run) ∈ wordRuns 0 text ↔ StandsAt text start run ∧ Text.IsWord run := by
  constructor
  · exact standsAt_of_mem_wordRuns [] rfl
  · rintro ⟨hstands, hword⟩
    obtain ⟨before, after, rfl, rfl, hbefore, hafter⟩ := hstands.exists_append
    rw [wordRuns_append_of_apart (by rw [hbefore, Bool.false_and]), Nat.zero_add,
      wordRuns_word_append hword hafter]
    exact List.mem_append_right _ List.mem_cons_self

/-! ## The words of the code -/

/-- A maximal run of word characters of a line that opens with an ASCII letter or an underscore,
starts in front of the first semicolon behind an even number of quotes, and has an even number of
quotes before it. -/
structure IsCodeWord (line : Text) (start : Nat) (run : Text) : Prop
    extends StandsAt line start run where
  /-- The run consists of word characters. -/
  isWord : Text.IsWord run
  /-- It opens with an ASCII letter or an underscore. -/
  opens : ∃ c ∈ run.head?, c = '_' ∨ c.isAlpha = true
  /-- It starts in front of the comment. -/
  before_comment : ∀ semicolon, MarksComment line semicolon → start < semicolon
  /-- It starts outside strings. -/
  outside_strings : (line.take start).count '"' % 2 = 0

/-- What opens like an identifier. -/
theorem opensIdentifier_iff :
    opensIdentifier run = true ↔ ∃ c ∈ run.head?, c = '_' ∨ c.isAlpha = true := by
  cases run with
  | nil => simp [opensIdentifier]
  | cons c run => simp [opensIdentifier, isIdentifierStart]

/-- A column of a line is outside strings behind an even number of quotes. -/
theorem inString_eq_false_iff (hcolumn : column ≤ line.length) :
    inString line (column : Int) = false ↔ (line.take column).count '"' % 2 = 0 := by
  rw [inString, Text.upTo_natCast hcolumn, beq_eq_false_iff_ne]
  omega

/-- A word that starts in the code ends there. -/
theorem StandsAt.codeAt (h : StandsAt line start run) (hword : Text.IsWord run)
    (hstart : start < codeEnd line) : CodeAt line start run := by
  refine ⟨h, ?_⟩
  by_contra hend
  -- no word goes on behind the code, so the code does not end inside the word
  have hcaret : CaretOn line (codeEnd line) start run :=
    ⟨h, hword, Nat.le_of_lt hstart, Nat.lt_of_not_le hend⟩
  have hgoesOn := hcaret.startsWord_drop
  rw [startsWord_drop_codeEnd] at hgoesOn
  cases hgoesOn

namespace IsCodeWord

/-- A word of the code starts in the code. -/
theorem lt_codeEnd (h : IsCodeWord line start run) : start < codeEnd line := by
  have hpositive := h.isWord.length_pos
  have hinside := h.inside
  exact (lt_codeEnd_iff (by omega)).2 h.before_comment

/-- A word of the code starts outside strings. -/
theorem inString_eq (h : IsCodeWord line start run) : inString line (start : Int) = false := by
  have hinside := h.inside
  exact (inString_eq_false_iff (by omega)).2 h.outside_strings

/-- A caret inside a word of the code is on the word and in the code. -/
theorem wordAt?_eq_and_isCode (h : IsCodeWord line start run) (hstart : start ≤ column)
    (hstop : column < start + run.length) :
    wordAt? line (column : Int) = .ok (some (.ofText start run)) ∧
      isCode line (column : Int) = true := by
  have hcaret : CaretOn line column start run := ⟨h.toStandsAt, h.isWord, hstart, hstop⟩
  refine ⟨hcaret.wordAt?_eq, ?_⟩
  rw [hcaret.isCode_eq, isCode, h.inString_eq, inComment_eq_false h.lt_codeEnd]
  rfl

end IsCodeWord

/-- The words of the code of a line are such runs. -/
theorem mem_codeWords_iff :
    word ∈ codeWords line ↔ ∃ start run, IsCodeWord line start run ∧ word = .ofText start run := by
  constructor
  · intro h
    obtain ⟨start, hword, hname, hopens, hcode⟩ := exists_nameAt_of_mem_codeWords h
    have hpositive := hname.isWord.length_pos
    have hinside := hname.inside
    have hinCode := hname.inCode
    rw [isCode, Bool.and_eq_true, Bool.not_eq_true'] at hcode
    refine ⟨start, word.text, ⟨hname.toStandsAt, hname.isWord, opensIdentifier_iff.1 hopens, ?_,
      ?_⟩, hword⟩
    · exact (lt_codeEnd_iff (by omega)).1 (by omega)
    · exact (inString_eq_false_iff (by omega)).1 hcode.1
  · rintro ⟨start, run, h, rfl⟩
    -- the run is one of the code alone, and is kept
    have hruns : (start, run) ∈ wordRuns 0 (code line) :=
      mem_wordRuns_iff.2 ⟨(h.toStandsAt.codeAt h.isWord h.lt_codeEnd).standsAt_code, h.isWord⟩
    have hkept : (opensIdentifier run && !inString line (start : Int)) = true := by
      rw [opensIdentifier_iff.2 h.opens, h.inString_eq]
      rfl
    exact List.mem_map.2 ⟨(start, run), List.mem_filter.2 ⟨hruns, hkept⟩, rfl⟩

/-! ## The scan for identifiers -/

/-- The identifiers that a scan from left to right finds in a text that starts at `column`: an
identifier opens with the first character that may open one, goes on as far as there are word
characters, and the scan goes on behind it. -/
def identifiers (column : Nat) : Text → List (Nat × Text)
  | [] => []
  | c :: text =>
    if isIdentifierStart c then
      (column, c :: text.takeWhile isWordChar) ::
        identifiers (column + (c :: text.takeWhile isWordChar).length) (text.dropWhile isWordChar)
    else identifiers (column + 1) text
termination_by text => text.length
decreasing_by
  · exact Nat.lt_succ_of_le (List.length_dropWhile_le ..)
  · exact Nat.lt_succ_self _

/-- Whether no word of a line goes on beyond the ends of an identifier that starts at a column. -/
def isWhole (line : Text) (found : Nat × Text) : Bool :=
  isWordBoundary line (found.1 : Int) ((found.1 + found.2.length : Nat) : Int) == .ok true

/-- An identifier is whole if no word ends in front of it and none starts behind it. -/
theorem isWhole_append (before name after : Text) :
    isWhole (before ++ (name ++ after)) (before.length, name) =
      (!Text.endsWord before && !Text.startsWord after) := by
  have hinside : before.length ≤ (before ++ (name ++ after)).length := by simp
  rw [isWhole, isWordBoundary_natCast hinside, List.take_left, ← List.drop_drop, List.drop_left,
    List.drop_left]
  generalize (!Text.endsWord before && !Text.startsWord after) = whole
  cases whole <;> rfl

/-- A word at the start of a text has at most one match, which reaches to its end. -/
theorem identifiers_word_append {c : Char} {rest : Text}
    (hword : ∀ d ∈ run, isWordChar d = true) (hrest : Text.startsWord rest = false) (column : Nat) :
    identifiers column (c :: (run ++ rest)) =
      if isIdentifierStart c then
        (column, c :: run) :: identifiers (column + (c :: run).length) rest
      else identifiers (column + 1) (run ++ rest) := by
  have hrun : (run ++ rest).takeWhile isWordChar = run := Text.wordRun_append hword hrest
  have hdrop : (run ++ rest).dropWhile isWordChar = rest := by
    have happend := List.takeWhile_append_dropWhile (p := isWordChar) (l := run ++ rest)
    rw [hrun] at happend
    exact List.append_cancel_left happend
  rw [identifiers, hrun, hdrop]

/-- Inside a word no match is whole: a word character stands in front of it. -/
theorem filter_identifiers_inside {before rest after : Text}
    (hline : line = before ++ (run ++ after)) (hbefore : Text.endsWord before = true)
    (hword : ∀ d ∈ run, isWordChar d = true) (hrest : Text.startsWord rest = false) :
    (identifiers before.length (run ++ rest)).filter (isWhole line) =
      (identifiers (before.length + run.length) rest).filter (isWhole line) := by
  induction run generalizing before with
  | nil => rfl
  | cons c run ih =>
    obtain ⟨hc, hrun⟩ := List.forall_mem_cons.1 hword
    rw [List.cons_append, identifiers_word_append hrun hrest]
    split_ifs with hopens
    · have hcut : isWhole line (before.length, c :: run) = false := by
        rw [hline, isWhole_append, hbefore]
        rfl
      rw [List.filter_cons_of_neg (by simp [hcut])]
    · have hline' : line = (before ++ [c]) ++ (run ++ after) := by
        rw [hline, List.append_assoc]
        rfl
      have hlater := ih hline' (by rwa [Text.endsWord_concat]) hrun
      rw [List.length_append, List.length_singleton] at hlater
      rw [hlater, List.length_cons, Nat.add_assoc, Nat.add_comm 1]

/-- At the start of a word the match is whole if the word opens like an identifier, and otherwise
there is no whole match. -/
theorem filter_identifiers_word {before rest after : Text}
    (hline : line = before ++ (run ++ after)) (hbefore : Text.endsWord before = false)
    (hrun : Text.IsWord run) (hrest : Text.startsWord rest = false)
    (hafter : Text.startsWord after = false) :
    (identifiers before.length (run ++ rest)).filter (isWhole line) =
      (if opensIdentifier run then [(before.length, run)] else []) ++
        (identifiers (before.length + run.length) rest).filter (isWhole line) := by
  cases run with
  | nil => exact absurd rfl hrun.ne_nil
  | cons c run =>
    obtain ⟨hc, hword⟩ := List.forall_mem_cons.1 hrun.all_word
    have hopens : opensIdentifier (c :: run) = isIdentifierStart c := rfl
    rw [List.cons_append, identifiers_word_append hword hrest, hopens]
    split_ifs with hstart
    · have hwhole : isWhole line (before.length, c :: run) = true := by
        rw [hline, isWhole_append, hbefore, hafter]
        rfl
      rw [List.filter_cons_of_pos hwhole, List.singleton_append]
    · have hline' : line = (before ++ [c]) ++ (run ++ after) := by
        rw [hline, List.append_assoc]
        rfl
      have hlater := filter_identifiers_inside hline' (by rwa [Text.endsWord_concat]) hword hrest
      rw [List.length_append, List.length_singleton] at hlater
      rw [hlater, List.length_cons, Nat.add_assoc, Nat.add_comm 1, List.nil_append]

/-- The whole matches of a scan are the runs that open like an identifier. -/
theorem filter_identifiers {before tail : Text} (hline : line = before ++ (text ++ tail))
    (hcursor : (Text.endsWord before && Text.startsWord text) = false)
    (htail : Text.startsWord tail = false) :
    (identifiers before.length text).filter (isWhole line) =
      (wordRuns before.length text).filter fun found => opensIdentifier found.2 := by
  induction text using Text.wordInduction generalizing before with
  | nil => simp [identifiers, wordRuns]
  | char c text hc ih =>
    -- a character that belongs to no word opens no identifier
    have hopens : ¬isIdentifierStart c = true := fun hopens => by
      rw [isWordChar_of_isIdentifierStart hopens] at hc
      cases hc
    have hline' : line = (before ++ [c]) ++ (text ++ tail) := by
      rw [hline, List.append_assoc]
      rfl
    have hlater := ih hline' (by simp [hc])
    rw [List.length_append, List.length_singleton] at hlater
    rw [identifiers, if_neg hopens, wordRuns_cons_of_not hc, hlater]
  | word run rest hrun hrest ih =>
    rw [hrun.startsWord_append, Bool.and_true] at hcursor
    rw [List.append_assoc] at hline
    have hline' : line = (before ++ run) ++ (rest ++ tail) := by rw [hline, List.append_assoc]
    have hlater := ih hline' (by rw [hrest, Bool.and_false])
    have hafter : Text.startsWord (rest ++ tail) = false :=
      Text.startsWord_append_eq_false hrest htail
    rw [List.length_append] at hlater
    rw [filter_identifiers_word hline hcursor hrun hrest hafter, wordRuns_word_append hrun hrest,
      List.filter_cons, hlater]
    split_ifs <;> rfl

/-- The words of the code are the whole matches of a scan of the code that start outside strings. -/
theorem codeWords_eq_identifiers (line : Text) :
    codeWords line = ((identifiers 0 (code line)).filter fun found =>
        isWhole line found && !inString line (found.1 : Int)).map fun found =>
      .ofText found.1 found.2 := by
  have hline : line = [] ++ (code line ++ line.drop (codeEnd line)) :=
    (code_append_drop line).symm
  have hscan : (identifiers 0 (code line)).filter (isWhole line) =
      (wordRuns 0 (code line)).filter fun found => opensIdentifier found.2 :=
    filter_identifiers hline rfl (startsWord_drop_codeEnd line)
  have hkeep (p : Nat × Text → Bool) (found : List (Nat × Text)) :
      found.filter (fun found => p found && !inString line (found.1 : Int)) =
        (found.filter p).filter fun found => !inString line (found.1 : Int) := by
    rw [List.filter_filter]
    exact List.filter_congr fun found _ => Bool.and_comm _ _
  rw [codeWords, hkeep (isWhole line), hkeep fun found => opensIdentifier found.2, ← hscan]
  rfl

/-! ## All words of the code -/

/-- **The words of the code.** The words of the code of a line are exactly its maximal runs of word
characters that open with an ASCII letter or an underscore, start in front of the first semicolon
behind an even number of quotes, and have an even number of quotes before them. They come from left
to right, with another character between two of them. A caret on any character of such a word is on
that word and in the code. And a scan of the code for identifiers finds these words, and no others,
if the matches that are part of a longer word of the line or start in a string are dropped. -/
theorem codeWords_maximal (line : Text) :
    (∀ word, word ∈ codeWords line ↔
      ∃ start run, IsCodeWord line start run ∧ word = .ofText start run) ∧
    (codeWords line).Pairwise (fun word later => word.stop < later.start) ∧
    (∀ word ∈ codeWords line, ∀ column : Int, word.start ≤ column → column < word.stop →
      wordAt? line column = .ok (some word) ∧ isCode line column = true) ∧
    codeWords line = ((identifiers 0 (code line)).filter fun found =>
        isWhole line found && !inString line (found.1 : Int)).map fun found =>
      .ofText found.1 found.2 := by
  refine ⟨fun word => mem_codeWords_iff, ?_, ?_, codeWords_eq_identifiers line⟩
  · exact List.pairwise_map.2 (((pairwise_wordRuns 0 _).filter _).imp fun {run later} hlt => by
      exact Int.ofNat_lt.2 hlt)
  · intro word hword column hstart hstop
    obtain ⟨start, run, h, rfl⟩ := mem_codeWords_iff.1 hword
    -- the column is counted from the start of the line
    obtain ⟨column, rfl⟩ := Int.eq_ofNat_of_zero_le (Int.le_trans (Int.natCast_nonneg start) hstart)
    exact h.wordAt?_eq_and_isCode (Int.ofNat_le.1 hstart) (Int.ofNat_lt.1 hstop)

/-- Of the runs of a line, one stands in a string, one starts with a digit, one starts with a letter
beyond ASCII and one stands in the comment; the remaining one is the only word of the code. -/
theorem codeWords_maximal_mixed :
    let line : Text := "\"a\" 1b ab_é2 éc;d"
    let word : Word := ⟨7, 12, "ab_é2"⟩
    word ∈ codeWords line ∧ (∀ other ∈ codeWords line, other = word) ∧
      (∃ start run, IsCodeWord line start run ∧ word = .ofText start run) ∧
      word.start ≤ 11 ∧ 11 < word.stop ∧
      wordAt? line 11 = .ok (some word) ∧ isCode line 11 = true := by
  intro line word
  have hwords : codeWords line = [word] := by decide +kernel
  have hmem : word ∈ codeWords line := by rw [hwords, List.mem_singleton]
  obtain ⟨hruns, -, htouches, -⟩ := codeWords_maximal line
  refine ⟨hmem, fun other hother => ?_, (hruns word).1 hmem, by decide, by decide, ?_⟩
  · rwa [hwords, List.mem_singleton] at hother
  · exact htouches word hmem 11 (by decide) (by decide)

end Line

end BlitzLens
