import BlitzLens.Proofs.Line.Caret
import BlitzLens.Proofs.Query.Tokens
import Mathlib.Data.List.Sort

/-!
# The stream of highlights

The tokens of a document come in the order of the text and share no character, for they are words
of the code. So their encoding, which gives every token relative to the one before it, has no
negative number. The encoding loses nothing: a reader that adds the numbers up again gets back the
tokens that were encoded, sorted by their places.

## Main definitions

* `Token.decode`: the tokens that an encoding stands for;
* `Token.MarksCode`: a token covers a stretch of the code of its line;
* `Token.Sorted`: a list of tokens is another one, sorted by their places and otherwise unchanged.

## Main results

* `Highlight.pairwise_tokensOn` and `Highlight.marksCode_of_mem_tokensOn`: the tokens of a line;
* `Token.nonneg_of_encodeFrom`: what is encoded in order has no negative number;
* `Token.exists_decodeFrom`: decoding inverts encoding;
* `Highlight.stream_decodes`: all of this for the tokens of a document.
-/

namespace BlitzLens

/-- Sorting keeps the order of the elements that are tied with each other. -/
theorem filter_mergeSort {α : Type} {le : α → α → Bool}
    (htrans : ∀ a b c, le a b = true → le b c = true → le a c = true)
    (htotal : ∀ a b, (le a b || le b a) = true) {list : List α} {tied : α → Bool}
    (h : ∀ a ∈ list.filter tied, ∀ b ∈ list.filter tied, le a b = true) :
    (list.mergeSort le).filter tied = list.filter tied := by
  have horder : (list.filter tied).Pairwise fun a b => le a b = true :=
    List.pairwise_of_forall_mem_list h
  have hsublist :=
    (List.sublist_mergeSort htrans htotal horder List.filter_sublist).filter tied
  simp only [List.filter_filter, Bool.and_self] at hsublist
  refine (hsublist.eq_of_length ?_).symm
  exact ((List.mergeSort_perm list le).filter tied).length_eq.symm

/-! ## Reading an encoding -/

namespace TokenClass

/-- The class with a word. -/
def ofWord? (word : Text) : Option TokenClass :=
  all.find? fun tokenClass => tokenClass.word == word

/-- Every class is the one with its word. -/
@[simp]
theorem ofWord?_word (tokenClass : TokenClass) : ofWord? tokenClass.word = some tokenClass := by
  cases tokenClass <;> rfl

/-- The full legend has the words of all classes. -/
theorem word_mem_fullLegend (tokenClass : TokenClass) : tokenClass.word ∈ Token.fullLegend := by
  cases tokenClass <;> decide

end TokenClass

namespace Token

/-- The class that a number stands for. -/
def classAt? (legend : List Text) : Int → Option TokenClass
  | .ofNat index => legend[index]?.bind TokenClass.ofWord?
  | .negSucc _ => none

/-- The tokens that numbers stand for, the first behind a token at `line` and `start`. Each token
takes five numbers: how many lines it is further down, its start, counted from the start of the
token before it if that is on the same line, its length, its class, and one that is not used. -/
def decodeFrom (legend : List Text) (line start : Int) : List Int → Option (List Token)
  | [] => some []
  | down :: column :: length :: index :: _ :: later => do
    let tokenClass ← classAt? legend index
    let start := if down = 0 then start + column else column
    let tokens ← decodeFrom legend (line + down) start later
    return ⟨line + down, start, length, tokenClass⟩ :: tokens
  | _ => none

/-- The tokens that an encoding stands for. -/
def decode (legend : List Text) (numbers : List Int) : Option (List Token) :=
  decodeFrom legend 0 0 numbers

/-- The number of a word of a legend stands for the class with the word. -/
theorem classAt?_of_idxOf? {legend : List Text} {tokenClass : TokenClass} {index : Nat}
    (h : legend.idxOf? tokenClass.word = some index) :
    classAt? legend index = some tokenClass := by
  obtain ⟨hlt, hword, -⟩ := List.idxOf?_eq_some_iff.1 h
  show legend[index]?.bind TokenClass.ofWord? = some tokenClass
  simp [List.getElem?_eq_getElem hlt, hword]

/-- Decoding inverts encoding, wherever the tokens go on. -/
theorem exists_decodeFrom (legend : List Text) (tokens : List Token) (line start : Int)
    (h : ∀ token ∈ tokens, token.tokenClass.word ∈ legend) :
    ∃ numbers, encodeFrom legend line start tokens = .ok numbers ∧
      decodeFrom legend line start numbers = some tokens := by
  induction tokens generalizing line start with
  | nil => exact ⟨[], rfl, rfl⟩
  | cons token tokens ih =>
    obtain ⟨hword, hlater⟩ := List.forall_mem_cons.1 h
    obtain ⟨later, hencode, hdecode⟩ := ih token.line token.start hlater
    cases hindex : legend.idxOf? token.tokenClass.word with
    | none => exact absurd hword (List.idxOf?_eq_none_iff.1 hindex)
    | some index =>
      refine ⟨_, by rw [encodeFrom, hindex, hencode]; rfl, ?_⟩
      -- the line is what was subtracted, and so is the start if the line is the same
      have hline : line + (token.line - line) = token.line := by omega
      have hstart : (if token.line - line = 0 then
          start + (if token.line == line then token.start - start else token.start)
          else if token.line == line then token.start - start else token.start) = token.start := by
        by_cases hsame : token.line = line
        · simp only [hsame, Int.sub_self, beq_self_eq_true, if_true]
          omega
        · have hdown : token.line - line ≠ 0 := by omega
          simp [hsame, hdown]
      simp only [decodeFrom, classAt?_of_idxOf? hindex, hline, hstart, hdecode]
      rfl

/-! ## Sorting -/

/-- The tokens of `sorted` are those of `tokens` in the order of their places, and tokens at one
place keep their order. -/
structure Sorted (tokens sorted : List Token) : Prop where
  /-- No token is lost and none is new. -/
  perm : sorted.Perm tokens
  /-- The places do not decrease. -/
  pairwise : sorted.Pairwise fun a b => a.line < b.line ∨ a.line = b.line ∧ a.start ≤ b.start
  /-- Tokens at one place keep their order. -/
  stable : ∀ line start, sorted.filter (fun token => token.isAt line start) =
    tokens.filter fun token => token.isAt line start

/-- A token is not behind another one if its place is not. -/
theorem notAfter_iff {a b : Token} :
    notAfter a b = true ↔ a.line < b.line ∨ a.line = b.line ∧ a.start ≤ b.start := by
  simp [notAfter]

/-- What is not behind one token is not behind what that token is not behind. -/
theorem notAfter_trans (a b c : Token) (hab : notAfter a b = true) (hbc : notAfter b c = true) :
    notAfter a c = true := by
  rw [notAfter_iff] at hab hbc ⊢
  omega

/-- One of two tokens is not behind the other one. -/
theorem notAfter_total (a b : Token) : (notAfter a b || notAfter b a) = true := by
  rw [Bool.or_eq_true, notAfter_iff, notAfter_iff]
  omega

/-- Tokens are sorted by their places before they are encoded. -/
theorem sorted_mergeSort (tokens : List Token) : Sorted tokens (tokens.mergeSort notAfter) where
  perm := List.mergeSort_perm tokens notAfter
  pairwise := by
    have hpairwise := List.pairwise_mergeSort notAfter_trans notAfter_total tokens
    exact hpairwise.imp fun h => notAfter_iff.1 h
  stable line start := by
    -- the tokens at the place are in order already, so sorting keeps them as they are
    refine filter_mergeSort notAfter_trans notAfter_total fun a ha b hb => notAfter_iff.2 ?_
    simp only [List.mem_filter, isAt, Bool.and_eq_true, beq_iff_eq] at ha hb
    omega

/-! ## The order of a document -/

/-- A token stands in front of another one, and the two share no character. -/
structure Precedes (a b : Token) : Prop where
  /-- Its place comes first. -/
  lt : a.line < b.line ∨ a.line = b.line ∧ a.start < b.start
  /-- On the same line, it ends before the other one starts. -/
  apart : a.line = b.line → a.start + a.length ≤ b.start

/-- A token covers a stretch of the code of a line of a document. -/
structure MarksCode (lines : List Text) (token : Token) : Prop where
  /-- The stretch lies inside a line, and neither starts in a string nor in the comment. -/
  stretch : ∃ (number : Nat) (line : Text), lines[number]? = some line ∧ token.line = number ∧
    0 ≤ token.start ∧ token.start + token.length ≤ line.length ∧
    Line.inString line token.start = false ∧ Line.inComment line token.start = false
  /-- The stretch is not empty. -/
  length_pos : 0 < token.length

/-- Tokens that are encoded in the order of a document give no negative number. -/
theorem nonneg_of_encodeFrom {legend : List Text} {tokens : List Token} {line start : Int}
    {numbers : List Int} (h : encodeFrom legend line start tokens = .ok numbers)
    (hpairwise : tokens.Pairwise Precedes)
    (hbehind : ∀ token ∈ tokens, line < token.line ∨ line = token.line ∧ start ≤ token.start)
    (hplace : ∀ token ∈ tokens, 0 ≤ token.start ∧ 0 < token.length) :
    ∀ number ∈ numbers, 0 ≤ number := by
  induction tokens generalizing line start numbers with
  | nil =>
    cases h
    simp
  | cons token tokens ih =>
    obtain ⟨hfirst, hlater⟩ := List.pairwise_cons.1 hpairwise
    obtain ⟨htoken, -⟩ := List.forall_mem_cons.1 hbehind
    obtain ⟨⟨hstart, hlength⟩, hplaces⟩ := List.forall_mem_cons.1 hplace
    rw [encodeFrom] at h
    split at h
    · cases h
    · next index hindex =>
      obtain ⟨later, hencode, hnumbers⟩ := exists_of_bind_eq_ok h
      cases hnumbers
      -- the later tokens are given relative to this one, which they are behind
      have hrest := ih hencode hlater
        (fun b hb => (hfirst b hb).lt.imp_right fun ⟨hline, hlt⟩ => ⟨hline, Int.le_of_lt hlt⟩)
        hplaces
      have hcolumn : 0 ≤ if token.line == line then token.start - start else token.start := by
        split
        · next hsame =>
          rw [beq_iff_eq] at hsame
          omega
        · exact hstart
      intro number hmem
      simp only [List.mem_cons] at hmem
      rcases hmem with rfl | rfl | rfl | rfl | rfl | hmem
      · omega
      · exact hcolumn
      · omega
      · exact Int.natCast_nonneg index
      · exact Int.le_refl 0
      · exact hrest number hmem

end Token

namespace Highlight

variable {symbols : List Symbol} {path : Text} {number : Int} {line : Text}

/-- The token of a word of the code is as long as the word. -/
theorem length_of_tokenOf? {word : Word} (hword : word ∈ Line.codeWords line)
    {enclosing : Option Function} {token : Token}
    (h : (tokenOf? symbols path number line enclosing word).toOption.join = some token) :
    token.length = word.text.length := by
  obtain ⟨tokenClass, rfl⟩ := exists_of_tokenOf? h
  have hstop := stop_of_mem_codeWords hword
  show word.stop - word.start = word.text.length
  omega

/-- The tokens of a line stand in the order of its words and share no character. -/
theorem pairwise_tokensOn : (tokensOn symbols path number line).Pairwise Token.Precedes := by
  have hwords : (Line.codeWords line).Pairwise fun (a b : Word) =>
      a.start + (a.text.length : Int) < b.start := by
    refine List.pairwise_map.2 (((Line.pairwise_wordRuns 0 _).filter _).imp ?_)
    intro run later hlt
    show (run.1 : Int) + (run.2.length : Int) < later.1
    omega
  refine List.pairwise_filterMap.2 (hwords.imp_of_mem fun {a b} ha hb hlt => ?_)
  intro token htoken later hlater
  have hline := line_of_mem_tokensOn (List.mem_filterMap.2 ⟨a, ha, htoken⟩)
  have hline' := line_of_mem_tokensOn (List.mem_filterMap.2 ⟨b, hb, hlater⟩)
  have hstart := start_of_tokenOf? htoken
  have hstart' := start_of_tokenOf? hlater
  have hlength := length_of_tokenOf? ha htoken
  exact ⟨.inr ⟨by omega, by omega⟩, fun _ => by omega⟩

/-- A token of a line of a document covers a word of its code. -/
theorem marksCode_of_mem_tokensOn {lines : List Text} {number : Nat}
    (hline : lines[number]? = some line) {token : Token}
    (h : token ∈ tokensOn symbols path number line) : token.MarksCode lines := by
  obtain ⟨word, hword, htoken⟩ := List.mem_filterMap.1 h
  obtain ⟨start, heq, hname, -, hcode⟩ := Line.exists_nameAt_of_mem_codeWords hword
  have hstart : token.start = start := by
    rw [start_of_tokenOf? htoken, heq, Word.ofText_start]
  have hlength := length_of_tokenOf? hword htoken
  have hinside := hname.inside
  have hpositive := hname.isWord.length_pos
  simp only [Line.isCode, Bool.and_eq_true, Bool.not_eq_true'] at hcode
  rw [← hstart] at hcode
  exact ⟨⟨number, line, hline, line_of_mem_tokensOn h, by omega, by omega, hcode⟩, by omega⟩

/-- The tokens of a document stand in order, and every one covers a stretch of the code. -/
theorem exists_tokens_inOrder (symbols : List Symbol) (path : Text) (lines : List Text) :
    ∃ found, tokens symbols path lines = .ok found ∧ found.Pairwise Token.Precedes ∧
      ∀ token ∈ found, token.MarksCode lines := by
  refine ⟨_, tokens_eq symbols path lines, List.pairwise_flatMap.2 ⟨fun numbered _ =>
    pairwise_tokensOn, ?_⟩, fun token htoken => ?_⟩
  · -- the lines are numbered one by one
    refine (pairwise_zipIdx lines).imp fun {a b} hlt token htoken later hlater => ?_
    have hline := line_of_mem_tokensOn htoken
    have hline' := line_of_mem_tokensOn hlater
    exact ⟨.inl (by omega), fun hsame => by omega⟩
  · obtain ⟨⟨line, number⟩, hmem, htoken⟩ := List.mem_flatMap.1 htoken
    exact marksCode_of_mem_tokensOn (List.mk_mem_zipIdx_iff_getElem?.1 hmem) htoken

/-- The tokens of every document come in the order of the text, share no character, and cover
stretches of the code; so their encoding, with a legend that has their classes as the full one does
(`TokenClass.word_mem_fullLegend`), has no negative number. And whatever tokens are encoded with
such a legend, decoding gives them back, sorted by their places. -/
theorem stream_decodes :
    (∀ (symbols : List Symbol) (path : Text) (lines : List Text),
      ∃ found, tokens symbols path lines = .ok found ∧ found.Pairwise Token.Precedes ∧
        (∀ token ∈ found, token.MarksCode lines) ∧
        ∀ legend : List Text, (∀ token ∈ found, token.tokenClass.word ∈ legend) →
          ∃ numbers, Token.encode legend found = .ok numbers ∧ ∀ number ∈ numbers, 0 ≤ number) ∧
    ∀ (legend : List Text) (tokens : List Token),
      (∀ token ∈ tokens, token.tokenClass.word ∈ legend) →
      ∃ numbers sorted, Token.encode legend tokens = .ok numbers ∧
        Token.decode legend numbers = some sorted ∧ Token.Sorted tokens sorted := by
  refine ⟨fun symbols path lines => ?_, fun legend tokens hlegend => ?_⟩
  · obtain ⟨found, htokens, hpairwise, hmarks⟩ := exists_tokens_inOrder symbols path lines
    -- the tokens are sorted already
    have hsorted : found.mergeSort Token.notAfter = found := by
      apply List.mergeSort_of_pairwise
      refine hpairwise.imp fun hlt => Token.notAfter_iff.2 ?_
      have := hlt.lt
      omega
    refine ⟨found, htokens, hpairwise, hmarks, fun legend hlegend => ?_⟩
    obtain ⟨numbers, hnumbers, -⟩ := Token.exists_decodeFrom legend found 0 0 hlegend
    refine ⟨numbers, by rw [Token.encode, hsorted, hnumbers], ?_⟩
    refine Token.nonneg_of_encodeFrom hnumbers hpairwise (fun token htoken => ?_)
      fun token htoken => ?_
    · obtain ⟨number, line, -, hline, hstart, -⟩ := (hmarks token htoken).stretch
      omega
    · obtain ⟨number, line, -, -, hstart, -⟩ := (hmarks token htoken).stretch
      exact ⟨hstart, (hmarks token htoken).length_pos⟩
  · have hsorted := Token.sorted_mergeSort tokens
    obtain ⟨numbers, hnumbers, hdecode⟩ := Token.exists_decodeFrom legend
      (tokens.mergeSort Token.notAfter) 0 0 fun token htoken =>
        hlegend token (hsorted.perm.mem_iff.1 htoken)
    exact ⟨numbers, _, hnumbers, hdecode, hsorted⟩

/-- Four tokens, two of them at one place, are encoded out of order with a legend of three
classes. -/
theorem stream_decodes_unsorted :
    let legend : List Text := ["field", "variable", "type"]
    let tokens : List Token :=
      [⟨2, 5, 3, .var⟩, ⟨0, 4, 1, .type⟩, ⟨2, 1, 2, .field⟩, ⟨0, 4, 2, .var⟩]
    (∀ token ∈ tokens, token.tokenClass.word ∈ legend) ∧
      ∃ sorted, Token.encode legend tokens =
          .ok [0, 4, 1, 2, 0, 0, 0, 2, 1, 0, 2, 1, 2, 0, 0, 0, 4, 3, 1, 0] ∧
        Token.decode legend [0, 4, 1, 2, 0, 0, 0, 2, 1, 0, 2, 1, 2, 0, 0, 0, 4, 3, 1, 0] =
          some sorted ∧ Token.Sorted tokens sorted := by
  intro legend tokens
  have hlegend : ∀ token ∈ tokens, token.tokenClass.word ∈ legend := by decide
  have hsort : tokens.mergeSort Token.notAfter =
      [⟨0, 4, 1, .type⟩, ⟨0, 4, 2, .var⟩, ⟨2, 1, 2, .field⟩, ⟨2, 5, 3, .var⟩] := by
    simp [tokens, List.mergeSort, List.MergeSort.Internal.splitInTwo, Token.notAfter]
  have hencode : Token.encode legend tokens =
      .ok [0, 4, 1, 2, 0, 0, 0, 2, 1, 0, 2, 1, 2, 0, 0, 0, 4, 3, 1, 0] := by
    rw [Token.encode, hsort]
    decide
  obtain ⟨numbers, sorted, hnumbers, hdecode, hsorted⟩ := stream_decodes.2 legend tokens hlegend
  rw [hencode] at hnumbers
  cases hnumbers
  exact ⟨hlegend, sorted, hencode, hdecode, hsorted⟩

end Highlight

end BlitzLens
