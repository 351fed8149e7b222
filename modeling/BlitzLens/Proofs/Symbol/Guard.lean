import BlitzLens.Proofs.Line.Word
import BlitzLens.Scope.Member
import BlitzLens.Symbol.Guard
import Mathlib.Data.List.DropRight

/-!
# What may follow a text

A name is declared at the start of a line, behind a comma or an opening parenthesis, or behind a
keyword that declares (`Guard.opensDeclaration`). Where that is the case a variable may stand, but
no type and no label is meant, and no field marker stands in front. What a guard makes of a text
depends on nothing but its last mark or its last word, and a text that ends with one keyword does
not end with another one (`Guard.endsWithKeyword_eq_false_of_keyword`).
-/

namespace BlitzLens

namespace Text

variable {text gap word before : Text}

/-- What is dropped from the end of a text is dropped together with all of it behind the text. -/
theorem dropEndWhile_append {p : Char → Bool} (h : ∀ c ∈ gap, p c = true) :
    dropEndWhile p (text ++ gap) = dropEndWhile p text := by
  have hreverse : ∀ c ∈ gap.reverse, p c = true := fun c hc => h c (List.mem_reverse.1 hc)
  rw [dropEndWhile, List.reverse_append, List.dropWhile_append_of_pos hreverse]
  rfl

/-- Where blanks alone are dropped, a text that ends with a word is left as it is. -/
theorem dropEndWhile_append_word {p : Char → Bool} (hp : ∀ c, p c = true → isBlank c = true)
    (hword : IsWord word) : dropEndWhile p (before ++ word) = before ++ word := by
  obtain ⟨front, c, rfl⟩ := List.eq_nil_or_concat word |>.resolve_left hword.ne_nil
  have hc : p c ≠ true := by
    intro hblank
    have hchar := hword.all_word c (by simp)
    rw [isWordChar_of_isBlank (hp c hblank)] at hchar
    cases hchar
  rw [List.concat_eq_append, ← List.append_assoc]
  exact List.rdropWhile_concat_neg p _ c hc

/-- Blanks at the end of a text are trimmed. -/
theorem trimEnd_append_blanks (h : ∀ c ∈ gap, isBlank c = true) :
    trimEnd (text ++ gap) = trimEnd text :=
  dropEndWhile_append h

/-- A text that ends with a visible character is left as it is. -/
theorem trimEnd_concat {c : Char} (h : isBlank c = false) : trimEnd (text ++ [c]) = text ++ [c] :=
  List.rdropWhile_concat_neg isBlank text c (by simp [h])

/-- A text that ends with a word is left as it is. -/
theorem trimEnd_append_word (hword : IsWord word) : trimEnd (before ++ word) = before ++ word :=
  dropEndWhile_append_word (fun _ hc => hc) hword

/-- Nothing but blanks is trimmed altogether. -/
theorem trimEnd_eq_nil (h : text.isBlankText = true) : text.trimEnd = [] :=
  List.rdropWhile_eq_nil_iff.2 fun c hc => List.all_eq_true.1 h c hc

end Text

namespace Guard

variable {before after : Text} {keywords others : List Text} {mark other : Char}

/-- The keywords that stand in front of the names of variables, fields and functions. -/
def declaringKeywords : List Text :=
  ["global", "local", "const", "dim", "field", "for", "function"]

/-- Whether a name may be declared behind a text: at the start of a line, behind a comma or an
opening parenthesis, or behind a keyword that declares. -/
def opensDeclaration (before : Text) : Bool :=
  before.isBlankText || endsWithMark ',' before || endsWithMark '(' before ||
    endsWithKeyword declaringKeywords before

/-- A name may be declared at the start of a line. -/
theorem opensDeclaration_of_blank (h : before.isBlankText = true) :
    opensDeclaration before = true := by
  rw [opensDeclaration, h]
  rfl

/-- A name may be declared behind a keyword that declares. -/
theorem opensDeclaration_of_keyword (h : endsWithKeyword declaringKeywords before = true) :
    opensDeclaration before = true := by
  rw [opensDeclaration, h, Bool.or_true]

/-! ## Marks and keywords at the end of a text -/

/-- A text ends with one mark at most. -/
theorem endsWithMark_eq_false_of_mark (h : endsWithMark mark before = true) (hne : mark ≠ other) :
    endsWithMark other before = false := by
  rw [endsWithMark, beq_iff_eq] at h
  rw [endsWithMark, h]
  simpa using hne

/-- A text that ends with a mark does not end with a keyword. -/
theorem endsWithKeyword_eq_false_of_mark (h : endsWithMark mark before = true)
    (hmark : isWordChar mark = false) (hkeywords : [] ∉ keywords) :
    endsWithKeyword keywords before = false := by
  rw [endsWithMark, beq_iff_eq] at h
  obtain ⟨front, hfront⟩ := List.getLast?_eq_some_iff.1 h
  have hnil : Text.takeEndWhile isWordChar before.trimEnd = [] := by
    rw [hfront]
    exact List.rtakeWhile_concat_neg isWordChar front mark (by simp [hmark])
  have hany : (keywords.any fun keyword => Text.spells [] keyword) = false := by
    refine List.any_eq_false.2 fun keyword hkeyword hspells => hkeywords ?_
    rw [Text.spells, List.map_nil, beq_iff_eq] at hspells
    rwa [hspells]
  rw [endsWithKeyword, hnil, hany, Bool.and_false]

/-- Blanks end with no mark. -/
theorem endsWithMark_eq_false_of_blank (h : before.isBlankText = true) :
    endsWithMark mark before = false := by
  rw [endsWithMark, Text.trimEnd_eq_nil h]
  rfl

/-- Blanks end with no keyword. -/
theorem endsWithKeyword_eq_false_of_blank (h : before.isBlankText = true)
    (hkeywords : [] ∉ keywords) : endsWithKeyword keywords before = false := by
  have hany : (keywords.any fun keyword => Text.spells [] keyword) = false := by
    refine List.any_eq_false.2 fun keyword hkeyword hspells => hkeywords ?_
    rw [Text.spells, List.map_nil, beq_iff_eq] at hspells
    rwa [hspells]
  rw [endsWithKeyword, Text.trimEnd_eq_nil h]
  exact (Bool.and_eq_false_iff.2 (.inr hany))

/-- A text that ends with one keyword does not end with another one. -/
theorem endsWithKeyword_eq_false_of_keyword (h : endsWithKeyword keywords before = true)
    (hdisjoint : ∀ keyword ∈ keywords, keyword ∉ others) :
    endsWithKeyword others before = false := by
  rw [endsWithKeyword, Bool.and_eq_true, List.any_eq_true] at h
  obtain ⟨-, keyword, hkeyword, hspells⟩ := h
  rw [Text.spells, beq_iff_eq] at hspells
  rw [endsWithKeyword, Bool.and_eq_false_iff, List.any_eq_false]
  refine .inr fun other hother hspells' => hdisjoint keyword hkeyword ?_
  rw [Text.spells, hspells, beq_iff_eq] at hspells'
  rwa [hspells']

/-- A text that ends with one of some keywords ends with one of more keywords. -/
theorem endsWithKeyword_of_forall_mem (h : endsWithKeyword keywords before = true)
    (hmem : ∀ keyword ∈ keywords, keyword ∈ others) : endsWithKeyword others before = true := by
  rw [endsWithKeyword, Bool.and_eq_true, List.any_eq_true] at h ⊢
  obtain ⟨hblank, keyword, hkeyword, hspells⟩ := h
  exact ⟨hblank, keyword, hmem keyword hkeyword, hspells⟩

/-- A text that ends with a keyword does not end with a mark. -/
theorem endsWithMark_eq_false_of_keyword (h : endsWithKeyword keywords before = true)
    (hmark : isWordChar mark = false) (hkeywords : [] ∉ keywords) :
    endsWithMark mark before = false := by
  cases hends : endsWithMark mark before with
  | false => rfl
  | true =>
    rw [endsWithKeyword_eq_false_of_mark hends hmark hkeywords] at h
    cases h

/-- A word that spells a keyword, and blanks behind it, end a text with the keyword. -/
theorem endsWithKeyword_of_spells {keyword word gap : Text} (hbefore : Text.endsWord before = false)
    (hword : Text.IsWord word) (hspells : word.spells keyword = true) (hgap : gap ≠ [])
    (hblank : ∀ c ∈ gap, isBlank c = true) (hmem : keyword ∈ keywords) :
    endsWithKeyword keywords (before ++ (word ++ gap)) = true := by
  have hlength := List.length_pos_iff.2 hgap
  have htake : Text.takeEndWhile isWordChar (before ++ word) = word :=
    Text.takeEndWhile_append hbefore hword.all_word
  rw [endsWithKeyword, ← List.append_assoc, Text.trimEnd_append_blanks hblank,
    Text.trimEnd_append_word hword, htake, Bool.and_eq_true, decide_eq_true_eq]
  refine ⟨?_, List.any_eq_true.2 ⟨keyword, hmem, hspells⟩⟩
  simp only [List.length_append]
  omega

/-- A whole word that spells the word for fields declares fields. -/
theorem declaresField_append {word rest : Text} (hbefore : Text.endsWord before = false)
    (hword : Text.IsWord word) (hspells : word.spells "field" = true)
    (hrest : Text.startsWord rest = false) (hline : '\n' ∉ before ++ (word ++ rest)) :
    declaresField (before ++ (word ++ rest)) = true := by
  have hlast : Text.takeEndWhile (· != '\n') (before ++ (word ++ rest)) =
      before ++ (word ++ rest) :=
    List.rtakeWhile_eq_self_iff.2 fun c hc => bne_iff_ne.2 fun heq => hline (heq ▸ hc)
  obtain ⟨start, -, -, -, hfind⟩ : Line.FindsApart [] (before ++ (word ++ rest)) word _ :=
    Line.findsApart hword hrest hbefore rfl
  rw [declaresField, hlast, List.any_eq_true]
  exact ⟨(start, word), List.mem_of_find?_eq_some hfind, hspells⟩

/-! ## What a text introduces -/

/-- A text ends like one behind which a name is declared: with no mark of a reference, and with no
keyword but those that declare. -/
structure EndsPlainly (before : Text) : Prop where
  /-- No dot is in front. -/
  dot : endsWithMark '.' before = false
  /-- No field marker is in front. -/
  marker : endsWithMark '\\' before = false
  /-- No other keyword is in front. -/
  keyword : ∀ keywords, (∀ keyword ∈ declaringKeywords, keyword ∉ keywords) → [] ∉ keywords →
    endsWithKeyword keywords before = false

/-- Behind a text where a name may be declared, nothing else is introduced. -/
theorem endsPlainly_of_opensDeclaration (h : opensDeclaration before = true) :
    EndsPlainly before := by
  rw [opensDeclaration, Bool.or_eq_true, Bool.or_eq_true, Bool.or_eq_true] at h
  rcases h with ((hblank | hmark) | hmark) | hkeyword
  · exact ⟨endsWithMark_eq_false_of_blank hblank, endsWithMark_eq_false_of_blank hblank,
      fun keywords _ hnil => endsWithKeyword_eq_false_of_blank hblank hnil⟩
  · exact ⟨endsWithMark_eq_false_of_mark hmark (by decide),
      endsWithMark_eq_false_of_mark hmark (by decide),
      fun keywords _ hnil => endsWithKeyword_eq_false_of_mark hmark (by decide) hnil⟩
  · exact ⟨endsWithMark_eq_false_of_mark hmark (by decide),
      endsWithMark_eq_false_of_mark hmark (by decide),
      fun keywords _ hnil => endsWithKeyword_eq_false_of_mark hmark (by decide) hnil⟩
  · exact ⟨endsWithMark_eq_false_of_keyword hkeyword (by decide) (by decide),
      endsWithMark_eq_false_of_keyword hkeyword (by decide) (by decide),
      fun keywords hdisjoint _ => endsWithKeyword_eq_false_of_keyword hkeyword hdisjoint⟩

/-- A visible character at the end of a text is the mark that it ends with. -/
theorem endsWithMark_concat (h : isBlank mark = false) :
    endsWithMark mark (before ++ [mark]) = true := by
  rw [endsWithMark, Text.trimEnd_concat h, List.getLast?_concat, beq_self_eq_true]

/-- A dot behind blanks ends a text. -/
theorem endsWithMark_of_trimStart (h : before.trimStart = ['.']) :
    endsWithMark '.' before = true := by
  have hbefore := List.takeWhile_append_dropWhile (p := isBlank) (l := before)
  rw [show before.dropWhile isBlank = ['.'] from h] at hbefore
  rw [← hbefore]
  exact endsWithMark_concat (by decide)

/-- No label is introduced without a dot or a jump. -/
theorem introducesLabel_eq_false (hdot : endsWithMark '.' before = false)
    (hjump : endsWithKeyword ["goto", "gosub", "restore"] before = false) :
    introducesLabel before = false := by
  have hlast : (before.getLast? == some '.') = false := by
    rw [beq_eq_false_iff_ne]
    intro hlast
    obtain ⟨front, rfl⟩ := List.getLast?_eq_some_iff.1 hlast
    rw [endsWithMark_concat (by decide)] at hdot
    cases hdot
  have hstart : (before.trimStart == ['.']) = false := by
    rw [beq_eq_false_iff_ne]
    intro hstart
    rw [endsWithMark_of_trimStart hstart] at hdot
    cases hdot
  rw [introducesLabel, hstart, hlast]
  exact hjump

namespace EndsPlainly

variable (h : EndsPlainly before)
include h

/-- No type is introduced. -/
theorem introducesType : Guard.introducesType before = false := by
  rw [Guard.introducesType, h.dot, h.keyword _ (by decide) (by decide)]
  rfl

/-- No label is introduced. -/
theorem introducesLabel : Guard.introducesLabel before = false :=
  introducesLabel_eq_false h.dot (h.keyword _ (by decide) (by decide))

/-- A variable may follow. -/
theorem admitsVariable (hline : '\n' ∉ before) : Guard.admitsVariable before = true := by
  rw [Guard.admitsVariable, h.dot, h.marker, h.keyword _ (by decide) (by decide)]
  simpa using hline

end EndsPlainly

/-! ## Field markers -/

/-- A field marker in front of a column is the last mark of the text before it. -/
theorem memberMarker?_eq_none {line : Text} {column : Nat} (hcolumn : column ≤ line.length)
    (h : endsWithMark '\\' (line.take column) = false) :
    Scope.memberMarker? line (column : Int) = .ok none := by
  change (if line.length < column then _ else _) = _
  rw [if_neg (Nat.not_lt.2 hcolumn)]
  have hlast : ((Text.dropEndWhile isSpaceOrTab (line.take column)).getLast? == some '\\') =
      false := by
    rw [beq_eq_false_iff_ne]
    intro hlast
    obtain ⟨front, hfront⟩ := List.getLast?_eq_some_iff.1 hlast
    -- the spaces and tabs that are dropped would be trimmed as well
    have hsplit := List.rdropWhile_append_rtakeWhile (p := isSpaceOrTab) (l := line.take column)
    have hgap : ∀ c ∈ (line.take column).rtakeWhile isSpaceOrTab, isBlank c = true := fun c hc =>
      isBlank_of_isSpaceOrTab (List.mem_rtakeWhile_imp hc)
    rw [show (line.take column).rdropWhile isSpaceOrTab = front ++ ['\\'] from hfront] at hsplit
    rw [endsWithMark, ← hsplit, Text.trimEnd_append_blanks hgap, Text.trimEnd_concat (by decide),
      List.getLast?_concat] at h
    cases h
  rw [hlast]
  rfl

end Guard

end BlitzLens
