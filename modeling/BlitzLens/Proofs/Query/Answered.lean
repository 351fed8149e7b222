import BlitzLens.Proofs.Query.Session
import BlitzLens.Proofs.Query.WithinWord
import BlitzLens.Proofs.Scope.Reading

/-!
# Queries do not fail

The queries look at lines by column, and looking at a column outside a line fails. From a position
whose column is not negative they only look at columns of the line: the word under the caret lies on
the line, and so does everything that is found from it to the left and to the right. So hover,
definition, completion and signature help answer at every such position, and the highlighted words
of a document are found whatever its lines are (`Position.answered`).

The search for the words left of a field marker goes from marker to marker. Each lies in front of
the one before (`Scope.chainFrom?_eq_turn`), so it comes to an end by itself.
-/

namespace BlitzLens

open Line

variable {symbols : List Symbol} {stubs : StubTable} {path line : Text} {lines : List Text}
  {position : Position} {column : Nat} {word : Word}

/-! ## The search left of a field marker -/

/-- One turn of the search left of a field marker: it takes the word that is read left of the
column, and goes on with `search` from the field marker in front of the word. -/
def Scope.chainTurn (search : Nat → List Word → Except ColumnError (Option (List Word)))
    (line : Text) (column : Nat) (chain : List Word) : Except ColumnError (Option (List Word)) :=
  match readWord? line column with
  | none => .ok none
  | some word => do
    match ← memberMarker? line word.start with
    | none => return some (word :: chain)
    | some marker => search marker (word :: chain)

/-- A turn only depends on how the search goes on from columns further to the left. -/
theorem Scope.chainTurn_congr (hcolumn : column ≤ line.length)
    {search search' : Nat → List Word → Except ColumnError (Option (List Word))}
    (h : ∀ marker < column, search marker = search' marker) (chain : List Word) :
    chainTurn search line column chain = chainTurn search' line column chain := by
  rw [chainTurn, chainTurn]
  cases hread : readWord? line column with
  | none => rfl
  | some word =>
    have hword := (readWord?_eq_some_iff hcolumn).1 hread
    dsimp only
    cases hmarker : memberMarker? line word.start with
    | error error => rfl
    | ok found =>
      cases found with
      | none => rfl
      | some marker =>
        change search marker (word :: chain) = search' marker (word :: chain)
        rw [h marker (hword.marker_lt hmarker)]

/-- The search takes turn after turn, and nothing but the end of the chain stops it. A turn that
starts at a column only needs the search from columns further to the left. -/
theorem Scope.chainFrom?_eq_turn (hcolumn : column ≤ line.length)
    {search : Nat → List Word → Except ColumnError (Option (List Word))}
    (h : ∀ marker < column, search marker = chainFrom? line marker) (chain : List Word) :
    chainFrom? line column chain = chainTurn search line column chain := by
  rw [chainTurn_congr hcolumn h, chainFrom?_eq_readWord? hcolumn, chainTurn]
  cases hread : readWord? line column with
  | none => rfl
  | some word =>
    have hword := (readWord?_eq_some_iff hcolumn).1 hread
    dsimp only
    cases hmarker : memberMarker? line word.start with
    | error error => rfl
    | ok found =>
      cases found with
      | none => rfl
      | some marker =>
        -- the test for a marker further to the left always succeeds
        change (if marker < column then chainFrom? line marker (word :: chain) else _) = _
        rw [if_pos (hword.marker_lt hmarker)]
        rfl

/-! ## The queries about a position -/

/-- The word that touches a column is found or not, without failure, and the line holds it. -/
theorem Line.exists_wordAt? (line : Text) (column : Nat) :
    ∃ found, wordAt? line (column : Int) = .ok found ∧
      ∀ word, found = some word → Holds line word := by
  change ∃ found, (if line.isEmpty = true then _ else _) = _ ∧ _
  by_cases hempty : line.isEmpty = true
  · exact ⟨none, if_pos hempty, fun _ => nofun⟩
  · exact ⟨wordTouching? line column, if_neg hempty, fun word => holds_of_wordTouching?⟩

/-- What a word refers to for the sake of its declaration is found or not, without failure. -/
theorem exists_definedSymbol? (h : Holds line word) (symbols : List Symbol) (stubs : StubTable)
    (path : Text) (number : Int) :
    ∃ found, definedSymbol? symbols stubs path number line word = .ok found := by
  obtain ⟨start, -, hstart, -, hinside⟩ := id h
  obtain ⟨marker, hmarker, -⟩ := Scope.exists_memberMarker? hinside
  rw [definedSymbol?, hstart, hmarker]
  cases marker with
  | some marker =>
    obtain ⟨field, hfield⟩ := Scope.exists_resolveMember? h symbols path number
    exact ⟨field.map .ofVariable, by rw [hfield]; rfl⟩
  | none =>
    obtain ⟨symbol, hsymbol, -⟩ := Scope.exists_resolve? h symbols path number
    rw [hsymbol]
    cases symbol with
    | none => exact ⟨none, rfl⟩
    | some symbol => cases symbol <;> exact ⟨_, rfl⟩

/-- Hover answers on a word: nothing over an inert one, and otherwise a phrase, a field or what the
word is resolved to. -/
theorem Position.IsOn.exists_hover? {start : Nat} {text : Text} (symbols : List Symbol)
    (stubs : StubTable) (path : Text) (h : position.IsOn lines line column start text) :
    ∃ shown, hover? symbols stubs path lines position = .ok shown := by
  have hstart : start ≤ line.length := Nat.le_trans (Nat.le_add_right _ _) h.inside
  cases hinert : isInert line start text with
  | true => exact ⟨none, h.hover?_of_inert hinert⟩
  | false =>
    obtain ⟨shown, hphrase⟩ : ∃ shown, Hover.ofPhrase? position.line line (.ofText start text) =
      .ok shown := Hover.exists_ofPhrase? position.line hstart
    cases shown with
    | some shown => exact ⟨some shown, h.hover?_of_phrase hinert hphrase⟩
    | none =>
      have hholds := h.toStandsAt.holds
      obtain ⟨marker, hmarker, -⟩ := Scope.exists_memberMarker? hstart
      cases marker with
      | some marker =>
        obtain ⟨field, hfield⟩ := Scope.exists_resolveMember? hholds symbols path position.line
        exact ⟨_, h.hover?_of_member hinert hphrase hmarker hfield⟩
      | none =>
        obtain ⟨symbol, hsymbol, -⟩ := Scope.exists_resolve? hholds symbols path position.line
        exact ⟨_, h.hover?_of_resolved hinert hphrase hmarker hsymbol⟩

/-- Hover answers at every column that is not negative. -/
theorem exists_hover? (symbols : List Symbol) (stubs : StubTable) (path : Text) (lines : List Text)
    (h : 0 ≤ position.character) :
    ∃ shown, hover? symbols stubs path lines position = .ok shown := by
  cases hline : position.lineOf? lines with
  | none => exact ⟨none, by rw [hover?, hline]; rfl⟩
  | some line =>
    by_cases hlast : position.character < line.length
    · obtain ⟨column, hcolumn⟩ := Int.eq_ofNat_of_zero_le h
      have hinside : column < line.length := by omega
      cases hword : Text.startsWord (line.drop column) with
      | true =>
        obtain ⟨start, text, hcaret⟩ := exists_caretOn hinside hword
        exact Position.IsOn.exists_hover? symbols stubs path ⟨hcaret, hline, hcolumn⟩
      | false =>
        -- between words nothing is shown
        have hchar := wordCharAt_natCast hinside
        rw [hword, ← hcolumn] at hchar
        refine ⟨none, ?_⟩
        rw [hover?, hline]
        dsimp only
        rw [if_neg (by omega), hchar]
        rfl
    · refine ⟨none, ?_⟩
      rw [hover?, hline]
      exact if_pos (Int.not_lt.1 hlast)

/-- Definition answers at every column that is not negative. -/
theorem exists_definition (symbols : List Symbol) (stubs : StubTable) (path : Text)
    (lines : List Text) (h : 0 ≤ position.character) :
    ∃ places, definition symbols stubs path lines position = .ok places := by
  rw [definition]
  cases position.lineOf? lines with
  | none => exact ⟨[], rfl⟩
  | some line =>
    obtain ⟨column, hcolumn⟩ := Int.eq_ofNat_of_zero_le h
    obtain ⟨found, hfound, hholds⟩ := Line.exists_wordAt? line column
    dsimp only
    rw [hcolumn, hfound]
    cases found with
    | none => exact ⟨[], rfl⟩
    | some word =>
      obtain ⟨symbol, hsymbol⟩ :=
        exists_definedSymbol? (hholds word rfl) symbols stubs path position.line
      change ∃ places, (if (isNumber word.text || !isCode line word.start) = true then
        Except.ok [] else _) = Except.ok places
      split_ifs
      · exact ⟨[], rfl⟩
      · exact ⟨symbol.toList.map Symbol.location, by rw [hsymbol]; rfl⟩

/-- The word that ends in the caret at a column of the line starts on the line. -/
theorem Completion.exists_wordStart (h : column ≤ line.length) :
    ∃ start : Nat, wordStart line (column : Int) = start ∧ start ≤ line.length := by
  refine ⟨(line.take column).length -
    (Text.takeEndWhile isWordChar (line.take column)).length, rfl, ?_⟩
  rw [List.length_take]
  omega

/-- Completion answers at every column that is not negative. -/
theorem exists_complete (symbols : List Symbol) (stubs : StubTable) (path : Text)
    (lines : List Text) (h : 0 ≤ position.character) (trigger : Option Text) (brackets : Bool) :
    ∃ items, complete symbols stubs path lines position trigger brackets = .ok items := by
  cases hline : position.lineOf? lines with
  | none => exact ⟨[], by rw [complete, hline]; rfl⟩
  | some line =>
    obtain ⟨column, hcolumn, hinside⟩ : ∃ column : Nat,
        min position.character (line.length : Int) = column ∧ column ≤ line.length :=
      ⟨(min position.character (line.length : Int)).toNat, by omega, by omega⟩
    cases hcode : isCode line (column : Int) with
    | false => exact ⟨[], complete_of_not_isCode hline hcolumn hcode⟩
    | true =>
      obtain ⟨start, hstart, hstarts⟩ := Completion.exists_wordStart hinside
      obtain ⟨items, hitems, -⟩ : ∃ items, complete symbols stubs path lines position trigger
          brackets = .ok items ∧ _ :=
        Completion.exists_offersFrom hline hcolumn hcode hstart hstarts
      exact ⟨items, hitems⟩

/-- Signature help answers at every position. -/
theorem exists_signatureHelp? (symbols : List Symbol) (stubs : StubTable) (lines : List Text)
    (position : Position) (context : Option HelpContext) :
    ∃ help, signatureHelp? symbols stubs lines position context = .ok help := by
  cases hline : position.lineOf? lines with
  | none => exact ⟨none, by rw [signatureHelp?, hline]; rfl⟩
  | some line =>
    cases hkept : Signature.kept? context with
    | none => exact ⟨_, signatureHelp?_of_fresh symbols stubs hline hkept⟩
    | some help => exact ⟨_, signatureHelp?_of_kept symbols stubs hline hkept⟩

/-- Every query about a position of a document, and the one about its highlighted words, has an
answer. -/
structure Position.Answered (symbols : List Symbol) (stubs : StubTable) (path : Text)
    (lines : List Text) (position : Position) (trigger : Option Text) (brackets : Bool)
    (context : Option HelpContext) : Prop where
  /-- Hover shows something or nothing. -/
  hover : ∃ shown, hover? symbols stubs path lines position = .ok shown
  /-- Definition finds places or none. -/
  definition : ∃ places, definition symbols stubs path lines position = .ok places
  /-- Completion offers words or none. -/
  completion : ∃ items, complete symbols stubs path lines position trigger brackets = .ok items
  /-- Signature help shows a session or none. -/
  signature : ∃ help, signatureHelp? symbols stubs lines position context = .ok help
  /-- Words are highlighted or none. -/
  highlights : ∃ tokens, Highlight.tokens symbols path lines = .ok tokens

/-- Whatever the symbols, the stubs and the lines are, every query is answered at every line and at
every column that is not negative. -/
theorem Position.answered (symbols : List Symbol) (stubs : StubTable) (path : Text)
    (lines : List Text) (h : 0 ≤ position.character) (trigger : Option Text) (brackets : Bool)
    (context : Option HelpContext) :
    position.Answered symbols stubs path lines trigger brackets context where
  hover := exists_hover? symbols stubs path lines h
  definition := exists_definition symbols stubs path lines h
  completion := exists_complete symbols stubs path lines h trigger brackets
  signature := exists_signatureHelp? symbols stubs lines position context
  highlights := ⟨_, Highlight.tokens_eq symbols path lines⟩

end BlitzLens
