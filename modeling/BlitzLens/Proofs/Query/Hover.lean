import BlitzLens.Proofs.Extraction.Dependencies
import BlitzLens.Proofs.Extraction.Likeness
import BlitzLens.Proofs.Line.Caret
import BlitzLens.Proofs.Scope.Member
import BlitzLens.Query.Definition
import BlitzLens.Query.Hover

/-!
# Hover agrees with definition

Hover looks at the code under the caret and definition at the code under the start of the word,
which is the same (`Line.CaretOn.isCode_eq`). So both leave the word out, or both go on to the same
field or to the same symbol. Unless a phrase is shown, hover shows a symbol exactly where definition
finds its one place (`hover?_agrees_definition`).
-/

namespace BlitzLens

open Line

/-- A position of a document is on a word of one of its lines. -/
structure Position.IsOn (position : Position) (lines : List Text) (line : Text) (column start : Nat)
    (text : Text) : Prop extends CaretOn line column start text where
  /-- The line is the one of the position. -/
  line_eq : position.lineOf? lines = some line
  /-- The caret stands at the column of the position. -/
  character_eq : position.character = column

/-- A word is a number, or stands in a string or in the comment. -/
def Line.isInert (line : Text) (start : Nat) (text : Text) : Bool :=
  isNumber text || !isCode line (start : Int)

section Word

variable {symbols : List Symbol} {stubs : StubTable} {path : Text} {lines : List Text}
  {position : Position} {line text : Text} {column start : Nat}

/-! ## The word under the caret -/

/-- A line holds the words that stand on it. -/
theorem Line.StandsAt.holds (h : StandsAt line start text) : Holds line (.ofText start text) :=
  ⟨start, start + text.length, rfl, rfl, Nat.le_trans (Nat.le_add_right _ _) h.inside⟩

/-- Whether a word ends a phrase is found without failure. -/
theorem Hover.exists_phraseTo? (h : start ≤ line.length) :
    ∃ found, phraseTo? line (.ofText start text) = .ok found := by
  obtain ⟨before, hbefore, -⟩ := exists_wordBefore? h
  rw [phraseTo?, Word.ofText_start, hbefore]
  cases before with
  | none => exact ⟨none, rfl⟩
  | some preceding =>
    by_cases hopens : Keyword.opensPhrase preceding.text.lower = true
    · exact ⟨_, if_pos hopens⟩
    · exact ⟨none, if_neg hopens⟩

/-- Whether a word is part of a phrase is found without failure. -/
theorem Hover.exists_ofPhrase? (number : Int) (h : start ≤ line.length) :
    ∃ shown, ofPhrase? number line (.ofText start text) = .ok shown := by
  rw [ofPhrase?]
  cases phraseFrom? line (.ofText start text) with
  | some found => exact ⟨_, rfl⟩
  | none =>
    obtain ⟨found, hfound⟩ : ∃ found, phraseTo? line (.ofText start text) = .ok found :=
      exists_phraseTo? h
    dsimp only
    rw [hfound]
    cases found <;> exact ⟨_, rfl⟩

/-! ## What hover shows -/

namespace Hover

variable {name : Text}

/-- A built-in is shown over its name, unless the name is resolved to a function. -/
theorem ofWord?_of_stub {stub : Stub} (hstub : stubs.first? name = some stub)
    {symbol : Option Symbol} (hsymbol : ∀ s, symbol = some s → s.kind ≠ .function) :
    ofWord? symbol stubs name = some (ofStub stub) := by
  match symbol, hsymbol with
  | none, _ => simp [ofWord?, hstub]
  | some (.ofFunction f), hsymbol => exact absurd rfl (hsymbol _ rfl)
  | some (.ofVariable v), _ => simp [ofWord?, hstub]
  | some (.ofType t), _ => simp [ofWord?, hstub]
  | some (.ofLabel l), _ => simp [ofWord?, hstub]

/-- A symbol is shown over its name, unless the name is the one of a built-in. -/
theorem ofWord?_of_no_stub (hstub : stubs.first? name = none) (symbol : Symbol) :
    ofWord? (some symbol) stubs name = some (ofSymbol symbol) := by
  cases symbol <;> simp [ofWord?, hstub]

/-- Over a name that means nothing else, a keyword is shown. -/
theorem ofWord?_of_none (hstub : stubs.first? name = none) :
    ofWord? none stubs name = (Keyword.entry? name).map ofEntry := by
  simp [ofWord?, hstub]

end Hover

namespace Position.IsOn

/-- Numbers, strings and comments show nothing. Any other word is taken for a phrase first. -/
theorem hover?_eq (h : position.IsOn lines line column start text) :
    hover? symbols stubs path lines position =
      if isInert line start text then .ok none
      else do
        if let some found ← Hover.ofPhrase? position.line line (.ofText start text) then
          return some found
        let range := Span.onLine position.line start ((start + text.length : Nat) : Int)
        if (← Scope.memberMarker? line (start : Int)).isSome then
          let field ← Scope.resolveMember? symbols path position.line line (.ofText start text)
          return field.map fun field => ⟨Hover.ofSymbol (.ofVariable field), range⟩
        let symbol ← Scope.resolve? symbols path position.line line (.ofText start text)
        return (Hover.ofWord? symbol stubs text).map fun contents => ⟨contents, range⟩ := by
  have hinside : ¬(line.length : Int) ≤ column := by
    have := h.lt_length
    omega
  rw [hover?, h.line_eq, h.character_eq]
  dsimp only
  rw [if_neg hinside, h.wordCharAt_eq, h.isCode_eq, h.wordAt?_eq, isInert]
  cases isCode line (start : Int) with
  | false =>
    rw [Bool.not_false, Bool.or_true]
    rfl
  | true =>
    rw [Bool.not_true, Bool.or_false]
    rfl

/-- Numbers, strings and comments show nothing. -/
theorem hover?_of_inert (h : position.IsOn lines line column start text)
    (hinert : isInert line start text = true) :
    hover? symbols stubs path lines position = .ok none := by
  rw [h.hover?_eq, if_pos hinert]

/-- A phrase is shown. -/
theorem hover?_of_phrase (h : position.IsOn lines line column start text)
    (hinert : isInert line start text = false) {shown : Hover}
    (hphrase : Hover.ofPhrase? position.line line (.ofText start text) = .ok (some shown)) :
    hover? symbols stubs path lines position = .ok (some shown) := by
  rw [h.hover?_eq, hinert, hphrase]
  rfl

/-- Behind a field marker the field is shown. -/
theorem hover?_of_member (h : position.IsOn lines line column start text)
    (hinert : isInert line start text = false)
    (hphrase : Hover.ofPhrase? position.line line (.ofText start text) = .ok none) {marker : Nat}
    (hmarker : Scope.memberMarker? line (start : Int) = .ok (some marker)) {field : Option Variable}
    (hfield : Scope.resolveMember? symbols path position.line line (.ofText start text) =
      .ok field) :
    hover? symbols stubs path lines position = .ok (field.map fun field =>
      ⟨Hover.ofSymbol (.ofVariable field),
        .onLine position.line start ((start + text.length : Nat) : Int)⟩) := by
  rw [h.hover?_eq, hinert, hphrase, hmarker, hfield]
  rfl

/-- Elsewhere the word is shown with what it is resolved to. -/
theorem hover?_of_resolved (h : position.IsOn lines line column start text)
    (hinert : isInert line start text = false)
    (hphrase : Hover.ofPhrase? position.line line (.ofText start text) = .ok none)
    (hmarker : Scope.memberMarker? line (start : Int) = .ok none) {symbol : Option Symbol}
    (hsymbol : Scope.resolve? symbols path position.line line (.ofText start text) = .ok symbol) :
    hover? symbols stubs path lines position =
      .ok ((Hover.ofWord? symbol stubs text).map fun contents =>
        ⟨contents, .onLine position.line start ((start + text.length : Nat) : Int)⟩) := by
  rw [h.hover?_eq, hinert, hphrase, hmarker, hsymbol]
  rfl

/-! ## What definition finds -/

/-- Numbers, strings and comments are declared nowhere. -/
theorem definition_of_inert (h : position.IsOn lines line column start text)
    (hinert : isInert line start text = true) :
    definition symbols stubs path lines position = .ok [] := by
  rw [definition, h.line_eq, h.character_eq]
  dsimp only
  rw [h.wordAt?_eq]
  exact if_pos hinert

/-- Any other word is declared where the symbol is that it refers to for the sake of its
declaration. -/
theorem definition_of_defined (h : position.IsOn lines line column start text)
    (hinert : isInert line start text = false) {symbol : Option Symbol}
    (hsymbol : definedSymbol? symbols stubs path position.line line (.ofText start text) =
      .ok symbol) :
    definition symbols stubs path lines position = .ok (symbol.toList.map Symbol.location) := by
  rw [definition, h.line_eq, h.character_eq]
  dsimp only
  rw [h.wordAt?_eq]
  refine (if_neg (ne_true_of_eq_false hinert)).trans ?_
  rw [hsymbol]
  rfl

end Position.IsOn

/-- Behind a field marker a word is declared where the field is. -/
theorem definedSymbol?_of_member {marker : Nat} {number : Int}
    (hmarker : Scope.memberMarker? line (start : Int) = .ok (some marker)) {field : Option Variable}
    (hfield : Scope.resolveMember? symbols path number line (.ofText start text) = .ok field) :
    definedSymbol? symbols stubs path number line (.ofText start text) =
      .ok (field.map .ofVariable) := by
  rw [definedSymbol?, Word.ofText_start, hmarker, hfield]
  rfl

/-- Elsewhere a word is declared where the symbol is that it is resolved to, unless that is no
function and the word names a built-in. -/
theorem definedSymbol?_of_resolved {number : Int}
    (hmarker : Scope.memberMarker? line (start : Int) = .ok none) {symbol : Option Symbol}
    (hsymbol : Scope.resolve? symbols path number line (.ofText start text) = .ok symbol) :
    definedSymbol? symbols stubs path number line (.ofText start text) =
      .ok (symbol.filter fun symbol => symbol.kind == .function || !stubs.contains text) := by
  rw [definedSymbol?, Word.ofText_start, hmarker, hsymbol]
  cases symbol with
  | none => rfl
  | some symbol =>
    cases symbol with
    | ofFunction f => rfl
    | _ =>
      change Except.ok (if stubs.contains text = true then none else some _) = _
      cases stubs.contains text <;> rfl

/-! ## Agreement -/

/-- What is shown over a word is declared nowhere in the sources: a built-in, a keyword, or
nothing. -/
inductive Hover.IsForeign (stubs : StubTable) (number : Int) (word : Word) : Option Hover → Prop
  | stub {stub : Stub} (h : stubs.first? word.text = some stub) :
      IsForeign stubs number word (some ⟨ofStub stub, .onLine number word.start word.stop⟩)
  | keyword {entry : Keyword.Entry} (h : Keyword.entry? word.text = some entry) :
      IsForeign stubs number word (some ⟨ofEntry entry, .onLine number word.start word.stop⟩)
  | nothing : IsForeign stubs number word none

/-- What hover shows over a word and the places that definition finds for it agree: a symbol and its
place, or something foreign and no place. -/
inductive Hover.Agrees (symbols : List Symbol) (stubs : StubTable) (number : Int) (word : Word) :
    Option Hover → List Location → Prop
  | symbol {symbol : Symbol} (h : symbol ∈ symbols.flatMap Symbol.withMembers) :
      Agrees symbols stubs number word
        (some ⟨ofSymbol symbol, .onLine number word.start word.stop⟩) [symbol.location]
  | foreign {answer : Option Hover} (h : IsForeign stubs number word answer) :
      Agrees symbols stubs number word answer []

/-- What is shown over a word that is no field agrees with where it is declared. -/
theorem Hover.agrees_of_resolved {number : Int} {word : Word} {symbol : Option Symbol}
    (h : ∀ s, symbol = some s → s ∈ symbols.flatMap Symbol.withMembers) :
    Agrees symbols stubs number word
      ((ofWord? symbol stubs word.text).map fun contents =>
        ⟨contents, .onLine number word.start word.stop⟩)
      ((symbol.filter fun symbol =>
        symbol.kind == .function || !stubs.contains word.text).toList.map Symbol.location) := by
  cases symbol with
  | none =>
    refine .foreign ?_
    cases hstub : stubs.first? word.text with
    | some stub =>
      have hnone : ∀ s : Symbol, none = some s → s.kind ≠ .function := fun s hs => nomatch hs
      rw [ofWord?_of_stub hstub hnone]
      exact .stub hstub
    | none =>
      rw [ofWord?_of_none hstub]
      cases hentry : Keyword.entry? word.text with
      | none => exact .nothing
      | some entry => exact .keyword hentry
  | some symbol =>
    by_cases hfunction : symbol.kind = .function
    · cases symbol <;> cases hfunction
      exact .symbol (h _ rfl)
    · rw [Option.filter_some, beq_eq_false_iff_ne.2 hfunction, Bool.false_or, StubTable.contains]
      cases hstub : stubs.first? word.text with
      | some stub =>
        rw [ofWord?_of_stub hstub fun s hs => Option.some.inj hs ▸ hfunction]
        exact .foreign (.stub hstub)
      | none =>
        rw [ofWord?_of_no_stub hstub]
        exact .symbol (h _ rfl)

/-- Over a word character of a line, hover and definition succeed, and unless a phrase is shown they
agree. -/
theorem hover?_agrees_definition (symbols : List Symbol) (stubs : StubTable) (path : Text)
    (hline : position.lineOf? lines = some line) (hfirst : 0 ≤ position.character)
    (hlast : position.character < line.length)
    (hchar : wordCharAt line position.character = .ok true) :
    ∃ word answer places, wordAt? line position.character = .ok (some word) ∧
      hover? symbols stubs path lines position = .ok answer ∧
      definition symbols stubs path lines position = .ok places ∧
      ((∃ shown, answer = some shown ∧
          Hover.ofPhrase? position.line line word = .ok (some shown)) ∨
        Hover.Agrees symbols stubs position.line word answer places) := by
  obtain ⟨column, hcolumn⟩ := Int.eq_ofNat_of_zero_le hfirst
  have hinside : column < line.length := by omega
  rw [hcolumn, wordCharAt_natCast hinside] at hchar
  obtain ⟨start, text, hcaret⟩ := exists_caretOn hinside (Except.ok.inj hchar)
  have hon : position.IsOn lines line column start text := ⟨hcaret, hline, hcolumn⟩
  have hstart : start ≤ line.length := Nat.le_trans hcaret.start_le (Nat.le_of_lt hinside)
  refine ⟨.ofText start text, ?_⟩
  rw [hcolumn, hcaret.wordAt?_eq]
  cases hinert : isInert line start text with
  | true =>
    exact ⟨none, [], rfl, hon.hover?_of_inert hinert, hon.definition_of_inert hinert,
      .inr (.foreign .nothing)⟩
  | false =>
    obtain ⟨shown, hphrase⟩ : ∃ shown, Hover.ofPhrase? position.line line (.ofText start text) =
      .ok shown := Hover.exists_ofPhrase? position.line hstart
    obtain ⟨marker, hmarker, -⟩ := Scope.exists_memberMarker? hstart
    obtain ⟨field, hfield⟩ :=
      Scope.exists_resolveMember? hcaret.holds symbols path position.line
    obtain ⟨symbol, hsymbol, hmem⟩ :=
      Scope.exists_resolve? hcaret.holds symbols path position.line
    cases shown with
    | some shown =>
      cases marker with
      | none =>
        exact ⟨some shown, _, rfl, hon.hover?_of_phrase hinert hphrase,
          hon.definition_of_defined hinert (definedSymbol?_of_resolved hmarker hsymbol),
          .inl ⟨shown, rfl, hphrase⟩⟩
      | some marker =>
        exact ⟨some shown, _, rfl, hon.hover?_of_phrase hinert hphrase,
          hon.definition_of_defined hinert (definedSymbol?_of_member hmarker hfield),
          .inl ⟨shown, rfl, hphrase⟩⟩
    | none =>
      cases marker with
      | none =>
        exact ⟨_, _, rfl, hon.hover?_of_resolved hinert hphrase hmarker hsymbol,
          hon.definition_of_defined hinert (definedSymbol?_of_resolved hmarker hsymbol),
          .inr (Hover.agrees_of_resolved fun s hs => (hmem s hs).1)⟩
      | some marker =>
        refine ⟨_, _, rfl, hon.hover?_of_member hinert hphrase hmarker hfield,
          hon.definition_of_defined hinert (definedSymbol?_of_member hmarker hfield), .inr ?_⟩
        cases field with
        | none => exact .foreign .nothing
        | some field =>
          obtain ⟨t, ht, hmember, -⟩ := Scope.exists_type_of_resolveMember? hfield
          exact .symbol (Symbol.member_mem_withMembers ht hmember)

end Word

/-- Over a use of a global, hover shows what stands at the place that definition finds. -/
theorem hover?_agrees_definition_global :
    let disk := Disk.ofFile "lib.bb" [] 1
    let rules : IncludeRules := ⟨[], true, 2⟩
    let text : Text := "Global speed\nPrint speed"
    let word : Word := ⟨6, 11, "speed"⟩
    ∃ found answer, (extract disk rules "main.bb" text).1 = .ok found ∧
      hover? found ⟨[]⟩ "main.bb" text.lines ⟨1, 8⟩ = .ok answer ∧
      definition found ⟨[]⟩ "main.bb" text.lines ⟨1, 8⟩ = .ok [⟨"main.bb", ⟨0, 7⟩⟩] ∧
      Hover.Agrees found ⟨[]⟩ 1 word answer [⟨"main.bb", ⟨0, 7⟩⟩] := by
  intro disk rules text word
  have hok : (extract disk rules "main.bb" text).1.isOk = true := by decide +kernel
  have hplaces : ∀ found ∈ (extract disk rules "main.bb" text).1.toOption,
      definition found ⟨[]⟩ "main.bb" text.lines ⟨1, 8⟩ = .ok [⟨"main.bb", ⟨0, 7⟩⟩] := by
    decide +kernel
  have hword : wordAt? "Print speed" 8 = .ok (some word) := by decide +kernel
  have hphrase : Hover.ofPhrase? 1 "Print speed" word = .ok none := by decide +kernel
  have hline : (⟨1, 8⟩ : Position).lineOf? text.lines = some "Print speed".toList := by
    decide +kernel
  obtain ⟨found, hfound⟩ := exists_eq_ok_of_isOk hok
  rw [hfound] at hplaces
  obtain ⟨word', answer, places, hword', hanswer, hdefinition, hagrees⟩ :=
    hover?_agrees_definition found ⟨[]⟩ "main.bb" hline (by decide) (by decide) (by decide +kernel)
  obtain rfl : word' = word := Option.some.inj (Except.ok.inj (hword'.symm.trans hword))
  obtain rfl : places = [⟨"main.bb", ⟨0, 7⟩⟩] :=
    Except.ok.inj (hdefinition.symm.trans (hplaces found rfl))
  refine ⟨found, answer, hfound, hanswer, hdefinition, hagrees.resolve_left ?_⟩
  rintro ⟨shown, -, hshown⟩
  cases hshown.symm.trans hphrase

end BlitzLens
