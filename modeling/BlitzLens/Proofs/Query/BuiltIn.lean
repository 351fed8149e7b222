import BlitzLens.Proofs.Extraction.Origin
import BlitzLens.Proofs.Query.Hover
import BlitzLens.Proofs.Scope.Precedence

/-!
# Built-ins and the functions that hide them

A function of a document hides the built-in of its name: hover shows the function, and definition
finds it. No variable does so, and no type or label does either; but a type or a label that a word
may refer to and that is declared in front of the function brings the built-in back
(`extract_builtIn_hidden`).
-/

namespace BlitzLens

open Line

/-- A position between the ends of a word of the code is on the word, which is no number. -/
theorem Position.exists_isOn {position : Position} {lines : List Text} {line : Text} {word : Word}
    (hline : position.lineOf? lines = some line) (hword : word ∈ codeWords line)
    (hstart : word.start ≤ position.character) (hstop : position.character < word.stop) :
    ∃ column start text, word = .ofText start text ∧
      position.IsOn lines line column start text ∧ isCode line (start : Int) = true ∧
      isInert line start text = false := by
  obtain ⟨start, hplace, hname, hopens, hcode⟩ := exists_nameAt_of_mem_codeWords hword
  rw [hplace, Word.ofText_start] at hstart
  rw [hplace, Word.ofText_stop] at hstop
  obtain ⟨column, hcolumn⟩ := Int.eq_ofNat_of_zero_le
    (Int.le_trans (Int.natCast_nonneg start) hstart)
  refine ⟨column, start, word.text, hplace,
    ⟨⟨hname.toStandsAt, hname.isWord, by omega, by omega⟩, hline, hcolumn⟩, hcode, ?_⟩
  rw [isInert, isNumber_of_opensIdentifier hopens, hcode]
  rfl

section Shown

variable {symbols : List Symbol} {stubs : StubTable} {path : Text} {lines : List Text}
  {position : Position} {line text : Text} {column start : Nat} {symbol : Option Symbol}

/-- A word that is resolved to no function and names a built-in stands for the built-in. -/
theorem Position.IsOn.shows_stub (h : position.IsOn lines line column start text)
    (hinert : isInert line start text = false)
    (hphrase : Hover.ofPhrase? position.line line (.ofText start text) = .ok none)
    (hmarker : Scope.memberMarker? line (start : Int) = .ok none)
    (hresolve : Scope.resolve? symbols path position.line line (.ofText start text) = .ok symbol)
    (hkind : ∀ s, symbol = some s → s.kind ≠ .function) {stub : Stub}
    (hstub : stubs.first? text = some stub) :
    hover? symbols stubs path lines position = .ok (some ⟨Hover.ofStub stub,
        .onLine position.line start ((start + text.length : Nat) : Int)⟩) ∧
      definition symbols stubs path lines position = .ok [] := by
  constructor
  · rw [h.hover?_of_resolved hinert hphrase hmarker hresolve, Hover.ofWord?_of_stub hstub hkind]
    rfl
  · rw [h.definition_of_defined hinert (definedSymbol?_of_resolved hmarker hresolve),
      StubTable.contains, hstub]
    cases symbol with
    | none => rfl
    | some s =>
      rw [Option.filter_some, beq_eq_false_iff_ne.2 (hkind s rfl)]
      rfl

/-- A word that is resolved to a function stands for it. -/
theorem Position.IsOn.shows_function (h : position.IsOn lines line column start text)
    (hinert : isInert line start text = false)
    (hphrase : Hover.ofPhrase? position.line line (.ofText start text) = .ok none)
    (hmarker : Scope.memberMarker? line (start : Int) = .ok none) {f : Function}
    (hresolve : Scope.resolve? symbols path position.line line (.ofText start text) =
      .ok (some (.ofFunction f))) :
    hover? symbols stubs path lines position = .ok (some ⟨Hover.ofSymbol (.ofFunction f),
        .onLine position.line start ((start + text.length : Nat) : Int)⟩) ∧
      definition symbols stubs path lines position = .ok [(Symbol.ofFunction f).location] :=
  ⟨h.hover?_of_resolved hinert hphrase hmarker hresolve,
    h.definition_of_defined hinert (definedSymbol?_of_resolved hmarker hresolve)⟩

end Shown

/-- A word of the code that names a built-in stands for a function of its name, if the pass finds
one and no type or label outranks it, and for the built-in otherwise. -/
theorem extract_builtIn_hidden {disk : Disk} {rules : IncludeRules} {path text line : Text}
    {found : List Symbol} {stubs : StubTable} {stub : Stub} {position : Position} {word : Word}
    (h : (extract disk rules path text).1 = .ok found)
    (hline : position.lineOf? text.lines = some line) (hword : word ∈ codeWords line)
    (hstart : word.start ≤ position.character) (hstop : position.character < word.stop)
    (hstub : stubs.first? word.text = some stub)
    (hphrase : Hover.ofPhrase? position.line line word = .ok none)
    (hmarker : Scope.memberMarker? line word.start = .ok none) :
    ((∃ f, .ofFunction f ∈ found ∧ f.key = word.text.lower) ∧
        ¬Scope.FunctionOutranked found line word →
      ∃ f, .ofFunction f ∈ found ∧ f.key = word.text.lower ∧
        hover? found stubs path text.lines position = .ok (some ⟨Hover.ofSymbol (.ofFunction f),
          .onLine position.line word.start word.stop⟩) ∧
        definition found stubs path text.lines position = .ok [(Symbol.ofFunction f).location]) ∧
    (¬((∃ f, .ofFunction f ∈ found ∧ f.key = word.text.lower) ∧
        ¬Scope.FunctionOutranked found line word) →
      hover? found stubs path text.lines position = .ok (some ⟨Hover.ofStub stub,
        .onLine position.line word.start word.stop⟩) ∧
      definition found stubs path text.lines position = .ok []) := by
  obtain ⟨column, start, name, rfl, hon, hcode, hinert⟩ :=
    Position.exists_isOn hline hword hstart hstop
  have hholds := hon.toStandsAt.holds
  have hfunctions : ∀ f, Symbol.ofFunction f ∈ found →
      Scope.accepts (.ofFunction f) line (.ofText start name) = .ok true := by
    intro f hmem
    have hguard : (Symbol.ofFunction f).declared.guard = .anywhere := extract_guard_function h hmem
    rw [Scope.accepts, hguard]
    exact Scope.reads_of_isCode hon.toStandsAt hcode .anywhere (by decide)
  obtain ⟨symbol, hresolve, hfits⟩ := Scope.exists_resolve? hholds found path position.line
  rw [← Scope.find?_decides_function_iff hfunctions]
  constructor
  · rintro ⟨f, hfirst⟩
    have hfunction : symbol = some (.ofFunction f) := by
      rw [Scope.resolve?_eq hholds.exists_accepts, hfirst, Option.some_or] at hresolve
      exact (Except.ok.inj hresolve).symm
    rw [hfunction] at hresolve
    exact ⟨f, List.mem_of_find?_eq_some hfirst, (hfits _ hfunction).2,
      hon.shows_function hinert hphrase hmarker hresolve⟩
  · intro hno
    refine hon.shows_stub hinert hphrase hmarker hresolve (fun s hs hkind => ?_) hstub
    rw [hs] at hresolve
    cases s <;> cases hkind
    exact hno ⟨_, Scope.find?_decides_eq_some hresolve rfl⟩

/-- A call of a function that a variable and a built-in share the name with stands for the
function. -/
theorem extract_builtIn_hidden_call :
    let disk := Disk.ofFile "lib.bb" [] 1
    let rules : IncludeRules := ⟨[], true, 2⟩
    let text : Text := "Local Foo\nFunction Foo()\nEnd Function\nFoo()"
    let stubs : StubTable := ⟨[⟨"Foo", "Function Foo(x)", [], [], [], none⟩]⟩
    ∃ found f, (extract disk rules "main.bb" text).1 = .ok found ∧ .ofFunction f ∈ found ∧
      hover? found stubs "main.bb" text.lines ⟨3, 1⟩ =
        .ok (some ⟨Hover.ofSymbol (.ofFunction f), ⟨3, 0, 3, 3⟩⟩) ∧
      definition found stubs "main.bb" text.lines ⟨3, 1⟩ =
        .ok [(Symbol.ofFunction f).location] := by
  intro disk rules text stubs
  have hok : (extract disk rules "main.bb" text).1.isOk = true := by decide +kernel
  have hfunction : ∀ found ∈ (extract disk rules "main.bb" text).1.toOption,
      (∃ symbol ∈ found, symbol.kind = .function ∧ symbol.key = Text.lower "Foo") ∧
        ¬Scope.FunctionOutranked found "Foo()" ⟨0, 3, "Foo"⟩ := by decide +kernel
  obtain ⟨found, hfound⟩ := exists_eq_ok_of_isOk hok
  rw [hfound] at hfunction
  obtain ⟨⟨symbol, hmem, hkind, hkey⟩, hrank⟩ := hfunction found rfl
  cases symbol <;> cases hkind
  have hline : (⟨3, 1⟩ : Position).lineOf? text.lines = some "Foo()".toList := by decide +kernel
  have hword : ⟨0, 3, "Foo"⟩ ∈ codeWords "Foo()" := by decide +kernel
  have hstub : stubs.first? "Foo" = some ⟨"Foo", "Function Foo(x)", [], [], [], none⟩ := by
    decide +kernel
  obtain ⟨f, hf, -, hhover, hdefinition⟩ := (extract_builtIn_hidden hfound hline hword
    (by decide) (by decide) hstub (by decide +kernel) (by decide +kernel)).1
      ⟨⟨_, hmem, hkey⟩, hrank⟩
  exact ⟨found, f, hfound, hf, hhover, hdefinition⟩

/-- A label in front of a function brings back the built-in of their name behind a jump. -/
theorem extract_builtIn_outranked :
    let disk := Disk.ofFile "lib.bb" [] 1
    let rules : IncludeRules := ⟨[], true, 2⟩
    let text : Text := ".Foo\nFunction Foo()\nEnd Function\nGoto Foo"
    let stub : Stub := ⟨"Foo", "Function Foo(x)", [], [], [], none⟩
    let word : Word := ⟨5, 8, "Foo"⟩
    ∃ found, (extract disk rules "main.bb" text).1 = .ok found ∧
      (∃ symbol ∈ found, symbol.kind = .function ∧ symbol.key = word.text.lower) ∧
      word ∈ codeWords "Goto Foo" ∧ Hover.ofPhrase? 3 "Goto Foo" word = .ok none ∧
      Scope.memberMarker? "Goto Foo" word.start = .ok none ∧
      hover? found ⟨[stub]⟩ "main.bb" text.lines ⟨3, 5⟩ =
        .ok (some ⟨Hover.ofStub stub, ⟨3, 5, 3, 8⟩⟩) ∧
      definition found ⟨[stub]⟩ "main.bb" text.lines ⟨3, 5⟩ = .ok [] := by
  intro disk rules text stub word
  have hok : (extract disk rules "main.bb" text).1.isOk = true := by decide +kernel
  have hshown : ∀ found ∈ (extract disk rules "main.bb" text).1.toOption,
      (∃ symbol ∈ found, symbol.kind = .function ∧ symbol.key = word.text.lower) ∧
      hover? found ⟨[stub]⟩ "main.bb" text.lines ⟨3, 5⟩ =
        .ok (some ⟨Hover.ofStub stub, ⟨3, 5, 3, 8⟩⟩) ∧
      definition found ⟨[stub]⟩ "main.bb" text.lines ⟨3, 5⟩ = .ok [] := by decide +kernel
  obtain ⟨found, hfound⟩ := exists_eq_ok_of_isOk hok
  rw [hfound] at hshown
  obtain ⟨hfunction, hhover, hdefinition⟩ := hshown found rfl
  exact ⟨found, hfound, hfunction, by decide +kernel, by decide +kernel, by decide +kernel, hhover,
    hdefinition⟩

end BlitzLens
