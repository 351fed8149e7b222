import BlitzLens.Proofs.Query.Outranked

/-!
# Definition settles

From a reference, definition leads to a place, and asked there again it should lead to the same
place. It does so exactly if no other meaning of the name goes before the symbol that is declared
there (`extract_definition_settled`). A single place is always the place of a symbol, for built-ins
are declared nowhere, and no two symbols are declared at one place.
-/

namespace BlitzLens

open Line

/-! ## What definition finds -/

section Found

variable {symbols : List Symbol} {stubs : StubTable} {path line : Text} {lines : List Text}
  {number : Int} {word : Word} {symbol : Symbol} {position : Position} {place : Location}

/-- Whether a name has a stub does not depend on its case. -/
theorem StubTable.contains_congr {name name' : Text} (h : name.lower = name'.lower) :
    stubs.contains name = stubs.contains name' := by
  rw [contains, contains, first?, first?, h]

/-- What a word refers to for the sake of its declaration is a field, or the word is resolved to it
and it is a function or does not have the name of a built-in. -/
theorem resolved_of_definedSymbol?
    (h : definedSymbol? symbols stubs path number line word = .ok (some symbol)) :
    (∃ t v, symbol = .ofVariable v ∧ .ofType t ∈ symbols ∧ v ∈ t.fields) ∨
      Scope.resolve? symbols path number line word = .ok (some symbol) ∧
        (symbol.kind = .function ∨ stubs.contains word.text = false) := by
  obtain ⟨marker, -, h⟩ := exists_of_bind_eq_ok h
  cases marker with
  | some marker =>
    obtain ⟨field, hfield, h⟩ := exists_of_bind_eq_ok h
    obtain ⟨v, rfl, rfl⟩ := Option.map_eq_some_iff.1 (Except.ok.inj h)
    obtain ⟨t, ht, hv, -⟩ := Scope.exists_type_of_resolveMember? hfield
    exact .inl ⟨t, v, rfl, ht, hv⟩
  | none =>
    obtain ⟨resolved, hresolve, h⟩ := exists_of_bind_eq_ok h
    cases resolved with
    | none => cases h
    | some other =>
      cases other with
      | ofFunction f =>
        obtain rfl := Option.some.inj (Except.ok.inj h)
        exact .inr ⟨hresolve, .inl rfl⟩
      | _ =>
        -- anything but a function is hidden by a built-in of its name
        have hshown := Except.ok.inj (show Except.ok (if stubs.contains word.text then none
          else some _) = Except.ok (some symbol) from h)
        split_ifs at hshown with hstub
        cases hshown
        exact .inr ⟨hresolve, .inr (Bool.eq_false_iff.2 hstub)⟩

/-- The one place that definition finds is the one of a field or of a symbol that a word of the line
is resolved to. -/
theorem exists_resolved_of_definition
    (h : definition symbols stubs path lines position = .ok [place]) :
    ∃ symbol, symbol.location = place ∧
      ((∃ t v, symbol = .ofVariable v ∧ .ofType t ∈ symbols ∧ v ∈ t.fields) ∨
        ∃ line word, Scope.resolve? symbols path position.line line word = .ok (some symbol) ∧
          (symbol.kind = .function ∨ stubs.contains word.text = false)) := by
  rw [definition] at h
  split at h
  · cases h
  · next line hline =>
    obtain ⟨touched, -, h⟩ := exists_of_bind_eq_ok h
    cases touched with
    | none => cases h
    | some word =>
      dsimp only at h
      split_ifs at h
      · cases h
      · obtain ⟨symbol, hsymbol, h⟩ := exists_of_bind_eq_ok h
        cases symbol with
        | none => cases h
        | some symbol =>
          refine ⟨symbol, List.singleton_inj.1 (Except.ok.inj h), ?_⟩
          exact (resolved_of_definedSymbol? hsymbol).imp_right fun hresolved =>
            ⟨line, word, hresolved⟩

end Found

namespace Source.Declares

variable {source : Source} {found : List Symbol} {stubs : StubTable} {line : Text} {word : Word}
  {position : Position} {number : Int} {place : Location} {symbol : Symbol} {v : Variable}

/-- A field that is not misplaced is found at its site exactly if it is not outranked. -/
theorem definition_member_iff (h : source.Declares found) {t : RecordType}
    (ht : .ofType t ∈ found) (hv : v ∈ t.fields) (hplace : ¬v.Misplaced source.lines) :
    definition found stubs source.path source.lines v.position =
        .ok [(Symbol.ofVariable v).location] ↔
      ¬(Symbol.ofVariable v).Outranked found stubs source.path source.lines := by
  cases h.made _ ht with
  | ofType _ _ hfields =>
    obtain ⟨line, column, hsits, hopens, hdeclares⟩ := (hfields v hv).exists_sitsAt
      (h.placed_declared (Symbol.member_mem_withMembers ht hv)) h.newline hplace
    exact h.definition_field_iff ht hv hsits hopens hdeclares

/-- A variable that a word is resolved to is found at its site exactly if it is not outranked, if it
is neither misplaced nor overridden and the word does not name a built-in. -/
theorem definition_resolved_iff (h : source.Declares found)
    (hresolve : Scope.resolve? found source.path number line word = .ok (some (.ofVariable v)))
    (hstub : stubs.contains v.name = false) (hplace : ¬v.Misplaced source.lines)
    (hlast : ¬v.Overridden found) :
    definition found stubs source.path source.lines v.position =
        .ok [(Symbol.ofVariable v).location] ↔
      ¬(Symbol.ofVariable v).Outranked found stubs source.path source.lines := by
  have hvisible := (Scope.mem_of_choose hresolve).resolve_left nofun
  have hmem := Scope.mem_of_mem_visible (List.mem_of_mem_filter hvisible)
  have hvariable (hguard : v.guard = .name) (hmade : v.MadeIn source) :
      definition found stubs source.path source.lines v.position =
          .ok [(Symbol.ofVariable v).location] ↔
        ¬(Symbol.ofVariable v).Outranked found stubs source.path source.lines := by
    obtain ⟨line', column, hsits, hopens⟩ :=
      hmade.exists_sitsAt (h.placed_declared hmem) h.newline hplace
    obtain ⟨front, back, howned, hback⟩ := h.exists_owned_eq_append hresolve hguard hlast
    refine h.definition_variable_iff hmem hguard hsits hopens (fun f hf hkey => ?_) howned hback
      hstub
    -- a function of the name would have been meant
    have hreads := Scope.reads_of_accepts ((Scope.accepts_of_choose hresolve).resolve_left nofun)
    have hword : v.key = word.text.lower := beq_iff_eq.1 (List.mem_filter.1 hvisible).2
    exact List.find?_eq_none.1 (Scope.find?_decides_eq_none hresolve) _ hf
      (h.decides_function hreads hf (hkey.trans hword))
  obtain ⟨owner, howner, hmember⟩ := List.mem_flatMap.1 hmem
  rcases List.mem_cons.1 hmember with rfl | hmember
  · cases h.made _ howner with
    | ofVariable hmade =>
      exact hvariable (h.held.guard v (mem_topVariables.2 howner)) hmade
  · obtain ⟨u, hu, heq⟩ := List.mem_map.1 hmember
    cases heq
    cases h.made _ howner with
    | ofFunction _ _ hlocals => exact hvariable ((h.held.holds _ howner).2 v hu) (hlocals v hu)
    | ofType => exact h.definition_member_iff howner hu hplace
    | _ => cases hu

/-- If definition finds one place, it is the place of a symbol, and definition finds it there again
exactly if the symbol is not outranked, unless it is a misplaced or overridden variable. -/
theorem exists_definition_settled (h : source.Declares found)
    (hplace : definition found stubs source.path source.lines position = .ok [place]) :
    ∃ symbol ∈ found.flatMap Symbol.withMembers, symbol.location = place ∧
      ((∀ v, symbol = .ofVariable v → ¬v.Misplaced source.lines ∧ ¬v.Overridden found) →
        (definition found stubs source.path source.lines place.position = .ok [place] ↔
          ¬symbol.Outranked found stubs source.path source.lines)) := by
  obtain ⟨symbol, rfl, ⟨t, v, rfl, ht, hv⟩ | ⟨line, word, hresolve, hstub⟩⟩ :=
    exists_resolved_of_definition hplace
  · exact ⟨_, Symbol.member_mem_withMembers ht hv, rfl, fun hother =>
      h.definition_member_iff ht hv (hother v rfl).1⟩
  · have hvisible := (Scope.mem_of_choose hresolve).resolve_left nofun
    have hmem := Scope.mem_of_mem_visible (List.mem_of_mem_filter hvisible)
    refine ⟨symbol, hmem, rfl, fun hother => ?_⟩
    -- the word and the name differ in case at most
    have hname : stubs.contains word.text = stubs.contains symbol.declared.name :=
      StubTable.contains_congr ((beq_iff_eq.1 (List.mem_filter.1 hvisible).2).symm.trans
        (h.placed_declared hmem).key)
    rw [hname] at hstub
    have hreads := Scope.reads_of_accepts ((Scope.accepts_of_choose hresolve).resolve_left nofun)
    cases symbol with
    | ofVariable v =>
      exact h.definition_resolved_iff hresolve (hstub.resolve_left nofun) (hother v rfl).1
        (hother v rfl).2
    | ofFunction f =>
      have hfirst := Scope.find?_decides_eq_some hresolve rfl
      exact iff_of_true (h.definition_function hreads hfirst) fun hrank => by cases hrank
    | ofType t =>
      have hfirst := Scope.find?_decides_eq_some hresolve rfl
      exact iff_of_true (h.definition_type hreads hfirst (hstub.resolve_left nofun))
        fun hrank => by cases hrank
    | ofLabel l =>
      have hfirst := Scope.find?_decides_eq_some hresolve rfl
      exact h.definition_label_iff hreads hfirst (hstub.resolve_left nofun)

end Source.Declares

/-! ## Documents -/

/-- In a document without includes, a single place that definition finds is the place of a symbol,
and definition finds it there again exactly if no other meaning of the name goes before the symbol.
Nothing is said about variables whose recorded place is none where a name is declared, and about
iterators of the top level in front of other variables of their names. -/
theorem extract_definition_settled {disk : Disk} {rules : IncludeRules} {path text : Text}
    {found : List Symbol} {stubs : StubTable} {position : Position} {place : Location}
    (hincludes : ∀ line ∈ text.lines, (Statement.read line).target? = none)
    (h : (extract disk rules path text).1 = .ok found)
    (hplace : definition found stubs path text.lines position = .ok [place]) :
    ∃ symbol ∈ found.flatMap Symbol.withMembers, symbol.location = place ∧
      ((∀ v, symbol = .ofVariable v → ¬v.Misplaced text.lines ∧ ¬v.Overridden found) →
        (definition found stubs path text.lines place.position = .ok [place] ↔
          ¬symbol.Outranked found stubs path text.lines)) := by
  rw [extract_fst, Visit.outcome_eq] at h
  exact (Source.declares_of_outcome (Text.linesAfter_ne_nil false text)
    (fun line hline => Text.newline_notMem_of_mem_lines hline) hincludes h
    ).exists_definition_settled hplace

/-- From a use of a local that has the name of a global, definition leads to the local and stays
there. -/
theorem extract_definition_settled_local :
    let disk := Disk.ofFile "lib.bb" [] 1
    let rules : IncludeRules := ⟨[], true, 2⟩
    let text : Text := "Global x\nFunction f()\nLocal x\nPrint x\nEnd Function"
    let place : Location := ⟨"main.bb", ⟨2, 6⟩⟩
    ∃ found, (extract disk rules "main.bb" text).1 = .ok found ∧
      definition found ⟨[]⟩ "main.bb" text.lines ⟨3, 6⟩ = .ok [place] ∧
      definition found ⟨[]⟩ "main.bb" text.lines place.position = .ok [place] := by
  intro disk rules text place
  have hincludes : ∀ line ∈ text.lines, (Statement.read line).target? = none := by
    decide +kernel
  have hok : (extract disk rules "main.bb" text).1.isOk = true := by decide +kernel
  have hlocal : ∀ found ∈ (extract disk rules "main.bb" text).1.toOption,
      definition found ⟨[]⟩ "main.bb" text.lines ⟨3, 6⟩ = .ok [place] ∧
      ∀ symbol ∈ found.flatMap Symbol.withMembers, symbol.location = place →
        symbol.isVariable = true ∧ ∀ v ∈ symbol.asVariable?, v.guard = .name ∧
          v.isIterator = false ∧
          (Scope.enclosingFunction? found "main.bb" v.range.startLine).isSome = true ∧
          ∀ line ∈ v.position.lineOf? text.lines, isCode line v.range.startCol = true ∧
            Guard.opensDeclaration (line.upTo v.range.startCol) = true := by decide +kernel
  obtain ⟨found, hfound⟩ := exists_eq_ok_of_isOk hok
  rw [hfound] at hlocal
  obtain ⟨hplace, hsymbols⟩ := hlocal found rfl
  obtain ⟨symbol, hmem, hlocation, hsettled⟩ := extract_definition_settled hincludes hfound hplace
  obtain ⟨hvariable, hview⟩ := hsymbols symbol hmem hlocation
  cases symbol with
  | ofVariable v =>
    obtain ⟨hguard, hiterator, henclosed, hsite⟩ := hview v rfl
    refine ⟨found, hfound, hplace, (hsettled fun u heq => ?_).2 ?_⟩
    · cases heq
      refine ⟨fun ⟨line, hline, _, hwrong⟩ => hwrong (hsite line hline), fun ⟨hloop, _⟩ => ?_⟩
      rw [hiterator] at hloop
      cases hloop
    · rintro (⟨hfield, -, -⟩ | ⟨hfield, -⟩ | ⟨hfield, -, -⟩ | ⟨-, htop, -⟩ | -)
      · cases hguard.symm.trans hfield
      · cases hguard.symm.trans hfield
      · cases hguard.symm.trans hfield
      · rw [htop] at henclosed
        cases henclosed
  | _ => cases hvariable

/-- Behind a field marker, definition leads to a field, but from the field it leads on to a function
of its name. -/
theorem extract_definition_unsettled :
    let disk := Disk.ofFile "lib.bb" [] 1
    let rules : IncludeRules := ⟨[], true, 2⟩
    let text : Text := "Function speed()\nEnd Function\nType Car\nField speed\nEnd Type\n" ++
      "Local c.Car\nPrint c\\speed"
    (∀ line ∈ text.lines, (Statement.read line).target? = none) ∧
    ∃ found, (extract disk rules "main.bb" text).1 = .ok found ∧
      definition found ⟨[]⟩ "main.bb" text.lines ⟨6, 8⟩ = .ok [⟨"main.bb", ⟨3, 6⟩⟩] ∧
      definition found ⟨[]⟩ "main.bb" text.lines ⟨3, 6⟩ = .ok [⟨"main.bb", ⟨0, 9⟩⟩] := by
  intro disk rules text
  have hincludes : ∀ line ∈ text.lines, (Statement.read line).target? = none := by
    decide +kernel
  have hok : (extract disk rules "main.bb" text).1.isOk = true := by decide +kernel
  have hplaces : ∀ found ∈ (extract disk rules "main.bb" text).1.toOption,
      definition found ⟨[]⟩ "main.bb" text.lines ⟨6, 8⟩ = .ok [⟨"main.bb", ⟨3, 6⟩⟩] ∧
      definition found ⟨[]⟩ "main.bb" text.lines ⟨3, 6⟩ = .ok [⟨"main.bb", ⟨0, 9⟩⟩] := by
    decide +kernel
  obtain ⟨found, hfound⟩ := exists_eq_ok_of_isOk hok
  rw [hfound] at hplaces
  exact ⟨hincludes, found, hfound, hplaces found rfl⟩

end BlitzLens
