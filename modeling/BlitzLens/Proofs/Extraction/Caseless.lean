import BlitzLens.Proofs.Extraction.Erasure
import BlitzLens.Proofs.Extraction.Failure
import BlitzLens.Proofs.Extraction.Spelling

/-!
# The case of letters

Two documents that differ in the case of ASCII letters only say the same on every line
(`Statement.asciiLower_read_eq`). So either neither of them can be read, or they yield the same
symbols, but for how these are spelled and for the columns where they stand, and the same tokens
(`extract_asciiLower`).
-/

namespace BlitzLens

open Text

/-- The erasure of how symbols are spelled: of names and declarations as they are written, of
columns, of default values and of documentation. -/
def Erasure.spelling : Erasure where
  onDeclared d :=
    { d with
      name := []
      declaration := []
      description := []
      range := { d.range with startCol := 0, endCol := 0 }
      scope := { d.scope with startCol := 0, endCol := 0 } }
  keepsTexts := false
  key_onDeclared _ := rfl

/-- What of a declaration is referred to is no spelling. -/
theorem Erasure.spelling_keepsReference : Erasure.spelling.KeepsReference :=
  keepsReference_of_resembles fun _ => ⟨rfl, rfl, rfl, rfl, rfl⟩

/-! ## Parts that differ in case -/

namespace Part

/-- Two parts are spelled alike, but for the case of ASCII letters. -/
def SameSpelling (part part' : Part) : Prop :=
  part.asciiLower = part'.asciiLower

variable {part part' : Part}

/-- Parts that are spelled alike have the same key. -/
theorem SameSpelling.key (h : part.SameSpelling part') : part.key = part'.key :=
  lower_eq_of_asciiLower_eq (congrArg Part.name h)

/-- Texts that differ in the case of ASCII letters only spell the same part, or none. -/
theorem rel_parse? {text text' : Text} (h : Text.asciiLower text = Text.asciiLower text') :
    Option.Rel SameSpelling (parse? text) (parse? text') := by
  have hparse := parse?_asciiLower text
  rw [h, parse?_asciiLower] at hparse
  cases hpart : parse? text with
  | none =>
    rw [hpart, Option.map_none, Option.map_eq_none_iff] at hparse
    rw [hparse]
    exact .none
  | some part =>
    rw [hpart, Option.map_some, Option.map_eq_some_iff] at hparse
    obtain ⟨part', hpart', hsame⟩ := hparse
    rw [hpart']
    exact .some hsame.symm

/-- Lists that differ in the case of ASCII letters only spell the same parts, wherever they
stand. -/
theorem forall₂_locateParts {list list' : Text}
    (h : Text.asciiLower list = Text.asciiLower list') (line line' : Text) (column column' : Nat) :
    List.Forall₂ (fun place place' => place.1.SameSpelling place'.1)
      (locateParts line column (parseList list)) (locateParts line' column' (parseList list')) := by
  have hparts := parseList_asciiLower list
  rw [h, parseList_asciiLower, ← map_fst_locateParts line column (parseList list),
    ← map_fst_locateParts line' column' (parseList list'), List.map_map, List.map_map,
    ← List.forall₂_eq_eq_eq, List.forall₂_map_left_iff, List.forall₂_map_right_iff] at hparts
  exact hparts.flip.imp fun _ _ hsame => hsame.symm

end Part

/-! ## Lines that differ in case -/

section Statements

variable {source source' : Source} {line line' : Text} {part part' : Part}

/-- But for spelling, parts that are spelled alike declare the same in two files with one path. -/
theorem variables_spelling (hpath : source.path = source'.path) (hpart : part.SameSpelling part')
    (number column column' : Nat) (declaration declaration' description description' : Text)
    (storage : Storage) (constant : Bool) (closing : Option Nat) :
    (Likeness.ofErasure .spelling source source').Variables
      (part.toVariable source number column declaration storage description constant closing)
      (part'.toVariable source' number column' declaration' storage description' constant
        closing) := by
  have hmark := congrArg Part.typeMark hpart
  have hvalueType := congrArg TypeMark.valueType hmark
  have htypeName := congrArg TypeMark.typeName hmark
  have harray := congrArg Part.array hpart
  refine Erasure.variables_iff.2 (Erasure.onVariable_toVariable hvalueType htypeName harray
    (fun hkeeps => nomatch hkeeps) ?_)
  unfold Part.toVariable
  rw [hpath, hpart.key]
  cases closing <;> rfl

/-- Two functions that are spelled alike own the same when they are closed. -/
theorem functions_fresh_spelling (hpath : source.path = source'.path) (number : Nat)
    {name name' suffix suffix' : Text} (hname : Text.asciiLower name = Text.asciiLower name')
    (hsuffix : Text.asciiLower suffix = Text.asciiLower suffix') (column column' : Nat)
    {parameters parameters' : Option (Text × Nat)}
    (hparameters : parameters.map (Prod.map Text.asciiLower id) =
      parameters'.map (Prod.map Text.asciiLower id)) (doc doc' : DocBlock) :
    (Likeness.ofErasure .spelling source source').Functions
      (.fresh source number line name suffix column parameters doc)
      (.fresh source' number line' name' suffix' column' parameters' doc') where
  line := rfl
  closes := trivial
  locals := by
    cases parameters with
    | none =>
      cases parameters' with
      | none => exact .nil
      | some found => cases hparameters
    | some found =>
      cases parameters' with
      | none => cases hparameters
      | some found' =>
        have hlist : Text.asciiLower found.1 = Text.asciiLower found'.1 :=
          congrArg Prod.fst (Option.some.inj hparameters)
        refine forall₂_addLocated (fun known known' key hknown => declaresKey_congr
          (hknown.imp fun _ _ hsame => hsame.countsAs) key) ?_ .nil
        exact (Part.forall₂_locateParts hlist ..).imp fun place place' hsame =>
          ⟨hsame.key, variables_spelling hpath hsame ..⟩
  loops := .nil
  same locals locals' last hlocals _ := by
    have hmark : (TypeMark.ofSuffix suffix).asciiLower =
        (TypeMark.ofSuffix suffix').asciiLower := by
      rw [← TypeMark.ofSuffix_asciiLower, hsuffix, TypeMark.ofSuffix_asciiLower]
    have hvalueType := congrArg TypeMark.valueType hmark
    have htypeName := congrArg TypeMark.typeName hmark
    refine Erasure.same_finish hvalueType htypeName (fun hkeeps => nomatch hkeeps) ?_ hlocals
    simp only [FunctionDraft.finish, FunctionDraft.fresh, List.length_nil, FunctionDraft.closeLoops]
    rw [hpath, lower_eq_of_asciiLower_eq hname]
    rfl

/-- Lines that differ in the case of ASCII letters only declare the same, but for spelling. -/
theorem statements_spelling (hpath : source.path = source'.path)
    (hline : Text.asciiLower line = Text.asciiLower line')
    (hinclude : (Statement.read line).target? = none)
    (fetch fetch' : Text → Except ExtractError (List Symbol)) (number : Nat) :
    (Likeness.ofErasure .spelling source source').Statements fetch fetch' number line line'
      (Statement.read line) (Statement.read line') := by
  have hread := Statement.asciiLower_read_eq hline
  generalize Statement.read line = statement at hinclude hread
  generalize Statement.read line' = statement' at hread
  -- what the lines say has one form, as its spelling in lower case has
  cases statement with
  | includeFile target => cases hinclude
  | declare keyword list column =>
    cases statement' with
    | declare keyword' list' column' =>
      obtain ⟨hkeyword, hlist, -⟩ := Statement.declare.inj hread
      refine .declare (congrArg _ (lower_eq_of_asciiLower_eq hkeyword)) fun declarator => ?_
      exact (Part.forall₂_locateParts hlist ..).imp fun place place' hsame =>
        ⟨hsame.key, variables_spelling hpath hsame ..⟩
    | _ => cases hread
  | openLoop name suffix column closed =>
    cases statement' with
    | openLoop name' suffix' column' closed' =>
      obtain ⟨hname, hsuffix, -, rfl⟩ := Statement.openLoop.inj hread
      have htext : Text.asciiLower (name ++ suffix) = Text.asciiLower (name' ++ suffix') := by
        rw [asciiLower_append, hname, hsuffix, asciiLower_append]
      refine .openLoop ?_ fun _ => trivial
      obtain ⟨hpart, hpart'⟩ | ⟨part, part', hpart, hpart', hsame⟩ :=
        cases_of_rel (Part.rel_parse? htext)
      · rw [hpart, hpart']
        exact .none
      · rw [hpart, hpart']
        exact .some fun slot => ⟨hsame.key, rfl, fun storage last _ =>
          variables_spelling hpath hsame ..⟩
    | _ => cases hread
  | closeLoop =>
    cases statement' with
    | closeLoop => exact .closeLoop trivial
    | _ => cases hread
  | assign name sign column =>
    cases statement' with
    | assign name' sign' column' =>
      obtain ⟨hname, hsign, -⟩ := Statement.assign.inj hread
      have htext : Text.asciiLower (name ++ sign) = Text.asciiLower (name' ++ sign') := by
        rw [asciiLower_append, hname, hsign, asciiLower_append]
      refine .assign (lower_eq_of_asciiLower_eq hname) ?_
      obtain ⟨hpart, hpart'⟩ | ⟨part, part', hpart, hpart', hsame⟩ :=
        cases_of_rel (Part.rel_parse? htext)
      · rw [hpart, hpart']
        exact .none
      · rw [hpart, hpart']
        exact .some (variables_spelling hpath hsame ..)
    | _ => cases hread
  | documentParameter text =>
    cases statement' with
    | documentParameter text' => exact .documentParameter fun _ _ _ hkeeps => nomatch hkeeps
    | _ => cases hread
  | documentExample text =>
    cases statement' with
    | documentExample text' => exact .documentExample fun _ _ _ hkeeps => nomatch hkeeps
    | _ => cases hread
  | document text =>
    cases statement' with
    | document text' => exact .document fun _ _ _ hkeeps => nomatch hkeeps
    | _ => cases hread
  | closeFunction =>
    cases statement' with
    | closeFunction => exact .closeFunction trivial
    | _ => cases hread
  | openFunction name suffix column parameters =>
    cases statement' with
    | openFunction name' suffix' column' parameters' =>
      obtain ⟨hname, hsuffix, -, hparameters⟩ := Statement.openFunction.inj hread
      exact .openFunction trivial fun doc doc' _ =>
        functions_fresh_spelling hpath number hname hsuffix column column' hparameters doc doc'
    | _ => cases hread
  | closeType =>
    cases statement' with
    | closeType => exact .closeType
    | _ => cases hread
  | openType name column =>
    cases statement' with
    | openType name' column' =>
      obtain ⟨hname, -⟩ := Statement.openType.inj hread
      refine .openType ⟨rfl, .nil, fun fields fields' last hfields =>
        Erasure.same_typeFinish ?_ hfields⟩
      simp only [TypeDraft.finish, TypeDraft.fresh]
      rw [hpath, lower_eq_of_asciiLower_eq hname]
      rfl
    | _ => cases hread
  | declareFields list column =>
    cases statement' with
    | declareFields list' column' =>
      obtain ⟨hlist, -⟩ := Statement.declareFields.inj hread
      refine .declareFields ((Part.forall₂_locateParts hlist ..).imp fun place place' hsame => ?_)
      exact ⟨hsame.key, variables_spelling hpath hsame ..⟩
    | _ => cases hread
  | label name column =>
    cases statement' with
    | label name' column' =>
      obtain ⟨hname, -⟩ := Statement.label.inj hread
      refine .label (congrArg Symbol.ofLabel ?_)
      simp only [Erasure.onLabel, Label.at]
      rw [hpath, lower_eq_of_asciiLower_eq hname]
      rfl
    | _ => cases hread
  | other =>
    cases statement' with
    | other => exact .other
    | _ => cases hread

/-- Of lines that differ in the case of ASCII letters only, both are misspelt or none is. -/
theorem misspelt_of_asciiLower_eq (hline : Text.asciiLower line = Text.asciiLower line')
    (h : Line.Misspelt line) : Line.Misspelt line' := by
  obtain ⟨keyword, list, column, hread, hnone⟩ := Statement.exists_read_eq_declare_iff.2 h
  have hsame := Statement.asciiLower_read_eq hline
  rw [hread] at hsame
  cases hread' : Statement.read line' with
  | declare keyword' list' column' =>
    rw [hread'] at hsame
    obtain ⟨hkeyword, -, -⟩ := Statement.declare.inj hsame
    rw [lower_eq_of_asciiLower_eq hkeyword] at hnone
    exact Statement.exists_read_eq_declare_iff.1 ⟨keyword', list', column', hread', hnone⟩
  | _ =>
    rw [hread'] at hsame
    cases hsame

/-- Of lines that differ in the case of ASCII letters only, both are includes or none is. -/
theorem target?_of_asciiLower_eq (hline : Text.asciiLower line = Text.asciiLower line')
    (h : (Statement.read line).target? = none) : (Statement.read line').target? = none := by
  have hsame := Statement.asciiLower_read_eq hline
  cases hread' : Statement.read line' with
  | includeFile target =>
    rw [hread'] at hsame
    cases hread : Statement.read line with
    | includeFile target => rw [hread] at h; cases h
    | _ => rw [hread] at hsame; cases hsame
  | _ => rfl

end Statements

/-! ## Two documents -/

/-- A document without includes yields symbols if and only if none of its lines is misspelt. -/
theorem exists_extract_eq_ok_iff {disk : Disk} {rules : IncludeRules} {path text : Text}
    (hincludes : ∀ line ∈ text.lines, (Statement.read line).target? = none) :
    (∃ found, (extract disk rules path text).1 = .ok found) ↔
      ∀ line ∈ text.lines, ¬Line.Misspelt line := by
  rw [extract_fst, Visit.outcome_eq, Source.exists_outcome_eq_ok_iff]
  refine forall_congr' fun line => forall_congr' fun hline => ?_
  rw [hincludes line hline]
  exact and_iff_right fun _ htarget => nomatch htarget

/-- Of documents that differ in the case of ASCII letters only, both are without includes or none
is. -/
theorem includes_of_asciiLower_eq {text text' : Text}
    (h : Text.asciiLower text = Text.asciiLower text')
    (hincludes : ∀ line ∈ text.lines, (Statement.read line).target? = none) :
    ∀ line' ∈ text'.lines, (Statement.read line').target? = none := by
  intro line' hline'
  obtain ⟨line, hline, heq⟩ := exists_mem_lines_of_asciiLower_eq h.symm hline'
  exact target?_of_asciiLower_eq heq.symm (hincludes line hline)

/-- Of documents that differ in the case of ASCII letters only, both have a misspelt line or none
has. -/
theorem no_misspelt_of_asciiLower_eq {text text' : Text}
    (h : Text.asciiLower text = Text.asciiLower text')
    (hnone : ∀ line ∈ text.lines, ¬Line.Misspelt line) :
    ∀ line' ∈ text'.lines, ¬Line.Misspelt line' := by
  intro line' hline' hmisspelt
  obtain ⟨line, hline, heq⟩ := exists_mem_lines_of_asciiLower_eq h.symm hline'
  exact hnone line hline (misspelt_of_asciiLower_eq heq hmisspelt)

/-- Of documents without includes that differ in the case of ASCII letters only, both yield symbols
or none does. -/
theorem exists_extract_eq_ok_congr {disk : Disk} {rules : IncludeRules} {path text text' : Text}
    (h : Text.asciiLower text = Text.asciiLower text')
    (hincludes : ∀ line ∈ text.lines, (Statement.read line).target? = none) :
    (∃ found, (extract disk rules path text).1 = .ok found) ↔
      ∃ found', (extract disk rules path text').1 = .ok found' := by
  rw [exists_extract_eq_ok_iff hincludes,
    exists_extract_eq_ok_iff (includes_of_asciiLower_eq h hincludes)]
  exact ⟨no_misspelt_of_asciiLower_eq h, no_misspelt_of_asciiLower_eq h.symm⟩

/-- Two documents without includes that differ in the case of ASCII letters only either both cannot
be read, or yield the same symbols, but for how they are spelled, and the same tokens. -/
theorem extract_asciiLower {disk : Disk} {rules : IncludeRules} {path text text' : Text}
    (h : Text.asciiLower text = Text.asciiLower text')
    (hincludes : ∀ line ∈ text.lines, (Statement.read line).target? = none) :
    ((∃ error, (extract disk rules path text).1 = .error error) ∧
        ∃ error, (extract disk rules path text').1 = .error error) ∨
      ∃ found found', (extract disk rules path text).1 = .ok found ∧
        (extract disk rules path text').1 = .ok found' ∧
        found.map Erasure.spelling.onSymbol = found'.map Erasure.spelling.onSymbol ∧
        ∃ tokens, Highlight.tokens found path text.lines = .ok tokens ∧
          Highlight.tokens found' path text'.lines = .ok tokens := by
  have hlines := forall₂_lines_of_asciiLower_eq h
  have hsame (number : Nat) (line line' : Text) (hline : text.lines[number]? = some line)
      (hline' : text'.lines[number]? = some line') :
      Text.asciiLower line = Text.asciiLower line' := by
    obtain ⟨hnumber, rfl⟩ := List.getElem?_eq_some_iff.1 hline
    obtain ⟨hnumber', rfl⟩ := List.getElem?_eq_some_iff.1 hline'
    exact hlines.get hnumber hnumber'
  have hboth : (∃ found, (extract disk rules path text).1 = .ok found) ↔ _ :=
    exists_extract_eq_ok_congr h hincludes
  cases hfound : (extract disk rules path text).1 with
  | error error =>
    cases hfound' : (extract disk rules path text').1 with
    | error error' => exact .inl ⟨⟨error, rfl⟩, error', rfl⟩
    | ok found' =>
      obtain ⟨found, habsurd⟩ := hboth.2 ⟨found', hfound'⟩
      cases hfound.symm.trans habsurd
  | ok found =>
    obtain ⟨found', hfound'⟩ := hboth.1 ⟨found, hfound⟩
    refine .inr ⟨found, found', rfl, hfound', ?_⟩
    rw [extract_fst, Visit.outcome_eq] at hfound hfound'
    have hpath : (Source.ofText path text).path = (Source.ofText path text').path := rfl
    have halike : List.Forall₂ (Likeness.ofErasure .spelling (.ofText path text)
        (.ofText path text')).Same found found' :=
      Likeness.outcome hlines.length_eq (fun number line line' hline hline' =>
        statements_spelling hpath (hsame number line line' hline hline')
          (hincludes line (List.mem_of_getElem? hline)) _ _ number) trivial hfound hfound'
    have hsymbols := Erasure.forall₂_same_iff.1 halike
    obtain ⟨tokens, tokens', htokens, htokens', heq⟩ := Highlight.exists_tokens path
      hlines.length_eq (fun _ => true) fun number line line' hline hline' _ =>
        ⟨Erasure.spelling_keepsReference.symbols hsymbols number,
          Line.sameReference_of_asciiLower_eq (hsame number line line' hline hline')⟩
    rw [List.filter_true, List.filter_true] at heq
    exact ⟨hsymbols, tokens, htokens, heq ▸ htokens'⟩

/-- Keywords, a function with its parameter, an iterator, a type and a label are spelled in other
cases. -/
theorem extract_asciiLower_swapped :
    let disk := Disk.ofFile "lib.bb" [] 1
    let rules : IncludeRules := ⟨[], true, 2⟩
    let text : Text := "Global A$ = \"x\"\nFunction Hit(p.Foe)\nFor i = 1 To 3\na = \"y\"\n" ++
      "NEXT\nEnd Function\nType FOE\nField Name$, at(2)\nEnd Type\n.Again\nGoto again"
    let text' : Text := "GLOBAL a$ = \"x\"\nfunction hit(P.foe)\nfOR I = 1 to 3\nA = \"y\"\n" ++
      "next\nend function\ntype Foe\nfield NAME$, At(2)\nend type\n.AGAIN\ngoto Again"
    Text.asciiLower text = Text.asciiLower text' ∧
      (∀ line ∈ text.lines, (Statement.read line).target? = none) ∧
      ∃ found found', (extract disk rules "main.bb" text).1 = .ok found ∧
        (extract disk rules "main.bb" text').1 = .ok found' ∧
        found.map Erasure.spelling.onSymbol = found'.map Erasure.spelling.onSymbol ∧
        ∃ tokens, Highlight.tokens found "main.bb" text.lines = .ok tokens ∧
          Highlight.tokens found' "main.bb" text'.lines = .ok tokens := by
  intro disk rules text text'
  have hcase : Text.asciiLower text = Text.asciiLower text' := by decide +kernel
  have hincludes : ∀ line ∈ text.lines, (Statement.read line).target? = none := by
    decide +kernel
  have hok : (extract disk rules "main.bb" text).1.isOk = true := by decide +kernel
  refine ⟨hcase, hincludes, ?_⟩
  rcases extract_asciiLower hcase hincludes with ⟨⟨error, herror⟩, -⟩ | hfound
  · rw [herror] at hok
    cases hok
  · exact hfound

end BlitzLens
