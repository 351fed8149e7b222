import BlitzLens.Proofs.Declaration.Part
import BlitzLens.Proofs.Extraction.Openings
import BlitzLens.Proofs.Query.Spans

/-!
# The parameters of a function and its signature

The extraction of a function reads its parameters from the code of the line, and signature help
reads them from the label that it makes of the declaration: the code without the keyword and without
blanks around it. The label holds the same list behind its first parenthesis
(`Statement.exists_labelOf_eq`). So if the list is closed on the line and properly nested, and its
parts start with different identifiers, the parameters of the signature are those of the function
(`signature_spells_parameters`).

## Main definitions

* `Statement.ListsParameters`: lists of parameters that are well formed.
* `Function.OpensOn`: the line that opens a function.

## Main results

* `signature_spells_parameters`: the signature of a function spells its parameters.
-/

namespace BlitzLens

/-! ## Trimmed texts -/

namespace Text

variable {text : Text} {c : Char}

/-- A visible ending is kept when the end of a text is trimmed. -/
theorem trimEnd_append_of_ne_nil (h : text.trimEnd ≠ []) (before : Text) :
    (before ++ text).trimEnd = before ++ text.trimEnd := by
  have hne : ¬(text.reverse.dropWhile isBlank).isEmpty = true := by
    rw [List.isEmpty_iff]
    exact fun hnil => h (by rw [trimEnd, dropEndWhile, hnil, List.reverse_nil])
  rw [trimEnd, dropEndWhile, List.reverse_append, List.dropWhile_append, if_neg hne,
    List.reverse_append, List.reverse_reverse]
  rfl

/-- A visible first character is kept when the end of a text is trimmed. -/
theorem exists_trimEnd_cons (hc : isBlank c = false) (text : Text) :
    ∃ rest, trimEnd (c :: text) = c :: rest := by
  obtain ⟨blanks, hblanks, hblank⟩ := exists_trimEnd_append (c :: text)
  cases htrim : trimEnd (c :: text) with
  | nil =>
    rw [htrim, List.nil_append] at hblanks
    rw [hblank c (hblanks ▸ List.mem_cons_self)] at hc
    cases hc
  | cons d rest =>
    rw [htrim, List.cons_append] at hblanks
    rw [(List.cons.inj hblanks).1]
    exact ⟨rest, rfl⟩

end Text

/-! ## Labels -/

/-- What follows a keyword is trimmed with the line. -/
theorem Statement.afterKeyword?_trim {keyword code text : Text} {c : Char} (hkeyword : keyword ≠ [])
    (hc : isBlank c = false) (h : Statement.afterKeyword? keyword code = some (c :: text)) :
    Statement.afterKeyword? keyword code.trim = some (Text.trimEnd (c :: text)) := by
  obtain ⟨word, gap, hline, hspells, hgap, hblank⟩ := Statement.afterKeyword?_eq_some h
  obtain ⟨rest, hrest⟩ := Text.exists_trimEnd_cons hc text
  obtain ⟨b, gap, rfl⟩ := List.exists_cons_of_ne_nil hgap
  obtain ⟨d, word, rfl⟩ : ∃ d tail, word = d :: tail := List.exists_cons_of_ne_nil fun hnil => by
    have := Text.length_of_spells hspells
    rw [hnil, List.length_nil] at this
    exact hkeyword (List.length_eq_zero_iff.1 this.symm)
  have hd : isBlank d = false := by
    have := List.head?_dropWhile_not isBlank code
    rwa [show code.dropWhile isBlank = _ from hline] at this
  have htrim : code.trim.trimStart = (d :: word) ++ b :: (gap ++ c :: rest) := by
    have hne : Text.trimEnd (c :: text) ≠ [] := by rw [hrest]; exact List.cons_ne_nil _ _
    rw [Text.trim, hline, ← List.append_assoc, Text.trimEnd_append_of_ne_nil hne, hrest]
    exact (Text.trimStart_cons hd).trans (by simp)
  rw [Statement.afterKeyword?_of_spells htrim hspells (hblank b List.mem_cons_self), hrest,
    ← List.cons_append, Text.trimStart, List.dropWhile_append_of_pos hblank]
  exact congrArg some (Text.trimStart_cons hc)

namespace Signature

variable {text : Text} {c : Char}

/-- The label of a declaration is what follows its keyword. -/
theorem labelOf_trim {code : Text} (hc : isBlank c = false)
    (h : Statement.afterKeyword? "function" code = some (c :: text)) :
    labelOf code.trim = Text.trimEnd (c :: text) := by
  obtain ⟨rest, hrest⟩ := Text.exists_trimEnd_cons hc text
  have hlabel : labelOf code.trim =
      ((Statement.afterKeyword? "function" code.trim).getD code.trim).trim := rfl
  rw [hlabel, Statement.afterKeyword?_trim (by decide) hc h, Option.getD_some, Text.trim, hrest,
    Text.trimStart_cons hc, ← hrest]
  exact List.rdropWhile_idempotent isBlank _

end Signature

/-! ## Lines that open functions -/

namespace Statement

open Line

variable {line name suffix list : Text} {column start : Nat}
  {parameters : Option (Text × Nat)}

/-- No reader but that of functions makes a function. -/
theorem readFunction?_of_read (h : read line = .openFunction name suffix column parameters) :
    readFunction? (code line) = some (.openFunction name suffix column parameters) := by
  have hread := fromReader_read line
  rwa [h] at hread

/-- No parenthesis stands in a suffix. -/
theorem notMem_takeLooseSuffix (text : Text) : '(' ∉ (takeLooseSuffix text).1 := by
  unfold takeLooseSuffix
  split
  · exact List.not_mem_nil
  · next c rest =>
    split_ifs with hsign hdot
    · rw [List.mem_singleton]
      rintro rfl
      cases hsign
    · split
      · next name rest' hname =>
        obtain ⟨-, hword, -⟩ := Text.looseIdentifier?_eq_some hname
        rw [beq_iff_eq.1 hdot]
        simp only [List.cons_append, List.mem_cons, List.mem_append, not_or]
        refine ⟨by decide, fun hmem => ?_, fun hmem => ?_⟩
        · exact absurd (List.mem_takeWhile_imp hmem) (by decide)
        · exact absurd (hword.all_word _ hmem) (by decide)
      · exact List.not_mem_nil
    · exact List.not_mem_nil

/-- A parameter list that is closed stands between the first parenthesis and one behind it. -/
theorem exists_append_of_parameterList? {before text : Text}
    (h : parameterList? (before ++ text) before.length = some (list, start))
    (hclosed : (before ++ text)[start + list.length]? = some ')') :
    ∃ mid back, text = mid ++ '(' :: (list ++ ')' :: back) ∧ '(' ∉ mid := by
  obtain ⟨opening, hopening, h⟩ := Option.bind_eq_some_iff.1 h
  obtain ⟨mid, after, rfl, hmid, rfl⟩ := Text.exists_append_of_indexFrom? hopening
  have hdrop : (before ++ (mid ++ '(' :: after)).drop ((before ++ mid).length + 1) = after := by
    have hcode : before ++ (mid ++ '(' :: after) = before ++ mid ++ ['('] ++ after := by simp
    have hlength : (before ++ mid).length + 1 = (before ++ mid ++ ['(']).length := by
      simp only [List.length_append, List.length_singleton]
    rw [hcode, hlength, List.drop_left]
  cases hclosing : closingParen? (before ++ (mid ++ '(' :: after)) (before ++ mid).length with
  | none =>
    -- a list that is not closed goes on to the end of the code
    rw [hclosing] at h
    cases h
    rw [List.getElem?_eq_none (by rw [List.length_drop]; omega)] at hclosed
    cases hclosed
  | some closing =>
    rw [hclosing] at h
    cases h
    obtain ⟨-, -, hparen⟩ := drop_of_indexFrom? hopening
    obtain ⟨behind, hbehind⟩ := drop_of_closingParen? hparen hclosing
    rw [hdrop] at hbehind
    exact ⟨mid, behind, by rw [← hbehind], hmid⟩

/-- The label of a function starts with its name, and its first parenthesis opens the list of the
parameters. -/
theorem exists_labelOf_eq (h : read line = .openFunction name suffix column (some (list, start)))
    (hclosed : (code line)[start + list.length]? = some ')') :
    ∃ front back, Signature.labelOf (code line).trim = front ++ '(' :: (list ++ ')' :: back) ∧
      '(' ∉ front := by
  obtain ⟨named, written, behind, hnamed, hname, hstatement⟩ :=
    of_readFunction? (readFunction?_of_read h)
  obtain ⟨rfl, rfl, rfl, hlist⟩ := openFunction.inj hstatement
  obtain ⟨hbehind, hword, -⟩ := Text.looseIdentifier?_eq_some hname
  obtain ⟨before, hcode, -⟩ := exists_append_of_afterKeyword? hnamed
  -- in front of the list there are the name, blanks and the suffix
  have hsplit : named = name ++ (behind.takeWhile isBlank ++
      (takeLooseSuffix behind.trimStart).1) ++ (takeLooseSuffix behind.trimStart).2 := by
    rw [hbehind, List.append_assoc, List.append_assoc, (takeLooseSuffix_append _).1,
      Text.blanks_append_trimStart]
  have hlead : '(' ∉ name ++ (behind.takeWhile isBlank ++
      (takeLooseSuffix behind.trimStart).1) := by
    simp only [List.mem_append, not_or]
    refine ⟨fun hmem => ?_, fun hmem => ?_, notMem_takeLooseSuffix _⟩
    · exact absurd (hword.all_word _ hmem) (by decide)
    · exact absurd (List.mem_takeWhile_imp hmem) (by decide)
  generalize name ++ (behind.takeWhile isBlank ++ (takeLooseSuffix behind.trimStart).1) = lead
    at hsplit hlead
  generalize (takeLooseSuffix behind.trimStart).2 = rest at hlist hsplit
  rw [hsplit, ← List.append_assoc] at hcode
  rw [hcode, columnOf_append] at hlist
  rw [hcode] at hclosed
  obtain ⟨mid, back, rfl, hmid⟩ := exists_append_of_parameterList? hlist.symm hclosed
  obtain ⟨c, tail, rfl⟩ := List.exists_cons_of_ne_nil hword.ne_nil
  have hc := isBlank_of_isWordChar (hword.all_word c List.mem_cons_self)
  obtain ⟨back', hback⟩ := Text.exists_trimEnd_cons (c := ')') (by decide) back
  refine ⟨lead ++ mid, back', ?_, by simp [hlead, hmid]⟩
  have hparen : named = lead ++ mid ++ '(' :: list ++ ')' :: back := by
    rw [hsplit]
    simp
  have hlabel : Signature.labelOf (code line).trim = named.trimEnd := by
    rw [hbehind] at hnamed ⊢
    exact Signature.labelOf_trim hc hnamed
  rw [hlabel, hparen,
    Text.trimEnd_append_of_ne_nil (by rw [hback]; exact List.cons_ne_nil _ _), hback]
  simp

end Statement

/-! ## Parameters -/

/-- Where no key is declared twice, all parts are added. -/
theorem LooksUp.addLocated_eq {build : Part → Nat → Variable}
    {declared : List Variable → Text → Bool} {view : List Variable → List Variable}
    (h : LooksUp build declared view) {found : List Variable} {located : List (Part × Nat)}
    (hdistinct : (located.map fun place => place.1.key).Nodup)
    (hnew : ∀ place ∈ located, ∀ v ∈ view found, v.key ≠ place.1.key) :
    addLocated build declared found located =
      found ++ located.map fun place => build place.1 place.2 := by
  induction located generalizing found with
  | nil => exact (List.append_nil found).symm
  | cons place located ih =>
    rw [List.map_cons, List.nodup_cons] at hdistinct
    have hdeclared : declared found place.1.key ≠ true := by
      rw [Ne, h.declared_iff]
      rintro ⟨v, hv, hkey⟩
      exact hnew place List.mem_cons_self v hv hkey
    rw [addLocated, List.foldl_cons, if_neg hdeclared]
    -- the part that is added is new to those behind it
    refine (ih hdistinct.2 fun later hlater v hv => ?_).trans (List.append_assoc ..)
    rw [h.known_concat, List.mem_append, List.mem_singleton] at hv
    rcases hv with hv | rfl
    · exact hnew later (List.mem_cons_of_mem _ hlater) v hv
    · rw [h.key]
      exact fun heq => hdistinct.1 (List.mem_map.2 ⟨later, hlater, heq.symm⟩)

namespace Part

variable {text : Text} {part : Part}

/-- The text of a part is trimmed. -/
theorem text_of_parse? (h : parse? text = some part) : part.text = text.trim := by
  rw [parse?] at h
  split at h
  · next hread =>
    cases h
    obtain ⟨name, -, hread⟩ := Option.bind_eq_some_iff.1 hread
    obtain ⟨value, -, hread⟩ := Option.bind_eq_some_iff.1 hread
    rw [← Option.some.inj hread]
  · obtain ⟨name, -, h⟩ := Option.map_eq_some_iff.1 h
    rw [← h]

/-- A text that starts with a name is a part. -/
theorem exists_parse?_eq_some (h : text.trim.identifier?.isSome = true) :
    ∃ part, parse? text = some part := by
  rw [parse?]
  split
  · exact ⟨_, rfl⟩
  · obtain ⟨name, hname⟩ := Option.isSome_iff_exists.1 h
    rw [hname]
    exact ⟨_, rfl⟩

/-- Where all pieces that are not blank start with a name, each of them is a part. -/
theorem map_text_filterMap_parse? {pieces : List Text}
    (h : ∀ piece ∈ pieces, piece.trim ≠ [] → piece.trim.identifier?.isSome = true) :
    (pieces.filterMap parse?).map Part.text = Signature.barePieces pieces := by
  induction pieces with
  | nil => rfl
  | cons piece pieces ih =>
    rw [List.forall_mem_cons] at h
    have ih := ih h.2
    rw [Signature.barePieces] at ih ⊢
    rw [List.map_cons]
    by_cases hempty : piece.trim = []
    · have hnone : parse? piece = none := by
        rw [Option.eq_none_iff_forall_not_mem]
        intro part hpart
        have := identifier?_of_parse? hpart
        rw [hempty] at this
        cases this
      rw [List.filterMap_cons_none hnone, ih, List.filter_cons_of_neg (by simp [hempty])]
    · obtain ⟨part, hpart⟩ := exists_parse?_eq_some (h.1 hempty)
      rw [List.filterMap_cons_some hpart, List.map_cons, ih, text_of_parse? hpart,
        List.filter_cons_of_pos (by simpa using hempty)]

end Part

/-- A parameter list that is closed on its line, is properly nested, and consists of parts that each
start with an identifier, and no two with the same one. -/
structure Statement.ListsParameters (line list : Text) (start : Nat) : Prop where
  /-- A parenthesis closes the list. -/
  closed : (Line.code line)[start + list.length]? = some ')'
  /-- Brackets and strings in the list are closed. -/
  nested : Line.Enclosed list
  /-- A part that is not blank starts with an identifier. -/
  named : ∀ piece ∈ Line.splitTopLevel ',' list, piece.trim ≠ [] →
    piece.trim.identifier?.isSome = true
  /-- No name is listed twice. -/
  distinct : ((Part.parseList list).map Part.key).Nodup

/-- A function is opened by a line of a file, with a parameter list or without one. -/
structure Function.OpensOn (f : Function) (source : Source) (number : Nat) (line : Text)
    (parameters : Option (Text × Nat)) : Prop where
  /-- The line is one of the file. -/
  line_eq : source.lines[number]? = some line
  /-- It is the line that the function has. -/
  startLine_eq : f.range.startLine = number
  /-- The file is the one that the function has. -/
  path_eq : f.path = source.path
  /-- The line says that the function is opened. -/
  reads : ∃ suffix column, Statement.read line = .openFunction f.name suffix column parameters

section Lines

variable {source : Source} {number column start : Nat} {line name suffix list : Text}
  {opening : Opening}

/-- The parameters of a function are the parts of its list, all of them. -/
theorem Statement.ListsParameters.map_declaration (h : Statement.ListsParameters line list start)
    (source : Source) (number column : Nat) (name suffix : Text) :
    (parametersOf (FunctionDraft.fresh source number line name suffix column (some (list, start))
      .empty).locals).map (fun v => v.declaration) =
      Signature.barePieces (Line.splitTopLevel ',' list) := by
  have hlooks := LooksUp.lasting (fun _ _ => rfl : ∀ part start,
    (Part.toParameter source number part start).key = part.key) (fun _ _ => rfl) []
  have hfst := map_fst_locateParts line start (Part.parseList list)
  have hdistinct := h.distinct
  rw [← hfst, List.map_map] at hdistinct
  have hlocals : (FunctionDraft.fresh source number line name suffix column (some (list, start))
      .empty).locals = (locateParts line start (Part.parseList list)).map fun place =>
        Part.toParameter source number place.1 place.2 :=
    hlooks.addLocated_eq hdistinct fun _ _ _ => nofun
  have hall : parametersOf ((locateParts line start (Part.parseList list)).map fun place =>
      Part.toParameter source number place.1 place.2) =
        (locateParts line start (Part.parseList list)).map fun place =>
          Part.toParameter source number place.1 place.2 :=
    List.filter_eq_self.2 (List.forall_mem_map.2 fun _ _ => rfl)
  rw [hlocals, hall, List.map_map, ← Part.map_text_filterMap_parse? h.named, ← Part.parseList]
  conv_rhs => rw [← hfst, List.map_map]
  rfl

/-- The signature of a function whose list of parameters is well formed spells the parameters. -/
theorem Statement.ListsParameters.spells (h : Statement.ListsParameters line list start)
    (hread : Statement.read line = .openFunction name suffix column (some (list, start)))
    (source : Source) (number : Nat) (description docs : List Text) :
    (Signature.build (Line.code line).trim description docs).Spells
      ((parametersOf (FunctionDraft.fresh source number line name suffix column
        (some (list, start)) .empty).locals).map fun v => v.declaration) := by
  obtain ⟨front, back, hlabel, hfront⟩ := Statement.exists_labelOf_eq hread h.closed
  have hspells := Signature.spellsBetween_parameterSpans hfront h.nested back
  rw [h.map_declaration]
  rw [← hlabel] at hspells
  refine Signature.spells_build description docs hspells ?_
  rw [hlabel]
  simp only [List.length_append, List.length_cons]
  omega

/-- What a line opens is told by what it says. -/
theorem Statement.exists_of_opening? {statement : Statement}
    (h : statement.opening? source number line = some opening) :
    ∃ name suffix column parameters, statement = .openFunction name suffix column parameters ∧
      opening = (FunctionDraft.fresh source number line name suffix column parameters
        .empty).opening source := by
  cases statement with
  | openFunction name suffix column parameters =>
    exact ⟨name, suffix, column, parameters, rfl, (Option.some.inj h).symm⟩
  | _ => cases h

end Lines

/-- For every line that opens a function, with a list of parameters that is closed on the line,
properly nested, and made of parts with different names, a pass finds a function whose signature
spells the parameters of the function, whatever its documentation; and every function comes from a
line that opens it so. -/
theorem signature_spells_parameters {disk : Disk} {rules : IncludeRules} {path text : Text}
    {found : List Symbol} (h : (extract disk rules path text).1 = .ok found) :
    (∀ visit number line name suffix column list start,
      (Visit.document disk rules path text).Reaches disk rules visit →
      visit.source.lines[number]? = some line →
      Statement.read line = .openFunction name suffix column (some (list, start)) →
      Statement.ListsParameters line list start →
      ∃ f, .ofFunction f ∈ found ∧ f.name = name ∧
        f.OpensOn visit.source number line (some (list, start)) ∧
        ∀ description docs, (Signature.build f.declaration description docs).Spells
          (f.parameters.map fun v => v.declaration)) ∧
    ∀ f, .ofFunction f ∈ found → ∃ visit number line parameters,
      (Visit.document disk rules path text).Reaches disk rules visit ∧
      f.OpensOn visit.source number line parameters ∧
      ∀ list start, parameters = some (list, start) → Statement.ListsParameters line list start →
        ∀ description docs, (Signature.build f.declaration description docs).Spells
          (f.parameters.map fun v => v.declaration) := by
  constructor
  · intro visit number line name suffix column list start hvisit hline hread hlist
    obtain ⟨f, hf, hopening⟩ := mem_openings.1 ((mem_openings_iff h _).2 ⟨visit, hvisit,
      Source.mem_openings_iff.2 ⟨number, line, hline, by rw [hread]; rfl⟩⟩)
    obtain ⟨hpath, hnumber, hname, hdeclaration, hparameters⟩ := Opening.mk.inj hopening
    subst hname
    refine ⟨f, hf, rfl, ⟨hline, hnumber, hpath, suffix, column, hread⟩, fun description docs => ?_⟩
    rw [hdeclaration, hparameters]
    exact hlist.spells hread visit.source number description docs
  · intro f hf
    obtain ⟨visit, hvisit, hmem⟩ := (mem_openings_iff h _).1 (mem_openings.2 ⟨f, hf, rfl⟩)
    obtain ⟨number, line, hline, hopening⟩ := Source.mem_openings_iff.1 hmem
    obtain ⟨name, suffix, column, parameters, hread, heq⟩ := Statement.exists_of_opening? hopening
    obtain ⟨hpath, hnumber, hname, hdeclaration, hparameters⟩ := Opening.mk.inj heq
    obtain rfl : f.name = name := hname
    refine ⟨visit, number, line, parameters, hvisit, ⟨hline, hnumber, hpath, suffix, column, hread⟩,
      ?_⟩
    rintro list start rfl hlist description docs
    rw [hdeclaration, hparameters]
    exact hlist.spells hread visit.source number description docs

/-- A default with a call and an array in it, and one that is a string with a comma and a
parenthesis in it. -/
theorem signature_spells_nested :
    let disk := Disk.ofFile "lib.bb" [] 1
    let rules : IncludeRules := ⟨[], true, 2⟩
    let line : Text := "Function f( a, b = g(1, [2, 3]) ,c$=\"d, (e\")"
    let list : Text := " a, b = g(1, [2, 3]) ,c$=\"d, (e\""
    let visit := Visit.document disk rules "main.bb" line
    ∃ found, (extract disk rules "main.bb" line).1 = .ok found ∧
      Statement.read line = .openFunction ['f'] [] 9 (some (list, 11)) ∧
      Statement.ListsParameters line list 11 ∧
      ∃ f, .ofFunction f ∈ found ∧ f.name = ['f'] ∧
        f.OpensOn visit.source 0 line (some (list, 11)) ∧
        ∀ description docs, (Signature.build f.declaration description docs).Spells
          (f.parameters.map fun v => v.declaration) := by
  intro disk rules line list visit
  have hok : (extract disk rules "main.bb" line).1.isOk = true := by decide +kernel
  have hread : Statement.read line = .openFunction ['f'] [] 9 (some (list, 11)) := by
    decide +kernel
  have hnested : Line.Enclosed list :=
    .chars " a, b = g".toList (by decide) (.round (.chars "1, ".toList (by decide)
      (.square (.chars "2, 3".toList (by decide) .nil) .nil)) (.chars " ,c$=".toList (by decide)
        (@Line.Enclosed.string "d, (e".toList _ (by decide) .nil)))
  have hlist : Statement.ListsParameters line list 11 :=
    ⟨by decide +kernel, hnested, by decide +kernel, by decide +kernel⟩
  obtain ⟨found, hfound⟩ := exists_eq_ok_of_isOk hok
  exact ⟨found, hfound, hread, hlist, (signature_spells_parameters hfound).1 visit 0 line ['f'] [] 9
    list 11 .self rfl hread hlist⟩

end BlitzLens
