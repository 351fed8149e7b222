import BlitzLens.Proofs.Extraction.Erasure
import BlitzLens.Proofs.Line.Comment

/-!
# Comments behind code

A comment behind code that is not blank says nothing: the statement of the line is read from its
code (`Statement.read_code`), and the parts that it declares are located in the code
(`Line.CodeAt.locateParts_eq`). So two documents whose lines differ in such comments yield the same
symbols, but for descriptions and the end columns of scopes, and the same tokens
(`extract_sameCode`).
-/

namespace BlitzLens

namespace Line

/-- Two lines differ at most in the comment behind code that is not blank. -/
def SameCode (line line' : Text) : Prop :=
  line = line' ∨ code line = code line' ∧ (code line).isBlankText = false

instance (line line' : Text) : Decidable (SameCode line line') :=
  inferInstanceAs (Decidable (_ ∨ _))

variable {line line' : Text}

/-- Lines that differ at most in their comments have the same code. -/
theorem SameCode.code_eq (h : SameCode line line') : code line = code line' := by
  rcases h with rfl | ⟨hcode, -⟩
  · rfl
  · exact hcode

/-- The code of a line that starts with a comment is what stands in front of the comment. -/
theorem code_append_semicolon {gap : Text} (hgap : ∀ c ∈ gap, isBlank c = true) (rest : Text) :
    code (gap ++ ';' :: rest) = gap := by
  have hstart : commentStart? (gap ++ ';' :: rest) = some gap.length := by
    unfold commentStart?
    induction gap with
    | nil => rfl
    | cons c gap ih =>
      obtain ⟨hc, hgap⟩ := List.forall_mem_cons.1 hgap
      -- a blank is neither a quote nor a semicolon
      have hquote : ¬(c == '"') = true := by
        rw [beq_iff_eq]
        rintro rfl
        revert hc
        decide
      have hsemicolon : ¬(c == ';' && !false) = true := by
        rw [Bool.not_false, Bool.and_true, beq_iff_eq]
        rintro rfl
        revert hc
        decide
      rw [List.cons_append, semicolonFrom?, if_neg hquote, if_neg hsemicolon, ih hgap]
      rfl
  rw [code, codeEnd, hstart, Option.getD_some, List.take_left]

/-- The parts of a list of the code are located by the code alone. -/
theorem CodeAt.locateParts_eq {column : Nat} {list : Text} (h : CodeAt line column list) :
    locateParts line column (Part.parseList list) =
      locateParts (code line) column (Part.parseList list) := by
  obtain ⟨placed, -, hlocate⟩ := exists_locateParts_eq h.standsAt_code
  have hline := hlocate _ (startsWord_drop_codeEnd line)
  have hcode := hlocate [] rfl
  rw [code_append_drop] at hline
  rw [List.append_nil] at hcode
  rw [hline, hcode]

end Line

namespace Statement

variable {line : Text}

/-- A line that starts with two semicolons has no code. -/
theorem isBlankText_code_of_dropLead? {text : Text}
    (h : Text.dropLead? ";;" line.trimStart = some text) :
    (Line.code line).isBlankText = true := by
  unfold Text.dropLead? at h
  split_ifs at h with hstarts
  obtain ⟨rest, hrest⟩ := List.isPrefixOf_iff_prefix.1 hstarts
  -- the code in front of the semicolons is blank
  have hblank : ∀ c ∈ line.takeWhile isBlank, isBlank c = true := fun c hc =>
    List.mem_takeWhile_imp hc
  have hcode : Line.code line = line.takeWhile isBlank := by
    have hline := (Text.blanks_append_trimStart line).symm
    rw [← hrest] at hline
    rw [hline]
    exact (Line.code_append_semicolon hblank (';' :: rest)).trans (by rw [← hline])
  rw [hcode]
  exact List.all_eq_true.2 hblank

/-- A line with code is no documentation. -/
theorem readDocument?_eq_none (h : (Line.code line).isBlankText = false) :
    readDocument? line = none := by
  rw [Option.eq_none_iff_forall_ne_some]
  intro statement hread
  obtain ⟨text, hlead, -⟩ := Option.bind_eq_some_iff.1 hread
  rw [isBlankText_code_of_dropLead? hlead] at h
  cases h

/-- A keyword is not found in a blank text. -/
theorem afterKeyword?_eq_none_of_blank {text : Text} (h : text.isBlankText = true)
    (keyword : Text) : afterKeyword? keyword text = none := by
  rw [Option.eq_none_iff_forall_not_mem]
  intro rest hrest
  obtain ⟨word, gap, hline, -, hgap, -⟩ := afterKeyword?_eq_some hrest
  rw [Text.trimStart, List.dropWhile_eq_nil_iff.2 (List.all_eq_true.1 h)] at hline
  exact hgap (List.append_eq_nil_iff.1 (List.append_eq_nil_iff.1 hline.symm).2).1

/-- A line without code says nothing but its documentation. -/
theorem read_of_blank_code (h : (Line.code line).isBlankText = true) :
    read line = (readDocument? line).getD .other := by
  have htrim : (Line.code line).trimStart = [] :=
    List.dropWhile_eq_nil_iff.2 (List.all_eq_true.1 h)
  simp only [read, readInclude?, readDeclaration?, declarators, List.findSome?_cons,
    List.findSome?_nil, readDeclaratorList?, readLoop?, readFunction?, readType?, readFields?,
    afterKeyword?_eq_none_of_blank h, readLoopEnd?, closesLoop, readAssignment?, readFunctionEnd?,
    readTypeEnd?, afterEnd?, readLabel?, htrim]
  cases readDocument? line <;> rfl

/-- A line with code says what its code says. -/
theorem read_code (h : (Line.code line).isBlankText = false) :
    read (Line.code line) = read line := by
  have hcode : (Line.code (Line.code line)).isBlankText = false := by rwa [Line.code_code]
  unfold read
  rw [Line.code_code, readDocument?_eq_none h, readDocument?_eq_none hcode]

end Statement

/-- Lines that differ at most in their comments say the same. -/
theorem Line.SameCode.read_eq {line line' : Text} (h : Line.SameCode line line') :
    Statement.read line = Statement.read line' := by
  rcases h with rfl | ⟨hcode, hblank⟩
  · rfl
  · rw [← Statement.read_code hblank, hcode, Statement.read_code (hcode ▸ hblank)]

/-! ## What is left without comments -/

/-- The erasure of descriptions and of the end columns of regions. -/
def Erasure.comments : Erasure where
  onDeclared d := { d with description := [], scope := { d.scope with endCol := 0 } }
  keepsTexts := true
  key_onDeclared _ := rfl

section Statements

variable {source source' : Source} {line line' : Text}

/-- But for comments, a part declares the same in two files with one path. -/
theorem onVariable_comments_toVariable (hpath : source.path = source'.path) (part : Part)
    (number column : Nat) (declaration description description' : Text) (storage : Storage)
    (constant : Bool) (closing : Option Nat) :
    Erasure.comments.onVariable (part.toVariable source number column declaration storage
        description constant closing) =
      Erasure.comments.onVariable (part.toVariable source' number column declaration storage
        description' constant closing) := by
  refine Erasure.onVariable_toVariable rfl rfl rfl (fun _ => rfl) ?_
  unfold Part.toVariable
  rw [hpath]
  cases closing <;> rfl

/-- Two functions that lines with the same code open own the same when they are closed. -/
theorem functions_fresh_comments (hpath : source.path = source'.path)
    (hcode : Line.code line = Line.code line') (number : Nat) (name suffix : Text) (column : Nat)
    {parameters : Option (Text × Nat)}
    (hparameters : ∀ list start, parameters = some (list, start) →
      locateParts line start (Part.parseList list) = locateParts line' start (Part.parseList list))
    (doc : DocBlock) :
    (Likeness.ofErasure .comments source source').Functions
      (.fresh source number line name suffix column parameters doc)
      (.fresh source' number line' name suffix column parameters doc) where
  line := rfl
  closes := trivial
  locals := by
    cases parameters with
    | none => exact .nil
    | some found =>
      obtain ⟨list, start⟩ := found
      unfold FunctionDraft.fresh
      dsimp only
      rw [hparameters list start rfl]
      refine forall₂_addLocated (fun found found' key hfound => declaresKey_congr
        (hfound.imp fun _ _ hsame => hsame.countsAs) key)
        (List.forall₂_same.2 fun place _ => ?_) .nil
      exact ⟨rfl, Erasure.variables_iff.2 (onVariable_comments_toVariable hpath ..)⟩
  loops := .nil
  same locals locals' last hlocals _ := by
    refine Erasure.same_finish rfl rfl (fun _ => rfl) ?_ hlocals
    unfold FunctionDraft.finish FunctionDraft.fresh
    rw [hpath, hcode]
    rfl

/-- Lines that differ at most in their comments declare the same, but for comments. -/
theorem statements_comments (hpath : source.path = source'.path) (hcode : Line.SameCode line line')
    (fetch : Text → Except ExtractError (List Symbol)) (number : Nat) :
    (Likeness.ofErasure .comments source source').Statements fetch fetch number line line'
      (Statement.read line) (Statement.read line') := by
  have hplaced := Statement.wellPlaced_read line
  have hplaced' := Statement.wellPlaced_read line'
  rw [← hcode.read_eq] at hplaced' ⊢
  generalize Statement.read line = statement at hplaced hplaced'
  -- a list of the code is located at the same columns on both lines
  have hlocate {list : Text} {column : Nat} (h : Line.CodeAt line column list)
      (h' : Line.CodeAt line' column list) : locateParts line column (Part.parseList list) =
        locateParts line' column (Part.parseList list) := by
    rw [h.locateParts_eq, h'.locateParts_eq, hcode.code_eq]
  have hsame (part : Part) (column : Nat) (declaration : Text) (storage : Storage) (constant : Bool)
      (closing : Option Nat) : (Likeness.ofErasure .comments source source').Variables
        (part.toVariable source number column declaration storage (Line.trailingComment line)
          constant closing)
        (part.toVariable source' number column declaration storage (Line.trailingComment line')
          constant closing) :=
    Erasure.variables_iff.2 (onVariable_comments_toVariable hpath ..)
  cases statement with
  | includeFile target =>
    refine .includeFile fun found found' hfound hfound' => ?_
    cases hfound.symm.trans hfound'
    exact List.forall₂_same.2 fun _ _ => rfl
  | declare keyword list column =>
    refine .declare rfl fun declarator => ?_
    rw [hlocate hplaced hplaced']
    exact List.forall₂_same.2 fun place _ => ⟨rfl, hsame ..⟩
  | openLoop name suffix column closed =>
    refine .openLoop ?_ fun _ => trivial
    cases Part.parse? (name ++ suffix) with
    | none => exact .none
    | some part => exact .some fun slot => ⟨rfl, rfl, fun storage last _ => hsame ..⟩
  | closeLoop => exact .closeLoop trivial
  | assign name sign column =>
    refine .assign rfl ?_
    cases Part.parse? (name ++ sign) with
    | none => exact .none
    | some part => exact .some (hsame ..)
  | documentParameter text =>
    exact .documentParameter fun doc doc' hdoc hkeeps => by rw [hdoc hkeeps]
  | documentExample text => exact .documentExample fun doc doc' hdoc hkeeps => by rw [hdoc hkeeps]
  | document text => exact .document fun doc doc' hdoc hkeeps => by rw [hdoc hkeeps]
  | closeFunction => exact .closeFunction trivial
  | openFunction name suffix column parameters =>
    refine .openFunction trivial fun doc doc' hdoc => ?_
    rw [hdoc rfl]
    refine functions_fresh_comments hpath hcode.code_eq number name suffix column
      (fun list start hlist => ?_) doc'
    exact hlocate (hplaced.2 list start hlist).1 (hplaced'.2 list start hlist).1
  | closeType => exact .closeType
  | openType name column =>
    refine .openType ⟨rfl, .nil, fun fields fields' last hfields =>
      Erasure.same_typeFinish ?_ hfields⟩
    unfold TypeDraft.finish TypeDraft.fresh
    rw [hpath, hcode.code_eq]
    rfl
  | declareFields list column =>
    refine .declareFields ?_
    rw [hlocate hplaced hplaced']
    exact List.forall₂_same.2 fun place _ => ⟨rfl, hsame ..⟩
  | label name column =>
    refine .label (congrArg Symbol.ofLabel ?_)
    unfold Label.at
    rw [hpath, hcode.code_eq]
  | other => exact .other

end Statements

/-- What of a declaration is referred to is no comment. -/
theorem Erasure.comments_keepsReference : Erasure.comments.KeepsReference :=
  keepsReference_of_resembles fun _ => ⟨rfl, rfl, rfl, rfl, rfl⟩

/-! ## Two documents -/

/-- Two documents that differ in nothing but comments behind code, in which any text may stand,
yield the same symbols, but for descriptions and the end columns of scopes, and the same tokens. -/
theorem extract_sameCode {disk : Disk} {rules : IncludeRules} {path text text' : Text}
    {found found' : List Symbol} (hlines : List.Forall₂ Line.SameCode text.lines text'.lines)
    (h : (extract disk rules path text).1 = .ok found)
    (h' : (extract disk rules path text').1 = .ok found') :
    found.map Erasure.comments.onSymbol = found'.map Erasure.comments.onSymbol ∧
      ∃ tokens, Highlight.tokens found path text.lines = .ok tokens ∧
        Highlight.tokens found' path text'.lines = .ok tokens := by
  have hsame (number : Nat) (line line' : Text) (hline : text.lines[number]? = some line)
      (hline' : text'.lines[number]? = some line') : Line.SameCode line line' := by
    obtain ⟨hnumber, rfl⟩ := List.getElem?_eq_some_iff.1 hline
    obtain ⟨hnumber', rfl⟩ := List.getElem?_eq_some_iff.1 hline'
    exact hlines.get hnumber hnumber'
  -- an include of one document leads to what the same include of the other one leads to
  rw [extract_fst, Visit.outcome_eq] at h h'
  have hpath : (Source.ofText path text).path = (Source.ofText path text').path := rfl
  have halike : List.Forall₂ (Likeness.ofErasure .comments (.ofText path text)
      (.ofText path text')).Same found found' :=
    Likeness.outcome hlines.length_eq (fun number line line' hline hline' =>
      statements_comments hpath (hsame number line line' hline hline') _ number) trivial h h'
  have hsymbols := Erasure.forall₂_same_iff.1 halike
  obtain ⟨tokens, tokens', htokens, htokens', heq⟩ := Highlight.exists_tokens path
    hlines.length_eq (fun _ => true) fun number line line' hline hline' _ =>
      ⟨Erasure.comments_keepsReference.symbols hsymbols number,
        Line.forall₂_codeWords (hsame number line line' hline hline').code_eq⟩
  rw [List.filter_true, List.filter_true] at heq
  exact ⟨hsymbols, tokens, htokens, heq ▸ htokens'⟩

/-- Comments with quotes, parentheses and declared names are put behind an include, a declaration
and a function, and one is taken away from a loop. -/
theorem extract_sameCode_quotes :
    let disk := Disk.ofFile "lib.bb" (Encoding.encodeUtf8 "Function g(a)") 1
    let rules : IncludeRules := ⟨[], true, 2⟩
    let text : Text :=
      "Include \"lib.bb\" ;\nGlobal a, b; note\nFunction f(x)\nFor i = x To 9; b"
    let text' : Text :=
      "Include \"lib.bb\" ; \"(\nGlobal a, b;b, Global a\nFunction f(x); (y, \"\nFor i = x To 9"
    List.Forall₂ Line.SameCode text.lines text'.lines ∧
      ∃ found found', (extract disk rules "main.bb" text).1 = .ok found ∧
        (extract disk rules "main.bb" text').1 = .ok found' ∧
        found.map Erasure.comments.onSymbol = found'.map Erasure.comments.onSymbol ∧
        ∃ tokens, Highlight.tokens found "main.bb" text.lines = .ok tokens ∧
          Highlight.tokens found' "main.bb" text'.lines = .ok tokens := by
  intro disk rules text text'
  have hlines : List.Forall₂ Line.SameCode text.lines text'.lines := by decide +kernel
  have hok : (extract disk rules "main.bb" text).1.isOk = true ∧
      (extract disk rules "main.bb" text').1.isOk = true := by decide +kernel
  obtain ⟨found, hfound⟩ := exists_eq_ok_of_isOk hok.1
  obtain ⟨found', hfound'⟩ := exists_eq_ok_of_isOk hok.2
  exact ⟨hlines, found, found', hfound, hfound', extract_sameCode hlines hfound hfound'⟩

end BlitzLens
