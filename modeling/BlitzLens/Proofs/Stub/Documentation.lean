import BlitzLens.Proofs.Extraction.Views
import BlitzLens.Proofs.Extraction.Visit
import BlitzLens.Proofs.Stub.Entry
import Mathlib.Data.List.DropRight

/-!
# The documentation of functions in stub files and in sources

Documentation lines belong to the next line that opens a function: what is met since the last such
line waits for the next one (`Documented.after`). A stub file is gathered that way
(`Stub.gather_eq`), and so is a source, although its functions are finished much later than they are
opened (`Draft.documented_step`). Where documentation goes is told without a run as well: a function
has the documentation that stands between its line and the last line before it that opens a function
(`documentations`).

## Main definitions

* `Documentation`: what documents a function.
* `Documented`: the functions documented so far and what waits for the next one.
* `documentations`: the functions that statements open, each with what stands between it and the
  function before it.

## Main results

* `Draft.documented_step`: every line other than an include or a type acts as its statement says.
* `documented_run`: a run gathers the documentations of the statements.
* `documentation_readAll_eq_extract`: a text documents the same functions as a stub file and as a
  source.
-/

namespace BlitzLens

/-! ## Documentation -/

/-- What documents a function. -/
structure Documentation where
  /-- The name as it is written. -/
  name : Text
  /-- The lines of the description. -/
  lines : List Text
  /-- The documentation of parameters. -/
  parameters : List Text
  /-- The example. -/
  sample : Text
  deriving DecidableEq, Repr

/-- The documentation of a function for which a block waits. -/
def DocBlock.documents (doc : DocBlock) (name : Text) : Documentation :=
  ⟨name, doc.lines, doc.parameters, Text.joinWith ['\n'] doc.sample⟩

/-- What documents a stub. -/
def Stub.documentation (stub : Stub) : Documentation :=
  ⟨stub.name, stub.description, stub.paramDocs, stub.sample⟩

/-- What documents a function of a source. -/
def Function.documentation (f : Function) : Documentation :=
  ⟨f.name, f.docLines, f.paramDocs, f.sample⟩

/-- What documents a function that is open. -/
def FunctionDraft.documentation (f : FunctionDraft) : Documentation :=
  f.doc.documents f.name

namespace Statement

/-- The documentation with what a statement adds to it. -/
def addDoc (doc : DocBlock) : Statement → DocBlock
  | .documentParameter text => { doc with parameters := doc.parameters ++ [text] }
  | .documentExample text => { doc with sample := doc.sample ++ [text] }
  | .document text => { doc with lines := doc.lines ++ [text] }
  | _ => doc

/-- Whether a statement opens a type. -/
def opensType : Statement → Bool
  | .openType .. => true
  | _ => false

/-- The name of the function that a statement opens. -/
def opened? : Statement → Option Text
  | .openFunction name _ _ _ => some name
  | _ => none

end Statement

/-- The functions documented so far, and what waits for the next one. -/
structure Documented where
  /-- The documented functions. -/
  functions : List Documentation
  /-- The documentation that waits. -/
  waiting : DocBlock

namespace Documented

/-- The state after a statement. -/
def after (state : Documented) (statement : Statement) : Documented :=
  match statement.opened? with
  | some name => ⟨state.functions ++ [state.waiting.documents name], .empty⟩
  | none => { state with waiting := statement.addDoc state.waiting }

end Documented

/-- The documentation that stands behind the last of some statements that opens a function. -/
def waitingBehind (statements : List Statement) : DocBlock :=
  (statements.rtakeWhile fun statement => statement.opened?.isNone).foldl Statement.addDoc .empty

/-- The functions that statements open, in order, each with the documentation that stands between
its line and the last line before it that opens a function. -/
def documentations (statements : List Statement) : List Documentation :=
  statements.zipIdx.filterMap fun numbered =>
    numbered.1.opened?.map (waitingBehind (statements.take numbered.2)).documents

section Runs

variable {statements : List Statement} {statement : Statement} {name : Text}

/-- Behind a statement that opens a function, nothing waits. -/
theorem waitingBehind_concat_of_some (h : statement.opened? = some name) :
    waitingBehind (statements ++ [statement]) = .empty := by
  rw [waitingBehind, List.rtakeWhile_concat_neg _ _ _ (by simp [h])]
  rfl

/-- Any other statement adds to what waits. -/
theorem waitingBehind_concat_of_none (h : statement.opened? = none) :
    waitingBehind (statements ++ [statement]) =
      statement.addDoc (waitingBehind statements) := by
  rw [waitingBehind, List.rtakeWhile_concat_pos _ _ _ (by simp [h]), List.foldl_append]
  rfl

/-- A statement that opens a function documents it with what waits behind those before it. -/
theorem documentations_concat : documentations (statements ++ [statement]) =
    documentations statements ++
      (statement.opened?.map (waitingBehind statements).documents).toList := by
  have hbefore : (statements.zipIdx.filterMap fun numbered =>
      numbered.1.opened?.map (waitingBehind ((statements ++ [statement]).take
        numbered.2)).documents) = documentations statements := by
    refine List.filterMap_congr fun numbered hmem => ?_
    have hnumber := List.snd_lt_of_mem_zipIdx hmem
    rw [Nat.add_zero] at hnumber
    rw [List.take_append_of_le_length hnumber.le]
  have hlast : (statements ++ [statement]).take (0 + statements.length) = statements := by
    rw [Nat.zero_add, List.take_left]
  rw [documentations, List.zipIdx_append, List.filterMap_append, hbefore, List.zipIdx_singleton]
  simp only [List.filterMap_cons, List.filterMap_nil, hlast]
  cases statement.opened? <;> rfl

/-- A run over statements gathers their documentations. -/
theorem documented_run (statements : List Statement) :
    statements.foldl Documented.after ⟨[], .empty⟩ =
      ⟨documentations statements, waitingBehind statements⟩ := by
  induction statements using List.reverseRecOn with
  | nil => rfl
  | append_singleton statements statement ih =>
    rw [List.foldl_append, List.foldl_cons, List.foldl_nil, ih, documentations_concat]
    unfold Documented.after
    cases h : statement.opened? with
    | none =>
      rw [waitingBehind_concat_of_none h]
      simp
    | some name =>
      rw [waitingBehind_concat_of_some h]
      rfl

end Runs

/-! ## Stub files -/

/-- A stub file is gathered like the statements of its lines, if no line is bare. -/
theorem Stub.gather_eq (source : Option Text) {lines : List Text}
    (hbare : ∀ line ∈ lines, line.isBareDoc = false) (functions : List Documentation)
    (doc : DocBlock) :
    functions ++ (Stub.gather source doc.parameters doc.lines doc.sample
        (lines.map Stub.Entry.ofLine)).map Stub.documentation =
      ((lines.map Statement.read).foldl Documented.after ⟨functions, doc⟩).functions := by
  -- what was gathered so far and what waits change along the lines
  induction lines generalizing functions doc with
  | nil => exact List.append_nil _
  | cons line lines ih =>
    obtain ⟨hline, hlines⟩ := List.forall_mem_cons.1 hbare
    rw [List.map_cons, List.map_cons, List.foldl_cons, Stub.Entry.ofLine_eq_iff.2 hline]
    cases Statement.read line with
    | openFunction name suffix column parameters =>
      have hrest := ih hlines (functions ++ [doc.documents name]) .empty
      rw [List.append_assoc] at hrest
      exact hrest
    | documentParameter text =>
      exact ih hlines functions ((Statement.documentParameter text).addDoc doc)
    | documentExample text =>
      exact ih hlines functions ((Statement.documentExample text).addDoc doc)
    | document text => exact ih hlines functions ((Statement.document text).addDoc doc)
    | _ => exact ih hlines functions doc

/-! ## Sources -/

/-- The documentation of the functions of a file. -/
def Documentation.view (source : Source) : FunctionView source Documentation where
  ofOpen := FunctionDraft.documentation
  ofClosed := Function.documentation
  ofOpen_body _ _ _ _ := rfl
  ofClosed_finish _ _ := rfl

namespace Draft

variable {source : Source} {draft next last : Draft} {number : Nat} {line : Text}
  {statement : Statement}

/-- What a draft documents. -/
def documented (draft : Draft) (source : Source) : Documented :=
  ⟨(Documentation.view source).ofDraft draft, draft.doc⟩

/-- Closing a loop leaves the documentation that waits. -/
theorem doc_closeLoop (draft : Draft) (source : Source) (last : Nat) :
    (draft.closeLoop source last).doc = draft.doc := by
  unfold closeLoop
  split
  · rfl
  · obtain ⟨symbols, hclosed⟩ := draft.closeTopLoop_eq source last
    rw [hclosed]

/-- Opening a loop leaves the documentation that waits. -/
theorem doc_openLoop (draft : Draft) (number : Nat) (line name suffix : Text) (column : Nat) :
    (draft.openLoop number line name suffix column).doc = draft.doc := by
  unfold openLoop
  extract_lets
  split <;> rfl

/-- A line leaves the documentation that waits, unless it is documentation itself or opens a
function or a type. -/
theorem doc_step (hnext : draft.step source number line statement = .ok next)
    (htype : statement.opensType = false) :
    next.doc = if statement.opened?.isSome then .empty else statement.addDoc draft.doc := by
  cases statement with
  | declare keyword list column =>
    rw [step] at hnext
    split at hnext
    · cases hnext
      unfold declare
      extract_lets
      split <;> rfl
    · cases hnext
  | openLoop name suffix column closed =>
    cases hnext
    cases closed with
    | true => exact (doc_closeLoop ..).trans (doc_openLoop ..)
    | false => exact doc_openLoop ..
  | closeLoop =>
    cases hnext
    exact doc_closeLoop ..
  | assign name sign column =>
    cases hnext
    unfold Draft.assign
    split
    · rfl
    split
    · rfl
    · extract_lets
      split <;> rfl
  | closeFunction =>
    cases hnext
    obtain ⟨symbols, hclosed⟩ := draft.closeFunction_eq source number
    rw [hclosed]
    rfl
  | openFunction name suffix column parameters =>
    cases hnext
    rw [openFunctionAt_eq]
    rfl
  | closeType =>
    cases hnext
    obtain ⟨symbols, hclosed⟩ := draft.closeType_eq source number
    rw [hclosed]
    rfl
  | openType name column => cases htype
  | declareFields list column =>
    cases hnext
    unfold declareFields
    split <;> rfl
  | _ => cases hnext; rfl

/-- Every line that opens no type and is no include documents what its statement does. -/
theorem documented_step (hnext : draft.step source number line statement = .ok next)
    (htype : statement.opensType = false) :
    next.documented source = (draft.documented source).after statement := by
  have hfunctions := (Documentation.view source).ofDraft_step hnext
  have hdoc := doc_step hnext htype
  unfold documented Documented.after
  rw [hfunctions, hdoc]
  cases statement with
  | openFunction name suffix column parameters => rfl
  | _ => exact congrArg (Documented.mk · _) (List.append_nil _)

end Draft

/-- A file without includes and types documents what its statements do. -/
theorem Source.exists_documented_eq {source : Source}
    {fetch : Text → Except ExtractError (List Symbol)} {found : List Symbol}
    (hincludes : ∀ line ∈ source.lines, (Statement.read line).target? = none)
    (htypes : ∀ line ∈ source.lines, (Statement.read line).opensType = false)
    (h : source.outcome fetch = .ok found) :
    ∃ draft : Draft, draft.documented source =
        (source.lines.map Statement.read).foldl Documented.after (Draft.empty.documented source) ∧
      draft.finish source = found := by
  have hrun := source.exists_draft_of_no_includes (P := fun number draft =>
    draft.documented source = ((source.lines.take number).map Statement.read).foldl
      Documented.after (Draft.empty.documented source)) rfl hincludes
    (fun number line draft next hline hnext hdraft => by
      have htype := htypes line (List.mem_of_getElem? hline)
      rw [Draft.documented_step hnext htype, hdraft, List.take_add_one, hline, List.map_append,
        List.foldl_append]
      rfl) h
  rwa [List.take_length] at hrun

/-- A text without includes, types and bare documentation documents the same functions, in the same
order, whether it is read as a stub file or as a source: each has the documentation that stands
between its line and the line of the function before it. -/
theorem documentation_readAll_eq_extract {disk : Disk} {rules : IncludeRules} {path text : Text}
    {found : List Symbol} (origin : Option Text)
    (hincludes : ∀ line ∈ text.lines, (Statement.read line).target? = none)
    (htypes : ∀ line ∈ text.lines, (Statement.read line).opensType = false)
    (hbare : ∀ line ∈ text.lines, line.isBareDoc = false)
    (h : (extract disk rules path text).1 = .ok found) :
    (Stub.readAll text origin).map Stub.documentation =
        (found.filterMap Symbol.asFunction?).map Function.documentation ∧
      (found.filterMap Symbol.asFunction?).map Function.documentation =
        documentations (text.lines.map Statement.read) := by
  have hrun := documented_run (text.lines.map Statement.read)
  have hstub : (Stub.readAll text origin).map Stub.documentation =
      documentations (text.lines.map Statement.read) := by
    have hgather := Stub.gather_eq origin hbare [] .empty
    rw [hrun, List.nil_append] at hgather
    exact hgather
  have hsource : (found.filterMap Symbol.asFunction?).map Function.documentation =
      documentations (text.lines.map Statement.read) := by
    rw [extract_fst, Visit.outcome_eq] at h
    obtain ⟨draft, hfold, rfl⟩ := Source.exists_documented_eq hincludes htypes h
    have hfinish := (Documentation.view (Source.ofText path text)).ofSymbols_finish draft
    rw [List.map_filterMap]
    exact hfinish.trans (congrArg Documented.functions (hfold.trans hrun))
  exact ⟨hstub.trans hsource.symm, hsource⟩

/-- The documentation of the second function stands in the body of the first one, which is not
closed, with a blank line and a label in between. The third function has no documentation, and the
last line belongs to no function. -/
theorem documentation_readAll_eq_extract_between :
    let disk := Disk.ofFile "lib.bb" [] 1
    let rules : IncludeRules := ⟨[], true, 32⟩
    let text : Text :=
      ";; Adds. \n;;PARAM a first\nFunction Add%(a, b) ; sum\nFor i = 1 To 2 ;; no\n ;; \n" ++
      "\n.label\n;;example Neg 1\n;;example\n;; x = 1\nfunction Neg(a)\nEnd Function\n" ++
      "Function None()\nReturn 1\n;; Nothing."
    (∀ line ∈ text.lines, (Statement.read line).target? = none) ∧
      (∀ line ∈ text.lines, (Statement.read line).opensType = false) ∧
      (∀ line ∈ text.lines, line.isBareDoc = false) ∧
      (Stub.readAll text none).map Stub.documentation =
        [⟨"Add", ["Adds.".toList], ["a first".toList], []⟩,
          ⟨"Neg", [[], "x = 1".toList], [], "Neg 1\n"⟩, ⟨"None", [], [], []⟩] ∧
      ∃ found, (extract disk rules "main.bb" text).1 = .ok found ∧
        (Stub.readAll text none).map Stub.documentation =
          (found.filterMap Symbol.asFunction?).map Function.documentation := by
  intro disk rules text
  have hincludes : ∀ line ∈ text.lines, (Statement.read line).target? = none := by decide +kernel
  have hbare : ∀ line ∈ text.lines, line.isBareDoc = false := by decide +kernel
  have hstubs : (Stub.readAll text none).map Stub.documentation =
      [⟨"Add", ["Adds.".toList], ["a first".toList], []⟩,
        ⟨"Neg", [[], "x = 1".toList], [], "Neg 1\n"⟩, ⟨"None", [], [], []⟩] := by
    decide +kernel
  have htypes : ∀ line ∈ text.lines, (Statement.read line).opensType = false := by
    decide +kernel
  have hok : (extract disk rules "main.bb" text).1.isOk = true := by decide +kernel
  obtain ⟨found, hfound⟩ := exists_eq_ok_of_isOk hok
  have hsame := (documentation_readAll_eq_extract none hincludes htypes hbare hfound).1
  exact ⟨hincludes, htypes, hbare, hstubs, found, hfound, hsame⟩

end BlitzLens
