import BlitzLens.Proofs.Extraction.Failure
import BlitzLens.Proofs.Extraction.OwnDocument
import BlitzLens.Proofs.Extraction.Views

/-!
# Functions and the lines that open them

A line that opens a function settles its name, its declaration and its parameters (`Opening`), which
are a view of the function: the body does not change them. What the includes of the body yield
stands in front of the function. So a step makes the openings of a draft grow by what its line
opens (`Draft.openings_step`), and a file yields one function for each line that opens one, besides
those of its includes (`Source.openings_outcome_perm`).

## Main definitions

* `Opening`: what the line that opens a function settles.
* `openings`, `Draft.openings`, `Source.openings`: the openings of symbols, of a draft and of the
  lines of a file.

## Main results

* `Draft.openings_step`: every line opens what its statement says, and nothing else.
* `mem_openings_iff`: a pass finds a function for every line that opens one in a file it visits, and
  no others.
-/

namespace BlitzLens

/-! ## Openings -/

/-- What the line that opens a function settles. -/
structure Opening where
  /-- The path of the file. -/
  path : Text
  /-- The line that opens the function. -/
  line : Int
  /-- The name as it is written. -/
  name : Text
  /-- The code of the line. -/
  declaration : Text
  /-- The parameters. -/
  parameters : List Variable

/-- The opening of a function. -/
def Function.opening (f : Function) : Opening :=
  ⟨f.path, f.range.startLine, f.name, f.declaration, f.parameters⟩

/-- The opening of an open function of a file. -/
def FunctionDraft.opening (f : FunctionDraft) (source : Source) : Opening :=
  ⟨source.path, f.line, f.name, f.declaration, parametersOf f.locals⟩

/-- The openings of the functions among some symbols. -/
def openings (symbols : List Symbol) : List Opening :=
  symbols.filterMap fun symbol => symbol.asFunction?.map Function.opening

/-- The openings of the functions of a draft, those that are closed before the open one. -/
def Draft.openings (draft : Draft) (source : Source) : List Opening :=
  BlitzLens.openings draft.symbols ++ (draft.openFunction.map (·.opening source)).toList

/-- The opening of the function that a statement opens. -/
def Statement.opening? (source : Source) (number : Nat) (line : Text) :
    Statement → Option Opening
  | openFunction name suffix column parameters =>
    some ((FunctionDraft.fresh source number line name suffix column parameters .empty).opening
      source)
  | _ => none

/-- The opening of the function that a line of a file opens, given with its number. -/
def Source.openingOn? (source : Source) (numbered : Text × Nat) : Option Opening :=
  (Statement.read numbered.1).opening? source numbered.2 numbered.1

/-- The openings of the functions that the lines of a file open. -/
def Source.openings (source : Source) : List Opening :=
  source.lines.zipIdx.filterMap source.openingOn?

/-! ## Openings as a view -/

/-- The openings of the functions of a file. -/
def Opening.view (source : Source) : FunctionView source Opening where
  ofOpen f := f.opening source
  ofClosed := Function.opening
  ofOpen_body _ _ _ h := congrArg (Opening.mk _ _ _ _) h
  ofClosed_finish _ _ := rfl

/-- The openings of some symbols are those of the functions among them. -/
theorem mem_openings {symbols : List Symbol} {opening : Opening} : opening ∈ openings symbols ↔
    ∃ f, .ofFunction f ∈ symbols ∧ f.opening = opening := by
  simp only [openings, List.mem_filterMap, Option.map_eq_some_iff]
  constructor
  · rintro ⟨symbol, hsymbol, f, hf, rfl⟩
    cases symbol <;> cases hf
    exact ⟨f, hsymbol, rfl⟩
  · rintro ⟨f, hf, rfl⟩
    exact ⟨.ofFunction f, hf, f, rfl, rfl⟩

/-- Openings are gathered in order. -/
theorem openings_append (symbols more : List Symbol) :
    openings (symbols ++ more) = openings symbols ++ openings more :=
  List.filterMap_append

namespace Draft

variable {draft next : Draft} {source : Source} {number : Nat} {line : Text}

/-- Every line that is no include opens the function that its statement opens, and nothing else. -/
theorem openings_step {statement : Statement}
    (hnext : draft.step source number line statement = .ok next) :
    next.openings source =
      draft.openings source ++ (statement.opening? source number line).toList := by
  have hopens : (Opening.view source).opened? number line draft.doc statement =
      statement.opening? source number line := by
    cases statement <;> rfl
  rw [← hopens]
  exact (Opening.view source).ofDraft_step hnext

/-- What is still open is closed behind the last line. -/
theorem openings_finish (draft : Draft) (source : Source) :
    BlitzLens.openings (draft.finish source) = draft.openings source :=
  (Opening.view source).ofSymbols_finish draft

end Draft

/-! ## Files and visits -/

section Files

variable {source : Source} {fetch : Text → Except ExtractError (List Symbol)}
  {draft next last : Draft} {found : List Symbol}

/-- What an include yields stands in front of the function that is open. -/
theorem Draft.openings_splice (draft : Draft) (source : Source) (found : List Symbol) :
    (Draft.openings { draft with symbols := draft.symbols ++ found } source).Perm
      (draft.openings source ++ BlitzLens.openings found) := by
  rw [openings, openings, openings_append, List.append_assoc, List.append_assoc]
  exact List.perm_append_comm.append_left _

/-- A line adds what it opens and what its include yields. -/
theorem Draft.openings_afterLine {line : Text} {number : Nat}
    (hafter : draft.afterLine source fetch (line, number) = .ok next) :
    (next.openings source).Perm (draft.openings source ++
      ((source.openingOn? (line, number)).toList ++ BlitzLens.openings
        ((((Statement.read line).target?.map fetch).bind Except.toOption).getD []))) := by
  rcases afterLine_cases hafter with ⟨htarget, hstep⟩ | ⟨target, result, htarget, hresult, rfl⟩
  · rw [htarget, openings_step hstep]
    exact .of_eq (congrArg (draft.openings source ++ ·) (List.append_nil _).symm)
  · have hopening : source.openingOn? (line, number) = none := by
      unfold Source.openingOn?
      rw [Statement.eq_includeFile htarget]
      rfl
    rw [hopening, htarget, Option.map_some, Option.bind_some, hresult]
    exact draft.openings_splice source result

/-- The openings of a file are those of its lines. -/
theorem Source.mem_openings_iff {opening : Opening} : opening ∈ source.openings ↔
    ∃ number line, source.lines[number]? = some line ∧
      (Statement.read line).opening? source number line = some opening := by
  rw [openings, List.mem_filterMap]
  constructor
  · rintro ⟨⟨line, number⟩, hmem, hopening⟩
    exact ⟨number, line, List.mem_zipIdx_iff_getElem?.1 hmem, hopening⟩
  · rintro ⟨number, line, hline, hopening⟩
    exact ⟨(line, number), List.mem_zipIdx_iff_getElem?.2 hline, hopening⟩

/-- A file yields one function for each line that opens one, besides those of its includes. -/
theorem Source.openings_outcome_perm (h : source.outcome fetch = .ok found) :
    (BlitzLens.openings found).Perm
      (source.openings ++ BlitzLens.openings (source.inclusions fetch)) := by
  obtain ⟨draft, hdraft, rfl⟩ := source.exists_draft_of_outcome (P := fun number draft =>
    (draft.openings source).Perm ((source.lines.take number).zipIdx.filterMap source.openingOn? ++
      BlitzLens.openings ((source.front number).inclusions fetch))) .nil
    (fun number line draft next hline hnext hdraft => by
      refine (Draft.openings_afterLine hnext).trans ((hdraft.append_right _).trans ?_)
      rw [zipIdx_take_succ hline, List.filterMap_append, inclusions_front_succ hline,
        openings_append]
      -- what the line opens goes in front of what earlier includes yield
      have hone : [(line, number)].filterMap source.openingOn? =
          (source.openingOn? (line, number)).toList := by
        rw [List.filterMap_cons]
        cases source.openingOn? (line, number) <;> rfl
      rw [hone]
      simp only [List.append_assoc]
      exact (List.perm_append_comm_assoc _ _ _).append_left _) h
  rw [List.take_length, front_length] at hdraft
  rwa [Draft.openings_finish]

end Files

namespace Visit

variable {disk : Disk} {rules : IncludeRules} {visit last : Visit} {found result : List Symbol}

/-- Every function that a visit yields is opened by a line of a file that the visit leads to. -/
theorem exists_reaches_of_mem_openings {opening : Opening}
    (h : visit.outcome disk rules = .ok found) (hmem : opening ∈ openings found) :
    ∃ last, visit.Reaches disk rules last ∧ opening ∈ last.source.openings := by
  induction visit using nestedInduction disk rules generalizing found with
  | nested visit ih =>
    rw [outcome_eq] at h
    rcases List.mem_append.1 ((Source.openings_outcome_perm h).mem_iff.1 hmem) with hown | hmore
    · exact ⟨visit, .self, hown⟩
    · obtain ⟨f, hf, hopening⟩ := mem_openings.1 hmore
      obtain ⟨line, target, included, result, hline, htarget, hincluded, hresult, hsymbol⟩ :=
        exists_of_mem_inclusions hf
      obtain ⟨last, hlast, hopens⟩ := ih target included hincluded hresult
        (mem_openings.2 ⟨f, hsymbol, hopening⟩)
      exact ⟨last, (Reaches.self.step hline htarget hincluded).trans hlast, hopens⟩

/-- What a visit leads to, the visit yields as well. -/
theorem Reaches.openings_subset (h : visit.Reaches disk rules last)
    (hfound : visit.outcome disk rules = .ok found)
    (hresult : last.outcome disk rules = .ok result) : openings result ⊆ openings found := by
  induction h generalizing result with
  | self =>
    rw [hfound] at hresult
    cases hresult
    exact List.Subset.refl _
  | @step middle last line target hreaches hline htarget hincluded ih =>
    obtain ⟨between, hbetween⟩ := hreaches.exists_outcome_eq_ok ⟨found, hfound⟩
    refine List.Subset.trans (fun opening hmem => ?_) (ih hbetween)
    have hfetch : middle.fetch disk rules target = .ok result := by
      rw [fetch, hincluded]
      exact hresult
    rw [outcome_eq] at hbetween
    obtain ⟨f, hf, hopening⟩ := mem_openings.1 hmem
    refine (Source.openings_outcome_perm hbetween).mem_iff.2 (List.mem_append_right _ ?_)
    exact mem_openings.2 ⟨f, Source.mem_inclusions hline htarget hfetch hf, hopening⟩

end Visit

/-- A pass finds a function for every line that opens one in the document or in a file that it
visits, and no others. -/
theorem mem_openings_iff {disk : Disk} {rules : IncludeRules} {path text : Text}
    {found : List Symbol} (h : (extract disk rules path text).1 = .ok found) (opening : Opening) :
    opening ∈ openings found ↔ ∃ visit, (Visit.document disk rules path text).Reaches disk rules
      visit ∧ opening ∈ visit.source.openings := by
  rw [extract_fst] at h
  constructor
  · exact Visit.exists_reaches_of_mem_openings h
  · rintro ⟨visit, hvisit, hopens⟩
    obtain ⟨result, hresult⟩ := hvisit.exists_outcome_eq_ok ⟨found, h⟩
    refine hvisit.openings_subset h hresult ?_
    rw [Visit.outcome_eq] at hresult
    exact (Source.openings_outcome_perm hresult).mem_iff.2 (List.mem_append_left _ hopens)

end BlitzLens
