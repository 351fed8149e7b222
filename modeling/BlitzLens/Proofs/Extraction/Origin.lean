import BlitzLens.Proofs.Extraction.Introduction
import BlitzLens.Proofs.Extraction.Order
import BlitzLens.Proofs.Extraction.OwnDocument

/-!
# The statements that make symbols

Every symbol of a file is made by the statement of one of its lines: a function, type or label by
the statement that gives its name, and a variable by one that gives or lists it (`Symbol.MadeIn`).
The kind of the statement decides about the guard. This is kept by every line
(`Draft.MadeIn.step`), so it holds of whatever a visit yields, in the file that declares it
(`Visit.exists_madeIn`).
-/

namespace BlitzLens

/-! ## What is made -/

/-- Whether a statement lists variables that are no fields. -/
def Statement.listsVariables : Statement → Bool
  | declare .. => true
  | openFunction .. => true
  | _ => false

/-- The name of a declaration is given by the statement of its line, at its place. -/
def Declared.GivenIn (source : Source) (kind : SymbolKind) (d : Declared) : Prop :=
  ∃ (number : Nat) (line : Text) (column : Nat), source.lines[number]? = some line ∧
    (Statement.read line).Gives kind d.name column ∧ d.start = ((number : Int), (column : Int))

/-- A variable that is no field is made by the statement of its line. -/
structure Variable.MadeIn (source : Source) (v : Variable) : Prop where
  /-- Its name is no number. -/
  isNumber : Line.isNumber v.name = false
  /-- Its name is given or listed. -/
  made : v.toDeclared.GivenIn source .var ∨ ∃ (number : Nat) (line : Text),
    source.lines[number]? = some line ∧ (Statement.read line).listsVariables = true ∧
      v.range.startLine = number

/-- A field is listed by the statement of its line. -/
structure Variable.ListedIn (source : Source) (v : Variable) : Prop where
  /-- Its name is no number. -/
  isNumber : Line.isNumber v.name = false
  /-- Its name stands in the list of fields. -/
  listed : ∃ (number : Nat) (line list : Text) (column : Nat),
    source.lines[number]? = some line ∧ Statement.read line = .declareFields list column ∧
      v.range.startLine = number ∧ (column : Int) ≤ v.range.startCol

/-- A symbol is made by the statements of a file, and has the guard of its kind. -/
inductive Symbol.MadeIn (source : Source) : Symbol → Prop
  | ofVariable {v : Variable} (h : v.MadeIn source) : MadeIn source (.ofVariable v)
  | ofFunction {f : Function} (h : f.toDeclared.GivenIn source .function)
      (hguard : f.guard = .anywhere) (hlocals : ∀ v ∈ f.locals, v.MadeIn source) :
      MadeIn source (.ofFunction f)
  | ofType {t : RecordType} (h : t.toDeclared.GivenIn source .type)
      (hguard : t.guard = .recordType) (hfields : ∀ v ∈ t.fields, v.ListedIn source) :
      MadeIn source (.ofType t)
  | ofLabel {l : Label} (h : l.toDeclared.GivenIn source .label) (hguard : l.guard = .label) :
      MadeIn source (.ofLabel l)

/-- The iterator of an open loop is given by the statement that opens the loop. -/
structure OpenIterator.MadeIn (source : Source) (iterator : OpenIterator) : Prop where
  /-- Its name is no number. -/
  isNumber : Line.isNumber iterator.part.name = false
  /-- Its name is given. -/
  given : ∃ line, source.lines[iterator.line]? = some line ∧
    (Statement.read line).Gives .var iterator.part.name iterator.column

/-- An open function is given by its line, and holds what statements make. -/
structure FunctionDraft.MadeIn (source : Source) (f : FunctionDraft) : Prop where
  /-- Its name is given. -/
  given : ∃ line, source.lines[f.line]? = some line ∧
    (Statement.read line).Gives .function f.name f.column
  /-- Its locals are made. -/
  locals : ∀ v ∈ f.locals, v.MadeIn source
  /-- The iterators of its loops are made. -/
  loops : ∀ iterator, some iterator ∈ f.loops → iterator.MadeIn source

/-- An open type is given by its line, and holds what statements list. -/
structure TypeDraft.MadeIn (source : Source) (t : TypeDraft) : Prop where
  /-- Its name is given. -/
  given : ∃ line, source.lines[t.line]? = some line ∧
    (Statement.read line).Gives .type t.name t.column
  /-- Its fields are listed. -/
  fields : ∀ v ∈ t.fields, v.ListedIn source

/-- The symbols of a draft are made by its file, but for those that are `known` from others. -/
structure Draft.MadeIn (source : Source) (known : Symbol → Prop) (draft : Draft) : Prop where
  /-- The finished symbols are known or made. -/
  symbols : ∀ symbol ∈ draft.symbols, known symbol ∨ symbol.MadeIn source
  /-- The open function is made. -/
  openFunction : ∀ f, draft.openFunction = some f → f.MadeIn source
  /-- The open type is made. -/
  openType : ∀ t, draft.openType = some t → t.MadeIn source
  /-- The iterators of the open loops are made. -/
  loops : ∀ iterator, some iterator ∈ draft.loops → iterator.MadeIn source

section Making

variable {source : Source} {known : Symbol → Prop} {draft next : Draft} {number column : Nat}
  {line : Text}

/-! ## Parts -/

/-- The name of a part is no number. -/
theorem Part.isNumber_of_parse? {text : Text} {part : Part} (h : parse? text = some part) :
    Line.isNumber part.name = false :=
  Line.isNumber_of_identifier? (identifier?_of_parse? h)

/-- What the parts of a list make is added behind what was found before. -/
theorem exists_addLocated_of_codeAt (build : Part → Nat → Variable)
    (declared : List Variable → Text → Bool) (found : List Variable) {list : Text}
    (h : Line.CodeAt line column list) {P : Variable → Prop}
    (hbuild : ∀ part start, Line.isNumber part.name = false → column ≤ start →
      P (build part start)) :
    ∃ added, addLocated build declared found (locateParts line column (Part.parseList list)) =
      found ++ added ∧ ∀ v ∈ added, P v := by
  obtain ⟨located, hlocated, hlocate⟩ := exists_locateParts_eq h.toStandsAt
  have hplaces : locateParts line column (Part.parseList list) = located := by
    simpa using hlocate [] rfl
  obtain ⟨placed, hsub, hadd⟩ := exists_sublist_addLocated build declared found
    (locateParts line column (Part.parseList list))
  refine ⟨_, hadd, fun v hv => ?_⟩
  obtain ⟨place, hplace, rfl⟩ := List.mem_map.1 hv
  have hmem := hsub.subset hplace
  refine hbuild place.1 place.2 ?_ (hlocated.first_le place (hplaces ▸ hmem))
  have hpart := List.mem_map_of_mem (f := Prod.fst) hmem
  rw [map_fst_locateParts] at hpart
  obtain ⟨piece, -, hparse⟩ := List.mem_filterMap.1 hpart
  exact Part.isNumber_of_parse? hparse

/-- A variable that is listed on a line is made by it. -/
theorem Variable.madeIn_of_lists {v : Variable} (hline : source.lines[number]? = some line)
    (hlists : (Statement.read line).listsVariables = true) (hnumber : Line.isNumber v.name = false)
    (hstart : v.range.startLine = number) : v.MadeIn source :=
  ⟨hnumber, .inr ⟨number, line, hline, hlists, hstart⟩⟩

/-- The iterator of a loop that is closed is given by the statement that opened the loop. -/
theorem OpenIterator.MadeIn.close {iterator : OpenIterator} (h : iterator.MadeIn source)
    (storage : Storage) (last : Nat) : (iterator.close source storage last).MadeIn source := by
  obtain ⟨line, hline, hgives⟩ := h.given
  exact ⟨h.isNumber, .inl ⟨iterator.line, line, iterator.column, hline, hgives, rfl⟩⟩

/-! ## Functions -/

namespace FunctionDraft.MadeIn

variable {f : FunctionDraft}

/-- Closing a loop of a function makes its iterator a local. -/
theorem closeLoop (h : f.MadeIn source) (last : Nat) : (f.closeLoop source last).MadeIn source := by
  unfold FunctionDraft.closeLoop
  split
  · exact h
  · next loops hloops =>
    exact ⟨h.given, h.locals, fun iterator hmem => h.loops iterator (by simp [hloops, hmem])⟩
  · next iterator loops hloops =>
    refine ⟨h.given, fun v hv => ?_, fun other hmem => h.loops other (by simp [hloops, hmem])⟩
    rcases List.eq_or_mem_of_mem_insertIdx hv with rfl | hv
    · exact (h.loops iterator (by simp [hloops])).close .localVar last
    · exact h.locals v hv

/-- Closing some loops of a function makes their iterators locals. -/
theorem closeLoops (h : f.MadeIn source) (last count : Nat) :
    (f.closeLoops source last count).MadeIn source := by
  induction count generalizing f with
  | zero => exact h
  | succ count ih => exact ih (h.closeLoop last)

/-- A function that ends is made by the file. -/
theorem finish (h : f.MadeIn source) (last : Nat) :
    (Symbol.ofFunction (f.finish source last)).MadeIn source := by
  obtain ⟨line, hline, hgives⟩ := h.given
  rw [f.finish_eq]
  exact .ofFunction ⟨f.line, line, f.column, hline, hgives, rfl⟩ rfl
    (h.closeLoops last f.loops.length).locals

end FunctionDraft.MadeIn

/-! ## Drafts -/

namespace Draft.MadeIn

/-- Before the first line, there is nothing to make. -/
theorem empty : Draft.empty.MadeIn source known :=
  ⟨fun _ => (nomatch ·), fun _ => (nomatch ·), fun _ => (nomatch ·), fun _ => (nomatch ·)⟩

/-- Waiting documentation does not matter. -/
theorem withDoc (h : draft.MadeIn source known) (doc : DocBlock) :
    Draft.MadeIn source known { draft with doc } :=
  ⟨h.symbols, h.openFunction, h.openType, h.loops⟩

/-- The open function may be another one. -/
theorem withFunction (h : draft.MadeIn source known) {f : FunctionDraft} (hf : f.MadeIn source) :
    Draft.MadeIn source known { draft with openFunction := some f } :=
  ⟨h.symbols, fun _ heq => Option.some.inj heq ▸ hf, h.openType, h.loops⟩

/-- The open type may be another one. -/
theorem withType (h : draft.MadeIn source known) {t : TypeDraft} (ht : t.MadeIn source) :
    Draft.MadeIn source known { draft with openType := some t } :=
  ⟨h.symbols, h.openFunction, fun _ heq => Option.some.inj heq ▸ ht, h.loops⟩

/-- More symbols may be known or made. -/
theorem append (h : draft.MadeIn source known) {added : List Symbol}
    (hadded : ∀ symbol ∈ added, known symbol ∨ symbol.MadeIn source) :
    Draft.MadeIn source known { draft with symbols := draft.symbols ++ added } :=
  ⟨fun symbol hmem => (List.mem_append.1 hmem).elim (h.symbols symbol) (hadded symbol),
    h.openFunction, h.openType, h.loops⟩

/-- One more symbol may be made. -/
theorem concat (h : draft.MadeIn source known) {symbol : Symbol} (hsymbol : symbol.MadeIn source) :
    Draft.MadeIn source known { draft with symbols := draft.symbols ++ [symbol] } :=
  h.append fun other hmem => by rw [List.mem_singleton.1 hmem]; exact .inr hsymbol

/-- The open function is closed. -/
theorem closeFunction (h : draft.MadeIn source known) (last : Nat) :
    (draft.closeFunction source last).MadeIn source known := by
  unfold Draft.closeFunction
  split
  · next f hf =>
    have hconcat := h.concat ((h.openFunction f hf).finish last)
    exact ⟨hconcat.symbols, fun _ => (nomatch ·), hconcat.openType, hconcat.loops⟩
  · exact h

/-- The open type is closed. -/
theorem closeType (h : draft.MadeIn source known) (last : Nat) :
    (draft.closeType source last).MadeIn source known := by
  unfold Draft.closeType
  split
  · next t ht =>
    obtain ⟨line, hline, hgives⟩ := (h.openType t ht).given
    have hconcat := h.concat (.ofType (t := t.finish source last)
      ⟨t.line, line, t.column, hline, hgives, rfl⟩ rfl (h.openType t ht).fields)
    exact ⟨hconcat.symbols, hconcat.openFunction, fun _ => (nomatch ·), hconcat.loops⟩
  · exact h

/-- The innermost loop of the top level is closed. -/
theorem closeTopLoop (h : draft.MadeIn source known) (last : Nat) :
    (draft.closeTopLoop source last).MadeIn source known := by
  unfold Draft.closeTopLoop
  split
  · exact h
  · next loops hloops =>
    exact ⟨h.symbols, h.openFunction, h.openType,
      fun iterator hmem => h.loops iterator (by simp [hloops, hmem])⟩
  · next iterator loops hloops =>
    refine ⟨fun symbol hmem => ?_, h.openFunction, h.openType,
      fun other hmem => h.loops other (by simp [hloops, hmem])⟩
    rcases List.eq_or_mem_of_mem_insertIdx hmem with rfl | hmem
    · exact .inr (.ofVariable ((h.loops iterator (by simp [hloops])).close .globalVar last))
    · exact h.symbols symbol hmem

/-- Some loops of the top level are closed. -/
theorem closeTopLoops (h : draft.MadeIn source known) (last count : Nat) :
    (draft.closeTopLoops source last count).MadeIn source known := by
  induction count generalizing draft with
  | zero => exact h
  | succ count ih => exact ih (h.closeTopLoop last)

/-- The innermost loop is closed. -/
theorem closeLoop (h : draft.MadeIn source known) (last : Nat) :
    (draft.closeLoop source last).MadeIn source known := by
  unfold Draft.closeLoop
  split
  · next f hf => exact h.withFunction ((h.openFunction f hf).closeLoop last)
  · exact h.closeTopLoop last

/-- What is still open is closed when the file ends. -/
theorem finish (h : draft.MadeIn source known) :
    ∀ symbol ∈ draft.finish source, known symbol ∨ symbol.MadeIn source :=
  (((h.closeFunction _).closeType _).closeTopLoops _ _).symbols

/-- Variables are declared. -/
theorem declare (h : draft.MadeIn source known) (hline : source.lines[number]? = some line)
    {keyword list : Text} (hread : Statement.read line = .declare keyword list column)
    (declarator : Declarator) :
    (draft.declare source number line declarator list column).MadeIn source known := by
  have hplaced := Statement.wellPlaced_read line
  rw [hread] at hplaced
  have hlists : (Statement.read line).listsVariables = true := by rw [hread]; rfl
  have hbuild (part : Part) (start : Nat) (hnumber : Line.isNumber part.name = false)
      (_ : column ≤ start) : (declarator.build source number line part start).MadeIn source :=
    Variable.madeIn_of_lists hline hlists hnumber rfl
  cases hf : draft.openFunction with
  | some f =>
    obtain ⟨added, hadd, hmade⟩ := exists_addLocated_of_codeAt
      (declarator.build source number line) declaresKey f.locals hplaced hbuild
    rw [declare_of_some hf, hadd]
    have hopen := h.openFunction f hf
    exact h.withFunction ⟨hopen.given,
      fun v hv => (List.mem_append.1 hv).elim (hopen.locals v) (hmade v), hopen.loops⟩
  | none =>
    obtain ⟨added, hadd, hmade⟩ := exists_addLocated_of_codeAt
      (declarator.build source number line)
      (fun found key => declaresKey (topVariables draft.symbols ++ found) key) [] hplaced hbuild
    rw [declare_of_none hf, hadd, List.nil_append]
    refine h.append fun symbol hmem => ?_
    obtain ⟨v, hv, rfl⟩ := List.mem_map.1 hmem
    exact .inr (.ofVariable (hmade v hv))

/-- A loop is opened. -/
theorem openLoop (h : draft.MadeIn source known) (hline : source.lines[number]? = some line)
    {name suffix : Text} {closed : Bool}
    (hread : Statement.read line = .openLoop name suffix column closed) :
    (draft.openLoop number line name suffix column).MadeIn source known := by
  have hplaced := Statement.wellPlaced_read line
  rw [hread] at hplaced
  have hiterator (slot : Nat) (iterator : OpenIterator)
      (hmem : (draft.loopPart? (name ++ suffix)).map (Part.toIterator number line column slot) =
        some iterator) : iterator.MadeIn source := by
    obtain ⟨part, hpart, rfl⟩ := Option.map_eq_some_iff.1 hmem
    have hname := Draft.Sound.name_of_loopPart? hpart hplaced.1.isWord hplaced.2
    rw [loopPart?_eq, Option.filter_eq_some_iff] at hpart
    refine ⟨Part.isNumber_of_parse? hpart.1, line, hline, ?_⟩
    rw [hread, show (part.toIterator number line column slot).part.name = name from hname]
    exact .openLoop name suffix column closed
  cases hf : draft.openFunction with
  | some f =>
    rw [openLoop_of_some hf]
    have hopen := h.openFunction f hf
    refine h.withFunction ⟨hopen.given, hopen.locals, fun iterator hmem => ?_⟩
    rcases List.mem_cons.1 hmem with heq | hmem
    · exact hiterator _ iterator heq.symm
    · exact hopen.loops iterator hmem
  | none =>
    rw [openLoop_of_none hf]
    refine ⟨h.symbols, h.openFunction, h.openType, fun iterator hmem => ?_⟩
    rcases List.mem_cons.1 hmem with heq | hmem
    · exact hiterator _ iterator heq.symm
    · exact h.loops iterator hmem

/-- A value is assigned. -/
theorem assign (h : draft.MadeIn source known) (hline : source.lines[number]? = some line)
    {name sign : Text} (hread : Statement.read line = .assign name sign column) :
    (draft.assign source number line name sign column).MadeIn source known := by
  have hplaced := Statement.wellPlaced_read line
  rw [hread] at hplaced
  unfold Draft.assign
  split
  · exact h
  split
  · exact h
  · next part hpart =>
    have hname := Part.name_of_parse?_append hpart hplaced.1.isWord hplaced.2
    have hmade : (part.toAssigned source number line column).MadeIn source := by
      refine ⟨Part.isNumber_of_parse? hpart, .inl ⟨number, line, column, hline, ?_, rfl⟩⟩
      rw [hread, show (part.toAssigned source number line column).name = name from hname]
      exact .assign name sign column
    split
    · next f hf =>
      have hopen := h.openFunction f hf
      refine h.withFunction ⟨hopen.given, fun v hv => ?_, hopen.loops⟩
      rcases List.mem_append.1 hv with hv | hv
      · exact hopen.locals v hv
      · rw [List.mem_singleton.1 hv]
        exact hmade
    · exact h.concat (.ofVariable hmade)

/-- A function is opened. -/
theorem openFunctionAt (h : draft.MadeIn source known)
    (hline : source.lines[number]? = some line) {name suffix : Text}
    {parameters : Option (Text × Nat)}
    (hread : Statement.read line = .openFunction name suffix column parameters) :
    (draft.openFunctionAt source number line name suffix column parameters).MadeIn source
      known := by
  have hplaced := Statement.wellPlaced_read line
  rw [hread] at hplaced
  have hclosed : (draft.endFunction source number).MadeIn source known := by
    unfold Draft.endFunction
    split
    · exact h.closeFunction _
    · exact h
  have hgives : (Statement.read line).Gives .function name column := by
    rw [hread]
    exact .openFunction name suffix column parameters
  have hlists : (Statement.read line).listsVariables = true := by rw [hread]; rfl
  rw [openFunctionAt_eq]
  refine (hclosed.withDoc .empty).withFunction ⟨⟨line, hline, hgives⟩, ?_, fun _ => (nomatch ·)⟩
  cases hparameters : parameters with
  | none => exact fun _ => (nomatch ·)
  | some found =>
    obtain ⟨list, start⟩ := found
    obtain ⟨added, hadd, hmade⟩ := exists_addLocated_of_codeAt (Part.toParameter source number)
      declaresKey [] (hplaced.2 list start hparameters).1
      fun part start hnumber _ => Variable.madeIn_of_lists hline hlists hnumber rfl
    intro v hv
    have hlocals : v ∈ addLocated (Part.toParameter source number) declaresKey []
        (locateParts line start (Part.parseList list)) := hv
    rw [hadd] at hlocals
    exact hmade v hlocals

/-- A type is opened. -/
theorem openTypeAt (h : draft.MadeIn source known) (hline : source.lines[number]? = some line)
    {name : Text} (hread : Statement.read line = .openType name column) :
    (draft.openTypeAt source number line name column).MadeIn source known := by
  unfold Draft.openTypeAt
  extract_lets closed
  have hclosed : closed.MadeIn source known := by
    simp only [closed]
    split
    · exact h.closeType _
    · exact h
  refine (hclosed.withDoc .empty).withType ⟨⟨line, hline, ?_⟩, fun _ => (nomatch ·)⟩
  rw [hread]
  exact .openType name column

/-- Fields are declared. -/
theorem declareFields (h : draft.MadeIn source known) (hline : source.lines[number]? = some line)
    {list : Text} (hread : Statement.read line = .declareFields list column) :
    (draft.declareFields source number line list column).MadeIn source known := by
  have hplaced := Statement.wellPlaced_read line
  rw [hread] at hplaced
  cases ht : draft.openType with
  | none =>
    unfold Draft.declareFields
    rw [ht]
    exact h
  | some t =>
    obtain ⟨added, hadd, hlisted⟩ := exists_addLocated_of_codeAt (P := Variable.ListedIn source)
      (Part.toField source number line) (fun found key => found.any fun v => v.key == key) t.fields
      hplaced fun part start hnumber hle =>
        ⟨hnumber, number, line, list, column, hline, hread, rfl, Int.ofNat_le.2 hle⟩
    rw [declareFields_of_some ht, hadd]
    have hopen := h.openType t ht
    exact h.withType ⟨hopen.given,
      fun v hv => (List.mem_append.1 hv).elim (hopen.fields v) (hlisted v)⟩

/-- A label is set. -/
theorem setLabel (h : draft.MadeIn source known) (hline : source.lines[number]? = some line)
    {name : Text} (hread : Statement.read line = .label name column) :
    (draft.setLabel source number line name column).MadeIn source known := by
  refine h.concat (.ofLabel (l := .at source number line name column)
    ⟨number, line, column, hline, ?_, rfl⟩ rfl)
  rw [hread]
  exact .label name column

/-- Every line that is no include makes its symbols. -/
theorem step (h : draft.MadeIn source known) (hline : source.lines[number]? = some line)
    (hnext : draft.step source number line (Statement.read line) = .ok next) :
    next.MadeIn source known := by
  cases hread : Statement.read line with
  | includeFile target => rw [hread] at hnext; cases hnext; exact h
  | declare keyword list column =>
    rw [hread] at hnext
    obtain ⟨declarator, -, rfl⟩ := Draft.step_declare_eq_ok_iff.1 hnext
    exact h.declare hline hread declarator
  | openLoop name suffix column closed =>
    rw [hread] at hnext
    cases hnext
    cases closed with
    | true => exact (h.openLoop hline hread).closeLoop number
    | false => exact h.openLoop hline hread
  | closeLoop => rw [hread] at hnext; cases hnext; exact h.closeLoop number
  | assign name sign column => rw [hread] at hnext; cases hnext; exact h.assign hline hread
  | documentParameter text => rw [hread] at hnext; cases hnext; exact h.withDoc _
  | documentExample text => rw [hread] at hnext; cases hnext; exact h.withDoc _
  | document text => rw [hread] at hnext; cases hnext; exact h.withDoc _
  | closeFunction => rw [hread] at hnext; cases hnext; exact h.closeFunction number
  | openFunction name suffix column parameters =>
    rw [hread] at hnext
    cases hnext
    exact h.openFunctionAt hline hread
  | closeType => rw [hread] at hnext; cases hnext; exact h.closeType number
  | openType name column => rw [hread] at hnext; cases hnext; exact h.openTypeAt hline hread
  | declareFields list column =>
    rw [hread] at hnext
    cases hnext
    exact h.declareFields hline hread
  | label name column => rw [hread] at hnext; cases hnext; exact h.setLabel hline hread
  | other => rw [hread] at hnext; cases hnext; exact h

end Draft.MadeIn

end Making

/-! ## Files and visits -/

/-- What a file yields is known from the files that it includes or made by its own statements. -/
theorem Source.madeIn_of_outcome {source : Source} (known : Symbol → Prop)
    {fetch : Text → Except ExtractError (List Symbol)} {found : List Symbol}
    (hfetch : ∀ line ∈ source.lines, ∀ target result, (Statement.read line).target? = some target →
      fetch target = .ok result → ∀ symbol ∈ result, known symbol)
    (h : source.outcome fetch = .ok found) :
    ∀ symbol ∈ found, known symbol ∨ symbol.MadeIn source := by
  obtain ⟨draft, hmade, rfl⟩ := source.exists_draft_of_steps
    (P := fun _ draft => draft.MadeIn source known) .empty
    (fun number line draft next hline hnext hdraft => hdraft.step hline hnext)
    (fun number line draft target result hline htarget hresult hdraft =>
      hdraft.append fun symbol hmem =>
        .inl (hfetch line (List.mem_of_getElem? hline) target result htarget hresult symbol hmem)) h
  exact hmade.finish

/-- Every symbol that a visit yields is made by the statements of a file that the visit leads to. -/
theorem Visit.exists_madeIn {disk : Disk} {rules : IncludeRules} {visit : Visit}
    {found : List Symbol} {symbol : Symbol} (h : visit.outcome disk rules = .ok found)
    (hmem : symbol ∈ found) :
    ∃ last, visit.Reaches disk rules last ∧ symbol.MadeIn last.source := by
  refine exists_reaches_of_mem (P := fun source symbol => symbol.MadeIn source)
    (fun visit found h => ?_) h hmem
  rw [outcome_eq] at h
  exact Source.madeIn_of_outcome _ (fun line hline target result htarget hresult symbol =>
    Source.mem_inclusions hline htarget hresult) h

/-- Every function that a pass finds may be called anywhere. -/
theorem extract_guard_function {disk : Disk} {rules : IncludeRules} {path text : Text}
    {found : List Symbol} (h : (extract disk rules path text).1 = .ok found) {f : Function}
    (hmem : .ofFunction f ∈ found) : f.guard = .anywhere := by
  rw [extract_fst] at h
  obtain ⟨last, -, hmade⟩ := Visit.exists_madeIn h hmem
  cases hmade with
  | ofFunction _ hguard _ => exact hguard

end BlitzLens
