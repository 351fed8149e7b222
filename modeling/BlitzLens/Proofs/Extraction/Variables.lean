import BlitzLens.Proofs.Extraction.Names
import BlitzLens.Proofs.Extraction.Origin

/-!
# The statements that make variables

Every variable of a file is made by the statement of one of its lines: either a part of a list makes
it, where the part is located, or the statement gives a name and makes it there (`Statement.Makes`).
The parts of a field list make fields, which belong to types, and nothing else makes fields
(`Variable.StatedIn`). This is kept by every line (`Draft.StatedIn.step`), so it holds of whatever a
visit yields, in a file that the visit leads to (`Visit.exists_statedIn`). A property of all
variables is thus one of located parts and of given names.
-/

namespace BlitzLens

/-! ## What is stated -/

namespace Statement

/-- The list of variables, parameters or fields of a statement, with the column where it starts. -/
def list? : Statement → Option (Text × Nat)
  | declare _ list column => some (list, column)
  | openFunction _ _ _ parameters => parameters
  | declareFields list column => some (list, column)
  | _ => none

/-- Whether a statement declares fields. -/
def listsFields : Statement → Bool
  | declareFields .. => true
  | _ => false

/-- A variable that the statement of a line may make: from a part of its list, where the part is
located, unless there is one with its key in front of it, or from a part that stands where the
statement gives the name of a variable. -/
inductive Makes (source : Source) (number : Nat) (line : Text) (statement : Statement) :
    Variable → Prop
  | listed {list : Text} {column : Nat} {front back : List (Part × Nat)} {place : Part × Nat}
      (hlist : statement.list? = some (list, column))
      (hplaces : locateParts line column (Part.parseList list) = front ++ place :: back)
      (hfront : ∀ earlier ∈ front, earlier.1.key ≠ place.1.key)
      (declaration : Text) (storage : Storage)
      (hstorage : (storage == .field) = statement.listsFields) (description : Text)
      (constant : Bool) :
      Makes source number line statement
        (place.1.toVariable source number place.2 declaration storage description constant none)
  | given {name : Text} {column : Nat} (hgives : statement.Gives .var name column) (part : Part)
      (declaration : Text) (storage : Storage)
      (hstorage : (storage == .field) = statement.listsFields) (description : Text)
      (closing : Option Nat) :
      Makes source number line statement
        (part.toVariable source number column declaration storage description false closing)

/-- A statement that gives the name of a variable declares no fields. -/
theorem Gives.listsFields_eq {statement : Statement} {name : Text} {column : Nat}
    (h : statement.Gives .var name column) : statement.listsFields = false := by
  cases h <;> rfl

/-- What a statement makes is a field exactly if the statement declares fields, and its guard is the
one of fields then and the one of names otherwise. -/
theorem Makes.storage_guard {source : Source} {number : Nat} {line : Text} {statement : Statement}
    {v : Variable} (h : statement.Makes source number line v) :
    (v.storage == .field) = statement.listsFields ∧
      v.guard = if statement.listsFields then .field else .name := by
  cases h with
  | listed hlist hplaces hfront declaration storage hstorage description constant =>
    exact ⟨hstorage, congrArg (fun isField : Bool => if isField then _ else _) hstorage⟩
  | given hgives part declaration storage hstorage description closing =>
    exact ⟨hstorage, congrArg (fun isField : Bool => if isField then _ else _) hstorage⟩

end Statement

/-- A variable is made by the statement of a line of a file, which declares fields or does not. -/
def Variable.StatedIn (source : Source) (isField : Bool) (v : Variable) : Prop :=
  ∃ (number : Nat) (line : Text), source.lines[number]? = some line ∧
    (Statement.read line).Makes source number line v ∧ (v.storage == .field) = isField

/-- The variables that a symbol is or owns are made by the statements of a file. Types own fields,
and nothing else does. -/
inductive Symbol.StatedIn (source : Source) : Symbol → Prop
  | ofVariable {v : Variable} (h : v.StatedIn source false) : StatedIn source (.ofVariable v)
  | ofFunction {f : Function} (h : ∀ v ∈ f.locals, v.StatedIn source false) :
      StatedIn source (.ofFunction f)
  | ofType {t : RecordType} (h : ∀ v ∈ t.fields, v.StatedIn source true) :
      StatedIn source (.ofType t)
  | ofLabel (l : Label) : StatedIn source (.ofLabel l)

/-- The iterator of an open loop is made by a statement whenever its loop is closed. -/
def OpenIterator.StatedIn (source : Source) (iterator : OpenIterator) : Prop :=
  ∀ storage last, storage ≠ .field → (iterator.close source storage last).StatedIn source false

/-- The variables of an open function are made by statements. -/
structure FunctionDraft.StatedIn (source : Source) (f : FunctionDraft) : Prop where
  /-- Its locals are made. -/
  locals : ∀ v ∈ f.locals, v.StatedIn source false
  /-- The iterators of its loops are made. -/
  loops : ∀ iterator, some iterator ∈ f.loops → iterator.StatedIn source

/-- The variables of a draft are made by the statements of its file, but for those of symbols that
are `known` from others. -/
structure Draft.StatedIn (source : Source) (known : Symbol → Prop) (draft : Draft) : Prop where
  /-- The finished symbols are known or made. -/
  symbols : ∀ symbol ∈ draft.symbols, known symbol ∨ symbol.StatedIn source
  /-- The variables of the open function are made. -/
  openFunction : ∀ f, draft.openFunction = some f → f.StatedIn source
  /-- The fields of the open type are made. -/
  openType : ∀ t, draft.openType = some t → ∀ v ∈ t.fields, v.StatedIn source true
  /-- The iterators of the open loops are made. -/
  loops : ∀ iterator, some iterator ∈ draft.loops → iterator.StatedIn source

section Lines

variable {source : Source} {known : Symbol → Prop} {draft next : Draft} {number column : Nat}
  {line : Text}

/-! ## Functions -/

namespace FunctionDraft.StatedIn

variable {f : FunctionDraft}

/-- Closing a loop of a function makes its iterator a local. -/
theorem closeLoop (h : f.StatedIn source) (last : Nat) :
    (f.closeLoop source last).StatedIn source := by
  unfold FunctionDraft.closeLoop
  split
  · exact h
  · next loops hloops =>
    exact ⟨h.locals, fun iterator hmem => h.loops iterator (by simp [hloops, hmem])⟩
  · next iterator loops hloops =>
    refine ⟨fun v hv => ?_, fun other hmem => h.loops other (by simp [hloops, hmem])⟩
    rcases List.eq_or_mem_of_mem_insertIdx hv with rfl | hv
    · exact h.loops iterator (by simp [hloops]) .localVar last nofun
    · exact h.locals v hv

/-- The variables of a function that ends are made. -/
theorem finish (h : f.StatedIn source) (last : Nat) :
    (Symbol.ofFunction (f.finish source last)).StatedIn source := by
  -- whatever loops are open are closed first, one by one
  have hclosed (count : Nat) {g : FunctionDraft} (hg : g.StatedIn source) :
      (g.closeLoops source last count).StatedIn source := by
    induction count generalizing g with
    | zero => exact hg
    | succ count ih => exact ih (hg.closeLoop last)
  rw [f.finish_eq]
  exact .ofFunction (hclosed f.loops.length h).locals

end FunctionDraft.StatedIn

/-! ## Drafts -/

namespace Draft.StatedIn

/-- Before the first line, there are no variables. -/
theorem empty : Draft.empty.StatedIn source known :=
  ⟨fun _ => (nomatch ·), fun _ => (nomatch ·), fun _ => (nomatch ·), fun _ => (nomatch ·)⟩

/-- Waiting documentation does not matter. -/
theorem withDoc (h : draft.StatedIn source known) (doc : DocBlock) :
    Draft.StatedIn source known { draft with doc } :=
  ⟨h.symbols, h.openFunction, h.openType, h.loops⟩

/-- The open function may be another one. -/
theorem withFunction (h : draft.StatedIn source known) {f : FunctionDraft}
    (hf : f.StatedIn source) :
    Draft.StatedIn source known { draft with openFunction := some f } :=
  ⟨h.symbols, fun _ heq => Option.some.inj heq ▸ hf, h.openType, h.loops⟩

/-- The open type may be another one. -/
theorem withType (h : draft.StatedIn source known) {t : TypeDraft}
    (ht : ∀ v ∈ t.fields, v.StatedIn source true) :
    Draft.StatedIn source known { draft with openType := some t } :=
  ⟨h.symbols, h.openFunction, fun _ heq => Option.some.inj heq ▸ ht, h.loops⟩

/-- More symbols may be known or made. -/
theorem append (h : draft.StatedIn source known) {added : List Symbol}
    (hadded : ∀ symbol ∈ added, known symbol ∨ symbol.StatedIn source) :
    Draft.StatedIn source known { draft with symbols := draft.symbols ++ added } :=
  ⟨fun symbol hmem => (List.mem_append.1 hmem).elim (h.symbols symbol) (hadded symbol),
    h.openFunction, h.openType, h.loops⟩

/-- One more symbol may be made. -/
theorem concat (h : draft.StatedIn source known) {symbol : Symbol}
    (hsymbol : symbol.StatedIn source) :
    Draft.StatedIn source known { draft with symbols := draft.symbols ++ [symbol] } :=
  h.append fun other hmem => by rw [List.mem_singleton.1 hmem]; exact .inr hsymbol

/-- The open function is closed. -/
theorem closeFunction (h : draft.StatedIn source known) (last : Nat) :
    (draft.closeFunction source last).StatedIn source known := by
  unfold Draft.closeFunction
  split
  · next f hf =>
    have hconcat := h.concat ((h.openFunction f hf).finish last)
    exact ⟨hconcat.symbols, fun _ => (nomatch ·), hconcat.openType, hconcat.loops⟩
  · exact h

/-- The open type is closed. -/
theorem closeType (h : draft.StatedIn source known) (last : Nat) :
    (draft.closeType source last).StatedIn source known := by
  unfold Draft.closeType
  split
  · next t ht =>
    have hconcat := h.concat (.ofType (t := t.finish source last) (h.openType t ht))
    exact ⟨hconcat.symbols, hconcat.openFunction, fun _ => (nomatch ·), hconcat.loops⟩
  · exact h

/-- The innermost loop of the top level is closed. -/
theorem closeTopLoop (h : draft.StatedIn source known) (last : Nat) :
    (draft.closeTopLoop source last).StatedIn source known := by
  unfold Draft.closeTopLoop
  split
  · exact h
  · next loops hloops =>
    exact ⟨h.symbols, h.openFunction, h.openType,
      fun iterator hmem => h.loops iterator (by simp [hloops, hmem])⟩
  · next iterator loops hloops =>
    refine ⟨fun symbol hmem => ?_, h.openFunction, h.openType,
      fun other hmem => h.loops other (by simp [hloops, hmem])⟩
    rcases List.eq_or_mem_of_mem_insertIdx hmem with rfl | hmem
    · exact .inr (.ofVariable (h.loops iterator (by simp [hloops]) .globalVar last nofun))
    · exact h.symbols symbol hmem

/-- The innermost loop is closed. -/
theorem closeLoop (h : draft.StatedIn source known) (last : Nat) :
    (draft.closeLoop source last).StatedIn source known := by
  unfold Draft.closeLoop
  split
  · next f hf => exact h.withFunction ((h.openFunction f hf).closeLoop last)
  · exact h.closeTopLoop last

/-- What is still open is closed when the file ends. -/
theorem finish (h : draft.StatedIn source known) :
    ∀ symbol ∈ draft.finish source, known symbol ∨ symbol.StatedIn source := by
  have hloops (count : Nat) {d : Draft} (hd : d.StatedIn source known) :
      (d.closeTopLoops source source.lastLine count).StatedIn source known := by
    induction count generalizing d with
    | zero => exact hd
    | succ count ih => exact ih (hd.closeTopLoop source.lastLine)
  exact (hloops _ ((h.closeFunction source.lastLine).closeType source.lastLine)).symbols

/-- The parts of a list are added where they are located, so the statement of the line makes all of
them. -/
theorem statedIn_addLocated (hline : source.lines[number]? = some line) {list : Text}
    (hlist : (Statement.read line).list? = some (list, column))
    (build : Part → Nat → Variable) (storage : Storage)
    (hstorage : (storage == .field) = (Statement.read line).listsFields)
    (hbuild : ∀ part start, ∃ declaration description constant, build part start =
      part.toVariable source number start declaration storage description constant none)
    {declared : List Variable → Text → Bool} {view : List Variable → List Variable}
    (hlooks : LooksUp build declared view) {found : List Variable}
    (hfound : ∀ v ∈ found, v.StatedIn source (storage == .field)) :
    ∀ v ∈ addLocated build declared found (locateParts line column (Part.parseList list)),
      v.StatedIn source (storage == .field) := by
  intro v hv
  rcases hlooks.exists_split_of_mem_addLocated hv with hv |
    ⟨front, place, back, hplaces, rfl, hfront, -⟩
  · exact hfound v hv
  · obtain ⟨declaration, description, constant, heq⟩ := hbuild place.1 place.2
    rw [heq]
    exact ⟨number, line, hline,
      .listed hlist hplaces hfront declaration storage hstorage description constant, rfl⟩

/-- Variables are declared. -/
theorem declare (h : draft.StatedIn source known) (hline : source.lines[number]? = some line)
    {keyword list : Text} (hread : Statement.read line = .declare keyword list column)
    (declarator : Declarator) :
    (draft.declare source number line declarator list column).StatedIn source known := by
  have hstorage : (declarator.storage == .field) = false := by cases declarator <;> rfl
  have hlist : (Statement.read line).list? = some (list, column) := by rw [hread]; rfl
  -- a function knows its locals, and the top level the variables that it has already
  have hadded (known : List Variable) {found : List Variable}
      (hfound : ∀ v ∈ found, v.StatedIn source false) :=
    statedIn_addLocated hline hlist (declarator.build source number line) declarator.storage
      (hstorage.trans (by rw [hread]; rfl)) (fun _ _ => ⟨_, _, _, rfl⟩)
      (.lasting (fun _ _ => rfl) (fun _ _ => rfl) known) (by rwa [hstorage])
  rw [hstorage] at hadded
  cases hf : draft.openFunction with
  | some f =>
    rw [declare_of_some hf]
    have hopen := h.openFunction f hf
    exact h.withFunction ⟨hadded [] hopen.locals, hopen.loops⟩
  | none =>
    rw [declare_of_none hf]
    refine h.append fun symbol hmem => ?_
    obtain ⟨v, hv, rfl⟩ := List.mem_map.1 hmem
    exact .inr (.ofVariable (hadded _ (List.forall_mem_nil _) v hv))

/-- A loop is opened. -/
theorem openLoop (h : draft.StatedIn source known) (hline : source.lines[number]? = some line)
    {name suffix : Text} {closed : Bool}
    (hread : Statement.read line = .openLoop name suffix column closed) :
    (draft.openLoop number line name suffix column).StatedIn source known := by
  have hgives : (Statement.read line).Gives .var name column := by
    rw [hread]
    exact .openLoop name suffix column closed
  have hiterator (slot : Nat) (iterator : OpenIterator)
      (hmem : (draft.loopPart? (name ++ suffix)).map (Part.toIterator number line column slot) =
        some iterator) : iterator.StatedIn source := by
    obtain ⟨part, -, rfl⟩ := Option.map_eq_some_iff.1 hmem
    intro storage last hstorage
    have hother : (storage == .field) = false := beq_eq_false_iff_ne.2 hstorage
    exact ⟨number, line, hline,
      .given hgives part _ storage (hother.trans hgives.listsFields_eq.symm) _ _, hother⟩
  cases hf : draft.openFunction with
  | some f =>
    rw [openLoop_of_some hf]
    have hopen := h.openFunction f hf
    refine h.withFunction ⟨hopen.locals, fun iterator hmem => ?_⟩
    rcases List.mem_cons.1 hmem with heq | hmem
    · exact hiterator _ iterator heq.symm
    · exact hopen.loops iterator hmem
  | none =>
    rw [openLoop_of_none hf]
    refine ⟨h.symbols, h.openFunction, h.openType, fun iterator hmem => ?_⟩
    rcases List.mem_cons.1 hmem with heq | hmem
    · exact hiterator _ iterator heq.symm
    · exact h.loops iterator hmem

/-- A value is assigned. -/
theorem assign (h : draft.StatedIn source known) (hline : source.lines[number]? = some line)
    {name sign : Text} (hread : Statement.read line = .assign name sign column) :
    (draft.assign source number line name sign column).StatedIn source known := by
  have hgives : (Statement.read line).Gives .var name column := by
    rw [hread]
    exact .assign name sign column
  unfold Draft.assign
  split
  · exact h
  split
  · exact h
  · next part hpart =>
    have hmade : (part.toAssigned source number line column).StatedIn source false :=
      ⟨number, line, hline,
        .given hgives part _ .localVar hgives.listsFields_eq.symm _ _, rfl⟩
    split
    · next f hf =>
      have hopen := h.openFunction f hf
      refine h.withFunction ⟨fun v hv => ?_, hopen.loops⟩
      rcases List.mem_append.1 hv with hv | hv
      · exact hopen.locals v hv
      · rw [List.mem_singleton.1 hv]
        exact hmade
    · exact h.concat (.ofVariable hmade)

/-- A function is opened. -/
theorem openFunctionAt (h : draft.StatedIn source known)
    (hline : source.lines[number]? = some line) {name suffix : Text}
    {parameters : Option (Text × Nat)}
    (hread : Statement.read line = .openFunction name suffix column parameters) :
    (draft.openFunctionAt source number line name suffix column parameters).StatedIn source
      known := by
  have hclosed : (draft.endFunction source number).StatedIn source known := by
    unfold Draft.endFunction
    split
    · exact h.closeFunction _
    · exact h
  rw [openFunctionAt_eq]
  refine (hclosed.withDoc .empty).withFunction ⟨?_, fun _ => (nomatch ·)⟩
  cases hparameters : parameters with
  | none => exact fun _ => (nomatch ·)
  | some found =>
    obtain ⟨list, start⟩ := found
    exact statedIn_addLocated hline (by rw [hread, hparameters]; rfl)
      (Part.toParameter source number) .parameter (by rw [hread]; rfl) (fun _ _ => ⟨_, _, _, rfl⟩)
      (.lasting (fun _ _ => rfl) (fun _ _ => rfl) []) (List.forall_mem_nil _)

/-- A type is opened. -/
theorem openTypeAt (h : draft.StatedIn source known) (name : Text) (column : Nat) :
    (draft.openTypeAt source number line name column).StatedIn source known := by
  unfold Draft.openTypeAt
  extract_lets closed
  have hclosed : closed.StatedIn source known := by
    simp only [closed]
    split
    · exact h.closeType _
    · exact h
  exact (hclosed.withDoc .empty).withType fun _ => (nomatch ·)

/-- Fields are declared. -/
theorem declareFields (h : draft.StatedIn source known)
    (hline : source.lines[number]? = some line) {list : Text}
    (hread : Statement.read line = .declareFields list column) :
    (draft.declareFields source number line list column).StatedIn source known := by
  cases ht : draft.openType with
  | none =>
    unfold Draft.declareFields
    rw [ht]
    exact h
  | some t =>
    rw [declareFields_of_some ht]
    exact h.withType (statedIn_addLocated hline (by rw [hread]; rfl)
      (Part.toField source number line) .field (by rw [hread]; rfl) (fun _ _ => ⟨_, _, _, rfl⟩)
      (.all fun _ _ => rfl) (h.openType t ht))

/-- The statement of a line that is no include makes its variables. -/
theorem step (h : draft.StatedIn source known) (hline : source.lines[number]? = some line)
    (hnext : draft.step source number line (Statement.read line) = .ok next) :
    next.StatedIn source known := by
  cases hread : Statement.read line with
  | includeFile target => rw [hread] at hnext; cases hnext; exact h
  | declare keyword list column =>
    rw [hread] at hnext
    obtain ⟨declarator, -, rfl⟩ := Draft.step_declare_eq_ok_iff.1 hnext
    exact h.declare hline hread declarator
  | openLoop name suffix column closed =>
    rw [hread] at hnext
    cases hnext
    cases closed with
    | true => exact (h.openLoop hline hread).closeLoop number
    | false => exact h.openLoop hline hread
  | closeLoop => rw [hread] at hnext; cases hnext; exact h.closeLoop number
  | assign name sign column => rw [hread] at hnext; cases hnext; exact h.assign hline hread
  | documentParameter text => rw [hread] at hnext; cases hnext; exact h.withDoc _
  | documentExample text => rw [hread] at hnext; cases hnext; exact h.withDoc _
  | document text => rw [hread] at hnext; cases hnext; exact h.withDoc _
  | closeFunction => rw [hread] at hnext; cases hnext; exact h.closeFunction number
  | openFunction name suffix column parameters =>
    rw [hread] at hnext
    cases hnext
    exact h.openFunctionAt hline hread
  | closeType => rw [hread] at hnext; cases hnext; exact h.closeType number
  | openType name column => rw [hread] at hnext; cases hnext; exact h.openTypeAt name column
  | declareFields list column =>
    rw [hread] at hnext
    cases hnext
    exact h.declareFields hline hread
  | label name column => rw [hread] at hnext; cases hnext; exact h.concat (.ofLabel _)
  | other => rw [hread] at hnext; cases hnext; exact h

end Draft.StatedIn

end Lines

/-! ## Files and visits -/

/-- The variables of every symbol that a visit yields are made by the statements of a file that the
visit leads to. -/
theorem Visit.exists_statedIn {disk : Disk} {rules : IncludeRules} {visit : Visit}
    {found : List Symbol} {symbol : Symbol} (h : visit.outcome disk rules = .ok found)
    (hmem : symbol ∈ found) :
    ∃ last, visit.Reaches disk rules last ∧ symbol.StatedIn last.source := by
  refine exists_reaches_of_mem (P := fun source symbol => symbol.StatedIn source)
    (fun visit found h => ?_) h hmem
  rw [outcome_eq] at h
  obtain ⟨draft, hstated, rfl⟩ := visit.source.exists_draft_of_steps
    (P := fun _ draft => draft.StatedIn visit.source
      (· ∈ visit.source.inclusions (visit.fetch disk rules))) .empty
    (fun number line draft next hline hnext hdraft => hdraft.step hline hnext)
    (fun number line draft target result hline htarget hresult hdraft =>
      hdraft.append fun symbol hmem =>
        .inl (Source.mem_inclusions (List.mem_of_getElem? hline) htarget hresult hmem)) h
  exact hstated.finish

end BlitzLens
