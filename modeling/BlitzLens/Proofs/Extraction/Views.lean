import BlitzLens.Proofs.Extraction.Distinct

/-!
# Views of the functions of a draft

What the line that opens a function settles is not changed by the lines of its body, and is still
there when the function is closed. A `FunctionView` is such a part of a function: it depends on the
locals through the parameters alone, and not on the loops. What a draft shows of its functions,
those that are closed before the open one, grows by what a line opens
(`FunctionView.ofDraft_step`) and is what the finished symbols show
(`FunctionView.ofSymbols_finish`).

## Main definitions

* `FunctionView`: a part of a function that its body leaves as it is.
* `FunctionView.ofSymbols`, `FunctionView.ofDraft`: what the functions of symbols and of a draft
  show.

## Main results

* `FunctionView.ofDraft_step`: every line shows the function that its statement opens, and nothing
  else.
* `FunctionView.ofSymbols_finish`: what is open at the end is shown like what was closed before.
-/

namespace BlitzLens

/-! ## Parameters among locals -/

/-- The parameters among some variables. -/
def parametersOf (found : List Variable) : List Variable :=
  found.filter fun v => v.storage == .parameter

section Lists

/-- An element that is left out may stand anywhere. -/
theorem filterMap_insertIdx_of_none {α β : Type} {f : α → Option β} {a : α} (h : f a = none)
    (list : List α) (index : Nat) : (list.insertIdx index a).filterMap f = list.filterMap f := by
  induction list generalizing index with
  | nil => cases index <;> simp [h]
  | cons b list ih =>
    cases index with
    | zero => exact List.filterMap_cons_none h
    | succ index => rw [List.insertIdx_succ_cons, List.filterMap_cons, List.filterMap_cons, ih]

variable {found added : List Variable} {v : Variable}

/-- Variables that are no parameters do not matter. -/
theorem parametersOf_append (h : ∀ v ∈ added, v.storage ≠ .parameter) :
    parametersOf (found ++ added) = parametersOf found := by
  have hnone : parametersOf added = [] :=
    List.filter_eq_nil_iff.2 fun v hv => by rw [beq_iff_eq]; exact h v hv
  rw [parametersOf, List.filter_append]
  exact (congrArg (_ ++ ·) hnone).trans (List.append_nil _)

/-- A variable that is no parameter may be put in anywhere. -/
theorem parametersOf_insertIdx (h : v.storage ≠ .parameter) (index : Nat) :
    parametersOf (found.insertIdx index v) = parametersOf found := by
  have hguard : Option.guard (fun w : Variable => w.storage == .parameter) v = none := by
    rw [Option.guard_eq_none_iff, beq_eq_false_iff_ne]
    exact h
  rw [parametersOf, parametersOf, ← List.filterMap_eq_filter, filterMap_insertIdx_of_none hguard]

end Lists

/-! ## Views -/

/-- A part of the functions of a file that is settled by their parameters and by what the body does
not change. -/
structure FunctionView (source : Source) (α : Type) where
  /-- The part of an open function. -/
  ofOpen : FunctionDraft → α
  /-- The part of a function that is closed. -/
  ofClosed : Function → α
  /-- The body does not matter. -/
  ofOpen_body : ∀ (f : FunctionDraft) (locals : List Variable) (loops : List OpenLoop),
    parametersOf locals = parametersOf f.locals → ofOpen { f with locals, loops } = ofOpen f
  /-- A function is closed after its loops. -/
  ofClosed_finish : ∀ (f : FunctionDraft) (last : Nat),
    ofClosed (f.finish source last) = ofOpen (f.closeLoops source last f.loops.length)

namespace FunctionView

variable {source : Source} {α : Type} (view : FunctionView source α)

/-- What the functions among some symbols show. -/
def ofSymbols (symbols : List Symbol) : List α :=
  symbols.filterMap fun symbol => symbol.asFunction?.map view.ofClosed

/-- What the functions of a draft show, those that are closed before the open one. -/
def ofDraft (draft : Draft) : List α :=
  view.ofSymbols draft.symbols ++ (draft.openFunction.map view.ofOpen).toList

section Symbols

variable {symbols : List Symbol}

/-- What symbols show is gathered in order. -/
theorem ofSymbols_append (symbols more : List Symbol) :
    view.ofSymbols (symbols ++ more) = view.ofSymbols symbols ++ view.ofSymbols more :=
  List.filterMap_append

/-- Variables show nothing. -/
theorem ofSymbols_map_ofVariable (found : List Variable) :
    view.ofSymbols (found.map .ofVariable) = [] := by
  rw [ofSymbols, List.filterMap_map]
  exact List.filterMap_eq_nil_iff.2 fun _ _ => rfl

/-- Symbols that are no functions do not matter. -/
theorem ofSymbols_concat {symbol : Symbol} (h : symbol.asFunction? = none) :
    view.ofSymbols (symbols ++ [symbol]) = view.ofSymbols symbols := by
  rw [ofSymbols_append, ofSymbols, ofSymbols, List.filterMap_cons_none (by rw [h]; rfl),
    List.filterMap_nil, List.append_nil]

end Symbols

section Functions

/-- Closing a loop leaves what a function shows. -/
theorem ofOpen_closeLoop (f : FunctionDraft) (last : Nat) :
    view.ofOpen (f.closeLoop source last) = view.ofOpen f := by
  have hiterator (iterator : OpenIterator) :
      (iterator.close source .localVar last).storage ≠ .parameter := nofun
  unfold FunctionDraft.closeLoop
  split
  · rfl
  · exact view.ofOpen_body f _ _ rfl
  · exact view.ofOpen_body f _ _ (parametersOf_insertIdx (hiterator _) _)

/-- Closing some loops leaves what a function shows. -/
theorem ofOpen_closeLoops (f : FunctionDraft) (last count : Nat) :
    view.ofOpen (f.closeLoops source last count) = view.ofOpen f := by
  induction count generalizing f with
  | zero => rfl
  | succ count ih => rw [FunctionDraft.closeLoops, ih, ofOpen_closeLoop]

/-- A function that is closed shows what it showed before. -/
theorem ofClosed_eq (f : FunctionDraft) (last : Nat) :
    view.ofClosed (f.finish source last) = view.ofOpen f := by
  rw [view.ofClosed_finish, ofOpen_closeLoops]

end Functions

/-! ## Steps -/

section Steps

variable {draft next : Draft} {number : Nat} {line : Text}

/-- A function that is closed stands behind all others. -/
theorem ofDraft_closeFunction (last : Nat) :
    view.ofDraft (draft.closeFunction source last) = view.ofDraft draft := by
  unfold Draft.closeFunction
  split
  · next f hf =>
    have hlast : view.ofSymbols [.ofFunction (f.finish source last)] = [view.ofOpen f] :=
      congrArg ([·]) (view.ofClosed_eq f last)
    rw [ofDraft, ofDraft, ofSymbols_append, hlast, hf]
    exact List.append_nil _
  · rfl

/-- A type that is closed does not matter. -/
theorem ofDraft_closeType (last : Nat) :
    view.ofDraft (draft.closeType source last) = view.ofDraft draft := by
  unfold Draft.closeType
  split
  · exact congrArg (· ++ _) (view.ofSymbols_concat rfl)
  · rfl

/-- The iterator of a loop of the top level does not matter. -/
theorem ofDraft_closeTopLoop (last : Nat) :
    view.ofDraft (draft.closeTopLoop source last) = view.ofDraft draft := by
  unfold Draft.closeTopLoop
  split
  · rfl
  · rfl
  · exact congrArg (· ++ _) (filterMap_insertIdx_of_none rfl _ _)

/-- The iterators of loops of the top level do not matter. -/
theorem ofDraft_closeTopLoops (last count : Nat) :
    view.ofDraft (draft.closeTopLoops source last count) = view.ofDraft draft := by
  induction count generalizing draft with
  | zero => rfl
  | succ count ih => rw [Draft.closeTopLoops, ih, ofDraft_closeTopLoop]

/-- Another state of the open function may show the same. -/
theorem ofDraft_withFunction {f g : FunctionDraft} (hf : draft.openFunction = some f)
    (h : view.ofOpen g = view.ofOpen f) :
    view.ofDraft { draft with openFunction := some g } = view.ofDraft draft := by
  rw [ofDraft, ofDraft, hf]
  exact congrArg (fun shown => _ ++ [shown]) h

/-- The iterator of a loop does not matter. -/
theorem ofDraft_closeLoop (last : Nat) :
    view.ofDraft (draft.closeLoop source last) = view.ofDraft draft := by
  unfold Draft.closeLoop
  split
  · next f hf => exact view.ofDraft_withFunction hf (view.ofOpen_closeLoop f last)
  · exact view.ofDraft_closeTopLoop last

/-- Declared variables are no parameters. -/
theorem ofDraft_declare (declarator : Declarator) (list : Text) (column : Nat) :
    view.ofDraft (draft.declare source number line declarator list column) =
      view.ofDraft draft := by
  have hstorage (part : Part) (start : Nat) :
      (declarator.build source number line part start).storage ≠ .parameter := by
    cases declarator <;> nofun
  cases hf : draft.openFunction with
  | some f =>
    obtain ⟨placed, -, hadd⟩ := exists_sublist_addLocated (declarator.build source number line)
      declaresKey f.locals (locateParts line column (Part.parseList list))
    rw [Draft.declare_of_some hf, hadd]
    refine view.ofDraft_withFunction hf (view.ofOpen_body f _ _ (parametersOf_append ?_))
    exact List.forall_mem_map.2 fun place _ => hstorage place.1 place.2
  | none =>
    rw [Draft.declare_of_none hf, ofDraft, ofDraft, ofSymbols_append, ofSymbols_map_ofVariable,
      List.append_nil]

/-- A loop that is opened does not matter. -/
theorem ofDraft_openLoop (name suffix : Text) (column : Nat) :
    view.ofDraft (draft.openLoop number line name suffix column) = view.ofDraft draft := by
  cases hf : draft.openFunction with
  | some f =>
    rw [Draft.openLoop_of_some hf]
    exact view.ofDraft_withFunction hf (view.ofOpen_body f _ _ rfl)
  | none =>
    rw [Draft.openLoop_of_none hf]
    rfl

/-- An assigned variable is no parameter. -/
theorem ofDraft_assign (name sign : Text) (column : Nat) :
    view.ofDraft (draft.assign source number line name sign column) = view.ofDraft draft := by
  unfold Draft.assign
  split
  · rfl
  split
  · rfl
  · next part _ =>
    extract_lets made
    have hmade : ∀ v ∈ [made], v.storage ≠ .parameter := by
      intro v hv
      rw [List.mem_singleton.1 hv]
      exact nofun
    split
    · next f hf =>
      exact view.ofDraft_withFunction hf (view.ofOpen_body f _ _ (parametersOf_append hmade))
    · exact congrArg (· ++ _) (view.ofSymbols_concat rfl)

/-- A function is opened behind those that there are. -/
theorem ofDraft_openFunctionAt (name suffix : Text) (column : Nat)
    (parameters : Option (Text × Nat)) :
    view.ofDraft (draft.openFunctionAt source number line name suffix column parameters) =
      view.ofDraft draft ++ [view.ofOpen (.fresh source number line name suffix column parameters
        draft.doc)] := by
  have hend : view.ofDraft (draft.endFunction source number) = view.ofDraft draft ∧
      (draft.endFunction source number).doc = draft.doc := by
    unfold Draft.endFunction
    split
    · obtain ⟨symbols, hclosed⟩ := draft.closeFunction_eq source (max (number - 1) _)
      exact ⟨view.ofDraft_closeFunction _, by rw [hclosed]⟩
    · exact ⟨rfl, rfl⟩
  rw [ofDraft, Draft.openFunction_endFunction] at hend
  rw [Draft.openFunctionAt_eq, ← hend.1, ← hend.2]
  exact congrArg (· ++ _) (List.append_nil _).symm

/-- A type that is opened does not matter. -/
theorem ofDraft_openTypeAt (name : Text) (column : Nat) :
    view.ofDraft (draft.openTypeAt source number line name column) = view.ofDraft draft := by
  unfold Draft.openTypeAt
  cases draft.openType with
  | none => rfl
  | some t => exact view.ofDraft_closeType _

/-- Fields do not matter. -/
theorem ofDraft_declareFields (list : Text) (column : Nat) :
    view.ofDraft (draft.declareFields source number line list column) = view.ofDraft draft := by
  unfold Draft.declareFields
  split <;> rfl

/-- What the function shows that a statement opens, if it opens one, where `doc` waits for it. -/
def opened? (number : Nat) (line : Text) (doc : DocBlock) : Statement → Option α
  | .openFunction name suffix column parameters =>
    some (view.ofOpen (.fresh source number line name suffix column parameters doc))
  | _ => none

/-- Every line that is no include shows the function that its statement opens, and nothing else. -/
theorem ofDraft_step {statement : Statement}
    (hnext : draft.step source number line statement = .ok next) :
    view.ofDraft next =
      view.ofDraft draft ++ (view.opened? number line draft.doc statement).toList := by
  cases statement with
  | openFunction name suffix column parameters =>
    cases hnext
    exact view.ofDraft_openFunctionAt name suffix column parameters
  | declare keyword list column =>
    obtain ⟨declarator, -, rfl⟩ := Draft.step_declare_eq_ok_iff.1 hnext
    exact (view.ofDraft_declare declarator list column).trans (List.append_nil _).symm
  | openLoop name suffix column closed =>
    have hopened : view.ofDraft (draft.openLoop number line name suffix column) =
        view.ofDraft draft := view.ofDraft_openLoop name suffix column
    cases hnext
    refine Eq.trans ?_ (List.append_nil _).symm
    cases closed with
    | true => exact (view.ofDraft_closeLoop number).trans hopened
    | false => exact hopened
  | closeLoop =>
    cases hnext
    exact (view.ofDraft_closeLoop number).trans (List.append_nil _).symm
  | assign name sign column =>
    cases hnext
    exact (view.ofDraft_assign name sign column).trans (List.append_nil _).symm
  | closeFunction =>
    cases hnext
    exact (view.ofDraft_closeFunction number).trans (List.append_nil _).symm
  | closeType =>
    cases hnext
    exact (view.ofDraft_closeType number).trans (List.append_nil _).symm
  | openType name column =>
    cases hnext
    exact (view.ofDraft_openTypeAt name column).trans (List.append_nil _).symm
  | declareFields list column =>
    cases hnext
    exact (view.ofDraft_declareFields list column).trans (List.append_nil _).symm
  | label name column =>
    cases hnext
    exact (congrArg (· ++ _) (view.ofSymbols_concat rfl)).trans (List.append_nil _).symm
  | _ => cases hnext; exact (List.append_nil _).symm

/-- What is still open is closed behind the last line. -/
theorem ofSymbols_finish (draft : Draft) :
    view.ofSymbols (draft.finish source) = view.ofDraft draft := by
  have hnone : ((draft.closeFunction source source.lastLine).closeType source
      source.lastLine).openFunction = none := by
    obtain ⟨symbols, hfunction⟩ := draft.closeFunction_eq source source.lastLine
    obtain ⟨more, htype⟩ :=
      (draft.closeFunction source source.lastLine).closeType_eq source source.lastLine
    rw [htype, hfunction]
  rw [← view.ofDraft_closeFunction source.lastLine, ← view.ofDraft_closeType source.lastLine,
    ← view.ofDraft_closeTopLoops source.lastLine ((draft.closeFunction source
      source.lastLine).closeType source source.lastLine).loops.length, ofDraft,
    Draft.openFunction_closeTopLoops, hnone]
  exact (List.append_nil _).symm

end Steps

end FunctionView

end BlitzLens
