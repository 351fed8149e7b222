import BlitzLens.Proofs.Extraction.Likeness
import BlitzLens.Proofs.Query.Highlight

/-!
# The body of a function

What stands in the body of a function stays there. A line that declares or assigns variables, or
that opens or closes a loop, changes nothing but what the open function owns
(`Draft.exists_step_eq_of_isInner`), whatever the lines around it. So two documents that differ in
nothing but such lines of the body of one function yield the same symbols, but for the locals of
that function, and the same tokens outside it (`extract_sameOutsideBody`).

The lines of a body leave one more trace. The region of a type reaches up to the end of its last
line, and a type may end in the body of a function: the end column of the region is the length of
that line (`extract_typeEndsInBody`).
-/

namespace BlitzLens

/-- Whether two lists of lines differ on a line. -/
def differOn (lines lines' : List Text) (number : Int) : Bool :=
  lines[number.toNat]? != lines'[number.toNat]?

/-- What of a symbol is told by the lines outside the body of the function from line `first` to line
`last`, of which the lines with `changed` are exchanged: all but the locals of that function and, of
a type that ends on a changed line, the end column. -/
def Symbol.outsideBody (first last : Nat) (changed : Int → Bool) : Symbol → Symbol
  | .ofFunction f =>
    .ofFunction (if f.scope.startLine = first ∧ f.scope.endLine = last then { f with locals := [] }
      else f)
  | .ofType t =>
    .ofType (if changed t.scope.endLine then { t with scope := { t.scope with endCol := 0 } }
      else t)
  | symbol => symbol

/-- Two lines may stand in one place of the body of a function: they are one line that is no end of
the body, or both change no more than the function. -/
def Line.SameOutside (line line' : Text) : Prop :=
  line = line' ∧ (Statement.read line).boundsFunction = false ∨
    (Statement.read line).isInner = true ∧ (Statement.read line').isInner = true

instance (line line' : Text) : Decidable (Line.SameOutside line line') :=
  inferInstanceAs (Decidable (_ ∨ _))

namespace Symbol

variable {first last : Nat} {changed : Int → Bool}

/-- The body of a function tells nothing about the variables outside it. -/
theorem asVariable?_outsideBody (symbol : Symbol) :
    (symbol.outsideBody first last changed).asVariable? = symbol.asVariable? := by
  cases symbol <;> rfl

end Symbol

/-- The likeness of symbols that are told by the lines outside the body of the function from line
`first` to line `last`. -/
def Likeness.ofBody (source source' : Source) (first last : Nat) : Likeness source source' where
  Same symbol symbol' :=
    symbol.outsideBody first last (differOn source.lines source'.lines) =
      symbol'.outsideBody first last (differOn source.lines source'.lines)
  SameDoc doc doc' := doc = doc'
  Closes number := source.lines[number]? = source'.lines[number]?
  countsAs {symbol symbol'} h := by
    have hvariables := congrArg Symbol.asVariable? h
    rw [Symbol.asVariable?_outsideBody, Symbol.asVariable?_outsideBody] at hvariables
    rw [hvariables]
    cases symbol'.asVariable? with
    | none => exact .none
    | some v => exact .some ⟨rfl, rfl, rfl⟩
  sameDoc_empty := rfl

/-! ## Lines that are the same -/

section Unchanged

variable {source source' : Source} {first last number : Nat} {line : Text}

/-- Variables count as the same when they are equal. -/
theorem variables_ofBody_iff {v w : Variable} :
    (Likeness.ofBody source source' first last).Variables v w ↔ v = w :=
  ⟨fun h => Symbol.ofVariable.inj h, fun h => by rw [h]; exact rfl⟩

/-- Lists of variables count as the same when they are equal. -/
theorem forall₂_variables_ofBody_iff {found found' : List Variable} :
    List.Forall₂ (Likeness.ofBody source source' first last).Variables found found' ↔
      found = found' := by
  rw [← List.forall₂_eq_eq_eq]
  exact ⟨fun h => h.imp fun _ _ => variables_ofBody_iff.1,
    fun h => h.imp fun _ _ => variables_ofBody_iff.2⟩

/-- Whole lines end at one column when the last of them is the same. -/
theorem block_eq (start : Nat) (h : source.lines[last]? = source'.lines[last]?) :
    source.block start last = source'.block start last := by
  rw [Source.block, Source.block, h]

/-- But for the end column on a changed line, types end alike in two files with one path. -/
theorem same_typeFinish_ofBody (hpath : source.path = source'.path) (t : TypeDraft) (stop : Nat) :
    (Likeness.ofBody source source' first last).Same (.ofType (t.finish source stop))
      (.ofType (t.finish source' stop)) := by
  refine congrArg Symbol.ofType ?_
  unfold TypeDraft.finish
  rw [hpath]
  by_cases hchanged : differOn source.lines source'.lines stop = true
  · -- the end columns are left out
    have hscope (source : Source) : (source.block t.line stop).endLine = stop := rfl
    dsimp only
    rw [hscope, hscope, if_pos hchanged, if_pos hchanged]
    rfl
  · have hstop : source.lines[stop]? = source'.lines[stop]? := by
      rwa [differOn, Int.toNat_natCast, bne_iff_ne, not_not] at hchanged
    rw [block_eq t.line hstop]

/-- A part declares the same in two files with one path, if the line that closes its loop is the
same. -/
theorem toVariable_eq (hpath : source.path = source'.path) (part : Part) (column : Nat)
    (declaration : Text) (storage : Storage) (description : Text) (constant : Bool)
    {closing : Option Nat}
    (hclosing : ∀ last, closing = some last → source.lines[last]? = source'.lines[last]?) :
    part.toVariable source number column declaration storage description constant closing =
      part.toVariable source' number column declaration storage description constant closing := by
  unfold Part.toVariable
  rw [hpath]
  cases closing with
  | none => rfl
  | some last =>
    dsimp only
    rw [block_eq number (hclosing last rfl)]

/-- A line declares the same in two files with one path in which it is the same. -/
theorem statements_unchanged (hpath : source.path = source'.path)
    (hline : (Likeness.ofBody source source' first last).Closes number)
    (habove : (Statement.read line).opensFunction = true →
      (Likeness.ofBody source source' first last).Closes (number - 1))
    (hinclude : (Statement.read line).target? = none)
    (fetch fetch' : Text → Except ExtractError (List Symbol)) :
    (Likeness.ofBody source source' first last).Statements fetch fetch' number line line
      (Statement.read line) (Statement.read line) := by
  have hsame (part : Part) (column : Nat) (declaration : Text) (storage : Storage)
      (description : Text) (constant : Bool) :
      (Likeness.ofBody source source' first last).Variables
        (part.toVariable source number column declaration storage description constant none)
        (part.toVariable source' number column declaration storage description constant none) :=
    variables_ofBody_iff.2 (toVariable_eq hpath part column declaration storage description constant
      fun _ hclosing => nomatch hclosing)
  generalize Statement.read line = statement at habove hinclude
  cases statement with
  | includeFile target => cases hinclude
  | declare keyword list column =>
    exact .declare rfl fun declarator => List.forall₂_same.2 fun place _ => ⟨rfl, hsame ..⟩
  | openLoop name suffix column closed =>
    refine .openLoop ?_ fun _ => hline
    cases Part.parse? (name ++ suffix) with
    | none => exact .none
    | some part =>
      refine .some fun slot => ⟨rfl, rfl, fun storage last hlast => variables_ofBody_iff.2 ?_⟩
      refine toVariable_eq hpath part column _ storage _ false fun last' heq => ?_
      cases heq
      exact hlast
  | closeLoop => exact .closeLoop hline
  | assign name sign column =>
    refine .assign rfl ?_
    cases Part.parse? (name ++ sign) with
    | none => exact .none
    | some part => exact .some (hsame ..)
  | documentParameter text => exact .documentParameter fun doc doc' hdoc => by rw [hdoc]; rfl
  | documentExample text => exact .documentExample fun doc doc' hdoc => by rw [hdoc]; rfl
  | document text => exact .document fun doc doc' hdoc => by rw [hdoc]; rfl
  | closeFunction => exact .closeFunction hline
  | openFunction name suffix column parameters =>
    refine .openFunction (habove rfl) fun doc doc' hdoc => ?_
    cases hdoc
    refine ⟨rfl, hline, ?_, .nil, fun locals locals' last' hlocals hlast => ?_⟩
    · cases parameters with
      | none => exact .nil
      | some found =>
        refine forall₂_addLocated (fun known known' key hknown => declaresKey_congr
          (hknown.imp fun _ _ hvariables => hvariables.countsAs) key)
          (List.forall₂_same.2 fun place _ => ?_) .nil
        exact ⟨rfl, hsame ..⟩
    · cases forall₂_variables_ofBody_iff.1 hlocals
      simp only [FunctionDraft.finish, FunctionDraft.fresh, List.length_nil,
        FunctionDraft.closeLoops]
      rw [hpath, block_eq number hlast]
      rfl
  | closeType => exact .closeType
  | openType name column =>
    refine .openType ⟨rfl, .nil, fun fields fields' last' hfields => ?_⟩
    cases forall₂_variables_ofBody_iff.1 hfields
    exact same_typeFinish_ofBody hpath _ last'
  | declareFields list column =>
    exact .declareFields (List.forall₂_same.2 fun place _ => ⟨rfl, hsame ..⟩)
  | label name column =>
    refine .label ?_
    unfold Label.at
    rw [hpath]
    rfl
  | other => exact .other

end Unchanged

/-! ## The function whose body differs -/

/-- The function without what it owns. -/
def FunctionDraft.bare (f : FunctionDraft) : FunctionDraft :=
  { f with locals := [], loops := [] }

/-- Two open functions of line `first` count as the same, but for what they own. -/
def SameButOwned (source source' : Source) (first last : Nat) (f g : FunctionDraft) : Prop :=
  f.line = first ∧ (Likeness.ofBody source source' first last).Functions f.bare g.bare

section Inside

variable {source source' : Source} {first last number : Nat} {line line' : Text}
  {f g : FunctionDraft} {draft draft' next next' : Draft}

/-- Functions that count as the same do so whatever they own. -/
theorem SameButOwned.of_functions (hline : f.line = first)
    (h : (Likeness.ofBody source source' first last).Functions f g) :
    SameButOwned source source' first last f g :=
  ⟨hline, h.line, h.closes, .nil, .nil, h.same⟩

/-- The locals of a function of line `first` that ends on line `last` are left out. -/
theorem outsideBody_finish (hline : f.line = first) (changed : Int → Bool) :
    (Symbol.ofFunction (f.finish source last)).outsideBody first last changed =
      (Symbol.ofFunction (f.bare.finish source last)).outsideBody first last changed := by
  rw [f.finish_eq]
  simp only [Symbol.outsideBody, FunctionDraft.finish, FunctionDraft.bare, FunctionDraft.closeLoops,
    List.length_nil, Source.block, hline, and_self, if_true]

/-- Functions that count as the same, but for what they own, count as the same when they end on line
`last`. -/
theorem SameButOwned.finish (h : SameButOwned source source' first last f g)
    (hlast : source.lines[last]? = source'.lines[last]?) :
    (Likeness.ofBody source source' first last).Same (.ofFunction (f.finish source last))
      (.ofFunction (g.finish source' last)) := by
  obtain ⟨hline, hbare⟩ := h
  have hline' : g.line = first := hbare.line.symm.trans hline
  have hsame := hbare.finish hlast
  change Symbol.outsideBody _ _ _ _ = Symbol.outsideBody _ _ _ _
  rw [outsideBody_finish hline, outsideBody_finish hline']
  exact hsame

/-- The drafts outside the body of the function: they are alike. -/
abbrev DraftsOutside (source source' : Source) (first last : Nat) : Draft → Draft → Prop :=
  (Likeness.ofBody source source' first last).Drafts
    (Likeness.ofBody source source' first last).Functions

/-- The drafts in the body of the function: they are alike but for what the open function owns. -/
structure DraftsInside (source source' : Source) (first last : Nat) (draft draft' : Draft) :
    Prop where
  /-- They are alike. -/
  alike : (Likeness.ofBody source source' first last).Drafts
    (SameButOwned source source' first last) draft draft'
  /-- The function is open. -/
  isSome : draft.openFunction.isSome = true

/-- Whatever a function comes to own, the drafts are alike but for that. -/
theorem DraftsInside.withOwned (h : DraftsInside source source' first last draft draft')
    (hf : draft.openFunction = some f) (hg : draft'.openFunction = some g)
    (locals locals' : List Variable) (loops loops' : List OpenLoop) :
    DraftsInside source source' first last
      { draft with openFunction := some { f with locals, loops } }
      { draft' with openFunction := some { g with locals := locals', loops := loops' } } := by
  have hopened := h.alike.openFunction
  rw [hf, hg] at hopened
  cases hopened with
  | some hsame =>
    exact ⟨⟨h.alike.symbols, h.alike.openType, .some hsame, h.alike.doc, h.alike.loops⟩, rfl⟩

/-- A statement inside a function is no include. -/
theorem target?_of_isInner {statement : Statement} (h : statement.isInner = true) :
    statement.target? = none := by
  cases statement with
  | includeFile => cases h
  | _ => rfl

/-- Lines that may stand in one place of the body keep the drafts alike. -/
theorem DraftsInside.afterLine (h : DraftsInside source source' first last draft draft')
    (hpath : source.path = source'.path) (hline : source.lines[number]? = some line)
    (hline' : source'.lines[number]? = some line') (hsame : Line.SameOutside line line')
    (hinclude : (Statement.read line).target? = none)
    {fetch fetch' : Text → Except ExtractError (List Symbol)}
    (hnext : draft.afterLine source fetch (line, number) = .ok next)
    (hnext' : draft'.afterLine source' fetch' (line', number) = .ok next') :
    DraftsInside source source' first last next next' := by
  unfold Draft.afterLine at hnext hnext'
  dsimp only at hnext hnext'
  rw [hinclude] at hnext
  have hinside (hinner : (Statement.read line).isInner = true)
      (hinner' : (Statement.read line').isInner = true) :
      DraftsInside source source' first last next next' := by
    rw [target?_of_isInner hinner'] at hnext'
    obtain ⟨hf, -⟩ | ⟨f, g, hf, hg, -⟩ := cases_of_rel h.alike.openFunction
    · have habsurd := h.isSome
      rw [hf] at habsurd
      cases habsurd
    · obtain ⟨locals, loops, rfl⟩ := Draft.exists_step_eq_of_isInner hf hinner hnext
      obtain ⟨locals', loops', rfl⟩ := Draft.exists_step_eq_of_isInner hg hinner' hnext'
      exact h.withOwned hf hg locals locals' loops loops'
  rcases hsame with ⟨rfl, hbounds⟩ | ⟨hinner, hinner'⟩
  · cases hinner : (Statement.read line).isInner with
    | true => exact hinside hinner hinner
    | false =>
      -- the line says something around functions, and the same in both files
      rw [hinclude] at hnext'
      have hopens : (Statement.read line).opensFunction = false :=
        (Bool.or_eq_false_iff.1 hbounds).1
      have hstatements : (Likeness.ofBody source source' first last).Statements fetch fetch' number
          line line (Statement.read line) (Statement.read line) :=
        statements_unchanged hpath (hline.trans hline'.symm)
          (fun habsurd => by rw [hopens] at habsurd; cases habsurd) hinclude fetch fetch'
      refine ⟨h.alike.stepAround hstatements hinner hbounds hnext hnext', ?_⟩
      rw [Draft.openFunction_step hinner hbounds hnext]
      exact h.isSome
  · exact hinside hinner hinner'

/-! ## Runs over lines -/

/-- Drafts behind an open function of line `first` are alike but for what the function owns. -/
theorem DraftsInside.of_openFunction
    (h : DraftsOutside source source' first last draft draft')
    (hf : draft.openFunction = some f) (hline : f.line = first) :
    DraftsInside source source' first last draft draft' := by
  refine ⟨⟨h.symbols, h.openType, ?_, h.doc, h.loops⟩, by rw [hf]; rfl⟩
  have hfunctions := h.openFunction
  rw [hf] at hfunctions ⊢
  cases hg : draft'.openFunction with
  | none => rw [hg] at hfunctions; cases hfunctions
  | some g =>
    rw [hg] at hfunctions
    cases hfunctions with
    | some hsame => exact .some (.of_functions hline hsame)

variable {fetch fetch' : Text → Except ExtractError (List Symbol)} {start : Nat}

/-- Lines that are the same keep the drafts alike. -/
theorem DraftsOutside.foldlM {lines : List Text}
    (h : DraftsOutside source source' first last draft draft') (hpath : source.path = source'.path)
    (hsame : ∀ number, start ≤ number → number < start + lines.length →
      source.lines[number]? = source'.lines[number]? ∧
        source.lines[number - 1]? = source'.lines[number - 1]?)
    (hincludes : ∀ line ∈ lines, (Statement.read line).target? = none)
    (hnext : (lines.zipIdx start).foldlM (fun draft => draft.afterLine source fetch) draft =
      .ok next)
    (hnext' : (lines.zipIdx start).foldlM (fun draft => draft.afterLine source' fetch') draft' =
      .ok next') :
    DraftsOutside source source' first last next next' := by
  refine rel_foldlM_zipIdx (R := fun _ => DraftsOutside source source' first last) rfl
    (fun index line line' _ _ _ _ hline hline' halike hstep hstep' => ?_) h hnext hnext'
  cases hline.symm.trans hline'
  obtain ⟨hindex, -⟩ := List.getElem?_eq_some_iff.1 hline
  obtain ⟨hcloses, habove⟩ := hsame (start + index) (by omega) (by omega)
  exact halike.afterLine (statements_unchanged hpath hcloses (fun _ => habove)
    (hincludes line (List.mem_of_getElem? hline)) fetch fetch') hstep hstep'

/-- The lines of two bodies keep the drafts alike but for what the open function owns. -/
theorem DraftsInside.foldlM {body body' : List Text}
    (h : DraftsInside source source' first last draft draft') (hpath : source.path = source'.path)
    (hbody : List.Forall₂ Line.SameOutside body body')
    (hlines : ∀ index line, body[index]? = some line → source.lines[start + index]? = some line)
    (hlines' : ∀ index line, body'[index]? = some line → source'.lines[start + index]? = some line)
    (hincludes : ∀ line ∈ body, (Statement.read line).target? = none)
    (hnext : (body.zipIdx start).foldlM (fun draft => draft.afterLine source fetch) draft =
      .ok next)
    (hnext' : (body'.zipIdx start).foldlM (fun draft => draft.afterLine source' fetch') draft' =
      .ok next') :
    DraftsInside source source' first last next next' := by
  refine rel_foldlM_zipIdx (R := fun _ => DraftsInside source source' first last)
    hbody.length_eq (fun index line line' _ _ _ _ hline hline' hdrafts hstep hstep' => ?_)
    h hnext hnext'
  obtain ⟨hindex, hget⟩ := List.getElem?_eq_some_iff.1 hline
  obtain ⟨hindex', hget'⟩ := List.getElem?_eq_some_iff.1 hline'
  have hsame : Line.SameOutside line line' := hget ▸ hget' ▸ hbody.get hindex hindex'
  exact hdrafts.afterLine hpath (hlines index line hline) (hlines' index line' hline') hsame
    (hincludes line (List.mem_of_getElem? hline)) hstep hstep'

end Inside

/-! ## Two documents -/

/-- A run over the lines in front of a body, the body and the lines behind it is one run after the
other. -/
theorem exists_of_foldlM_body {σ ε : Type} {step : σ → Text × Nat → Except ε σ}
    {before body after : List Text} {opening closing : Text} {start stop : σ}
    (h : (before ++ opening :: (body ++ closing :: after)).zipIdx.foldlM step start = .ok stop) :
    ∃ outside inside behind rest, before.zipIdx.foldlM step start = .ok outside ∧
      step outside (opening, before.length) = .ok inside ∧
      (body.zipIdx (before.length + 1)).foldlM step inside = .ok behind ∧
      step behind (closing, before.length + 1 + body.length) = .ok rest ∧
      (after.zipIdx (before.length + 1 + body.length + 1)).foldlM step rest = .ok stop := by
  rw [List.zipIdx_append, List.foldlM_append] at h
  obtain ⟨outside, houtside, h⟩ := exists_of_bind_eq_ok h
  rw [Nat.zero_add, List.zipIdx_cons, List.foldlM_cons] at h
  obtain ⟨inside, hinside, h⟩ := exists_of_bind_eq_ok h
  rw [List.zipIdx_append, List.foldlM_append] at h
  obtain ⟨behind, hbehind, h⟩ := exists_of_bind_eq_ok h
  rw [List.zipIdx_cons, List.foldlM_cons] at h
  obtain ⟨rest, hrest, h⟩ := exists_of_bind_eq_ok h
  exact ⟨outside, inside, behind, rest, houtside, hinside, hbehind, hrest, h⟩

section Documents

variable {before body body' after : List Text} {opening closing : Text} {number index : Nat}

/-- The lines around a body are the same. -/
theorem getElem?_around_body (hlength : body.length = body'.length)
    (hnumber : number ≤ before.length ∨ before.length + 1 + body.length ≤ number) :
    (before ++ opening :: (body ++ closing :: after))[number]? =
      (before ++ opening :: (body' ++ closing :: after))[number]? := by
  have hfront : (before ++ [opening]).length = before.length + 1 := List.length_append
  have hsplit (middle : List Text) : before ++ opening :: (middle ++ closing :: after) =
      (before ++ [opening]) ++ (middle ++ closing :: after) := List.append_cons ..
  rw [hsplit, hsplit]
  rcases hnumber with hle | hge
  · have hlt : number < (before ++ [opening]).length := by omega
    rw [List.getElem?_append_left hlt, List.getElem?_append_left hlt]
  · rw [List.getElem?_append_right (by omega), List.getElem?_append_right (by omega),
      List.getElem?_append_right (by omega), List.getElem?_append_right (by omega), hlength]

/-- The lines of a body stand behind the line that opens the function. -/
theorem getElem?_body {line : Text} (h : body[index]? = some line) :
    (before ++ opening :: (body ++ closing :: after))[before.length + 1 + index]? = some line := by
  have hfront : (before ++ [opening]).length = before.length + 1 := List.length_append
  obtain ⟨hindex, -⟩ := List.getElem?_eq_some_iff.1 h
  rw [List.append_cons, List.getElem?_append_right (by omega), hfront, Nat.add_sub_cancel_left,
    List.getElem?_append_left hindex, h]

/-- A line that opens a function leaves it open. -/
theorem openFunction_of_opensFunction {draft next : Draft} {source : Source} {line : Text}
    {fetch : Text → Except ExtractError (List Symbol)}
    (hopens : (Statement.read line).opensFunction = true)
    (hnext : draft.afterLine source fetch (line, number) = .ok next) :
    ∃ f, next.openFunction = some f ∧ f.line = number := by
  unfold Draft.afterLine at hnext
  dsimp only at hnext
  cases hread : Statement.read line with
  | openFunction name suffix column parameters =>
    rw [hread] at hnext
    cases hnext
    rw [Draft.openFunctionAt_eq]
    exact ⟨_, rfl, rfl⟩
  | _ => rw [hread] at hopens; cases hopens

/-- Two files that differ in nothing but lines of the body of one function that may stand in one
place yield the same symbols, but for what the body tells. -/
theorem outcome_sameOutsideBody {source source' : Source} (hpath : source.path = source'.path)
    (hlines : source.lines = before ++ opening :: (body ++ closing :: after))
    (hlines' : source'.lines = before ++ opening :: (body' ++ closing :: after))
    (hbody : List.Forall₂ Line.SameOutside body body')
    (hopening : (Statement.read opening).opensFunction = true)
    (hclosing : Statement.read closing = .closeFunction)
    (hincludes : ∀ line ∈ source.lines, (Statement.read line).target? = none)
    {fetch fetch' : Text → Except ExtractError (List Symbol)} {found found' : List Symbol}
    (h : source.outcome fetch = .ok found) (h' : source'.outcome fetch' = .ok found') :
    List.Forall₂ (Likeness.ofBody source source' before.length
      (before.length + 1 + body.length)).Same found found' := by
  have hlength := hbody.length_eq
  have haround {number : Nat}
      (hnumber : number ≤ before.length ∨ before.length + 1 + body.length ≤ number) :
      source.lines[number]? = source'.lines[number]? := by
    rw [hlines, hlines', getElem?_around_body hlength hnumber]
  generalize hlast : before.length + 1 + body.length = last at haround ⊢
  have hlastLine : last ≤ source.lastLine ∧ source.lastLine = source'.lastLine := by
    have hcount : source.lines.length = last + 1 + after.length ∧
        source'.lines.length = last + 1 + after.length := by
      rw [hlines, hlines']
      simp only [List.length_append, List.length_cons]
      omega
    rw [Source.lastLine, Source.lastLine, hcount.1, hcount.2]
    omega
  -- no part of the document includes anything
  have hnone := hincludes
  rw [hlines, List.forall_mem_append, List.forall_mem_cons, List.forall_mem_append,
    List.forall_mem_cons] at hnone
  obtain ⟨hbeforeNone, hopeningNone, hbodyNone, -, hafterNone⟩ := hnone
  rw [Source.outcome] at h h'
  rw [hlines] at h
  rw [hlines'] at h'
  obtain ⟨draft, hdraft, hok⟩ := exists_of_bind_eq_ok h
  obtain ⟨draft', hdraft', hok'⟩ := exists_of_bind_eq_ok h'
  cases hok
  cases hok'
  obtain ⟨outside, inside, behind, rest, houtside, hinside, hbehind, hrest, hafter⟩ :=
    exists_of_foldlM_body hdraft
  obtain ⟨outside', inside', behind', rest', houtside', hinside', hbehind', hrest', hafter'⟩ :=
    exists_of_foldlM_body hdraft'
  rw [← hlength] at hrest' hafter'
  rw [hlast] at hrest hrest' hafter hafter'
  -- in front of the body
  have hfront : DraftsOutside source source' before.length last outside outside' :=
    .foldlM .empty hpath (fun _ _ _ => ⟨haround (by omega), haround (by omega)⟩) hbeforeNone
      houtside houtside'
  have hopened : DraftsOutside source source' before.length last inside inside' :=
    hfront.afterLine (statements_unchanged hpath (haround (by omega))
      (fun _ => haround (by omega)) hopeningNone fetch fetch') hinside hinside'
  -- in the body
  obtain ⟨f, hf, hfirst⟩ := openFunction_of_opensFunction hopening hinside
  have hstop : DraftsInside source source' before.length last behind behind' :=
    .foldlM (.of_openFunction hopened hf hfirst) hpath hbody
      (fun _ _ hline => by rw [hlines, getElem?_body hline])
      (fun _ _ hline => by rw [hlines', getElem?_body hline]) hbodyNone hbehind hbehind'
  -- behind the body
  have hclosed : DraftsOutside source source' before.length last rest rest' := by
    unfold Draft.afterLine at hrest hrest'
    rw [hclosing] at hrest hrest'
    cases hrest
    cases hrest'
    exact (hstop.alike.closeFunction fun f g _ hsame =>
      hsame.finish (haround (.inr (Nat.le_refl _)))).1
  have hbehindBody : DraftsOutside source source' before.length last draft draft' :=
    .foldlM hclosed hpath (fun _ _ _ => ⟨haround (by omega), haround (by omega)⟩) hafterNone
      hafter hafter'
  exact hbehindBody.finish (haround (.inr hlastLine.1)) hlastLine.2

end Documents

section Resembles

variable {first last : Nat} {changed : Int → Bool} {symbol symbol' : Symbol}

/-- What a body tells of a symbol does not matter to how it is referred to. -/
theorem Symbol.resembles_outsideBody (symbol : Symbol) :
    symbol.declared.Resembles (symbol.outsideBody first last changed).declared := by
  cases symbol with
  | ofFunction f =>
    rw [outsideBody]
    split <;> exact ⟨rfl, rfl, rfl, rfl, rfl⟩
  | ofType t =>
    rw [outsideBody]
    split <;> exact ⟨rfl, rfl, rfl, rfl, rfl⟩
  | _ => exact ⟨rfl, rfl, rfl, rfl, rfl⟩

/-- Symbols that count as the same have names that are referred to alike. -/
theorem resembles_of_outsideBody
    (h : symbol.outsideBody first last changed = symbol'.outsideBody first last changed) :
    symbol.declared.Resembles symbol'.declared := by
  have hsymbol : symbol.declared.Resembles (symbol.outsideBody first last changed).declared :=
    symbol.resembles_outsideBody
  have hsymbol' : symbol'.declared.Resembles (symbol'.outsideBody first last changed).declared :=
    symbol'.resembles_outsideBody
  rw [h] at hsymbol
  exact hsymbol.trans hsymbol'.symm

/-- A function that reaches over a line outside the body of another one tells its locals. -/
theorem outsideBody_ofFunction {f : Function} {number : Int}
    (hnumber : number < first ∨ last < number) (hcontains : f.scope.containsLine number = true) :
    (Symbol.ofFunction f).outsideBody first last changed = .ofFunction f := by
  rw [Symbol.outsideBody, if_neg]
  rintro ⟨hstart, hend⟩
  rw [Span.containsLine, Bool.and_eq_true, decide_eq_true_eq, decide_eq_true_eq, hstart,
    hend] at hcontains
  omega

/-- A type tells its fields. -/
theorem members_outsideBody_ofType (t : RecordType) :
    ((Symbol.ofType t).outsideBody first last changed).members = t.fields := by
  rw [Symbol.outsideBody]
  split <;> rfl

/-- Outside the lines of the function, symbols that count as the same are referred to alike. -/
theorem resemblesAt_of_outsideBody
    (h : symbol.outsideBody first last changed = symbol'.outsideBody first last changed)
    {number : Int} (hnumber : number < first ∨ last < number) :
    symbol.ResemblesAt number symbol' := by
  have hrefl (d : Declared) : d.Resembles d := ⟨rfl, rfl, rfl, rfl, rfl⟩
  have hvariables (found : List Variable) : List.Forall₂ Variable.Resembles found found :=
    List.forall₂_same.2 fun v _ => ⟨hrefl v.toDeclared, rfl, rfl⟩
  have hresembles := resembles_of_outsideBody h
  cases symbol with
  | ofVariable v =>
    cases symbol' with
    | ofVariable w =>
      cases Symbol.ofVariable.inj h
      exact .ofVariable ⟨hrefl v.toDeclared, rfl, rfl⟩
    | _ => cases h
  | ofFunction f =>
    cases symbol' with
    | ofFunction g =>
      refine .ofFunction hresembles fun hcontains => ?_
      -- the function reaches over another line, so its locals are the same
      rw [outsideBody_ofFunction hnumber hcontains, outsideBody_ofFunction hnumber
        (hresembles.containsLine number ▸ hcontains)] at h
      cases h
      exact hvariables f.locals
    | _ => cases h
  | ofType t =>
    cases symbol' with
    | ofType u =>
      have hfields := congrArg Symbol.members h
      rw [members_outsideBody_ofType, members_outsideBody_ofType] at hfields
      exact .ofType hresembles (hfields ▸ hvariables t.fields)
    | _ => cases h
  | ofLabel l =>
    cases symbol' with
    | ofLabel m => exact .ofLabel hresembles
    | _ => cases h

end Resembles

/-- Two documents without includes that differ in nothing but lines of the body of one function that
may stand in one place yield the same symbols, but for the locals of that function and for the end
columns of types that end on a changed line, and the same tokens outside the function. -/
theorem extract_sameOutsideBody {disk : Disk} {rules : IncludeRules} {path text text' : Text}
    {before body body' after : List Text} {opening closing : Text} {found found' : List Symbol}
    (hlines : text.lines = before ++ opening :: (body ++ closing :: after))
    (hlines' : text'.lines = before ++ opening :: (body' ++ closing :: after))
    (hopening : (Statement.read opening).opensFunction = true)
    (hclosing : Statement.read closing = .closeFunction)
    (hbody : List.Forall₂ Line.SameOutside body body')
    (hincludes : ∀ line ∈ text.lines, (Statement.read line).target? = none)
    (h : (extract disk rules path text).1 = .ok found)
    (h' : (extract disk rules path text').1 = .ok found') :
    let first := before.length
    let last := before.length + 1 + body.length
    let outside (token : Token) : Bool := token.line < first || last < token.line
    found.map (Symbol.outsideBody first last (differOn text.lines text'.lines)) =
        found'.map (Symbol.outsideBody first last (differOn text.lines text'.lines)) ∧
      ∃ tokens tokens', Highlight.tokens found path text.lines = .ok tokens ∧
        Highlight.tokens found' path text'.lines = .ok tokens' ∧
        tokens.filter outside = tokens'.filter outside := by
  intro first last outside
  have hlength : text.lines.length = text'.lines.length := by
    rw [hlines, hlines']
    simp only [List.length_append, List.length_cons, hbody.length_eq]
  rw [extract_fst, Visit.outcome_eq] at h h'
  have hpath : (Source.ofText path text).path = (Source.ofText path text').path := rfl
  have halike : List.Forall₂ (Likeness.ofBody (.ofText path text) (.ofText path text') first
      last).Same found found' :=
    outcome_sameOutsideBody hpath hlines hlines' hbody hopening hclosing hincludes h h'
  refine ⟨?_, ?_⟩
  · rw [← List.forall₂_eq_eq_eq, List.forall₂_map_left_iff, List.forall₂_map_right_iff]
    exact halike
  · refine Highlight.exists_tokens path hlength (fun number => number < first || last < number)
      fun number line line' hline hline' hkeep => ?_
    rw [Bool.or_eq_true, decide_eq_true_eq, decide_eq_true_eq] at hkeep
    refine ⟨halike.imp fun _ _ hsame => resemblesAt_of_outsideBody hsame hkeep, ?_⟩
    -- outside the function the lines are the same
    have hsame : text.lines[number]? = text'.lines[number]? := by
      rw [hlines, hlines', getElem?_around_body hbody.length_eq]
      omega
    cases hline.symm.trans (hsame.trans hline')
    exact List.forall₂_same.2 fun word _ => ⟨rfl, rfl, rfl, fun _ => rfl⟩

/-- The body of a function has a loop and a `Next` too many or declares two variables and leaves a
loop open. -/
theorem extract_sameOutsideBody_unbalanced :
    let disk := Disk.ofFile "lib.bb" [] 1
    let rules : IncludeRules := ⟨[], true, 2⟩
    let before : List Text := ["For i = 1 To 3", "Type P", "Field x"]
    let opening : Text := "Function f(a)"
    let body : List Text := ["For x = 1 To 2", ";; kept", "Next: Next", "Type Q"]
    let body' : List Text := ["Local i, a = 5", ";; kept", "For a = i To 9", "Type Q"]
    let closing : Text := "End Function"
    let after : List Text := ["Next", "i = x"]
    let text := Text.joinWith ['\n'] (before ++ opening :: (body ++ closing :: after))
    let text' := Text.joinWith ['\n'] (before ++ opening :: (body' ++ closing :: after))
    let outside (token : Token) : Bool := token.line < 3 || 8 < token.line
    List.Forall₂ Line.SameOutside body body' ∧ ∃ found found',
      (extract disk rules "main.bb" text).1 = .ok found ∧
      (extract disk rules "main.bb" text').1 = .ok found' ∧
      found.map (Symbol.outsideBody 3 8 (differOn text.lines text'.lines)) =
        found'.map (Symbol.outsideBody 3 8 (differOn text.lines text'.lines)) ∧
      ∃ tokens tokens', Highlight.tokens found "main.bb" text.lines = .ok tokens ∧
        Highlight.tokens found' "main.bb" text'.lines = .ok tokens' ∧
        tokens.filter outside = tokens'.filter outside := by
  intro disk rules before opening body body' closing after text text' outside
  have hlines : text.lines = before ++ opening :: (body ++ closing :: after) := by decide +kernel
  have hlines' : text'.lines = before ++ opening :: (body' ++ closing :: after) := by
    decide +kernel
  have hopening : (Statement.read opening).opensFunction = true := by decide +kernel
  have hclosing : Statement.read closing = .closeFunction := by decide +kernel
  have hbody : List.Forall₂ Line.SameOutside body body' := by decide +kernel
  have hincludes : ∀ line ∈ text.lines, (Statement.read line).target? = none := by
    decide +kernel
  have hok : (extract disk rules "main.bb" text).1.isOk = true ∧
      (extract disk rules "main.bb" text').1.isOk = true := by decide +kernel
  obtain ⟨found, hfound⟩ := exists_eq_ok_of_isOk hok.1
  obtain ⟨found', hfound'⟩ := exists_eq_ok_of_isOk hok.2
  exact ⟨hbody, found, found', hfound, hfound', extract_sameOutsideBody hlines hlines' hopening
    hclosing hbody hincludes hfound hfound'⟩

/-- A type ends on a line in the body of a function: with `xy` for `x` on that line, its region ends
one column later. -/
theorem extract_typeEndsInBody :
    let disk := Disk.ofFile "lib.bb" [] 1
    let rules : IncludeRules := ⟨[], true, 2⟩
    let opening : Text := "Function f()"
    let body : List Text := ["Type A", "x", "Type B", "End Type"]
    let body' : List Text := ["Type A", "xy", "Type B", "End Type"]
    let closing : Text := "End Function"
    let text := Text.joinWith ['\n'] (opening :: (body ++ [closing]))
    let text' := Text.joinWith ['\n'] (opening :: (body' ++ [closing]))
    text.lines = opening :: (body ++ [closing]) ∧ text'.lines = opening :: (body' ++ [closing]) ∧
      (Statement.read opening).opensFunction = true ∧
      Statement.read closing = .closeFunction ∧
      List.Forall₂ Line.SameOutside body body' ∧
      (∀ line ∈ text.lines, (Statement.read line).target? = none) ∧
      ∃ found found', (extract disk rules "main.bb" text).1 = .ok found ∧
        (extract disk rules "main.bb" text').1 = .ok found' ∧
        found.map (Symbol.outsideBody 0 5 fun _ => false) ≠
          found'.map (Symbol.outsideBody 0 5 fun _ => false) := by
  intro disk rules opening body body' closing text text'
  have hlines : text.lines = opening :: (body ++ [closing]) := by decide +kernel
  have hlines' : text'.lines = opening :: (body' ++ [closing]) := by decide +kernel
  have hopening : (Statement.read opening).opensFunction = true := by decide +kernel
  have hclosing : Statement.read closing = .closeFunction := by decide +kernel
  have hbody : List.Forall₂ Line.SameOutside body body' := by decide +kernel
  have hincludes : ∀ line ∈ text.lines, (Statement.read line).target? = none := by
    decide +kernel
  have hok : (extract disk rules "main.bb" text).1.isOk = true ∧
      (extract disk rules "main.bb" text').1.isOk = true := by decide +kernel
  have hne : (extract disk rules "main.bb" text).1.toOption.map
        (List.map (Symbol.outsideBody 0 5 fun _ => false)) ≠
      (extract disk rules "main.bb" text').1.toOption.map
        (List.map (Symbol.outsideBody 0 5 fun _ => false)) := by decide +kernel
  obtain ⟨found, hfound⟩ := exists_eq_ok_of_isOk hok.1
  obtain ⟨found', hfound'⟩ := exists_eq_ok_of_isOk hok.2
  rw [hfound, hfound'] at hne
  exact ⟨hlines, hlines', hopening, hclosing, hbody, hincludes, found, found', hfound, hfound',
    fun heq => hne (congrArg some heq)⟩

end BlitzLens
