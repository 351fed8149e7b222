import BlitzLens.Extraction.Step
import BlitzLens.Proofs.Extraction.Parts

/-!
# What a line declares

The variables, functions, types and labels that one line makes, each as a function of the line and
of the part that it spells, and the steps of a draft restated in these terms. Whether a name is
declared already is then the only thing that a step asks the draft before it.
-/

namespace BlitzLens

/-- The variable that a part of a declaration list makes. -/
def Declarator.build (declarator : Declarator) (source : Source) (number : Nat) (line : Text)
    (part : Part) (start : Nat) : Variable :=
  part.toVariable source number start (declarator.word ++ " " ++ part.text) declarator.storage
    (Line.trailingComment line) (declarator == .ofConst) none

namespace Part

/-- The parameter that a part makes. -/
def toParameter (source : Source) (number : Nat) (part : Part) (start : Nat) : Variable :=
  part.toVariable source number start part.text .parameter [] false none

/-- The field that a part makes. -/
def toField (source : Source) (number : Nat) (line : Text) (part : Part) (start : Nat) : Variable :=
  part.toVariable source number start ("Field " ++ part.text) .field (Line.trailingComment line)
    false none

/-- The local variable that an assignment makes. -/
def toAssigned (source : Source) (number : Nat) (line : Text) (column : Nat) (part : Part) :
    Variable :=
  part.toVariable source number column ("Local " ++ part.text) .localVar
    (Line.trailingComment line) false none

/-- The iterator of a loop over a part. -/
def toIterator (number : Nat) (line : Text) (column slot : Nat) (part : Part) : OpenIterator :=
  { part, line := number, column, description := Line.trailingComment line, slot }

end Part

/-- The function that a line opens. -/
def FunctionDraft.fresh (source : Source) (number : Nat) (line name suffix : Text) (column : Nat)
    (parameters : Option (Text × Nat)) (doc : DocBlock) : FunctionDraft :=
  { name, line := number, column, suffix, doc
    declaration := Text.trim (Line.code line)
    locals := match parameters with
      | none => []
      | some (list, start) => addLocated (Part.toParameter source number) declaresKey []
        (locateParts line start (Part.parseList list))
    loops := [] }

/-- The type that a line opens. -/
def TypeDraft.fresh (number : Nat) (line name : Text) (column : Nat) : TypeDraft :=
  { name, line := number, column, fields := [], declaration := Text.trim (Line.code line) }

/-- The label that a line sets. -/
def Label.at (source : Source) (number : Nat) (line name : Text) (column : Nat) : Label :=
  let range := Span.onLine number column (column + name.length : Nat)
  { name, key := name.lower, path := source.path, declaration := Text.trim (Line.code line), range
    scope := range, guard := .label, description := [] }

namespace Draft

variable {draft : Draft} {source : Source} {number column : Nat} {line list name suffix sign : Text}
  {parameters : Option (Text × Nat)} {declarator : Declarator} {f : FunctionDraft} {t : TypeDraft}

/-- Inside a function, a declaration adds to its locals. -/
theorem declare_of_some (hf : draft.openFunction = some f) :
    draft.declare source number line declarator list column =
      { draft with openFunction := some { f with
          locals := addLocated (declarator.build source number line) declaresKey f.locals
            (locateParts line column (Part.parseList list)) } } := by
  simp only [declare, hf, addParts_eq]
  rfl

/-- Outside functions, a declaration adds to the symbols. -/
theorem declare_of_none (hf : draft.openFunction = none) :
    draft.declare source number line declarator list column =
      { draft with symbols := draft.symbols ++
          (addLocated (declarator.build source number line)
            (fun found key => declaresKey (topVariables draft.symbols ++ found) key) []
            (locateParts line column (Part.parseList list))).map .ofVariable } := by
  simp only [declare, hf, addParts_eq]
  rfl

/-- Inside a function, a loop is one of the function. -/
theorem openLoop_of_some (hf : draft.openFunction = some f) :
    draft.openLoop number line name suffix column =
      { draft with openFunction := some { f with
          loops := (draft.loopPart? (name ++ suffix)).map
            (Part.toIterator number line column f.locals.length) :: f.loops } } := by
  simp only [openLoop, hf]
  rfl

/-- Outside functions, a loop is one of the top level. -/
theorem openLoop_of_none (hf : draft.openFunction = none) :
    draft.openLoop number line name suffix column =
      { draft with
        loops := (draft.loopPart? (name ++ suffix)).map
          (Part.toIterator number line column draft.symbols.length) :: draft.loops } := by
  simp only [openLoop, hf]
  rfl

/-- Whether a loop over a key has no iterator, as a variable with the key is declared already. -/
def shadows (draft : Draft) (key : Text) : Bool :=
  match draft.openFunction with
  | some f => declaresKey f.locals key
  | none => declaresTop draft.symbols key (some .localVar)

/-- The part that a loop names is the one that is spelled, unless a variable shadows it. -/
theorem loopPart?_eq (draft : Draft) (text : Text) :
    draft.loopPart? text = (Part.parse? text).filter fun part => !draft.shadows part.key := by
  rw [loopPart?]
  cases Part.parse? text with
  | none => rfl
  | some part =>
    change (if draft.shadows part.key then none else some part) = _
    by_cases h : draft.shadows part.key <;> simp [h, Option.filter_some]

/-- The open function, if there is one, is closed in front of a line that opens another one. A
function without an end stops on the line above, but not before its own line. -/
def endFunction (draft : Draft) (source : Source) (number : Nat) : Draft :=
  match draft.openFunction with
  | some f => draft.closeFunction source (max (number - 1) f.line)
  | none => draft

/-- A function is opened when the one before it is closed. -/
theorem openFunctionAt_eq :
    draft.openFunctionAt source number line name suffix column parameters =
      { draft.endFunction source number with
        doc := .empty
        openFunction := some (.fresh source number line name suffix column parameters
          (draft.endFunction source number).doc) } := by
  cases parameters <;> simp only [openFunctionAt, addParts_eq] <;> rfl

/-- A declaration of fields adds to the open type. -/
theorem declareFields_of_some (ht : draft.openType = some t) :
    draft.declareFields source number line list column =
      { draft with openType := some { t with
          fields := addLocated (Part.toField source number line)
            (fun found key => found.any fun v => v.key == key) t.fields
            (locateParts line column (Part.parseList list)) } } := by
  simp only [declareFields, ht, addParts_eq]
  rfl

end Draft

/-! ## Statements inside a function -/

namespace Statement

/-- Whether a statement changes no more than the function that is open: it declares or assigns
variables, opens or closes a loop, or declares nothing. -/
def isInner : Statement → Bool
  | declare .. => true
  | openLoop .. => true
  | closeLoop => true
  | assign .. => true
  | other => true
  | _ => false

/-- Whether a statement opens a function. -/
def opensFunction : Statement → Bool
  | openFunction .. => true
  | _ => false

/-- Whether a statement opens or closes a function. -/
def boundsFunction (statement : Statement) : Bool :=
  statement.opensFunction || statement == closeFunction

end Statement

namespace Draft

variable {draft next : Draft} {source : Source} {number : Nat} {line : Text} {statement : Statement}
  {f : FunctionDraft}

/-- A declaration succeeds if its keyword is known. -/
theorem step_declare_eq_ok_iff {keyword list : Text} {column : Nat} :
    draft.step source number line (.declare keyword list column) = .ok next ↔
      ∃ declarator, Declarator.ofKeyword? keyword.lower = some declarator ∧
        draft.declare source number line declarator list column = next := by
  rw [step]
  cases Declarator.ofKeyword? keyword.lower <;> simp

/-- A statement inside a function changes nothing but what the function owns. -/
theorem exists_step_eq_of_isInner (hf : draft.openFunction = some f)
    (hinner : statement.isInner = true)
    (hnext : draft.step source number line statement = .ok next) :
    ∃ locals loops, next = { draft with openFunction := some { f with locals, loops } } := by
  have hclose (g : FunctionDraft) :
      ∃ locals loops, g.closeLoop source number = { g with locals, loops } := by
    unfold FunctionDraft.closeLoop
    split <;> exact ⟨_, _, rfl⟩
  cases statement with
  | declare keyword list column =>
    obtain ⟨declarator, -, rfl⟩ := step_declare_eq_ok_iff.1 hnext
    exact ⟨_, _, declare_of_some hf⟩
  | openLoop name suffix column closed =>
    rw [step, openLoop_of_some hf] at hnext
    cases hnext
    split
    · obtain ⟨locals, loops, hclosed⟩ := hclose { f with
        loops := (draft.loopPart? (name ++ suffix)).map
          (Part.toIterator number line column f.locals.length) :: f.loops }
      refine ⟨locals, loops, ?_⟩
      rw [closeLoop]
      dsimp only
      rw [hclosed]
    · exact ⟨_, _, rfl⟩
  | closeLoop =>
    cases hnext
    obtain ⟨locals, loops, hclosed⟩ := hclose f
    refine ⟨locals, loops, ?_⟩
    rw [closeLoop, hf]
    dsimp only
    rw [hclosed]
  | assign name sign column =>
    have hsame : draft = { draft with openFunction := some f } := by rw [← hf]
    cases hnext
    unfold assign
    split
    · exact ⟨f.locals, f.loops, hsame⟩
    · split
      · exact ⟨f.locals, f.loops, hsame⟩
      · rw [hf]
        exact ⟨_, _, rfl⟩
  | other =>
    cases hnext
    refine ⟨f.locals, f.loops, ?_⟩
    rw [← hf]
  | _ => cases hinner

/-- A statement around functions leaves the function that is open as it is. -/
theorem openFunction_step (hinner : statement.isInner = false)
    (hbounds : statement.boundsFunction = false)
    (hnext : draft.step source number line statement = .ok next) :
    next.openFunction = draft.openFunction := by
  have hclose (last : Nat) : (draft.closeType source last).openFunction = draft.openFunction := by
    unfold closeType
    split <;> rfl
  cases statement with
  | declare | openLoop | closeLoop | assign | other => cases hinner
  | openFunction | closeFunction => cases hbounds
  | closeType =>
    cases hnext
    exact hclose number
  | openType name column =>
    cases hnext
    unfold openTypeAt
    cases draft.openType with
    | none => rfl
    | some t => exact hclose _
  | declareFields list column =>
    cases hnext
    unfold declareFields
    split <;> rfl
  | _ => cases hnext; rfl

end Draft

end BlitzLens
