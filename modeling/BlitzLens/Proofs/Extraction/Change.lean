import BlitzLens.Proofs.Extraction.Names
import BlitzLens.Proofs.Extraction.Placement

/-!
# What a line can do to a draft

A line that is no include changes the draft of its file in one of a few ways, which `Draft.Change`
lists with the statement that asks for them. What a line declares is reduced to its places and its
names there: new variables stand on the line from left to right (`ListedOn`) and have new keys
(`Introduces`), and a new loop stands on the line as well (`OpenLoop.OpenedOn`). An invariant of
drafts that speaks of places and names alone needs one case for each way, because every step is one
of them (`Draft.change_of_step`).
-/

namespace BlitzLens

/-- Variables that one line declares, from left to right; none of them is a loop iterator. -/
structure ListedOn (number : Nat) (added : List Variable) : Prop where
  /-- Every variable stands on the line. -/
  startLine : ∀ v ∈ added, v.range.startLine = number
  /-- No variable is a loop iterator. -/
  isIterator : ∀ v ∈ added, v.isIterator = false
  /-- Every variable stands to the left of the next. -/
  increasing : added.Pairwise fun v w => v.range.startCol < w.range.startCol

/-- A loop is opened on a line, and its iterator, if it has one, will take a given place. -/
def OpenLoop.OpenedOn (number slot : Nat) (loop : OpenLoop) : Prop :=
  ∀ iterator, loop = some iterator → iterator.line = number ∧ iterator.slot = slot

/-- The open type, if there is one, is closed in front of a line that opens another one. A type
without an end stops on the line above, but not before its own line. -/
def Draft.endType (draft : Draft) (source : Source) (number : Nat) : Draft :=
  match draft.openType with
  | some t => draft.closeType source (max (number - 1) t.line)
  | none => draft

/-- Whether a statement neither opens nor closes a loop or a function. -/
def Statement.isPlain : Statement → Bool
  | openLoop .. => false
  | closeLoop => false
  | openFunction .. => false
  | closeFunction => false
  | _ => true

/-- The named parts of the list of variables or of parameters that a statement declares. -/
def Statement.declaredParts : Statement → List Part
  | declare _ list _ => Part.parseList list
  | openFunction _ _ _ (some (list, _)) => Part.parseList list
  | _ => []

/-- The ways in which a statement changes the draft of its file on a line. -/
inductive Draft.Change (source : Source) (number : Nat) (draft : Draft) : Statement → Draft → Prop
  /-- At most the waiting documentation changes. -/
  | remark {statement : Statement} (hplain : statement.isPlain = true)
      (hparts : statement.declaredParts = []) (doc : DocBlock) :
      Change source number draft statement { draft with doc }
  /-- Variables are declared in the open function. -/
  | locals {statement : Statement} {f : FunctionDraft} {added : List Variable}
      (hplain : statement.isPlain = true) (hf : draft.openFunction = some f)
      (hadded : ListedOn number added)
      (hnew : Introduces statement.declaredParts (lasting f.locals) added) :
      Change source number draft statement
        { draft with openFunction := some { f with locals := f.locals ++ added } }
  /-- Variables are declared outside functions. -/
  | topVariables {statement : Statement} {added : List Variable} (hplain : statement.isPlain = true)
      (hf : draft.openFunction = none) (hadded : ListedOn number added)
      (hnew : Introduces statement.declaredParts (lasting (topVariables draft.symbols)) added) :
      Change source number draft statement
        { draft with symbols := draft.symbols ++ added.map .ofVariable }
  /-- A label is set. -/
  | label {statement : Statement} {l : Label} (hplain : statement.isPlain = true)
      (hparts : statement.declaredParts = []) (hline : l.range.startLine = number) :
      Change source number draft statement { draft with symbols := draft.symbols ++ [.ofLabel l] }
  /-- Fields are declared in the open type. -/
  | fields {statement : Statement} {t : TypeDraft} {added : List Variable}
      (hplain : statement.isPlain = true) (hparts : statement.declaredParts = [])
      (ht : draft.openType = some t) (hadded : ListedOn number added)
      (hnew : Introduces [] t.fields added) :
      Change source number draft statement
        { draft with openType := some { t with fields := t.fields ++ added } }
  /-- The open type is closed. -/
  | endType : Change source number draft .closeType (draft.closeType source number)
  /-- A type is opened. -/
  | newType {name : Text} {column : Nat} {t : TypeDraft} (doc : DocBlock) (hline : t.line = number)
      (hfields : t.fields = []) :
      Change source number draft (.openType name column)
        { draft.endType source number with doc, openType := some t }
  /-- A loop is opened in the open function, and perhaps closed again. -/
  | localLoop {name suffix : Text} {column : Nat} {f : FunctionDraft} {loop : OpenLoop}
      (closed : Bool) (hf : draft.openFunction = some f)
      (hloop : loop.OpenedOn number f.locals.length) :
      Change source number draft (.openLoop name suffix column closed)
        (if closed then
          Draft.closeLoop { draft with openFunction := some { f with loops := loop :: f.loops } }
            source number
        else { draft with openFunction := some { f with loops := loop :: f.loops } })
  /-- A loop is opened outside functions, and perhaps closed again. -/
  | topLoop {name suffix : Text} {column : Nat} {loop : OpenLoop} (closed : Bool)
      (hf : draft.openFunction = none) (hloop : loop.OpenedOn number draft.symbols.length) :
      Change source number draft (.openLoop name suffix column closed)
        (if closed then
          Draft.closeLoop { draft with loops := loop :: draft.loops } source number
        else { draft with loops := loop :: draft.loops })
  /-- The innermost loop is closed. -/
  | endLoop : Change source number draft .closeLoop (draft.closeLoop source number)
  /-- The open function is closed. -/
  | endFunction : Change source number draft .closeFunction (draft.closeFunction source number)
  /-- A function is opened. -/
  | newFunction {name suffix : Text} {column : Nat} {parameters : Option (Text × Nat)}
      {f : FunctionDraft} (doc : DocBlock) (hline : f.line = number) (hloops : f.loops = [])
      (hlocals : ListedOn number f.locals)
      (hnew : Introduces (Statement.openFunction name suffix column parameters).declaredParts []
        f.locals) :
      Change source number draft (.openFunction name suffix column parameters)
        { draft.endFunction source number with doc, openFunction := some f }

/-! ## The places of what a line declares -/

section Places

variable {number column : Nat} {line : Text}

/-- No variable stands on every line. -/
theorem ListedOn.nil (number : Nat) : ListedOn number [] :=
  ⟨fun _ => (nomatch ·), fun _ => (nomatch ·), .nil⟩

/-- A single variable of a line. -/
theorem ListedOn.singleton {v : Variable} (hline : v.range.startLine = number)
    (hiterator : v.isIterator = false) : ListedOn number [v] where
  startLine u hu := by rw [List.mem_singleton.1 hu]; exact hline
  isIterator u hu := by rw [List.mem_singleton.1 hu]; exact hiterator
  increasing := List.pairwise_singleton _ _

/-- All variables that a line declares last. -/
theorem ListedOn.lasting_append {added : List Variable} (h : ListedOn number added)
    (found : List Variable) : lasting (found ++ added) = lasting found ++ added := by
  rw [BlitzLens.lasting_append, lasting_eq_self h.isIterator]

/-- The parts of a list add variables of the line, with new keys, behind those that were found
before. -/
theorem exists_addLocated_listedOn {build : Part → Nat → Variable}
    (hbuild : ∀ part start, (build part start).start = ((number : Int), (start : Int)) ∧
      (build part start).isIterator = false)
    {declared : List Variable → Text → Bool} {known : List Variable → List Variable}
    (hlooks : LooksUp build declared known) (found : List Variable) {list : Text}
    (h : Line.StandsAt line column list) :
    ∃ added, ListedOn number added ∧ Introduces (Part.parseList list) (known found) added ∧
      addLocated build declared found (locateParts line column (Part.parseList list)) =
        found ++ added := by
  obtain ⟨placed, hplaced, hadd⟩ := exists_addParts_eq build declared h found
  rw [addParts_eq] at hadd
  obtain ⟨added, hadd', hnew⟩ := hlooks.exists_introduces found
    (locateParts line column (Part.parseList list))
  rw [map_fst_locateParts] at hnew
  obtain rfl := List.append_cancel_left (hadd.symm.trans hadd')
  refine ⟨_, ⟨fun v hv => ?_, fun v hv => ?_, ?_⟩, hnew, hadd⟩
  · obtain ⟨place, -, rfl⟩ := List.mem_map.1 hv
    exact congrArg Prod.fst (hbuild place.1 place.2).1
  · obtain ⟨place, -, rfl⟩ := List.mem_map.1 hv
    exact (hbuild place.1 place.2).2
  · -- the parts are located from left to right
    rw [List.pairwise_map]
    refine hplaced.increasing.imp fun {place later} hlt => ?_
    have hplace := congrArg Prod.snd (hbuild place.1 place.2).1
    have hlater := congrArg Prod.snd (hbuild later.1 later.2).1
    simp only [Declared.start] at hplace hlater
    omega

end Places

/-! ## Every step is a change -/

namespace Draft

variable {source : Source} {number column : Nat} {line : Text} {draft next : Draft}

/-- A declaration of variables. -/
theorem change_declare {list keyword : Text} (hlist : Line.CodeAt line column list)
    (declarator : Declarator) :
    draft.Change source number (.declare keyword list column)
      (draft.declare source number line declarator list column) := by
  have hbuild (part : Part) (start : Nat) :
      (declarator.build source number line part start).start = ((number : Int), (start : Int)) ∧
        (declarator.build source number line part start).isIterator = false := ⟨rfl, rfl⟩
  have hlooks (front : List Variable) :=
    LooksUp.lasting (fun _ _ => rfl) (fun part start => (hbuild part start).2) front
  cases hf : draft.openFunction with
  | some f =>
    obtain ⟨added, hadded, hnew, hadd⟩ := exists_addLocated_listedOn hbuild (hlooks []) f.locals
      hlist.toStandsAt
    rw [declare_of_some hf]
    exact hadd ▸ .locals rfl hf hadded hnew
  | none =>
    obtain ⟨added, hadded, hnew, hadd⟩ := exists_addLocated_listedOn hbuild
      (hlooks (topVariables draft.symbols)) [] hlist.toStandsAt
    rw [List.append_nil] at hnew
    rw [declare_of_none hf, hadd, List.nil_append]
    exact .topVariables rfl hf hadded hnew

/-- A loop that is opened, and perhaps closed again. -/
theorem change_openLoop (name suffix : Text) (column : Nat) (closed : Bool) :
    draft.Change source number (.openLoop name suffix column closed)
      (if closed then (draft.openLoop number line name suffix column).closeLoop source number
        else draft.openLoop number line name suffix column) := by
  have hloop (slot : Nat) : OpenLoop.OpenedOn number slot
      ((draft.loopPart? (name ++ suffix)).map (Part.toIterator number line column slot)) := by
    intro iterator hiterator
    obtain ⟨part, -, rfl⟩ := Option.map_eq_some_iff.1 hiterator
    exact ⟨rfl, rfl⟩
  cases hf : draft.openFunction with
  | some f =>
    rw [openLoop_of_some hf]
    exact .localLoop closed hf (hloop _)
  | none =>
    rw [openLoop_of_none hf]
    exact .topLoop closed hf (hloop _)

/-- An assignment declares at most one variable, of a name that is not declared yet. -/
theorem change_assign {name sign : Text} (hname : Line.NameAt line column name)
    (hsign : Text.startsWord sign = false) :
    draft.Change source number (.assign name sign column)
      (draft.assign source number line name sign column) := by
  unfold assign
  split
  · exact .remark rfl rfl draft.doc
  next hknows =>
  split
  · exact .remark rfl rfl draft.doc
  · next part hpart =>
    have hkey : (part.toAssigned source number line column).key = name.lower :=
      congrArg Text.lower (Part.name_of_parse?_append hpart hname.isWord hsign)
    have hmade : ListedOn number [part.toAssigned source number line column] := .singleton rfl rfl
    rw [knowsAssigned, Bool.not_eq_true, Bool.or_eq_false_iff] at hknows
    split
    · next f hf =>
      simp only [hf, Bool.or_eq_false_iff] at hknows
      exact .locals rfl hf hmade (.of_declaresKey (hkey ▸ hknows.2.1.2))
    · next hf =>
      simp only [hf, declaresTop_none] at hknows
      have hchange : draft.Change source number (.assign name sign column) _ :=
        .topVariables rfl hf hmade (.of_declaresKey (hkey ▸ hknows.2))
      exact hchange

/-- A function is opened when the one before it is closed. -/
theorem change_openFunctionAt {name suffix : Text} {parameters : Option (Text × Nat)}
    (hparameters : ∀ list start, parameters = some (list, start) → Line.CodeAt line start list) :
    draft.Change source number (.openFunction name suffix column parameters)
      (draft.openFunctionAt source number line name suffix column parameters) := by
  rw [openFunctionAt_eq]
  cases parameters with
  | none => exact .newFunction .empty rfl rfl (.nil number) (.nil [])
  | some found =>
    obtain ⟨list, start⟩ := found
    obtain ⟨added, hadded, hnew, hadd⟩ := exists_addLocated_listedOn
      (fun _ _ => ⟨rfl, rfl⟩ : ∀ part start,
        (Part.toParameter source number part start).start = _ ∧ _)
      (.lasting (fun _ _ => rfl) (fun _ _ => rfl) []) [] (hparameters list start rfl).toStandsAt
    have hlocals : (FunctionDraft.fresh source number line name suffix column (some (list, start))
        (draft.endFunction source number).doc).locals = added := hadd
    exact .newFunction .empty rfl rfl (hlocals ▸ hadded) (hlocals ▸ hnew)

/-- Fields are declared in the type that is open, if there is one. -/
theorem change_declareFields {list : Text} (hlist : Line.CodeAt line column list) :
    draft.Change source number (.declareFields list column)
      (draft.declareFields source number line list column) := by
  cases ht : draft.openType with
  | none =>
    unfold declareFields
    rw [ht]
    exact .remark rfl rfl draft.doc
  | some t =>
    obtain ⟨added, hadded, hnew, hadd⟩ := exists_addLocated_listedOn
      (fun _ _ => ⟨rfl, rfl⟩ : ∀ part start,
        (Part.toField source number line part start).start = _ ∧ _)
      (.all fun _ _ => rfl) t.fields hlist.toStandsAt
    rw [declareFields_of_some ht, hadd]
    exact .fields rfl rfl ht hadded ⟨hnew.fresh, hnew.distinct, fun _ => (nomatch ·)⟩

/-- A step changes a draft in one of the ways that there are, if the lists of the statement stand on
the line. -/
theorem change_of_step {statement : Statement} (hplaced : statement.WellPlaced line)
    (hnext : draft.step source number line statement = .ok next) :
    draft.Change source number statement next := by
  cases statement with
  | declare keyword list column =>
    obtain ⟨declarator, -, rfl⟩ := step_declare_eq_ok_iff.1 hnext
    exact change_declare hplaced declarator
  | openLoop name suffix column closed =>
    cases hnext
    exact change_openLoop name suffix column closed
  | closeLoop => cases hnext; exact .endLoop
  | assign name sign column => cases hnext; exact change_assign hplaced.1 hplaced.2
  | closeFunction => cases hnext; exact .endFunction
  | openFunction name suffix column parameters =>
    cases hnext
    exact change_openFunctionAt fun list start heq => (hplaced.2 list start heq).1
  | closeType => cases hnext; exact .endType
  | openType name column => cases hnext; exact .newType .empty rfl rfl
  | declareFields list column => cases hnext; exact change_declareFields hplaced
  | label name column => cases hnext; exact .label rfl rfl rfl
  | includeFile target => cases hnext; exact .remark rfl rfl draft.doc
  | other => cases hnext; exact .remark rfl rfl draft.doc
  | _ => cases hnext; exact .remark rfl rfl _

end Draft

end BlitzLens
