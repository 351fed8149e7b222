import BlitzLens.Proofs.Extraction.Likeness
import BlitzLens.Proofs.Query.Highlight

/-!
# Symbols up to some of their data

An `Erasure` leaves out some of the data of symbols, and never the key. Two lists of symbols that
are equal after the erasure differ in nothing but what it leaves out; this is a likeness
(`Likeness.ofErasure`), so that it can be shown line by line.
-/

namespace BlitzLens

/-- What is left of symbols when some of their data is left out. -/
structure Erasure where
  /-- What is left of the data that all symbols have in common. -/
  onDeclared : Declared → Declared
  /-- Whether default values and documentation are left. -/
  keepsTexts : Bool
  /-- The key is left. -/
  key_onDeclared : ∀ d, (onDeclared d).key = d.key

namespace Erasure

variable (erasure : Erasure)

/-- What is left of a text that only some erasures leave out. -/
def onText {α : Type} (texts : List α) : List α :=
  if erasure.keepsTexts then texts else []

/-- What is left of a variable. -/
def onVariable (v : Variable) : Variable :=
  { v with
    toDeclared := erasure.onDeclared v.toDeclared
    default := if erasure.keepsTexts then v.default else none }

/-- What is left of a function and its locals. -/
def onFunction (f : Function) : Function :=
  { f with
    toDeclared := erasure.onDeclared f.toDeclared
    locals := f.locals.map erasure.onVariable
    docLines := erasure.onText f.docLines
    paramDocs := erasure.onText f.paramDocs
    sample := erasure.onText f.sample }

/-- What is left of a type and its fields. -/
def onType (t : RecordType) : RecordType :=
  { t with
    toDeclared := erasure.onDeclared t.toDeclared
    fields := t.fields.map erasure.onVariable }

/-- What is left of a label. -/
def onLabel (l : Label) : Label :=
  { l with toDeclared := erasure.onDeclared l.toDeclared }

/-- What is left of a symbol. -/
def onSymbol : Symbol → Symbol
  | .ofVariable v => .ofVariable (erasure.onVariable v)
  | .ofFunction f => .ofFunction (erasure.onFunction f)
  | .ofType t => .ofType (erasure.onType t)
  | .ofLabel l => .ofLabel (erasure.onLabel l)

variable {erasure}

/-- Variables of which the same is left count alike. -/
theorem countsAs_of_onVariable {v w : Variable}
    (h : erasure.onVariable v = erasure.onVariable w) : v.CountsAs w where
  key := by
    have hkey := congrArg (fun u => u.key) h
    rwa [onVariable, onVariable, erasure.key_onDeclared, erasure.key_onDeclared] at hkey
  storage := by
    have hstorage := congrArg Variable.storage h
    exact hstorage
  isIterator := by
    have hiterator := congrArg Variable.isIterator h
    exact hiterator

/-- What is left of the variable that a symbol is. -/
theorem asVariable?_onSymbol (symbol : Symbol) :
    (erasure.onSymbol symbol).asVariable? = symbol.asVariable?.map erasure.onVariable := by
  cases symbol <;> rfl

end Erasure

/-- The likeness of symbols of which the same is left. -/
def Likeness.ofErasure (erasure : Erasure) (source source' : Source) :
    Likeness source source' where
  Same symbol symbol' := erasure.onSymbol symbol = erasure.onSymbol symbol'
  SameDoc doc doc' := erasure.keepsTexts = true → doc = doc'
  Closes _ := True
  countsAs {symbol symbol'} h := by
    have hvariables := congrArg Symbol.asVariable? h
    rw [Erasure.asVariable?_onSymbol, Erasure.asVariable?_onSymbol] at hvariables
    cases hv : symbol.asVariable? with
    | none =>
      rw [hv, Option.map_none, eq_comm, Option.map_eq_none_iff] at hvariables
      rw [hvariables]
      exact .none
    | some v =>
      rw [hv, Option.map_some, eq_comm, Option.map_eq_some_iff] at hvariables
      obtain ⟨w, hw, hleft⟩ := hvariables
      rw [hw]
      exact .some (Erasure.countsAs_of_onVariable hleft.symm)
  sameDoc_empty _ := rfl

namespace Erasure

variable {erasure : Erasure} {source source' : Source}

/-- Variables count as the same when the same is left of them. -/
theorem variables_iff {v w : Variable} :
    (Likeness.ofErasure erasure source source').Variables v w ↔
      erasure.onVariable v = erasure.onVariable w :=
  ⟨fun h => Symbol.ofVariable.inj h, fun h => congrArg Symbol.ofVariable h⟩

/-- Lists of variables count as the same when the same is left of them. -/
theorem forall₂_variables_iff {found found' : List Variable} :
    List.Forall₂ (Likeness.ofErasure erasure source source').Variables found found' ↔
      found.map erasure.onVariable = found'.map erasure.onVariable := by
  rw [← List.forall₂_eq_eq_eq, List.forall₂_map_left_iff, List.forall₂_map_right_iff]
  exact ⟨fun h => h.imp fun _ _ => variables_iff.1, fun h => h.imp fun _ _ => variables_iff.2⟩

/-- Lists of symbols count as the same when the same is left of them. -/
theorem forall₂_same_iff {found found' : List Symbol} :
    List.Forall₂ (Likeness.ofErasure erasure source source').Same found found' ↔
      found.map erasure.onSymbol = found'.map erasure.onSymbol := by
  rw [← List.forall₂_eq_eq_eq, List.forall₂_map_left_iff, List.forall₂_map_right_iff]
  rfl

/-- The same is left of variables that are declared alike, if the same is left of what all symbols
have in common. -/
theorem onVariable_toVariable {part part' : Part} {line column column' : Nat}
    {declaration declaration' description description' : Text} {storage : Storage} {constant : Bool}
    {closing : Option Nat} (hvalueType : part.typeMark.valueType = part'.typeMark.valueType)
    (htypeName : part.typeMark.typeName = part'.typeMark.typeName)
    (harray : part.array = part'.array)
    (hdefault : erasure.keepsTexts = true → part.default = part'.default)
    (hdeclared : erasure.onDeclared (part.toVariable source line column declaration storage
        description constant closing).toDeclared =
      erasure.onDeclared (part'.toVariable source' line column' declaration' storage description'
        constant closing).toDeclared) :
    erasure.onVariable (part.toVariable source line column declaration storage description constant
        closing) =
      erasure.onVariable (part'.toVariable source' line column' declaration' storage description'
        constant closing) := by
  unfold onVariable
  rw [Variable.mk.injEq]
  refine ⟨hdeclared, rfl, hvalueType, htypeName, harray, rfl, ?_, rfl⟩
  split
  · next hkeeps => exact hdefault hkeeps
  · rfl

/-- The same is left of functions that own the same, if the same is left of what all symbols have in
common. -/
theorem same_finish {f g : FunctionDraft} {last : Nat} {locals locals' : List Variable}
    (hvalueType : (TypeMark.ofSuffix f.suffix).valueType = (TypeMark.ofSuffix g.suffix).valueType)
    (htypeName : (TypeMark.ofSuffix f.suffix).typeName = (TypeMark.ofSuffix g.suffix).typeName)
    (hdoc : erasure.keepsTexts = true → f.doc = g.doc)
    (hdeclared : erasure.onDeclared
        (FunctionDraft.finish { f with locals, loops := [] } source last).toDeclared =
      erasure.onDeclared
        (FunctionDraft.finish { g with locals := locals', loops := [] } source' last).toDeclared)
    (hlocals : List.Forall₂ (Likeness.ofErasure erasure source source').Variables locals locals') :
    (Likeness.ofErasure erasure source source').Same
      (.ofFunction (FunctionDraft.finish { f with locals, loops := [] } source last))
      (.ofFunction
        (FunctionDraft.finish { g with locals := locals', loops := [] } source' last)) := by
  refine congrArg Symbol.ofFunction ?_
  unfold onFunction
  rw [Function.mk.injEq]
  refine ⟨hdeclared, hvalueType, htypeName, rfl, forall₂_variables_iff.1 hlocals, ?_⟩
  unfold onText
  split
  · next hkeeps =>
    simp only [FunctionDraft.finish, List.length_nil, FunctionDraft.closeLoops, hdoc hkeeps,
      and_self]
  · exact ⟨rfl, rfl, rfl⟩

/-- The same is left of types that own the same, if the same is left of what all symbols have in
common. -/
theorem same_typeFinish {t u : TypeDraft} {last : Nat} {fields fields' : List Variable}
    (hdeclared : erasure.onDeclared (TypeDraft.finish { t with fields } source last).toDeclared =
      erasure.onDeclared (TypeDraft.finish { u with fields := fields' } source' last).toDeclared)
    (hfields : List.Forall₂ (Likeness.ofErasure erasure source source').Variables fields fields') :
    (Likeness.ofErasure erasure source source').Same
      (.ofType (TypeDraft.finish { t with fields } source last))
      (.ofType (TypeDraft.finish { u with fields := fields' } source' last)) := by
  refine congrArg Symbol.ofType ?_
  unfold onType
  rw [RecordType.mk.injEq]
  exact ⟨hdeclared, rfl, forall₂_variables_iff.1 hfields⟩

/-! ## Reference -/

/-- What of a declaration is referred to is left. -/
def KeepsReference (erasure : Erasure) : Prop :=
  ∀ d d', erasure.onDeclared d = erasure.onDeclared d' → d.Resembles d'

/-- It is left if every declaration resembles what is left of it. -/
theorem keepsReference_of_resembles (h : ∀ d, (erasure.onDeclared d).Resembles d) :
    erasure.KeepsReference := by
  intro d d' hleft
  have hresembles := h d
  rw [hleft] at hresembles
  exact hresembles.symm.trans (h d')

/-- Lists of variables of which the same is left are referred to alike. -/
theorem KeepsReference.variables (hkeeps : erasure.KeepsReference) {found found' : List Variable}
    (h : found.map erasure.onVariable = found'.map erasure.onVariable) :
    List.Forall₂ Variable.Resembles found found' := by
  rw [← List.forall₂_eq_eq_eq, List.forall₂_map_left_iff, List.forall₂_map_right_iff] at h
  refine h.imp fun v w hleft => ?_
  have hcounts := countsAs_of_onVariable hleft
  have hdeclared := congrArg Variable.toDeclared hleft
  exact ⟨hkeeps _ _ hdeclared, hcounts.storage, hcounts.isIterator⟩

/-- Symbols of which the same is left are referred to alike. -/
theorem KeepsReference.symbol (hkeeps : erasure.KeepsReference) {symbol symbol' : Symbol}
    (h : erasure.onSymbol symbol = erasure.onSymbol symbol') (number : Int) :
    symbol.ResemblesAt number symbol' := by
  cases symbol with
  | ofVariable v =>
    cases symbol' with
    | ofVariable w =>
      have hleft : [v].map erasure.onVariable = [w].map erasure.onVariable :=
        congrArg (fun u => [u]) (Symbol.ofVariable.inj h)
      cases hkeeps.variables hleft with
      | cons hresembles _ => exact .ofVariable hresembles
    | _ => cases h
  | ofFunction f =>
    cases symbol' with
    | ofFunction g =>
      have hdeclared := congrArg Function.toDeclared (Symbol.ofFunction.inj h)
      have hlocals := congrArg Function.locals (Symbol.ofFunction.inj h)
      exact .ofFunction (hkeeps _ _ hdeclared) fun _ => hkeeps.variables hlocals
    | _ => cases h
  | ofType t =>
    cases symbol' with
    | ofType u =>
      have hdeclared := congrArg RecordType.toDeclared (Symbol.ofType.inj h)
      have hfields := congrArg RecordType.fields (Symbol.ofType.inj h)
      exact .ofType (hkeeps _ _ hdeclared) (hkeeps.variables hfields)
    | _ => cases h
  | ofLabel l =>
    cases symbol' with
    | ofLabel m =>
      have hdeclared := congrArg Label.toDeclared (Symbol.ofLabel.inj h)
      exact .ofLabel (hkeeps _ _ hdeclared)
    | _ => cases h

/-- Lists of symbols of which the same is left are referred to alike. -/
theorem KeepsReference.symbols (hkeeps : erasure.KeepsReference) {found found' : List Symbol}
    (h : found.map erasure.onSymbol = found'.map erasure.onSymbol) (number : Int) :
    List.Forall₂ (Symbol.ResemblesAt number) found found' := by
  rw [← List.forall₂_eq_eq_eq, List.forall₂_map_left_iff, List.forall₂_map_right_iff] at h
  exact h.imp fun _ _ hleft => hkeeps.symbol hleft number

end Erasure

end BlitzLens
