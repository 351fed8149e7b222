import BlitzLens.Proofs.Extraction.Declarations
import BlitzLens.Proofs.Extraction.Placement
import BlitzLens.Proofs.Extraction.Visit
import Mathlib.Data.List.Forall2

/-!
# Readings that are alike

Two files are read side by side, line by line. A `Likeness` says which symbols count as the same;
from it follow relations between loops, functions and types that are still open, and between whole
drafts (`Likeness.Drafts`). Two lines are alike when their statements have one form and declare the
same (`Likeness.Statements`). Such lines keep drafts alike (`Likeness.Drafts.afterLine`), and so two
files whose lines are alike yield lists of symbols that count as the same, one by one
(`Likeness.outcome`).
-/

namespace BlitzLens

/-! ## Checks of what is declared -/

/-- Two variables count alike in every check whether a name is declared. -/
structure Variable.CountsAs (v w : Variable) : Prop where
  /-- They are looked up by one key. -/
  key : v.key = w.key
  /-- They live in the same kind of place. -/
  storage : v.storage = w.storage
  /-- Both are loop iterators, or none is. -/
  isIterator : v.isIterator = w.isIterator

section Checks

variable {found found' : List Variable} {symbols symbols' : List Symbol}

/-- A key is declared in both of two lists of variables that count alike, or in none. -/
theorem declaresKey_congr (h : List.Forall₂ Variable.CountsAs found found') (key : Text) :
    declaresKey found key = declaresKey found' key := by
  induction h with
  | nil => rfl
  | cons hcounts _ ih =>
    simp only [declaresKey, List.any_cons, hcounts.key, hcounts.isIterator] at ih ⊢
    rw [ih]

/-- The same holds of a key among the fields of a type. -/
theorem any_key_congr (h : List.Forall₂ Variable.CountsAs found found') (key : Text) :
    (found.any fun v => v.key == key) = found'.any fun v => v.key == key := by
  induction h with
  | nil => rfl
  | cons hcounts _ ih => rw [List.any_cons, List.any_cons, hcounts.key, ih]

/-- The same holds of a key at the top level. -/
theorem declaresTop_congr
    (h : List.Forall₂ Variable.CountsAs (topVariables symbols) (topVariables symbols'))
    (key : Text) (storage : Option Storage) :
    declaresTop symbols key storage = declaresTop symbols' key storage := by
  unfold declaresTop
  generalize topVariables symbols = found at h ⊢
  generalize topVariables symbols' = found' at h ⊢
  induction h with
  | nil => rfl
  | cons hcounts _ ih =>
    rw [List.any_cons, List.any_cons, hcounts.key, hcounts.isIterator, hcounts.storage, ih]

/-- Located parts that agree are added to lists that agree. -/
theorem forall₂_addLocated {R : Variable → Variable → Prop} {build build' : Part → Nat → Variable}
    {declared declared' : List Variable → Text → Bool} {located located' : List (Part × Nat)}
    (hdeclared : ∀ found found' key, List.Forall₂ R found found' →
      declared found key = declared' found' key)
    (hlocated : List.Forall₂ (fun place place' => place.1.key = place'.1.key ∧
      R (build place.1 place.2) (build' place'.1 place'.2)) located located')
    (hfound : List.Forall₂ R found found') :
    List.Forall₂ R (addLocated build declared found located)
      (addLocated build' declared' found' located') := by
  induction hlocated generalizing found found' with
  | nil => exact hfound
  | @cons place place' located located' hplace _ ih =>
    obtain ⟨hkey, hbuild⟩ := hplace
    have hsame := hdeclared found found' place.1.key hfound
    simp only [addLocated, List.foldl_cons] at ih ⊢
    rw [hsame, hkey]
    split
    · exact ih hfound
    · exact ih (List.rel_append hfound (.cons hbuild .nil))

/-- Related elements that take the same place of related lists leave the lists related. -/
theorem forall₂_insertIdx {α β : Type} {R : α → β → Prop} {list : List α} {list' : List β}
    {a : α} {b : β} (h : List.Forall₂ R list list') (hab : R a b) (index : Nat) :
    List.Forall₂ R (list.insertIdx index a) (list'.insertIdx index b) := by
  induction index generalizing list list' with
  | zero => exact .cons hab h
  | succ index ih =>
    cases h with
    | nil => exact .nil
    | cons hhead htail => exact .cons hhead (ih htail)

/-- Related options are both empty or hold related values. -/
theorem cases_of_rel {α β : Type} {R : α → β → Prop} {a : Option α} {b : Option β}
    (h : Option.Rel R a b) :
    a = none ∧ b = none ∨ ∃ x y, a = some x ∧ b = some y ∧ R x y := by
  cases h with
  | none => exact .inl ⟨rfl, rfl⟩
  | some hxy => exact .inr ⟨_, _, rfl, rfl, hxy⟩

end Checks

/-! ## Comparing what two files yield -/

/-- A way to compare what two files yield. -/
structure Likeness (source source' : Source) where
  /-- The symbols that count as the same. -/
  Same : Symbol → Symbol → Prop
  /-- The documentation that counts as the same. -/
  SameDoc : DocBlock → DocBlock → Prop
  /-- The lines on which loops and functions may be closed. -/
  Closes : Nat → Prop
  /-- Symbols that count as the same count alike in every check. -/
  countsAs : ∀ {symbol symbol' : Symbol}, Same symbol symbol' →
    Option.Rel Variable.CountsAs symbol.asVariable? symbol'.asVariable?
  /-- Documentation is the same before there is any. -/
  sameDoc_empty : SameDoc .empty .empty

namespace Likeness

section Relations

variable {source source' : Source} (like : Likeness source source')

/-- The variables that count as the same. -/
def Variables (v w : Variable) : Prop :=
  like.Same (.ofVariable v) (.ofVariable w)

/-- The iterators of open loops that count as the same. -/
structure Iterators (a b : OpenIterator) : Prop where
  /-- They run over one key. -/
  key : a.part.key = b.part.key
  /-- They take the same place. -/
  slot : a.slot = b.slot
  /-- They count as the same when their loops are closed. -/
  close : ∀ storage line, like.Closes line →
    like.Variables (a.close source storage line) (b.close source' storage line)

/-- The open loops that count as the same, one by one. -/
def Loops (loops loops' : List OpenLoop) : Prop :=
  List.Forall₂ (Option.Rel like.Iterators) loops loops'

/-- The open functions that count as the same. -/
structure Functions (f g : FunctionDraft) : Prop where
  /-- They are opened on the same line. -/
  line : f.line = g.line
  /-- They may be closed on this line. -/
  closes : like.Closes f.line
  /-- They own the same variables. -/
  locals : List.Forall₂ like.Variables f.locals g.locals
  /-- They hold the same open loops. -/
  loops : like.Loops f.loops g.loops
  /-- With the same variables, they count as the same when they are closed. -/
  same : ∀ locals locals' last, List.Forall₂ like.Variables locals locals' → like.Closes last →
    like.Same (.ofFunction (FunctionDraft.finish { f with locals, loops := [] } source last))
      (.ofFunction (FunctionDraft.finish { g with locals := locals', loops := [] } source' last))

/-- The open types that count as the same. -/
structure Types (t u : TypeDraft) : Prop where
  /-- They are opened on the same line. -/
  line : t.line = u.line
  /-- They own the same fields. -/
  fields : List.Forall₂ like.Variables t.fields u.fields
  /-- With the same fields, they count as the same when they are closed. -/
  same : ∀ fields fields' last, List.Forall₂ like.Variables fields fields' →
    like.Same (.ofType (TypeDraft.finish { t with fields } source last))
      (.ofType (TypeDraft.finish { u with fields := fields' } source' last))

/-- The drafts that count as the same, where `Opened` compares the open functions. -/
structure Drafts (Opened : FunctionDraft → FunctionDraft → Prop) (draft draft' : Draft) : Prop where
  /-- The finished symbols are the same. -/
  symbols : List.Forall₂ like.Same draft.symbols draft'.symbols
  /-- The open types are the same. -/
  openType : Option.Rel like.Types draft.openType draft'.openType
  /-- The open functions compare. -/
  openFunction : Option.Rel Opened draft.openFunction draft'.openFunction
  /-- The waiting documentation is the same. -/
  doc : like.SameDoc draft.doc draft'.doc
  /-- The open loops of the top level are the same. -/
  loops : like.Loops draft.loops draft'.loops

/-- The located parts that declare the same. -/
def Located (build build' : Part → Nat → Variable) (place place' : Part × Nat) : Prop :=
  place.1.key = place'.1.key ∧
    like.Variables (build place.1 place.2) (build' place'.1 place'.2)

/-- The statements of two lines that declare the same. -/
inductive Statements (fetch fetch' : Text → Except ExtractError (List Symbol)) (number : Nat)
    (line line' : Text) : Statement → Statement → Prop
  | includeFile {target target' : Text}
      (hfetch : ∀ found found', fetch target = .ok found → fetch' target' = .ok found' →
        List.Forall₂ like.Same found found') :
      Statements fetch fetch' number line line' (.includeFile target) (.includeFile target')
  | declare {keyword keyword' list list' : Text} {column column' : Nat}
      (hkeyword : Declarator.ofKeyword? keyword.lower = Declarator.ofKeyword? keyword'.lower)
      (hparts : ∀ declarator : Declarator, List.Forall₂
        (like.Located (declarator.build source number line) (declarator.build source' number line'))
        (locateParts line column (Part.parseList list))
        (locateParts line' column' (Part.parseList list'))) :
      Statements fetch fetch' number line line' (.declare keyword list column)
        (.declare keyword' list' column')
  | openLoop {name name' suffix suffix' : Text} {column column' : Nat} {closed : Bool}
      (hpart : Option.Rel (fun part part' => ∀ slot, like.Iterators
        (part.toIterator number line column slot) (part'.toIterator number line' column' slot))
        (Part.parse? (name ++ suffix)) (Part.parse? (name' ++ suffix')))
      (hclosed : closed = true → like.Closes number) :
      Statements fetch fetch' number line line' (.openLoop name suffix column closed)
        (.openLoop name' suffix' column' closed)
  | closeLoop (hcloses : like.Closes number) :
      Statements fetch fetch' number line line' .closeLoop .closeLoop
  | assign {name name' sign sign' : Text} {column column' : Nat}
      (hname : name.lower = name'.lower)
      (hpart : Option.Rel (fun part part' => like.Variables
        (part.toAssigned source number line column) (part'.toAssigned source' number line' column'))
        (Part.parse? (name ++ sign)) (Part.parse? (name' ++ sign'))) :
      Statements fetch fetch' number line line' (.assign name sign column)
        (.assign name' sign' column')
  | documentParameter {text text' : Text}
      (hdoc : ∀ doc doc', like.SameDoc doc doc' →
        like.SameDoc { doc with parameters := doc.parameters ++ [text] }
          { doc' with parameters := doc'.parameters ++ [text'] }) :
      Statements fetch fetch' number line line' (.documentParameter text)
        (.documentParameter text')
  | documentExample {text text' : Text}
      (hdoc : ∀ doc doc', like.SameDoc doc doc' →
        like.SameDoc { doc with sample := doc.sample ++ [text] }
          { doc' with sample := doc'.sample ++ [text'] }) :
      Statements fetch fetch' number line line' (.documentExample text) (.documentExample text')
  | document {text text' : Text}
      (hdoc : ∀ doc doc', like.SameDoc doc doc' →
        like.SameDoc { doc with lines := doc.lines ++ [text] }
          { doc' with lines := doc'.lines ++ [text'] }) :
      Statements fetch fetch' number line line' (.document text) (.document text')
  | closeFunction (hcloses : like.Closes number) :
      Statements fetch fetch' number line line' .closeFunction .closeFunction
  | openFunction {name name' suffix suffix' : Text} {column column' : Nat}
      {parameters parameters' : Option (Text × Nat)} (hcloses : like.Closes (number - 1))
      (hfresh : ∀ doc doc', like.SameDoc doc doc' → like.Functions
        (.fresh source number line name suffix column parameters doc)
        (.fresh source' number line' name' suffix' column' parameters' doc')) :
      Statements fetch fetch' number line line' (.openFunction name suffix column parameters)
        (.openFunction name' suffix' column' parameters')
  | closeType : Statements fetch fetch' number line line' .closeType .closeType
  | openType {name name' : Text} {column column' : Nat}
      (hfresh : like.Types (.fresh number line name column) (.fresh number line' name' column')) :
      Statements fetch fetch' number line line' (.openType name column) (.openType name' column')
  | declareFields {list list' : Text} {column column' : Nat}
      (hparts : List.Forall₂
        (like.Located (Part.toField source number line) (Part.toField source' number line'))
        (locateParts line column (Part.parseList list))
        (locateParts line' column' (Part.parseList list'))) :
      Statements fetch fetch' number line line' (.declareFields list column)
        (.declareFields list' column')
  | label {name name' : Text} {column column' : Nat}
      (hlabel : like.Same (.ofLabel (.at source number line name column))
        (.ofLabel (.at source' number line' name' column'))) :
      Statements fetch fetch' number line line' (.label name column) (.label name' column')
  | other : Statements fetch fetch' number line line' .other .other

end Relations

/-! ## Closing -/

section Closing

variable {source source' : Source} {like : Likeness source source'} {last : Nat}

/-- Variables that count as the same count alike in every check. -/
theorem Variables.countsAs {v w : Variable} (h : like.Variables v w) : v.CountsAs w := by
  cases like.countsAs h with
  | some hcounts => exact hcounts

/-- The top-level variables among symbols that count as the same count alike. -/
theorem countsAs_topVariables {symbols symbols' : List Symbol}
    (h : List.Forall₂ like.Same symbols symbols') :
    List.Forall₂ Variable.CountsAs (topVariables symbols) (topVariables symbols') :=
  List.rel_filterMap (fun _ _ hsame => like.countsAs hsame) h

/-- An open loop runs over a key in both of two lists of loops, or in none. -/
theorem Loops.iteratesKey_eq {loops loops' : List OpenLoop} (h : like.Loops loops loops')
    (key : Text) : iteratesKey loops key = iteratesKey loops' key := by
  unfold iteratesKey
  induction h with
  | nil => rfl
  | cons hloop _ ih =>
    rw [List.any_cons, List.any_cons, ih]
    cases hloop with
    | none => rfl
    | some hiterator => rw [Option.any_some, Option.any_some, hiterator.key]

/-- Closing the innermost loops of functions that count as the same keeps them so. -/
theorem Functions.closeLoop {f g : FunctionDraft} (h : like.Functions f g)
    (hlast : like.Closes last) :
    like.Functions (f.closeLoop source last) (g.closeLoop source' last) := by
  have hloops := h.loops
  unfold FunctionDraft.closeLoop
  cases hf : f.loops with
  | nil =>
    rw [hf] at hloops
    rw [List.forall₂_nil_left_iff.1 hloops]
    exact h
  | cons loop loops =>
    rw [hf] at hloops
    obtain ⟨loop', loops', hloop, htail, hg⟩ := List.forall₂_cons_left_iff.1 hloops
    rw [hg]
    cases hloop with
    | none => exact ⟨h.line, h.closes, h.locals, htail, h.same⟩
    | some hiterator =>
      refine ⟨h.line, h.closes, ?_, htail, h.same⟩
      dsimp only
      rw [hiterator.slot]
      exact forall₂_insertIdx h.locals (hiterator.close .localVar last hlast) _

/-- The same holds of some loops. -/
theorem Functions.closeLoops {f g : FunctionDraft} (h : like.Functions f g)
    (hlast : like.Closes last) (count : Nat) :
    like.Functions (f.closeLoops source last count) (g.closeLoops source' last count) := by
  induction count generalizing f g with
  | zero => exact h
  | succ count ih => exact ih (h.closeLoop hlast)

/-- Functions that count as the same when they are open do so when they are closed. -/
theorem Functions.finish {f g : FunctionDraft} (h : like.Functions f g)
    (hlast : like.Closes last) :
    like.Same (.ofFunction (f.finish source last)) (.ofFunction (g.finish source' last)) := by
  rw [f.finish_eq, g.finish_eq, ← h.loops.length_eq]
  exact h.same _ _ last (h.closeLoops hlast f.loops.length).locals hlast

/-- Types that count as the same when they are open do so when they are closed. -/
theorem Types.finish {t u : TypeDraft} (h : like.Types t u) (last : Nat) :
    like.Same (.ofType (t.finish source last)) (.ofType (u.finish source' last)) :=
  h.same t.fields u.fields last h.fields

namespace Drafts

variable {Opened Opened' : FunctionDraft → FunctionDraft → Prop} {draft draft' : Draft}

/-- More symbols that count as the same are added to both drafts. -/
theorem append (h : like.Drafts Opened draft draft') {added added' : List Symbol}
    (hadded : List.Forall₂ like.Same added added') :
    like.Drafts Opened { draft with symbols := draft.symbols ++ added }
      { draft' with symbols := draft'.symbols ++ added' } :=
  ⟨List.rel_append h.symbols hadded, h.openType, h.openFunction, h.doc, h.loops⟩

/-- Closing the innermost loops of the top level keeps drafts alike. -/
theorem closeTopLoop (h : like.Drafts Opened draft draft') (hlast : like.Closes last) :
    like.Drafts Opened (draft.closeTopLoop source last) (draft'.closeTopLoop source' last) := by
  have hloops := h.loops
  unfold Draft.closeTopLoop
  cases hd : draft.loops with
  | nil =>
    rw [hd] at hloops
    rw [List.forall₂_nil_left_iff.1 hloops]
    exact h
  | cons loop loops =>
    rw [hd] at hloops
    obtain ⟨loop', loops', hloop, htail, hd'⟩ := List.forall₂_cons_left_iff.1 hloops
    rw [hd']
    cases hloop with
    | none => exact ⟨h.symbols, h.openType, h.openFunction, h.doc, htail⟩
    | some hiterator =>
      refine ⟨?_, h.openType, h.openFunction, h.doc, htail⟩
      dsimp only
      rw [hiterator.slot]
      exact forall₂_insertIdx h.symbols (hiterator.close .globalVar last hlast) _

/-- The same holds of some loops. -/
theorem closeTopLoops (h : like.Drafts Opened draft draft') (hlast : like.Closes last)
    (count : Nat) :
    like.Drafts Opened (draft.closeTopLoops source last count)
      (draft'.closeTopLoops source' last count) := by
  induction count generalizing draft draft' with
  | zero => exact h
  | succ count ih => exact ih (h.closeTopLoop hlast)

/-- Closing the innermost open loops keeps drafts alike. -/
theorem closeLoop (h : like.Drafts like.Functions draft draft') (hlast : like.Closes last) :
    like.Drafts like.Functions (draft.closeLoop source last) (draft'.closeLoop source' last) := by
  unfold Draft.closeLoop
  obtain ⟨hf, hg⟩ | ⟨f, g, hf, hg, hfunctions⟩ := cases_of_rel h.openFunction
  · rw [hf, hg]
    exact h.closeTopLoop hlast
  · rw [hf, hg]
    exact ⟨h.symbols, h.openType, .some (hfunctions.closeLoop hlast), h.doc, h.loops⟩

/-- Closing functions that count as the same when they are closed leaves drafts alike, in which no
function is open. -/
theorem closeFunction (h : like.Drafts Opened draft draft')
    (hfinish : ∀ f g, draft.openFunction = some f → Opened f g →
      like.Same (.ofFunction (f.finish source last)) (.ofFunction (g.finish source' last))) :
    like.Drafts Opened' (draft.closeFunction source last) (draft'.closeFunction source' last) ∧
      (draft.closeFunction source last).openFunction = none := by
  unfold Draft.closeFunction
  obtain ⟨hf, hg⟩ | ⟨f, g, hf, hg, hopened⟩ := cases_of_rel h.openFunction
  · rw [hf, hg]
    exact ⟨⟨h.symbols, h.openType, by rw [hf, hg]; exact .none, h.doc, h.loops⟩, hf⟩
  · rw [hf, hg]
    exact ⟨⟨List.rel_append h.symbols (.cons (hfinish f g hf hopened) .nil), h.openType, .none,
      h.doc, h.loops⟩, rfl⟩

/-- Closing the open types leaves drafts alike. -/
theorem closeType (h : like.Drafts Opened draft draft') (last : Nat) :
    like.Drafts Opened (draft.closeType source last) (draft'.closeType source' last) := by
  unfold Draft.closeType
  obtain ⟨ht, hu⟩ | ⟨t, u, ht, hu, htypes⟩ := cases_of_rel h.openType
  · rw [ht, hu]
    exact h
  · rw [ht, hu]
    exact ⟨List.rel_append h.symbols (.cons (htypes.finish last) .nil), .none, h.openFunction,
      h.doc, h.loops⟩

/-- What is left when the files end counts as the same. -/
theorem finish (h : like.Drafts like.Functions draft draft') (hlast : like.Closes source.lastLine)
    (hlines : source.lastLine = source'.lastLine) :
    List.Forall₂ like.Same (draft.finish source) (draft'.finish source') := by
  have hfunction : like.Drafts like.Functions (draft.closeFunction source source.lastLine)
      (draft'.closeFunction source' source.lastLine) :=
    (h.closeFunction fun _ _ _ hfunctions => hfunctions.finish hlast).1
  have hclosed := hfunction.closeType source.lastLine
  unfold Draft.finish
  dsimp only
  rw [← hlines, ← hclosed.loops.length_eq]
  exact (hclosed.closeTopLoops hlast _).symbols

end Drafts

end Closing

/-! ## Steps -/

section Steps

variable {source source' : Source} {like : Likeness source source'}
  {Opened : FunctionDraft → FunctionDraft → Prop} {draft draft' : Draft} {number : Nat}
  {line line' : Text} {fetch fetch' : Text → Except ExtractError (List Symbol)}

namespace Drafts

/-- A declaration of parts that declare the same keeps drafts alike. -/
theorem declare (h : like.Drafts like.Functions draft draft') {list list' : Text}
    {column column' : Nat} {declarator : Declarator}
    (hparts : List.Forall₂
      (like.Located (declarator.build source number line) (declarator.build source' number line'))
      (locateParts line column (Part.parseList list))
      (locateParts line' column' (Part.parseList list'))) :
    like.Drafts like.Functions (draft.declare source number line declarator list column)
      (draft'.declare source' number line' declarator list' column') := by
  obtain ⟨hf, hg⟩ | ⟨f, g, hf, hg, hfunctions⟩ := cases_of_rel h.openFunction
  · rw [Draft.declare_of_none hf, Draft.declare_of_none hg]
    refine h.append (List.forall₂_map_left_iff.2 (List.forall₂_map_right_iff.2
      (forall₂_addLocated (R := like.Variables) (fun found found' key hfound => ?_) hparts .nil)))
    -- the parts know the symbols and the parts in front of them
    exact declaresKey_congr (List.rel_append (countsAs_topVariables h.symbols)
      (hfound.imp fun _ _ hsame => hsame.countsAs)) key
  · rw [Draft.declare_of_some hf, Draft.declare_of_some hg]
    refine ⟨h.symbols, h.openType, .some ⟨hfunctions.line, hfunctions.closes, ?_, hfunctions.loops,
      hfunctions.same⟩, h.doc, h.loops⟩
    exact forall₂_addLocated (fun found found' key hfound =>
      declaresKey_congr (hfound.imp fun _ _ hsame => hsame.countsAs) key) hparts hfunctions.locals

/-- A variable shadows the loops over a key in both drafts, or in none. -/
theorem shadows_eq (h : like.Drafts like.Functions draft draft') (key : Text) :
    draft.shadows key = draft'.shadows key := by
  unfold Draft.shadows
  obtain ⟨hf, hg⟩ | ⟨f, g, hf, hg, hfunctions⟩ := cases_of_rel h.openFunction
  · rw [hf, hg]
    exact declaresTop_congr (countsAs_topVariables h.symbols) key _
  · rw [hf, hg]
    exact declaresKey_congr (hfunctions.locals.imp fun _ _ hsame => hsame.countsAs) key

/-- Loops over the same part have the same iterator. -/
theorem loopPart? (h : like.Drafts like.Functions draft draft') {R : Part → Part → Prop}
    (hkey : ∀ part part', R part part' → part.key = part'.key) {text text' : Text}
    (hpart : Option.Rel R (Part.parse? text) (Part.parse? text')) :
    Option.Rel R (draft.loopPart? text) (draft'.loopPart? text') := by
  rw [Draft.loopPart?_eq, Draft.loopPart?_eq]
  obtain ⟨hp, hp'⟩ | ⟨part, part', hp, hp', hrel⟩ := cases_of_rel hpart
  · rw [hp, hp']
    exact .none
  · rw [hp, hp', Option.filter_some, Option.filter_some, ← hkey part part' hrel, h.shadows_eq]
    split
    · exact .some hrel
    · exact .none

/-- Opening loops over the same part keeps drafts alike. -/
theorem openLoop (h : like.Drafts like.Functions draft draft') {name name' suffix suffix' : Text}
    {column column' : Nat}
    (hpart : Option.Rel (fun part part' => ∀ slot, like.Iterators
        (part.toIterator number line column slot) (part'.toIterator number line' column' slot))
      (Part.parse? (name ++ suffix)) (Part.parse? (name' ++ suffix'))) :
    like.Drafts like.Functions (draft.openLoop number line name suffix column)
      (draft'.openLoop number line' name' suffix' column') := by
  have hloop (slot : Nat) : Option.Rel like.Iterators
      ((draft.loopPart? (name ++ suffix)).map (Part.toIterator number line column slot))
      ((draft'.loopPart? (name' ++ suffix')).map (Part.toIterator number line' column' slot)) := by
    obtain ⟨hp, hp'⟩ | ⟨part, part', hp, hp', hiterator⟩ :=
      cases_of_rel (h.loopPart? (fun _ _ hiterator => (hiterator 0).key) hpart)
    · rw [hp, hp']
      exact .none
    · rw [hp, hp']
      exact .some (hiterator slot)
  obtain ⟨hf, hg⟩ | ⟨f, g, hf, hg, hfunctions⟩ := cases_of_rel h.openFunction
  · rw [Draft.openLoop_of_none hf, Draft.openLoop_of_none hg, ← h.symbols.length_eq]
    exact ⟨h.symbols, h.openType, h.openFunction, h.doc, .cons (hloop _) h.loops⟩
  · rw [Draft.openLoop_of_some hf, Draft.openLoop_of_some hg, ← hfunctions.locals.length_eq]
    exact ⟨h.symbols, h.openType, .some ⟨hfunctions.line, hfunctions.closes, hfunctions.locals,
      .cons (hloop _) hfunctions.loops, hfunctions.same⟩, h.doc, h.loops⟩

/-- An assignment needs a declaration in both drafts, or in none. -/
theorem knowsAssigned_eq (h : like.Drafts like.Functions draft draft') (key : Text) :
    draft.knowsAssigned key = draft'.knowsAssigned key := by
  unfold Draft.knowsAssigned
  rw [h.loops.iteratesKey_eq]
  obtain ⟨hf, hg⟩ | ⟨f, g, hf, hg, hfunctions⟩ := cases_of_rel h.openFunction
  · rw [hf, hg]
    dsimp only
    rw [declaresTop_congr (countsAs_topVariables h.symbols)]
  · rw [hf, hg]
    dsimp only
    rw [hfunctions.loops.iteratesKey_eq, declaresTop_congr (countsAs_topVariables h.symbols),
      declaresKey_congr (hfunctions.locals.imp fun _ _ hsame => hsame.countsAs)]

/-- Assignments that make the same variable keep drafts alike. -/
theorem assign (h : like.Drafts like.Functions draft draft') {name name' sign sign' : Text}
    {column column' : Nat} (hname : name.lower = name'.lower)
    (hpart : Option.Rel (fun part part' => like.Variables
        (part.toAssigned source number line column) (part'.toAssigned source' number line' column'))
      (Part.parse? (name ++ sign)) (Part.parse? (name' ++ sign'))) :
    like.Drafts like.Functions (draft.assign source number line name sign column)
      (draft'.assign source' number line' name' sign' column') := by
  unfold Draft.assign
  rw [← hname, ← h.knowsAssigned_eq]
  split
  · exact h
  obtain ⟨hp, hp'⟩ | ⟨part, part', hp, hp', hmade⟩ := cases_of_rel hpart
  · rw [hp, hp']
    exact h
  · rw [hp, hp']
    obtain ⟨hf, hg⟩ | ⟨f, g, hf, hg, hfunctions⟩ := cases_of_rel h.openFunction
    · rw [hf, hg]
      have happend := h.append (.cons hmade .nil)
      rw [hf, hg] at happend
      exact happend
    · rw [hf, hg]
      exact ⟨h.symbols, h.openType, .some ⟨hfunctions.line, hfunctions.closes,
        List.rel_append hfunctions.locals (.cons hmade .nil), hfunctions.loops, hfunctions.same⟩,
        h.doc, h.loops⟩

/-- Declarations of fields that declare the same keep drafts alike. -/
theorem declareFields (h : like.Drafts Opened draft draft') {list list' : Text}
    {column column' : Nat}
    (hparts : List.Forall₂
      (like.Located (Part.toField source number line) (Part.toField source' number line'))
      (locateParts line column (Part.parseList list))
      (locateParts line' column' (Part.parseList list'))) :
    like.Drafts Opened (draft.declareFields source number line list column)
      (draft'.declareFields source' number line' list' column') := by
  obtain ⟨ht, hu⟩ | ⟨t, u, ht, hu, htypes⟩ := cases_of_rel h.openType
  · unfold Draft.declareFields
    rw [ht, hu]
    exact h
  · rw [Draft.declareFields_of_some ht, Draft.declareFields_of_some hu]
    refine ⟨h.symbols, .some ⟨htypes.line, ?_, htypes.same⟩, h.openFunction, h.doc, h.loops⟩
    exact forall₂_addLocated (fun found found' key hfound =>
      any_key_congr (hfound.imp fun _ _ hsame => hsame.countsAs) key) hparts htypes.fields

/-- Opening functions that count as the same keeps drafts alike, if what was open counts as the same
when it is closed on the line above. -/
theorem openFunctionAt (h : like.Drafts Opened draft draft') {name name' suffix suffix' : Text}
    {column column' : Nat} {parameters parameters' : Option (Text × Nat)}
    (hfinish : ∀ f g, Opened f g → f.line = g.line ∧ like.Same
      (.ofFunction (f.finish source (max (number - 1) f.line)))
      (.ofFunction (g.finish source' (max (number - 1) f.line))))
    (hfresh : ∀ doc doc', like.SameDoc doc doc' → like.Functions
      (.fresh source number line name suffix column parameters doc)
      (.fresh source' number line' name' suffix' column' parameters' doc')) :
    like.Drafts like.Functions
      (draft.openFunctionAt source number line name suffix column parameters)
      (draft'.openFunctionAt source' number line' name' suffix' column' parameters') := by
  rw [Draft.openFunctionAt_eq, Draft.openFunctionAt_eq, Draft.endFunction, Draft.endFunction]
  obtain ⟨hf, hg⟩ | ⟨f, g, hf, hg, hopened⟩ := cases_of_rel h.openFunction
  · rw [hf, hg]
    exact ⟨h.symbols, h.openType, .some (hfresh _ _ h.doc), like.sameDoc_empty, h.loops⟩
  · rw [hf, hg]
    obtain ⟨hline, hsame⟩ := hfinish f g hopened
    have hclosed : like.Drafts like.Functions
        (draft.closeFunction source (max (number - 1) f.line))
        (draft'.closeFunction source' (max (number - 1) g.line)) := by
      rw [← hline]
      refine (h.closeFunction fun f' g' hf' hopened' => ?_).1
      cases hf.symm.trans hf'
      exact (hfinish f g' hopened').2
    exact ⟨hclosed.symbols, hclosed.openType, .some (hfresh _ _ hclosed.doc), like.sameDoc_empty,
      hclosed.loops⟩

/-- Opening types that count as the same keeps drafts alike; what was open is closed on the line
above. -/
theorem openTypeAt (h : like.Drafts Opened draft draft') {name name' : Text}
    {column column' : Nat}
    (hfresh : like.Types (.fresh number line name column) (.fresh number line' name' column')) :
    like.Drafts Opened (draft.openTypeAt source number line name column)
      (draft'.openTypeAt source' number line' name' column') := by
  unfold Draft.openTypeAt
  obtain ⟨ht, hu⟩ | ⟨t, u, ht, hu, htypes⟩ := cases_of_rel h.openType
  · rw [ht, hu]
    exact ⟨h.symbols, .some hfresh, h.openFunction, like.sameDoc_empty, h.loops⟩
  · rw [ht, hu]
    have hclosed := h.closeType (max (number - 1) t.line)
    dsimp only
    rw [← htypes.line]
    exact ⟨hclosed.symbols, .some hfresh, hclosed.openFunction, like.sameDoc_empty, hclosed.loops⟩

/-- Documentation that counts as the same may be waiting. -/
theorem withDoc (h : like.Drafts Opened draft draft') {doc doc' : DocBlock}
    (hdoc : like.SameDoc doc doc') :
    like.Drafts Opened { draft with doc } { draft' with doc := doc' } :=
  ⟨h.symbols, h.openType, h.openFunction, hdoc, h.loops⟩

/-- Before the first line, drafts are alike. -/
theorem empty : like.Drafts Opened .empty .empty :=
  ⟨.nil, .none, .none, like.sameDoc_empty, .nil⟩

/-- Statements around functions that declare the same keep drafts alike, however the open functions
compare. -/
theorem stepAround {statement statement' : Statement} {next next' : Draft}
    (h : like.Drafts Opened draft draft')
    (hstatements : like.Statements fetch fetch' number line line' statement statement')
    (hinner : statement.isInner = false) (hbounds : statement.boundsFunction = false)
    (hnext : draft.step source number line statement = .ok next)
    (hnext' : draft'.step source' number line' statement' = .ok next') :
    like.Drafts Opened next next' := by
  cases hstatements with
  | declare | openLoop | closeLoop | assign | other => cases hinner
  | openFunction | closeFunction => cases hbounds
  | includeFile => cases hnext; cases hnext'; exact h
  | documentParameter hdoc => cases hnext; cases hnext'; exact h.withDoc (hdoc _ _ h.doc)
  | documentExample hdoc => cases hnext; cases hnext'; exact h.withDoc (hdoc _ _ h.doc)
  | document hdoc => cases hnext; cases hnext'; exact h.withDoc (hdoc _ _ h.doc)
  | closeType => cases hnext; cases hnext'; exact h.closeType number
  | openType hfresh => cases hnext; cases hnext'; exact h.openTypeAt hfresh
  | declareFields hparts => cases hnext; cases hnext'; exact h.declareFields hparts
  | label hlabel => cases hnext; cases hnext'; exact h.append (.cons hlabel .nil)

/-- Statements that declare the same keep drafts alike. -/
theorem step {statement statement' : Statement} {next next' : Draft}
    (h : like.Drafts like.Functions draft draft')
    (hstatements : like.Statements fetch fetch' number line line' statement statement')
    (hnext : draft.step source number line statement = .ok next)
    (hnext' : draft'.step source' number line' statement' = .ok next') :
    like.Drafts like.Functions next next' := by
  have hsame := hstatements
  cases hstatements with
  | @declare keyword keyword' list list' column column' hkeyword hparts =>
    obtain ⟨declarator, hdeclarator, rfl⟩ := Draft.step_declare_eq_ok_iff.1 hnext
    obtain ⟨declarator', hdeclarator', rfl⟩ := Draft.step_declare_eq_ok_iff.1 hnext'
    rw [← hkeyword, hdeclarator] at hdeclarator'
    cases hdeclarator'
    exact h.declare (hparts declarator)
  | @openLoop _ _ _ _ _ _ closed hpart hclosed =>
    cases hnext
    cases hnext'
    cases closed with
    | true => exact (h.openLoop hpart).closeLoop (hclosed rfl)
    | false => exact h.openLoop hpart
  | closeLoop hcloses => cases hnext; cases hnext'; exact h.closeLoop hcloses
  | assign hname hpart => cases hnext; cases hnext'; exact h.assign hname hpart
  | closeFunction hcloses =>
    cases hnext
    cases hnext'
    exact (h.closeFunction fun _ _ _ hfunctions => hfunctions.finish hcloses).1
  | openFunction hcloses hfresh =>
    cases hnext
    cases hnext'
    refine h.openFunctionAt (fun f g hfunctions => ⟨hfunctions.line, hfunctions.finish ?_⟩) hfresh
    rcases Nat.le_total (number - 1) f.line with hle | hle
    · rw [Nat.max_eq_right hle]
      exact hfunctions.closes
    · rw [Nat.max_eq_left hle]
      exact hcloses
  | other => cases hnext; cases hnext'; exact h
  | _ => exact h.stepAround hsame rfl rfl hnext hnext'

/-- Lines that declare the same keep drafts alike. -/
theorem afterLine {next next' : Draft} (h : like.Drafts like.Functions draft draft')
    (hstatements : like.Statements fetch fetch' number line line' (Statement.read line)
      (Statement.read line'))
    (hnext : draft.afterLine source fetch (line, number) = .ok next)
    (hnext' : draft'.afterLine source' fetch' (line', number) = .ok next') :
    like.Drafts like.Functions next next' := by
  unfold Draft.afterLine at hnext hnext'
  dsimp only at hnext hnext'
  generalize Statement.read line = statement at hstatements hnext
  generalize Statement.read line' = statement' at hstatements hnext'
  have hsame := hstatements
  cases hstatements with
  | @includeFile target target' hfetch =>
    -- what is spliced in on one side counts as what is spliced in on the other
    obtain ⟨found, hfound, hok⟩ := exists_of_bind_eq_ok hnext
    obtain ⟨found', hfound', hok'⟩ := exists_of_bind_eq_ok hnext'
    cases hok
    cases hok'
    exact h.append (hfetch found found' hfound hfound')
  | _ => exact h.step hsame hnext hnext'

end Drafts

/-- Files whose lines declare the same yield the same symbols, one by one. -/
theorem outcome {found found' : List Symbol}
    (hlength : source.lines.length = source'.lines.length)
    (hstatements : ∀ number line line', source.lines[number]? = some line →
      source'.lines[number]? = some line' → like.Statements fetch fetch' number line line'
        (Statement.read line) (Statement.read line'))
    (hlast : like.Closes source.lastLine) (hfound : source.outcome fetch = .ok found)
    (hfound' : source'.outcome fetch' = .ok found') : List.Forall₂ like.Same found found' := by
  obtain ⟨draft, hdraft, hok⟩ := exists_of_bind_eq_ok hfound
  obtain ⟨draft', hdraft', hok'⟩ := exists_of_bind_eq_ok hfound'
  cases hok
  cases hok'
  have halike := rel_foldlM_zipIdx (R := fun _ => like.Drafts like.Functions) hlength
    (fun number line line' _ _ _ _ hline hline' h hnext hnext' => by
      rw [Nat.zero_add] at hnext hnext'
      exact h.afterLine (hstatements number line line' hline hline') hnext hnext')
    .empty hdraft hdraft'
  exact halike.finish hlast (congrArg (· - 1) hlength)

end Steps

end Likeness

end BlitzLens
