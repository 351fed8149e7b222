import BlitzLens.Proofs.Extraction.Likeness
import Mathlib.Data.List.InsertIdx

/-!
# The order of declarations

An owner, the top level or a function, holds its variables in the order of the lines that declare
them. The iterator of a loop is added late, when the loop is closed, but then takes the place that
it had when the loop was opened. That place stays right because loops are closed from the inside: an
open loop divides what its owner holds into what was declared in front of it and what was declared
behind it (`OpenIterator.Divides`), and no iterator is inserted in front of the place of a loop
around it (`InOrder.insert`). So the variables are in order on every line (`Draft.InOrder.step`) and
when the file ends (`Source.heldInOrder_of_outcome`).
-/

namespace BlitzLens

/-- A variable is declared in front of another one: not on a later line, and on an earlier line if
one of the two is a loop iterator. -/
structure Variable.Precedes (v w : Variable) : Prop where
  /-- It is declared on no later line. -/
  le : v.range.startLine ≤ w.range.startLine
  /-- A line that opens a loop declares nothing else. -/
  lt : v.isIterator = true ∨ w.isIterator = true → v.range.startLine < w.range.startLine

/-- A variable that an owner holds in front of a line; it is no field. -/
structure Variable.OwnedBefore (bound : Nat) (v : Variable) : Prop where
  /-- It is declared in front of the line. -/
  line_lt : v.range.startLine < bound
  /-- It is referred to by its name alone. -/
  guard : v.guard = .name

/-- A variable that is declared on a line, behind everything that was declared before. -/
structure Variable.AddedOn (line : Nat) (v : Variable) : Prop where
  /-- It is declared on the line. -/
  line_eq : v.range.startLine = line
  /-- It is referred to by its name alone. -/
  guard : v.guard = .name
  /-- It is no iterator. -/
  isIterator : v.isIterator = false

/-- An element that is inserted into a list divides it. -/
theorem insertIdx_eq_append {α : Type} (a : α) {list : List α} {index : Nat}
    (h : index ≤ list.length) :
    list.insertIdx index a = list.take index ++ a :: list.drop index := by
  induction index generalizing list with
  | zero => rfl
  | succ index ih =>
    cases list with
    | nil => cases h
    | cons b list => rw [List.insertIdx_succ_cons, ih (Nat.le_of_succ_le_succ h)]; rfl

section Owner

variable {α : Type} {view : α → Option Variable} {bound bound' : Nat} {owned added : List α}
  {loop : OpenLoop} {loops : List OpenLoop} {iterator : OpenIterator}

/-- An open loop divides what its owner holds: the variables in front of its place were declared
before the loop was opened, those behind it afterwards. -/
structure OpenIterator.Divides (view : α → Option Variable) (owned : List α)
    (iterator : OpenIterator) : Prop where
  /-- The place is one of the list. -/
  slot_le : iterator.slot ≤ owned.length
  /-- What stands in front was declared before. -/
  front : ∀ a ∈ owned.take iterator.slot, ∀ v ∈ view a, v.range.startLine < iterator.line
  /-- What stands behind was declared afterwards. -/
  behind : ∀ a ∈ owned.drop iterator.slot, ∀ v ∈ view a, (iterator.line : Int) < v.range.startLine

/-- What an owner holds in front of a line is in order, where `view` tells which of it are
variables. -/
structure InOrder (view : α → Option Variable) (bound : Nat) (owned : List α)
    (loops : List OpenLoop) : Prop where
  /-- Every variable is declared in front of those behind it. -/
  pairwise : owned.Pairwise fun a b => ∀ v ∈ view a, ∀ w ∈ view b, v.Precedes w
  /-- The variables are the owner's own. -/
  before : ∀ a ∈ owned, ∀ v ∈ view a, v.OwnedBefore bound
  /-- Every open loop divides the list. -/
  divides : ∀ iterator, some iterator ∈ loops → iterator.Divides view owned
  /-- The open loops were opened in front of the line. -/
  loop_lt : ∀ iterator, some iterator ∈ loops → iterator.line < bound
  /-- An inner loop was opened behind the loops around it. -/
  nested : loops.Pairwise fun inner outer => ∀ a ∈ inner, ∀ b ∈ outer,
    b.slot ≤ a.slot ∧ b.line < a.line

namespace InOrder

/-- An owner that holds nothing. -/
theorem nil : InOrder view bound [] [] :=
  ⟨.nil, fun _ => (nomatch ·), fun _ => (nomatch ·), fun _ => (nomatch ·), .nil⟩

/-- What is in order in front of a line is so in front of a later one. -/
theorem mono (h : InOrder view bound owned loops) (hle : bound ≤ bound') :
    InOrder view bound' owned loops where
  pairwise := h.pairwise
  before a ha v hv := by
    have hbefore := h.before a ha v hv
    exact ⟨by have := hbefore.line_lt; omega, hbefore.guard⟩
  divides := h.divides
  loop_lt iterator hmem := Nat.lt_of_lt_of_le (h.loop_lt iterator hmem) hle
  nested := h.nested

/-- What a line declares is added behind everything else. -/
theorem append (h : InOrder view bound owned loops)
    (hadded : ∀ a ∈ added, ∀ v ∈ view a, v.AddedOn bound) :
    InOrder view (bound + 1) (owned ++ added) loops where
  pairwise := by
    refine List.pairwise_append.2 ⟨h.pairwise, ?_, fun a ha b hb v hv w hw => ?_⟩
    · refine List.pairwise_of_forall_mem_list fun a ha b hb v hv w hw => ?_
      have hfirst := hadded a ha v hv
      have hsecond := hadded b hb w hw
      refine ⟨Int.le_of_eq (hfirst.line_eq.trans hsecond.line_eq.symm), fun habsurd => ?_⟩
      rw [hfirst.isIterator, hsecond.isIterator] at habsurd
      rcases habsurd with habsurd | habsurd <;> cases habsurd
    · have hlt := (h.before a ha v hv).line_lt
      rw [← (hadded b hb w hw).line_eq] at hlt
      exact ⟨Int.le_of_lt hlt, fun _ => hlt⟩
  before a ha v hv := by
    rcases List.mem_append.1 ha with hold | hnew
    · exact (h.mono (Nat.le_succ bound)).before a hold v hv
    · have hline := (hadded a hnew v hv).line_eq
      exact ⟨by omega, (hadded a hnew v hv).guard⟩
  divides iterator hmem := by
    obtain ⟨hslot, hfront, hbehind⟩ := h.divides iterator hmem
    have hline := h.loop_lt iterator hmem
    refine ⟨?_, fun a ha => ?_, fun a ha v hv => ?_⟩
    · rw [List.length_append]
      omega
    · rw [List.take_append_of_le_length hslot] at ha
      exact hfront a ha
    · rw [List.drop_append_of_le_length hslot, List.mem_append] at ha
      rcases ha with hold | hnew
      · exact hbehind a hold v hv
      · have heq := (hadded a hnew v hv).line_eq
        omega
  loop_lt iterator hmem := Nat.lt_succ_of_lt (h.loop_lt iterator hmem)
  nested := h.nested

/-- A line opens a loop, whose place is behind everything else. -/
theorem push (h : InOrder view bound owned loops)
    (hloop : ∀ iterator ∈ loop, iterator.line = bound ∧ iterator.slot = owned.length) :
    InOrder view (bound + 1) owned (loop :: loops) where
  pairwise := h.pairwise
  before := (h.mono (Nat.le_succ bound)).before
  divides iterator hmem := by
    rcases List.mem_cons.1 hmem with heq | hold
    · obtain ⟨hline, hslot⟩ := hloop iterator heq.symm
      refine ⟨Nat.le_of_eq hslot, fun a ha v hv => ?_, fun a ha => ?_⟩
      · rw [hline]
        exact (h.before a (List.mem_of_mem_take ha) v hv).line_lt
      · rw [hslot, List.drop_length] at ha
        cases ha
    · exact h.divides iterator hold
  loop_lt iterator hmem := by
    rcases List.mem_cons.1 hmem with heq | hold
    · rw [(hloop iterator heq.symm).1]
      exact Nat.lt_succ_self bound
    · exact Nat.lt_succ_of_lt (h.loop_lt iterator hold)
  nested := by
    refine List.pairwise_cons.2 ⟨fun outer houter a ha b hb => ?_, h.nested⟩
    obtain ⟨hline, hslot⟩ := hloop a ha
    have hb' : outer = some b := hb
    rw [hb'] at houter
    rw [hline, hslot]
    exact ⟨(h.divides b houter).slot_le, h.loop_lt b houter⟩

/-- The innermost loop is closed without an iterator. -/
theorem tail (h : InOrder view bound owned (loop :: loops)) : InOrder view bound owned loops where
  pairwise := h.pairwise
  before := h.before
  divides iterator hmem := h.divides iterator (List.mem_cons_of_mem _ hmem)
  loop_lt iterator hmem := h.loop_lt iterator (List.mem_cons_of_mem _ hmem)
  nested := (List.pairwise_cons.1 h.nested).2

/-- The iterator of the innermost loop takes its place. -/
theorem insert (h : InOrder view bound owned (some iterator :: loops)) {a : α} {v : Variable}
    (hview : view a = some v) (hline : v.range.startLine = iterator.line)
    (hguard : v.guard = .name) : InOrder view bound (owned.insertIdx iterator.slot a) loops := by
  obtain ⟨hslot, hfront, hbehind⟩ := h.divides iterator List.mem_cons_self
  obtain ⟨hinner, hnested⟩ := List.pairwise_cons.1 h.nested
  -- the iterator stands between what was declared in front of its loop and what was declared behind
  have hlength : (owned.take iterator.slot).length = iterator.slot := List.length_take_of_le hslot
  rw [insertIdx_eq_append a hslot]
  have howned := (List.take_append_drop iterator.slot owned).symm
  generalize owned.take iterator.slot = front at hfront hlength howned ⊢
  generalize owned.drop iterator.slot = behind at hbehind howned ⊢
  subst howned
  obtain ⟨hpairwiseFront, hpairwiseBehind, hcross⟩ := List.pairwise_append.1 h.pairwise
  have hval {w : Variable} (hw : w ∈ view a) : w = v := Option.some.inj (hw.symm.trans hview)
  refine ⟨?_, fun b hb w hw => ?_, fun outer houter => ?_, fun outer houter =>
    h.loop_lt outer (List.mem_cons_of_mem _ houter), hnested⟩
  · refine List.pairwise_append.2 ⟨hpairwiseFront, List.pairwise_cons.2 ⟨fun b hb w hw u hu => ?_,
      hpairwiseBehind⟩, fun b hb c hc w hw u hu => ?_⟩
    · have hlt := hbehind b hb u hu
      rw [hval hw]
      exact ⟨by omega, fun _ => by omega⟩
    · rcases List.mem_cons.1 hc with rfl | hc
      · have hlt := hfront b hb w hw
        rw [hval hu]
        exact ⟨by omega, fun _ => by omega⟩
      · exact hcross b hb c hc w hw u hu
  · rcases List.mem_append.1 hb with hold | hnew
    · exact h.before b (List.mem_append_left _ hold) w hw
    · rcases List.mem_cons.1 hnew with rfl | hold
      · rw [hval hw]
        refine ⟨?_, hguard⟩
        rw [hline]
        exact Int.ofNat_lt.2 (h.loop_lt iterator List.mem_cons_self)
      · exact h.before b (List.mem_append_right _ hold) w hw
  · obtain ⟨hslots, hlines⟩ := hinner (some outer) houter iterator rfl outer rfl
    obtain ⟨houterSlot, houterFront, houterBehind⟩ :=
      h.divides outer (List.mem_cons_of_mem _ houter)
    have hle : outer.slot ≤ front.length := by omega
    rw [List.take_append_of_le_length hle] at houterFront
    rw [List.drop_append_of_le_length hle] at houterBehind
    refine ⟨?_, fun b hb => ?_, fun b hb w hw => ?_⟩
    · rw [List.length_append]
      omega
    · rw [List.take_append_of_le_length hle] at hb
      exact houterFront b hb
    · rw [List.drop_append_of_le_length hle, List.mem_append, List.mem_cons] at hb
      rcases hb with hold | rfl | hold
      · exact houterBehind b (List.mem_append_left _ hold) w hw
      · rw [hval hw, hline]
        exact Int.ofNat_lt.2 hlines
      · exact houterBehind b (List.mem_append_right _ hold) w hw

end InOrder

end Owner

/-! ## What is declared -/

/-- A variable that is part of a record. -/
structure Variable.IsField (v : Variable) : Prop where
  /-- It is referred to behind a field marker. -/
  guard : v.guard = .field
  /-- It is no iterator. -/
  isIterator : v.isIterator = false

/-- A symbol holds its own variables in order: a function its locals, and a type nothing but
fields. -/
def Symbol.HoldsInOrder : Symbol → Prop
  | .ofFunction f => f.locals.Pairwise Variable.Precedes ∧ ∀ v ∈ f.locals, v.guard = .name
  | .ofType t => ∀ v ∈ t.fields, v.IsField
  | _ => True

section Declared

variable {source : Source} {number : Nat} {line : Text}

/-- A part declares a variable on its line. -/
theorem Part.addedOn_toVariable (part : Part) (column : Nat) (declaration : Text)
    (storage : Storage) (hstorage : storage ≠ .field) (description : Text) (constant : Bool) :
    (part.toVariable source number column declaration storage description constant none).AddedOn
      number := by
  refine ⟨rfl, ?_, rfl⟩
  cases storage with
  | field => exact absurd rfl hstorage
  | _ => rfl

/-- Located parts are added behind what was found before. -/
theorem exists_addLocated_eq_append (build : Part → Nat → Variable)
    (declared : List Variable → Text → Bool) (found : List Variable) (located : List (Part × Nat))
    {P : Variable → Prop} (hbuild : ∀ part start, P (build part start)) :
    ∃ added, addLocated build declared found located = found ++ added ∧ ∀ v ∈ added, P v := by
  obtain ⟨placed, -, hadd⟩ := exists_sublist_addLocated build declared found located
  refine ⟨_, hadd, fun v hv => ?_⟩
  obtain ⟨place, -, rfl⟩ := List.mem_map.1 hv
  exact hbuild place.1 place.2

/-- A declarator declares variables on its line. -/
theorem Declarator.addedOn_build (declarator : Declarator) (part : Part) (start : Nat) :
    (declarator.build source number line part start).AddedOn number :=
  part.addedOn_toVariable _ _ _ (by cases declarator <;> decide) _ _

/-- A declaration of fields declares fields. -/
theorem Part.isField_toField (part : Part) (start : Nat) :
    (part.toField source number line start).IsField :=
  ⟨rfl, rfl⟩

end Declared

/-! ## Functions -/

/-- An open function holds its variables in order. -/
abbrev FunctionDraft.InOrder (bound : Nat) (f : FunctionDraft) : Prop :=
  BlitzLens.InOrder some bound f.locals f.loops

namespace FunctionDraft.InOrder

variable {bound : Nat} {f : FunctionDraft}

/-- Closing the innermost loop of a function keeps its variables in order. -/
theorem closeLoop (h : f.InOrder bound) (source : Source) (last : Nat) :
    (f.closeLoop source last).InOrder bound := by
  unfold FunctionDraft.closeLoop
  split
  · exact h
  · next loops hloops =>
    rw [FunctionDraft.InOrder, hloops] at h
    exact h.tail
  · next iterator loops hloops =>
    rw [FunctionDraft.InOrder, hloops] at h
    exact h.insert rfl rfl rfl

/-- Closing some loops of a function keeps its variables in order. -/
theorem closeLoops (h : f.InOrder bound) (source : Source) (last count : Nat) :
    (f.closeLoops source last count).InOrder bound := by
  induction count generalizing f with
  | zero => exact h
  | succ count ih => exact ih (h.closeLoop source last)

/-- A function that ends holds its variables in order. -/
theorem finish (h : f.InOrder bound) (source : Source) (last : Nat) :
    (Symbol.ofFunction (f.finish source last)).HoldsInOrder := by
  rw [f.finish_eq]
  have hclosed := h.closeLoops source last f.loops.length
  refine ⟨?_, fun v hv => ?_⟩
  · exact hclosed.pairwise.imp fun hprecedes => hprecedes _ rfl _ rfl
  · exact (hclosed.before v hv v rfl).guard

/-- A function that is opened on a line holds its parameters. -/
theorem fresh {source : Source} {number : Nat} {line : Text} (name suffix : Text) (column : Nat)
    (parameters : Option (Text × Nat)) (doc : DocBlock) :
    (FunctionDraft.fresh source number line name suffix column parameters doc).InOrder
      (number + 1) := by
  cases parameters with
  | none => exact .nil
  | some found =>
    obtain ⟨list, start⟩ := found
    obtain ⟨added, hadd, hadded⟩ := exists_addLocated_eq_append (Part.toParameter source number)
      declaresKey [] (locateParts line start (Part.parseList list))
      fun part start => part.addedOn_toVariable start part.text .parameter (by decide) [] false
    have hinOrder : BlitzLens.InOrder some (number + 1) ([] ++ added) [] :=
      BlitzLens.InOrder.nil.append fun v hv w hw => by cases hw; exact hadded v hv
    rw [← hadd] at hinOrder
    exact hinOrder

end FunctionDraft.InOrder

/-! ## Drafts -/

namespace Draft

/-- The variables of a draft in front of a line are in order. -/
structure InOrder (bound : Nat) (draft : Draft) : Prop where
  /-- The top level holds its variables in order. -/
  symbols : BlitzLens.InOrder Symbol.asVariable? bound draft.symbols draft.loops
  /-- The finished symbols hold theirs in order. -/
  holds : ∀ symbol ∈ draft.symbols, symbol.HoldsInOrder
  /-- The open function holds its own in order. -/
  openFunction : ∀ f, draft.openFunction = some f → f.InOrder bound
  /-- The open type holds fields. -/
  openType : ∀ t, draft.openType = some t → ∀ v ∈ t.fields, v.IsField

namespace InOrder

variable {draft next : Draft} {source : Source} {bound bound' number : Nat} {line : Text}

/-- Before the first line, there is nothing to put in order. -/
theorem empty : Draft.empty.InOrder bound :=
  ⟨.nil, fun _ => (nomatch ·), fun _ => (nomatch ·), fun _ => (nomatch ·)⟩

/-- What is in order in front of a line is so in front of a later one. -/
theorem mono (h : draft.InOrder bound) (hle : bound ≤ bound') : draft.InOrder bound' :=
  ⟨h.symbols.mono hle, h.holds, fun f hf => (h.openFunction f hf).mono hle, h.openType⟩

/-- Waiting documentation does not matter. -/
theorem withDoc (h : draft.InOrder bound) (doc : DocBlock) :
    Draft.InOrder bound { draft with doc } :=
  ⟨h.symbols, h.holds, h.openFunction, h.openType⟩

/-- The open function may be another one. -/
theorem withFunction (h : draft.InOrder bound) {f : FunctionDraft} (hf : f.InOrder bound) :
    Draft.InOrder bound { draft with openFunction := some f } :=
  ⟨h.symbols, h.holds, fun _ heq => Option.some.inj heq ▸ hf, h.openType⟩

/-- The open type may be another one. -/
theorem withType (h : draft.InOrder bound) {t : TypeDraft} (ht : ∀ v ∈ t.fields, v.IsField) :
    Draft.InOrder bound { draft with openType := some t } :=
  ⟨h.symbols, h.holds, h.openFunction, fun _ heq => Option.some.inj heq ▸ ht⟩

/-- What a line declares at the top level is added behind the symbols. -/
theorem append (h : draft.InOrder number) {added : List Symbol}
    (hadded : ∀ symbol ∈ added, ∀ v ∈ symbol.asVariable?, v.AddedOn number)
    (hholds : ∀ symbol ∈ added, symbol.HoldsInOrder) :
    Draft.InOrder (number + 1) { draft with symbols := draft.symbols ++ added } where
  symbols := h.symbols.append hadded
  holds symbol hmem := (List.mem_append.1 hmem).elim (h.holds symbol) (hholds symbol)
  openFunction := (h.mono (Nat.le_succ number)).openFunction
  openType := h.openType

/-- What is no variable is added behind the symbols. -/
theorem appendOther (h : draft.InOrder number) {symbol : Symbol}
    (hother : symbol.asVariable? = none) (hholds : symbol.HoldsInOrder) :
    Draft.InOrder (number + 1) { draft with symbols := draft.symbols ++ [symbol] } := by
  refine h.append (fun other hmem v hv => ?_) fun other hmem => ?_
  · rw [List.mem_singleton.1 hmem, hother] at hv
    cases hv
  · rw [List.mem_singleton.1 hmem]
    exact hholds

/-- The open function is closed. -/
theorem closeFunction (h : draft.InOrder number) (source : Source) (last : Nat) :
    (draft.closeFunction source last).InOrder (number + 1) := by
  unfold Draft.closeFunction
  split
  · next f hf =>
    have happend := h.appendOther rfl ((h.openFunction f hf).finish source last)
    exact ⟨happend.symbols, happend.holds, fun _ => (nomatch ·), happend.openType⟩
  · exact h.mono (Nat.le_succ number)

/-- The open type is closed. -/
theorem closeType (h : draft.InOrder number) (source : Source) (last : Nat) :
    (draft.closeType source last).InOrder (number + 1) := by
  unfold Draft.closeType
  split
  · next t ht =>
    have hholds : (Symbol.ofType (t.finish source last)).HoldsInOrder := h.openType t ht
    have happend := h.appendOther rfl hholds
    exact ⟨happend.symbols, happend.holds, happend.openFunction, fun _ => (nomatch ·)⟩
  · exact h.mono (Nat.le_succ number)

/-- The innermost loop of the top level is closed. -/
theorem closeTopLoop (h : draft.InOrder bound) (source : Source) (last : Nat) :
    (draft.closeTopLoop source last).InOrder bound := by
  have hsymbols := h.symbols
  unfold Draft.closeTopLoop
  split
  · exact h
  · next loops hloops =>
    rw [hloops] at hsymbols
    exact ⟨hsymbols.tail, h.holds, h.openFunction, h.openType⟩
  · next iterator loops hloops =>
    rw [hloops] at hsymbols
    refine ⟨hsymbols.insert rfl rfl rfl, fun symbol hmem => ?_, h.openFunction, h.openType⟩
    rcases List.eq_or_mem_of_mem_insertIdx hmem with rfl | hold
    · trivial
    · exact h.holds symbol hold

/-- Some loops of the top level are closed. -/
theorem closeTopLoops (h : draft.InOrder bound) (source : Source) (last count : Nat) :
    (draft.closeTopLoops source last count).InOrder bound := by
  induction count generalizing draft with
  | zero => exact h
  | succ count ih => exact ih (h.closeTopLoop source last)

/-- The innermost loop is closed. -/
theorem closeLoop (h : draft.InOrder bound) (source : Source) (last : Nat) :
    (draft.closeLoop source last).InOrder bound := by
  unfold Draft.closeLoop
  split
  · next f hf => exact h.withFunction ((h.openFunction f hf).closeLoop source last)
  · exact h.closeTopLoop source last

/-- Variables are declared. -/
theorem declare (h : draft.InOrder number) (declarator : Declarator) (list : Text) (column : Nat) :
    (draft.declare source number line declarator list column).InOrder (number + 1) := by
  cases hf : draft.openFunction with
  | some f =>
    rw [Draft.declare_of_some hf]
    obtain ⟨added, hadd, hadded⟩ := exists_addLocated_eq_append
      (declarator.build source number line)
      declaresKey f.locals (locateParts line column (Part.parseList list))
      declarator.addedOn_build
    rw [hadd]
    refine (h.mono (Nat.le_succ number)).withFunction ((h.openFunction f hf).append ?_)
    intro v hv w hw
    cases hw
    exact hadded v hv
  | none =>
    rw [Draft.declare_of_none hf]
    obtain ⟨added, hadd, hadded⟩ := exists_addLocated_eq_append
      (declarator.build source number line)
      (fun found key => declaresKey (topVariables draft.symbols ++ found) key) []
      (locateParts line column (Part.parseList list)) declarator.addedOn_build
    rw [hadd, List.nil_append]
    have hmade {symbol : Symbol} (hmem : symbol ∈ added.map .ofVariable) :
        ∃ v, symbol = .ofVariable v ∧ v.AddedOn number := by
      obtain ⟨v, hv, rfl⟩ := List.mem_map.1 hmem
      exact ⟨v, rfl, hadded v hv⟩
    refine h.append (fun symbol hmem w hw => ?_) fun symbol hmem => ?_
    · obtain ⟨v, rfl, hv⟩ := hmade hmem
      cases hw
      exact hv
    · obtain ⟨v, rfl, -⟩ := hmade hmem
      trivial

/-- A loop is opened. -/
theorem openLoop (h : draft.InOrder number) (name suffix : Text) (column : Nat) :
    (draft.openLoop number line name suffix column).InOrder (number + 1) := by
  have hiterator (slot : Nat) : ∀ iterator ∈ (draft.loopPart? (name ++ suffix)).map
      (Part.toIterator number line column slot), iterator.line = number ∧ iterator.slot = slot := by
    intro iterator hmem
    obtain ⟨part, -, rfl⟩ := Option.map_eq_some_iff.1 hmem
    exact ⟨rfl, rfl⟩
  have hmono := h.mono (Nat.le_succ number)
  cases hf : draft.openFunction with
  | some f =>
    rw [Draft.openLoop_of_some hf]
    exact hmono.withFunction ((h.openFunction f hf).push (hiterator f.locals.length))
  | none =>
    rw [Draft.openLoop_of_none hf]
    exact ⟨h.symbols.push (hiterator draft.symbols.length), h.holds, hmono.openFunction, h.openType⟩

/-- A value is assigned. -/
theorem assign (h : draft.InOrder number) (name sign : Text) (column : Nat) :
    (draft.assign source number line name sign column).InOrder (number + 1) := by
  have hmono := h.mono (Nat.le_succ number)
  unfold Draft.assign
  split
  · exact hmono
  split
  · exact hmono
  · next part hpart =>
    extract_lets made
    have hmade : made.AddedOn number := part.addedOn_toVariable _ _ _ (by decide) _ _
    split
    · next f hf =>
      refine hmono.withFunction ((h.openFunction f hf).append fun v hv w hw => ?_)
      cases hw
      rw [List.mem_singleton.1 hv]
      exact hmade
    · refine h.append (fun symbol hmem w hw => ?_) fun symbol hmem => ?_
      · rw [List.mem_singleton.1 hmem] at hw
        cases hw
        exact hmade
      · rw [List.mem_singleton.1 hmem]
        trivial

/-- A function is opened. -/
theorem openFunctionAt (h : draft.InOrder number) (name suffix : Text) (column : Nat)
    (parameters : Option (Text × Nat)) :
    (draft.openFunctionAt source number line name suffix column parameters).InOrder
      (number + 1) := by
  have hclosed : (draft.endFunction source number).InOrder (number + 1) := by
    unfold Draft.endFunction
    split
    · exact h.closeFunction source _
    · exact h.mono (Nat.le_succ number)
  rw [Draft.openFunctionAt_eq]
  exact (hclosed.withDoc .empty).withFunction (.fresh name suffix column parameters _)

/-- A type is opened. -/
theorem openTypeAt (h : draft.InOrder number) (name : Text) (column : Nat) :
    (draft.openTypeAt source number line name column).InOrder (number + 1) := by
  unfold Draft.openTypeAt
  extract_lets closed
  have hclosed : closed.InOrder (number + 1) := by
    simp only [closed]
    split
    · exact h.closeType source _
    · exact h.mono (Nat.le_succ number)
  exact (hclosed.withDoc .empty).withType fun _ => (nomatch ·)

/-- Fields are declared. -/
theorem declareFields (h : draft.InOrder number) (list : Text) (column : Nat) :
    (draft.declareFields source number line list column).InOrder (number + 1) := by
  have hmono := h.mono (Nat.le_succ number)
  cases ht : draft.openType with
  | none =>
    unfold Draft.declareFields
    rw [ht]
    exact hmono
  | some t =>
    rw [Draft.declareFields_of_some ht]
    obtain ⟨added, hadd, hadded⟩ := exists_addLocated_eq_append (Part.toField source number line)
      (fun found key => found.any fun v => v.key == key) t.fields
      (locateParts line column (Part.parseList list)) Part.isField_toField
    rw [hadd]
    exact hmono.withType fun v hv => (List.mem_append.1 hv).elim (h.openType t ht v) (hadded v)

/-- Every line that is no include keeps the variables in order. -/
theorem step (h : draft.InOrder number) {statement : Statement}
    (hnext : draft.step source number line statement = .ok next) : next.InOrder (number + 1) := by
  have hmono := h.mono (Nat.le_succ number)
  cases statement with
  | includeFile target => cases hnext; exact hmono
  | declare keyword list column =>
    obtain ⟨declarator, -, rfl⟩ := Draft.step_declare_eq_ok_iff.1 hnext
    exact h.declare declarator list column
  | openLoop name suffix column closed =>
    cases hnext
    cases closed with
    | true => exact (h.openLoop name suffix column).closeLoop source number
    | false => exact h.openLoop name suffix column
  | closeLoop => cases hnext; exact hmono.closeLoop source number
  | assign name sign column => cases hnext; exact h.assign name sign column
  | documentParameter text => cases hnext; exact hmono.withDoc _
  | documentExample text => cases hnext; exact hmono.withDoc _
  | document text => cases hnext; exact hmono.withDoc _
  | closeFunction => cases hnext; exact h.closeFunction source number
  | openFunction name suffix column parameters =>
    cases hnext
    exact h.openFunctionAt name suffix column parameters
  | closeType => cases hnext; exact h.closeType source number
  | openType name column => cases hnext; exact h.openTypeAt name column
  | declareFields list column => cases hnext; exact h.declareFields list column
  | label name column =>
    cases hnext
    exact h.appendOther rfl trivial
  | other => cases hnext; exact hmono

end InOrder

end Draft

/-! ## A whole file -/

/-- The symbols of a file hold their variables in order, and so does the top level. -/
structure HeldInOrder (found : List Symbol) : Prop where
  /-- Every top-level variable is declared in front of those behind it. -/
  pairwise : (topVariables found).Pairwise Variable.Precedes
  /-- The top-level variables are no fields. -/
  guard : ∀ v ∈ topVariables found, v.guard = .name
  /-- Every symbol holds its own variables in order. -/
  holds : ∀ symbol ∈ found, symbol.HoldsInOrder

/-- A file without includes yields symbols that hold their variables in order. -/
theorem Source.heldInOrder_of_outcome {source : Source}
    {fetch : Text → Except ExtractError (List Symbol)} {found : List Symbol}
    (hincludes : ∀ line ∈ source.lines, (Statement.read line).target? = none)
    (h : source.outcome fetch = .ok found) : HeldInOrder found := by
  obtain ⟨draft, hinOrder, rfl⟩ := source.exists_draft_of_no_includes (P := fun number draft =>
    draft.InOrder number) .empty hincludes (fun _ _ _ _ _ hnext hdraft => hdraft.step hnext) h
  -- what is still open is closed, the function before the type and the loops last
  have hclosed := (hinOrder.closeFunction source source.lastLine).closeType source source.lastLine
  have hfinished := hclosed.closeTopLoops source source.lastLine
    ((draft.closeFunction source source.lastLine).closeType source source.lastLine).loops.length
  refine ⟨?_, fun v hv => ?_, hfinished.holds⟩
  · rw [topVariables, List.pairwise_filterMap]
    exact hfinished.symbols.pairwise.imp fun hprecedes v hv w hw => hprecedes v hv w hw
  · obtain ⟨symbol, hsymbol, hview⟩ := List.mem_filterMap.1 hv
    exact (hfinished.symbols.before symbol hsymbol v hview).guard

end BlitzLens
