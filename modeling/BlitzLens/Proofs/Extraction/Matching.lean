import BlitzLens.Proofs.Extraction.Levels
import BlitzLens.Proofs.Extraction.Likeness
import BlitzLens.Proofs.Extraction.Scopes
import Mathlib.Data.List.InsertIdx

/-!
# Loops and the lines that close them

An owner keeps its open loops on a stack, and a scan closes the innermost one. This agrees with the
counting of `Source.closingLine`: a loop of an owner that has `depth` loops above it on the stack
awaits the line that counting finds for a level with `depth` levels inside it (`Source.Awaits`).
Hence every iterator that a scan yields ends where its loop is closed, and the scopes of two
iterators of one owner share no line, or one of them lies within the other.

## Main definitions

* `Variable.Matched`: an iterator of an owner ends where counting says.
* `Source.LoopsMatched`: all iterators of a file do.

## Main results

* `Draft.LoopsMatched.change`: every way in which a line changes a draft keeps its loops matched.
* `Visit.loops_matched`: every scan that yields symbols matches its loops.
-/

namespace BlitzLens

/-! ## Matched iterators -/

/-- Two regions share no line, or one of them lies within the other. -/
def Span.DisjointOrNested (span other : Span) : Prop :=
  span.LineDisjoint other ∨ span.Within other ∨ other.Within span

/-- A variable is the iterator of a loop of an owner, and extends to the line that closes it. -/
def Variable.Matched (source : Source) (owner : Option Nat) (v : Variable) : Prop :=
  ∃ (line : Nat) (closed : Bool), v.range.startLine = line ∧ source.OpensLevel line closed ∧
    source.functionAt line = owner ∧ v.scopeEnd = some (source.closingLine line : Int) ∧
    v.scope = source.block line (source.closingLine line)

/-- All iterators among the variables of an owner are matched. -/
def IteratorsMatched (source : Source) (owner : Option Nat) (found : List Variable) : Prop :=
  ∀ v ∈ found, v.isIterator = true → v.Matched source owner

/-- The iterators of a symbol are matched: a top-level iterator by the levels of the top level, the
iterators of a function by the levels of the function. A type has none. -/
def Symbol.LoopsMatched (source : Source) : Symbol → Prop
  | .ofVariable v => v.isIterator = true → v.Matched source none
  | .ofFunction f => ∃ line : Nat, f.range.startLine = line ∧
      source.functionAt (line + 1) = some line ∧ f.endLine = source.functionEnd line ∧
      IteratorsMatched source (some line) f.locals
  | .ofType t => ∀ v ∈ t.fields, v.isIterator = false
  | .ofLabel _ => True

/-- The loops of what a file declares are matched. -/
structure Source.LoopsMatched (source : Source) (own : List Symbol) : Prop where
  /-- Every iterator ends where its loop is closed. -/
  symbols : ∀ symbol ∈ own, symbol.LoopsMatched source
  /-- Loops of the top level are nested or share no line. -/
  top : ∀ v ∈ topVariables own, ∀ w ∈ topVariables own,
    v.isIterator = true → w.isIterator = true → v.scope.DisjointOrNested w.scope
  /-- Loops of one function are nested or share no line. -/
  locals : ∀ f, .ofFunction f ∈ own → ∀ v ∈ f.locals, ∀ w ∈ f.locals,
    v.isIterator = true → w.isIterator = true → v.scope.DisjointOrNested w.scope

/-- A region that is disjoint from another one or nested is so in either order. -/
theorem Span.DisjointOrNested.symm {span other : Span} (h : span.DisjointOrNested other) :
    other.DisjointOrNested span := by
  rcases h with hdisjoint | hwithin | hwithin
  · exact .inl fun line hline => hdisjoint line hline.symm
  · exact .inr (.inr hwithin)
  · exact .inr (.inl hwithin)

section Matched

variable {source : Source} {owner : Option Nat} {v w : Variable} {last number : Nat}

/-- The iterator of the first of two loops of one owner. -/
theorem Variable.Matched.disjointOrNested_of_le (hv : v.Matched source owner)
    (hw : w.Matched source owner) (hle : v.range.startLine ≤ w.range.startLine) :
    v.scope.DisjointOrNested w.scope := by
  obtain ⟨first, _, hstart, hopens, howner, -, hscope⟩ := hv
  obtain ⟨second, _, hstart', hopens', howner', -, hscope'⟩ := hw
  rw [hstart, hstart'] at hle
  rw [hscope, hscope']
  rcases Nat.lt_or_eq_of_le (Int.ofNat_le.1 hle) with hlt | rfl
  · rcases Source.closingLine_nested hopens hopens' hlt (howner.trans howner'.symm) with
      hbefore | hnested
    · exact .inl (Span.lineDisjoint_of_lt (Int.ofNat_lt.2 hbefore))
    · exact .inr (.inr (Source.block_within (Nat.le_of_lt hlt) hnested))
  · exact .inr (.inl (.refl _))

/-- The scopes of two iterators of one owner share no line, or one lies within the other. -/
theorem Variable.Matched.disjointOrNested (hv : v.Matched source owner)
    (hw : w.Matched source owner) : v.scope.DisjointOrNested w.scope := by
  rcases Int.le_total v.range.startLine w.range.startLine with hle | hle
  · exact hv.disjointOrNested_of_le hw hle
  · exact (hw.disjointOrNested_of_le hv hle).symm

/-- If all symbols of a file are matched, then so are its loops. -/
theorem Source.loopsMatched_of_symbols {own : List Symbol}
    (h : ∀ symbol ∈ own, symbol.LoopsMatched source) : source.LoopsMatched own := by
  have htop (v : Variable) (hv : v ∈ topVariables own) (hiterator : v.isIterator = true) :
      v.Matched source none := by
    obtain ⟨symbol, hsymbol, hview⟩ := List.mem_filterMap.1 hv
    cases symbol <;> cases hview
    exact h _ hsymbol hiterator
  refine ⟨h, fun v hv w hw hiterator hiterator' => ?_,
    fun f hf v hv w hw hiterator hiterator' => ?_⟩
  · exact (htop v hv hiterator).disjointOrNested (htop w hw hiterator')
  · obtain ⟨_, -, -, -, hlocals⟩ := h _ hf
    exact (hlocals v hv hiterator).disjointOrNested (hlocals w hw hiterator')

/-- Variables that are no iterators may join those of an owner. -/
theorem IteratorsMatched.append {found added : List Variable}
    (h : IteratorsMatched source owner found) (hadded : ∀ v ∈ added, v.isIterator = false) :
    IteratorsMatched source owner (found ++ added) := by
  intro v hv hiterator
  rcases List.mem_append.1 hv with hold | hnew
  · exact h v hold hiterator
  · rw [hadded v hnew] at hiterator
    cases hiterator

/-! ## The stack of open loops -/

/-- The loop of an iterator is one of an owner, and is closed on a line. -/
structure OpenIterator.ClosesOn (source : Source) (owner : Option Nat) (last : Nat)
    (iterator : OpenIterator) : Prop where
  /-- Its line opens a loop. -/
  opens : ∃ closed, source.OpensLevel iterator.line closed
  /-- The loop belongs to the owner. -/
  owner : source.functionAt iterator.line = owner
  /-- The line closes it. -/
  closingLine : source.closingLine iterator.line = last

/-- The open loops of an owner, innermost first, await the lines that counting finds: on a stack,
the loops above a loop are the levels inside it. -/
def Source.Awaits (source : Source) (owner : Option Nat) (number : Nat)
    (loops : List OpenLoop) : Prop :=
  ∀ (depth : Nat) (iterator : OpenIterator), loops[depth]? = some (some iterator) →
    iterator.ClosesOn source owner (source.closingAt owner depth number)

/-- A loop that is closed leaves a matched iterator. -/
theorem OpenIterator.ClosesOn.matched {iterator : OpenIterator}
    (h : iterator.ClosesOn source owner last) (storage : Storage) :
    (iterator.close source storage last).Matched source owner := by
  obtain ⟨closed, hopens⟩ := h.opens
  refine ⟨iterator.line, closed, rfl, hopens, h.owner, ?_, ?_⟩
  · rw [h.closingLine]
    rfl
  · rw [h.closingLine]
    rfl

namespace Source.Awaits

variable {loop : OpenLoop} {loops : List OpenLoop}

theorem nil : source.Awaits owner number [] :=
  fun _ _ => (nomatch ·)

/-- A line that does not count for an owner leaves its loops waiting. -/
theorem next (h : source.Awaits owner number loops)
    (hnext : ∀ depth,
      source.closingAt owner depth number = source.closingAt owner depth (number + 1)) :
    source.Awaits owner (number + 1) loops := by
  intro depth iterator hiterator
  rw [← hnext depth]
  exact h depth iterator hiterator

/-- A line that opens a loop puts it on the stack. -/
theorem push (h : source.Awaits owner number loops) (howner : source.functionAt number = owner)
    (hopens : source.OpensLevel number false)
    (hloop : ∀ iterator, loop = some iterator → iterator.line = number) :
    source.Awaits owner (number + 1) (loop :: loops) := by
  intro depth iterator hiterator
  cases depth with
  | zero =>
    obtain rfl := hloop iterator (Option.some.inj hiterator)
    exact ⟨⟨false, hopens⟩, howner, by rw [closingLine_of_open hopens, howner]⟩
  | succ depth =>
    obtain ⟨name, suffix, column, hstatement⟩ := hopens
    rw [← closingAt_of_opens howner hstatement rfl]
    exact h depth iterator hiterator

/-- A line that closes a loop takes the innermost one from the stack. -/
theorem pop (h : source.Awaits owner number loops) (howner : source.functionAt number = owner)
    (hstatement : source.statements[number]? = some .closeLoop) :
    source.Awaits owner (number + 1) loops.tail ∧
      ∀ iterator, loops.head? = some (some iterator) → iterator.ClosesOn source owner number := by
  refine ⟨fun depth iterator hiterator => ?_, fun iterator hiterator => ?_⟩
  · rw [List.getElem?_tail] at hiterator
    rw [← closingAt_succ_of_closes howner hstatement rfl]
    exact h (depth + 1) iterator hiterator
  · rw [List.head?_eq_getElem?] at hiterator
    have hcloses := h 0 iterator hiterator
    rwa [closingAt_zero_of_closes howner hstatement rfl] at hcloses

/-- Where a body ends, all open loops of its owner are closed. -/
theorem closesOn (h : source.Awaits owner number loops)
    (hlast : ∀ depth, source.closingAt owner depth number = last) :
    ∀ iterator, some iterator ∈ loops → iterator.ClosesOn source owner last := by
  intro iterator hmem
  obtain ⟨depth, hdepth⟩ := List.mem_iff_getElem?.1 hmem
  exact hlast depth ▸ h depth iterator hdepth

end Source.Awaits

end Matched

/-! ## Functions -/

namespace FunctionDraft

variable {source : Source} {owner : Option Nat} {last : Nat} {f : FunctionDraft}

/-- Closing the innermost loop of a function leaves its iterators matched. -/
theorem iteratorsMatched_closeLoop (h : IteratorsMatched source owner f.locals)
    (hhead : ∀ iterator, f.loops.head? = some (some iterator) →
      iterator.ClosesOn source owner last) :
    IteratorsMatched source owner (f.closeLoop source last).locals := by
  unfold closeLoop
  split
  · exact h
  · exact h
  · next iterator loops hloops =>
    intro v hv hiterator
    rcases List.eq_or_mem_of_mem_insertIdx hv with rfl | hold
    · exact (hhead iterator (by rw [hloops]; rfl)).matched .localVar
    · exact h v hold hiterator

/-- Closing some loops of a function leaves its iterators matched. -/
theorem iteratorsMatched_closeLoops (h : IteratorsMatched source owner f.locals)
    (hloops : ∀ iterator, some iterator ∈ f.loops → iterator.ClosesOn source owner last)
    (count : Nat) : IteratorsMatched source owner (f.closeLoops source last count).locals := by
  induction count generalizing f with
  | zero => exact h
  | succ count ih =>
    obtain ⟨locals, hclosed⟩ := f.closeLoop_eq source last
    refine ih (iteratorsMatched_closeLoop h fun iterator hhead => ?_) fun iterator hmem => ?_
    · exact hloops iterator (List.mem_of_head? hhead)
    · rw [hclosed] at hmem
      exact hloops iterator (List.mem_of_mem_tail hmem)

end FunctionDraft

/-- The loops of an open function are matched: its iterators are, and its open loops await the lines
that close them. -/
structure FunctionDraft.LoopsMatched (source : Source) (number : Nat) (f : FunctionDraft) :
    Prop where
  /-- The iterators among the locals are matched. -/
  locals : IteratorsMatched source (some f.line) f.locals
  /-- The open loops await their lines. -/
  loops : source.Awaits (some f.line) number f.loops

/-! ## Symbols -/

/-- The symbols of a draft are the file's own, with their loops matched, and those `spliced` in; the
slots of the open loops are places among them. -/
structure Draft.OwnMatched (source : Source) (own spliced : List Symbol) (draft : Draft) :
    Prop where
  /-- The symbols are those of the file and those spliced in. -/
  symbols : draft.symbols.Perm (own ++ spliced)
  /-- The loops of the file's symbols are matched. -/
  own : ∀ symbol ∈ own, symbol.LoopsMatched source
  /-- The slots of the open loops are places of the list. -/
  slots : ∀ iterator, some iterator ∈ draft.loops → iterator.slot ≤ draft.symbols.length

namespace Draft

/-- Closing the innermost loop of the top level takes it from the open ones, and changes nothing but
the symbols besides. -/
theorem closeTopLoop_eq (draft : Draft) (source : Source) (last : Nat) :
    ∃ symbols, draft.closeTopLoop source last =
      { draft with symbols, loops := draft.loops.tail } := by
  unfold closeTopLoop
  split
  · next hloops => exact ⟨draft.symbols, by rw [hloops]; cases draft; simp_all⟩
  · next loops hloops => exact ⟨draft.symbols, by rw [hloops]; rfl⟩
  · next iterator loops hloops => exact ⟨_, by rw [hloops]; rfl⟩

/-- When the open function is closed, none is open, and nothing but the symbols changes besides. -/
theorem closeFunction_eq (draft : Draft) (source : Source) (last : Nat) :
    ∃ symbols, draft.closeFunction source last = { draft with symbols, openFunction := none } := by
  unfold closeFunction
  split
  · exact ⟨_, rfl⟩
  · next hnone => exact ⟨draft.symbols, by rw [← hnone]⟩

/-- When the open type is closed, none is open, and nothing but the symbols changes besides. -/
theorem closeType_eq (draft : Draft) (source : Source) (last : Nat) :
    ∃ symbols, draft.closeType source last = { draft with symbols, openType := none } := by
  unfold closeType
  split
  · exact ⟨_, rfl⟩
  · next hnone => exact ⟨draft.symbols, by rw [← hnone]⟩

end Draft

namespace Draft.OwnMatched

variable {source : Source} {own spliced added : List Symbol} {draft : Draft} {last : Nat}

/-- More symbols leave the slots places of the list. -/
theorem slots_append (h : draft.OwnMatched source own spliced) (added : List Symbol) :
    ∀ iterator, some iterator ∈ draft.loops → iterator.slot ≤ (draft.symbols ++ added).length := by
  intro iterator hmem
  rw [List.length_append]
  exact Nat.le_trans (h.slots iterator hmem) (Nat.le_add_right _ _)

/-- Matched symbols of the file are added. -/
theorem append (h : draft.OwnMatched source own spliced)
    (hadded : ∀ symbol ∈ added, symbol.LoopsMatched source) :
    Draft.OwnMatched source (own ++ added) spliced
      { draft with symbols := draft.symbols ++ added } where
  symbols := by
    refine (h.symbols.append_right added).trans ?_
    rw [List.append_assoc, List.append_assoc]
    exact List.perm_append_comm.append_left own
  own := List.forall_mem_append.2 ⟨h.own, hadded⟩
  slots := h.slots_append added

/-- What an include yields is added. -/
theorem splice (h : draft.OwnMatched source own spliced) (found : List Symbol) :
    Draft.OwnMatched source own (spliced ++ found)
      { draft with symbols := draft.symbols ++ found } where
  symbols := by
    rw [← List.append_assoc]
    exact h.symbols.append_right found
  own := h.own
  slots := h.slots_append found

/-- Closing the innermost loop of the top level adds its iterator, if it has one. -/
theorem closeTopLoop (h : draft.OwnMatched source own spliced)
    (hhead : ∀ iterator, draft.loops.head? = some (some iterator) →
      iterator.ClosesOn source none last) :
    ∃ added, (draft.closeTopLoop source last).OwnMatched source (own ++ added) spliced := by
  unfold Draft.closeTopLoop
  split
  · exact ⟨[], (List.append_nil own).symm ▸ h⟩
  · next loops hloops =>
    refine ⟨[], (List.append_nil own).symm ▸ ⟨h.symbols, h.own, fun iterator hmem => ?_⟩⟩
    exact h.slots iterator (hloops ▸ List.mem_cons_of_mem _ hmem)
  · next iterator loops hloops =>
    have hslot := h.slots iterator (hloops ▸ List.mem_cons_self)
    have hmatched := (hhead iterator (by rw [hloops]; rfl)).matched .globalVar
    have hinsert := List.perm_insertIdx
      (Symbol.ofVariable (iterator.close source .globalVar last)) draft.symbols hslot
    refine ⟨[.ofVariable (iterator.close source .globalVar last)], ?_, ?_, fun other hmem => ?_⟩
    · refine (hinsert.trans (h.symbols.cons _)).trans ?_
      rw [List.append_assoc]
      exact List.perm_middle.symm
    · exact List.forall_mem_append.2 ⟨h.own, List.forall_mem_singleton.2 fun _ => hmatched⟩
    · have hother := h.slots other (hloops ▸ List.mem_cons_of_mem _ hmem)
      rw [List.length_insertIdx_of_le_length hslot]
      omega

/-- Closing all loops of the top level adds their iterators. -/
theorem closeTopLoops (h : draft.OwnMatched source own spliced)
    (hloops : ∀ iterator, some iterator ∈ draft.loops → iterator.ClosesOn source none last)
    (count : Nat) :
    ∃ added, (draft.closeTopLoops source last count).OwnMatched source (own ++ added) spliced := by
  induction count generalizing draft own with
  | zero => exact ⟨[], (List.append_nil own).symm ▸ h⟩
  | succ count ih =>
    obtain ⟨symbols, hclosed⟩ := draft.closeTopLoop_eq source last
    obtain ⟨first, hfirst⟩ := h.closeTopLoop fun iterator hhead =>
      hloops iterator (List.mem_of_head? hhead)
    obtain ⟨more, hmore⟩ := ih hfirst fun iterator hmem => by
      rw [hclosed] at hmem
      exact hloops iterator (List.mem_of_mem_tail hmem)
    exact ⟨first ++ more, by rwa [← List.append_assoc]⟩

/-- A function that is closed where it ends is matched. -/
theorem closeFunction (h : draft.OwnMatched source own spliced) (number : Nat)
    (hfunction : ∀ f, draft.openFunction = some f → f.LoopsMatched source number ∧
      source.functionAt (f.line + 1) = some f.line ∧ source.functionEnd f.line = last ∧
      ∀ depth, source.closingAt (some f.line) depth number = last) :
    ∃ added, (draft.closeFunction source last).OwnMatched source (own ++ added) spliced := by
  unfold Draft.closeFunction
  split
  · next f hf =>
    obtain ⟨hmatched, hopens, hend, hclosing⟩ := hfunction f hf
    have hlocals := FunctionDraft.iteratorsMatched_closeLoops hmatched.locals
      (hmatched.loops.closesOn hclosing) f.loops.length
    have hsymbol : (Symbol.ofFunction (f.finish source last)).LoopsMatched source := by
      rw [f.finish_eq]
      exact ⟨f.line, rfl, hopens, congrArg Int.ofNat hend.symm, hlocals⟩
    have happend := h.append (List.forall_mem_singleton.2 hsymbol)
    exact ⟨_, happend.symbols, happend.own, happend.slots⟩
  · exact ⟨[], (List.append_nil own).symm ▸ h⟩

/-- A type that is closed has no iterators. -/
theorem closeType (h : draft.OwnMatched source own spliced)
    (htype : ∀ t, draft.openType = some t → ∀ v ∈ t.fields, v.isIterator = false) (last : Nat) :
    ∃ added, (draft.closeType source last).OwnMatched source (own ++ added) spliced := by
  unfold Draft.closeType
  split
  · next t ht =>
    have hsymbol : (Symbol.ofType (t.finish source last)).LoopsMatched source := htype t ht
    have happend := h.append (List.forall_mem_singleton.2 hsymbol)
    exact ⟨_, happend.symbols, happend.own, happend.slots⟩
  · exact ⟨[], (List.append_nil own).symm ▸ h⟩

end Draft.OwnMatched

/-! ## Drafts -/

/-- The loops of a draft are matched in front of a line: those that are closed end where counting
says, and those that are open await the lines that close them. -/
structure Draft.LoopsMatched (source : Source) (number : Nat) (own spliced : List Symbol)
    (draft : Draft) : Prop extends draft.OwnMatched source own spliced where
  /-- The open function is that of the line. -/
  functionAt : source.functionAt number = draft.openFunction.map FunctionDraft.line
  /-- The loops of the open function are matched. -/
  openFunction : ∀ f, draft.openFunction = some f → f.LoopsMatched source number
  /-- The fields of the open type are no iterators. -/
  openType : ∀ t, draft.openType = some t → ∀ v ∈ t.fields, v.isIterator = false
  /-- The open loops of the top level await their lines. -/
  loops : source.Awaits none number draft.loops

namespace Statement

/-- A plain statement leaves the levels as they are. -/
theorem levelMove_of_isPlain {statement : Statement} (h : statement.isPlain = true) :
    statement.levelMove = .stays := by
  cases statement with
  | openLoop | closeLoop => cases h
  | _ => rfl

/-- A plain statement neither opens nor closes a function. -/
theorem boundsFunction_of_isPlain {statement : Statement} (h : statement.isPlain = true) :
    statement.boundsFunction = false := by
  cases statement with
  | openFunction | closeFunction => cases h
  | _ => rfl

end Statement

/-- The line that opens the function that is open anywhere. -/
theorem Source.functionAt_succ_of_functionAt {source : Source} {number line : Nat}
    (h : source.functionAt number = some line) : source.functionAt (line + 1) = some line := by
  induction number with
  | zero => cases h
  | succ number ih =>
    have hopened := h
    rw [functionAt] at h
    split at h
    · cases h
      exact hopened
    · cases h
    · exact ih h

namespace Draft.LoopsMatched

variable {source : Source} {own spliced : List Symbol} {draft next : Draft} {number last : Nat}
  {statement : Statement}

theorem empty (source : Source) : Draft.LoopsMatched source 0 [] [] .empty where
  symbols := .nil
  own _ := (nomatch ·)
  slots _ := (nomatch ·)
  functionAt := rfl
  openFunction _ := (nomatch ·)
  openType _ := (nomatch ·)
  loops := .nil

/-- Inside a function, that function is the open one of the line. -/
theorem functionAt_of_some (h : draft.LoopsMatched source number own spliced) {f : FunctionDraft}
    (hf : draft.openFunction = some f) : source.functionAt number = some f.line := by
  rw [h.functionAt, hf, Option.map_some]

/-- Outside functions, none is open at the line. -/
theorem functionAt_of_none (h : draft.LoopsMatched source number own spliced)
    (hf : draft.openFunction = none) : source.functionAt number = none := by
  rw [h.functionAt, hf, Option.map_none]

/-- Waiting documentation does not matter. -/
theorem withDoc (h : draft.LoopsMatched source number own spliced) (doc : DocBlock) :
    Draft.LoopsMatched source number own spliced { draft with doc } :=
  ⟨⟨h.symbols, h.own, h.slots⟩, h.functionAt, h.openFunction, h.openType, h.loops⟩

/-- The open function may be another one of the same line. -/
theorem withFunction (h : draft.LoopsMatched source number own spliced) {f g : FunctionDraft}
    (hf : draft.openFunction = some f) (hline : g.line = f.line)
    (hg : g.LoopsMatched source number) :
    Draft.LoopsMatched source number own spliced { draft with openFunction := some g } where
  symbols := h.symbols
  own := h.own
  slots := h.slots
  functionAt := by
    rw [h.functionAt_of_some hf, Option.map_some, hline]
  openFunction _ heq := Option.some.inj heq ▸ hg
  openType := h.openType
  loops := h.loops

/-- The open type may be another one. -/
theorem withType (h : draft.LoopsMatched source number own spliced) {t : TypeDraft}
    (ht : ∀ v ∈ t.fields, v.isIterator = false) :
    Draft.LoopsMatched source number own spliced { draft with openType := some t } where
  symbols := h.symbols
  own := h.own
  slots := h.slots
  functionAt := h.functionAt
  openFunction := h.openFunction
  openType _ heq := Option.some.inj heq ▸ ht
  loops := h.loops

/-- Matched symbols of the file are added. -/
theorem append (h : draft.LoopsMatched source number own spliced) {added : List Symbol}
    (hadded : ∀ symbol ∈ added, symbol.LoopsMatched source) :
    Draft.LoopsMatched source number (own ++ added) spliced
      { draft with symbols := draft.symbols ++ added } :=
  ⟨h.toOwnMatched.append hadded, h.functionAt, h.openFunction, h.openType, h.loops⟩

/-- The open type is closed, which matters to no loop. -/
theorem closeType (h : draft.LoopsMatched source number own spliced) (last : Nat) :
    ∃ added, (draft.closeType source last).LoopsMatched source number (own ++ added) spliced := by
  obtain ⟨added, hown⟩ := h.toOwnMatched.closeType h.openType last
  obtain ⟨symbols, hclosed⟩ := draft.closeType_eq source last
  rw [hclosed] at hown ⊢
  exact ⟨added, hown, h.functionAt, h.openFunction, fun _ => (nomatch ·), h.loops⟩

/-- A line that leaves levels and functions as they are does not matter to a draft. -/
theorem advance (h : draft.LoopsMatched source number own spliced)
    (hstatement : source.statements[number]? = some statement)
    (hmove : statement.levelMove = .stays) (hbounds : statement.boundsFunction = false) :
    draft.LoopsMatched source (number + 1) own spliced where
  symbols := h.symbols
  own := h.own
  slots := h.slots
  functionAt := by rw [Source.functionAt_succ hstatement hbounds, h.functionAt]
  openFunction f hf := ⟨(h.openFunction f hf).locals,
    (h.openFunction f hf).loops.next (Source.closingAt_of_stays hstatement hmove)⟩
  openType := h.openType
  loops := h.loops.next (Source.closingAt_of_stays hstatement hmove)

/-- A line of the open function may change what the function owns. -/
theorem setFunction (h : draft.LoopsMatched source number own spliced) {f g : FunctionDraft}
    (hstatement : source.statements[number]? = some statement)
    (hbounds : statement.boundsFunction = false) (hf : draft.openFunction = some f)
    (hline : g.line = f.line) (hg : g.LoopsMatched source (number + 1)) :
    Draft.LoopsMatched source (number + 1) own spliced { draft with openFunction := some g } where
  symbols := h.symbols
  own := h.own
  slots := h.slots
  functionAt := by
    rw [Source.functionAt_succ hstatement hbounds, h.functionAt_of_some hf, Option.map_some, hline]
  openFunction _ heq := Option.some.inj heq ▸ hg
  openType := h.openType
  loops := by
    -- the line belongs to the function, and does not count for the top level
    refine h.loops.next (Source.closingAt_of_ne ?_)
    rw [h.functionAt_of_some hf]
    exact Option.some_ne_none f.line

/-- A line outside functions may change the loops of the top level. -/
theorem setTop (h : draft.LoopsMatched source number own spliced) {added : List Symbol}
    (hstatement : source.statements[number]? = some statement)
    (hbounds : statement.boundsFunction = false) (hf : draft.openFunction = none)
    {symbols : List Symbol} {loops : List OpenLoop}
    (hown : Draft.OwnMatched source (own ++ added) spliced { draft with symbols, loops })
    (hloops : source.Awaits none (number + 1) loops) :
    Draft.LoopsMatched source (number + 1) (own ++ added) spliced
      { draft with symbols, loops } where
  toOwnMatched := hown
  functionAt := by rw [Source.functionAt_succ hstatement hbounds, h.functionAt]
  openFunction f heq := by
    rw [hf] at heq
    cases heq
  openType := h.openType
  loops := hloops

/-! ## Opening and closing loops -/

/-- A line of a function opens a loop, and perhaps closes it again. -/
theorem localLoop (h : draft.LoopsMatched source number own spliced) {f : FunctionDraft}
    {loop : OpenLoop} {name suffix : Text} {column : Nat} {closed : Bool}
    (hstatement : source.statements[number]? = some (.openLoop name suffix column closed))
    (hf : draft.openFunction = some f)
    (hloop : ∀ iterator, loop = some iterator → iterator.line = number) :
    Draft.LoopsMatched source (number + 1) own spliced
      (if closed then
        Draft.closeLoop { draft with openFunction := some { f with loops := loop :: f.loops } }
          source number
      else { draft with openFunction := some { f with loops := loop :: f.loops } }) := by
  have hopens : source.OpensLevel number closed := ⟨name, suffix, column, hstatement⟩
  have hopen := h.openFunction f hf
  have howner := h.functionAt_of_some hf
  cases closed with
  | true =>
    -- the loop is on the stack for one moment, and the loops below it notice nothing
    obtain ⟨locals, hclosed⟩ :=
      FunctionDraft.closeLoop_eq { f with loops := loop :: f.loops } source number
    refine h.setFunction hstatement rfl hf (by rw [hclosed]) ⟨?_, ?_⟩
    · have hline := congrArg FunctionDraft.line hclosed
      rw [hline]
      refine FunctionDraft.iteratorsMatched_closeLoop hopen.locals fun iterator hhead => ?_
      obtain rfl := hloop iterator (Option.some.inj hhead)
      exact ⟨⟨true, hopens⟩, howner, Source.closingLine_of_closed hopens⟩
    · rw [hclosed]
      exact hopen.loops.next (Source.closingAt_of_stays hstatement rfl)
  | false =>
    exact h.setFunction hstatement rfl hf rfl ⟨hopen.locals, hopen.loops.push howner hopens hloop⟩

/-- A line outside functions opens a loop, and perhaps closes it again. -/
theorem topLoop (h : draft.LoopsMatched source number own spliced) {loop : OpenLoop}
    {name suffix : Text} {column : Nat} {closed : Bool}
    (hstatement : source.statements[number]? = some (.openLoop name suffix column closed))
    (hf : draft.openFunction = none) (hloop : loop.OpenedOn number draft.symbols.length) :
    ∃ added, Draft.LoopsMatched source (number + 1) (own ++ added) spliced
      (if closed then Draft.closeLoop { draft with loops := loop :: draft.loops } source number
      else { draft with loops := loop :: draft.loops }) := by
  have hopens : source.OpensLevel number closed := ⟨name, suffix, column, hstatement⟩
  have howner := h.functionAt_of_none hf
  have hown : Draft.OwnMatched source own spliced { draft with loops := loop :: draft.loops } := by
    refine ⟨h.symbols, h.own, fun iterator hmem => ?_⟩
    rcases List.mem_cons.1 hmem with heq | hold
    · exact Nat.le_of_eq (hloop iterator heq.symm).2
    · exact h.slots iterator hold
  cases closed with
  | true =>
    have hhead (iterator : OpenIterator)
        (hhead : (loop :: draft.loops).head? = some (some iterator)) :
        iterator.ClosesOn source none number := by
      obtain rfl := (hloop iterator (Option.some.inj hhead)).1
      exact ⟨⟨true, hopens⟩, howner, Source.closingLine_of_closed hopens⟩
    have hclose : Draft.closeLoop { draft with loops := loop :: draft.loops } source number =
        Draft.closeTopLoop { draft with loops := loop :: draft.loops } source number := by
      simp only [Draft.closeLoop, hf]
    obtain ⟨added, hadded⟩ := hown.closeTopLoop hhead
    obtain ⟨symbols, hclosed⟩ :=
      Draft.closeTopLoop_eq { draft with loops := loop :: draft.loops } source number
    rw [hclosed] at hadded
    rw [if_pos rfl, hclose, hclosed]
    exact ⟨added, h.setTop hstatement rfl hf hadded
      (h.loops.next (Source.closingAt_of_stays hstatement rfl))⟩
  | false =>
    rw [← List.append_nil own] at hown
    exact ⟨[], h.setTop hstatement rfl hf hown
      (h.loops.push howner hopens fun iterator heq => (hloop iterator heq).1)⟩

/-- A line closes the innermost loop of its owner. -/
theorem closeLoop (h : draft.LoopsMatched source number own spliced)
    (hstatement : source.statements[number]? = some .closeLoop) :
    ∃ added, (draft.closeLoop source number).LoopsMatched source (number + 1) (own ++ added)
      spliced := by
  unfold Draft.closeLoop
  split
  · next f hf =>
    have hopen := h.openFunction f hf
    have howner := h.functionAt_of_some hf
    obtain ⟨htail, hhead⟩ := hopen.loops.pop howner hstatement
    obtain ⟨locals, hclosed⟩ := f.closeLoop_eq source number
    refine ⟨[], (List.append_nil own).symm ▸
      h.setFunction hstatement rfl hf (by rw [hclosed]) ⟨?_, ?_⟩⟩
    · have hline := congrArg FunctionDraft.line hclosed
      rw [hline]
      exact FunctionDraft.iteratorsMatched_closeLoop hopen.locals hhead
    · rw [hclosed]
      exact htail
  · next hf =>
    have howner := h.functionAt_of_none hf
    obtain ⟨htail, hhead⟩ := h.loops.pop howner hstatement
    obtain ⟨added, hadded⟩ := h.toOwnMatched.closeTopLoop hhead
    obtain ⟨symbols, hclosed⟩ := draft.closeTopLoop_eq source number
    rw [hclosed] at hadded ⊢
    exact ⟨added, h.setTop hstatement rfl hf hadded htail⟩

/-! ## Opening and closing functions -/

/-- What is known about the open function where it ends: its levels are closed there. -/
theorem closesFunction (h : draft.LoopsMatched source number own spliced)
    (hstatement : source.statements[number]? = some statement)
    (hmove : statement.levelMove = .stays)
    (hclosed : ∀ f, draft.openFunction = some f → source.functionAt (number + 1) ≠ some f.line)
    (hlast : source.functionEndFrom number (source.statements.drop number) = last) :
    ∃ added, (draft.closeFunction source last).OwnMatched source (own ++ added) spliced := by
  refine h.toOwnMatched.closeFunction number fun f hf => ?_
  have howner := h.functionAt_of_some hf
  have hend := Source.functionEnd_of_functionAt howner
    (Nat.le_of_lt (Source.lt_length_of_statement hstatement))
  rw [hlast] at hend
  refine ⟨h.openFunction f hf, Source.functionAt_succ_of_functionAt howner, hend, fun depth => ?_⟩
  rw [Source.closingAt_of_stays hstatement hmove, ← hend]
  exact Source.closingAt_of_closed (hclosed f hf)
    (Nat.lt_succ_of_lt (Source.lt_of_functionAt howner)) depth

/-- A line closes the open function. -/
theorem closeFunction (h : draft.LoopsMatched source number own spliced)
    (hstatement : source.statements[number]? = some .closeFunction) :
    ∃ added, (draft.closeFunction source number).LoopsMatched source (number + 1) (own ++ added)
      spliced := by
  have hnone := Source.functionAt_closeFunction hstatement
  obtain ⟨added, hadded⟩ := h.closesFunction hstatement rfl
    (fun f _ heq => by
      rw [hnone] at heq
      cases heq)
    (by rw [Source.drop_statements hstatement, Source.functionEndFrom, if_pos rfl])
  obtain ⟨symbols, hclosed⟩ := draft.closeFunction_eq source number
  rw [hclosed] at hadded ⊢
  refine ⟨added, hadded, hnone, ?_, h.openType,
    h.loops.next (Source.closingAt_of_stays hstatement rfl)⟩
  intro f hopen
  cases hopen

/-- A line opens a function, in front of which the open one is closed. -/
theorem newFunction (h : draft.LoopsMatched source number own spliced) {name suffix : Text}
    {column : Nat} {parameters : Option (Text × Nat)}
    (hstatement :
      source.statements[number]? = some (.openFunction name suffix column parameters))
    {f : FunctionDraft} (doc : DocBlock) (hline : f.line = number) (hloops : f.loops = [])
    (hlocals : ∀ v ∈ f.locals, v.isIterator = false) :
    ∃ added, Draft.LoopsMatched source (number + 1) (own ++ added) spliced
      { draft.endFunction source number with doc, openFunction := some f } := by
  have hopens := Source.functionAt_openFunction hstatement
  have hlt (g : FunctionDraft) (hg : draft.openFunction = some g) : g.line < number :=
    Source.lt_of_functionAt (h.functionAt_of_some hg)
  have hlast : source.functionEndFrom number (source.statements.drop number) = number - 1 := by
    rw [Source.drop_statements hstatement, Source.functionEndFrom, if_neg (by simp)]
    exact if_pos rfl
  obtain ⟨added, hadded⟩ := h.closesFunction hstatement rfl (fun g hg heq => by
    rw [hopens] at heq
    exact Nat.ne_of_gt (hlt g hg) (Option.some.inj heq)) hlast
  -- the line above is never in front of the function that is closed
  have hend : draft.endFunction source number = draft.closeFunction source (number - 1) := by
    unfold Draft.endFunction
    split
    · next g hg =>
      rw [Nat.max_eq_left (Nat.le_sub_one_of_lt (hlt g hg))]
    · next hnone =>
      unfold Draft.closeFunction
      rw [hnone]
  obtain ⟨symbols, hclosed⟩ := draft.closeFunction_eq source (number - 1)
  rw [hclosed] at hadded
  rw [hend, hclosed]
  refine ⟨added, ⟨hadded.symbols, hadded.own, hadded.slots⟩, ?_, fun g heq => ?_, h.openType,
    h.loops.next (Source.closingAt_of_stays hstatement rfl)⟩
  · rw [hopens, ← hline]
    rfl
  · obtain rfl := Option.some.inj heq
    refine ⟨fun v hv hiterator => ?_, ?_⟩
    · rw [hlocals v hv] at hiterator
      cases hiterator
    · rw [hloops]
      exact .nil

/-! ## Lines -/

/-- Every line that is no include keeps the loops of a draft matched. -/
theorem change (h : draft.LoopsMatched source number own spliced)
    (hstatement : source.statements[number]? = some statement)
    (hchange : draft.Change source number statement next) :
    ∃ added, next.LoopsMatched source (number + 1) (own ++ added) spliced := by
  have hplain (hplain : statement.isPlain = true) :
      draft.LoopsMatched source (number + 1) (own ++ []) spliced :=
    (List.append_nil own).symm ▸ h.advance hstatement (Statement.levelMove_of_isPlain hplain)
      (Statement.boundsFunction_of_isPlain hplain)
  cases hchange with
  | remark hstays _ doc => exact ⟨[], (hplain hstays).withDoc doc⟩
  | @locals _ f added hstays hf hadded =>
    have hnext := hplain hstays
    have hopen := hnext.openFunction f hf
    exact ⟨[], hnext.withFunction hf rfl ⟨hopen.locals.append hadded.isIterator, hopen.loops⟩⟩
  | @topVariables _ added hstays hf hadded =>
    refine ⟨_, (h.advance hstatement (Statement.levelMove_of_isPlain hstays)
      (Statement.boundsFunction_of_isPlain hstays)).append fun symbol hsymbol => ?_⟩
    obtain ⟨v, hv, rfl⟩ := List.mem_map.1 hsymbol
    intro hiterator
    rw [hadded.isIterator v hv] at hiterator
    cases hiterator
  | label hstays =>
    exact ⟨_, (h.advance hstatement (Statement.levelMove_of_isPlain hstays)
      (Statement.boundsFunction_of_isPlain hstays)).append
        (List.forall_mem_singleton.2 trivial)⟩
  | @fields _ t added hstays _ ht hadded =>
    have hnext := hplain hstays
    refine ⟨[], hnext.withType fun v hv => ?_⟩
    rcases List.mem_append.1 hv with hold | hnew
    · exact h.openType t ht v hold
    · exact hadded.isIterator v hnew
  | endType => exact (h.advance hstatement rfl rfl).closeType number
  | newType doc _ hfields =>
    have hnext := h.advance hstatement rfl rfl
    obtain ⟨added, hclosed⟩ : ∃ added,
        (draft.endType source number).LoopsMatched source (number + 1) (own ++ added) spliced := by
      unfold Draft.endType
      split
      · exact hnext.closeType _
      · exact ⟨[], hplain rfl⟩
    refine ⟨added, (hclosed.withDoc doc).withType fun v hv => ?_⟩
    rw [hfields] at hv
    cases hv
  | localLoop closed hf hloop =>
    exact ⟨[], (List.append_nil own).symm ▸
      h.localLoop hstatement hf fun iterator heq => (hloop iterator heq).1⟩
  | topLoop closed hf hloop => exact h.topLoop hstatement hf hloop
  | endLoop => exact h.closeLoop hstatement
  | endFunction => exact h.closeFunction hstatement
  | newFunction doc hline hloops hlocals =>
    exact h.newFunction hstatement doc hline hloops hlocals.isIterator

/-- When the file ends, the loops of its symbols are matched. -/
theorem finish (h : draft.LoopsMatched source source.lines.length own spliced) :
    ∃ own, (draft.finish source).Perm (own ++ spliced) ∧
      ∀ symbol ∈ own, symbol.LoopsMatched source := by
  have hbehind (owner : Option Nat) (depth : Nat) :
      source.closingAt owner depth source.lines.length = source.bodyEnd owner :=
    Source.closingAt_of_le (Nat.le_refl _) depth
  obtain ⟨functions, hfunctions⟩ :
      ∃ added, (draft.closeFunction source source.lastLine).OwnMatched source (own ++ added)
        spliced := by
    refine h.toOwnMatched.closeFunction source.lines.length fun f hf => ?_
    have howner := h.functionAt_of_some hf
    have hend := Source.functionEnd_of_functionAt howner (Nat.le_refl _)
    rw [Source.drop_statements_of_le (Nat.le_refl _), Source.functionEndFrom] at hend
    exact ⟨h.openFunction f hf, Source.functionAt_succ_of_functionAt howner, hend,
      fun depth => (hbehind _ depth).trans hend⟩
  obtain ⟨symbols, hclosed⟩ := draft.closeFunction_eq source source.lastLine
  obtain ⟨types, htypes⟩ := hfunctions.closeType (by rw [hclosed]; exact h.openType)
    source.lastLine
  obtain ⟨symbols', hclosed'⟩ :=
    (draft.closeFunction source source.lastLine).closeType_eq source source.lastLine
  obtain ⟨loops, hloops⟩ := htypes.closeTopLoops (by
      rw [hclosed', hclosed]
      exact h.loops.closesOn (hbehind none))
    ((draft.closeFunction source source.lastLine).closeType source source.lastLine).loops.length
  exact ⟨_, hloops.symbols, hloops.own⟩

end Draft.LoopsMatched

/-! ## Files -/

section Files

variable {source : Source} {fetch : Text → Except ExtractError (List Symbol)} {draft next : Draft}
  {own spliced found : List Symbol}

/-- A line keeps the loops of a draft matched; an include adds what it yields. -/
theorem Draft.LoopsMatched.afterLine {number : Nat} {line : Text}
    (h : draft.LoopsMatched source number own spliced) (hline : source.lines[number]? = some line)
    (hnext : draft.afterLine source fetch (line, number) = .ok next) :
    ∃ added, next.LoopsMatched source (number + 1) (own ++ added)
      (spliced ++ (((Statement.read line).target?.map fetch).bind Except.toOption).getD []) := by
  have hstatement : source.statements[number]? = some (Statement.read line) := by
    rw [Source.statements, List.getElem?_map, hline, Option.map_some]
  rcases Draft.afterLine_cases hnext with ⟨htarget, hstep⟩ | ⟨target, result, htarget, hresult, rfl⟩
  · rw [htarget, Option.map_none, Option.bind_none, Option.getD_none, List.append_nil]
    exact h.change hstatement (Draft.change_of_step (Statement.wellPlaced_read line) hstep)
  · rw [Statement.eq_includeFile htarget] at hstatement
    have hadvance := h.advance hstatement rfl rfl
    rw [htarget, Option.map_some, Option.bind_some, hresult]
    exact ⟨[], (List.append_nil own).symm ▸ ⟨hadvance.toOwnMatched.splice result,
      hadvance.functionAt, hadvance.openFunction, hadvance.openType, hadvance.loops⟩⟩

/-- The loops of what a file declares are matched. -/
theorem Source.exists_loopsMatched (h : source.outcome fetch = .ok found) :
    ∃ own, found.Perm (own ++ source.inclusions fetch) ∧ source.LoopsMatched own := by
  obtain ⟨draft, ⟨own, hmatched⟩, rfl⟩ := source.exists_draft_of_outcome (P := fun number draft =>
    ∃ own, draft.LoopsMatched source number own ((source.front number).inclusions fetch))
    ⟨[], .empty source⟩ (fun number line draft next hline hnext hdraft => by
      obtain ⟨own, hown⟩ := hdraft
      rw [inclusions_front_succ hline]
      obtain ⟨added, hadded⟩ := hown.afterLine hline hnext
      exact ⟨own ++ added, hadded⟩) h
  rw [front_length] at hmatched
  obtain ⟨own, hperm, hsymbols⟩ := hmatched.finish
  exact ⟨own, hperm, loopsMatched_of_symbols hsymbols⟩

end Files

/-! ## Scans -/

namespace Visit

variable {disk : Disk} {rules : IncludeRules} {visit : Visit} {found : List Symbol}

/-- Every scan that yields symbols, of a document or of a file that is included, matches the loops
of what the file declares. -/
theorem loops_matched (h : visit.outcome disk rules = .ok found) :
    ∃ own, found.Perm (own ++ visit.source.inclusions (visit.fetch disk rules)) ∧
      visit.source.LoopsMatched own := by
  rw [outcome_eq] at h
  exact Source.exists_loopsMatched h

/-- A loop of the top level goes on over a function, whose own loops end with it; a loop without an
iterator is a level as well. -/
theorem loops_matched_around_function :
    let disk := Disk.ofFile "lib.bb" (Encoding.encodeUtf8 "") 1
    let rules : IncludeRules := ⟨[], true, 2⟩
    let text : Text := "For i = 1 To 2\nFunction f(n)\nFor n = 1 To 2\nFor k = 1 To 2\nNext" ++
      "\nFor m = 1 To 2 : Next\nFor l = 1 To 2\nEnd Function\nNext"
    let visit := Visit.document disk rules "main.bb" text
    ∃ found own, (extract disk rules "main.bb" text).1 = .ok found ∧
      ((topVariables found).map (fun v => (v.name, v.scopeEnd)) = [(['i'], some 8)] ∧
      (found.filterMap Symbol.asFunction?).map (fun f => f.locals.map fun v =>
        (v.name, v.scopeEnd)) =
          [[(['n'], none), (['k'], some 4), (['m'], some 5), (['l'], some 7)]]) ∧
      found.Perm (own ++ visit.source.inclusions (visit.fetch disk rules)) ∧
      visit.source.LoopsMatched own := by
  intro disk rules text visit
  have hends : (extract disk rules "main.bb" text).1.toOption.map (fun found =>
      ((topVariables found).map (fun v => (v.name, v.scopeEnd)),
        (found.filterMap Symbol.asFunction?).map (fun f => f.locals.map fun v =>
          (v.name, v.scopeEnd)))) = some ([(['i'], some 8)],
        [[(['n'], none), (['k'], some 4), (['m'], some 5), (['l'], some 7)]]) := by
    decide +kernel
  obtain ⟨found, hfound, hends⟩ := exists_of_map_toOption hends
  have hvisit := hfound
  rw [extract_fst] at hvisit
  obtain ⟨own, hperm, hmatched⟩ := loops_matched hvisit
  exact ⟨found, own, hfound, Prod.mk.inj hends, hperm, hmatched⟩

end Visit

end BlitzLens
