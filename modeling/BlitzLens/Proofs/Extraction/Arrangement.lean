import BlitzLens.Proofs.Extraction.Change
import BlitzLens.Proofs.Extraction.OwnDocument
import BlitzLens.Proofs.Extraction.Slots

/-!
# The order of the symbol list

A scan lists what its file declares by the line that completes it: a function or type by its last
line, anything else by the line of its name. What an include yields is listed by the line of the
include, in one piece. The list is then a sequence of batches, each a symbol of the file or what one
include yields, and `Draft.Arranged` says that the batches are in order while the slots of the open
loops fall between them, on every line of the file.

## Main definitions

* `Batch`: an own symbol or what an include yields, with the line it is listed by (`Batch.line`).
* `Source.Arranges`: the list of a scan is made of batches in order.

## Main results

* `Draft.Arranged.change`: every way in which a line changes a draft keeps it arranged.
* `Visit.lists_in_batches`: every scan that yields symbols lists them in batches in order.
-/

namespace BlitzLens

/-! ## Batches -/

/-- A variable starts in front of another one, by line and column. -/
def Variable.StartsBefore (v w : Variable) : Prop :=
  v.range.startLine < w.range.startLine ∨
    v.range.startLine = w.range.startLine ∧ v.range.startCol < w.range.startCol

/-- The variables of a symbol, the locals of a function or the fields of a type, start one in front
of the other. -/
def Symbol.MembersInOrder (symbol : Symbol) : Prop :=
  symbol.members.Pairwise Variable.StartsBefore

/-- The line that a symbol is listed by: the last one of a function or type, and that of the name of
anything else. -/
def Symbol.listLine : Symbol → Int
  | .ofVariable v => v.range.startLine
  | .ofFunction f => f.endLine
  | .ofType t => t.endLine
  | .ofLabel l => l.range.startLine

/-- What is listed in one piece. -/
inductive Batch where
  /-- A symbol that the file declares. -/
  | own (symbol : Symbol)
  /-- What the include on a line yields. -/
  | spliced (line : Nat) (symbols : List Symbol)

namespace Batch

/-- The symbols of a batch. -/
def symbols : Batch → List Symbol
  | own symbol => [symbol]
  | spliced _ symbols => symbols

/-- The line that a batch is listed by. -/
def line : Batch → Int
  | own symbol => symbol.listLine
  | spliced line _ => line

/-- The symbol of a batch that belongs to the file. -/
def own? : Batch → Option Symbol
  | own symbol => some symbol
  | spliced .. => none

/-- The line of an include and what it yields. -/
def splice? : Batch → Option (Nat × List Symbol)
  | own _ => none
  | spliced line symbols => some (line, symbols)

/-- The place that a batch is ordered by. -/
def mark : Batch → Mark
  | own (.ofVariable v) => v.mark
  | batch => ⟨batch.line, none⟩

@[simp]
theorem line_mark (batch : Batch) : batch.mark.line = batch.line := by
  rcases batch with (v | f | t | l) | _ <;> rfl

/-- The symbols of some batches are those of the file and those that includes yield. -/
theorem symbols_perm (batches : List Batch) :
    (batches.flatMap symbols).Perm
      (batches.filterMap own? ++ (batches.filterMap splice?).flatMap Prod.snd) := by
  induction batches with
  | nil => exact .nil
  | cons batch batches ih =>
    cases batch with
    | own symbol => exact ih.cons symbol
    | spliced line found =>
      have hmiddle := List.perm_append_comm_assoc found (batches.filterMap own?)
        ((batches.filterMap splice?).flatMap Prod.snd)
      exact (ih.append_left found).trans hmiddle

end Batch

/-! ## Functions and types -/

/-- The marks of variables are ordered like their places. -/
theorem Variable.startsBefore_of_precedes {v w : Variable} (h : v.mark.Precedes w.mark) :
    v.StartsBefore w := by
  rcases Int.lt_or_eq_of_le h.le with hlt | heq
  · exact .inl hlt
  · exact .inr ⟨heq, h.lt _ rfl _ rfl heq⟩

/-- An open function is arranged: its locals stand in order, and its loops keep their slots. -/
structure FunctionDraft.Arranged (bound : Nat) (f : FunctionDraft) : Prop where
  /-- The function was opened in front of the bound. -/
  line_lt : f.line < bound
  /-- The locals are arranged; each is an item of its own. -/
  locals : BlitzLens.Arranged Variable.mark (fun v => [v]) bound f.locals f.loops

/-- An open type is arranged: its fields stand in order. -/
structure TypeDraft.Arranged (bound : Nat) (t : TypeDraft) : Prop where
  /-- The type was opened in front of the bound. -/
  line_lt : t.line < bound
  /-- The fields are arranged. -/
  fields : BlitzLens.Arranged Variable.mark (fun v => [v]) bound t.fields []

section Owners

variable {source : Source} {bound bound' number : Nat} {f : FunctionDraft} {t : TypeDraft}
  {found added : List Variable} {loops : List OpenLoop}

/-- The variables of a line are added behind those of the lines before. -/
theorem ListedOn.append (h : ListedOn number added)
    (hfound : Arranged Variable.mark (fun v => [v]) number found loops) :
    Arranged Variable.mark (fun v => [v]) (number + 1) (found ++ added) loops := by
  refine hfound.append (Nat.le_succ number) (pairwise_mark_of_increasing h.startLine h.increasing)
    (fun v hv m hm => .of_lt ?_) fun v hv => ?_
  · show m.line < v.range.startLine
    rwa [h.startLine v hv]
  · show v.range.startLine < _
    rw [h.startLine v hv]
    exact Int.ofNat_lt.2 (Nat.lt_succ_self number)

/-- Variables that are arranged start one in front of the other. -/
theorem Arranged.startsBefore
    (h : Arranged Variable.mark (fun v => [v]) bound found loops) :
    found.Pairwise Variable.StartsBefore :=
  h.pairwise.imp Variable.startsBefore_of_precedes

namespace FunctionDraft.Arranged

/-- An arranged function is arranged in front of a later line. -/
theorem mono (h : f.Arranged bound) (hle : bound ≤ bound') : f.Arranged bound' :=
  ⟨Nat.lt_of_lt_of_le h.line_lt hle, h.locals.mono hle⟩

/-- Closing the innermost loop of a function keeps it arranged. -/
theorem closeLoop (h : f.Arranged bound) (source : Source) (last : Nat) :
    (f.closeLoop source last).Arranged bound := by
  unfold FunctionDraft.closeLoop
  split
  · exact h
  · next loops hloops =>
    have hlocals := h.locals
    rw [hloops] at hlocals
    exact ⟨h.line_lt, hlocals.tail⟩
  · next iterator loops hloops =>
    have hlocals := h.locals
    rw [hloops] at hlocals
    -- every local is an item, so the list of locals is the list of items
    obtain ⟨front, behind, -, hinsert, harranged⟩ :=
      hlocals.exists_insert (iterator.close source .localVar last)
        (iterator.mark_close source .localVar last) rfl
    rw [List.flatMap_singleton', List.flatMap_singleton'] at hinsert
    refine ⟨h.line_lt, ?_⟩
    dsimp only
    rwa [hinsert]

/-- Closing some loops of a function keeps it arranged. -/
theorem closeLoops (h : f.Arranged bound) (source : Source) (last count : Nat) :
    (f.closeLoops source last count).Arranged bound := by
  induction count generalizing f with
  | zero => exact h
  | succ count ih => exact ih (h.closeLoop source last)

/-- The locals of a function that ends are in order. -/
theorem membersInOrder_finish (h : f.Arranged bound) (source : Source) (last : Nat) :
    (Symbol.ofFunction (f.finish source last)).MembersInOrder := by
  rw [f.finish_eq]
  exact (h.closeLoops source last f.loops.length).locals.startsBefore

end FunctionDraft.Arranged

/-- An arranged type is arranged in front of a later line. -/
theorem TypeDraft.Arranged.mono (h : t.Arranged bound) (hle : bound ≤ bound') : t.Arranged bound' :=
  ⟨Nat.lt_of_lt_of_le h.line_lt hle, h.fields.mono hle⟩

end Owners

/-! ## Drafts -/

/-- The symbols of a draft are batches in order, between which the loops of the top level have their
slots, in front of a line; `spliced` is what the includes in front of the line yielded. -/
structure Draft.Arranged (bound : Nat) (spliced : List (Nat × List Symbol)) (batches : List Batch)
    (draft : Draft) : Prop where
  /-- The symbols are those of the batches. -/
  symbols : draft.symbols = batches.flatMap Batch.symbols
  /-- The includes yielded what was spliced in. -/
  splices : batches.filterMap Batch.splice? = spliced
  /-- The batches are arranged. -/
  top : BlitzLens.Arranged Batch.mark Batch.symbols bound batches draft.loops
  /-- The open function is arranged. -/
  openFunction : ∀ f, draft.openFunction = some f → f.Arranged bound
  /-- The open type is arranged. -/
  openType : ∀ t, draft.openType = some t → t.Arranged bound
  /-- The symbols of the file own variables in order. -/
  members : ∀ symbol ∈ batches.filterMap Batch.own?, symbol.MembersInOrder

namespace Draft.Arranged

variable {source : Source} {bound bound' number last : Nat} {spliced : List (Nat × List Symbol)}
  {batches : List Batch} {draft next : Draft}

theorem empty : Draft.Arranged 0 [] [] .empty where
  symbols := rfl
  splices := rfl
  top := .nil
  openFunction _ := (nomatch ·)
  openType _ := (nomatch ·)
  members _ := (nomatch ·)

/-- An arranged draft is arranged in front of a later line. -/
theorem mono (h : draft.Arranged bound spliced batches) (hle : bound ≤ bound') :
    draft.Arranged bound' spliced batches where
  symbols := h.symbols
  splices := h.splices
  top := h.top.mono hle
  openFunction f hf := (h.openFunction f hf).mono hle
  openType t ht := (h.openType t ht).mono hle
  members := h.members

/-- Waiting documentation does not matter. -/
theorem withDoc (h : draft.Arranged bound spliced batches) (doc : DocBlock) :
    Draft.Arranged bound spliced batches { draft with doc } :=
  ⟨h.symbols, h.splices, h.top, h.openFunction, h.openType, h.members⟩

/-- The open function may be another one. -/
theorem withFunction (h : draft.Arranged bound spliced batches) {f : FunctionDraft}
    (hf : f.Arranged bound) :
    Draft.Arranged bound spliced batches { draft with openFunction := some f } where
  symbols := h.symbols
  splices := h.splices
  top := h.top
  openFunction g hg := by
    cases hg
    exact hf
  openType := h.openType
  members := h.members

/-- The open type may be another one. -/
theorem withType (h : draft.Arranged bound spliced batches) {t : TypeDraft}
    (ht : t.Arranged bound) :
    Draft.Arranged bound spliced batches { draft with openType := some t } where
  symbols := h.symbols
  splices := h.splices
  top := h.top
  openFunction := h.openFunction
  openType u hu := by
    cases hu
    exact ht
  members := h.members

/-- A symbol of the file that is listed behind everything in front of the bound is added. -/
theorem concat (h : draft.Arranged bound spliced batches) (hle : bound ≤ bound') (symbol : Symbol)
    (hfirst : ∀ m : Mark, m.line < bound → m.Precedes (Batch.own symbol).mark)
    (hlast : symbol.listLine < bound') (hmembers : symbol.MembersInOrder) :
    Draft.Arranged bound' spliced (batches ++ [.own symbol])
      { draft with symbols := draft.symbols ++ [symbol] } where
  symbols := by
    rw [h.symbols, List.flatMap_append]
    rfl
  splices := by
    rw [List.filterMap_append, h.splices]
    exact List.append_nil spliced
  top := by
    refine h.top.append hle (List.pairwise_singleton _ _) (List.forall_mem_singleton.2 hfirst) ?_
    simpa [Batch.line] using hlast
  openFunction f hf := (h.openFunction f hf).mono hle
  openType t ht := (h.openType t ht).mono hle
  members := by
    rw [List.filterMap_append]
    exact List.forall_mem_append.2 ⟨h.members, List.forall_mem_singleton.2 hmembers⟩

/-- The variables of the next line are added. -/
theorem addVariables (h : draft.Arranged number spliced batches) {added : List Variable}
    (hadded : ListedOn number added) :
    Draft.Arranged (number + 1) spliced (batches ++ added.map fun v => .own (.ofVariable v))
      { draft with symbols := draft.symbols ++ added.map .ofVariable } where
  symbols := by
    rw [h.symbols, List.flatMap_append, List.flatMap_map, List.map_eq_flatMap]
    rfl
  splices := by
    have hnone : (added.map fun v => Batch.own (.ofVariable v)).filterMap Batch.splice? = [] := by
      simp [Batch.splice?]
    rw [List.filterMap_append, h.splices, hnone, List.append_nil]
  top := by
    refine h.top.append (Nat.le_succ number) ?_ (fun batch hbatch m hm => .of_lt ?_)
      fun batch hbatch => ?_
    · rw [List.pairwise_map]
      exact pairwise_mark_of_increasing hadded.startLine hadded.increasing
    · obtain ⟨v, hv, rfl⟩ := List.mem_map.1 hbatch
      show m.line < v.range.startLine
      rwa [hadded.startLine v hv]
    · obtain ⟨v, hv, rfl⟩ := List.mem_map.1 hbatch
      show v.range.startLine < _
      rw [hadded.startLine v hv]
      exact Int.ofNat_lt.2 (Nat.lt_succ_self number)
  openFunction f hf := (h.openFunction f hf).mono (Nat.le_succ number)
  openType t ht := (h.openType t ht).mono (Nat.le_succ number)
  members := by
    rw [List.filterMap_append]
    refine List.forall_mem_append.2 ⟨h.members, fun symbol hsymbol => ?_⟩
    rw [List.filterMap_map] at hsymbol
    obtain ⟨v, -, hv⟩ := List.mem_filterMap.1 hsymbol
    cases hv
    exact .nil

/-- What the include on the next line yields is added. -/
theorem splice (h : draft.Arranged number spliced batches) (found : List Symbol) :
    Draft.Arranged (number + 1) (spliced ++ [(number, found)]) (batches ++ [.spliced number found])
      { draft with symbols := draft.symbols ++ found } where
  symbols := by
    rw [h.symbols, List.flatMap_append, List.flatMap_singleton]
    rfl
  splices := by
    rw [List.filterMap_append, h.splices]
    rfl
  top := by
    refine h.top.append (Nat.le_succ number) (List.pairwise_singleton _ _) ?_ ?_
    · exact List.forall_mem_singleton.2 fun m hm => .of_lt hm
    · exact List.forall_mem_singleton.2 (Int.ofNat_lt.2 (Nat.lt_succ_self number))
  openFunction f hf := (h.openFunction f hf).mono (Nat.le_succ number)
  openType t ht := (h.openType t ht).mono (Nat.le_succ number)
  members := by
    rw [List.filterMap_append]
    exact List.forall_mem_append.2 ⟨h.members, fun _ => (nomatch ·)⟩

/-! ## Closing -/

/-- The innermost loop of the top level is closed. -/
theorem closeTopLoop (h : draft.Arranged bound spliced batches) (source : Source) (last : Nat) :
    ∃ batches, (draft.closeTopLoop source last).Arranged bound spliced batches := by
  unfold Draft.closeTopLoop
  split
  · exact ⟨batches, h⟩
  · next loops hloops =>
    have htop := h.top
    rw [hloops] at htop
    exact ⟨batches, h.symbols, h.splices, htop.tail, h.openFunction, h.openType, h.members⟩
  · next iterator loops hloops =>
    have htop := h.top
    rw [hloops] at htop
    have hmembers := h.members
    have hsplices := h.splices
    -- the iterator becomes a batch between those that its slot falls between
    obtain ⟨front, behind, rfl, hinsert, harranged⟩ :=
      htop.exists_insert (.own (.ofVariable (iterator.close source .globalVar last)))
        (iterator.mark_close source .globalVar last) rfl
    refine ⟨_, ?_, ?_, harranged, h.openFunction, h.openType, ?_⟩
    · rw [← hinsert, h.symbols]
    · rw [← hsplices, List.filterMap_append, List.filterMap_append]
      rfl
    · simp only [List.filterMap_append, List.filterMap_cons, Batch.own?, List.mem_append,
        List.mem_cons] at hmembers ⊢
      rintro symbol (hfront | rfl | hbehind)
      · exact hmembers symbol (.inl hfront)
      · exact .nil
      · exact hmembers symbol (.inr hbehind)

/-- Some loops of the top level are closed. -/
theorem closeTopLoops (h : draft.Arranged bound spliced batches) (source : Source)
    (last count : Nat) :
    ∃ batches, (draft.closeTopLoops source last count).Arranged bound spliced batches := by
  induction count generalizing draft batches with
  | zero => exact ⟨batches, h⟩
  | succ count ih =>
    obtain ⟨middle, hmiddle⟩ := h.closeTopLoop source last
    exact ih hmiddle

/-- The innermost loop is closed. -/
theorem closeLoop (h : draft.Arranged bound spliced batches) (source : Source) (last : Nat) :
    ∃ batches, (draft.closeLoop source last).Arranged bound spliced batches := by
  unfold Draft.closeLoop
  split
  · next f hf => exact ⟨batches, h.withFunction ((h.openFunction f hf).closeLoop source last)⟩
  · exact h.closeTopLoop source last

/-- The open function is closed, and is listed by its last line. -/
theorem closeFunction (h : draft.Arranged (last + 1) spliced batches) (source : Source) :
    ∃ batches, (draft.closeFunction source last).Arranged (last + 1) spliced batches := by
  unfold Draft.closeFunction
  split
  · next f hf =>
    have hconcat := h.concat (Nat.le_refl _) (.ofFunction (f.finish source last))
      (fun m hm => .of_le (Int.lt_add_one_iff.1 hm) rfl) (Int.ofNat_lt.2 (Nat.lt_succ_self last))
      ((h.openFunction f hf).membersInOrder_finish source last)
    exact ⟨_, hconcat.symbols, hconcat.splices, hconcat.top, fun _ => (nomatch ·),
      hconcat.openType, hconcat.members⟩
  · exact ⟨batches, h⟩

/-- The open type is closed, and is listed by its last line. -/
theorem closeType (h : draft.Arranged (last + 1) spliced batches) (source : Source) :
    ∃ batches, (draft.closeType source last).Arranged (last + 1) spliced batches := by
  unfold Draft.closeType
  split
  · next t ht =>
    have hconcat := h.concat (Nat.le_refl _) (.ofType (t.finish source last))
      (fun m hm => .of_le (Int.lt_add_one_iff.1 hm) rfl) (Int.ofNat_lt.2 (Nat.lt_succ_self last))
      (h.openType t ht).fields.startsBefore
    exact ⟨_, hconcat.symbols, hconcat.splices, hconcat.top, hconcat.openFunction,
      fun _ => (nomatch ·), hconcat.members⟩
  · exact ⟨batches, h⟩

/-- In front of a line that opens a function, the open one is closed on the line above. -/
theorem endFunction (h : draft.Arranged number spliced batches) (source : Source) :
    ∃ batches, (draft.endFunction source number).Arranged number spliced batches := by
  unfold Draft.endFunction
  split
  · next f hf =>
    have hline := (h.openFunction f hf).line_lt
    obtain ⟨last, rfl⟩ := Nat.exists_eq_succ_of_ne_zero (Nat.ne_zero_of_lt hline)
    have hmax : max (last.succ - 1) f.line = last := by omega
    rw [hmax]
    exact h.closeFunction source
  · exact ⟨batches, h⟩

/-- In front of a line that opens a type, the open one is closed on the line above. -/
theorem endType (h : draft.Arranged number spliced batches) (source : Source) :
    ∃ batches, (draft.endType source number).Arranged number spliced batches := by
  unfold Draft.endType
  split
  · next t ht =>
    have hline := (h.openType t ht).line_lt
    obtain ⟨last, rfl⟩ := Nat.exists_eq_succ_of_ne_zero (Nat.ne_zero_of_lt hline)
    have hmax : max (last.succ - 1) t.line = last := by omega
    rw [hmax]
    exact h.closeType source
  · exact ⟨batches, h⟩

/-! ## Lines -/

/-- Every line that is no include keeps a draft arranged. -/
theorem change (h : draft.Arranged number spliced batches) {statement : Statement}
    (hchange : draft.Change source number statement next) :
    ∃ batches, next.Arranged (number + 1) spliced batches := by
  -- closing belongs to the line itself, so that the draft is first taken to the next bound
  have hmono := h.mono (Nat.le_succ number)
  cases hchange with
  | remark _ _ doc => exact ⟨batches, hmono.withDoc doc⟩
  | @locals _ f added _ hf hadded =>
    have hopen := h.openFunction f hf
    exact ⟨batches, hmono.withFunction
      ⟨Nat.lt_succ_of_lt hopen.line_lt, hadded.append hopen.locals⟩⟩
  | topVariables _ _ hadded => exact ⟨_, h.addVariables hadded⟩
  | @label _ l _ _ hline =>
    refine ⟨_, h.concat (Nat.le_succ number) (.ofLabel l) (fun m hm => .of_lt ?_) ?_ .nil⟩
    · show m.line < l.range.startLine
      rwa [hline]
    · show l.range.startLine < _
      rw [hline]
      exact Int.ofNat_lt.2 (Nat.lt_succ_self number)
  | @fields _ t added _ _ ht hadded =>
    have hopen := h.openType t ht
    exact ⟨batches, hmono.withType
      ⟨Nat.lt_succ_of_lt hopen.line_lt, hadded.append hopen.fields⟩⟩
  | endType => exact hmono.closeType source
  | newType doc hline hfields =>
    obtain ⟨closed, hclosed⟩ := h.endType source
    refine ⟨closed, ((hclosed.mono (Nat.le_succ number)).withDoc doc).withType ⟨?_, ?_⟩⟩
    · exact hline ▸ Nat.lt_succ_self _
    · rw [hfields]
      exact .nil
  | @localLoop _ _ _ f loop closed hf hloop =>
    have hopen := h.openFunction f hf
    have hopened := hmono.withFunction (f := { f with loops := loop :: f.loops })
      ⟨Nat.lt_succ_of_lt hopen.line_lt, hopen.locals.push fun iterator heq => by
        rw [List.flatMap_singleton']
        exact hloop iterator heq⟩
    split
    · exact hopened.closeLoop source number
    · exact ⟨batches, hopened⟩
  | @topLoop _ _ _ loop closed hf hloop =>
    have hopened : Draft.Arranged (number + 1) spliced batches
        { draft with loops := loop :: draft.loops } :=
      ⟨h.symbols, h.splices, h.top.push fun iterator heq => by
        rw [← h.symbols]
        exact hloop iterator heq, hmono.openFunction, hmono.openType, h.members⟩
    split
    · exact hopened.closeLoop source number
    · exact ⟨batches, hopened⟩
  | endLoop => exact hmono.closeLoop source number
  | endFunction => exact hmono.closeFunction source
  | newFunction doc hline hloops hlocals =>
    obtain ⟨closed, hclosed⟩ := h.endFunction source
    refine ⟨closed, ((hclosed.mono (Nat.le_succ number)).withDoc doc).withFunction ⟨?_, ?_⟩⟩
    · exact hline ▸ Nat.lt_succ_self _
    · rw [hloops]
      exact hlocals.append .nil

/-- When the file ends, what is still open is closed, and the symbols are batches in order. -/
theorem finish (h : draft.Arranged (source.lastLine + 1) spliced batches) :
    ∃ batches loops, draft.finish source = batches.flatMap Batch.symbols ∧
      batches.filterMap Batch.splice? = spliced ∧
      BlitzLens.Arranged Batch.mark Batch.symbols (source.lastLine + 1) batches loops ∧
      ∀ symbol ∈ batches.filterMap Batch.own?, symbol.MembersInOrder := by
  obtain ⟨_, hfunction⟩ := h.closeFunction source
  obtain ⟨_, htype⟩ := hfunction.closeType source
  obtain ⟨batches, hloops⟩ := htype.closeTopLoops source source.lastLine
    ((draft.closeFunction source source.lastLine).closeType source source.lastLine).loops.length
  exact ⟨batches, _, hloops.symbols, hloops.splices, hloops.top, hloops.members⟩

end Draft.Arranged

/-! ## Files -/

/-- The includes among some numbered lines, with their lines and what they yield. -/
def splicesOf (fetch : Text → Except ExtractError (List Symbol)) (lines : List (Text × Nat)) :
    List (Nat × List Symbol) :=
  lines.filterMap fun numbered =>
    (((Statement.read numbered.1).target?.map fetch).bind Except.toOption).map (numbered.2, ·)

/-- The includes of a file, with their lines and what they yield. -/
def Source.splices (source : Source) (fetch : Text → Except ExtractError (List Symbol)) :
    List (Nat × List Symbol) :=
  splicesOf fetch source.lines.zipIdx

/-- What a scan yields is made of batches in order: the symbols that the file declares and, in one
piece each, what its includes yield. -/
structure Source.Arranges (source : Source) (fetch : Text → Except ExtractError (List Symbol))
    (result : List Symbol) (batches : List Batch) : Prop where
  /-- The symbols are those of the batches. -/
  symbols : result = batches.flatMap Batch.symbols
  /-- Every include yields a batch, on its line, in the order in which the included scan returned
  it; all other batches belong to the file. -/
  splices : batches.filterMap Batch.splice? = source.splices fetch
  /-- The symbols of the file stand where they say. -/
  placed : ∀ symbol ∈ batches.filterMap Batch.own?,
    symbol.PlacedBefore source source.lines.length
  /-- The batches are listed by their lines. -/
  lines : batches.Pairwise fun batch later => batch.line ≤ later.line
  /-- The variables of one line go from left to right. -/
  columns : (topVariables (batches.filterMap Batch.own?)).Pairwise fun v w =>
    v.range.startLine = w.range.startLine → v.range.startCol < w.range.startCol
  /-- The locals of functions and the fields of types start one in front of the other. -/
  members : ∀ symbol ∈ result, symbol.MembersInOrder

section Files

variable {source : Source} {fetch : Text → Except ExtractError (List Symbol)}
  {found : List Symbol} {draft next : Draft}

/-- The includes of a file yield together what its inclusions are. -/
theorem Source.flatMap_splices (source : Source)
    (fetch : Text → Except ExtractError (List Symbol)) :
    (source.splices fetch).flatMap Prod.snd = source.inclusions fetch := by
  have hlines (lines : List Text) (start : Nat) :
      (splicesOf fetch (lines.zipIdx start)).flatMap Prod.snd = lines.flatMap fun line =>
        (((Statement.read line).target?.map fetch).bind Except.toOption).getD [] := by
    induction lines generalizing start with
    | nil => rfl
    | cons line lines ih =>
      rw [List.zipIdx_cons, splicesOf, List.filterMap_cons, List.flatMap_cons, ← ih (start + 1)]
      cases ((Statement.read line).target?.map fetch).bind Except.toOption <;> rfl
  exact hlines source.lines 0

/-- A line more has the includes in front of it and its own. -/
theorem Source.splices_front_succ {number : Nat} {line : Text}
    (h : source.lines[number]? = some line) :
    (source.front (number + 1)).splices fetch =
      (source.front number).splices fetch ++ splicesOf fetch [(line, number)] := by
  rw [Source.splices, Source.front, zipIdx_take_succ h]
  exact List.filterMap_append

/-- A line keeps a draft arranged; an include adds what it yields. -/
theorem Draft.Arranged.afterLine {number : Nat} {line : Text}
    {spliced : List (Nat × List Symbol)} {batches : List Batch}
    (h : draft.Arranged number spliced batches)
    (hnext : draft.afterLine source fetch (line, number) = .ok next) :
    ∃ batches, next.Arranged (number + 1) (spliced ++ splicesOf fetch [(line, number)])
      batches := by
  rcases Draft.afterLine_cases hnext with ⟨htarget, hstep⟩ | ⟨target, result, htarget, hresult, rfl⟩
  · simp only [splicesOf, htarget, List.filterMap_cons, List.filterMap_nil, Option.map_none,
      Option.bind_none, List.append_nil]
    exact h.change (Draft.change_of_step (Statement.wellPlaced_read line) hstep)
  · simp only [splicesOf, htarget, hresult, List.filterMap_cons, List.filterMap_nil,
      Option.map_some, Option.bind_some, Except.toOption]
    exact ⟨_, h.splice result⟩

/-- A file lists its symbols in order, if its includes list theirs with members in order. -/
theorem Source.exists_arranges (hne : source.lines ≠ [])
    (hfetch : ∀ symbol ∈ source.inclusions fetch, symbol.MembersInOrder)
    (h : source.outcome fetch = .ok found) :
    ∃ batches, source.Arranges fetch found batches := by
  obtain ⟨own, howns, hperm⟩ := exists_owns hne h
  obtain ⟨draft, ⟨batches, harranged⟩, rfl⟩ := source.exists_draft_of_outcome
    (P := fun number draft =>
      ∃ batches, draft.Arranged number ((source.front number).splices fetch) batches)
    ⟨[], .empty⟩ (fun number line draft next hline hnext hdraft => by
      obtain ⟨batches, hbatches⟩ := hdraft
      rw [splices_front_succ hline]
      exact hbatches.afterLine hnext) h
  rw [front_length] at harranged
  have hlast : source.lines.length = source.lastLine + 1 :=
    (Nat.sub_add_cancel (List.length_pos_iff.2 hne)).symm
  rw [hlast] at harranged
  obtain ⟨batches, loops, hsymbols, hsplices, htop, hmembers⟩ := harranged.finish
  -- what is no batch of an include is what the file declares
  have hbatches := Batch.symbols_perm batches
  rw [hsplices, source.flatMap_splices, ← hsymbols] at hbatches
  have hown : (batches.filterMap Batch.own?).Perm own :=
    (List.perm_append_right_iff _).1 (hbatches.symm.trans hperm)
  refine ⟨batches, hsymbols, hsplices, fun symbol hsymbol => ?_, ?_, ?_, fun symbol hsymbol => ?_⟩
  · exact howns.placed symbol (hown.mem_iff.1 hsymbol)
  · refine htop.pairwise.imp fun {batch later} hprecedes => ?_
    have hle := hprecedes.le
    rwa [Batch.line_mark, Batch.line_mark] at hle
  · rw [topVariables, List.filterMap_filterMap, List.pairwise_filterMap]
    refine htop.pairwise.imp fun {batch later} hprecedes v hv w hw heq => ?_
    obtain ⟨symbol, hsymbol, hview⟩ := Option.bind_eq_some_iff.1 hv
    obtain ⟨other, hother, hview'⟩ := Option.bind_eq_some_iff.1 hw
    cases batch <;> cases hsymbol
    cases later <;> cases hother
    cases symbol <;> cases hview
    cases other <;> cases hview'
    exact hprecedes.lt _ rfl _ rfl heq
  · rcases List.mem_append.1 (hbatches.mem_iff.1 hsymbol) with hmem | hmem
    · exact hmembers symbol hmem
    · exact hfetch symbol hmem

end Files

/-! ## Scans -/

namespace Visit

variable {disk : Disk} {rules : IncludeRules} {visit : Visit} {found : List Symbol}

/-- Whatever a scan yields owns its variables in order. -/
theorem membersInOrder (h : visit.outcome disk rules = .ok found) :
    ∀ symbol ∈ found, symbol.MembersInOrder :=
  forall_mem_of_inclusions (fun visit _ h hfetch => by
    obtain ⟨_, harranges⟩ :=
      Source.exists_arranges (Text.linesAfter_ne_nil false visit.text) hfetch h
    exact harranges.members) h

/-- Every scan that yields symbols, of a document or of a file that is included, lists them in
batches in order. -/
theorem lists_in_batches (h : visit.outcome disk rules = .ok found) :
    ∃ batches, visit.source.Arranges (visit.fetch disk rules) found batches := by
  rw [outcome_eq] at h
  refine Source.exists_arranges (Text.linesAfter_ne_nil false visit.text) (fun symbol hmem => ?_) h
  obtain ⟨_, _, included, result, _, _, _, hresult, hsymbol⟩ := exists_of_mem_inclusions hmem
  exact membersInOrder hresult symbol hsymbol

/-- A loop around an include: its iterator is inserted in front of what the include yields. The
function that is never closed ends in front of the next one. -/
theorem lists_in_batches_around_include :
    let disk := Disk.ofFile "lib.bb" (Encoding.encodeUtf8 "Global u\nFunction h()") 1
    let rules : IncludeRules := ⟨[], true, 2⟩
    let text : Text :=
      "For i = 1 To 2\nInclude \"lib.bb\"\nGlobal b, a\nNext\nFunction f(x, y)\nFunction g()"
    ∃ found batches, (extract disk rules "main.bb" text).1 = .ok found ∧
      found.map (fun symbol => symbol.declared.name) =
        [['i'], ['u'], ['h'], ['b'], ['a'], ['f'], ['g']] ∧
      (Visit.document disk rules "main.bb" text).source.Arranges
        ((Visit.document disk rules "main.bb" text).fetch disk rules) found batches := by
  intro disk rules text
  have hnames : (extract disk rules "main.bb" text).1.toOption.map
      (fun found => found.map fun symbol => symbol.declared.name) =
        some [['i'], ['u'], ['h'], ['b'], ['a'], ['f'], ['g']] := by
    decide +kernel
  obtain ⟨found, hfound, hnames⟩ := exists_of_map_toOption hnames
  have hvisit := hfound
  rw [extract_fst] at hvisit
  obtain ⟨batches, harranges⟩ := lists_in_batches hvisit
  exact ⟨found, batches, hfound, hnames, harranges⟩

end Visit

end BlitzLens
