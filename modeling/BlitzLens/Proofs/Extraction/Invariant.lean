import BlitzLens.Proofs.Extraction.Placement

/-!
# The invariant of a draft

The symbols of a draft are those that the file itself declares and those that were spliced in from
included files. `Draft.Sound` says, for the lines in front of a bound, that everything the file
declares is in place, that its functions follow one another without sharing a line, as do its types,
and that no two names start at one place. It holds before the first line, every step keeps it
(`Draft.Sound.step`), and it holds of what is left when the file ends (`Draft.Sound.finish`).
-/

namespace BlitzLens

/-- The lines from and to which the functions among some symbols extend. -/
def functionLines (symbols : List Symbol) : List (Int × Int) :=
  symbols.filterMap fun symbol => symbol.asFunction?.map fun f => (f.range.startLine, f.endLine)

/-- The lines from and to which the types among some symbols extend. -/
def typeLines (symbols : List Symbol) : List (Int × Int) :=
  symbols.filterMap fun symbol => symbol.asType?.map fun t => (t.range.startLine, t.endLine)

/-- The functions among two lists of symbols. -/
theorem functionLines_append (symbols added : List Symbol) :
    functionLines (symbols ++ added) = functionLines symbols ++ functionLines added :=
  List.filterMap_append

/-- The types among two lists of symbols. -/
theorem typeLines_append (symbols added : List Symbol) :
    typeLines (symbols ++ added) = typeLines symbols ++ typeLines added :=
  List.filterMap_append

/-- A function that is closed extends from the line that opened it. -/
theorem functionLines_finish (f : FunctionDraft) (source : Source) (last : Nat) :
    functionLines [.ofFunction (f.finish source last)] = [((f.line : Int), (last : Int))] := by
  obtain ⟨locals, hlocals⟩ := f.closeLoops_eq source last f.loops.length
  have hstart : (f.finish source last).range.startLine = f.line := by
    rw [FunctionDraft.finish, hlocals]
    rfl
  rw [functionLines, List.filterMap_cons, Symbol.asFunction?, Option.map_some, hstart]
  rfl

/-- Blocks of lines follow one another without sharing a line, and the block that is still open
follows all of them. -/
structure Stacked (blocks : List (Int × Int)) (opened : Option Nat) : Prop where
  /-- A block ends in front of every later one. -/
  pairwise : blocks.Pairwise fun block later => block.2 < later.1
  /-- Every block ends in front of the open one. -/
  lt_opened : ∀ line, opened = some line → ∀ block ∈ blocks, block.2 < (line : Int)

namespace Stacked

variable {blocks : List (Int × Int)} {line : Nat}

theorem nil : Stacked [] none :=
  ⟨.nil, fun _ => (nomatch ·)⟩

/-- The open block is closed. -/
theorem close {last : Int} (h : Stacked blocks (some line)) :
    Stacked (blocks ++ [((line : Int), last)]) none := by
  refine ⟨List.pairwise_append.2 ⟨h.pairwise, List.pairwise_singleton _ _,
    fun block hmem later hlater => ?_⟩, fun _ => (nomatch ·)⟩
  rw [List.mem_singleton.1 hlater]
  exact h.lt_opened line rfl block hmem

/-- A block is opened behind all others. -/
theorem opened (h : Stacked blocks none) (hline : ∀ block ∈ blocks, block.2 < (line : Int)) :
    Stacked blocks (some line) :=
  ⟨h.pairwise, fun _ heq => Option.some.inj heq ▸ hline⟩

end Stacked

namespace Draft

/-- The places of the names of what is open in a draft. -/
def openStarts (draft : Draft) : List (Int × Int) :=
  (draft.openFunction.map FunctionDraft.starts).getD [] ++
    ((draft.openType.map TypeDraft.starts).getD [] ++ loopStarts draft.loops)

/-- A draft whose symbols are the file's `own` and those `spliced` in, sound for the lines in front
of a bound. -/
structure Sound (source : Source) (bound : Nat) (own spliced : List Symbol) (draft : Draft) :
    Prop where
  /-- The symbols are those of the file and those spliced in. -/
  symbols : draft.symbols.Perm (own ++ spliced)
  /-- The symbols of the file are in place. -/
  placed : ∀ symbol ∈ own, symbol.PlacedBefore source bound
  /-- The open function is in place. -/
  openFunction : ∀ f, draft.openFunction = some f → f.PlacedBefore source bound
  /-- The open type is in place. -/
  openType : ∀ t, draft.openType = some t → t.PlacedBefore source bound
  /-- The open loops are in place, and their iterators will be among the symbols. -/
  loops : ∀ iterator, some iterator ∈ draft.loops →
    iterator.PlacedBefore source bound ∧ iterator.slot ≤ draft.symbols.length
  /-- The functions of the file share no line. -/
  functions : Stacked (functionLines own) (draft.openFunction.map FunctionDraft.line)
  /-- The types of the file share no line. -/
  types : Stacked (typeLines own) (draft.openType.map TypeDraft.line)
  /-- No two names of the file start at one place. -/
  nodup : (own.flatMap Symbol.starts ++ draft.openStarts).Nodup

end Draft

/-! ## Places in front of a bound -/

section Bounds

variable {source : Source} {bound : Nat}

/-- The name of a placed declaration starts in front of the bound. -/
theorem Declared.PlacedBefore.start_lt {d : Declared} (h : d.PlacedBefore source bound) :
    d.start.1 < bound := by
  obtain ⟨line, column, hline, -, hrange⟩ := h.place
  rw [start, hrange]
  exact Int.ofNat_lt.2 hline

/-- A block ends in front of the bound, and so do the names in it. -/
theorem Declared.OwnsBefore.lt {owner : Declared} {endLine : Int} {members : List Variable}
    (h : owner.OwnsBefore source bound endLine members) :
    endLine < bound ∧ ∀ v ∈ members, v.start.1 < bound := by
  obtain ⟨first, last, -, -, hlast, -, rfl, hmembers⟩ := h.block
  refine ⟨Int.ofNat_lt.2 hlast, fun v hv => ?_⟩
  have hstart := (hmembers v hv).1.toPlacedBefore.start_lt
  omega

/-- The names of a placed symbol start in front of the bound. -/
theorem Symbol.PlacedBefore.starts_lt {symbol : Symbol} (h : symbol.PlacedBefore source bound) :
    ∀ start ∈ symbol.starts, start.1 < bound := by
  intro start hmem
  rw [starts, List.mem_cons, List.mem_map] at hmem
  cases symbol with
  | ofVariable v =>
    rcases hmem with rfl | ⟨v, hv, -⟩
    · exact Declared.PlacedBefore.start_lt h.toPlacedBefore
    · cases hv
  | ofFunction f =>
    rcases hmem with rfl | ⟨v, hv, rfl⟩
    · exact Declared.PlacedBefore.start_lt h.toPlacedBefore
    · exact (Declared.OwnsBefore.lt h).2 v hv
  | ofType t =>
    rcases hmem with rfl | ⟨v, hv, rfl⟩
    · exact Declared.PlacedBefore.start_lt h.toPlacedBefore
    · exact (Declared.OwnsBefore.lt h).2 v hv
  | ofLabel l =>
    rcases hmem with rfl | ⟨v, hv, -⟩
    · exact Declared.PlacedBefore.start_lt h.1
    · cases hv

/-- The iterators of open loops start in front of the bound. -/
theorem loopStarts_lt {loops : List OpenLoop}
    (h : ∀ iterator, some iterator ∈ loops → iterator.PlacedBefore source bound) :
    ∀ start ∈ loopStarts loops, start.1 < bound := by
  intro start hmem
  obtain ⟨loop, hloop, hstart⟩ := List.mem_filterMap.1 hmem
  obtain ⟨iterator, rfl, rfl⟩ := Option.map_eq_some_iff.1 hstart
  exact Int.ofNat_lt.2 (h iterator hloop).line_lt

/-- The names of an open function start in front of the bound. -/
theorem FunctionDraft.PlacedBefore.starts_lt {f : FunctionDraft}
    (h : f.PlacedBefore source bound) : ∀ start ∈ f.starts, start.1 < bound := by
  intro start hmem
  rw [FunctionDraft.starts, List.mem_cons, List.mem_append, List.mem_map] at hmem
  rcases hmem with rfl | ⟨v, hv, rfl⟩ | hloop
  · exact Int.ofNat_lt.2 h.line_lt
  · exact (h.locals v hv).1.toPlacedBefore.start_lt
  · exact loopStarts_lt (fun iterator hiterator => (h.loops iterator hiterator).1) start hloop

/-- The names of an open type start in front of the bound. -/
theorem TypeDraft.PlacedBefore.starts_lt {t : TypeDraft} (h : t.PlacedBefore source bound) :
    ∀ start ∈ t.starts, start.1 < bound := by
  intro start hmem
  rw [TypeDraft.starts, List.mem_cons, List.mem_map] at hmem
  rcases hmem with rfl | ⟨v, hv, rfl⟩
  · exact Int.ofNat_lt.2 h.line_lt
  · exact (h.fields v hv).1.toPlacedBefore.start_lt

end Bounds

namespace Draft.Sound

variable {source : Source} {bound bound' : Nat} {own spliced : List Symbol} {draft : Draft}

/-- All names of the file start in front of the bound. -/
theorem starts_lt (h : draft.Sound source bound own spliced) :
    ∀ start ∈ own.flatMap Symbol.starts ++ draft.openStarts, start.1 < bound := by
  intro start hmem
  rw [openStarts, List.mem_append, List.mem_append, List.mem_append, List.mem_flatMap] at hmem
  rcases hmem with ⟨symbol, hsymbol, hstart⟩ | hstart | hstart | hstart
  · exact (h.placed symbol hsymbol).starts_lt start hstart
  · cases hf : draft.openFunction with
    | none => rw [hf] at hstart; cases hstart
    | some f => rw [hf] at hstart; exact (h.openFunction f hf).starts_lt start hstart
  · cases ht : draft.openType with
    | none => rw [ht] at hstart; cases hstart
    | some t => rw [ht] at hstart; exact (h.openType t ht).starts_lt start hstart
  · exact loopStarts_lt (fun iterator hiterator => (h.loops iterator hiterator).1) start hstart

/-- Names that start at new places behind the bound leave all places different. -/
theorem nodup_of_perm (h : draft.Sound source bound own spliced) (new : List (Int × Int))
    {starts : List (Int × Int)}
    (hperm : starts.Perm (own.flatMap Symbol.starts ++ draft.openStarts ++ new))
    (hnew : ∀ start ∈ new, (bound : Int) ≤ start.1) (hnodup : new.Nodup) : starts.Nodup := by
  refine hperm.nodup_iff.2 (List.nodup_append.2 ⟨h.nodup, hnodup, fun start hold start' hmem => ?_⟩)
  have hlow := h.starts_lt start hold
  have hhigh := hnew start' hmem
  rintro rfl
  omega

/-- Symbols of the file that are added behind all others are own ones. -/
theorem perm_append (h : draft.Sound source bound own spliced) (added : List Symbol) :
    (draft.symbols ++ added).Perm ((own ++ added) ++ spliced) := by
  refine (h.symbols.append_right added).trans ?_
  rw [List.append_assoc, List.append_assoc]
  exact List.perm_append_comm.append_left own

/-- More symbols leave room for the iterators of open loops. -/
theorem loops_append (h : draft.Sound source bound own spliced) (added : List Symbol) :
    ∀ iterator, some iterator ∈ draft.loops → iterator.PlacedBefore source bound ∧
      iterator.slot ≤ (draft.symbols ++ added).length := by
  intro iterator hmem
  obtain ⟨hiterator, hslot⟩ := h.loops iterator hmem
  refine ⟨hiterator, Nat.le_trans hslot ?_⟩
  rw [List.length_append]
  exact Nat.le_add_right _ _

/-- A draft that is sound for some lines is sound for more lines that declare nothing. -/
theorem mono (h : draft.Sound source bound own spliced) (hle : bound ≤ bound') :
    draft.Sound source bound' own spliced where
  symbols := h.symbols
  placed symbol hmem := (h.placed symbol hmem).mono hle
  openFunction f hf := (h.openFunction f hf).mono hle
  openType t ht := (h.openType t ht).mono hle
  loops iterator hmem := ⟨(h.loops iterator hmem).1.mono hle, (h.loops iterator hmem).2⟩
  functions := h.functions
  types := h.types
  nodup := h.nodup

/-- The file need not declare anything more. -/
theorem exists_append (h : draft.Sound source bound own spliced) :
    ∃ added, draft.Sound source bound (own ++ added) spliced :=
  ⟨[], (List.append_nil own).symm ▸ h⟩

/-- Waiting documentation does not matter. -/
theorem withDoc (h : draft.Sound source bound own spliced) (doc : DocBlock) :
    Draft.Sound source bound own spliced { draft with doc } :=
  ⟨h.symbols, h.placed, h.openFunction, h.openType, h.loops, h.functions, h.types, h.nodup⟩

/-- The draft before the first line is sound. -/
theorem empty (source : Source) : Draft.Sound source 0 [] [] .empty where
  symbols := .refl _
  placed _ := (nomatch ·)
  openFunction _ := (nomatch ·)
  openType _ := (nomatch ·)
  loops _ := (nomatch ·)
  functions := .nil
  types := .nil
  nodup := .nil

/-- The symbols of an included file are not the file's own. -/
theorem splice (h : draft.Sound source bound own spliced) (found : List Symbol) :
    Draft.Sound source bound own (spliced ++ found)
      { draft with symbols := draft.symbols ++ found } where
  symbols := by
    rw [← List.append_assoc]
    exact h.symbols.append_right found
  placed := h.placed
  openFunction := h.openFunction
  openType := h.openType
  loops := h.loops_append found
  functions := h.functions
  types := h.types
  nodup := h.nodup

/-! ## The kinds of changes -/

/-- Variables and labels are added behind the symbols. -/
theorem addSymbols (h : draft.Sound source bound own spliced) (hle : bound ≤ bound')
    {added : List Symbol} (hplaced : ∀ symbol ∈ added, symbol.PlacedBefore source bound')
    (hfunction : functionLines added = []) (htype : typeLines added = [])
    (hstarts : ∀ start ∈ added.flatMap Symbol.starts, (bound : Int) ≤ start.1)
    (hnodup : (added.flatMap Symbol.starts).Nodup) :
    Draft.Sound source bound' (own ++ added) spliced
      { draft with symbols := draft.symbols ++ added } where
  symbols := h.perm_append added
  placed symbol hmem := (List.mem_append.1 hmem).elim
    (fun hold => (h.placed symbol hold).mono hle) (hplaced symbol)
  openFunction f hf := (h.openFunction f hf).mono hle
  openType t ht := (h.openType t ht).mono hle
  loops iterator hmem :=
    ⟨(h.loops_append added iterator hmem).1.mono hle, (h.loops_append added iterator hmem).2⟩
  functions := by
    rw [functionLines_append, hfunction, List.append_nil]
    exact h.functions
  types := by
    rw [typeLines_append, htype, List.append_nil]
    exact h.types
  nodup := by
    refine h.nodup_of_perm _ ?_ hstarts hnodup
    rw [List.flatMap_append, List.append_assoc, List.append_assoc]
    exact List.perm_append_comm.append_left _

/-- The open function goes on. -/
theorem setFunction {f : FunctionDraft} (h : draft.Sound source bound own spliced)
    (hle : bound ≤ bound') (hf : draft.openFunction = some f) (f' : FunctionDraft)
    (hplaced : f'.PlacedBefore source bound') (hline : f'.line = f.line)
    (new : List (Int × Int)) (hstarts : f'.starts.Perm (f.starts ++ new))
    (hnew : ∀ start ∈ new, (bound : Int) ≤ start.1) (hnodup : new.Nodup) :
    Draft.Sound source bound' own spliced { draft with openFunction := some f' } where
  symbols := h.symbols
  placed symbol hmem := (h.placed symbol hmem).mono hle
  openFunction _ heq := Option.some.inj heq ▸ hplaced
  openType t ht := (h.openType t ht).mono hle
  loops iterator hmem := ⟨(h.loops iterator hmem).1.mono hle, (h.loops iterator hmem).2⟩
  functions := by
    have hopened := h.functions
    rw [hf, Option.map_some, ← hline] at hopened
    exact hopened
  types := h.types
  nodup := by
    refine h.nodup_of_perm _ ?_ hnew hnodup
    -- the places of the function are counted apart from those of the type and the loops
    rw [openStarts, openStarts, hf, Option.map_some, Option.map_some, Option.getD_some,
      Option.getD_some]
    simp only [List.perm_iff_count, List.count_append] at hstarts ⊢
    intro start
    have := hstarts start
    omega

/-- The open type goes on. -/
theorem setType {t : TypeDraft} (h : draft.Sound source bound own spliced)
    (hle : bound ≤ bound') (ht : draft.openType = some t) (t' : TypeDraft)
    (hplaced : t'.PlacedBefore source bound') (hline : t'.line = t.line)
    (new : List (Int × Int)) (hstarts : t'.starts.Perm (t.starts ++ new))
    (hnew : ∀ start ∈ new, (bound : Int) ≤ start.1) (hnodup : new.Nodup) :
    Draft.Sound source bound' own spliced { draft with openType := some t' } where
  symbols := h.symbols
  placed symbol hmem := (h.placed symbol hmem).mono hle
  openFunction f hf := (h.openFunction f hf).mono hle
  openType _ heq := Option.some.inj heq ▸ hplaced
  loops iterator hmem := ⟨(h.loops iterator hmem).1.mono hle, (h.loops iterator hmem).2⟩
  functions := h.functions
  types := by
    have hopened := h.types
    rw [ht, Option.map_some, ← hline] at hopened
    exact hopened
  nodup := by
    refine h.nodup_of_perm _ ?_ hnew hnodup
    -- the places of the type are counted apart from those of the function and the loops
    rw [openStarts, openStarts, ht, Option.map_some, Option.map_some, Option.getD_some,
      Option.getD_some]
    simp only [List.perm_iff_count, List.count_append] at hstarts ⊢
    intro start
    have := hstarts start
    omega

/-! ## Closing -/

variable {last : Nat}

/-- The innermost loop of the top level is closed, and its iterator is a symbol. -/
theorem closeTopLoop (h : draft.Sound source (last + 1) own spliced) :
    ∃ added, (draft.closeTopLoop source last).Sound source (last + 1) (own ++ added) spliced := by
  unfold Draft.closeTopLoop
  split
  · exact h.exists_append
  · next loops hloops =>
    refine exists_append ⟨h.symbols, h.placed, h.openFunction, h.openType, fun iterator hmem =>
      h.loops iterator (hloops ▸ List.mem_cons_of_mem _ hmem), h.functions, h.types, ?_⟩
    have hnodup := h.nodup
    rw [openStarts, hloops, loopStarts_none_cons] at hnodup
    exact hnodup
  · next iterator loops hloops =>
    -- the iterator is inserted where it would stand had it been declared by the loop
    obtain ⟨hiterator, hslot⟩ := h.loops iterator (by simp [hloops])
    have hclosed := OpenIterator.placedBefore_close hiterator .globalVar
    have hinsert := List.perm_insertIdx
      (Symbol.ofVariable (iterator.close source .globalVar last)) draft.symbols hslot
    refine ⟨[.ofVariable (iterator.close source .globalVar last)], ?_, ?_, h.openFunction,
      h.openType, ?_, ?_, ?_, ?_⟩
    · refine (hinsert.trans (h.symbols.cons _)).trans ?_
      rw [List.append_assoc]
      exact List.perm_middle.symm
    · exact List.forall_mem_append.2 ⟨h.placed, List.forall_mem_singleton.2 hclosed⟩
    · intro other hmem
      obtain ⟨hother, hotherSlot⟩ := h.loops other (hloops ▸ List.mem_cons_of_mem _ hmem)
      refine ⟨hother, ?_⟩
      rw [List.length_insertIdx_of_le_length hslot]
      omega
    · rw [functionLines_append]
      simpa [functionLines, Symbol.asFunction?] using h.functions
    · rw [typeLines_append]
      simpa [typeLines, Symbol.asType?] using h.types
    · -- the place of the iterator moves from the open loops to the symbols
      have hstart : [Symbol.ofVariable (iterator.close source .globalVar last)].flatMap
          Symbol.starts = [((iterator.line : Int), (iterator.column : Int))] := rfl
      refine h.nodup_of_perm [] ?_ (fun _ => (nomatch ·)) .nil
      rw [openStarts, openStarts, hloops, loopStarts_some_cons, List.flatMap_append, hstart]
      simp only [List.perm_iff_count, List.count_append, List.count_cons, List.count_nil]
      intro start
      omega

/-- Some loops of the top level are closed. -/
theorem closeTopLoops (h : draft.Sound source (last + 1) own spliced) (count : Nat) :
    ∃ added, (draft.closeTopLoops source last count).Sound source (last + 1) (own ++ added)
      spliced := by
  induction count generalizing draft own with
  | zero => exact h.exists_append
  | succ count ih =>
    obtain ⟨first, hfirst⟩ := h.closeTopLoop
    obtain ⟨more, hmore⟩ := ih hfirst
    exact ⟨first ++ more, by rwa [← List.append_assoc]⟩

/-- The innermost loop of the open function, or of the top level, is closed. -/
theorem closeLoop (h : draft.Sound source (last + 1) own spliced) :
    ∃ added, (draft.closeLoop source last).Sound source (last + 1) (own ++ added) spliced := by
  unfold Draft.closeLoop
  split
  · next f hf =>
    obtain ⟨hplaced, hstarts⟩ := (h.openFunction f hf).closeLoop
    obtain ⟨locals, hlocals⟩ := f.closeLoop_eq source last
    exact (h.setFunction (Nat.le_refl _) hf _ hplaced (by rw [hlocals]) []
      (by rwa [List.append_nil]) (fun _ => (nomatch ·)) .nil).exists_append
  · exact h.closeTopLoop

/-- The open function is closed, and is a symbol; then no function is open. -/
theorem closeFunction (h : draft.Sound source (last + 1) own spliced) :
    ∃ added, (draft.closeFunction source last).Sound source (last + 1) (own ++ added) spliced ∧
      (draft.closeFunction source last).openFunction = none := by
  unfold Draft.closeFunction
  split
  · next f hf =>
    obtain ⟨hplaced, hstarts⟩ := (h.openFunction f hf).finish
    refine ⟨[.ofFunction (f.finish source last)], ⟨h.perm_append _, ?_, fun _ => (nomatch ·),
      h.openType, h.loops_append _, ?_, ?_, ?_⟩, rfl⟩
    · exact List.forall_mem_append.2 ⟨h.placed, List.forall_mem_singleton.2 hplaced⟩
    · have hopened := h.functions
      rw [hf, Option.map_some] at hopened
      rw [functionLines_append, functionLines_finish]
      exact hopened.close
    · rw [typeLines_append]
      simpa [typeLines, Symbol.asType?] using h.types
    · -- the places of the function and of its locals move to the symbols
      refine h.nodup_of_perm [] ?_ (fun _ => (nomatch ·)) .nil
      rw [openStarts, openStarts, hf, List.flatMap_append, List.flatMap_singleton]
      simp only [List.perm_iff_count, List.count_append, Option.map_some, Option.map_none,
        Option.getD_some, Option.getD_none, List.count_nil] at hstarts ⊢
      intro start
      have := hstarts start
      omega
  · next hf => exact ⟨[], by rwa [List.append_nil], hf⟩

/-- The open type is closed, and is a symbol; then no type is open. -/
theorem closeType (h : draft.Sound source (last + 1) own spliced) :
    ∃ added, (draft.closeType source last).Sound source (last + 1) (own ++ added) spliced ∧
      (draft.closeType source last).openType = none := by
  unfold Draft.closeType
  split
  · next t ht =>
    obtain ⟨hplaced, hstarts⟩ := (h.openType t ht).finish
    refine ⟨[.ofType (t.finish source last)], ⟨h.perm_append _, ?_, h.openFunction,
      fun _ => (nomatch ·), h.loops_append _, ?_, ?_, ?_⟩, rfl⟩
    · exact List.forall_mem_append.2 ⟨h.placed, List.forall_mem_singleton.2 hplaced⟩
    · rw [functionLines_append]
      simpa [functionLines, Symbol.asFunction?] using h.functions
    · have hopened := h.types
      rw [ht, Option.map_some] at hopened
      rw [typeLines_append]
      exact hopened.close
    · -- the places of the type and of its fields move to the symbols
      refine h.nodup_of_perm [] ?_ (fun _ => (nomatch ·)) .nil
      rw [openStarts, openStarts, ht, List.flatMap_append, List.flatMap_singleton, hstarts]
      simp only [List.perm_iff_count, List.count_append, Option.map_some, Option.map_none,
        Option.getD_some, Option.getD_none, List.count_nil]
      intro start
      omega
  · next ht => exact ⟨[], by rwa [List.append_nil], ht⟩

/-! ## Declaring on the next line -/

variable {line column : Nat} {added : List Variable}

/-- Variables of the next line are added to the open function. -/
theorem addLocals {f : FunctionDraft} (h : draft.Sound source line own spliced)
    (hf : draft.openFunction = some f) (hadded : DeclaredOn source line column added) :
    Draft.Sound source (line + 1) own spliced
      { draft with openFunction := some { f with locals := f.locals ++ added } } := by
  have hopen := (h.openFunction f hf).mono (Nat.le_succ line)
  have hbefore := (h.openFunction f hf).line_lt
  refine h.setFunction (Nat.le_succ line) hf { f with locals := f.locals ++ added }
    ⟨hopen.line_lt, hopen.names, fun v hv => ?_, fun iterator hmem => ?_⟩ rfl
    (added.map fun v => v.start) ?_ hadded.le_start hadded.nodup
  · rcases List.mem_append.1 hv with hold | hnew
    · exact hopen.locals v hold
    · obtain ⟨hplaced, hstart⟩ := hadded.placed v hnew
      exact ⟨hplaced, by rw [hstart]; dsimp only; omega⟩
  · obtain ⟨hiterator, hline, hslot⟩ := hopen.loops iterator hmem
    refine ⟨hiterator, hline, Nat.le_trans hslot ?_⟩
    rw [List.length_append]
    exact Nat.le_add_right _ _
  · simp only [FunctionDraft.starts, List.map_append, List.perm_iff_count, List.count_append,
      List.count_cons]
    intro start
    omega

/-- Variables of the next line are added to the symbols. -/
theorem addVariables (h : draft.Sound source line own spliced)
    (hadded : DeclaredOn source line column added) :
    Draft.Sound source (line + 1) (own ++ added.map .ofVariable) spliced
      { draft with symbols := draft.symbols ++ added.map .ofVariable } := by
  have hstarts : (added.map Symbol.ofVariable).flatMap Symbol.starts =
      added.map fun v => v.start := by
    rw [List.flatMap_map]
    exact List.map_eq_flatMap.symm
  refine h.addSymbols (Nat.le_succ line) (fun symbol hmem => ?_) ?_ ?_ ?_ ?_
  · obtain ⟨v, hv, rfl⟩ := List.mem_map.1 hmem
    exact (hadded.placed v hv).1
  · simp [functionLines, Symbol.asFunction?]
  · simp [typeLines, Symbol.asType?]
  · rw [hstarts]
    exact hadded.le_start
  · rw [hstarts]
    exact hadded.nodup

/-- Fields of the next line are added to the open type. -/
theorem addFields {t : TypeDraft} (h : draft.Sound source line own spliced)
    (ht : draft.openType = some t) (hadded : DeclaredOn source line column added) :
    Draft.Sound source (line + 1) own spliced
      { draft with openType := some { t with fields := t.fields ++ added } } := by
  have hopen := (h.openType t ht).mono (Nat.le_succ line)
  have hbefore := (h.openType t ht).line_lt
  refine h.setType (Nat.le_succ line) ht { t with fields := t.fields ++ added }
    ⟨hopen.line_lt, hopen.names, fun v hv => ?_⟩ rfl (added.map fun v => v.start) ?_
    hadded.le_start hadded.nodup
  · rcases List.mem_append.1 hv with hold | hnew
    · exact hopen.fields v hold
    · obtain ⟨hplaced, hstart⟩ := hadded.placed v hnew
      exact ⟨hplaced, by rw [hstart]; dsimp only; omega⟩
  · rw [TypeDraft.starts, TypeDraft.starts, List.map_append, List.cons_append]

/-- A loop of the next line is opened at the top level; it may have an iterator. -/
theorem addLoop (h : draft.Sound source line own spliced) {loop : OpenLoop}
    (hloop : ∀ iterator, loop = some iterator → iterator.PlacedBefore source (line + 1) ∧
      iterator.line = line ∧ iterator.slot ≤ draft.symbols.length) :
    Draft.Sound source (line + 1) own spliced { draft with loops := loop :: draft.loops } where
  symbols := h.symbols
  placed symbol hmem := (h.placed symbol hmem).mono (Nat.le_succ line)
  openFunction f hf := (h.openFunction f hf).mono (Nat.le_succ line)
  openType t ht := (h.openType t ht).mono (Nat.le_succ line)
  loops iterator hmem := by
    rcases List.mem_cons.1 hmem with hnew | hold
    · obtain ⟨hiterator, -, hslot⟩ := hloop iterator hnew.symm
      exact ⟨hiterator, hslot⟩
    · obtain ⟨hiterator, hslot⟩ := h.loops iterator hold
      exact ⟨hiterator.mono (Nat.le_succ line), hslot⟩
  functions := h.functions
  types := h.types
  nodup := by
    obtain ⟨hnew, hnodup⟩ := loopStarts_singleton fun iterator heq => (hloop iterator heq).2.1
    refine h.nodup_of_perm _ ?_ hnew hnodup
    rw [openStarts, openStarts, loopStarts_cons]
    simp only [List.perm_iff_count, List.count_append]
    intro start
    omega

/-- A loop of the next line is opened in the open function; it may have an iterator. -/
theorem addLocalLoop {f : FunctionDraft} (h : draft.Sound source line own spliced)
    (hf : draft.openFunction = some f) {loop : OpenLoop}
    (hloop : ∀ iterator, loop = some iterator → iterator.PlacedBefore source (line + 1) ∧
      iterator.line = line ∧ iterator.slot ≤ f.locals.length) :
    Draft.Sound source (line + 1) own spliced
      { draft with openFunction := some { f with loops := loop :: f.loops } } := by
  have hopen := (h.openFunction f hf).mono (Nat.le_succ line)
  have hbefore := (h.openFunction f hf).line_lt
  obtain ⟨hnew, hnodup⟩ := loopStarts_singleton fun iterator heq => (hloop iterator heq).2.1
  refine h.setFunction (Nat.le_succ line) hf { f with loops := loop :: f.loops }
    ⟨hopen.line_lt, hopen.names, hopen.locals, fun iterator hmem => ?_⟩ rfl _ ?_ hnew hnodup
  · rcases List.mem_cons.1 hmem with hnew | hold
    · obtain ⟨hiterator, hline, hslot⟩ := hloop iterator hnew.symm
      exact ⟨hiterator, by dsimp only; omega, hslot⟩
    · exact hopen.loops iterator hold
  · rw [FunctionDraft.starts, FunctionDraft.starts, loopStarts_cons]
    simp only [List.perm_iff_count, List.count_append, List.count_cons]
    intro start
    omega

/-- The functions of the file end in front of the bound. -/
theorem functionLines_lt (h : draft.Sound source bound own spliced) :
    ∀ block ∈ functionLines own, block.2 < (bound : Int) := by
  intro block hmem
  obtain ⟨symbol, hsymbol, hblock⟩ := List.mem_filterMap.1 hmem
  obtain ⟨f, hf, rfl⟩ := Option.map_eq_some_iff.1 hblock
  cases symbol <;> cases hf
  exact (Declared.OwnsBefore.lt (h.placed _ hsymbol)).1

/-- The types of the file end in front of the bound. -/
theorem typeLines_lt (h : draft.Sound source bound own spliced) :
    ∀ block ∈ typeLines own, block.2 < (bound : Int) := by
  intro block hmem
  obtain ⟨symbol, hsymbol, hblock⟩ := List.mem_filterMap.1 hmem
  obtain ⟨t, ht, rfl⟩ := Option.map_eq_some_iff.1 hblock
  cases symbol <;> cases ht
  exact (Declared.OwnsBefore.lt (h.placed _ hsymbol)).1

/-- A function is opened on the next line when none is open. -/
theorem openNewFunction {f : FunctionDraft} (h : draft.Sound source line own spliced)
    (hnone : draft.openFunction = none) (hplaced : f.PlacedBefore source (line + 1))
    (hline : f.line = line) (hstarts : ∀ start ∈ f.starts, (line : Int) ≤ start.1)
    (hnodup : f.starts.Nodup) :
    Draft.Sound source (line + 1) own spliced { draft with openFunction := some f } where
  symbols := h.symbols
  placed symbol hmem := (h.placed symbol hmem).mono (Nat.le_succ line)
  openFunction _ heq := Option.some.inj heq ▸ hplaced
  openType t ht := (h.openType t ht).mono (Nat.le_succ line)
  loops iterator hmem :=
    ⟨(h.loops iterator hmem).1.mono (Nat.le_succ line), (h.loops iterator hmem).2⟩
  functions := by
    have hclosed := h.functions
    rw [hnone, Option.map_none] at hclosed
    exact hclosed.opened (hline ▸ h.functionLines_lt)
  types := h.types
  nodup := by
    refine h.nodup_of_perm f.starts ?_ hstarts hnodup
    rw [openStarts, openStarts, hnone, Option.map_some, Option.map_none, Option.getD_some,
      Option.getD_none]
    simp only [List.perm_iff_count, List.count_append, List.count_nil]
    intro start
    omega

/-- A type is opened on the next line when none is open. -/
theorem openNewType {t : TypeDraft} (h : draft.Sound source line own spliced)
    (hnone : draft.openType = none) (hplaced : t.PlacedBefore source (line + 1))
    (hline : t.line = line) (hstarts : ∀ start ∈ t.starts, (line : Int) ≤ start.1)
    (hnodup : t.starts.Nodup) :
    Draft.Sound source (line + 1) own spliced { draft with openType := some t } where
  symbols := h.symbols
  placed symbol hmem := (h.placed symbol hmem).mono (Nat.le_succ line)
  openFunction f hf := (h.openFunction f hf).mono (Nat.le_succ line)
  openType _ heq := Option.some.inj heq ▸ hplaced
  loops iterator hmem :=
    ⟨(h.loops iterator hmem).1.mono (Nat.le_succ line), (h.loops iterator hmem).2⟩
  functions := h.functions
  types := by
    have hclosed := h.types
    rw [hnone, Option.map_none] at hclosed
    exact hclosed.opened (hline ▸ h.typeLines_lt)
  nodup := by
    refine h.nodup_of_perm t.starts ?_ hstarts hnodup
    rw [openStarts, openStarts, hnone, Option.map_some, Option.map_none, Option.getD_some,
      Option.getD_none]
    simp only [List.perm_iff_count, List.count_append, List.count_nil]
    intro start
    omega

end Draft.Sound

end BlitzLens
