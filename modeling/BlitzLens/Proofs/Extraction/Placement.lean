import BlitzLens.Extraction.Step
import BlitzLens.Proofs.Extraction.Parts

/-!
# Where declarations stand

What has been declared on the lines of a file in front of a bound: variables, the functions and
types that own them, and the functions, types and loops that are still open. The predicates named
`PlacedBefore` say that every name is a whole word of the code of its line, and that what is closed
extends over whole lines up to the one that closed it, with everything it owns inside. Closing a
loop, a function or a type keeps them, and takes no place away and adds none: `starts` lists the
places of all names.
-/

namespace BlitzLens

namespace Source

/-- A name is declared at a place of a file: it is a whole word of the code of the line. -/
def Names (source : Source) (line column : Nat) (name : Text) : Prop :=
  ∃ text, source.lines[line]? = some text ∧ Line.NameAt text column name

/-- A line of a file opens a loop over a name. -/
def OpensLoop (source : Source) (line : Nat) (name : Text) : Prop :=
  ∃ text suffix column closed, source.lines[line]? = some text ∧
    Statement.read text = .openLoop name suffix column closed

end Source

/-! ## Closed declarations -/

/-- A declaration of a file in front of a line: its range is a place of its name. -/
structure Declared.PlacedBefore (source : Source) (bound : Nat) (d : Declared) : Prop where
  /-- It belongs to the file. -/
  path : d.path = source.path
  /-- It is looked up by the lower case of its name. -/
  key : d.key = d.name.lower
  /-- Its range covers its name. -/
  place : ∃ line column : Nat, line < bound ∧ source.Names line column d.name ∧
    d.range = .onLine line column (column + d.name.length : Nat)

/-- A variable of a file in front of a line. A loop iterator extends over whole lines, from the one
that opens its loop; any other variable over nothing but its name. -/
structure Variable.PlacedBefore (source : Source) (bound : Nat) (v : Variable) : Prop extends
    Declared.PlacedBefore source bound v.toDeclared where
  /-- The scope is the range, or the block of a loop. -/
  scope : v.scopeEnd = none ∧ v.scope = v.range ∨
    ∃ first last : Nat, v.range.startLine = first ∧ first ≤ last ∧ last < bound ∧
      v.scope = source.block first last ∧ v.scopeEnd = some (last : Int) ∧
      source.OpensLoop first v.name

/-- A declaration of a file that owns some variables, in front of a line. It extends over whole
lines, from its own to `endLine`, and the variables are declared there. -/
structure Declared.OwnsBefore (source : Source) (bound : Nat) (owner : Declared) (endLine : Int)
    (members : List Variable) : Prop extends owner.PlacedBefore source bound where
  /-- The scope is a block around all members. -/
  block : ∃ first last : Nat, owner.range.startLine = first ∧ first ≤ last ∧ last < bound ∧
    owner.scope = source.block first last ∧ endLine = last ∧
    ∀ v ∈ members, v.PlacedBefore source (last + 1) ∧ (first : Int) ≤ v.range.startLine

/-- A symbol of a file in front of a line. -/
def Symbol.PlacedBefore (source : Source) (bound : Nat) : Symbol → Prop
  | .ofVariable v => v.PlacedBefore source bound
  | .ofFunction f => f.toDeclared.OwnsBefore source bound f.endLine f.locals
  | .ofType t => t.toDeclared.OwnsBefore source bound t.endLine t.fields
  | .ofLabel l => l.toDeclared.PlacedBefore source bound ∧ l.scope = l.range

/-! ## Open declarations -/

/-- An open loop of a file in front of a line. -/
structure OpenIterator.PlacedBefore (source : Source) (bound : Nat) (iterator : OpenIterator) :
    Prop where
  /-- The loop is opened in front of the bound. -/
  line_lt : iterator.line < bound
  /-- The name stands where the iterator says. -/
  names : source.Names iterator.line iterator.column iterator.part.name
  /-- The line opens the loop. -/
  opensLoop : source.OpensLoop iterator.line iterator.part.name

/-- An open function of a file in front of a line. -/
structure FunctionDraft.PlacedBefore (source : Source) (bound : Nat) (f : FunctionDraft) :
    Prop where
  /-- The function is opened in front of the bound. -/
  line_lt : f.line < bound
  /-- The name stands where the function says. -/
  names : source.Names f.line f.column f.name
  /-- The locals are declared in the function. -/
  locals : ∀ v ∈ f.locals, v.PlacedBefore source bound ∧ (f.line : Int) ≤ v.range.startLine
  /-- The loops are opened in the function, and their iterators will be among the locals. -/
  loops : ∀ iterator, some iterator ∈ f.loops → iterator.PlacedBefore source bound ∧
    f.line ≤ iterator.line ∧ iterator.slot ≤ f.locals.length

/-- An open type of a file in front of a line. -/
structure TypeDraft.PlacedBefore (source : Source) (bound : Nat) (t : TypeDraft) : Prop where
  /-- The type is opened in front of the bound. -/
  line_lt : t.line < bound
  /-- The name stands where the type says. -/
  names : source.Names t.line t.column t.name
  /-- The fields are declared in the type. -/
  fields : ∀ v ∈ t.fields, v.PlacedBefore source bound ∧ (t.line : Int) ≤ v.range.startLine

/-! ## Later lines -/

section Mono

variable {source : Source} {bound bound' : Nat}

/-- What is placed in front of a line is placed in front of a later line. -/
theorem Declared.PlacedBefore.mono {d : Declared} (h : d.PlacedBefore source bound)
    (hle : bound ≤ bound') : d.PlacedBefore source bound' := by
  obtain ⟨line, column, hline, hplace⟩ := h.place
  exact ⟨h.path, h.key, line, column, Nat.lt_of_lt_of_le hline hle, hplace⟩

/-- What is placed in front of a line is placed in front of a later line. -/
theorem Variable.PlacedBefore.mono {v : Variable} (h : v.PlacedBefore source bound)
    (hle : bound ≤ bound') : v.PlacedBefore source bound' := by
  refine ⟨h.toPlacedBefore.mono hle, ?_⟩
  rcases h.scope with hnone | ⟨first, last, hfirst, horder, hlast, hscope⟩
  · exact .inl hnone
  · exact .inr ⟨first, last, hfirst, horder, Nat.lt_of_lt_of_le hlast hle, hscope⟩

/-- What is placed in front of a line is placed in front of a later line. -/
theorem Declared.OwnsBefore.mono {owner : Declared} {endLine : Int} {members : List Variable}
    (h : owner.OwnsBefore source bound endLine members) (hle : bound ≤ bound') :
    owner.OwnsBefore source bound' endLine members := by
  obtain ⟨first, last, hfirst, horder, hlast, hblock⟩ := h.block
  exact ⟨h.toPlacedBefore.mono hle, first, last, hfirst, horder, Nat.lt_of_lt_of_le hlast hle,
    hblock⟩

/-- What is placed in front of a line is placed in front of a later line. -/
theorem Symbol.PlacedBefore.mono {symbol : Symbol} (h : symbol.PlacedBefore source bound)
    (hle : bound ≤ bound') : symbol.PlacedBefore source bound' := by
  cases symbol with
  | ofVariable v => exact Variable.PlacedBefore.mono h hle
  | ofFunction f => exact Declared.OwnsBefore.mono h hle
  | ofType t => exact Declared.OwnsBefore.mono h hle
  | ofLabel l => exact ⟨h.1.mono hle, h.2⟩

/-- What is open in front of a line is open in front of a later line. -/
theorem OpenIterator.PlacedBefore.mono {iterator : OpenIterator}
    (h : iterator.PlacedBefore source bound) (hle : bound ≤ bound') :
    iterator.PlacedBefore source bound' :=
  ⟨Nat.lt_of_lt_of_le h.line_lt hle, h.names, h.opensLoop⟩

/-- What is open in front of a line is open in front of a later line. -/
theorem FunctionDraft.PlacedBefore.mono {f : FunctionDraft} (h : f.PlacedBefore source bound)
    (hle : bound ≤ bound') : f.PlacedBefore source bound' where
  line_lt := Nat.lt_of_lt_of_le h.line_lt hle
  names := h.names
  locals v hv := ⟨(h.locals v hv).1.mono hle, (h.locals v hv).2⟩
  loops iterator hmem := ⟨(h.loops iterator hmem).1.mono hle, (h.loops iterator hmem).2⟩

/-- What is open in front of a line is open in front of a later line. -/
theorem TypeDraft.PlacedBefore.mono {t : TypeDraft} (h : t.PlacedBefore source bound)
    (hle : bound ≤ bound') : t.PlacedBefore source bound' where
  line_lt := Nat.lt_of_lt_of_le h.line_lt hle
  names := h.names
  fields v hv := ⟨(h.fields v hv).1.mono hle, (h.fields v hv).2⟩

end Mono

/-! ## The places of names -/

/-- The place where the name of a declaration starts. -/
def Declared.start (d : Declared) : Int × Int :=
  (d.range.startLine, d.range.startCol)

/-- The places of the names of a symbol and of what it owns. -/
def Symbol.starts (symbol : Symbol) : List (Int × Int) :=
  symbol.declared.start :: symbol.members.map fun v => v.start

/-- The places of the iterators of open loops. -/
def loopStarts (loops : List OpenLoop) : List (Int × Int) :=
  loops.filterMap fun loop => loop.map fun iterator => (↑iterator.line, ↑iterator.column)

@[simp]
theorem loopStarts_none_cons (loops : List OpenLoop) :
    loopStarts (none :: loops) = loopStarts loops := rfl

@[simp]
theorem loopStarts_some_cons (iterator : OpenIterator) (loops : List OpenLoop) :
    loopStarts (some iterator :: loops) =
      (↑iterator.line, ↑iterator.column) :: loopStarts loops := rfl

/-- The iterators of the innermost loop and of those around it. -/
theorem loopStarts_cons (loop : OpenLoop) (loops : List OpenLoop) :
    loopStarts (loop :: loops) = loopStarts [loop] ++ loopStarts loops := by
  cases loop <;> rfl

/-- A loop has at most one iterator, on the line of the loop. -/
theorem loopStarts_singleton {loop : OpenLoop} {line : Nat}
    (h : ∀ iterator, loop = some iterator → iterator.line = line) :
    (∀ start ∈ loopStarts [loop], (line : Int) ≤ start.1) ∧ (loopStarts [loop]).Nodup := by
  cases loop with
  | none => exact ⟨fun _ => (nomatch ·), .nil⟩
  | some iterator =>
    refine ⟨fun start hmem => ?_, List.pairwise_singleton _ _⟩
    rw [List.mem_singleton.1 hmem]
    exact Int.ofNat_le.2 (Nat.le_of_eq (h iterator rfl).symm)

/-- The places of the names of an open function and of what it owns. -/
def FunctionDraft.starts (f : FunctionDraft) : List (Int × Int) :=
  (↑f.line, ↑f.column) :: (f.locals.map (fun v => v.start) ++ loopStarts f.loops)

/-- The places of the names of an open type and of what it owns. -/
def TypeDraft.starts (t : TypeDraft) : List (Int × Int) :=
  (↑t.line, ↑t.column) :: t.fields.map fun v => v.start

/-! ## Building and closing -/

section Closing

variable {source : Source} {bound line column last : Nat}

/-- The variable that a part declares at a place of its name. -/
theorem Part.placedBefore_toVariable {part : Part} {declaration description : Text}
    {storage : Storage} {constant : Bool} {closing : Option Nat} (hline : line < bound)
    (hnames : source.Names line column part.name)
    (hclosing : ∀ last, closing = some last →
      line ≤ last ∧ last < bound ∧ source.OpensLoop line part.name) :
    (part.toVariable source line column declaration storage description constant
      closing).PlacedBefore source bound where
  path := rfl
  key := rfl
  place := ⟨line, column, hline, hnames, rfl⟩
  scope := by
    cases closing with
    | none => exact .inl ⟨rfl, rfl⟩
    | some last =>
      obtain ⟨horder, hlast, hloop⟩ := hclosing last rfl
      exact .inr ⟨line, last, rfl, horder, hlast, rfl, rfl, hloop⟩

/-- A loop that is closed leaves its iterator. -/
theorem OpenIterator.placedBefore_close {iterator : OpenIterator}
    (h : iterator.PlacedBefore source (last + 1)) (storage : Storage) :
    (iterator.close source storage last).PlacedBefore source (last + 1) := by
  refine Part.placedBefore_toVariable h.line_lt h.names fun closing hclosing => ?_
  cases hclosing
  exact ⟨Nat.le_of_lt_succ h.line_lt, Nat.lt_succ_self _, h.opensLoop⟩

/-- An iterator takes the place of its open loop. -/
theorem perm_starts_insertIdx {iterator : OpenIterator} {storage : Storage}
    {found : List Variable} {loops : List OpenLoop} (hslot : iterator.slot ≤ found.length) :
    ((found.insertIdx iterator.slot (iterator.close source storage last)).map (fun v => v.start) ++
      loopStarts loops).Perm
      (found.map (fun v => v.start) ++ loopStarts (some iterator :: loops)) := by
  have hinsert := (List.perm_insertIdx (iterator.close source storage last) found hslot).map
    fun v => v.start
  exact (hinsert.append_right _).trans List.perm_middle.symm

namespace FunctionDraft

variable {f : FunctionDraft}

/-- Closing a loop of a function keeps what it owns in place. -/
theorem PlacedBefore.closeLoop (h : f.PlacedBefore source (last + 1)) :
    (f.closeLoop source last).PlacedBefore source (last + 1) ∧
      (f.closeLoop source last).starts.Perm f.starts := by
  unfold FunctionDraft.closeLoop
  split
  · exact ⟨h, .refl _⟩
  · next loops hloops =>
    refine ⟨⟨h.line_lt, h.names, h.locals, fun iterator hmem => h.loops iterator ?_⟩, ?_⟩
    · rw [hloops]
      exact List.mem_cons_of_mem _ hmem
    · rw [starts, starts, hloops, loopStarts_none_cons]
  · next iterator loops hloops =>
    -- the iterator becomes a local, and the slots of the loops around it still have room
    obtain ⟨hplaced, hline, hslot⟩ := h.loops iterator (by simp [hloops])
    refine ⟨⟨h.line_lt, h.names, fun v hv => ?_, fun other hmem => ?_⟩, ?_⟩
    · rcases (List.mem_insertIdx hslot).1 hv with rfl | hv
      · exact ⟨OpenIterator.placedBefore_close hplaced .localVar, Int.ofNat_le.2 hline⟩
      · exact h.locals v hv
    · obtain ⟨hother, hotherLine, hotherSlot⟩ := h.loops other (by simp [hloops, hmem])
      refine ⟨hother, hotherLine, Nat.le_trans hotherSlot ?_⟩
      rw [List.length_insertIdx_of_le_length hslot]
      omega
    · rw [starts, starts, hloops]
      exact .cons _ (perm_starts_insertIdx hslot)

/-- Closing a loop takes it from the open ones, and changes nothing but the locals besides. -/
theorem closeLoop_eq (f : FunctionDraft) (source : Source) (line : Nat) :
    ∃ locals, f.closeLoop source line = { f with locals, loops := f.loops.tail } := by
  unfold closeLoop
  split
  · next hloops => exact ⟨f.locals, by rw [hloops]; cases f; simp_all⟩
  · next loops hloops => exact ⟨f.locals, by rw [hloops]; rfl⟩
  · next iterator loops hloops => exact ⟨_, by rw [hloops]; rfl⟩

/-- Closing some loops takes them from the open ones, and changes nothing but the locals
besides. -/
theorem closeLoops_eq (f : FunctionDraft) (source : Source) (line count : Nat) :
    ∃ locals, f.closeLoops source line count = { f with locals, loops := f.loops.drop count } := by
  induction count generalizing f with
  | zero => exact ⟨f.locals, rfl⟩
  | succ count ih =>
    obtain ⟨locals, hlocals⟩ := f.closeLoop_eq source line
    obtain ⟨more, hmore⟩ := ih (f.closeLoop source line)
    refine ⟨more, ?_⟩
    rw [closeLoops, hmore, hlocals, List.drop_tail, Nat.add_comm]

/-- Closing some loops of a function keeps what it owns in place. -/
theorem PlacedBefore.closeLoops (h : f.PlacedBefore source (last + 1)) (count : Nat) :
    (f.closeLoops source last count).PlacedBefore source (last + 1) ∧
      (f.closeLoops source last count).starts.Perm f.starts := by
  induction count generalizing f with
  | zero => exact ⟨h, .refl _⟩
  | succ count ih =>
    obtain ⟨hclosed, hstarts⟩ := h.closeLoop
    obtain ⟨hplaced, hmore⟩ := ih hclosed
    exact ⟨hplaced, hmore.trans hstarts⟩

/-- A function ends like the one that its loops were closed in, which has no loops. -/
theorem finish_eq (f : FunctionDraft) (source : Source) (line : Nat) :
    f.finish source line = FunctionDraft.finish
      { f with locals := (f.closeLoops source line f.loops.length).locals, loops := [] }
      source line := by
  obtain ⟨locals, hlocals⟩ := f.closeLoops_eq source line f.loops.length
  rw [finish, hlocals]
  rfl

/-- A function that is closed owns what it owned when it was open. -/
theorem PlacedBefore.finish (h : f.PlacedBefore source (last + 1)) :
    (Symbol.ofFunction (f.finish source last)).PlacedBefore source (last + 1) ∧
      (Symbol.ofFunction (f.finish source last)).starts.Perm f.starts := by
  obtain ⟨hclosed, hstarts⟩ := h.closeLoops f.loops.length
  obtain ⟨locals, hlocals⟩ := f.closeLoops_eq source last f.loops.length
  rw [List.drop_length] at hlocals
  rw [finish_eq]
  rw [hlocals] at hclosed hstarts ⊢
  refine ⟨⟨⟨rfl, rfl, f.line, f.column, h.line_lt, h.names, rfl⟩, f.line, last, rfl,
    Nat.le_of_lt_succ h.line_lt, Nat.lt_succ_self _, rfl, rfl, hclosed.locals⟩, ?_⟩
  refine List.Perm.trans ?_ hstarts
  rw [FunctionDraft.starts, loopStarts, List.filterMap_nil, List.append_nil]
  exact .refl _

end FunctionDraft

/-- A type that is closed owns what it owned when it was open. -/
theorem TypeDraft.PlacedBefore.finish {t : TypeDraft} (h : t.PlacedBefore source (last + 1)) :
    (Symbol.ofType (t.finish source last)).PlacedBefore source (last + 1) ∧
      (Symbol.ofType (t.finish source last)).starts = t.starts :=
  ⟨⟨⟨rfl, rfl, t.line, t.column, h.line_lt, h.names, rfl⟩, t.line, last, rfl,
    Nat.le_of_lt_succ h.line_lt, Nat.lt_succ_self _, rfl, rfl, h.fields⟩, rfl⟩

/-! ## Lists of parts -/

/-- Variables that are declared on one line of a file, at or behind a column, each at a place of its
own. -/
structure DeclaredOn (source : Source) (line column : Nat) (added : List Variable) : Prop where
  /-- Each variable stands on the line. -/
  placed : ∀ v ∈ added, v.PlacedBefore source (line + 1) ∧ v.range.startLine = line
  /-- No variable stands in front of the column. -/
  column_le : ∀ v ∈ added, (column : Int) ≤ v.range.startCol
  /-- No two variables stand at one place. -/
  nodup : (added.map fun v => v.start).Nodup

/-- The places of variables that are declared on a line are on the line. -/
theorem DeclaredOn.le_start {column : Nat} {added : List Variable}
    (h : DeclaredOn source line column added) :
    ∀ start ∈ added.map fun v => v.start, (line : Int) ≤ start.1 := by
  intro start hmem
  obtain ⟨v, hv, rfl⟩ := List.mem_map.1 hmem
  exact Int.le_of_eq (h.placed v hv).2.symm

/-- The places of variables that are declared behind a name differ from that of the name. -/
theorem DeclaredOn.nodup_cons {start : Nat} {added : List Variable}
    (h : DeclaredOn source line start added) {column : Nat} (hlt : column < start) :
    (((line : Int), (column : Int)) :: added.map fun v => v.start).Nodup := by
  refine List.nodup_cons.2 ⟨fun hmem => ?_, h.nodup⟩
  obtain ⟨v, hv, heq⟩ := List.mem_map.1 hmem
  have hcolumn := h.column_le v hv
  have hsame := congrArg Prod.snd heq
  rw [Declared.start] at hsame
  dsimp only at hsame
  omega

/-- The parts of a list of the code of a line become variables of the line. -/
theorem exists_addParts_declaredOn (build : Part → Nat → Variable) {text list : Text}
    (hbuild : ∀ part start, ∃ declaration storage description constant, build part start =
      part.toVariable source line start declaration storage description constant none)
    (hline : source.lines[line]? = some text) (hlist : Line.CodeAt text column list)
    (declared : List Variable → Text → Bool) (found : List Variable) :
    ∃ added, DeclaredOn source line column added ∧
      addParts build declared text column found (Part.parseList list) = found ++ added := by
  obtain ⟨placed, hplaced, hadd⟩ :=
    exists_addParts_eq build declared hlist.toStandsAt found
  have hstart (part : Part) (start : Nat) :
      (build part start).start = ((line : Int), (start : Int)) := by
    obtain ⟨declaration, storage, description, constant, heq⟩ := hbuild part start
    rw [heq]
    rfl
  refine ⟨_, ⟨fun v hv => ?_, fun v hv => ?_, ?_⟩, hadd⟩
  · obtain ⟨⟨part, start⟩, hplace, rfl⟩ := List.mem_map.1 hv
    refine ⟨?_, congrArg Prod.fst (hstart part start)⟩
    obtain ⟨declaration, storage, description, constant, heq⟩ := hbuild part start
    obtain ⟨hstands, hword⟩ := hplaced.standsAt _ hplace
    have hend := Nat.le_trans (hplaced.le_last _ hplace) hlist.inCode
    rw [heq]
    exact Part.placedBefore_toVariable (Nat.lt_succ_self line)
      ⟨text, hline, ⟨hstands, hend⟩, hword⟩ fun _ => (nomatch ·)
  · obtain ⟨⟨part, start⟩, hplace, rfl⟩ := List.mem_map.1 hv
    have hcolumn := congrArg Prod.snd (hstart part start)
    have hfirst := hplaced.first_le _ hplace
    rw [Declared.start] at hcolumn
    dsimp only at hcolumn hfirst ⊢
    omega
  · rw [List.map_map]
    refine hplaced.increasing.map _ fun place later hlt heq => ?_
    have hcolumns := congrArg Prod.snd heq
    rw [Function.comp_apply, Function.comp_apply, hstart, hstart] at hcolumns
    dsimp only at hcolumns
    omega

end Closing

end BlitzLens
