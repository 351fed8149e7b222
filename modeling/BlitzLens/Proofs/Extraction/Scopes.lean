import BlitzLens.Proofs.Extraction.Failure
import BlitzLens.Proofs.Extraction.Run

/-!
# Scopes contain what belongs to them

In every scan of a pass, that of the document and those of the files that it includes, the scope of
a symbol contains its name and everything it owns, and functions share no line with each other, nor
do types (`extract_wellScoped`).
-/

namespace BlitzLens

namespace Span

/-- A region lies within another one, by line and column. -/
structure Within (inner outer : Span) : Prop where
  /-- It does not start before the other one. -/
  start : outer.startLine < inner.startLine ∨
    outer.startLine = inner.startLine ∧ outer.startCol ≤ inner.startCol
  /-- It does not stop behind the other one. -/
  stop : inner.endLine < outer.endLine ∨
    inner.endLine = outer.endLine ∧ inner.endCol ≤ outer.endCol

theorem Within.refl (span : Span) : span.Within span :=
  ⟨.inr ⟨rfl, Int.le_refl _⟩, .inr ⟨rfl, Int.le_refl _⟩⟩

/-- Two regions share no line. -/
def LineDisjoint (span other : Span) : Prop :=
  ∀ line, ¬(span.containsLine line = true ∧ other.containsLine line = true)

/-- A region that ends in front of another one shares no line with it. -/
theorem lineDisjoint_of_lt {span other : Span} (h : span.endLine < other.startLine) :
    span.LineDisjoint other := by
  rintro line ⟨hspan, hother⟩
  simp only [containsLine, Bool.and_eq_true, decide_eq_true_eq] at hspan hother
  omega

/-- Of regions that share no line with each other, at most one contains a line. -/
theorem countP_containsLine_le_one {α : Type} {scope : α → Span} {list : List α}
    (h : list.Pairwise fun a b => (scope a).LineDisjoint (scope b)) (line : Int) :
    list.countP (fun a => (scope a).containsLine line) ≤ 1 := by
  induction list with
  | nil => exact Nat.zero_le 1
  | cons a list ih =>
    obtain ⟨hhead, htail⟩ := List.pairwise_cons.1 h
    cases ha : (scope a).containsLine line with
    | false =>
      rw [List.countP_cons_of_neg (by simp [ha])]
      exact ih htail
    | true =>
      -- the first one contains the line, so no later one does
      have hnone : list.countP (fun a => (scope a).containsLine line) = 0 :=
        List.countP_eq_zero.2 fun b hb hcontains => hhead b hb line ⟨ha, hcontains⟩
      rw [List.countP_cons_of_pos (p := fun a => (scope a).containsLine line) ha, hnone]

end Span

/-! ## The property -/

/-- The line that ends a symbol, where the symbol records one. -/
def Symbol.endLine? : Symbol → Option Int
  | .ofVariable v => v.scopeEnd
  | .ofFunction f => some f.endLine
  | .ofType t => some t.endLine
  | .ofLabel _ => none

/-- The scope of a symbol contains its name and what it owns. -/
structure Symbol.WellScoped (source : Source) (symbol : Symbol) : Prop where
  /-- The scope lies inside the lines of the file. -/
  inside : 0 ≤ symbol.declared.scope.startLine ∧
    symbol.declared.scope.endLine < source.lines.length
  /-- The name lies in the scope. -/
  range_within : symbol.declared.range.Within symbol.declared.scope
  /-- The line that ends the symbol is that of its scope. -/
  endLine_eq : ∀ line, symbol.endLine? = some line → line = symbol.declared.scope.endLine
  /-- The name of a member lies in its own scope. -/
  member_range_within : ∀ v ∈ symbol.members, v.range.Within v.scope
  /-- The name and the scope of a member lie in the scope of its owner. -/
  members_within : ∀ v ∈ symbol.members,
    v.range.Within symbol.declared.scope ∧ v.scope.Within symbol.declared.scope
  /-- The line that ends the loop of a member is that of its scope. -/
  member_endLine_eq : ∀ v ∈ symbol.members, ∀ line, v.scopeEnd = some line →
    line = v.scope.endLine
  /-- The scope of an iterator starts on the line that opens its loop. -/
  iterator : ∀ v, symbol = .ofVariable v → v.isIterator = true → ∃ line : Nat,
    v.range.startLine = line ∧ v.scope.startLine = line ∧ source.OpensLoop line v.name

/-- The scopes of the symbols that one scan finds in its file. -/
structure Source.WellScoped (source : Source) (own : List Symbol) : Prop where
  /-- Every scope contains what belongs to it. -/
  symbols : ∀ symbol ∈ own, symbol.WellScoped source
  /-- No two functions share a line. -/
  functions_disjoint : (own.filterMap Symbol.asFunction?).Pairwise fun f g =>
    f.scope.LineDisjoint g.scope
  /-- No two types share a line. -/
  types_disjoint : (own.filterMap Symbol.asType?).Pairwise fun t u =>
    t.scope.LineDisjoint u.scope
  /-- At most one function encloses a line. -/
  functions_le_one : ∀ line,
    (own.filterMap Symbol.asFunction?).countP (fun f => f.scope.containsLine line) ≤ 1

/-! ## Blocks -/

section Blocks

variable {source : Source} {bound first last : Nat}

/-- A block that lies inside another one by lines lies within it. -/
theorem Source.block_within {first' last' : Nat} (hfirst : first ≤ first') (hlast : last' ≤ last) :
    (source.block first' last').Within (source.block first last) := by
  refine ⟨?_, ?_⟩
  · rcases Nat.lt_or_eq_of_le hfirst with hlt | rfl
    · exact .inl (Int.ofNat_lt.2 hlt)
    · exact .inr ⟨rfl, Int.le_refl _⟩
  · rcases Nat.lt_or_eq_of_le hlast with hlt | rfl
    · exact .inl (Int.ofNat_lt.2 hlt)
    · exact .inr ⟨rfl, Int.le_refl _⟩

/-- A name that is declared on a line of a block lies within the block. -/
theorem Declared.PlacedBefore.range_within_block {d : Declared} (h : d.PlacedBefore source bound)
    (hfirst : (first : Int) ≤ d.range.startLine) (hlast : d.range.startLine ≤ last) :
    d.range.Within (source.block first last) := by
  obtain ⟨line, column, -, ⟨text, hline, hname⟩, hrange⟩ := h.place
  rw [hrange] at hfirst hlast ⊢
  have hfirst' : first ≤ line := Int.ofNat_le.1 hfirst
  have hlast' : line ≤ last := Int.ofNat_le.1 hlast
  refine ⟨?_, ?_⟩
  · rcases Nat.lt_or_eq_of_le hfirst' with hlt | rfl
    · exact .inl (Int.ofNat_lt.2 hlt)
    · exact .inr ⟨rfl, Int.natCast_nonneg column⟩
  · rcases Nat.lt_or_eq_of_le hlast' with hlt | rfl
    · exact .inl (Int.ofNat_lt.2 hlt)
    · refine .inr ⟨rfl, ?_⟩
      have hinside := hname.inside
      simp only [Span.onLine, Source.block, hline, Option.getD_some]
      omega

/-- A name that is in place lies inside the lines of the file. -/
theorem Declared.PlacedBefore.range_inside {d : Declared} (h : d.PlacedBefore source bound) :
    0 ≤ d.range.startLine ∧ d.range.endLine < bound := by
  obtain ⟨line, column, hline, -, hrange⟩ := h.place
  rw [hrange]
  exact ⟨Int.natCast_nonneg line, Int.ofNat_lt.2 hline⟩

/-- The scope of a variable lies inside the lines of the file, contains the name, and ends where the
loop does. -/
theorem Variable.PlacedBefore.scope_inside {v : Variable} (h : v.PlacedBefore source bound) :
    (0 ≤ v.scope.startLine ∧ v.scope.endLine < bound) ∧ v.range.Within v.scope ∧
      ∀ line, v.scopeEnd = some line → line = v.scope.endLine := by
  rcases h.scope with ⟨hnone, hscope⟩ | ⟨first, last, hstart, horder, hlast, hscope, hsome, -⟩
  · rw [hscope]
    refine ⟨h.toPlacedBefore.range_inside, .refl _, fun line heq => ?_⟩
    rw [hnone] at heq
    cases heq
  · rw [hscope]
    refine ⟨⟨Int.natCast_nonneg first, Int.ofNat_lt.2 hlast⟩, ?_, fun line heq => ?_⟩
    · refine h.toPlacedBefore.range_within_block (Int.le_of_eq hstart.symm) ?_
      rw [hstart]
      exact Int.ofNat_le.2 horder
    · rw [hsome] at heq
      exact (Option.some.inj heq).symm

/-- The name and the scope of a variable lie in every block around it. -/
theorem Variable.PlacedBefore.within_block {v : Variable} (h : v.PlacedBefore source (last + 1))
    (hfirst : (first : Int) ≤ v.range.startLine) :
    v.range.Within (source.block first last) ∧ v.scope.Within (source.block first last) := by
  have hplaced := h.toPlacedBefore
  have hlast : v.range.startLine ≤ last := by
    have hstart := hplaced.start_lt
    rw [Declared.start] at hstart
    omega
  have hrange := hplaced.range_within_block hfirst hlast
  refine ⟨hrange, ?_⟩
  rcases h.scope with ⟨-, hscope⟩ | ⟨first', last', hstart, -, hend, hscope, -⟩
  · rwa [hscope]
  · rw [hstart] at hfirst
    rw [hscope]
    exact Source.block_within (Int.ofNat_le.1 hfirst) (Nat.le_of_lt_succ hend)

/-- The scope of a function or type lies inside the lines of the file, contains the name and the
members, and ends where the function or type does. -/
theorem Declared.OwnsBefore.scope_inside {owner : Declared} {endLine : Int}
    {members : List Variable} (h : owner.OwnsBefore source bound endLine members) :
    (0 ≤ owner.scope.startLine ∧ owner.scope.endLine < bound) ∧
      owner.range.Within owner.scope ∧ endLine = owner.scope.endLine ∧
      owner.scope.startLine = owner.range.startLine ∧
      ∀ v ∈ members, v.PlacedBefore source bound ∧
        v.range.Within owner.scope ∧ v.scope.Within owner.scope := by
  obtain ⟨first, last, hstart, horder, hlast, hscope, hend, hmembers⟩ := h.block
  have hrange : owner.range.Within (source.block first last) := by
    refine h.toPlacedBefore.range_within_block (Int.le_of_eq hstart.symm) ?_
    rw [hstart]
    exact Int.ofNat_le.2 horder
  rw [hscope]
  refine ⟨⟨Int.natCast_nonneg first, Int.ofNat_lt.2 hlast⟩, hrange, hend, hstart.symm,
    fun v hv => ?_⟩
  obtain ⟨hplaced, hfirst⟩ := hmembers v hv
  exact ⟨hplaced.mono hlast, hplaced.within_block hfirst⟩

end Blocks

/-! ## From places to scopes -/

section Owns

variable {source : Source} {own : List Symbol}

/-- A function or type that is in place is well scoped. -/
theorem Declared.OwnsBefore.wellScoped {symbol : Symbol} {endLine : Int}
    (h : symbol.declared.OwnsBefore source source.lines.length endLine symbol.members)
    (hend : symbol.endLine? = some endLine) (hvariable : ∀ v, symbol ≠ .ofVariable v) :
    symbol.WellScoped source := by
  obtain ⟨hinside, hrange, heq, -, hmembers⟩ := h.scope_inside
  exact {
    inside := hinside
    range_within := hrange
    endLine_eq := fun line hline => by
      rw [hend] at hline
      rw [← Option.some.inj hline, heq]
    member_range_within := fun v hv => (hmembers v hv).1.scope_inside.2.1
    members_within := fun v hv => (hmembers v hv).2
    member_endLine_eq := fun v hv => (hmembers v hv).1.scope_inside.2.2
    iterator := fun v hv => absurd hv (hvariable v) }

/-- A variable that is in place is well scoped. -/
theorem Variable.PlacedBefore.wellScoped {v : Variable}
    (h : v.PlacedBefore source source.lines.length) :
    (Symbol.ofVariable v).WellScoped source := by
  obtain ⟨hinside, hrange, hend⟩ := h.scope_inside
  exact {
    inside := hinside
    range_within := hrange
    endLine_eq := hend
    member_range_within := fun _ => (nomatch ·)
    members_within := fun _ => (nomatch ·)
    member_endLine_eq := fun _ => (nomatch ·)
    iterator := fun u hu hiterator => by
      cases hu
      rcases h.scope with ⟨hnone, -⟩ | ⟨first, last, hstart, -, -, hscope, -, hloop⟩
      · rw [Variable.isIterator, hnone] at hiterator
        cases hiterator
      · exact ⟨first, hstart, by rw [hscope]; rfl, hloop⟩ }

/-- A symbol that is in place is well scoped. -/
theorem Symbol.PlacedBefore.wellScoped {symbol : Symbol}
    (h : symbol.PlacedBefore source source.lines.length) : symbol.WellScoped source := by
  cases symbol with
  | ofVariable v => exact Variable.PlacedBefore.wellScoped h
  | ofFunction f => exact Declared.OwnsBefore.wellScoped h rfl fun _ => (nomatch ·)
  | ofType t => exact Declared.OwnsBefore.wellScoped h rfl fun _ => (nomatch ·)
  | ofLabel l =>
    obtain ⟨hplaced, hscope⟩ := h
    have hinside := hplaced.range_inside
    rw [← hscope] at hinside
    exact {
      inside := hinside
      range_within := hscope ▸ .refl _
      endLine_eq := fun _ => (nomatch ·)
      member_range_within := fun _ => (nomatch ·)
      members_within := fun _ => (nomatch ·)
      member_endLine_eq := fun _ => (nomatch ·)
      iterator := fun _ => (nomatch ·) }

/-- Blocks that follow one another belong to scopes that share no line. -/
theorem pairwise_lineDisjoint {α : Type} {scope : α → Span} {lines : α → Int × Int} {list : List α}
    (h : (list.map lines).Pairwise fun block later => block.2 < later.1)
    (hlines : ∀ a ∈ list, lines a = ((scope a).startLine, (scope a).endLine)) :
    list.Pairwise fun a b => (scope a).LineDisjoint (scope b) := by
  rw [List.pairwise_map] at h
  refine h.imp_of_mem fun ha hb hlt => Span.lineDisjoint_of_lt ?_
  rwa [hlines _ ha, hlines _ hb] at hlt

/-- What a file declares itself is well scoped. -/
theorem Source.Owns.wellScoped (h : source.Owns own) : source.WellScoped own := by
  -- the scope of a block starts on the line of its name and ends on the line that closes it
  have hfunctions : (own.filterMap Symbol.asFunction?).Pairwise fun f g =>
      f.scope.LineDisjoint g.scope := by
    have hlines := h.functions
    rw [functionLines, ← List.map_filterMap] at hlines
    refine pairwise_lineDisjoint hlines fun f hf => ?_
    obtain ⟨symbol, hsymbol, heq⟩ := List.mem_filterMap.1 hf
    cases symbol <;> cases heq
    obtain ⟨-, -, hend, hstart, -⟩ := Declared.OwnsBefore.scope_inside (h.placed _ hsymbol)
    rw [hend, hstart]
  have htypes : (own.filterMap Symbol.asType?).Pairwise fun t u =>
      t.scope.LineDisjoint u.scope := by
    have hlines := h.types
    rw [typeLines, ← List.map_filterMap] at hlines
    refine pairwise_lineDisjoint hlines fun t ht => ?_
    obtain ⟨symbol, hsymbol, heq⟩ := List.mem_filterMap.1 ht
    cases symbol <;> cases heq
    obtain ⟨-, -, hend, hstart, -⟩ := Declared.OwnsBefore.scope_inside (h.placed _ hsymbol)
    rw [hend, hstart]
  exact ⟨fun symbol hsymbol => (h.placed symbol hsymbol).wellScoped, hfunctions, htypes,
    Span.countP_containsLine_le_one hfunctions⟩

end Owns

/-! ## The scans of a pass -/

/-- In every scan of a pass that yields symbols, that of the document and those of the files that it
includes, the symbols are those of the included files and those that the file declares itself, and
the latter are well scoped. -/
theorem extract_wellScoped {disk : Disk} {rules : IncludeRules} {path text : Text}
    {found : List Symbol} (h : (extract disk rules path text).1 = .ok found) {visit : Visit}
    (hvisit : (Visit.document disk rules path text).Reaches disk rules visit) :
    ∃ result own, visit.outcome disk rules = .ok result ∧
      result.Perm (own ++ visit.source.inclusions (visit.fetch disk rules)) ∧
      visit.source.WellScoped own := by
  rw [extract_fst] at h
  obtain ⟨result, hresult⟩ := hvisit.exists_outcome_eq_ok ⟨found, h⟩
  obtain ⟨own, howns, hperm⟩ := Visit.exists_owns hresult
  exact ⟨result, own, hresult, hperm, howns.wellScoped⟩

/-- The included file opens a function with a loop, and neither is closed before it ends. -/
theorem extract_wellScoped_included_function :
    let disk := Disk.ofFile "lib.bb" (Encoding.encodeUtf8 "Function g(a)\nFor i = 1 To 2") 1
    let rules : IncludeRules := ⟨[], true, 2⟩
    let text : Text := "Include \"lib.bb\"\nFunction f()"
    ∃ visit result own, (Visit.document disk rules "main.bb" text).Reaches disk rules visit ∧
      visit.path = "lib.bb".toList ∧ visit.outcome disk rules = .ok result ∧
      result.Perm (own ++ visit.source.inclusions (visit.fetch disk rules)) ∧
      visit.source.WellScoped own := by
  intro disk rules text
  have hline : "Include \"lib.bb\"".toList ∈
      (Visit.document disk rules "main.bb" text).source.lines := by decide +kernel
  have hread : (Statement.read "Include \"lib.bb\"").target? = some "lib.bb".toList := by
    decide +kernel
  have hincluded : (Visit.document disk rules "main.bb" text).included? disk rules "lib.bb" =
      some ⟨1, "lib.bb", "Function g(a)\nFor i = 1 To 2",
        [disk.identity "lib.bb", disk.identity "main.bb"]⟩ := by decide +kernel
  have hok : (extract disk rules "main.bb" text).1.isOk = true := by decide +kernel
  obtain ⟨found, hfound⟩ := exists_eq_ok_of_isOk hok
  have hvisit := Visit.Reaches.self.step hline hread hincluded
  obtain ⟨result, own, h⟩ := extract_wellScoped hfound hvisit
  exact ⟨_, result, own, hvisit, rfl, h⟩

end BlitzLens
