import BlitzLens.Proofs.Extraction.Apart
import BlitzLens.Proofs.Extraction.Distinct
import BlitzLens.Proofs.Extraction.Origin
import BlitzLens.Proofs.Extraction.Scopes
import BlitzLens.Proofs.Scope.Member
import Mathlib.Data.List.Nodup

/-!
# The symbols of one file

What is known about the symbols that a file without includes yields (`Source.Declares`): where they
stand, which statements make them, and how they are ordered, nested and named. So a place in the
file belongs to one declaration at most (`Source.Declares.eq_of_start_eq`), and what a function or a
type owns is declared on lines on which it is the only one.
-/

namespace BlitzLens

/-- Of regions that share no line with each other, one that contains a line is the only one. -/
theorem Span.filter_containsLine_eq {α : Type} {scope : α → Span} {list : List α} {a : α}
    {line : Int} (h : list.Pairwise fun a b => (scope a).LineDisjoint (scope b)) (hmem : a ∈ list)
    (hline : (scope a).containsLine line = true) :
    list.filter (fun b => (scope b).containsLine line) = [a] := by
  induction list with
  | nil => cases hmem
  | cons b list ih =>
    obtain ⟨hhead, htail⟩ := List.pairwise_cons.1 h
    rcases List.mem_cons.1 hmem with rfl | hmem
    · have hnone : list.filter (fun b => (scope b).containsLine line) = [] :=
        List.filter_eq_nil_iff.2 fun b hb hcontains => hhead b hb line ⟨hline, hcontains⟩
      rw [List.filter_cons_of_pos (p := fun b => (scope b).containsLine line) hline, hnone]
    · rw [List.filter_cons_of_neg (p := fun b => (scope b).containsLine line) fun hcontains =>
        hhead a hmem line ⟨hcontains, hline⟩]
      exact ih htail hmem

/-- What lies within a region starts on one of its lines. -/
theorem Span.Within.containsLine {inner outer : Span} (h : inner.Within outer)
    (hinner : inner.startLine ≤ inner.endLine) :
    outer.containsLine inner.startLine = true := by
  rw [Span.containsLine, Bool.and_eq_true, decide_eq_true_eq, decide_eq_true_eq]
  obtain ⟨hstart, hstop⟩ := h
  omega

/-- Everything that is known about the symbols of a file without includes. -/
structure Source.Declares (source : Source) (found : List Symbol) : Prop where
  /-- No line contains the end of a line. -/
  newline : ∀ line ∈ source.lines, '\n' ∉ line
  /-- Every symbol is in place. -/
  placed : ∀ symbol ∈ found, symbol.PlacedBefore source source.lines.length
  /-- Every symbol is made by a statement of the file. -/
  made : ∀ symbol ∈ found, symbol.MadeIn source
  /-- No two names start at one place. -/
  nodup : (found.flatMap Symbol.starts).Nodup
  /-- No two functions share a line. -/
  functions : (found.filterMap Symbol.asFunction?).Pairwise fun f g =>
    f.scope.LineDisjoint g.scope
  /-- No two types share a line. -/
  types : (found.filterMap Symbol.asType?).Pairwise fun t u => t.scope.LineDisjoint u.scope
  /-- Variables are held in order. -/
  held : HeldInOrder found
  /-- No function reaches over a variable of the top level. -/
  apart : ∀ f v, .ofFunction f ∈ found → .ofVariable v ∈ found →
    f.scope.containsLine v.range.startLine = false
  /-- The top level declares a name once, apart from loops. -/
  top : DistinctKeys (lasting (topVariables found))
  /-- A type declares a field once. -/
  fields : ∀ t : RecordType, .ofType t ∈ found → DistinctKeys t.fields

/-- A file without includes declares what it yields. -/
theorem Source.declares_of_outcome {source : Source}
    {fetch : Text → Except ExtractError (List Symbol)} {found : List Symbol}
    (hne : source.lines ≠ []) (hnewline : ∀ line ∈ source.lines, '\n' ∉ line)
    (hincludes : ∀ line ∈ source.lines, (Statement.read line).target? = none)
    (h : source.outcome fetch = .ok found) : source.Declares found := by
  obtain ⟨own, howns, hperm⟩ := source.exists_owns hne h
  rw [source.inclusions_eq_nil hincludes, List.append_nil] at hperm
  have hscopes := howns.wellScoped
  have hdisjoint {span other : Span} (hspan : span.LineDisjoint other) :
      other.LineDisjoint span := fun line hline => hspan line hline.symm
  have hmade := Source.madeIn_of_outcome (fun _ => False)
    (fun line hline target _ htarget => by rw [hincludes line hline] at htarget; cases htarget) h
  obtain ⟨htop, hfields⟩ := Source.distinct_of_outcome hincludes h
  exact {
    newline := hnewline
    placed := fun symbol hmem => howns.placed symbol (hperm.mem_iff.1 hmem)
    made := fun symbol hmem => (hmade symbol hmem).resolve_left id
    nodup := (hperm.flatMap_right _).nodup_iff.2 howns.nodup
    functions := (hperm.filterMap _).pairwise_iff (fun h => hdisjoint h) |>.2
      hscopes.functions_disjoint
    types := (hperm.filterMap _).pairwise_iff (fun h => hdisjoint h) |>.2 hscopes.types_disjoint
    held := Source.heldInOrder_of_outcome hincludes h
    apart := fun f v hf hv => Source.apart_of_outcome hincludes h hf hv
    top := htop
    fields := hfields }

namespace Source.Declares

variable {source : Source} {found : List Symbol} {number : Int}

/-! ## Places -/

/-- A symbol that stands in the list, or that one of its symbols owns, is in place. -/
theorem placed_declared (h : source.Declares found) {symbol : Symbol}
    (hmem : symbol ∈ found.flatMap Symbol.withMembers) :
    symbol.declared.PlacedBefore source source.lines.length := by
  obtain ⟨owner, howner, hmem⟩ := List.mem_flatMap.1 hmem
  refine (h.placed owner howner).of_mem_declarations ?_
  rcases List.mem_cons.1 hmem with rfl | hmember
  · exact List.mem_cons_self
  · obtain ⟨v, hv, rfl⟩ := List.mem_map.1 hmember
    exact List.mem_cons_of_mem _ (List.mem_map_of_mem hv)

/-- Symbols that start at one place are the same. -/
theorem eq_of_start_eq (h : source.Declares found) {symbol other : Symbol}
    (hmem : symbol ∈ found.flatMap Symbol.withMembers)
    (hother : other ∈ found.flatMap Symbol.withMembers)
    (hstart : symbol.declared.start = other.declared.start) : symbol = other := by
  have hnodup := h.nodup
  have hstarts : found.flatMap Symbol.starts =
      (found.flatMap Symbol.withMembers).map fun symbol => symbol.declared.start := by
    rw [List.map_flatMap]
    refine List.flatMap_congr fun symbol _ => ?_
    rw [Symbol.starts_eq_map_declarations, Symbol.declarations, Symbol.withMembers, List.map_cons,
      List.map_cons, List.map_map, List.map_map]
    rfl
  rw [hstarts] at hnodup
  exact List.inj_on_of_nodup_map hnodup hmem hother hstart

/-! ## Owners -/

/-- A function encloses its lines. -/
theorem enclosingFunction?_eq_some (h : source.Declares found) {f : Function}
    (hf : .ofFunction f ∈ found) (hline : f.scope.containsLine number = true) :
    Scope.enclosingFunction? found source.path number = some f := by
  have hpath : ∀ g ∈ found.filterMap Symbol.asFunction?, g.path = source.path := fun g hg =>
    (h.placed_declared (Symbol.mem_withMembers (mem_filterMap_asFunction?.1 hg))).path
  rw [Scope.enclosingFunction?, ← List.head?_filter,
    List.filter_congr (q := fun g => g.scope.containsLine number) fun g hg => by
      rw [hpath g hg, beq_self_eq_true, Bool.true_and],
    Span.filter_containsLine_eq h.functions (mem_filterMap_asFunction?.2 hf) hline]
  rfl

/-- No function encloses the lines that declare the variables of the top level. -/
theorem enclosingFunction?_eq_none (h : source.Declares found) {v : Variable}
    (hv : .ofVariable v ∈ found) :
    Scope.enclosingFunction? found source.path v.range.startLine = none := by
  refine List.find?_eq_none.2 fun f hf hencloses => ?_
  rw [Bool.and_eq_true, h.apart f v (mem_filterMap_asFunction?.1 hf) hv] at hencloses
  cases hencloses.2

/-- On the lines of a type its own fields are open and no others. -/
theorem openFields_eq (h : source.Declares found) {t : RecordType} (ht : .ofType t ∈ found)
    (hline : t.scope.containsLine number = true) :
    Scope.openFields found source.path number = t.fields := by
  have hpath : ∀ u ∈ found.filterMap Symbol.asType?, u.path = source.path := fun u hu =>
    (h.placed_declared (Symbol.mem_withMembers (mem_filterMap_asType?.1 hu))).path
  rw [Scope.openFields, List.filter_congr (q := fun u => u.scope.containsLine number)
      fun u hu => by rw [hpath u hu, beq_self_eq_true, Bool.true_and],
    Span.filter_containsLine_eq h.types (mem_filterMap_asType?.2 ht) hline,
    List.flatMap_singleton]

/-- What a symbol owns is declared on its lines. -/
theorem containsLine_of_member (h : source.Declares found) {owner : Symbol}
    (howner : owner ∈ found) {v : Variable} (hv : v ∈ owner.members) :
    owner.declared.scope.containsLine v.range.startLine = true := by
  have hwithin := ((h.placed owner howner).wellScoped.members_within v hv).1
  refine hwithin.containsLine ?_
  obtain ⟨number, column, -, -, hrange⟩ := ((h.placed owner howner).of_mem_declarations
    (List.mem_cons_of_mem _ (List.mem_map_of_mem hv))).place
  rw [hrange]
  exact Int.le_refl _

end Source.Declares

end BlitzLens
