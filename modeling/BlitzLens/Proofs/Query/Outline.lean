import BlitzLens.Proofs.Extraction.OwnDocument
import BlitzLens.Proofs.Extraction.Scopes
import BlitzLens.Proofs.Query.Stream
import BlitzLens.Query.Outline

/-!
# Outlines are complete and nested

An outline has one node for each symbol that the document declares at its top level, in the order of
their places. What a node extends over contains the name that it stands for and the children, for it
is the scope of a symbol of the document, and scopes contain what belongs to them
(`Symbol.WellScoped`). When included files are guarded, a symbol under the path of the document is
one of the document, and not one of an included file with lines of its own.

## Main definitions

* `Outline.Lists`: nodes are those of some symbols, sorted by their places.
* `Outline.NodeOf`: a node stands for a symbol, and its children for what the symbol owns.
* `OutlineNode.Nested`: a node extends over its name and over its children.

## Main results

* `Outline.lists_outline`: the outline of any symbols.
* `extract_own_wellScoped`: what a pass finds under the path of the document is well scoped.
* `extract_outline`: the outline of what a pass finds.
-/

namespace BlitzLens

/-- A node extends over its name and over its children, and each of these over its name. -/
structure OutlineNode.Nested (node : OutlineNode) : Prop where
  /-- The name lies in the region of the node. -/
  selection : node.selection.Within node.range
  /-- The name of a child lies in the region of the child. -/
  child_selection : ∀ child ∈ node.children, child.selection.Within child.range
  /-- The region of a child lies in that of the node. -/
  child_range : ∀ child ∈ node.children, child.range.Within node.range

namespace Outline

variable {symbols : List Symbol} {symbol : Symbol} {v : Variable} {outer : Span} {path : Text}

/-! ## One node for each symbol -/

/-- Whether a node starts at a place. -/
def startsAt (line column : Int) (node : OutlineNode) : Bool :=
  node.range.startLine == line && node.range.startCol == column

/-- The nodes are those of the symbols, one for each, in the order of their places. -/
structure Lists (symbols : List Symbol) (nodes : List OutlineNode) : Prop where
  /-- Every symbol has its node, and no node is there besides. -/
  perm : nodes.Perm (symbols.map ofSymbol)
  /-- The places do not decrease. -/
  pairwise : nodes.Pairwise fun a b => a.range.startLine < b.range.startLine ∨
    a.range.startLine = b.range.startLine ∧ a.range.startCol ≤ b.range.startCol
  /-- Nodes at one place are in the order of their symbols. -/
  stable : ∀ line column,
    nodes.filter (startsAt line column) = (symbols.map ofSymbol).filter (startsAt line column)

/-- A node does not come after another one if its place does not. -/
theorem notAfter_iff {a b : OutlineNode} :
    notAfter a b = true ↔ a.range.startLine < b.range.startLine ∨
      a.range.startLine = b.range.startLine ∧ a.range.startCol ≤ b.range.startCol := by
  simp [notAfter]

/-- Nodes are compared transitively. -/
theorem notAfter_trans (a b c : OutlineNode) (hab : notAfter a b = true)
    (hbc : notAfter b c = true) : notAfter a c = true := by
  rw [notAfter_iff] at hab hbc ⊢
  omega

/-- Any two nodes can be compared. -/
theorem notAfter_total (a b : OutlineNode) : (notAfter a b || notAfter b a) = true := by
  rw [Bool.or_eq_true, notAfter_iff, notAfter_iff]
  omega

/-- An outline lists the symbols that stand under its path. -/
theorem lists_outline (symbols : List Symbol) (path : Text) :
    Lists (symbols.filter fun symbol => symbol.declared.path == path) (outline symbols path) where
  perm := List.mergeSort_perm _ notAfter
  pairwise := by
    have hpairwise := List.pairwise_mergeSort notAfter_trans notAfter_total
      ((symbols.filter fun symbol => symbol.declared.path == path).map ofSymbol)
    exact hpairwise.imp fun h => notAfter_iff.1 h
  stable line column := by
    -- nodes that start at one place are not sorted apart
    refine filter_mergeSort notAfter_trans notAfter_total fun a ha b hb => notAfter_iff.2 ?_
    simp only [List.mem_filter, startsAt, Bool.and_eq_true, beq_iff_eq] at ha hb
    omega

/-- An entry stands for a variable. -/
structure EntryOf (v : Variable) (entry : OutlineEntry) : Prop where
  /-- It shows the name. -/
  name_eq : entry.name = v.name
  /-- It shows the declaration. -/
  detail_eq : entry.detail = v.declaration
  /-- It is selected by the name. -/
  selection_eq : entry.selection = v.range

/-- A node stands for a symbol. -/
structure NodeOf (symbol : Symbol) (node : OutlineNode) : Prop where
  /-- It shows the name. -/
  name_eq : node.name = symbol.declared.name
  /-- It shows the declaration. -/
  detail_eq : node.detail = symbol.declared.declaration
  /-- It is selected by the name. -/
  selection_eq : node.selection = symbol.declared.range
  /-- Its children stand for the locals of a function or the fields of a type, one for each and in
  their order. -/
  children : List.Forall₂ EntryOf symbol.members node.children

/-- One entry for each variable. -/
theorem forall₂_entryOf (owned : List Variable) :
    List.Forall₂ EntryOf owned (owned.map ofVariable) := by
  rw [List.forall₂_map_right_iff]
  exact List.forall₂_same.2 fun v _ => ⟨rfl, rfl, rfl⟩

/-- The node that is made of a symbol stands for it. -/
theorem nodeOf_ofSymbol (symbol : Symbol) : NodeOf symbol (ofSymbol symbol) := by
  cases symbol with
  | ofVariable v => exact ⟨rfl, rfl, rfl, .nil⟩
  | ofFunction f => exact ⟨rfl, rfl, rfl, forall₂_entryOf f.locals⟩
  | ofType t => exact ⟨rfl, rfl, rfl, forall₂_entryOf t.fields⟩
  | ofLabel l => exact ⟨rfl, rfl, rfl, .nil⟩

/-! ## Nested regions -/

/-- The name of a variable lies in the region of its entry, whether or not the variable is the
iterator of a loop. -/
theorem selection_within (h : v.range.Within v.scope) :
    (ofVariable v).selection.Within (ofVariable v).range := by
  show v.range.Within (if v.isIterator then v.scope else v.range)
  by_cases hiterator : v.isIterator = true
  · rwa [if_pos hiterator]
  · rw [if_neg hiterator]
    exact .refl v.range

/-- What contains the name and the scope of a variable contains the region of its entry. -/
theorem range_within (hrange : v.range.Within outer) (hscope : v.scope.Within outer) :
    (ofVariable v).range.Within outer := by
  show (if v.isIterator then v.scope else v.range).Within outer
  split_ifs
  · exact hscope
  · exact hrange

/-- The node of a well-scoped symbol is nested. -/
theorem nested_ofSymbol {source : Source} (h : symbol.WellScoped source) :
    (ofSymbol symbol).Nested := by
  have hselection : ∀ child ∈ symbol.members.map ofVariable,
      child.selection.Within child.range := by
    intro child hchild
    obtain ⟨v, hv, rfl⟩ := List.mem_map.1 hchild
    exact selection_within (h.member_range_within v hv)
  have hrange : ∀ child ∈ symbol.members.map ofVariable,
      child.range.Within symbol.declared.scope := by
    intro child hchild
    obtain ⟨v, hv, rfl⟩ := List.mem_map.1 hchild
    exact range_within (h.members_within v hv).1 (h.members_within v hv).2
  -- only a function and a type have children, and the region of their node is their scope
  cases symbol with
  | ofVariable v => exact ⟨selection_within h.range_within, hselection, fun _ => nofun⟩
  | ofFunction f => exact ⟨h.range_within, hselection, hrange⟩
  | ofType t => exact ⟨h.range_within, hselection, hrange⟩
  | ofLabel l => exact ⟨h.range_within, hselection, hrange⟩

end Outline

/-! ## The outline of a document -/

section Document

variable {disk : Disk} {rules : IncludeRules} {path text : Text} {found : List Symbol}

/-- When included files are guarded, what a pass finds under the path of the document is well scoped
in the text of the document. -/
theorem extract_own_wellScoped (hguarded : rules.guarded = true)
    (h : (extract disk rules path text).1 = .ok found) {symbol : Symbol} (hsymbol : symbol ∈ found)
    (hpath : symbol.declared.path = path) : symbol.WellScoped (.ofText path text) := by
  have hroot : disk.identity path ∈ (Visit.document disk rules path text).chain :=
    List.mem_singleton_self _
  rw [extract_fst] at h
  obtain ⟨own, howns, hperm⟩ := Visit.exists_owns h
  rcases List.mem_append.1 (hperm.mem_iff.1 hsymbol) with hown | hspliced
  · exact (howns.placed symbol hown).wellScoped
  · -- a file that is included declares nothing under the path of the document
    obtain ⟨-, target, included, result, -, -, hincluded, hresult, hmem⟩ :=
      Visit.exists_of_mem_inclusions hspliced
    exact absurd hpath (Visit.path_ne_of_included hguarded hroot hincluded .self hresult hmem
      (List.mem_cons_self ..))

/-- **An outline is complete and nested.** When included files are guarded, the outline of what a
pass finds has one node for each symbol under the path of the document, sorted by the lines and
columns where the nodes start, with nodes at one place in the order of the symbols. The children of
a node stand for the locals of a function or the fields of a type, one for each and in their order.
Every node extends over its name and over its children, by line and column. -/
theorem extract_outline (hguarded : rules.guarded = true)
    (h : (extract disk rules path text).1 = .ok found) :
    Outline.Lists (found.filter fun symbol => symbol.declared.path == path)
      (outline found path) ∧
    (∀ symbol ∈ found, Outline.NodeOf symbol (Outline.ofSymbol symbol)) ∧
    ∀ node ∈ outline found path, node.Nested := by
  have hlists := Outline.lists_outline found path
  refine ⟨hlists, fun symbol _ => Outline.nodeOf_ofSymbol symbol, ?_⟩
  intro node hnode
  obtain ⟨symbol, hsymbol, rfl⟩ := List.mem_map.1 (hlists.perm.mem_iff.1 hnode)
  obtain ⟨hfound, hpath⟩ := List.mem_filter.1 hsymbol
  exact Outline.nested_ofSymbol (extract_own_wellScoped hguarded h hfound (beq_iff_eq.1 hpath))

/-- The document includes a file that declares a symbol of its own, has a function whose end closes
a loop, and ends in the middle of a type. -/
theorem extract_outline_open_ends :
    let disk := Disk.ofFile "lib.bb" (Encoding.encodeUtf8 "Global g") 1
    let rules : IncludeRules := ⟨[], true, 2⟩
    let text : Text :=
      "Include \"lib.bb\"\nFunction f(a)\nFor i = 1 To a\nEnd Function\nType Node\nField nxt"
    ∃ found, (extract disk rules "main.bb" text).1 = .ok found ∧
      ((found.filter fun symbol => symbol.declared.path == "main.bb".toList).map fun symbol =>
        (symbol.declared.name, symbol.members.map fun v => v.name)) =
          [(['f'], [['a'], ['i']]), ("Node".toList, ["nxt".toList])] ∧
      Outline.Lists (found.filter fun symbol => symbol.declared.path == "main.bb".toList)
        (outline found "main.bb") ∧
      (∀ symbol ∈ found, Outline.NodeOf symbol (Outline.ofSymbol symbol)) ∧
      ∀ node ∈ outline found "main.bb", node.Nested := by
  intro disk rules text
  have hnames : (extract disk rules "main.bb" text).1.toOption.map (fun found =>
      (found.filter fun symbol => symbol.declared.path == "main.bb".toList).map fun symbol =>
        (symbol.declared.name, symbol.members.map fun v => v.name)) =
          some [(['f'], [['a'], ['i']]), ("Node".toList, ["nxt".toList])] := by decide +kernel
  obtain ⟨found, hfound, hnames⟩ := exists_of_map_toOption hnames
  exact ⟨found, hfound, hnames, extract_outline rfl hfound⟩

end Document

end BlitzLens
