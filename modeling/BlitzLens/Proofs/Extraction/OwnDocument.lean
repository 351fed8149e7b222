import BlitzLens.Proofs.Extraction.Failure
import BlitzLens.Proofs.Extraction.Run

/-!
# The declarations of the document itself

When included files are guarded, what a pass finds under the path of the document was declared in
the text of the document: an included file never has the identity of a file that includes it
(`Visit.Reaches.identity_notMem`), so it cannot pass for the document. Every such declaration stands
on the text where its range says, and no two of them start at one place
(`extract_ownDocumentSound`).
-/

namespace BlitzLens

/-- The declarations that a symbol brings: itself and what it owns. -/
def Symbol.declarations (symbol : Symbol) : List Declared :=
  symbol.declared :: symbol.members.map Variable.toDeclared

/-- A declaration stands on a line of a text: its range covers its name there, as a whole word in
front of the comment. -/
structure Declared.StandsOn (d : Declared) (number : Nat) (line : Text) : Prop where
  /-- The range starts on the line. -/
  startLine : d.range.startLine = number
  /-- The range ends on the line. -/
  endLine : d.range.endLine = number
  /-- The range lies inside the line. -/
  inside : 0 ≤ d.range.startCol ∧ d.range.endCol ≤ line.length
  /-- The range covers the name. -/
  slice : line.slice d.range.startCol d.range.endCol = d.name
  /-- No word goes on beyond the name. -/
  boundary : Line.isWordBoundary line d.range.startCol d.range.endCol = .ok true
  /-- The name starts in front of the comment. -/
  inCode : d.range.startCol < Line.codeEnd line

/-- A declaration that is in place stands on its line. -/
theorem Declared.PlacedBefore.standsOn {source : Source} {bound : Nat} {d : Declared}
    (h : d.PlacedBefore source bound) :
    ∃ number line, source.lines[number]? = some line ∧ d.StandsOn number line := by
  obtain ⟨number, column, -, ⟨line, hline, hname⟩, hrange⟩ := h.place
  have hinside := hname.inside
  have hcode := hname.inCode
  have hpositive := hname.isWord.length_pos
  refine ⟨number, line, hline, ?_⟩
  constructor <;> rw [hrange]
  · rfl
  · rfl
  · exact ⟨Int.natCast_nonneg column, Int.ofNat_le.2 hinside⟩
  · rw [Span.onLine, Text.slice_natCast, Nat.add_sub_cancel_left]
    exact hname.slice
  · exact hname.toStandsAt.isWordBoundary
  · exact Int.ofNat_lt.2 (by omega)

/-! ## Symbols -/

namespace Symbol

variable {source : Source} {bound : Nat} {symbol : Symbol}

/-- The places of the names of a symbol are those of its declarations. -/
theorem starts_eq_map_declarations (symbol : Symbol) :
    symbol.starts = symbol.declarations.map Declared.start := by
  rw [starts, declarations, List.map_cons, List.map_map]
  rfl

/-- What a placed symbol brings is in place. -/
theorem PlacedBefore.of_mem_declarations (h : symbol.PlacedBefore source bound) {d : Declared}
    (hmem : d ∈ symbol.declarations) : d.PlacedBefore source bound := by
  -- a function and a type own what is declared up to the line that ends them
  have howns {owner : Declared} {endLine : Int} {members : List Variable}
      (howner : owner.OwnsBefore source bound endLine members)
      (hd : d ∈ owner :: members.map Variable.toDeclared) : d.PlacedBefore source bound := by
    rcases List.mem_cons.1 hd with rfl | hmember
    · exact howner.toPlacedBefore
    · obtain ⟨v, hv, rfl⟩ := List.mem_map.1 hmember
      obtain ⟨first, last, -, -, hlast, -, -, hmembers⟩ := howner.block
      exact (hmembers v hv).1.toPlacedBefore.mono hlast
  cases symbol with
  | ofVariable v =>
    rw [List.mem_singleton.1 hmem]
    exact Variable.PlacedBefore.toPlacedBefore h
  | ofFunction f => exact howns h hmem
  | ofType t => exact howns h hmem
  | ofLabel l =>
    rw [List.mem_singleton.1 hmem]
    exact h.1

end Symbol

/-! ## Where the symbols of a visit come from -/

namespace Visit

variable {disk : Disk} {rules : IncludeRules} {root visit included last : Visit} {target : Text}

/-- What the includes of a file yield, some include of the file yields. -/
theorem exists_of_mem_inclusions {symbol : Symbol}
    (h : symbol ∈ visit.source.inclusions (visit.fetch disk rules)) :
    ∃ line target included found, line ∈ visit.source.lines ∧
      (Statement.read line).target? = some target ∧
      visit.included? disk rules target = some included ∧
      included.outcome disk rules = .ok found ∧ symbol ∈ found := by
  obtain ⟨line, hline, hmem⟩ := List.mem_flatMap.1 h
  cases htarget : (Statement.read line).target? with
  | none =>
    rw [htarget] at hmem
    cases hmem
  | some target =>
    rw [htarget, Option.map_some, Option.bind_some, fetch] at hmem
    cases hincluded : visit.included? disk rules target with
    | none =>
      rw [hincluded] at hmem
      cases hmem
    | some included =>
      replace hmem : symbol ∈ (included.outcome disk rules).toOption.getD [] := by
        rwa [hincluded] at hmem
      cases houtcome : included.outcome disk rules with
      | error error =>
        rw [houtcome] at hmem
        cases hmem
      | ok found =>
        rw [houtcome] at hmem
        exact ⟨line, target, included, found, hline, htarget, hincluded, houtcome, hmem⟩

/-- What holds of the symbols of every file, but for those that its includes yield, holds of every
symbol that a visit yields, in a file that the visit leads to. -/
theorem exists_reaches_of_mem {P : Source → Symbol → Prop}
    (hvisit : ∀ (visit : Visit) (found : List Symbol), visit.outcome disk rules = .ok found →
      ∀ symbol ∈ found,
        symbol ∈ visit.source.inclusions (visit.fetch disk rules) ∨ P visit.source symbol)
    {found : List Symbol} {symbol : Symbol} (h : visit.outcome disk rules = .ok found)
    (hmem : symbol ∈ found) :
    ∃ last, visit.Reaches disk rules last ∧ P last.source symbol := by
  induction visit using nestedInduction disk rules generalizing found with
  | nested visit ih =>
    rcases hvisit visit found h symbol hmem with hinclusion | hown
    · obtain ⟨line, target, included, result, hline, htarget, hincluded, hresult, hsymbol⟩ :=
        exists_of_mem_inclusions hinclusion
      obtain ⟨last, hlast, hholds⟩ := ih target included hincluded hresult hsymbol
      exact ⟨last, (Reaches.self.step hline htarget hincluded).trans hlast, hholds⟩
    · exact ⟨visit, .self, hown⟩

/-- Every symbol that a visit yields is declared by a file that the visit leads to. -/
theorem exists_origin {found : List Symbol} {symbol : Symbol}
    (h : visit.outcome disk rules = .ok found) (hmem : symbol ∈ found) :
    ∃ last, visit.Reaches disk rules last ∧
      symbol.PlacedBefore last.source last.source.lines.length := by
  refine exists_reaches_of_mem (P := fun source symbol =>
    symbol.PlacedBefore source source.lines.length) (fun visit found h symbol hmem => ?_) h hmem
  obtain ⟨own, howns, hperm⟩ := exists_owns h
  exact (List.mem_append.1 (hperm.mem_iff.1 hmem)).symm.imp_right (howns.placed symbol)

/-- What holds of the symbols of every file whose includes yield nothing else holds of all symbols
that a visit yields. -/
theorem forall_mem_of_inclusions {P : Symbol → Prop}
    (hsource : ∀ (visit : Visit) (found : List Symbol),
      visit.source.outcome (visit.fetch disk rules) = .ok found →
      (∀ symbol ∈ visit.source.inclusions (visit.fetch disk rules), P symbol) →
      ∀ symbol ∈ found, P symbol)
    {found : List Symbol} (h : visit.outcome disk rules = .ok found) :
    ∀ symbol ∈ found, P symbol := by
  induction visit using nestedInduction disk rules generalizing found with
  | nested visit ih =>
    rw [outcome_eq] at h
    refine hsource visit found h fun symbol hmem => ?_
    obtain ⟨_, target, included, result, _, _, hincluded, hresult, hsymbol⟩ :=
      exists_of_mem_inclusions hmem
    exact ih target included hincluded hresult symbol hsymbol

/-- Further includes only add to the files that are being included, and guarded ones never return to
a file that is being included already. -/
theorem Reaches.identity_notMem (hguarded : rules.guarded = true)
    (hincluded : root.included? disk rules target = some included)
    (h : included.Reaches disk rules last) :
    disk.identity last.path ∉ root.chain ∧ root.chain ⊆ last.chain := by
  -- the chain of the including file stays part of every chain further down
  induction h with
  | self =>
    obtain ⟨-, -, hchain, hnew⟩ := included?_eq_some hincluded
    refine ⟨hnew hguarded, ?_⟩
    rw [hchain]
    exact List.subset_cons_self _ _
  | step _ _ _ hnext ih =>
    obtain ⟨-, -, hchain, hnew⟩ := included?_eq_some hnext
    refine ⟨fun hmem => hnew hguarded (ih.2 hmem), ?_⟩
    rw [hchain]
    exact List.Subset.trans ih.2 (List.subset_cons_self _ _)

/-- What a guarded include leads to declares nothing under the path of the including file. -/
theorem path_ne_of_included (hguarded : rules.guarded = true)
    (hroot : disk.identity root.path ∈ root.chain)
    (hincluded : root.included? disk rules target = some included)
    (hreaches : included.Reaches disk rules visit) {found : List Symbol}
    (h : visit.outcome disk rules = .ok found) {symbol : Symbol} (hsymbol : symbol ∈ found)
    {d : Declared} (hd : d ∈ symbol.declarations) : d.path ≠ root.path := by
  obtain ⟨last, hlast, hplaced⟩ := exists_origin h hsymbol
  have hnew := (Reaches.identity_notMem hguarded hincluded (hreaches.trans hlast)).1
  have hpath : d.path = last.path := (hplaced.of_mem_declarations hd).path
  intro heq
  rw [← hpath, heq] at hnew
  exact hnew hroot

end Visit

/-! ## The pass over a document -/

/-- What a pass finds under the path of the document is declared in the text of the document. -/
structure OwnDocumentSound (disk : Disk) (rules : IncludeRules) (path text : Text)
    (found : List Symbol) : Prop where
  /-- Every declaration under the path of the document is looked up by the lower case of its name
  and stands on a line of the text. -/
  stands : ∀ symbol ∈ found, ∀ d ∈ symbol.declarations, d.path = path →
    d.key = d.name.lower ∧
      ∃ number line, text.lines[number]? = some line ∧ d.StandsOn number line
  /-- No two declarations under the path of the document start at one place. -/
  nodup : (((found.flatMap Symbol.declarations).filter fun d => d.path == path).map
    Declared.start).Nodup
  /-- No file that an include of the document leads to brings a declaration under its path. -/
  included : ∀ target included,
    (Visit.document disk rules path text).included? disk rules target = some included →
    ∀ visit, included.Reaches disk rules visit →
    ∀ result, visit.outcome disk rules = .ok result →
    ∀ symbol ∈ result, ∀ d ∈ symbol.declarations, d.path ≠ path

/-- When included files are guarded, whatever a pass finds under the path of the document is
declared in the text of the document. -/
theorem extract_ownDocumentSound {disk : Disk} {rules : IncludeRules} {path text : Text}
    (hguarded : rules.guarded = true) {found : List Symbol}
    (h : (extract disk rules path text).1 = .ok found) :
    OwnDocumentSound disk rules path text found := by
  have hroot : disk.identity path ∈ (Visit.document disk rules path text).chain :=
    List.mem_singleton_self _
  rw [extract_fst] at h
  -- what the pass finds is what the document declares and what its includes yield
  obtain ⟨own, howns, hperm⟩ := Visit.exists_owns h
  have hown (d : Declared) (hd : d ∈ own.flatMap Symbol.declarations) :
      d.PlacedBefore (.ofText path text) (Source.ofText path text).lines.length := by
    obtain ⟨symbol, hsymbol, hmem⟩ := List.mem_flatMap.1 hd
    exact (howns.placed symbol hsymbol).of_mem_declarations hmem
  have hspliced (d : Declared) (hd : d ∈ ((Visit.document disk rules path text).source.inclusions
      ((Visit.document disk rules path text).fetch disk rules)).flatMap Symbol.declarations) :
      d.path ≠ path := by
    obtain ⟨symbol, hsymbol, hmem⟩ := List.mem_flatMap.1 hd
    obtain ⟨-, target, included, result, -, -, hincluded, hresult, hresults⟩ :=
      Visit.exists_of_mem_inclusions hsymbol
    exact Visit.path_ne_of_included hguarded hroot hincluded .self hresult hresults hmem
  have hdeclarations := hperm.flatMap_right Symbol.declarations
  rw [List.flatMap_append] at hdeclarations
  refine ⟨fun symbol hsymbol d hd hpath => ?_, ?_,
    fun _ _ hincluded _ hreaches _ hresult _ hsymbol _ hd =>
      Visit.path_ne_of_included hguarded hroot hincluded hreaches hresult hsymbol hd⟩
  · have hmem := hdeclarations.mem_iff.1 (List.mem_flatMap.2 ⟨symbol, hsymbol, hd⟩)
    have hplaced := hown d ((List.mem_append.1 hmem).resolve_right fun hd => hspliced d hd hpath)
    exact ⟨hplaced.key, hplaced.standsOn⟩
  · -- the path of the document tells the declarations of the document from all others
    have hkept : (own.flatMap Symbol.declarations).filter (fun d => d.path == path) =
        own.flatMap Symbol.declarations :=
      List.filter_eq_self.2 fun d hd => beq_iff_eq.2 (hown d hd).path
    have hdropped : (((Visit.document disk rules path text).source.inclusions
        ((Visit.document disk rules path text).fetch disk rules)).flatMap
          Symbol.declarations).filter (fun d => d.path == path) = [] :=
      List.filter_eq_nil_iff.2 fun d hd heq => hspliced d hd (beq_iff_eq.1 heq)
    have hfilter := hdeclarations.filter fun d => d.path == path
    rw [List.filter_append, hkept, hdropped, List.append_nil] at hfilter
    refine (hfilter.map Declared.start).nodup_iff.2 ?_
    have hnodup := howns.nodup
    rw [funext Symbol.starts_eq_map_declarations] at hnodup
    rwa [List.map_flatMap]

/-- The document and the file that it includes include each other. -/
theorem extract_ownDocumentSound_mutual :
    let disk := Disk.ofFile "lib.bb" (Encoding.encodeUtf8 "Include \"main.bb\"\nGlobal g") 1
    let rules : IncludeRules := ⟨[], true, 2⟩
    let text : Text := "Include \"lib.bb\"\nFunction f(a)"
    ∃ found, (extract disk rules "main.bb" text).1 = .ok found ∧
      found.map (fun symbol => symbol.declared.name) = [['g'], ['f']] ∧
      OwnDocumentSound disk rules "main.bb" text found := by
  intro disk rules text
  have hnames : (extract disk rules "main.bb" text).1.toOption.map
      (fun found => found.map fun symbol => symbol.declared.name) = some [['g'], ['f']] := by
    decide +kernel
  obtain ⟨found, hfound, hnames⟩ := exists_of_map_toOption hnames
  exact ⟨found, hfound, hnames, extract_ownDocumentSound rfl hfound⟩

end BlitzLens
