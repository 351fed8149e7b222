import BlitzLens.Proofs.Query.Hover
import BlitzLens.Proofs.Scope.Document
import BlitzLens.Proofs.Scope.Precedence

/-!
# Where names are declared

The name of a declaration stands on its line like any other word (`Declared.SitsAt`), so it can be
looked up there. What stands in front of it decides which symbols are admitted there: a function, a
variable or a field is declared where no type and no label may be meant, a type where no label may
be meant, and a label where a type may be meant as well.
-/

namespace BlitzLens

open Line

/-! ## Sites -/

/-- The place where a declaration starts. -/
def Declared.position (d : Declared) : Position :=
  ⟨d.range.startLine, d.range.startCol⟩

/-- The name of a declaration is a word of the code at a column of a line. -/
structure Declared.SitsAt (d : Declared) (lines : List Text) (line : Text) (column : Nat) : Prop
    extends d.position.IsOn lines line column column d.name where
  /-- It is looked up by the lower case of its name. -/
  key : d.key = d.name.lower
  /-- It is no number. -/
  isNumber : isNumber d.name = false
  /-- It is in the code. -/
  isCode : isCode line (column : Int) = true
  /-- No line ends in front of it. -/
  newline : '\n' ∉ line.take column

/-- Whether a statement lists the names of variables. -/
def Statement.listsNames : Statement → Bool
  | declareFields .. => true
  | statement => statement.listsVariables

/-- The column that is recorded for a name of a list is not one at which a name of a list starts: it
is not in the code, or it is not right behind the keyword, a comma or the opening parenthesis. -/
def Variable.Misplaced (lines : List Text) (v : Variable) : Prop :=
  ∃ line, v.position.lineOf? lines = some line ∧ (Statement.read line).listsNames = true ∧
    ¬(Line.isCode line v.range.startCol = true ∧
      Guard.opensDeclaration (line.upTo v.range.startCol) = true)

section Sites

variable {text : Text} {source : Source} {bound number column : Nat} {line : Text} {d : Declared}
  {kind : SymbolKind} {v : Variable}

/-- A name that is in place and stands in the code sits there. -/
theorem Declared.PlacedBefore.sitsAt (h : d.PlacedBefore source bound)
    (hlines : ∀ line ∈ source.lines, '\n' ∉ line) (hline : source.lines[number]? = some line)
    (hstart : d.start = ((number : Int), (column : Int)))
    (hcode : isCode line (column : Int) = true) (hnumber : isNumber d.name = false) :
    d.SitsAt source.lines line column := by
  obtain ⟨number', column', -, ⟨line', hline', hname⟩, hrange⟩ := h.place
  rw [Declared.start, hrange] at hstart
  obtain ⟨rfl, rfl⟩ : number' = number ∧ column' = column :=
    ⟨Int.ofNat.inj (congrArg Prod.fst hstart), Int.ofNat.inj (congrArg Prod.snd hstart)⟩
  obtain rfl : line' = line := Option.some.inj (hline'.symm.trans hline)
  refine ⟨⟨⟨hname.toStandsAt, hname.isWord, Nat.le_refl _, ?_⟩, ?_, ?_⟩, h.key, hnumber, hcode, ?_⟩
  · exact Nat.lt_add_of_pos_right hname.isWord.length_pos
  · rw [Declared.position, hrange]
    exact hline
  · rw [Declared.position, hrange]
    rfl
  · exact fun hmem => hlines line' (List.mem_of_getElem? hline) (List.mem_of_mem_take hmem)

/-- A name that a statement gives sits behind the text that introduces it. -/
theorem Declared.PlacedBefore.exists_sitsAt (h : d.PlacedBefore source bound)
    (hlines : ∀ line ∈ source.lines, '\n' ∉ line) (hgiven : d.GivenIn source kind) :
    ∃ line column, d.SitsAt source.lines line column ∧ kind.IntroducedBy (line.take column) := by
  obtain ⟨number, line, column, hline, hgives, hstart⟩ := hgiven
  obtain ⟨hintroduced, hquote, hnumber⟩ := hgives.introduces
  have hname := hgives.nameAt
  have hcolumn := hname.inCode
  have hpositive := hname.isWord.length_pos
  exact ⟨line, column, h.sitsAt hlines hline hstart
    (isCode_of_no_quote hquote (by omega)) hnumber, hintroduced⟩

/-- A name of a list that is not misplaced sits where a name is declared. -/
theorem Variable.exists_sitsAt_of_listed (h : v.toDeclared.PlacedBefore source bound)
    (hlines : ∀ line ∈ source.lines, '\n' ∉ line) (hnumber : Line.isNumber v.name = false)
    (hplace : ¬v.Misplaced source.lines) (hline : source.lines[number]? = some line)
    (hlists : (Statement.read line).listsNames = true) (hstart : v.range.startLine = number) :
    ∃ column, v.SitsAt source.lines line column ∧ v.range.startCol = column ∧
      Guard.opensDeclaration (line.take column) = true := by
  obtain ⟨number', column, -, ⟨line', hline', hname⟩, hrange⟩ := h.place
  have hcolumn : v.range.startCol = column := by rw [hrange]; rfl
  have hposition : v.position.lineOf? source.lines = some line := by
    rw [Declared.position, Position.lineOf?, hstart]
    exact hline
  have hinside : line.upTo (column : Int) = line.take column := by
    obtain rfl : number' = number := by
      rw [hrange] at hstart
      exact Int.ofNat.inj hstart
    obtain rfl : line' = line := Option.some.inj (hline'.symm.trans hline)
    have := hname.inside
    exact Text.upTo_natCast (by omega)
  obtain ⟨hcode, hopens⟩ : Line.isCode line v.range.startCol = true ∧
      Guard.opensDeclaration (line.upTo v.range.startCol) = true :=
    not_not.1 fun hwrong => hplace ⟨line, hposition, hlists, hwrong⟩
  rw [hcolumn] at hcode hopens
  rw [hinside] at hopens
  exact ⟨column, h.sitsAt hlines hline (Prod.ext hstart hcolumn) hcode hnumber, hcolumn, hopens⟩

/-- A variable that is not misplaced sits where a name is declared. -/
theorem Variable.MadeIn.exists_sitsAt (h : v.MadeIn source)
    (hplaced : v.toDeclared.PlacedBefore source bound)
    (hlines : ∀ line ∈ source.lines, '\n' ∉ line) (hplace : ¬v.Misplaced source.lines) :
    ∃ line column, v.SitsAt source.lines line column ∧
      Guard.opensDeclaration (line.take column) = true := by
  rcases h.made with hgiven | ⟨number, line, hline, hlists, hstart⟩
  · exact hplaced.exists_sitsAt hlines hgiven
  · have hnames : (Statement.read line).listsNames = true := by
      cases hread : Statement.read line with
      | declareFields => rfl
      | _ => rwa [hread] at hlists
    obtain ⟨column, hsits, -, hopens⟩ :=
      Variable.exists_sitsAt_of_listed hplaced hlines h.isNumber hplace hline hnames hstart
    exact ⟨line, column, hsits, hopens⟩

/-- A field that is not misplaced sits where a name is declared, behind the word for fields. -/
theorem Variable.ListedIn.exists_sitsAt (h : v.ListedIn source)
    (hplaced : v.toDeclared.PlacedBefore source bound)
    (hlines : ∀ line ∈ source.lines, '\n' ∉ line) (hplace : ¬v.Misplaced source.lines) :
    ∃ line column, v.SitsAt source.lines line column ∧
      Guard.opensDeclaration (line.take column) = true ∧
      Guard.declaresField (line.take column) = true := by
  obtain ⟨number, line, list, first, hline, hread, hstart, hle⟩ := h.listed
  obtain ⟨column, hsits, hcolumn, hopens⟩ := Variable.exists_sitsAt_of_listed hplaced hlines
    h.isNumber hplace hline (by rw [hread]; rfl) hstart
  rw [hcolumn] at hle
  exact ⟨line, column, hsits, hopens,
    Statement.declaresField_of_read hread (Int.ofNat_le.1 hle) hsits.newline⟩

end Sites

/-! ## What decides a reference -/

namespace Source.Declares

variable {source : Source} {found : List Symbol} {line before : Text} {word : Word}
  {symbol : Symbol}

/-- A reference is decided by the functions of its name, and by the types and labels that the text
before it introduces. -/
theorem decides_iff (h : source.Declares found) (hreads : Scope.Reads line word before)
    (hmem : symbol ∈ found) : Scope.decides line word symbol = true ↔
      symbol.key = word.text.lower ∧ (symbol.kind = .function ∨
        symbol.kind = .type ∧ Guard.introducesType before = true ∨
        symbol.kind = .label ∧ Guard.introducesLabel before = true) := by
  rw [Scope.decides_iff, Scope.accepts]
  refine and_congr_right fun _ => ?_
  cases h.made symbol hmem with
  | ofVariable _ => simp [Symbol.isVariable, Symbol.asVariable?, Symbol.kind]
  | ofFunction _ hguard _ =>
    rw [Symbol.declared, hguard, hreads .anywhere (by decide)]
    simp [Symbol.isVariable, Symbol.asVariable?, Symbol.kind, Guard.admitsBefore]
  | ofType _ hguard _ =>
    rw [Symbol.declared, hguard, hreads .recordType (by decide)]
    simp [Symbol.isVariable, Symbol.asVariable?, Symbol.kind, Guard.admitsBefore]
  | ofLabel _ hguard =>
    rw [Symbol.declared, hguard, hreads .label (by decide)]
    simp [Symbol.isVariable, Symbol.asVariable?, Symbol.kind, Guard.admitsBefore]

/-- A function decides every reference to its name. -/
theorem decides_function (h : source.Declares found) (hreads : Scope.Reads line word before)
    {f : Function} (hmem : .ofFunction f ∈ found) (hkey : f.key = word.text.lower) :
    Scope.decides line word (.ofFunction f) = true :=
  (h.decides_iff hreads hmem).2 ⟨hkey, .inl rfl⟩

/-- Where a name may be declared, nothing decides a reference but functions. -/
theorem exists_function_of_decides (h : source.Declares found)
    (hreads : Scope.Reads line word before) (hplain : Guard.EndsPlainly before)
    (hmem : symbol ∈ found) (hdecides : Scope.decides line word symbol = true) :
    ∃ f, symbol = .ofFunction f ∧ f.key = word.text.lower := by
  obtain ⟨hkey, hkind | ⟨-, htype⟩ | ⟨-, hlabel⟩⟩ := (h.decides_iff hreads hmem).1 hdecides
  · cases symbol <;> cases hkind
    exact ⟨_, rfl, hkey⟩
  · rw [hplain.introducesType] at htype
    cases htype
  · rw [hplain.introducesLabel] at hlabel
    cases hlabel

end Source.Declares

/-! ## What is found at a site -/

namespace Declared.SitsAt

variable {d : Declared} {lines : List Text} {line : Text} {column : Nat} {symbols : List Symbol}
  {stubs : StubTable} {path : Text} {resolved : Option Symbol}

/-- A name may be a reference at its site. -/
theorem reads (h : d.SitsAt lines line column) :
    Scope.Reads line (.ofText column d.name) (line.take column) :=
  Scope.reads_of_isCode h.toStandsAt h.isCode

/-- The name is introduced by the text in front of its column. -/
theorem upTo_eq (h : d.SitsAt lines line column) :
    line.upTo d.range.startCol = line.take column := by
  rw [show d.range.startCol = column from h.character_eq]
  exact Text.upTo_natCast (Nat.le_of_lt h.lt_length)

/-- Where a name is declared is told by what it is resolved to at its site. -/
theorem definition_eq (h : d.SitsAt lines line column)
    (hmarker : Guard.endsWithMark '\\' (line.take column) = false)
    (hresolve : Scope.resolve? symbols path d.range.startLine line (.ofText column d.name) =
      .ok resolved) :
    definition symbols stubs path lines d.position = .ok ((resolved.filter fun symbol =>
      symbol.kind == .function || !stubs.contains d.name).toList.map Symbol.location) := by
  have hinert : isInert line column d.name = false := by
    rw [isInert, h.isNumber, h.isCode]
    rfl
  exact h.definition_of_defined hinert (definedSymbol?_of_resolved
    (Guard.memberMarker?_eq_none (Nat.le_of_lt h.lt_length) hmarker) hresolve)

end Declared.SitsAt

namespace Source.Declares

variable {source : Source} {found : List Symbol} {line : Text} {column : Nat} {symbol : Symbol}

/-- A symbol is found at its site exactly if its name is resolved to it there, unless the name is
the one of a built-in and the symbol is no function. -/
theorem exists_definition_iff (h : source.Declares found) (stubs : StubTable)
    (hmem : symbol ∈ found.flatMap Symbol.withMembers)
    (hsits : symbol.declared.SitsAt source.lines line column)
    (hmarker : Guard.endsWithMark '\\' (line.take column) = false) :
    ∃ resolved, Scope.resolve? found source.path symbol.declared.range.startLine line
        (.ofText column symbol.declared.name) = .ok resolved ∧
      (definition found stubs source.path source.lines symbol.declared.position =
          .ok [symbol.location] ↔
        resolved = some symbol ∧
          (symbol.kind = .function ∨ stubs.contains symbol.declared.name = false)) := by
  obtain ⟨resolved, hresolve, hfits⟩ := Scope.exists_resolve? hsits.toStandsAt.holds found
    source.path symbol.declared.range.startLine
  refine ⟨resolved, hresolve, ?_⟩
  rw [hsits.definition_eq hmarker hresolve]
  constructor
  · intro hplaces
    obtain ⟨other, hother, hlocation⟩ : ∃ other, (resolved.filter fun symbol' =>
        symbol'.kind == .function || !stubs.contains symbol.declared.name) = some other ∧
          other.location = symbol.location := by
      cases hfilter : resolved.filter fun symbol' =>
          symbol'.kind == .function || !stubs.contains symbol.declared.name with
      | none =>
        rw [hfilter] at hplaces
        cases hplaces
      | some other =>
        rw [hfilter] at hplaces
        exact ⟨other, rfl, List.singleton_inj.1 (Except.ok.inj hplaces)⟩
    obtain ⟨hresolved, hkept⟩ := Option.filter_eq_some_iff.1 hother
    have hposition := congrArg Location.position hlocation
    obtain rfl : other = symbol := h.eq_of_start_eq (hfits other hresolved).1 hmem
      (Prod.ext (congrArg Position.line hposition) (congrArg Position.character hposition))
    refine ⟨hresolved, ?_⟩
    rwa [Bool.or_eq_true, beq_iff_eq, Bool.not_eq_true'] at hkept
  · rintro ⟨rfl, hkept⟩
    have hkeep : (symbol.kind == .function || !stubs.contains symbol.declared.name) = true := by
      rwa [Bool.or_eq_true, beq_iff_eq, Bool.not_eq_true']
    rw [Option.filter_some, hkeep]
    rfl

end Source.Declares

end BlitzLens
