import BlitzLens.Proofs.Scope.Home

/-!
# What goes before a symbol at its site

The name of a symbol may have another meaning where the symbol is declared, and the other meaning
may go before the symbol there (`Symbol.Outranked`): a function, a built-in or a local before a
field, an open field before a variable, a type before a label. A symbol to which some reference
leads is found at its site exactly if that is not the case. Functions and types always are, for what
goes before them at their sites would have gone before them at the reference as well.
-/

namespace BlitzLens

open Line

/-! ## Lists -/

section Lists

variable {α : Type} [BEq α] [LawfulBEq α] {p q : α → Bool} {list : List α} {a : α}

/-- The first element with a property is one in front of which there is no other. -/
theorem find?_eq_some_iff_takeWhile : list.find? p = some a ↔
    p a = true ∧ a ∈ list ∧ ∀ b ∈ list.takeWhile (· != a), p b = false := by
  induction list with
  | nil => simp
  | cons b list ih =>
    by_cases hb : b = a
    · subst hb
      cases hp : p b with
      | true => simp [hp]
      | false =>
        rw [List.find?_cons_of_neg (by simp [hp])]
        refine iff_of_false (fun hfirst => ?_) (by simp)
        rw [List.find?_some hfirst] at hp
        cases hp
    · rw [List.takeWhile_cons_of_pos (by simpa using hb), List.forall_mem_cons]
      cases hp : p b with
      | true => simp [hp, hb]
      | false => simp [hp, ih, Ne.symm hb]

/-- The first element with a property is the first one with a narrower property that it has. -/
theorem find?_eq_some_of_imp (h : list.find? q = some a)
    (himp : ∀ b ∈ list, p b = true → q b = true) (ha : p a = true) : list.find? p = some a := by
  obtain ⟨-, hmem, hfront⟩ := find?_eq_some_iff_takeWhile.1 h
  refine find?_eq_some_iff_takeWhile.2 ⟨ha, hmem, fun b hb => Bool.eq_false_iff.2 fun hp => ?_⟩
  exact ne_true_of_eq_false (hfront b hb) (himp b (List.takeWhile_subset _ hb) hp)

end Lists

/-! ## What goes before a symbol at its site -/

/-- Another meaning of the name of a symbol goes before the symbol at its site. -/
inductive Symbol.Outranked (found : List Symbol) (stubs : StubTable) (path : Text)
    (lines : List Text) : Symbol → Prop
  /-- A function of the name of a field. -/
  | functionOverField {v : Variable} {f : Function} (hv : v.guard = .field)
      (hf : .ofFunction f ∈ found) (hkey : f.key = v.key) :
      Outranked found stubs path lines (.ofVariable v)
  /-- A built-in of the name of a field. -/
  | builtInOverField {v : Variable} (hv : v.guard = .field) (hstub : stubs.contains v.name = true) :
      Outranked found stubs path lines (.ofVariable v)
  /-- A local of the name of a field, on the lines of its function. -/
  | localOverField {v u : Variable} (hv : v.guard = .field)
      (hu : u ∈ Scope.enclosingLocals found path v.range.startLine) (hkey : u.key = v.key) :
      Outranked found stubs path lines (.ofVariable v)
  /-- An open field of the name of a variable of the top level, behind the word for fields. -/
  | fieldOverVariable {v u : Variable} {line : Text} (hv : v.guard = .name)
      (htop : Scope.enclosingFunction? found path v.range.startLine = none)
      (hline : v.position.lineOf? lines = some line)
      (hfield : Guard.declaresField (line.upTo v.range.startCol) = true)
      (hu : u ∈ Scope.openFields found path v.range.startLine) (hkey : u.key = v.key) :
      Outranked found stubs path lines (.ofVariable v)
  /-- A type of the name of a label, if it comes first. -/
  | typeOverLabel {l : Label} {t : RecordType}
      (ht : .ofType t ∈ found.takeWhile (· != .ofLabel l)) (hkey : t.key = l.key) :
      Outranked found stubs path lines (.ofLabel l)

namespace Source.Declares

variable {source : Source} {found : List Symbol} {stubs : StubTable}
  {line before line' before' : Text} {word word' : Word} {column : Nat} {symbol : Symbol}
  {v : Variable}

/-! ## Functions, types and labels -/

/-- What decides a reference first decides another reference to the name first as well, if no more
is introduced there. -/
theorem find?_decides_eq_some (h : source.Declares found) (hreads : Scope.Reads line word before)
    (hfirst : found.find? (Scope.decides line word) = some symbol)
    (hreads' : Scope.Reads line' word' before') (hkey : word'.text.lower = symbol.key)
    (hsymbol : symbol.kind = .function ∨ symbol.kind = .type ∧ Guard.introducesType before' = true)
    (htypes : Guard.introducesType before' = true → symbol.kind = .type)
    (hlabels : Guard.introducesLabel before' = false) :
    found.find? (Scope.decides line' word') = some symbol := by
  have hmem := List.mem_of_find?_eq_some hfirst
  obtain ⟨hname, hmeant⟩ := (h.decides_iff hreads hmem).1 (List.find?_some hfirst)
  refine find?_eq_some_of_imp hfirst (fun other hother hdecides => ?_) ?_
  · obtain ⟨hkey', hmeant'⟩ := (h.decides_iff hreads' hother).1 hdecides
    refine (h.decides_iff hreads hother).2 ⟨by rw [hkey', hkey, hname], ?_⟩
    rcases hmeant' with hfunction | ⟨htype, hintroduced⟩ | ⟨-, hintroduced⟩
    · exact .inl hfunction
    · -- the symbol is a type as well, so types may be meant
      rw [htypes hintroduced] at hmeant
      rcases hmeant with hkind | ⟨-, hmeant⟩ | ⟨hkind, -⟩
      · cases hkind
      · exact .inr (.inl ⟨htype, hmeant⟩)
      · cases hkind
    · rw [hlabels] at hintroduced
      cases hintroduced
  · refine (h.decides_iff hreads' hmem).2 ⟨hkey.symm, ?_⟩
    exact hsymbol.imp_right .inl

/-- A symbol that is no variable is found at its site exactly if it decides its name first there. -/
theorem definition_iff_find? (h : source.Declares found) (hmem : symbol ∈ found)
    (hvariable : symbol.isVariable = false)
    (hstub : symbol.kind = .function ∨ stubs.contains symbol.declared.name = false)
    (hsits : symbol.declared.SitsAt source.lines line column)
    (hmarker : Guard.endsWithMark '\\' (line.take column) = false) :
    definition found stubs source.path source.lines symbol.declared.position =
        .ok [symbol.location] ↔
      found.find? (Scope.decides line (.ofText column symbol.declared.name)) = some symbol := by
  obtain ⟨resolved, hresolve, hiff⟩ :=
    h.exists_definition_iff stubs (Symbol.mem_withMembers hmem) hsits hmarker
  rw [hiff]
  constructor
  · rintro ⟨rfl, -⟩
    exact Scope.find?_decides_eq_some hresolve hvariable
  · intro hfirst
    rw [Scope.resolve?_eq hsits.toStandsAt.holds.exists_accepts, hfirst, Option.some_or] at hresolve
    exact ⟨(Except.ok.inj hresolve).symm, hstub⟩

/-- A function that decides a reference first is found at its site. -/
theorem definition_function (h : source.Declares found) (hreads : Scope.Reads line word before)
    {f : Function} (hfirst : found.find? (Scope.decides line word) = some (.ofFunction f)) :
    definition found stubs source.path source.lines f.position =
      .ok [(Symbol.ofFunction f).location] := by
  have hmem := List.mem_of_find?_eq_some hfirst
  cases h.made _ hmem with
  | ofFunction hgiven _ _ =>
    obtain ⟨line', column, hsits, hopens⟩ :=
      (h.placed_declared (Symbol.mem_withMembers hmem)).exists_sitsAt h.newline hgiven
    have hplain := Guard.endsPlainly_of_opensDeclaration hopens
    refine (h.definition_iff_find? hmem rfl (.inl rfl) hsits hplain.marker).2 ?_
    refine h.find?_decides_eq_some hreads hfirst hsits.reads hsits.key.symm (.inl rfl)
      (fun hintroduced => ?_) hplain.introducesLabel
    rw [hplain.introducesType] at hintroduced
    cases hintroduced

/-- A type that decides a reference first is found at its site, unless it has the name of a
built-in. -/
theorem definition_type (h : source.Declares found) (hreads : Scope.Reads line word before)
    {t : RecordType} (hfirst : found.find? (Scope.decides line word) = some (.ofType t))
    (hstub : stubs.contains t.name = false) :
    definition found stubs source.path source.lines t.position =
      .ok [(Symbol.ofType t).location] := by
  have hmem := List.mem_of_find?_eq_some hfirst
  cases h.made _ hmem with
  | ofType hgiven _ _ =>
    obtain ⟨line', column, hsits, hkeyword⟩ :=
      (h.placed_declared (Symbol.mem_withMembers hmem)).exists_sitsAt h.newline hgiven
    have hkeyword : Guard.endsWithKeyword ["type"] (line'.take column) = true := hkeyword
    have hmark {mark : Char} (hmark : isWordChar mark = false) :
        Guard.endsWithMark mark (line'.take column) = false :=
      Guard.endsWithMark_eq_false_of_keyword hkeyword hmark (by decide)
    refine (h.definition_iff_find? hmem rfl (.inr hstub) hsits (hmark (by decide))).2 ?_
    refine h.find?_decides_eq_some hreads hfirst hsits.reads hsits.key.symm
      (.inr ⟨rfl, ?_⟩) (fun _ => rfl) ?_
    · rw [Guard.introducesType, Guard.endsWithKeyword_of_forall_mem hkeyword (by decide),
        Bool.or_true]
    · exact Guard.introducesLabel_eq_false (hmark (by decide))
        (Guard.endsWithKeyword_eq_false_of_keyword hkeyword (by decide))

/-- A label that decides a reference first decides another reference to the name first exactly if no
type of the name stands in front of it, where both types and labels may be meant. -/
theorem find?_decides_label_iff (h : source.Declares found) (hreads : Scope.Reads line word before)
    {l : Label} (hfirst : found.find? (Scope.decides line word) = some (.ofLabel l))
    (hreads' : Scope.Reads line' word' before') (hkey' : l.key = word'.text.lower)
    (htypes : Guard.introducesType before' = true)
    (hlabels' : Guard.introducesLabel before' = true) :
    found.find? (Scope.decides line' word') = some (.ofLabel l) ↔
      ∀ t, Symbol.ofType t ∈ found.takeWhile (· != .ofLabel l) → t.key ≠ l.key := by
  obtain ⟨hdecides, hmem, hfront⟩ := find?_eq_some_iff_takeWhile.1 hfirst
  obtain ⟨hkey, hmeant⟩ := (h.decides_iff hreads hmem).1 hdecides
  have hlabels : Guard.introducesLabel before = true := by
    rcases hmeant with hkind | ⟨hkind, -⟩ | ⟨-, hlabels⟩
    · cases hkind
    · cases hkind
    · exact hlabels
  have hdecides' : Scope.decides line' word' (.ofLabel l) = true :=
    (h.decides_iff hreads' hmem).2 ⟨hkey', .inr (.inr ⟨rfl, hlabels'⟩)⟩
  rw [find?_eq_some_iff_takeWhile, and_iff_right hdecides', and_iff_right hmem]
  constructor
  · intro hfront' t ht htkey
    have hno := hfront' _ ht
    rw [(h.decides_iff hreads' (List.takeWhile_subset _ ht)).2
      ⟨htkey.trans hkey', .inr (.inl ⟨rfl, htypes⟩)⟩] at hno
    cases hno
  · intro hnone symbol hsymbol
    refine Bool.eq_false_iff.2 fun hmeans => ?_
    have hother := List.takeWhile_subset _ hsymbol
    obtain ⟨hname, hkind⟩ := (h.decides_iff hreads' hother).1 hmeans
    -- what is no type would decide the first reference as well
    have hno := hfront symbol hsymbol
    have hname' := hname.trans (hkey'.symm.trans hkey)
    rcases hkind with hkind | ⟨hkind, -⟩ | ⟨hkind, -⟩
    · rw [(h.decides_iff hreads hother).2 ⟨hname', .inl hkind⟩] at hno
      cases hno
    · cases symbol <;> cases hkind
      exact hnone _ hsymbol (hname.trans hkey'.symm)
    · rw [(h.decides_iff hreads hother).2 ⟨hname', .inr (.inr ⟨hkind, hlabels⟩)⟩] at hno
      cases hno

/-- A label that decides a reference first is found at its site exactly if it is not outranked. -/
theorem definition_label_iff (h : source.Declares found) (hreads : Scope.Reads line word before)
    {l : Label} (hfirst : found.find? (Scope.decides line word) = some (.ofLabel l))
    (hstub : stubs.contains l.name = false) :
    definition found stubs source.path source.lines l.position =
        .ok [(Symbol.ofLabel l).location] ↔
      ¬(Symbol.ofLabel l).Outranked found stubs source.path source.lines := by
  have hmem := List.mem_of_find?_eq_some hfirst
  cases h.made _ hmem with
  | ofLabel hgiven _ =>
    obtain ⟨line', column, hsits, hdot⟩ :=
      (h.placed_declared (Symbol.mem_withMembers hmem)).exists_sitsAt h.newline hgiven
    have hdot : Text.trimStart (line'.take column) = ['.'] := hdot
    have hmark := Guard.endsWithMark_of_trimStart hdot
    have htypes : Guard.introducesType (line'.take column) = true := by
      rw [Guard.introducesType, hmark]
      rfl
    have hlabels : Guard.introducesLabel (line'.take column) = true := by
      rw [Guard.introducesLabel, hdot]
      rfl
    refine (h.definition_iff_find? hmem rfl (.inr hstub) hsits
      (Guard.endsWithMark_eq_false_of_mark hmark (by decide))).trans ?_
    refine (h.find?_decides_label_iff hreads hfirst hsits.reads hsits.key htypes hlabels).trans ?_
    constructor
    · rintro hnone (_ | _ | _ | _ | ⟨ht, hkey⟩)
      exact hnone _ ht hkey
    · exact fun hrank t ht hkey => hrank (.typeOverLabel ht hkey)

/-! ## Variables -/

/-- No field is meant where a variable is declared exactly if it is not outranked. -/
theorem meansNoField_iff (hguard : v.guard = .name) (hsits : v.SitsAt source.lines line column)
    (hopens : Guard.opensDeclaration (line.take column) = true) :
    Scope.MeansNoField found source.path v.range.startLine line (.ofText column v.name) v.key ↔
      ¬(Symbol.ofVariable v).Outranked found stubs source.path source.lines := by
  have hplain := Guard.endsPlainly_of_opensDeclaration hopens
  have hfield : Guard.field.accepts line (Word.ofText column v.name).start
      (Word.ofText column v.name).stop = .ok (Guard.declaresField (line.take column)) := by
    rw [hsits.reads .field (by decide), Guard.admitsBefore, Guard.introducesField, hplain.marker,
      Bool.false_or]
  constructor
  · rintro hno (⟨hv, -, -⟩ | ⟨hv, -⟩ | ⟨hv, -, -⟩ | ⟨-, htop, hline, hdeclares, hu, hkey⟩ | _)
    · cases hguard.symm.trans hv
    · cases hguard.symm.trans hv
    · cases hguard.symm.trans hv
    · cases hsits.line_eq.symm.trans hline
      rw [hsits.upTo_eq] at hdeclares
      refine hno htop _ hu hkey ?_
      rw [hfield, hdeclares]
  · intro hrank htop u hu hkey haccepts
    refine hrank (.fieldOverVariable hguard htop hsits.line_eq ?_ hu hkey)
    rw [hsits.upTo_eq]
    exact Except.ok.inj (hfield.symm.trans haccepts)

/-- A variable behind which its owner holds nothing but iterators of its name is found at its site
exactly if it is not outranked, if the name is neither a function's nor a built-in's. -/
theorem definition_variable_iff (h : source.Declares found)
    (hmem : .ofVariable v ∈ found.flatMap Symbol.withMembers) (hguard : v.guard = .name)
    (hsits : v.SitsAt source.lines line column)
    (hopens : Guard.opensDeclaration (line.take column) = true)
    (hfunctions : ∀ f, Symbol.ofFunction f ∈ found → f.key ≠ v.key)
    {front back : List Variable}
    (howned : Scope.owned found source.path v.range.startLine = front ++ v :: back)
    (hback : ∀ u ∈ back, u.key = v.key → u.isIterator = true)
    (hstub : stubs.contains v.name = false) :
    definition found stubs source.path source.lines v.position =
        .ok [(Symbol.ofVariable v).location] ↔
      ¬(Symbol.ofVariable v).Outranked found stubs source.path source.lines := by
  have hpath : ∀ u ∈ topVariables found, u.path = source.path := fun u hu =>
    (h.placed_declared (Symbol.mem_withMembers (mem_topVariables.1 hu))).path
  obtain ⟨resolved, hresolve, hiff⟩ := h.exists_definition_iff stubs hmem hsits
    (Guard.endsPlainly_of_opensDeclaration hopens).marker
  obtain ⟨w, hw, hmeant⟩ := (h.occurrence hsits hopens hfunctions).exists_resolve?_eq h.held hpath
    (h.getLast?_namesakes howned hback)
  obtain rfl : resolved = some (.ofVariable w) := Except.ok.inj (hresolve.symm.trans hw)
  rw [← meansNoField_iff hguard hsits hopens]
  refine hiff.trans ⟨?_, fun hno => ?_⟩
  · rintro ⟨heq, -⟩
    cases heq
    rcases hmeant with ⟨hno, -⟩ | ⟨-, hfield⟩
    · exact hno
    · cases hguard.symm.trans hfield
  · rcases hmeant with ⟨-, rfl⟩ | ⟨hyes, -⟩
    · exact ⟨rfl, .inr hstub⟩
    · exact absurd hno hyes

/-! ## Fields -/

/-- A field is the last one of its name among the fields that are open where it is declared. -/
theorem getLast?_openFields (h : source.Declares found) {t : RecordType}
    (ht : .ofType t ∈ found) (hv : v ∈ t.fields) :
    ((Scope.openFields found source.path v.range.startLine).filter
      fun u => u.key == v.key).getLast? = some v := by
  rw [h.openFields_eq ht (h.containsLine_of_member ht hv)]
  obtain ⟨front, back, hfields⟩ := List.append_of_mem hv
  have hdistinct := h.fields t ht
  rw [hfields] at hdistinct
  refine getLast?_filter_eq_some_iff.2 ⟨front, back, hfields, beq_self_eq_true _, fun u hu => ?_⟩
  exact beq_eq_false_iff_ne.2
    ((List.pairwise_cons.1 (List.pairwise_append.1 hdistinct).2.1).1 u hu).symm

/-- Where a field is declared, functions of its name are meant first, then locals of its name, and
then the field. -/
theorem resolve?_field (h : source.Declares found) {t : RecordType}
    (ht : .ofType t ∈ found) (hv : v ∈ t.fields) (hsits : v.SitsAt source.lines line column)
    (hopens : Guard.opensDeclaration (line.take column) = true)
    (hdeclares : Guard.declaresField (line.take column) = true) :
    Scope.resolve? found source.path v.range.startLine line (.ofText column v.name) =
      .ok ((found.find? (Scope.decides line (.ofText column v.name))).or
        ((((Scope.enclosingLocals found source.path v.range.startLine).filter
          fun u => u.key == v.key).getLast?.map .ofVariable).or (some (.ofVariable v)))) := by
  have hplain := Guard.endsPlainly_of_opensDeclaration hopens
  have hadmits {u : Variable} (hguard : u.guard = .name ∨ u.guard = .field) :
      ((Symbol.ofVariable u).key == (Word.ofText column v.name).text.lower &&
        Scope.admits line (.ofText column v.name) (.ofVariable u)) = (u.key == v.key) := by
    have hkey : (Word.ofText column v.name).text.lower = v.key := hsits.key.symm
    rcases hguard with hguard | hguard
    · rw [hkey, hsits.reads.admits_eq (by rw [Symbol.declared, hguard]; decide), Symbol.declared,
        hguard, Guard.admitsBefore, hplain.admitsVariable hsits.newline, Bool.and_true]
      rfl
    · rw [hkey, hsits.reads.admits_eq (by rw [Symbol.declared, hguard]; decide), Symbol.declared,
        hguard, Guard.admitsBefore, Guard.introducesField, hdeclares, Bool.or_true, Bool.and_true]
      rfl
  rw [Scope.resolve?_eq hsits.toStandsAt.holds.exists_accepts, Scope.getLast?_visible,
    List.filter_congr fun u hu => hadmits (.inl (h.guard_of_mem_enclosingLocals hu)),
    List.filter_congr fun u hu => hadmits (.inr (Scope.isField_of_mem_openFields h.held hu).guard),
    h.getLast?_openFields ht hv]
  rfl

/-- Where a field is declared the field is meant exactly if neither a function nor a local of its
name is. -/
theorem resolve?_field_iff (h : source.Declares found) {t : RecordType}
    (ht : .ofType t ∈ found) (hv : v ∈ t.fields) (hsits : v.SitsAt source.lines line column)
    (hopens : Guard.opensDeclaration (line.take column) = true)
    (hdeclares : Guard.declaresField (line.take column) = true) :
    Scope.resolve? found source.path v.range.startLine line (.ofText column v.name) =
        .ok (some (.ofVariable v)) ↔
      (∀ f, Symbol.ofFunction f ∈ found → f.key ≠ v.key) ∧
        ∀ u ∈ Scope.enclosingLocals found source.path v.range.startLine, u.key ≠ v.key := by
  have hresolve := h.resolve?_field ht hv hsits hopens hdeclares
  constructor
  · intro hfield
    have hnone := Scope.find?_decides_eq_none hfield
    rw [hresolve, hnone, Option.none_or] at hfield
    refine ⟨fun f hf hkey => ?_, fun u hu hkey => ?_⟩
    · exact List.find?_eq_none.1 hnone _ hf
        (h.decides_function hsits.reads hf (hkey.trans hsits.key))
    · cases hlast : ((Scope.enclosingLocals found source.path v.range.startLine).filter
          fun u => u.key == v.key).getLast? with
      | none =>
        exact List.filter_eq_nil_iff.1 (List.getLast?_eq_none_iff.1 hlast) u hu (beq_iff_eq.2 hkey)
      | some w =>
        -- a local would be meant, but locals are no fields
        rw [hlast] at hfield
        cases hfield
        cases (h.held.holds _ ht _ hv).guard.symm.trans (h.guard_of_mem_enclosingLocals
          (List.mem_of_mem_filter (List.mem_of_getLast? hlast)))
  · rintro ⟨hfunctions, hlocals⟩
    have hnone : found.find? (Scope.decides line (.ofText column v.name)) = none := by
      refine List.find?_eq_none.2 fun symbol hmem hdecides => ?_
      obtain ⟨f, rfl, hkey⟩ := h.exists_function_of_decides hsits.reads
        (Guard.endsPlainly_of_opensDeclaration hopens) hmem hdecides
      exact hfunctions f hmem (hkey.trans hsits.key.symm)
    have hnil : (Scope.enclosingLocals found source.path v.range.startLine).filter
        (fun u => u.key == v.key) = [] :=
      List.filter_eq_nil_iff.2 fun u hu hkey => hlocals u hu (beq_iff_eq.1 hkey)
    rw [hresolve, hnone, hnil]
    rfl

/-- A field is found at its site exactly if it is not outranked. -/
theorem definition_field_iff (h : source.Declares found) {t : RecordType}
    (ht : .ofType t ∈ found) (hv : v ∈ t.fields) (hsits : v.SitsAt source.lines line column)
    (hopens : Guard.opensDeclaration (line.take column) = true)
    (hdeclares : Guard.declaresField (line.take column) = true) :
    definition found stubs source.path source.lines v.position =
        .ok [(Symbol.ofVariable v).location] ↔
      ¬(Symbol.ofVariable v).Outranked found stubs source.path source.lines := by
  have hguard : v.guard = .field := (h.held.holds _ ht v hv).guard
  have hfield := h.resolve?_field_iff ht hv hsits hopens hdeclares
  obtain ⟨resolved, hresolve, hiff⟩ := h.exists_definition_iff stubs
    (Symbol.member_mem_withMembers ht hv) hsits
    (Guard.endsPlainly_of_opensDeclaration hopens).marker
  refine hiff.trans ⟨?_, fun hrank => ?_⟩
  · rintro ⟨rfl, hstub⟩ hrank
    obtain ⟨hfunctions, hlocals⟩ := hfield.1 hresolve
    cases hrank with
    | functionOverField _ hf hkey => exact hfunctions _ hf hkey
    | builtInOverField _ hyes => exact ne_true_of_eq_false (hstub.resolve_left nofun) hyes
    | localOverField _ hu hkey => exact hlocals _ hu hkey
    | fieldOverVariable hname => cases hguard.symm.trans hname
  · have hmeant := hfield.2 ⟨fun f hf hkey => hrank (.functionOverField hguard hf hkey),
      fun u hu hkey => hrank (.localOverField hguard hu hkey)⟩
    exact ⟨Except.ok.inj (hresolve.symm.trans hmeant),
      .inr (Bool.eq_false_iff.2 fun hyes => hrank (.builtInOverField hguard hyes))⟩

end Source.Declares

end BlitzLens
