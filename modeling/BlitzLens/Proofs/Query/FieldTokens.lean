import BlitzLens.Proofs.Extraction.Origin
import BlitzLens.Proofs.Extraction.Variables
import BlitzLens.Proofs.Query.Tokens
import BlitzLens.Proofs.Scope.Iterator
import BlitzLens.Proofs.Scope.Precedence

/-!
# Highlights behind a field marker

Highlighting does not follow the words in front of a field marker. It takes every symbol of the
name and leaves the choice to the guards (`Highlight.candidates`). Behind a field marker these
reject all types, labels and variables that are no fields (`Symbol.Guarded.isField_of_admits`), so
the last field of the name is chosen. Functions are the exception: they are admitted anywhere, and
the first one ends the choice. A word that is resolved to a field therefore has one token, and the
class of the token tells whether a function has its name (`extract_tokens_member`).
-/

namespace BlitzLens

/-! ## The guards of what is extracted -/

/-- The guards of a symbol and of its variables are those of their kinds. -/
inductive Symbol.Guarded : Symbol → Prop
  | ofVariable {v : Variable} (hguard : v.guard = .name) : Guarded (.ofVariable v)
  | ofFunction {f : Function} (hguard : f.guard = .anywhere)
      (hlocals : ∀ v ∈ f.locals, v.guard = .name) : Guarded (.ofFunction f)
  | ofType {t : RecordType} (hguard : t.guard = .recordType)
      (hfields : ∀ v ∈ t.fields, v.guard = .field ∧ v.storage = .field) : Guarded (.ofType t)
  | ofLabel {l : Label} (hguard : l.guard = .label) : Guarded (.ofLabel l)

/-- A variable that a statement makes has the guard of its kind. -/
theorem Variable.StatedIn.guard_eq {source : Source} {isField : Bool} {v : Variable}
    (h : v.StatedIn source isField) : v.guard = if isField then .field else .name := by
  obtain ⟨number, line, -, hmakes, hstorage⟩ := h
  obtain ⟨hlists, hguard⟩ := hmakes.storage_guard
  rw [hguard, ← hlists, hstorage]

/-- A visit yields symbols with the guards of their kinds. -/
theorem Visit.guarded {disk : Disk} {rules : IncludeRules} {visit : Visit} {found : List Symbol}
    {symbol : Symbol} (h : visit.outcome disk rules = .ok found) (hmem : symbol ∈ found) :
    symbol.Guarded := by
  -- statements tell the guards of variables, and names those of everything else
  obtain ⟨last, -, hstated⟩ := exists_statedIn h hmem
  obtain ⟨last', -, hmade⟩ := exists_madeIn h hmem
  cases hstated with
  | ofVariable hstated => exact .ofVariable hstated.guard_eq
  | ofFunction hlocals =>
    cases hmade with
    | ofFunction _ hguard _ => exact .ofFunction hguard fun v hv => (hlocals v hv).guard_eq
  | ofType hfields =>
    cases hmade with
    | ofType _ hguard _ =>
      refine .ofType hguard fun v hv => ⟨(hfields v hv).guard_eq, ?_⟩
      obtain ⟨number, line, -, -, hstorage⟩ := hfields v hv
      exact beq_iff_eq.1 hstorage
  | ofLabel l =>
    cases hmade with
    | ofLabel _ hguard => exact .ofLabel hguard

/-! ## What is admitted behind a field marker -/

namespace Guard

variable {before : Text}

/-- No type is introduced behind a field marker. -/
theorem introducesType_eq_false_of_marker (h : endsWithMark '\\' before = true) :
    introducesType before = false := by
  rw [introducesType, endsWithMark_eq_false_of_mark h (by decide),
    endsWithKeyword_eq_false_of_mark h (by decide) (by decide)]
  rfl

/-- No label is introduced behind a field marker. -/
theorem introducesLabel_eq_false_of_marker (h : endsWithMark '\\' before = true) :
    introducesLabel before = false :=
  introducesLabel_eq_false (endsWithMark_eq_false_of_mark h (by decide))
    (endsWithKeyword_eq_false_of_mark h (by decide) (by decide))

/-- No variable may follow a field marker. -/
theorem admitsVariable_eq_false_of_marker (h : endsWithMark '\\' before = true) :
    admitsVariable before = false := by
  rw [admitsVariable, h]
  simp

/-- A field may follow a field marker. -/
theorem introducesField_of_marker (h : endsWithMark '\\' before = true) :
    introducesField before = true := by
  rw [introducesField, h]
  rfl

end Guard

/-- Whether a function among the symbols has a key. -/
def Scope.namesFunction (symbols : List Symbol) (key : Text) : Bool :=
  symbols.any fun symbol => symbol.kind == .function && symbol.key == key

namespace Highlight

variable {symbols : List Symbol} {path : Text} {number : Int} {line : Text} {word : Word}
  {before : Text}

/-- The candidates for a name are the visible symbols, the fields of all types, and the visible
locals of the enclosing function that have it. -/
theorem mem_candidates {enclosing : Option Function} {key : Text} {symbol : Symbol} :
    symbol ∈ candidates symbols path number enclosing key ↔
      (symbol ∈ symbols ∧ symbol.key = key ∧
        Scope.isVisible path number enclosing.isSome symbol = true) ∨
      (∃ t v, .ofType t ∈ symbols ∧ v ∈ t.fields ∧ v.key = key ∧ symbol = .ofVariable v) ∨
      ∃ f v, enclosing = some f ∧ v ∈ Scope.visibleLocals f number ∧ v.key = key ∧
        symbol = .ofVariable v := by
  have hfields : symbol ∈ (((symbols.filterMap Symbol.asType?).flatMap RecordType.fields).filter
      fun field => field.key == key).map Symbol.ofVariable ↔
      ∃ t v, .ofType t ∈ symbols ∧ v ∈ t.fields ∧ v.key = key ∧ symbol = .ofVariable v := by
    simp only [List.mem_map, List.mem_filter, List.mem_flatMap, mem_filterMap_asType?, beq_iff_eq]
    constructor
    · rintro ⟨v, ⟨⟨t, ht, hv⟩, hkey⟩, rfl⟩
      exact ⟨t, v, ht, hv, hkey, rfl⟩
    · rintro ⟨t, v, ht, hv, hkey, rfl⟩
      exact ⟨v, ⟨⟨t, ht, hv⟩, hkey⟩, rfl⟩
  rw [candidates.eq_def, List.mem_append, List.mem_append, hfields, or_assoc, List.mem_filter,
    Bool.and_eq_true, beq_iff_eq]
  refine or_congr_right (or_congr_right ?_)
  cases enclosing with
  | none => simp
  | some f =>
    simp only [List.mem_map, List.mem_filter, beq_iff_eq]
    constructor
    · rintro ⟨v, ⟨hv, hkey⟩, rfl⟩
      exact ⟨f, v, rfl, hv, hkey, rfl⟩
    · rintro ⟨g, v, hf, hv, hkey, rfl⟩
      cases hf
      exact ⟨v, ⟨hv, hkey⟩, rfl⟩

/-- A word behind a field marker is admitted by no candidates but functions and fields. -/
theorem candidate_of_admits (hguarded : ∀ symbol ∈ symbols, symbol.Guarded)
    (hreads : Scope.Reads line word before) (hmarker : Guard.endsWithMark '\\' before = true)
    {key : Text} {symbol : Symbol}
    (hmem : symbol ∈ candidates symbols path number
      (Scope.enclosingFunction? symbols path number) key)
    (hadmits : Scope.admits line word symbol = true) :
    (symbol ∈ symbols ∧ symbol.kind = .function ∧ symbol.key = key) ∨
      (symbol.isVariable = true ∧ TokenClass.ofSymbol? symbol = some .field) := by
  -- whatever has one of the other guards is rejected
  have hrejects (guard : Guard) (hguard : symbol.declared.guard = guard) (hcall : guard ≠ .call)
      (hbefore : guard.admitsBefore before = false) : False := by
    rw [hreads.admits_eq (hguard ▸ hcall), hguard, hbefore] at hadmits
    cases hadmits
  rcases mem_candidates.1 hmem with ⟨hsymbol, hkey, -⟩ | ⟨t, v, ht, hv, -, rfl⟩ |
    ⟨f, v, hf, hv, -, rfl⟩
  · cases hguarded symbol hsymbol with
    | ofVariable hguard =>
      exact (hrejects .name hguard nofun (Guard.admitsVariable_eq_false_of_marker hmarker)).elim
    | ofFunction hguard hlocals => exact .inl ⟨hsymbol, rfl, hkey⟩
    | ofType hguard hfields =>
      exact (hrejects .recordType hguard nofun
        (Guard.introducesType_eq_false_of_marker hmarker)).elim
    | ofLabel hguard =>
      exact (hrejects .label hguard nofun (Guard.introducesLabel_eq_false_of_marker hmarker)).elim
  · cases hguarded _ ht with
    | ofType hguard hfields =>
      refine .inr ⟨rfl, ?_⟩
      rw [TokenClass.ofSymbol?, (hfields v hv).2]
  · cases hguarded _ (Scope.mem_of_enclosingFunction? hf) with
    | ofFunction hguard hlocals =>
      have hname := hlocals v (List.mem_of_mem_filter hv)
      exact (hrejects .name hname nofun (Guard.admitsVariable_eq_false_of_marker hmarker)).elim

/-- The candidate that decides behind a field marker is a function. -/
theorem kind_of_decides (hguarded : ∀ symbol ∈ symbols, symbol.Guarded)
    (hreads : Scope.Reads line word before) (hmarker : Guard.endsWithMark '\\' before = true)
    {key : Text} {symbol : Symbol}
    (hmem : symbol ∈ candidates symbols path number
      (Scope.enclosingFunction? symbols path number) key)
    (hdecides : (!symbol.isVariable && Scope.admits line word symbol) = true) :
    symbol ∈ symbols ∧ symbol.kind = .function ∧ symbol.key = key := by
  rw [Bool.and_eq_true, Bool.not_eq_true'] at hdecides
  rcases candidate_of_admits hguarded hreads hmarker hmem hdecides.2 with hfunction | ⟨hv, -⟩
  · exact hfunction
  · rw [hdecides.1] at hv
    cases hv

/-- Behind a field marker, a name that a function has is highlighted as a function. -/
theorem choose_of_namesFunction (hguarded : ∀ symbol ∈ symbols, symbol.Guarded)
    (hreads : Scope.Reads line word before) (hmarker : Guard.endsWithMark '\\' before = true)
    (haccepts : ∀ guard : Guard,
      ∃ accepted, guard.accepts line word.start word.stop = .ok accepted)
    {key : Text} (hnames : Scope.namesFunction symbols key = true) :
    ∃ chosen, Scope.choose line word none (candidates symbols path number
        (Scope.enclosingFunction? symbols path number) key) = .ok (some chosen) ∧
      TokenClass.ofSymbol? chosen = some .function := by
  obtain ⟨symbol, hmem, hfunction⟩ := List.any_eq_true.1 hnames
  rw [Bool.and_eq_true, beq_iff_eq, beq_iff_eq] at hfunction
  obtain ⟨hkind, hkey⟩ := hfunction
  -- a function is admitted anywhere, so the search for what decides ends with one
  have hfound : ((candidates symbols path number
      (Scope.enclosingFunction? symbols path number) key).find? fun symbol =>
        !symbol.isVariable && Scope.admits line word symbol).isSome = true := by
    rw [List.find?_isSome]
    cases hguarded symbol hmem with
    | @ofFunction f hguard hlocals =>
      have hguard' : (Symbol.ofFunction f).declared.guard = .anywhere := hguard
      refine ⟨.ofFunction f, mem_candidates.2 (.inl ⟨hmem, hkey, rfl⟩), ?_⟩
      rw [hreads.admits_eq (by rw [hguard']; decide), hguard']
      rfl
    | _ => cases hkind
  obtain ⟨chosen, hchosen⟩ := Option.isSome_iff_exists.1 hfound
  refine ⟨chosen, by rw [Scope.choose_eq haccepts, hchosen]; rfl, ?_⟩
  have hdecides := List.find?_some hchosen
  obtain ⟨-, hkind, -⟩ := kind_of_decides hguarded hreads hmarker
    (List.mem_of_find?_eq_some hchosen) hdecides
  cases chosen with
  | ofFunction f => rfl
  | _ => cases hkind

/-- Behind a field marker, the name of a field that no function has is highlighted as a field. -/
theorem choose_of_field (hguarded : ∀ symbol ∈ symbols, symbol.Guarded)
    (hreads : Scope.Reads line word before) (hmarker : Guard.endsWithMark '\\' before = true)
    (haccepts : ∀ guard : Guard,
      ∃ accepted, guard.accepts line word.start word.stop = .ok accepted)
    {t : RecordType} {v : Variable} (ht : .ofType t ∈ symbols) (hv : v ∈ t.fields)
    (hnames : Scope.namesFunction symbols v.key = false) :
    ∃ chosen, Scope.choose line word none (candidates symbols path number
        (Scope.enclosingFunction? symbols path number) v.key) = .ok (some chosen) ∧
      TokenClass.ofSymbol? chosen = some .field := by
  have hnamed {symbol : Symbol} (h : symbol ∈ symbols ∧ symbol.kind = .function ∧
      symbol.key = v.key) : False := by
    have hany : Scope.namesFunction symbols v.key = true :=
      List.any_eq_true.2 ⟨symbol, h.1, by rw [h.2.1, h.2.2]; simp⟩
    rw [hnames] at hany
    cases hany
  have hguard : (Symbol.ofVariable v).declared.guard = .field := by
    cases hguarded _ ht with
    | ofType _ hfields => exact (hfields v hv).1
  have hadmits : Scope.admits line word (.ofVariable v) = true := by
    rw [hreads.admits_eq (by rw [hguard]; decide), hguard]
    exact Guard.introducesField_of_marker hmarker
  have hmem : .ofVariable v ∈ candidates symbols path number
      (Scope.enclosingFunction? symbols path number) v.key :=
    mem_candidates.2 (.inr (.inl ⟨t, v, ht, hv, rfl, rfl⟩))
  -- no symbol decides, so the last candidate that is admitted is chosen, and there is one
  have hnone : ((candidates symbols path number
      (Scope.enclosingFunction? symbols path number) v.key).find? fun symbol =>
        !symbol.isVariable && Scope.admits line word symbol) = none :=
    List.find?_eq_none.2 fun symbol hmem hdecides =>
      hnamed (kind_of_decides hguarded hreads hmarker hmem hdecides)
  obtain ⟨chosen, hchosen⟩ : ∃ chosen, ((candidates symbols path number
      (Scope.enclosingFunction? symbols path number) v.key).filter
        (Scope.admits line word)).getLast? = some chosen :=
    ⟨_, List.getLast?_eq_some_getLast (List.ne_nil_of_mem (List.mem_filter.2 ⟨hmem, hadmits⟩))⟩
  refine ⟨chosen, by rw [Scope.choose_eq haccepts, hnone, hchosen]; rfl, ?_⟩
  obtain ⟨hmem, hadmits⟩ := List.mem_filter.1 (List.mem_of_getLast? hchosen)
  rcases candidate_of_admits hguarded hreads hmarker hmem hadmits with hfunction | ⟨-, hclass⟩
  · exact (hnamed hfunction).elim
  · exact hclass

/-- Behind a field marker, the name of a field is highlighted as a function if a function has it,
and as a field otherwise. -/
theorem choose_of_marker (hguarded : ∀ symbol ∈ symbols, symbol.Guarded)
    (hreads : Scope.Reads line word before) (hmarker : Guard.endsWithMark '\\' before = true)
    (haccepts : ∀ guard : Guard,
      ∃ accepted, guard.accepts line word.start word.stop = .ok accepted)
    {t : RecordType} {v : Variable} (ht : .ofType t ∈ symbols) (hv : v ∈ t.fields)
    (hkey : v.key = word.text.lower) :
    ∃ chosen, Scope.choose line word none (candidates symbols path number
        (Scope.enclosingFunction? symbols path number) word.text.lower) = .ok (some chosen) ∧
      TokenClass.ofSymbol? chosen =
        some (if Scope.namesFunction symbols word.text.lower then .function else .field) := by
  cases hnames : Scope.namesFunction symbols word.text.lower with
  | true => exact choose_of_namesFunction hguarded hreads hmarker haccepts hnames
  | false =>
    rw [← hkey] at hnames ⊢
    exact choose_of_field hguarded hreads hmarker haccepts ht hv hnames

/-- Behind a field marker, the only token of a word that is the name of a field is the one of a
function if a function has its name, and the one of a field otherwise. -/
theorem filter_tokensOn_of_marker (hguarded : ∀ symbol ∈ symbols, symbol.Guarded)
    (hword : word ∈ Line.codeWords line)
    (hmarker : Guard.endsWithMark '\\' (line.upTo word.start) = true) {t : RecordType}
    {v : Variable} (ht : .ofType t ∈ symbols) (hv : v ∈ t.fields) (hkey : v.key = word.text.lower) :
    (tokensOn symbols path number line).filter (fun token => token.start == word.start) =
      [⟨number, word.start, word.text.length,
        if Scope.namesFunction symbols word.text.lower then .function else .field⟩] := by
  obtain ⟨start, hplace, hname, -, hcode⟩ := Line.exists_nameAt_of_mem_codeWords hword
  have hinside := hname.inside
  have hreads : Scope.Reads line word (line.upTo word.start) := by
    rw [hplace, Word.ofText_start, Text.upTo_natCast (by omega)]
    exact Scope.reads_of_isCode hname.toStandsAt hcode
  have haccepts := Guard.exists_accepts_of_accepts (hreads .anywhere nofun)
  obtain ⟨chosen, hchosen, hclass⟩ :=
    choose_of_marker hguarded hreads hmarker haccepts ht hv hkey
  have hlength : word.stop - word.start = word.text.length := by
    rw [stop_of_mem_codeWords hword]
    omega
  have htoken : tokenOf? symbols path number line (Scope.enclosingFunction? symbols path number)
      word = .ok (some ⟨number, word.start, word.text.length,
        if Scope.namesFunction symbols word.text.lower then .function else .field⟩) := by
    rw [tokenOf?_eq, hchosen, hlength]
    change Except.ok (Option.map _ (TokenClass.ofSymbol? chosen)) = _
    rw [hclass]
    rfl
  exact filter_tokensOn_start hword htoken

end Highlight

/-- A field is found behind a field marker only. -/
theorem Scope.endsWithMark_of_resolveMember? {symbols : List Symbol} {path line : Text}
    {number : Int} {word : Word} {v : Variable} (hword : word ∈ Line.codeWords line)
    (h : resolveMember? symbols path number line word = .ok (some v)) :
    Guard.endsWithMark '\\' (line.upTo word.start) = true := by
  obtain ⟨start, hplace, hname, -, -⟩ := Line.exists_nameAt_of_mem_codeWords hword
  have hinside : start ≤ line.length := Nat.le_trans (Nat.le_add_right _ _) hname.inside
  by_contra hmarker
  -- without a marker in front there is nothing to look a field up in
  have hnone : memberMarker? line word.start = .ok none := by
    rw [hplace, Word.ofText_start] at hmarker ⊢
    rw [Text.upTo_natCast hinside, Bool.not_eq_true] at hmarker
    exact Guard.memberMarker?_eq_none hinside hmarker
  rw [resolveMember?, hnone] at h
  cases h

/-! ## Documents -/

/-- Every word of the code that is resolved to a field has one token, which is as long as the word.
It is the token of a function if a function has the name of the field, and the token of a field
otherwise, whatever types, variables and labels share the name. -/
theorem extract_tokens_member {disk : Disk} {rules : IncludeRules} {path text : Text}
    {symbols : List Symbol} (h : (extract disk rules path text).1 = .ok symbols) :
    ∃ found, Highlight.tokens symbols path text.lines = .ok found ∧
      ∀ (number : Nat) (line : Text) (word : Word) (v : Variable),
        text.lines[number]? = some line → word ∈ Line.codeWords line →
        Scope.resolveMember? symbols path number line word = .ok (some v) →
        found.filter (fun token => token.isAt number word.start) =
          [⟨number, word.start, word.text.length,
            if Scope.namesFunction symbols word.text.lower then .function else .field⟩] := by
  refine ⟨_, Highlight.tokens_eq symbols path text.lines, ?_⟩
  intro number line word v hline hword hmember
  have hguarded : ∀ symbol ∈ symbols, symbol.Guarded := by
    rw [extract_fst] at h
    exact fun symbol hmem => Visit.guarded h hmem
  have hmarker := Scope.endsWithMark_of_resolveMember? hword hmember
  obtain ⟨t, ht, hv, hkey⟩ := Scope.exists_type_of_resolveMember? hmember
  rw [Highlight.filter_isAt hline]
  exact Highlight.filter_tokensOn_of_marker hguarded hword hmarker ht hv hkey

/-- A global, a type and a label share the name of a field, and the field is highlighted. -/
theorem extract_tokens_member_speed :
    let disk := Disk.ofFile "lib.bb" [] 1
    let rules : IncludeRules := ⟨[], true, 2⟩
    let text : Text := "Type Car\nField speed\nEnd Type\nGlobal speed\nType speed\nEnd Type\n" ++
      ".speed\nLocal c.Car\nPrint c\\speed"
    ∃ symbols found, (extract disk rules "main.bb" text).1 = .ok symbols ∧
      Highlight.tokens symbols "main.bb" text.lines = .ok found ∧
      found.filter (fun token => token.isAt 8 8) = [⟨8, 8, 5, .field⟩] := by
  intro disk rules text
  have hok : (extract disk rules "main.bb" text).1.isOk = true := by decide +kernel
  obtain ⟨symbols, hsymbols⟩ := exists_eq_ok_of_isOk hok
  have hfacts : ∀ symbols ∈ (extract disk rules "main.bb" text).1.toOption,
      Scope.namesFunction symbols "speed" = false ∧ (Scope.resolveMember? symbols "main.bb" 8
        "Print c\\speed" ⟨8, 13, "speed"⟩).toOption.join.isSome = true := by
    decide +kernel
  rw [hsymbols] at hfacts
  obtain ⟨hnames, hmember⟩ := hfacts symbols rfl
  obtain ⟨found, hfound, htokens⟩ := extract_tokens_member hsymbols
  refine ⟨symbols, found, hsymbols, hfound, ?_⟩
  cases hresolve : Scope.resolveMember? symbols "main.bb" 8 "Print c\\speed" ⟨8, 13, "speed"⟩ with
  | error error =>
    rw [hresolve] at hmember
    cases hmember
  | ok resolved =>
    rw [hresolve] at hmember
    obtain ⟨v, hv⟩ := Option.isSome_iff_exists.1 hmember
    have hv : resolved = some v := hv
    have hat := htokens 8 "Print c\\speed" ⟨8, 13, "speed"⟩ v (by decide +kernel)
      (by decide +kernel) (hv ▸ hresolve)
    have hlower : Text.lower "speed" = "speed".toList := by decide +kernel
    simp only [hlower, hnames] at hat
    exact hat

/-- A function shares the name of a field, and the field is highlighted as a function. -/
theorem extract_tokens_member_outranked :
    let disk := Disk.ofFile "lib.bb" [] 1
    let rules : IncludeRules := ⟨[], true, 2⟩
    let text : Text := "Type Car\nField speed\nEnd Type\nFunction speed()\nEnd Function\n" ++
      "Local c.Car\nPrint c\\speed"
    let word : Word := ⟨8, 13, "speed"⟩
    ∃ symbols found v, (extract disk rules "main.bb" text).1 = .ok symbols ∧
      text.lines[6]? = some "Print c\\speed".toList ∧ word ∈ Line.codeWords "Print c\\speed" ∧
      Scope.resolveMember? symbols "main.bb" 6 "Print c\\speed" word = .ok (some v) ∧
      v.storage = .field ∧ Highlight.tokens symbols "main.bb" text.lines = .ok found ∧
      found.filter (fun token => token.isAt 6 8) = [⟨6, 8, 5, .function⟩] := by
  intro disk rules text word
  have hok : (extract disk rules "main.bb" text).1.isOk = true := by decide +kernel
  obtain ⟨symbols, hsymbols⟩ := exists_eq_ok_of_isOk hok
  have hfacts : ∀ symbols ∈ (extract disk rules "main.bb" text).1.toOption,
      ((Scope.resolveMember? symbols "main.bb" 6 "Print c\\speed" word).toOption.join.map
        Variable.storage = some .field) ∧
      (Highlight.tokens symbols "main.bb" text.lines).toOption.map
        (fun found => found.filter fun token => token.isAt 6 8) = some [⟨6, 8, 5, .function⟩] := by
    decide +kernel
  rw [hsymbols] at hfacts
  obtain ⟨hmember, htokens⟩ := hfacts symbols rfl
  have hfound := Highlight.tokens_eq symbols "main.bb" text.lines
  rw [hfound] at htokens
  cases hresolve : Scope.resolveMember? symbols "main.bb" 6 "Print c\\speed" word with
  | error error =>
    rw [hresolve] at hmember
    cases hmember
  | ok resolved =>
    rw [hresolve] at hmember
    obtain ⟨v, hv, hstorage⟩ := Option.map_eq_some_iff.1 hmember
    have hv : resolved = some v := hv
    exact ⟨symbols, _, v, hsymbols, by decide +kernel, by decide +kernel, hv ▸ hresolve, hstorage,
      hfound, Option.some.inj htokens⟩

end BlitzLens
