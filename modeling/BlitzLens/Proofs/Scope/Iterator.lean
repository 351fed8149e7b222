import BlitzLens.Proofs.Extraction.Order
import BlitzLens.Proofs.Extraction.Run
import BlitzLens.Proofs.Scope.Choice

/-!
# Which loop a name refers to

Inside nested loops over one name, an occurrence of the name should mean the iterator of the
innermost loop. What it does mean is the last of the variables that may be meant, in the order in
which their owner holds them. That order is the order of their declarations (`HeldInOrder`), so the
iterator of the innermost loop is found exactly when it prevails (`Scope.Prevails`): when no
variable of the name is declared behind it, be it inside the loop or after the loop, and, at the top
level, when no field of the name is meant (`extract_iterator_resolved`). Outside its loop an
iterator is never found.
-/

namespace BlitzLens

namespace Scope

/-- The variables of the owner of a line: of the function that encloses the line, or of the top
level when no function does. -/
def owned (symbols : List Symbol) (path : Text) (number : Int) : List Variable :=
  match enclosingFunction? symbols path number with
  | some f => f.locals
  | none => topVariables symbols

/-- A variable is the iterator of the innermost loop over its name around a line. -/
structure Innermost (symbols : List Symbol) (path : Text) (number : Int) (v : Variable) : Prop where
  /-- It belongs to the owner of the line. -/
  owned : v ∈ owned symbols path number
  /-- It is an iterator. -/
  isIterator : v.isIterator = true
  /-- Its loop reaches over the line. -/
  containsLine : v.scope.containsLine number = true
  /-- The other loops over the name around the line were opened before. -/
  latest : ∀ u ∈ Scope.owned symbols path number, u.isIterator = true → u.key = v.key →
    u.scope.containsLine number = true → u.range.startLine ≤ v.range.startLine

/-- A word is an occurrence of the name of a variable that can mean nothing but a variable. -/
structure Occurrence (symbols : List Symbol) (line : Text) (word : Word) (v : Variable) : Prop where
  /-- It is the name. -/
  key : word.text.lower = v.key
  /-- A variable may be meant. -/
  accepted : Guard.name.accepts line word.start word.stop = .ok true
  /-- No function, type or label is meant. -/
  unobstructed : ∀ symbol ∈ symbols, symbol.isVariable = false → symbol.key = v.key →
    accepts symbol line word ≠ .ok true

/-- A word on a line is not taken for a field of a type that is open there, because the line is one
of a function or because no field of the name may be meant. -/
def MeansNoField (symbols : List Symbol) (path : Text) (number : Int) (line : Text) (word : Word)
    (key : Text) : Prop :=
  enclosingFunction? symbols path number = none →
    ∀ u ∈ openFields symbols path number, u.key = key →
      Guard.field.accepts line word.start word.stop ≠ .ok true

/-- An iterator prevails over the other variables that a word may mean. -/
structure Prevails (symbols : List Symbol) (path : Text) (number : Int) (line : Text) (word : Word)
    (v : Variable) : Prop where
  /-- A variable of the name that is no iterator is declared in front of the loop. -/
  declared_lt : ∀ u ∈ owned symbols path number, u.key = v.key → u.isIterator = false →
    u.range.startLine < v.range.startLine
  /-- No field is meant. -/
  no_field : MeansNoField symbols path number line word v.key

section Decidable

variable (symbols : List Symbol) (path : Text) (number : Int) (line : Text) (word : Word)
  (v : Variable)

instance : Decidable (Innermost symbols path number v) :=
  decidable_of_iff (v ∈ owned symbols path number ∧ v.isIterator = true ∧
      v.scope.containsLine number = true ∧ ∀ u ∈ owned symbols path number, u.isIterator = true →
        u.key = v.key → u.scope.containsLine number = true →
          u.range.startLine ≤ v.range.startLine)
    ⟨fun ⟨h₁, h₂, h₃, h₄⟩ => ⟨h₁, h₂, h₃, h₄⟩,
      fun h => ⟨h.owned, h.isIterator, h.containsLine, h.latest⟩⟩

instance : Decidable (Occurrence symbols line word v) :=
  decidable_of_iff (word.text.lower = v.key ∧
      Guard.name.accepts line word.start word.stop = .ok true ∧
      ∀ symbol ∈ symbols, symbol.isVariable = false → symbol.key = v.key →
        accepts symbol line word ≠ .ok true)
    ⟨fun ⟨h₁, h₂, h₃⟩ => ⟨h₁, h₂, h₃⟩, fun h => ⟨h.key, h.accepted, h.unobstructed⟩⟩

instance (key : Text) : Decidable (MeansNoField symbols path number line word key) :=
  inferInstanceAs (Decidable (_ → _))

instance : Decidable (Prevails symbols path number line word v) :=
  decidable_of_iff ((∀ u ∈ owned symbols path number, u.key = v.key → u.isIterator = false →
        u.range.startLine < v.range.startLine) ∧ MeansNoField symbols path number line word v.key)
    ⟨fun ⟨h₁, h₂⟩ => ⟨h₁, h₂⟩, fun h => ⟨h.declared_lt, h.no_field⟩⟩

end Decidable

/-! ## What a name may mean -/

/-- The variables of a name that the owner of a line holds and that may be meant there, in order. -/
def namesakes (symbols : List Symbol) (path : Text) (number : Int) (key : Text) : List Variable :=
  (owned symbols path number).filter fun u =>
    u.key == key && (!u.isIterator || u.scope.containsLine number)

section Candidates

variable {symbols : List Symbol} {path : Text} {number : Int}

/-- Inside a function its own variables come last. -/
theorem candidates_of_function {f : Function} (h : enclosingFunction? symbols path number = some f)
    (key : Text) :
    (visible symbols path number true).filter (fun symbol => symbol.key == key) =
      (symbols.filter (isVisible path number true) ++
          (openFields symbols path number).map Symbol.ofVariable).filter
            (fun symbol => symbol.key == key) ++
        (namesakes symbols path number key).map Symbol.ofVariable := by
  rw [visible, namesakes, owned, h, List.filter_append, List.filter_map, ← List.filter_filter]
  rfl

/-- At the top level the fields of the open types come last. -/
theorem candidates_of_top (h : enclosingFunction? symbols path number = none) (key : Text) :
    (visible symbols path number true).filter (fun symbol => symbol.key == key) =
      (symbols.filter (isVisible path number false)).filter (fun symbol => symbol.key == key) ++
        ((openFields symbols path number).filter fun u => u.key == key).map .ofVariable := by
  rw [visible, h, List.append_nil, List.filter_append, if_pos rfl, List.filter_map]
  rfl

/-- The variables among some symbols of the top level are the variables of the top level for which
the same holds. -/
theorem topVariables_filter {keep : Symbol → Bool} {keepVariable : Variable → Bool}
    (h : ∀ v ∈ topVariables symbols, keep (.ofVariable v) = keepVariable v) :
    topVariables (symbols.filter keep) = (topVariables symbols).filter keepVariable := by
  induction symbols with
  | nil => rfl
  | cons symbol symbols ih =>
    cases symbol with
    | ofVariable v =>
      obtain ⟨hv, hsymbols⟩ := List.forall_mem_cons.1 h
      have hhead : topVariables (.ofVariable v :: symbols) = v :: topVariables symbols := rfl
      rw [hhead, List.filter_cons, List.filter_cons, hv]
      split
      · exact congrArg (v :: ·) (ih hsymbols)
      · exact ih hsymbols
    | _ =>
      rw [List.filter_cons]
      split <;> exact ih h

/-- The variables of the top level that may be meant there are those that are visible. -/
theorem topVariables_candidates (h : enclosingFunction? symbols path number = none)
    (hpath : ∀ v ∈ topVariables symbols, v.path = path) (key : Text) :
    topVariables ((symbols.filter (isVisible path number false)).filter
      fun symbol => symbol.key == key) = namesakes symbols path number key := by
  rw [List.filter_filter, namesakes, owned, h]
  refine topVariables_filter fun v hv => ?_
  have hreaches : reaches v path number false = (!v.isIterator || v.scope.containsLine number) := by
    rw [reaches, hpath v hv, beq_self_eq_true, Bool.and_false]
    cases v.isIterator <;> rfl
  rw [isVisible, hreaches]
  rfl

end Candidates

/-! ## The owner of a line -/

section Owner

variable {symbols : List Symbol} {path : Text} {number : Int}

/-- The function that encloses a line is one of the symbols. -/
theorem mem_of_enclosingFunction? {f : Function}
    (h : enclosingFunction? symbols path number = some f) : .ofFunction f ∈ symbols := by
  obtain ⟨symbol, hsymbol, hview⟩ := List.mem_filterMap.1 (List.mem_of_find?_eq_some h)
  cases symbol <;> cases hview
  exact hsymbol

/-- The owner of a line holds its variables in order. -/
theorem pairwise_owned (h : HeldInOrder symbols) (path : Text) (number : Int) :
    (owned symbols path number).Pairwise Variable.Precedes := by
  rw [owned]
  split
  · next f hf => exact (h.holds _ (mem_of_enclosingFunction? hf)).1
  · exact h.pairwise

/-- The owner of a line holds no fields. -/
theorem guard_of_mem_owned (h : HeldInOrder symbols) {v : Variable}
    (hv : v ∈ owned symbols path number) : v.guard = .name := by
  rw [owned] at hv
  split at hv
  · next f hf => exact (h.holds _ (mem_of_enclosingFunction? hf)).2 v hv
  · exact h.guard v hv

/-- The open types hold nothing but fields. -/
theorem isField_of_mem_openFields (h : HeldInOrder symbols) {v : Variable}
    (hv : v ∈ openFields symbols path number) : v.IsField := by
  obtain ⟨t, ht, hv⟩ := List.mem_flatMap.1 hv
  obtain ⟨symbol, hsymbol, hview⟩ := List.mem_filterMap.1 (List.mem_of_mem_filter ht)
  cases symbol <;> cases hview
  exact h.holds _ hsymbol v hv

end Owner

/-! ## Resolution -/

section Resolution

variable {symbols : List Symbol} {path line : Text} {number : Int} {word : Word} {v last : Variable}

/-- What is no variable is rejected at an occurrence of the name of a variable. -/
theorem Occurrence.rejects (h : Occurrence symbols line word v) {symbol : Symbol}
    (hmem : symbol ∈ symbols) (hother : symbol.isVariable = false)
    (hkey : (symbol.key == v.key) = true) : accepts symbol line word = .ok false := by
  obtain ⟨accepted, haccepted⟩ := Guard.exists_accepts_of_accepts h.accepted symbol.declared.guard
  cases accepted with
  | false => exact haccepted
  | true => exact absurd haccepted (h.unobstructed symbol hmem hother (beq_iff_eq.1 hkey))

/-- The candidates that are no variables do not stop the choice. -/
theorem Occurrence.not_accepts (h : Occurrence symbols line word v) {symbol : Symbol}
    (hmem : symbol ∈ symbols) (hother : symbol.isVariable = false)
    (hkey : (symbol.key == v.key) = true) : accepts symbol line word ≠ .ok true := by
  rw [h.rejects hmem hother hkey]
  exact nofun

/-- What the owner of a line holds under a name is accepted at an occurrence of the name. -/
theorem Occurrence.accepts_namesakes (h : Occurrence symbols line word v)
    (hheld : HeldInOrder symbols) {u : Variable} (hu : u ∈ namesakes symbols path number v.key) :
    u.guard.accepts line word.start word.stop = .ok true := by
  rw [guard_of_mem_owned hheld (List.mem_of_mem_filter hu)]
  exact h.accepted

/-- Inside a function an occurrence of a name is resolved to the last variable of the name that the
function holds. -/
theorem Occurrence.resolve?_of_function (h : Occurrence symbols line word v)
    (hheld : HeldInOrder symbols) {f : Function}
    (henclosing : enclosingFunction? symbols path number = some f)
    (hlast : (namesakes symbols path number v.key).getLast? = some last) :
    resolve? symbols path number line word = .ok (some (.ofVariable last)) := by
  rw [resolve?, h.key, candidates_of_function henclosing, choose_append]
  · obtain ⟨best, hbest⟩ := exists_choose_eq_ok (Guard.exists_accepts_of_accepts h.accepted) none
      ((symbols.filter (isVisible path number true) ++
        (openFields symbols path number).map Symbol.ofVariable).filter
          fun symbol => symbol.key == v.key)
    rw [hbest]
    refine (choose_map_ofVariable fun u hu => h.accepts_namesakes hheld hu).trans ?_
    rw [hlast]
    rfl
  · intro symbol hsymbol hother
    obtain ⟨hmem, hkey⟩ := List.mem_filter.1 hsymbol
    rcases List.mem_append.1 hmem with htop | hfield
    · exact h.not_accepts (List.mem_of_mem_filter htop) hother hkey
    · obtain ⟨u, -, rfl⟩ := List.mem_map.1 hfield
      cases hother

/-- At the top level the choice goes on from the last variable of the name with the fields of the
name. -/
theorem Occurrence.resolve?_of_top (h : Occurrence symbols line word v)
    (hheld : HeldInOrder symbols) (hpath : ∀ v ∈ topVariables symbols, v.path = path)
    (henclosing : enclosingFunction? symbols path number = none)
    (hlast : (namesakes symbols path number v.key).getLast? = some last) :
    resolve? symbols path number line word = choose line word (some (.ofVariable last))
      (((openFields symbols path number).filter fun u => u.key == v.key).map .ofVariable) := by
  have htop := topVariables_candidates henclosing hpath v.key
  have hchosen : choose line word none ((symbols.filter (isVisible path number false)).filter
      fun symbol => symbol.key == v.key) = .ok (some (.ofVariable last)) := by
    rw [choose_eq_getLast?, htop, hlast]
    · rfl
    · rw [htop]
      exact fun u hu => h.accepts_namesakes hheld hu
    · intro symbol hsymbol hother
      obtain ⟨hmem, hkey⟩ := List.mem_filter.1 hsymbol
      exact h.rejects (List.mem_of_mem_filter hmem) hother hkey
  rw [resolve?, h.key, candidates_of_top henclosing, choose_append, hchosen]
  · rfl
  · intro symbol hsymbol hother
    obtain ⟨hmem, hkey⟩ := List.mem_filter.1 hsymbol
    exact h.not_accepts (List.mem_of_mem_filter hmem) hother hkey

/-- An occurrence of a name is resolved to the last variable of the name that the owner of the line
holds, unless a field is meant. -/
theorem Occurrence.exists_resolve?_eq (h : Occurrence symbols line word v)
    (hheld : HeldInOrder symbols) (hpath : ∀ v ∈ topVariables symbols, v.path = path)
    (hlast : (namesakes symbols path number v.key).getLast? = some last) :
    ∃ w, resolve? symbols path number line word = .ok (some (.ofVariable w)) ∧
      (MeansNoField symbols path number line word v.key ∧ w = last ∨
        ¬MeansNoField symbols path number line word v.key ∧ w.guard = .field) := by
  cases henclosing : enclosingFunction? symbols path number with
  | some f =>
    refine ⟨last, h.resolve?_of_function hheld henclosing hlast, .inl ⟨fun hnone => ?_, rfl⟩⟩
    rw [henclosing] at hnone
    cases hnone
  | none =>
    have hresolve := h.resolve?_of_top hheld hpath henclosing hlast
    have hfields {u : Variable} (hu : u ∈ (openFields symbols path number).filter
        fun u => u.key == v.key) : u.guard = .field :=
      (isField_of_mem_openFields hheld (List.mem_of_mem_filter hu)).guard
    obtain ⟨accepted, haccepted⟩ := Guard.exists_accepts_of_accepts h.accepted .field
    cases accepted with
    | false =>
      refine ⟨last, ?_, .inl ⟨fun _ u _ _ haccepts => ?_, rfl⟩⟩
      · rw [hresolve]
        refine choose_of_rejected fun symbol hsymbol => ?_
        obtain ⟨u, hu, rfl⟩ := List.mem_map.1 hsymbol
        rw [← haccepted, ← hfields hu]
        rfl
      · rw [haccepted] at haccepts
        cases haccepts
    | true =>
      -- the last field of the name overrides whatever the top level holds
      rw [choose_map_ofVariable fun u hu => by rw [hfields hu, haccepted]] at hresolve
      cases hfield : ((openFields symbols path number).filter fun u => u.key == v.key).getLast? with
      | none =>
        rw [hfield] at hresolve
        refine ⟨last, hresolve, .inl ⟨fun _ u hu hkey => ?_, rfl⟩⟩
        have hnone := List.filter_eq_nil_iff.1 (List.getLast?_eq_none_iff.1 hfield) u hu
        exact absurd (beq_iff_eq.2 hkey) hnone
      | some w =>
        rw [hfield] at hresolve
        have hw := List.mem_of_getLast? hfield
        refine ⟨w, hresolve, .inr ⟨fun hno => ?_, hfields hw⟩⟩
        obtain ⟨hmem, hkey⟩ := List.mem_filter.1 hw
        exact hno henclosing w hmem (beq_iff_eq.1 hkey) haccepted

/-- Of variables in order of which no iterator is declared behind `v`, an iterator, the last one is
`v` exactly if whatever is no iterator is declared in front of `v`. -/
theorem getLast?_eq_iff {held : List Variable} (hpairwise : held.Pairwise Variable.Precedes)
    (hmem : v ∈ held) (hiterator : v.isIterator = true)
    (hlatest : ∀ u ∈ held, u.isIterator = true → u.range.startLine ≤ v.range.startLine)
    (hlast : held.getLast? = some last) :
    last = v ↔ ∀ u ∈ held, u.isIterator = false →
      u.range.startLine < v.range.startLine := by
  obtain ⟨front, rfl⟩ := List.getLast?_eq_some_iff.1 hlast
  have hprecedes : ∀ u ∈ front, u.Precedes last := fun u hu =>
    (List.pairwise_append.1 hpairwise).2.2 u hu last (List.mem_singleton_self last)
  constructor
  · rintro rfl u hu hother
    rcases List.mem_append.1 hu with hfront | hself
    · exact (hprecedes u hfront).lt (.inr hiterator)
    · rw [List.mem_singleton.1 hself, hiterator] at hother
      cases hother
  · intro hdeclared
    rcases List.mem_append.1 hmem with hfront | hself
    · have hlt := (hprecedes v hfront).lt (.inl hiterator)
      have hlastMem : last ∈ front ++ [last] :=
        List.mem_append_right _ (List.mem_singleton_self last)
      -- the last variable would be declared both behind `v` and not behind it
      cases hother : last.isIterator with
      | true =>
        have hle := hlatest last hlastMem hother
        omega
      | false =>
        have hgt := hdeclared last hlastMem hother
        omega
    · exact (List.mem_singleton.1 hself).symm

/-- An occurrence of the name of an innermost loop is resolved to the iterator exactly if the
iterator prevails. -/
theorem Innermost.exists_resolve?_eq (h : Innermost symbols path number v)
    (hheld : HeldInOrder symbols) (hpath : ∀ v ∈ topVariables symbols, v.path = path)
    (hoccurrence : Occurrence symbols line word v) :
    ∃ w, resolve? symbols path number line word = .ok (some (.ofVariable w)) ∧
      (w = v ↔ Prevails symbols path number line word v) := by
  have hmem : v ∈ namesakes symbols path number v.key :=
    List.mem_filter.2 ⟨h.owned, by rw [beq_self_eq_true, h.containsLine, Bool.or_true]; rfl⟩
  obtain ⟨last, hlast⟩ := Option.isSome_iff_exists.1
    (List.getLast?_isSome.2 (List.ne_nil_of_mem hmem))
  have hpairwise : (namesakes symbols path number v.key).Pairwise Variable.Precedes :=
    (pairwise_owned hheld path number).sublist List.filter_sublist
  have hlatest : ∀ u ∈ namesakes symbols path number v.key, u.isIterator = true →
      u.range.startLine ≤ v.range.startLine := by
    intro u hu hiterator
    obtain ⟨hmem, hmeant⟩ := List.mem_filter.1 hu
    rw [hiterator, Bool.and_eq_true, Bool.not_true, Bool.false_or] at hmeant
    exact h.latest u hmem hiterator (beq_iff_eq.1 hmeant.1) hmeant.2
  have hiff := getLast?_eq_iff hpairwise hmem h.isIterator hlatest hlast
  obtain ⟨w, hresolve, ⟨hno, rfl⟩ | ⟨hfield, hguard⟩⟩ :=
    hoccurrence.exists_resolve?_eq hheld hpath hlast
  · refine ⟨w, hresolve, hiff.trans ⟨fun hdeclared => ⟨fun u hu hkey hother => ?_, hno⟩,
      fun hprevails u hu => ?_⟩⟩
    · refine hdeclared u (List.mem_filter.2 ⟨hu, ?_⟩) hother
      rw [hkey, beq_self_eq_true, hother]
      rfl
    · obtain ⟨hmem, hmeant⟩ := List.mem_filter.1 hu
      exact hprevails.declared_lt u hmem (beq_iff_eq.1 (Bool.and_eq_true_iff.1 hmeant).1)
  · refine ⟨w, hresolve, fun heq => ?_, fun hprevails => absurd hprevails.no_field hfield⟩
    rw [heq, guard_of_mem_owned hheld h.owned] at hguard
    cases hguard

/-- An iterator is not found outside its loop. -/
theorem resolve?_ne_of_outside (hheld : HeldInOrder symbols) (hiterator : v.isIterator = true)
    (houtside : v.scope.containsLine number = false) :
    resolve? symbols path number line word ≠ .ok (some (.ofVariable v)) := by
  intro hresolve
  have hmem := List.mem_of_mem_filter ((mem_of_choose hresolve).resolve_left nofun)
  rw [visible, List.mem_append, List.mem_append, if_pos rfl] at hmem
  rcases hmem with (htop | hfield) | hlocal
  · have hvisible := (List.mem_filter.1 htop).2
    rw [isVisible, reaches, if_pos hiterator, houtside, Bool.and_false] at hvisible
    cases hvisible
  · obtain ⟨u, hu, heq⟩ := List.mem_map.1 hfield
    cases heq
    rw [(isField_of_mem_openFields hheld hu).isIterator] at hiterator
    cases hiterator
  · split at hlocal
    · obtain ⟨u, hu, heq⟩ := List.mem_map.1 hlocal
      cases heq
      have hvisible := (List.mem_filter.1 hu).2
      rw [hiterator, houtside] at hvisible
      cases hvisible
    · cases hlocal

end Resolution

end Scope

/-! ## Documents -/

/-- In a file without includes, whatever the top level holds belongs to the file. -/
theorem Source.path_eq_of_outcome {source : Source}
    {fetch : Text → Except ExtractError (List Symbol)} {found : List Symbol}
    (hne : source.lines ≠ [])
    (hincludes : ∀ line ∈ source.lines, (Statement.read line).target? = none)
    (h : source.outcome fetch = .ok found) : ∀ v ∈ topVariables found, v.path = source.path := by
  intro v hv
  obtain ⟨own, howns, hperm⟩ := source.exists_owns hne h
  obtain ⟨symbol, hsymbol, hview⟩ := List.mem_filterMap.1 hv
  rw [hperm.mem_iff, source.inclusions_eq_nil hincludes, List.append_nil] at hsymbol
  have hplaced := howns.placed symbol hsymbol
  cases symbol <;> cases hview
  exact (Variable.PlacedBefore.toPlacedBefore hplaced).path

/-- In a document without includes, an occurrence of the name of an innermost loop is resolved to a
variable, which is the iterator of the loop exactly if the iterator prevails. Outside its loop an
iterator is never found. -/
theorem extract_iterator_resolved {disk : Disk} {rules : IncludeRules} {path text : Text}
    {found : List Symbol} {v : Variable}
    (hincludes : ∀ line ∈ text.lines, (Statement.read line).target? = none)
    (h : (extract disk rules path text).1 = .ok found) (hiterator : v.isIterator = true) :
    (∀ number line word, Scope.Innermost found path number v → Scope.Occurrence found line word v →
      ∃ w, Scope.resolve? found path number line word = .ok (some (.ofVariable w)) ∧
        (w = v ↔ Scope.Prevails found path number line word v)) ∧
    ∀ number line word, v.scope.containsLine number = false →
      Scope.resolve? found path number line word ≠ .ok (some (.ofVariable v)) := by
  rw [extract_fst, Visit.outcome_eq] at h
  have hheld : HeldInOrder found := Source.heldInOrder_of_outcome hincludes h
  have hpath : ∀ v ∈ topVariables found, v.path = path :=
    Source.path_eq_of_outcome (Text.linesAfter_ne_nil false text) hincludes h
  exact ⟨fun number line word hinnermost hoccurrence =>
      hinnermost.exists_resolve?_eq hheld hpath hoccurrence,
    fun number line word houtside => Scope.resolve?_ne_of_outside hheld hiterator houtside⟩

/-- Of two loops over the name of a global, one inside the other, the inner one is meant inside it
and not after it. -/
theorem extract_iterator_resolved_nested :
    let disk := Disk.ofFile "lib.bb" [] 1
    let rules : IncludeRules := ⟨[], true, 2⟩
    let text : Text := "Global x\nFor x = 1 To 2\nFor x = 3 To 4\nPrint x\nNext\nNext\nPrint x"
    let line : Text := "Print x"
    let word : Word := ⟨6, 7, "x"⟩
    ∃ found v, (extract disk rules "main.bb" text).1 = .ok found ∧ v.range.startLine = 2 ∧
      Scope.Innermost found "main.bb" 3 v ∧ Scope.Occurrence found line word v ∧
      Scope.resolve? found "main.bb" 3 line word = .ok (some (.ofVariable v)) ∧
      Scope.resolve? found "main.bb" 6 line word ≠ .ok (some (.ofVariable v)) := by
  intro disk rules text line word
  have hincludes : ∀ line ∈ text.lines, (Statement.read line).target? = none := by
    decide +kernel
  have hok : (extract disk rules "main.bb" text).1.isOk = true := by decide +kernel
  have hloop : ∀ found ∈ (extract disk rules "main.bb" text).1.toOption,
      ∃ v ∈ topVariables found, v.range.startLine = 2 ∧ v.scope.containsLine 6 = false ∧
        Scope.Innermost found "main.bb" 3 v ∧ Scope.Occurrence found line word v ∧
        Scope.Prevails found "main.bb" 3 line word v := by decide +kernel
  obtain ⟨found, hfound⟩ := exists_eq_ok_of_isOk hok
  rw [hfound] at hloop
  obtain ⟨v, -, hline, houtside, hinnermost, hoccurrence, hprevails⟩ := hloop found rfl
  obtain ⟨hinside, hnever⟩ := extract_iterator_resolved hincludes hfound hinnermost.isIterator
  obtain ⟨w, hresolve, hiff⟩ := hinside 3 line word hinnermost hoccurrence
  rw [hiff.2 hprevails] at hresolve
  exact ⟨found, v, hfound, hline, hinnermost, hoccurrence, hresolve, hnever 6 line word houtside⟩

/-- A global that is declared after a loop over its name is meant inside the loop. -/
theorem extract_iterator_overridden :
    let disk := Disk.ofFile "lib.bb" [] 1
    let rules : IncludeRules := ⟨[], true, 2⟩
    let text : Text := "For i = 1 To 3\nPrint i\nNext\nGlobal i"
    let line : Text := "Print i"
    let word : Word := ⟨6, 7, "i"⟩
    (∀ line ∈ text.lines, (Statement.read line).target? = none) ∧
    ∃ found v w, (extract disk rules "main.bb" text).1 = .ok found ∧
      Scope.Innermost found "main.bb" 1 v ∧ Scope.Occurrence found line word v ∧
      Scope.resolve? found "main.bb" 1 line word = .ok (some (.ofVariable w)) ∧
      w.range.startLine = 3 ∧ w ≠ v := by
  intro disk rules text line word
  have hincludes : ∀ line ∈ text.lines, (Statement.read line).target? = none := by
    decide +kernel
  have hok : (extract disk rules "main.bb" text).1.isOk = true := by decide +kernel
  have hglobal : ∀ found ∈ (extract disk rules "main.bb" text).1.toOption,
      ∃ v ∈ topVariables found, ∃ w ∈ topVariables found, Scope.Innermost found "main.bb" 1 v ∧
        Scope.Occurrence found line word v ∧
        Scope.resolve? found "main.bb" 1 line word = .ok (some (.ofVariable w)) ∧
        w.range.startLine = 3 ∧ w ≠ v := by decide +kernel
  obtain ⟨found, hfound⟩ := exists_eq_ok_of_isOk hok
  rw [hfound] at hglobal
  obtain ⟨v, -, w, -, hmeant⟩ := hglobal found rfl
  exact ⟨hincludes, found, v, w, hfound, hmeant⟩

end BlitzLens
