import BlitzLens.Proofs.Scope.Iterator
import BlitzLens.Proofs.Scope.Site

/-!
# Variables at home

A variable that a reference is resolved to is the last one of its name that its owner holds and that
may be meant where the reference stands. Where the variable is declared it is the last one again:
what its owner holds of the name behind it are iterators, and their loops start on later lines
(`Source.Declares.getLast?_namesakes`). The exception is an iterator of the top level in front of a
variable that is no iterator (`Variable.Overridden`). A field is the only one of its name among the
fields that are open where it is declared.
-/

namespace BlitzLens

open Line

/-- The last element with a property is the one behind which there is no other. -/
theorem getLast?_filter_eq_some_iff {α : Type} {p : α → Bool} {list : List α} {a : α} :
    (list.filter p).getLast? = some a ↔
      ∃ front back, list = front ++ a :: back ∧ p a = true ∧ ∀ b ∈ back, p b = false := by
  rw [← List.head?_reverse, ← List.filter_reverse, List.head?_filter,
    List.find?_eq_some_iff_append]
  constructor
  · rintro ⟨ha, front, back, hreverse, hfront⟩
    refine ⟨back.reverse, front.reverse, ?_, ha, fun b hb => ?_⟩
    · rw [← List.reverse_reverse list, hreverse]
      simp
    · exact Bool.not_eq_true' _ ▸ hfront b (List.mem_reverse.1 hb)
  · rintro ⟨front, back, rfl, ha, hback⟩
    refine ⟨ha, back.reverse, front.reverse, by simp, fun b hb => ?_⟩
    rw [hback b (List.mem_reverse.1 hb)]
    rfl

/-- A variable of the top level that is no iterator stands behind an iterator of its name. -/
def Variable.Overridden (found : List Symbol) (v : Variable) : Prop :=
  v.isIterator = true ∧ ∃ front back, topVariables found = front ++ v :: back ∧
    ∃ u ∈ back, u.isIterator = false ∧ u.key = v.key

/-- The loop of an iterator starts where the iterator is declared. -/
theorem Variable.PlacedBefore.containsLine_iff {source : Source} {bound : Nat} {v : Variable}
    (h : v.PlacedBefore source bound) (hiterator : v.isIterator = true) {number : Int}
    (hle : number ≤ v.range.startLine) :
    v.scope.containsLine number = true ↔ number = v.range.startLine := by
  rcases h.scope with ⟨hend, -⟩ | ⟨first, last, hfirst, horder, -, hscope, -⟩
  · rw [isIterator, hend] at hiterator
    cases hiterator
  · rw [hscope, Span.containsLine, Bool.and_eq_true, decide_eq_true_eq, decide_eq_true_eq]
    change (first : Int) ≤ number ∧ number ≤ (last : Int) ↔ _
    omega

namespace Scope

variable {symbols : List Symbol} {path : Text} {number : Int} {v : Variable}

/-- The variables of the function that encloses a line, if there is one, that may be referenced on
the line. -/
def enclosingLocals (symbols : List Symbol) (path : Text) (number : Int) : List Variable :=
  match enclosingFunction? symbols path number with
  | some f => visibleLocals f number
  | none => []

/-- The visible symbols are those of the list, the open fields and the locals. -/
theorem visible_eq (symbols : List Symbol) (path : Text) (number : Int) :
    visible symbols path number true =
      symbols.filter (isVisible path number (enclosingFunction? symbols path number).isSome) ++
        (openFields symbols path number).map .ofVariable ++
        (enclosingLocals symbols path number).map .ofVariable := by
  rw [visible, enclosingLocals, if_pos rfl]
  cases enclosingFunction? symbols path number <;> rfl

/-- The last visible symbol is a local, or a field if there is no local, or one of the list if there
is no field either. -/
theorem getLast?_visible (symbols : List Symbol) (path : Text) (number : Int) (p : Symbol → Bool) :
    ((visible symbols path number true).filter p).getLast? =
      (((enclosingLocals symbols path number).filter
          fun v => p (.ofVariable v)).getLast?.map .ofVariable).or
        ((((openFields symbols path number).filter
            fun v => p (.ofVariable v)).getLast?.map .ofVariable).or
          ((symbols.filter fun symbol => p symbol && isVisible path number
            (enclosingFunction? symbols path number).isSome symbol).getLast?)) := by
  rw [visible_eq, List.filter_append, List.filter_append, List.getLast?_append,
    List.getLast?_append, List.filter_map, List.filter_map, List.getLast?_map, List.getLast?_map,
    List.filter_filter]
  rfl

/-- Behind the last local with a property, no variables of the function have the property but
iterators. -/
theorem exists_locals_eq_append {p : Variable → Bool}
    (h : ((enclosingLocals symbols path number).filter p).getLast? = some v) :
    ∃ f, enclosingFunction? symbols path number = some f ∧ ∃ front back,
      f.locals = front ++ v :: back ∧ ∀ u ∈ back, p u = true → u.isIterator = true := by
  rw [enclosingLocals] at h
  split at h
  · next f hf =>
    rw [visibleLocals, List.filter_filter] at h
    obtain ⟨front, back, hlocals, -, hback⟩ := getLast?_filter_eq_some_iff.1 h
    refine ⟨f, hf, front, back, hlocals, fun u hu hp => ?_⟩
    have hno := hback u hu
    rw [hp, Bool.true_and, Bool.or_eq_false_iff, Bool.not_eq_false'] at hno
    exact hno.1
  · cases h

end Scope

namespace Source.Declares

variable {source : Source} {found : List Symbol} {line : Text} {word : Word} {number : Int}
  {v : Variable}

/-! ## Owners -/

/-- Variables that stand in the list or that one of the symbols owns are in place. -/
theorem placed_variable (h : source.Declares found)
    (hmem : .ofVariable v ∈ found.flatMap Symbol.withMembers) :
    v.PlacedBefore source source.lines.length := by
  obtain ⟨owner, howner, hmem⟩ := List.mem_flatMap.1 hmem
  have hplaced := h.placed owner howner
  rcases List.mem_cons.1 hmem with rfl | hmember
  · exact hplaced
  · obtain ⟨u, hu, heq⟩ := List.mem_map.1 hmember
    cases heq
    cases owner with
    | ofFunction f =>
      obtain ⟨first, last, -, -, hlast, -, -, hmembers⟩ := Declared.OwnsBefore.block hplaced
      exact (hmembers v hu).1.mono (Nat.succ_le_of_lt hlast)
    | ofType t =>
      obtain ⟨first, last, -, -, hlast, -, -, hmembers⟩ := Declared.OwnsBefore.block hplaced
      exact (hmembers v hu).1.mono (Nat.succ_le_of_lt hlast)
    | ofVariable u => cases hu
    | ofLabel l => cases hu

/-- What the owner of a line holds is a variable of the list or one that a symbol owns. -/
theorem mem_withMembers_of_owned (hv : v ∈ Scope.owned found source.path number) :
    .ofVariable v ∈ found.flatMap Symbol.withMembers := by
  rw [Scope.owned] at hv
  split at hv
  · next f hf =>
    exact Symbol.member_mem_withMembers (Scope.mem_of_enclosingFunction? hf) hv
  · exact Symbol.mem_withMembers (mem_topVariables.1 hv)

/-- The function that encloses a line holds no fields. -/
theorem guard_of_mem_enclosingLocals (h : source.Declares found)
    (hv : v ∈ Scope.enclosingLocals found source.path number) : v.guard = .name := by
  rw [Scope.enclosingLocals] at hv
  split at hv
  · next f hf =>
    exact (h.held.holds _ (Scope.mem_of_enclosingFunction? hf)).2 v (List.mem_of_mem_filter hv)
  · cases hv

/-- Behind a variable of the top level there are no variables of its name but iterators, unless it
is overridden. -/
theorem exists_topVariables_eq_append (h : source.Declares found) (hv : .ofVariable v ∈ found)
    (hlast : ¬v.Overridden found) :
    ∃ front back, topVariables found = front ++ v :: back ∧
      ∀ u ∈ back, u.key = v.key → u.isIterator = true := by
  obtain ⟨front, back, htop⟩ := List.append_of_mem (mem_topVariables.2 hv)
  refine ⟨front, back, htop, fun u hu hkey => Bool.of_not_eq_false fun hother => ?_⟩
  cases hiterator : v.isIterator with
  | true => exact hlast ⟨hiterator, front, back, htop, u, hu, hother, hkey⟩
  | false =>
    -- two variables that are no iterators do not share a name
    have hdistinct := h.top
    rw [htop, lasting, List.filter_append, List.filter_cons_of_pos (by simp [hiterator])]
      at hdistinct
    refine (List.pairwise_cons.1 (List.pairwise_append.1 hdistinct).2.1).1 u ?_ hkey.symm
    exact List.mem_filter.2 ⟨hu, by rw [hother]; rfl⟩

/-- A variable that a reference is resolved to is the last of its name that its owner holds, but for
iterators. -/
theorem exists_owned_eq_append (h : source.Declares found)
    (hresolve : Scope.resolve? found source.path number line word = .ok (some (.ofVariable v)))
    (hguard : v.guard = .name) (hlast : ¬v.Overridden found) :
    ∃ front back, Scope.owned found source.path v.range.startLine = front ++ v :: back ∧
      ∀ u ∈ back, u.key = v.key → u.isIterator = true := by
  have haccepts : Scope.accepts (.ofVariable v) line word = .ok true :=
    (Scope.accepts_of_choose hresolve).resolve_left nofun
  have hvisible := (Scope.mem_of_choose hresolve).resolve_left nofun
  have hnone := Scope.find?_decides_eq_none hresolve
  rw [Scope.resolve?_eq (Guard.exists_accepts_of_accepts haccepts), hnone, Option.none_or,
    Scope.getLast?_visible] at hresolve
  rcases Option.or_eq_some_iff.1 (Except.ok.inj hresolve) with hlocal | ⟨-, hother⟩
  · obtain ⟨u, hu, heq⟩ := Option.map_eq_some_iff.1 hlocal
    cases heq
    obtain ⟨f, hf, front, back, hlocals, hback⟩ := Scope.exists_locals_eq_append hu
    have hmem := Scope.mem_of_enclosingFunction? hf
    have hv : v ∈ f.locals := hlocals ▸ List.mem_append_right _ List.mem_cons_self
    -- the function that encloses the reference encloses the declaration as well
    refine ⟨front, back, ?_, fun u hu hkey => hback u hu ?_⟩
    · rw [Scope.owned, h.enclosingFunction?_eq_some hmem (h.containsLine_of_member hmem hv)]
      exact hlocals
    · have huguard : u.guard = .name := (h.held.holds _ hmem).2 u
        (hlocals ▸ List.mem_append_right _ (List.mem_cons_of_mem _ hu))
      rw [Bool.and_eq_true, Scope.admits_iff, Scope.accepts, Symbol.declared, huguard, ← hguard]
      refine ⟨?_, haccepts⟩
      exact show (u.key == _) = true from hkey ▸ (List.mem_filter.1 hvisible).2
  rcases Option.or_eq_some_iff.1 hother with hfield | ⟨-, htop⟩
  · obtain ⟨u, hu, heq⟩ := Option.map_eq_some_iff.1 hfield
    cases heq
    have hfield := Scope.isField_of_mem_openFields h.held
      (List.mem_of_mem_filter (List.mem_of_getLast? hu))
    rw [hfield.guard] at hguard
    cases hguard
  · have hv : .ofVariable v ∈ found := List.mem_of_mem_filter (List.mem_of_getLast? htop)
    rw [Scope.owned, h.enclosingFunction?_eq_none hv]
    exact h.exists_topVariables_eq_append hv hlast

/-- Where a variable is declared it is the last one of its name that may be meant, if its owner
holds nothing but iterators of the name behind it. -/
theorem getLast?_namesakes (h : source.Declares found) {front back : List Variable}
    (howned : Scope.owned found source.path v.range.startLine = front ++ v :: back)
    (hback : ∀ u ∈ back, u.key = v.key → u.isIterator = true) :
    (Scope.namesakes found source.path v.range.startLine v.key).getLast? = some v := by
  have hplaced {u : Variable} (hu : u ∈ front ++ v :: back) :
      u.PlacedBefore source source.lines.length :=
    h.placed_variable (mem_withMembers_of_owned (howned ▸ hu))
  have hordered := Scope.pairwise_owned h.held source.path v.range.startLine
  rw [howned] at hordered
  refine getLast?_filter_eq_some_iff.2 ⟨front, back, howned, ?_, fun u hu => ?_⟩
  · rw [beq_self_eq_true, Bool.true_and]
    cases hiterator : v.isIterator with
    | false => rfl
    | true =>
      exact ((hplaced (List.mem_append_right _ List.mem_cons_self)).containsLine_iff hiterator
        (Int.le_refl _)).2 rfl
  · cases hukey : u.key == v.key with
    | false => rfl
    | true =>
      have hiterator := hback u hu (beq_iff_eq.1 hukey)
      have hlt := ((List.pairwise_cons.1 (List.pairwise_append.1 hordered).2.1).1 u hu).lt
        (.inr hiterator)
      have hcontains := (hplaced (List.mem_append_right _ (List.mem_cons_of_mem _ hu))
        ).containsLine_iff hiterator (Int.le_of_lt hlt)
      rw [hiterator, Bool.true_and, Bool.not_true, Bool.false_or]
      exact Bool.eq_false_iff.2 fun hline => Int.ne_of_lt hlt (hcontains.1 hline)

/-! ## Occurrences -/

/-- Where a variable is declared its name can mean nothing but a variable, if it is no
function's. -/
theorem occurrence (h : source.Declares found) {column : Nat}
    (hsits : v.SitsAt source.lines line column)
    (hopens : Guard.opensDeclaration (line.take column) = true)
    (hfunctions : ∀ f, Symbol.ofFunction f ∈ found → f.key ≠ v.key) :
    Scope.Occurrence found line (.ofText column v.name) v := by
  have hplain := Guard.endsPlainly_of_opensDeclaration hopens
  refine ⟨hsits.key.symm, ?_, fun symbol hmem hvariable hkey haccepts => ?_⟩
  · rw [hsits.reads .name (by decide), Guard.admitsBefore, hplain.admitsVariable hsits.newline]
  · obtain ⟨f, rfl, -⟩ := h.exists_function_of_decides hsits.reads hplain hmem
      (Scope.decides_iff.2 ⟨hkey.trans hsits.key, hvariable, haccepts⟩)
    exact hfunctions f hmem hkey

end Source.Declares

end BlitzLens
