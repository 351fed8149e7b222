import BlitzLens.Proofs.Extraction.Declarations

/-!
# Names that are declared once

A declaration of a name that is known already is dropped, so that the first one wins. Loop iterators
do not count: what is known are the variables that last (`lasting`). However a list of parts is
added to what is known, the variables that it adds have new keys, and each of its parts is among
what is known afterwards (`Introduces`); `LooksUp.exists_introduces` says so for every way to look a
key up.
-/

namespace BlitzLens

/-- The variables among some that are no loop iterators. -/
def lasting (found : List Variable) : List Variable :=
  found.filter fun v => !v.isIterator

/-- No two variables are looked up by one key. -/
def DistinctKeys (found : List Variable) : Prop :=
  found.Pairwise fun v w => v.key ≠ w.key

/-- The parts of a list add variables of new keys to those that are known, and lose no key. -/
structure Introduces (parts : List Part) (known added : List Variable) : Prop where
  /-- No key is one of those that are known. -/
  fresh : ∀ v ∈ added, ∀ w ∈ known, w.key ≠ v.key
  /-- No key is added twice. -/
  distinct : DistinctKeys added
  /-- Every part has a key that is known afterwards. -/
  complete : ∀ part ∈ parts, ∃ v ∈ known ++ added, v.key = part.key

/-- Whether a key is declared among variables is told by those that are `known` among them, to which
a variable that is made of a part is added. -/
structure LooksUp (build : Part → Nat → Variable) (declared : List Variable → Text → Bool)
    (known : List Variable → List Variable) : Prop where
  /-- A variable is looked up by the key of its part. -/
  key : ∀ part start, (build part start).key = part.key
  /-- A key is declared if a known variable has it. -/
  declared_iff : ∀ found key, declared found key = true ↔ ∃ v ∈ known found, v.key = key
  /-- A variable that is made of a part is known. -/
  known_concat : ∀ found part start,
    known (found ++ [build part start]) = known found ++ [build part start]

/-! ## Variables that last -/

section Lasting

variable {found added : List Variable} {v : Variable} {key : Text}

/-- The variables that last are those that are no iterators. -/
theorem mem_lasting : v ∈ lasting found ↔ v ∈ found ∧ v.isIterator = false := by
  simp [lasting]

@[simp]
theorem lasting_append (found added : List Variable) :
    lasting (found ++ added) = lasting found ++ lasting added :=
  List.filter_append ..

/-- Where there are no iterators, all variables last. -/
theorem lasting_eq_self (h : ∀ v ∈ found, v.isIterator = false) : lasting found = found :=
  List.filter_eq_self.2 fun v hv => by simp [h v hv]

/-- A single iterator does not last. -/
theorem lasting_singleton_iterator (h : v.isIterator = true) : lasting [v] = [] := by
  simp [lasting, h]

/-- An iterator that is inserted does not count. -/
theorem lasting_insertIdx (h : v.isIterator = true) (found : List Variable) (index : Nat) :
    lasting (found.insertIdx index v) = lasting found := by
  induction found generalizing index with
  | nil => cases index <;> simp [lasting, h]
  | cons w found ih =>
    cases index with
    | zero => simp [lasting, h]
    | succ index =>
      rw [List.insertIdx_succ_cons, ← List.singleton_append, lasting_append, ih, ← lasting_append]
      rfl

/-- A key is declared if a variable that lasts has it. -/
theorem declaresKey_iff (found : List Variable) (key : Text) :
    declaresKey found key = true ↔ ∃ v ∈ lasting found, v.key = key := by
  simp only [declaresKey, List.any_eq_true, Bool.and_eq_true, beq_iff_eq, Bool.not_eq_true',
    mem_lasting]
  grind

/-- What is declared at the top level with any storage is declared by its variables. -/
theorem declaresTop_none (symbols : List Symbol) (key : Text) :
    declaresTop symbols key none = declaresKey (topVariables symbols) key := by
  simp [declaresTop, declaresKey]

/-- The variables of the top level are the variables among the symbols. -/
theorem mem_topVariables {symbols : List Symbol} :
    v ∈ topVariables symbols ↔ .ofVariable v ∈ symbols := by
  refine List.mem_filterMap.trans ⟨?_, fun hv => ⟨_, hv, rfl⟩⟩
  rintro ⟨symbol, hsymbol, hview⟩
  cases symbol <;> cases hview
  exact hsymbol

/-- The variables of the top level are those of its parts. -/
theorem topVariables_append (symbols added : List Symbol) :
    topVariables (symbols ++ added) = topVariables symbols ++ topVariables added :=
  List.filterMap_append

/-- Variables are the variables of the top level among them. -/
theorem topVariables_map_ofVariable (found : List Variable) :
    topVariables (found.map .ofVariable) = found := by
  rw [topVariables, List.filterMap_map]
  exact List.filterMap_some

end Lasting

/-! ## New keys -/

section Introduces

variable {known added : List Variable} {v : Variable}

/-- New keys join those that are distinct. -/
theorem DistinctKeys.append {parts : List Part} (h : DistinctKeys known)
    (hadded : Introduces parts known added) : DistinctKeys (known ++ added) :=
  List.pairwise_append.2 ⟨h, hadded.distinct, fun w hw v hv => hadded.fresh v hv w hw⟩

/-- Nothing needs to be added where no part is listed. -/
theorem Introduces.nil (known : List Variable) : Introduces [] known [] :=
  ⟨fun _ => (nomatch ·), .nil, fun _ => (nomatch ·)⟩

/-- A single variable of a new key. -/
theorem Introduces.singleton (h : ∀ w ∈ known, w.key ≠ v.key) : Introduces [] known [v] where
  fresh u hu := by
    rw [List.mem_singleton.1 hu]
    exact h
  distinct := List.pairwise_singleton _ _
  complete _ := (nomatch ·)

/-- A key that is not declared is none of those of the variables that last. -/
theorem Introduces.of_declaresKey {found : List Variable}
    (h : declaresKey found v.key = false) : Introduces [] (lasting found) [v] := by
  refine .singleton fun w hw hkey => ?_
  have hdeclared := (declaresKey_iff found v.key).2 ⟨w, hw, hkey⟩
  rw [h] at hdeclared
  cases hdeclared

variable {build : Part → Nat → Variable} {declared : List Variable → Text → Bool}
  {view : List Variable → List Variable}

namespace LooksUp

/-- Keys are looked up among the variables that last, in front of which others may be known. -/
theorem lasting (hkey : ∀ part start, (build part start).key = part.key)
    (hiterator : ∀ part start, (build part start).isIterator = false) (front : List Variable) :
    LooksUp build (fun found key => declaresKey (front ++ found) key)
      (fun found => BlitzLens.lasting (front ++ found)) where
  key := hkey
  declared_iff found := declaresKey_iff (front ++ found)
  known_concat found part start := by
    have hmade : BlitzLens.lasting [build part start] = [build part start] :=
      lasting_eq_self (by simpa using hiterator part start)
    rw [← List.append_assoc, lasting_append, hmade]

/-- Keys are looked up among all variables. -/
theorem all (hkey : ∀ part start, (build part start).key = part.key) :
    LooksUp build (fun found key => found.any fun v => v.key == key) id where
  key := hkey
  declared_iff found key := by simp
  known_concat _ _ _ := rfl

/-- Located parts that are added where they are not declared yet introduce their keys. -/
theorem exists_introduces (h : LooksUp build declared view) (found : List Variable)
    (located : List (Part × Nat)) :
    ∃ added, addLocated build declared found located = found ++ added ∧
      Introduces (located.map Prod.fst) (view found) added := by
  induction located generalizing found with
  | nil => exact ⟨[], (List.append_nil found).symm, fun _ => nofun, .nil, fun _ => nofun⟩
  | cons place located ih =>
    rw [addLocated, List.foldl_cons, List.map_cons]
    by_cases hdeclared : declared found place.1.key = true
    · -- the part is dropped, and its key is known already
      obtain ⟨added, hadd, hnew⟩ := ih found
      rw [if_pos hdeclared]
      refine ⟨added, hadd, hnew.fresh, hnew.distinct, List.forall_mem_cons.2 ⟨?_, hnew.complete⟩⟩
      obtain ⟨v, hv, hkey⟩ := (h.declared_iff found place.1.key).1 hdeclared
      exact ⟨v, List.mem_append_left _ hv, hkey⟩
    · obtain ⟨added, hadd, hnew⟩ := ih (found ++ [build place.1 place.2])
      rw [h.known_concat] at hnew
      have hkey := h.key place.1 place.2
      rw [if_neg hdeclared]
      refine ⟨build place.1 place.2 :: added, hadd.trans (List.append_assoc ..), ?_, ?_, ?_⟩
      -- the rest of the list is new to what is known with the part
      · refine List.forall_mem_cons.2 ⟨fun w hw heq => hdeclared ?_, fun v hv w hw => ?_⟩
        · exact (h.declared_iff found place.1.key).2 ⟨w, hw, heq.trans hkey⟩
        · exact hnew.fresh v hv w (List.mem_append_left _ hw)
      · refine List.pairwise_cons.2 ⟨fun v hv => ?_, hnew.distinct⟩
        exact hnew.fresh v hv _ (List.mem_append_right _ List.mem_cons_self)
      · have hcomplete := hnew.complete
        rw [List.append_assoc, List.singleton_append] at hcomplete
        refine List.forall_mem_cons.2 ⟨⟨_, ?_, hkey⟩, hcomplete⟩
        exact List.mem_append_right _ List.mem_cons_self

/-- What is added for a located part is new to what was known and to the parts in front of it. -/
theorem exists_split_of_mem_addLocated (h : LooksUp build declared view) {found : List Variable}
    {located : List (Part × Nat)} (hv : v ∈ addLocated build declared found located) :
    v ∈ found ∨ ∃ front place back, located = front ++ place :: back ∧
      v = build place.1 place.2 ∧ (∀ earlier ∈ front, earlier.1.key ≠ place.1.key) ∧
      ∀ w ∈ view found, w.key ≠ place.1.key := by
  induction located generalizing found with
  | nil => exact .inl hv
  | cons place located ih =>
    rw [addLocated, List.foldl_cons] at hv
    by_cases hdeclared : declared found place.1.key = true
    · rw [if_pos hdeclared] at hv
      obtain ⟨w, hw, hkey⟩ := (h.declared_iff found place.1.key).1 hdeclared
      refine (ih hv).imp_right ?_
      rintro ⟨front, next, back, rfl, heq, hfront, hknown⟩
      refine ⟨place :: front, next, back, rfl, heq, ?_, hknown⟩
      exact List.forall_mem_cons.2 ⟨hkey ▸ hknown w hw, hfront⟩
    · rw [if_neg hdeclared] at hv
      rcases ih hv with hfound | ⟨front, next, back, rfl, heq, hfront, hknown⟩
      · rcases List.mem_append.1 hfound with hfound | hfound
        · exact .inl hfound
        · refine .inr ⟨[], place, located, rfl, List.mem_singleton.1 hfound,
            fun _ h => absurd h List.not_mem_nil, ?_⟩
          intro w hw hkey
          exact hdeclared ((h.declared_iff found place.1.key).2 ⟨w, hw, hkey⟩)
      · rw [h.known_concat] at hknown
        have hplace := hknown _ (List.mem_append_right _ (List.mem_singleton.2 rfl))
        rw [h.key] at hplace
        refine .inr ⟨place :: front, next, back, rfl, heq, ?_, fun w hw => ?_⟩
        · exact List.forall_mem_cons.2 ⟨hplace, hfront⟩
        · exact hknown w (List.mem_append_left _ hw)

end LooksUp

end Introduces

end BlitzLens
