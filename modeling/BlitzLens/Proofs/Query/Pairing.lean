import BlitzLens.Proofs.Query.Spans
import Mathlib.Data.List.Nodup

/-!
# Which documentation a parameter gets

Documentation that names a parameter by its first word belongs to that parameter, and the first one
does if there are several. Documentation that names no parameter belongs to the parameter at its own
place, unless other documentation names that. So if the parameters have different names, nothing is
given twice (`Signature.pairDocs_pairing`), and if each piece of documentation names a parameter of
its own, the order of the documentation does not matter.

## Main definitions

* `Signature.Pairing`: the rules by which documentation is given to parameters.
* `Signature.givenDoc?`: the documentation that a parameter is given, by its index.

## Main results

* `Signature.givenDoc?_eq_some_iff`: which documentation is given.
* `Signature.pairDocs_pairing`: documentation is paired by the rules.
-/

namespace BlitzLens.Signature

/-- Documentation is given to parameters by rules: nothing is given twice, a parameter that is named
gets the first documentation that names it, and any other one gets the documentation at its own
place, if there is any and it names no parameter. -/
structure Pairing (names docs : List Text) (given : Fin names.length → Option (Fin docs.length)) :
    Prop where
  /-- No documentation is given to two parameters. -/
  injective : ∀ i i' j, given i = some j → given i' = some j → i = i'
  /-- A parameter that is named gets the first documentation that names it. -/
  named : ∀ i j, docKey? docs[j] = some names[i] → (∀ k < j, docKey? docs[k] ≠ some names[i]) →
    given i = some j
  /-- A parameter that is not named gets what stands at its own place and names no parameter. -/
  placed : ∀ i, (∀ j : Fin docs.length, docKey? docs[j] ≠ some names[i]) → ∀ j,
    given i = some j ↔ (j : Nat) = i ∧ ∀ i' : Fin names.length, docKey? docs[j] ≠ some names[i']

/-- The documentation that a parameter is given, by its index. -/
def givenDoc? (names docs : List Text) (i : Fin names.length) : Option (Fin docs.length) :=
  match docs.findFinIdx? fun doc => docKey? doc == some names[i] with
  | some j => some j
  | none =>
    if h : i < docs.length then
      if namesOneOf (names.map some) docs[i] then none else some ⟨i, h⟩
    else none

variable {names docs : List Text} {name doc : Text} {i : Fin names.length} {j : Fin docs.length}

/-! ## The documentation that a parameter is given -/

/-- Documentation names one of the parameters if its first word is the name of one. -/
theorem namesOneOf_iff : namesOneOf (names.map some) doc = true ↔
    ∃ i : Fin names.length, docKey? doc = some names[i] := by
  rw [namesOneOf]
  cases hkey : docKey? doc with
  | none => exact iff_of_false nofun (by rintro ⟨i, hi⟩; cases hi)
  | some key =>
    rw [Option.any_some, List.contains_iff_mem, List.mem_map]
    constructor
    · rintro ⟨name, hname, heq⟩
      obtain ⟨i, hi, rfl⟩ := List.getElem_of_mem hname
      exact ⟨⟨i, hi⟩, heq.symm⟩
    · rintro ⟨i, hi⟩
      exact ⟨names[i], List.getElem_mem _, hi.symm⟩

/-- A parameter is given the first documentation that names it, or that at its own place. -/
theorem givenDoc?_eq_some_iff : givenDoc? names docs i = some j ↔
    (docKey? docs[j] = some names[i] ∧ ∀ k < j, docKey? docs[k] ≠ some names[i]) ∨
      (∀ k : Fin docs.length, docKey? docs[k] ≠ some names[i]) ∧ (j : Nat) = i ∧
        ∀ i' : Fin names.length, docKey? docs[j] ≠ some names[i'] := by
  rw [givenDoc?]
  split
  · next k hk =>
    -- the first documentation that names the parameter is the only one it can be given
    simp only [List.findFinIdx?_eq_some_iff, beq_iff_eq] at hk
    obtain ⟨hnamed, hfirst⟩ := hk
    constructor
    · rintro ⟨⟩
      exact .inl ⟨hnamed, hfirst⟩
    · rintro (⟨hnamed', hfirst'⟩ | ⟨hnone, -⟩)
      · rcases Nat.lt_trichotomy k j with hlt | heq | hlt
        · exact absurd hnamed (hfirst' k hlt)
        · rw [Fin.ext heq]
        · exact absurd hnamed' (hfirst j hlt)
      · exact absurd hnamed (hnone k)
  · next hnone =>
    simp only [List.findFinIdx?_eq_none_iff, beq_iff_eq] at hnone
    have hnone (k : Fin docs.length) : docKey? docs[k] ≠ some names[i] :=
      hnone _ (List.getElem_mem _)
    constructor
    · intro h
      split_ifs at h with hi hname
      cases h
      refine .inr ⟨hnone, rfl, fun i' hi' => hname (namesOneOf_iff.2 ⟨i', hi'⟩)⟩
    · rintro (⟨hnamed, -⟩ | ⟨-, hj, hname⟩)
      · exact absurd hnamed (hnone j)
      · have hi : (i : Nat) < docs.length := hj ▸ j.isLt
        obtain rfl : j = ⟨i, hi⟩ := Fin.ext hj
        exact (dif_pos hi).trans (if_neg fun h => (namesOneOf_iff.1 h).elim hname)

/-- Documentation is given by the rules. -/
theorem pairing_givenDoc? (hdistinct : names.Nodup) :
    Pairing names docs (givenDoc? names docs) where
  injective i i' j h h' := by
    rcases givenDoc?_eq_some_iff.1 h with ⟨hi, -⟩ | ⟨-, hi, hnone⟩ <;>
      rcases givenDoc?_eq_some_iff.1 h' with ⟨hi', -⟩ | ⟨-, hi', hnone'⟩
    · rw [hi] at hi'
      exact Fin.ext ((List.Nodup.getElem_inj_iff hdistinct).1 (Option.some.inj hi'))
    · exact absurd hi (hnone' i)
    · exact absurd hi' (hnone i')
    · exact Fin.ext (hi.symm.trans hi')
  named i j hnamed hfirst := givenDoc?_eq_some_iff.2 (.inl ⟨hnamed, hfirst⟩)
  placed i hnone j := by
    rw [givenDoc?_eq_some_iff, or_iff_right fun h => hnone j h.1, and_iff_right hnone]

/-! ## The pairing -/

/-- The documentation that is found for a name is the first one. -/
theorem docNamed?_eq_map (docs : List Text) (name : Text) : docNamed? docs name =
    (docs.findFinIdx? fun doc => docKey? doc == some name).map docs.get := by
  rw [docNamed?]
  cases hfound : docs.findFinIdx? fun doc => docKey? doc == some name with
  | none => exact List.find?_eq_none.2 (List.findFinIdx?_eq_none_iff.1 hfound)
  | some j =>
    obtain ⟨hnamed, hfirst⟩ := List.findFinIdx?_eq_some_iff.1 hfound
    refine List.find?_eq_some_iff_getElem.2 ⟨hnamed, j, j.isLt, rfl, fun k hk => ?_⟩
    rw [Bool.not_eq_true', ← Bool.not_eq_true]
    exact hfirst ⟨k, Nat.lt_trans hk j.isLt⟩ hk

/-- The parameters get the documentation that they are given. -/
theorem pairDocs_eq_ofFn (names docs : List Text) : pairDocs (names.map some) docs =
    List.ofFn fun i => (givenDoc? names docs i).map docs.get := by
  refine List.ext_getElem ?_ fun i hi hi' => ?_
  · rw [length_pairDocs, List.length_map, List.length_ofFn]
  · rw [List.length_ofFn] at hi'
    simp only [pairDocs, List.getElem_map, List.getElem_zipIdx, List.getElem_ofFn,
      Option.bind_some, docNamed?_eq_map, givenDoc?, Nat.zero_add]
    cases docs.findFinIdx? fun doc => docKey? doc == some names[i] with
    | some j => rfl
    | none =>
      by_cases hplace : i < docs.length
      · rw [List.getElem?_eq_getElem hplace]
        simp only [Option.map_none, hplace, dif_pos, Option.filter_some]
        cases namesOneOf (names.map some) docs[i] <;> rfl
      · rw [List.getElem?_eq_none (Nat.le_of_not_lt hplace)]
        simp [hplace]

/-- Where no two pieces of documentation name the same parameter, the one that names a parameter is
found wherever it stands. -/
theorem docNamed?_eq_some_iff (hdistinct : (docs.map docKey?).Nodup) :
    docNamed? docs name = some doc ↔ doc ∈ docs ∧ docKey? doc = some name := by
  have hkey {found : Text} (h : docNamed? docs name = some found) : docKey? found = some name := by
    simpa using List.find?_some h
  constructor
  · intro h
    exact ⟨List.mem_of_find?_eq_some h, hkey h⟩
  · rintro ⟨hmem, hnamed⟩
    obtain ⟨other, hother⟩ : ∃ other, docNamed? docs name = some other :=
      Option.isSome_iff_exists.1 (List.find?_isSome.2 ⟨doc, hmem, beq_iff_eq.2 hnamed⟩)
    rw [hother, List.inj_on_of_nodup_map hdistinct (List.mem_of_find?_eq_some hother) hmem
      ((hkey hother).trans hnamed.symm)]

/-- If each piece of documentation names a parameter of its own, their order does not matter. -/
theorem pairDocs_perm {more : List Text} (hperm : docs.Perm more)
    (hdistinct : (docs.map docKey?).Nodup)
    (hnamed : ∀ doc ∈ docs, ∃ name ∈ names, docKey? doc = some name) :
    pairDocs (names.map some) more = pairDocs (names.map some) docs := by
  have hfound : docNamed? more = docNamed? docs := by
    refine funext fun name => Option.ext fun doc => ?_
    rw [docNamed?_eq_some_iff hdistinct,
      docNamed?_eq_some_iff ((hperm.map docKey?).nodup_iff.1 hdistinct), hperm.mem_iff]
  -- nothing is given by its place
  have hplaced {given : List Text} (hsub : given ⊆ docs) (i : Nat) :
      (given[i]?).filter (fun doc => !namesOneOf (names.map some) doc) = none := by
    rw [Option.filter_eq_none_iff]
    intro doc hdoc
    obtain ⟨name, hname, hkey⟩ := hnamed doc (hsub (List.mem_of_getElem? hdoc))
    obtain ⟨i, hi, rfl⟩ := List.getElem_of_mem hname
    simpa using namesOneOf_iff.2 ⟨⟨i, hi⟩, hkey⟩
  simp only [pairDocs, hfound, hplaced (List.Subset.refl docs), hplaced hperm.symm.subset]

/-- Documentation is paired with parameters by the rules, and its order does not matter if each
piece of it names a parameter of its own. -/
theorem pairDocs_pairing {label : Text} (hnames : parameterKeys label = names.map some)
    (hdistinct : names.Nodup) (docs : List Text) :
    (∀ declaration description, labelOf declaration = label →
      (build declaration description docs).parameters.map ParameterInfo.documentation =
        pairDocs (parameterKeys label) docs) ∧
    (∃ given, Pairing names docs given ∧ pairDocs (parameterKeys label) docs =
      List.ofFn fun i => (given i).map docs.get) ∧
    ((docs.map docKey?).Nodup → (∀ doc ∈ docs, ∃ name ∈ names, docKey? doc = some name) →
      ∀ more, docs.Perm more →
        pairDocs (parameterKeys label) more = pairDocs (parameterKeys label) docs) := by
  refine ⟨?_, ?_, fun hkeys hnamed more hperm => ?_⟩
  · rintro declaration description rfl
    exact map_documentation_build declaration description docs
  · rw [hnames]
    exact ⟨_, pairing_givenDoc? hdistinct, pairDocs_eq_ofFn names docs⟩
  · rw [hnames]
    exact pairDocs_perm hperm hkeys hnamed

/-- A parameter that is named twice gets the first of its documentation, which the one at its place
does not get; and two parameters are found in either order. -/
theorem pairDocs_pairing_named_twice :
    let label : Text := "Turn(entity, angle#, global)"
    let names : List Text := ["entity", "angle", "global"]
    let docs : List Text := ["the entity", "Global or local", "global once more"]
    let named : List Text := ["angle in degrees", "entity that turns"]
    parameterKeys label = names.map some ∧ names.Nodup ∧
      pairDocs (parameterKeys label) docs =
        [some "the entity".toList, none, some "Global or local".toList] ∧
      (∃ given, Pairing names docs given ∧ pairDocs (parameterKeys label) docs =
        List.ofFn fun i => (given i).map docs.get) ∧
      (named.map docKey?).Nodup ∧ (∀ doc ∈ named, ∃ name ∈ names, docKey? doc = some name) ∧
      pairDocs (parameterKeys label) named.reverse = pairDocs (parameterKeys label) named := by
  intro label names docs named
  have hnames : parameterKeys label = names.map some := by decide +kernel
  have hdistinct : names.Nodup := by decide
  have hkeys : (named.map docKey?).Nodup := by decide +kernel
  have hnamed : ∀ doc ∈ named, ∃ name ∈ names, docKey? doc = some name := by decide +kernel
  have hpairing := pairDocs_pairing hnames hdistinct
  exact ⟨hnames, hdistinct, by decide +kernel, (hpairing docs).2.1, hkeys, hnamed,
    (hpairing named).2.2 hkeys hnamed _ (List.reverse_perm named).symm⟩

end BlitzLens.Signature
