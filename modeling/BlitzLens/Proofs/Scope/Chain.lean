import BlitzLens.Proofs.Line.Caret
import BlitzLens.Proofs.Scope.Member
import BlitzLens.Proofs.Symbol.Guard

/-!
# Words in front of a field marker

The words that lead to a field are read from right to left, one marker after the other, while a
reader sees them from left to right. `Line.EndsInChain` is what the reader sees: a text that ends
with words, each with a field marker behind it. The words that are read are the ones that are seen,
wherever they stand and whatever is behind them (`Scope.memberChain?_eq`). The types that they lead
through are declared in their order (`Scope.Leads`).

## Main definitions

* `Line.EndsInChain`: a text ends with words that lead to a field.
* `Scope.Leads`: from the name of a type, words lead through fields to a type.

## Main results

* `Scope.chainFrom?_eq`: reading backwards finds the words.
* `Scope.followFields?_eq_some_iff`: following fields reaches the type that they lead to.
* `Scope.exists_memberOwner?_eq`: the two together, for the expression in front of a field marker.
-/

namespace BlitzLens

open Line

/-- A text ends with words, and behind each of them stands a field marker, with nothing but spaces
and tabs around it. The first word does not continue another one and is no field. -/
inductive Line.EndsInChain : Text → List Word → Prop
  | root {lead word gap : Text} (hlead : Text.endsWord lead = false)
      (hfirst : (Text.dropEndWhile isSpaceOrTab lead).getLast? ≠ some '\\')
      (hword : Text.IsWord word) (hgap : ∀ c ∈ gap, isSpaceOrTab c = true) :
      EndsInChain (lead ++ (word ++ (gap ++ ['\\']))) [.ofText lead.length word]
  | field {before gap word gap' : Text} {words : List Word} (hbefore : EndsInChain before words)
      (hgap : ∀ c ∈ gap, isSpaceOrTab c = true) (hword : Text.IsWord word)
      (hgap' : ∀ c ∈ gap', isSpaceOrTab c = true) :
      EndsInChain (before ++ gap ++ (word ++ (gap' ++ ['\\'])))
        (words ++ [.ofText (before ++ gap).length word])

namespace Line

variable {before gap word after : Text} {words : List Word}

/-- No word ends in spaces and tabs. -/
theorem endsWord_of_isSpaceOrTab (h : ∀ c ∈ gap, isSpaceOrTab c = true) :
    Text.endsWord gap = false :=
  Text.endsWord_of_isBlank fun c hc => isBlank_of_isSpaceOrTab (h c hc)

/-- No word starts in spaces and tabs in front of a field marker. -/
theorem startsWord_gap_marker (h : ∀ c ∈ gap, isSpaceOrTab c = true) (after : Text) :
    Text.startsWord (gap ++ ('\\' :: after)) = false := by
  refine Text.startsWord_append_eq_false ?_ (by simp; decide)
  exact Text.startsWord_of_isBlank fun c hc => isBlank_of_isSpaceOrTab (h c hc)

/-- A text that ends with words that lead to a field ends with a field marker. -/
theorem EndsInChain.exists_eq_concat (h : EndsInChain before words) :
    ∃ front, before = front ++ ['\\'] := by
  cases h with
  | @root lead word gap => exact ⟨lead ++ (word ++ gap), by simp⟩
  | @field before gap word gap' => exact ⟨before ++ gap ++ (word ++ gap'), by simp⟩

/-- Behind a field marker and a gap a new word starts. -/
theorem EndsInChain.endsWord_append_gap (h : EndsInChain before words)
    (hgap : ∀ c ∈ gap, isSpaceOrTab c = true) : Text.endsWord (before ++ gap) = false := by
  obtain ⟨front, rfl⟩ := h.exists_eq_concat
  refine Text.endsWord_append_eq_false ?_ (endsWord_of_isSpaceOrTab hgap)
  rw [Text.endsWord_concat]
  decide

/-- The word at the end of a text that is cut off a line is found. -/
theorem wordBefore?_eq (hbefore : Text.endsWord before = false) (hword : Text.IsWord word)
    (hafter : Text.startsWord after = false) :
    wordBefore? (before ++ (word ++ after)) ((before ++ word).length : Nat) =
      .ok (some (.ofText before.length word)) := by
  have hpositive := hword.length_pos
  have hinside : ¬(before ++ (word ++ after)).length < (before ++ word).length := by
    simp only [List.length_append]
    omega
  have htake : (before ++ (word ++ after)).take (before ++ word).length = before ++ word := by
    rw [← List.append_assoc, List.take_left]
  change (if _ < _ then _ else _) = _
  rw [if_neg hinside, htake,
    Text.dropEndWhile_append_word (fun _ hc => isBlank_of_isSpaceOrTab hc) hword]
  have htouching : wordTouching? (before ++ (word ++ after)) ((before ++ word).length - 1) =
      some (.ofText before.length word) := by
    refine (StandsAt.of_append hbefore hafter).wordTouching?_eq hword ?_ ?_ <;>
    · rw [List.length_append]
      omega
  -- the caret is moved onto the last character, which is one of the word
  obtain ⟨c, hlast, hchar⟩ := hword.exists_getLast? before
  simp only [hlast, hchar, if_true, htouching]

end Line

namespace Scope

variable {symbols : List Symbol} {path : Text} {number : Int} {before gap word after : Text}
  {words chain : List Word}

/-- Whether a field marker stands in front of a column is seen from the text before it. -/
theorem memberMarker?_append (before after : Text) :
    memberMarker? (before ++ after) (before.length : Nat) =
      .ok (if (Text.dropEndWhile isSpaceOrTab before).getLast? == some '\\' then
        some ((Text.dropEndWhile isSpaceOrTab before).length - 1) else none) := by
  have hinside : ¬(before ++ after).length < before.length := by
    rw [List.length_append]
    omega
  change (if _ < _ then _ else _) = _
  rw [if_neg hinside, List.take_left]

/-- Behind words that lead to a field the last field marker is found. -/
theorem memberMarker?_of_endsInChain (h : EndsInChain before words)
    (hgap : ∀ c ∈ gap, isSpaceOrTab c = true) (after : Text) :
    memberMarker? (before ++ gap ++ after) ((before ++ gap).length : Nat) =
      .ok (some (before.length - 1)) := by
  obtain ⟨front, rfl⟩ := h.exists_eq_concat
  have hbare : Text.dropEndWhile isSpaceOrTab (front ++ ['\\']) = front ++ ['\\'] :=
    List.rdropWhile_concat_neg isSpaceOrTab front '\\' (by decide)
  rw [memberMarker?_append, Text.dropEndWhile_append hgap, hbare]
  simp

/-- In front of a word there is no group in parentheses. -/
theorem endBeforeGroup?_append_word (hword : Text.IsWord word) :
    endBeforeGroup? (before ++ word) = some (before ++ word).length := by
  obtain ⟨c, hlast, hchar⟩ := hword.exists_getLast? before
  have hparen : ¬(some c == some ')') = true := by
    intro heq
    cases beq_iff_eq.1 heq
    revert hchar
    decide
  rw [endBeforeGroup?, hlast, if_neg hparen]

/-- A word in front of a field marker is read, and reading goes on at the marker before it. -/
theorem chainFrom?_word {line : Text} (hline : line = before ++ (word ++ (gap ++ ('\\' :: after))))
    (hbefore : Text.endsWord before = false) (hword : Text.IsWord word)
    (hgap : ∀ c ∈ gap, isSpaceOrTab c = true) (chain : List Word) :
    chainFrom? line (before ++ (word ++ gap)).length chain = (do
      match ← memberMarker? line (before.length : Nat) with
      | none => return some (.ofText before.length word :: chain)
      | some marker =>
        if marker < (before ++ (word ++ gap)).length then
          chainFrom? line marker (.ofText before.length word :: chain)
        else return some (.ofText before.length word :: chain)) := by
  have hsplit : line = before ++ (word ++ gap) ++ ('\\' :: after) := by simp [hline]
  have hinside : ¬line.length < (before ++ (word ++ gap)).length := by
    rw [hsplit, List.length_append]
    omega
  have htake : line.take (before ++ (word ++ gap)).length = before ++ word ++ gap := by
    rw [hsplit, List.take_left, List.append_assoc]
  have hfound : wordBefore? line ((before ++ word).length : Nat) =
      .ok (some (.ofText before.length word)) := by
    rw [hline]
    exact wordBefore?_eq hbefore hword (startsWord_gap_marker hgap after)
  rw [chainFrom?, if_neg hinside, htake, Text.dropEndWhile_append hgap,
    Text.dropEndWhile_append_word (fun _ hc => isBlank_of_isSpaceOrTab hc) hword,
    endBeforeGroup?_append_word hword]
  simp only [hfound]
  rfl

/-- The words in front of a field marker are read from right to left, whatever is behind it. -/
theorem chainFrom?_eq (h : EndsInChain before words) (after : Text) (chain : List Word) :
    chainFrom? (before ++ after) (before.length - 1) chain = .ok (some (words ++ chain)) := by
  -- reading starts with the last word, so the words that are read already are in `chain`, and what
  -- stands behind the text grows with them
  induction h generalizing after chain with
  | @root lead word gap hlead hfirst hword hgap =>
    have hlength : (lead ++ (word ++ (gap ++ ['\\']))).length - 1 =
        (lead ++ (word ++ gap)).length := by
      simp only [List.length_append, List.length_singleton]
      omega
    have hline : lead ++ (word ++ (gap ++ ['\\'])) ++ after =
        lead ++ (word ++ (gap ++ ('\\' :: after))) := by simp
    have hnone := memberMarker?_append lead (word ++ (gap ++ ('\\' :: after)))
    rw [if_neg (by simpa using hfirst), ← hline] at hnone
    -- no marker stands in front of the first word, so reading ends with it
    rw [hlength, chainFrom?_word hline hlead hword hgap, hnone]
    rfl
  | @field before gap word gap' words hbefore hgap hword hgap' ih =>
    have hlength : (before ++ gap ++ (word ++ (gap' ++ ['\\']))).length - 1 =
        (before ++ gap ++ (word ++ gap')).length := by
      simp only [List.length_append, List.length_singleton]
      omega
    have hline : before ++ gap ++ (word ++ (gap' ++ ['\\'])) ++ after =
        before ++ gap ++ (word ++ (gap' ++ ('\\' :: after))) := by simp
    have hmarker := memberMarker?_of_endsInChain hbefore hgap (word ++ (gap' ++ ('\\' :: after)))
    rw [← hline] at hmarker
    have hlt : before.length - 1 < (before ++ gap ++ (word ++ gap')).length := by
      have := hword.length_pos
      simp only [List.length_append]
      omega
    -- the marker in front of the word is the one that ends the text of the words before it
    have hrest := ih (gap ++ (word ++ (gap' ++ ('\\' :: after))))
      (.ofText (before ++ gap).length word :: chain)
    rw [← List.append_assoc before, ← hline] at hrest
    rw [hlength, chainFrom?_word hline (hbefore.endsWord_append_gap hgap) hword hgap', hmarker]
    change (if before.length - 1 < _ then _ else _) = _
    rw [if_pos hlt, hrest, List.append_assoc, List.singleton_append]

/-! ## Following the types -/

/-- An element is the first one of a list with its key. -/
def IsFirst {α : Type} (keyOf : α → Text) (key : Text) (list : List α) (a : α) : Prop :=
  ∃ front behind, list = front ++ a :: behind ∧ keyOf a = key ∧ ∀ b ∈ front, keyOf b ≠ key

/-- A type is the first one with a name; nothing is named by the empty text. -/
def IsTypeNamed (symbols : List Symbol) (name : Option Text) (t : RecordType) : Prop :=
  ∃ text, name = some text ∧ text ≠ [] ∧
    IsFirst (fun u : RecordType => u.key) text.lower (symbols.filterMap Symbol.asType?) t

/-- From the name of a type, words lead to a type: without words it is the type with the name, and
each word names a field of the type that is reached, from whose type the next words lead on. -/
inductive Leads (symbols : List Symbol) : Option Text → List Word → RecordType → Prop
  | here {name : Option Text} {t : RecordType} (h : IsTypeNamed symbols name t) :
      Leads symbols name [] t
  | through {name : Option Text} {owner t : RecordType} {field : Variable} {word : Word}
      {words : List Word} (howner : IsTypeNamed symbols name owner)
      (hfield : IsFirst (fun v : Variable => v.key) word.text.lower owner.fields field)
      (hrest : Leads symbols field.typeName words t) : Leads symbols name (word :: words) t

/-- The first element with a key is the one that a search for the key finds. -/
theorem find?_eq_some_iff_isFirst {α : Type} {keyOf : α → Text} {key : Text} {list : List α}
    {a : α} : list.find? (fun b => keyOf b == key) = some a ↔ IsFirst keyOf key list a := by
  rw [List.find?_eq_some_iff_append]
  constructor
  · rintro ⟨ha, front, behind, hlist, hfront⟩
    refine ⟨front, behind, hlist, beq_iff_eq.1 ha, fun b hb hkey => ?_⟩
    have := hfront b hb
    simp [hkey] at this
  · rintro ⟨front, behind, hlist, ha, hfront⟩
    refine ⟨beq_iff_eq.2 ha, front, behind, hlist, fun b hb => ?_⟩
    simpa using hfront b hb

namespace IsFirst

variable {α : Type} {keyOf : α → Text} {key : Text} {list : List α} {a : α}

/-- The first element with a key stays the first one when the list goes on. -/
theorem append (h : IsFirst keyOf key list a) (more : List α) :
    IsFirst keyOf key (list ++ more) a := by
  obtain ⟨front, behind, rfl, hkey, hfront⟩ := h
  exact ⟨front, behind ++ more, by simp, hkey, hfront⟩

/-- An element with a new key is the first one with it. -/
theorem concat (hnew : ∀ b ∈ list, keyOf b ≠ keyOf a) :
    IsFirst keyOf (keyOf a) (list ++ [a]) a :=
  ⟨list, [], rfl, rfl, hnew⟩

/-- The first element with a key is in the list. -/
theorem mem (h : IsFirst keyOf key list a) : a ∈ list := by
  obtain ⟨front, behind, rfl, -, -⟩ := h
  exact List.mem_append_right _ List.mem_cons_self

end IsFirst

/-- A type is found by its name if it is the first one with the name. -/
theorem findType?_eq_some_iff {name : Option Text} {t : RecordType} :
    findType? symbols name = some t ↔ IsTypeNamed symbols name t := by
  cases name with
  | none =>
    constructor
    · intro h
      cases h
    · rintro ⟨_, hname, -⟩
      cases hname
  | some text =>
    by_cases hempty : text = []
    · subst hempty
      constructor
      · intro h
        cases h
      · rintro ⟨_, hname, hne, -⟩
        exact absurd (Option.some.inj hname).symm hne
    · rw [findType?, if_neg (by rwa [List.isEmpty_iff]), find?_eq_some_iff_isFirst]
      constructor
      · intro h
        exact ⟨text, rfl, hempty, h⟩
      · rintro ⟨_, hname, -, h⟩
        cases hname
        exact h

/-- Following fields reaches the type that they lead to. -/
theorem followFields?_eq_some_iff {name : Option Text} {words : List Word} {t : RecordType} :
    followFields? symbols (findType? symbols name) words = some t ↔ Leads symbols name words t := by
  -- a type may be reached again, so it is the words that become fewer
  induction words generalizing name with
  | nil =>
    rw [followFields?, findType?_eq_some_iff]
    constructor
    · intro h
      exact .here h
    · intro h
      cases h with
      | here h => exact h
  | cons word words ih =>
    constructor
    · intro h
      rw [followFields?] at h
      cases hfield : (findType? symbols name).bind fun owner => findField? owner word.text with
      | none =>
        rw [hfield] at h
        cases h
      | some field =>
        rw [hfield] at h
        obtain ⟨owner, howner, hfield⟩ := Option.bind_eq_some_iff.1 hfield
        exact .through (findType?_eq_some_iff.1 howner) (find?_eq_some_iff_isFirst.1 hfield)
          (ih.1 h)
    · intro h
      cases h with
      | @through _ owner _ field _ _ howner hfield hrest =>
        have hfound : findField? owner word.text = some field :=
          find?_eq_some_iff_isFirst.2 hfield
        rw [followFields?, findType?_eq_some_iff.2 howner, Option.bind_some, hfound]
        exact ih.2 hrest

/-! ## The type in front of a field marker -/

/-- A word is resolved to a symbol, and from the type of its value words lead to a type. -/
def LeadsFrom (symbols : List Symbol) (path : Text) (number : Int) (line : Text) (root : Word)
    (words : List Word) (t : RecordType) : Prop :=
  ∃ symbol, resolve? symbols path number line root = .ok (some symbol) ∧
    Leads symbols (typeNameOf? symbol) words t

/-- Words lead to one of the types. -/
theorem LeadsFrom.mem {line : Text} {root : Word} {t : RecordType}
    (h : LeadsFrom symbols path number line root words t) : .ofType t ∈ symbols := by
  obtain ⟨symbol, -, hleads⟩ := h
  exact mem_of_followFields? (fun u hu => mem_of_findType? hu) (followFields?_eq_some_iff.2 hleads)

/-- In front of a field marker the type is found that the words lead to, and none if they lead
nowhere. -/
theorem exists_memberOwner?_eq {root : Word} (h : EndsInChain before (root :: words))
    (symbols : List Symbol) (path : Text) (number : Int) (after : Text) :
    ∃ owner, memberOwner? symbols path number (before ++ after) ((before.length - 1 : Nat) : Int) =
        .ok owner ∧
      ∀ t, owner = some t ↔ LeadsFrom symbols path number (before ++ after) root words t := by
  have hinside : before.length - 1 ≤ (before ++ after).length := by
    rw [List.length_append]
    omega
  have hchain : memberChain? (before ++ after) ((before.length - 1 : Nat) : Int) =
      .ok (some (root :: words)) := by
    have := chainFrom?_eq h after []
    rwa [List.append_nil] at this
  -- the words that are read stand on the line, so the first one is looked up without failure
  have hroot : Holds (before ++ after) root := by
    obtain ⟨found, hfound, hholds⟩ :=
      exists_chainFrom? hinside (List.forall_mem_nil (Holds (before ++ after)))
    obtain rfl : found = some (root :: words) := Except.ok.inj (hfound.symm.trans hchain)
    exact hholds _ rfl root List.mem_cons_self
  obtain ⟨symbol, hsymbol, -⟩ := exists_resolve? hroot symbols path number
  rw [memberOwner?, hchain]
  change ∃ owner, (resolve? symbols path number (before ++ after) root >>= _) = _ ∧ _
  rw [hsymbol]
  unfold LeadsFrom
  rw [hsymbol]
  cases symbol with
  | none =>
    refine ⟨none, rfl, fun t => ⟨fun hfound => ?_, ?_⟩⟩
    · cases hfound
    · rintro ⟨symbol, hnone, -⟩
      cases hnone
  | some symbol =>
    refine ⟨_, rfl, fun t => followFields?_eq_some_iff.trans ⟨fun hleads => ?_, ?_⟩⟩
    · exact ⟨symbol, rfl, hleads⟩
    · rintro ⟨_, hsome, hleads⟩
      cases hsome
      exact hleads

end Scope

end BlitzLens
