import BlitzLens.Proofs.Extraction.Likeness
import BlitzLens.Proofs.Query.Highlight
import BlitzLens.Scope.Member
import Mathlib.Data.List.DropRight

/-!
# Resolution does not fail and stays among the symbols

The words that are looked at on the way to a field lie on the line (`Line.Holds`), so a word of a
line is resolved, and a word behind a field marker is resolved to a field, without failure
(`Scope.exists_resolve?`, `Scope.exists_resolveMember?`). Both find one of the symbols or a variable
that one of them owns.
-/

namespace BlitzLens

/-- A symbol and the variables that it owns. -/
def Symbol.withMembers (symbol : Symbol) : List Symbol :=
  symbol :: symbol.members.map .ofVariable

/-- A symbol is one of the symbols and their variables. -/
theorem Symbol.mem_withMembers {symbols : List Symbol} {symbol : Symbol} (h : symbol ∈ symbols) :
    symbol ∈ symbols.flatMap withMembers :=
  List.mem_flatMap.2 ⟨symbol, h, List.mem_cons_self⟩

/-- A variable that a symbol owns is one of the symbols and their variables. -/
theorem Symbol.member_mem_withMembers {symbols : List Symbol} {owner : Symbol} {v : Variable}
    (h : owner ∈ symbols) (hv : v ∈ owner.members) :
    .ofVariable v ∈ symbols.flatMap withMembers :=
  List.mem_flatMap.2 ⟨owner, h, List.mem_cons_of_mem _ (List.mem_map_of_mem hv)⟩

namespace Line

variable {line : Text} {column : Nat} {word : Word}

/-- A word stands between two columns of a line that are counted from its start. -/
def Holds (line : Text) (word : Word) : Prop :=
  ∃ start stop : Nat, word.start = start ∧ word.stop = stop ∧ start ≤ line.length

/-- A guard accepts or rejects a word that a line holds. -/
theorem Holds.exists_accepts (h : Holds line word) (guard : Guard) :
    ∃ accepted, guard.accepts line word.start word.stop = .ok accepted := by
  obtain ⟨start, stop, hstart, hstop, hinside⟩ := h
  rw [hstart, hstop]
  exact guard.exists_accepts_eq_ok hinside stop

/-- A word that touches a column is held by the line. -/
theorem holds_of_wordTouching? (h : wordTouching? line column = some word) : Holds line word := by
  rw [wordTouching?] at h
  split_ifs at h
  cases h
  have hleft : (Text.takeEndWhile isWordChar (line.take column)).length ≤
      (line.take column).length :=
    (List.rtakeWhile_suffix isWordChar _).length_le
  rw [List.length_take] at hleft
  refine ⟨min column line.length - (Text.takeEndWhile isWordChar (line.take column)).length,
    min column line.length + (Text.wordRun (line.drop column)).length, ?_, ?_, ?_⟩
  · dsimp only
    omega
  · rfl
  · omega

/-- The word before a column of a line is found or not, without failure. -/
theorem exists_wordBefore? (h : column ≤ line.length) :
    ∃ found, wordBefore? line (column : Int) = .ok found ∧
      ∀ word, found = some word → Holds line word := by
  have hinside : ¬line.length < column := Nat.not_lt.2 h
  change ∃ found, (if line.length < column then _ else _) = _ ∧ _
  rw [if_neg hinside]
  cases (Text.dropEndWhile isSpaceOrTab (line.take column)).getLast? with
  | none => exact ⟨none, rfl, nofun⟩
  | some c =>
    refine ⟨_, rfl, fun word hword => ?_⟩
    split_ifs at hword
    exact holds_of_wordTouching? hword

end Line

namespace Scope

open Line

variable {symbols : List Symbol} {path line : Text} {number : Int} {column : Nat} {word : Word}

/-- The field marker before a column of a line is found or not, without failure, and it stands in
front of the column. -/
theorem exists_memberMarker? (h : column ≤ line.length) :
    ∃ found, memberMarker? line (column : Int) = .ok found ∧
      ∀ marker, found = some marker → marker ≤ column := by
  have hinside : ¬line.length < column := Nat.not_lt.2 h
  change ∃ found, (if line.length < column then _ else _) = _ ∧ _
  rw [if_neg hinside]
  refine ⟨_, rfl, fun marker hmarker => ?_⟩
  split_ifs at hmarker
  cases hmarker
  have hbare : (Text.dropEndWhile isSpaceOrTab (line.take column)).length ≤
      (line.take column).length :=
    (List.rdropWhile_prefix isSpaceOrTab _).length_le
  rw [List.length_take] at hbare
  omega

/-- In front of a word that is found from the end of the line no field marker is found. -/
theorem memberMarker?_of_wordFromEnd? {back : Nat} (h : wordFromEnd? line (back + 1) = some word) :
    memberMarker? line word.start = .ok none := by
  rw [wordFromEnd?] at h
  split_ifs at h
  · cases h
    rfl
  · cases h
    rfl

/-- What stands in front of an opening parenthesis is a part of the text. -/
theorem openingBack?_le {depth n : Nat} {text : Text} (h : openingBack? depth text = some n) :
    n ≤ text.length := by
  induction text generalizing depth with
  | nil => cases h
  | cons c text ih =>
    rw [openingBack?] at h
    rw [List.length_cons]
    split_ifs at h
    · exact Nat.le_succ_of_le (ih h)
    · cases h
      exact Nat.le_succ _
    · exact Nat.le_succ_of_le (ih h)
    · exact Nat.le_succ_of_le (ih h)

/-- A group at the end of a text starts in the text. -/
theorem endBeforeGroup?_le {text : Text} {n : Nat} (h : endBeforeGroup? text = some n) :
    n ≤ text.length := by
  rw [endBeforeGroup?] at h
  split_ifs at h
  · exact (openingBack?_le h).trans_eq List.length_reverse
  · cases h
    exact Nat.le_refl _

/-- The group in front of a column, apart from the blanks behind it, starts on the line. -/
theorem endBeforeGroup?_take_le {stop : Nat}
    (h : endBeforeGroup? (Text.dropEndWhile isSpaceOrTab (line.take column)) = some stop) :
    stop ≤ line.length := by
  refine (endBeforeGroup?_le h).trans ?_
  refine (List.rdropWhile_prefix isSpaceOrTab _).length_le.trans ?_
  exact (List.take_sublist column line).length_le

/-- The words of an expression are found or not, without failure, and the line holds them. -/
theorem exists_chainFrom? (h : column ≤ line.length) {chain : List Word}
    (hchain : ∀ word ∈ chain, Holds line word) :
    ∃ found, chainFrom? line column chain = .ok found ∧
      ∀ words, found = some words → ∀ word ∈ words, Holds line word := by
  induction column using Nat.strongRecOn generalizing chain with
  | ind column ih =>
    rw [chainFrom?, if_neg (Nat.not_lt.2 h)]
    cases hend : endBeforeGroup? (Text.dropEndWhile isSpaceOrTab (line.take column)) with
    | none => exact ⟨none, rfl, nofun⟩
    | some stop =>
      have hstop := endBeforeGroup?_take_le hend
      obtain ⟨before, hbefore, hholds⟩ := exists_wordBefore? hstop
      have hbefore : wordBefore? line stop = .ok before := hbefore
      simp only [hbefore]
      cases before with
      | none => exact ⟨none, rfl, nofun⟩
      | some word =>
        have hword := hholds word rfl
        have hchain' : ∀ word' ∈ word :: chain, Holds line word' :=
          List.forall_mem_cons.2 ⟨hword, hchain⟩
        obtain ⟨start, -, hstart, -, hinside⟩ := hword
        obtain ⟨marker, hmarker, -⟩ := exists_memberMarker? hinside
        rw [← hstart] at hmarker
        change ∃ found, (memberMarker? line word.start >>= _) = _ ∧ _
        rw [hmarker]
        cases marker with
        | none =>
          refine ⟨some (word :: chain), rfl, fun words hwords => ?_⟩
          cases hwords
          exact hchain'
        | some marker =>
          change ∃ found, (if marker < column then _ else _) = _ ∧ _
          split_ifs with hlt
          · exact ih marker hlt (Nat.le_trans (Nat.le_of_lt hlt) h) hchain'
          · refine ⟨some (word :: chain), rfl, fun words hwords => ?_⟩
            cases hwords
            exact hchain'

/-! ## Symbols of names -/

/-- A type that is found by its name is one of the symbols. -/
theorem mem_of_findType? {name : Option Text} {t : RecordType}
    (h : findType? symbols name = some t) : .ofType t ∈ symbols := by
  rw [findType?.eq_def] at h
  split at h
  · cases h
  · split_ifs at h
    exact mem_filterMap_asType?.1 (List.mem_of_find?_eq_some h)

/-- Fields lead from one of the types to another. -/
theorem mem_of_followFields? {owner : Option RecordType} {words : List Word} {t : RecordType}
    (howner : ∀ u, owner = some u → .ofType u ∈ symbols)
    (h : followFields? symbols owner words = some t) : .ofType t ∈ symbols := by
  induction words generalizing owner with
  | nil => exact howner t h
  | cons word words ih =>
    rw [followFields?] at h
    split at h
    · cases h
    · exact ih (fun u hu => mem_of_findType? hu) h

/-- The symbols that may be referenced on a line are symbols or variables that they own. -/
theorem mem_of_mem_visible {withFields : Bool} {symbol : Symbol}
    (h : symbol ∈ visible symbols path number withFields) :
    symbol ∈ symbols.flatMap Symbol.withMembers := by
  rw [visible, List.mem_append, List.mem_append] at h
  rcases h with (htop | hfield) | hlocal
  · exact Symbol.mem_withMembers (List.mem_of_mem_filter htop)
  · split_ifs at hfield
    · obtain ⟨v, hv, rfl⟩ := List.mem_map.1 hfield
      obtain ⟨t, ht, hv⟩ := List.mem_flatMap.1 hv
      exact Symbol.member_mem_withMembers
        (mem_filterMap_asType?.1 (List.mem_of_mem_filter ht)) hv
    · cases hfield
  · split at hlocal
    · next f hf =>
      obtain ⟨v, hv, rfl⟩ := List.mem_map.1 hlocal
      exact Symbol.member_mem_withMembers
        (mem_filterMap_asFunction?.1 (List.mem_of_find?_eq_some hf)) (List.mem_of_mem_filter hv)
    · cases hlocal

/-! ## Resolution -/

/-- A word that a line holds is resolved or not, without failure, and what it is resolved to has its
name. -/
theorem exists_resolve? (h : Holds line word) (symbols : List Symbol) (path : Text) (number : Int) :
    ∃ found, resolve? symbols path number line word = .ok found ∧
      ∀ symbol, found = some symbol →
        symbol ∈ symbols.flatMap Symbol.withMembers ∧ symbol.key = word.text.lower := by
  obtain ⟨found, hfound⟩ := exists_choose_eq_ok h.exists_accepts none
    ((visible symbols path number true).filter fun symbol => symbol.key == word.text.lower)
  refine ⟨found, hfound, fun symbol hsymbol => ?_⟩
  rw [hsymbol] at hfound
  obtain ⟨hvisible, hkey⟩ := List.mem_filter.1 ((mem_of_choose hfound).resolve_left nofun)
  exact ⟨mem_of_mem_visible hvisible, beq_iff_eq.1 hkey⟩

/-- The type of the expression left of a field marker is one of the symbols. -/
theorem mem_of_memberOwner? {marker : Int} {t : RecordType}
    (h : memberOwner? symbols path number line marker = .ok (some t)) : .ofType t ∈ symbols := by
  obtain ⟨chain, -, h⟩ := exists_of_bind_eq_ok h
  split at h
  · obtain ⟨symbol, -, h⟩ := exists_of_bind_eq_ok h
    cases symbol with
    | none => cases h
    | some symbol => exact mem_of_followFields? (fun u hu => mem_of_findType? hu) (Except.ok.inj h)
  · cases h

/-- A word behind a field marker is resolved to a field of its name. -/
theorem exists_type_of_resolveMember? {v : Variable}
    (h : resolveMember? symbols path number line word = .ok (some v)) :
    ∃ t, .ofType t ∈ symbols ∧ v ∈ t.fields ∧ v.key = word.text.lower := by
  obtain ⟨marker, -, h⟩ := exists_of_bind_eq_ok h
  cases marker with
  | none => cases h
  | some marker =>
    obtain ⟨owner, howner, h⟩ := exists_of_bind_eq_ok h
    obtain ⟨t, rfl, hfield⟩ := Option.bind_eq_some_iff.1 (Except.ok.inj h)
    rw [findField?] at hfield
    have hkey := List.find?_some hfield
    exact ⟨t, mem_of_memberOwner? howner, List.mem_of_find?_eq_some hfield, beq_iff_eq.1 hkey⟩

/-- The type of the expression left of a field marker is found or not, without failure. -/
theorem exists_memberOwner? (h : column ≤ line.length) (symbols : List Symbol) (path : Text)
    (number : Int) :
    ∃ owner, memberOwner? symbols path number line (column : Int) = .ok owner := by
  obtain ⟨chain, hchain, hholds⟩ : ∃ found, memberChain? line (column : Int) = .ok found ∧
      ∀ words, found = some words → ∀ word ∈ words, Holds line word :=
    exists_chainFrom? h nofun
  rw [memberOwner?, hchain]
  match chain, hholds with
  | none, _ => exact ⟨none, rfl⟩
  | some [], _ => exact ⟨none, rfl⟩
  | some (root :: words), hholds =>
    obtain ⟨found, hfound, -⟩ :=
      exists_resolve? (hholds _ rfl root List.mem_cons_self) symbols path number
    change ∃ owner, (resolve? symbols path number line root >>= _) = _
    rw [hfound]
    cases found <;> exact ⟨_, rfl⟩

/-- A word behind a field marker is resolved to the field of its name of the type left of the
marker. -/
theorem resolveMember?_of_owner {marker : Nat} {owner : Option RecordType}
    (hmarker : memberMarker? line word.start = .ok (some marker))
    (howner : memberOwner? symbols path number line (marker : Int) = .ok owner) :
    resolveMember? symbols path number line word =
      .ok (owner.bind fun owner => findField? owner word.text) := by
  rw [resolveMember?, hmarker]
  change (memberOwner? symbols path number line (marker : Int) >>= _) = _
  rw [howner]
  rfl

/-- A word that a line holds is resolved to a field or not, without failure. -/
theorem exists_resolveMember? (h : Holds line word) (symbols : List Symbol) (path : Text)
    (number : Int) : ∃ found, resolveMember? symbols path number line word = .ok found := by
  obtain ⟨start, -, hstart, -, hinside⟩ := h
  obtain ⟨marker, hmarker, hle⟩ := exists_memberMarker? hinside
  rw [← hstart] at hmarker
  cases marker with
  | none =>
    rw [resolveMember?, hmarker]
    exact ⟨none, rfl⟩
  | some marker =>
    obtain ⟨owner, howner⟩ :=
      exists_memberOwner? (Nat.le_trans (hle marker rfl) hinside) symbols path number
    exact ⟨_, resolveMember?_of_owner hmarker howner⟩

end Scope

end BlitzLens
