import BlitzLens.Proofs.Extraction.OwnDocument
import BlitzLens.Proofs.Scope.Chain
import BlitzLens.Query.Completion
import Mathlib.Data.List.Nodup

/-!
# Completion where any word may stand

Away from field markers and type introductions every visible symbol and every built-in is offered,
each name once. The symbols are gone through in the order in which they are considered, and a name
keeps the place at which it is met first; it shows the first symbol, or if that is a variable, the
last variable (`Completion.Chosen`). Built-ins follow for the names that are left, the first stub of
each name (`Completion.mem_newStubs_iff`). So nothing is lost and nothing is offered twice
(`Completion.everything_listsAll`).
-/

namespace BlitzLens

/-! ## Names and keys -/

/-- Every symbol, and every variable that one owns, is looked up by its name in lower case. -/
def Scope.KeyedByName (symbols : List Symbol) : Prop :=
  ∀ symbol ∈ symbols.flatMap Symbol.withMembers, symbol.key = symbol.declared.name.lower

/-- What a pass finds is looked up by its name in lower case. -/
theorem extract_keyedByName {disk : Disk} {rules : IncludeRules} {path text : Text}
    {found : List Symbol} (h : (extract disk rules path text).1 = .ok found) :
    Scope.KeyedByName found := by
  rw [extract_fst] at h
  intro symbol hmem
  obtain ⟨owner, howner, hsymbol⟩ := List.mem_flatMap.1 hmem
  obtain ⟨last, -, hplaced⟩ := Visit.exists_origin h howner
  have hdeclared : symbol.declared ∈ owner.declarations := by
    rcases List.mem_cons.1 hsymbol with rfl | hmember
    · exact List.mem_cons_self
    · obtain ⟨v, hv, rfl⟩ := List.mem_map.1 hmember
      exact List.mem_cons_of_mem _ (List.mem_map_of_mem hv)
  exact (hplaced.of_mem_declarations hdeclared).key

namespace Completion

/-! ## The symbol that a name shows -/

/-- A symbol is the one that is shown for its name: the first visible symbol of the name, or if that
is a variable, the last visible variable of the name. -/
inductive IsShown (visible : List Symbol) (symbol : Symbol) : Prop
  | first (hfirst : Scope.IsFirst Symbol.key symbol.key visible symbol)
      (hkind : symbol.isVariable = false) : IsShown visible symbol
  | last {first : Symbol} (hfirst : Scope.IsFirst Symbol.key symbol.key visible first)
      (hkind : first.isVariable = true)
      (hlast : (visible.filter fun other => other.isVariable && other.key == symbol.key).getLast? =
        some symbol) : IsShown visible symbol

namespace IsShown

variable {visible : List Symbol} {symbol other : Symbol}

/-- What is shown is visible. -/
theorem mem (h : IsShown visible symbol) : symbol ∈ visible := by
  cases h with
  | first hfirst => exact hfirst.mem
  | last _ _ hlast => exact List.mem_of_mem_filter (List.mem_of_getLast? hlast)

/-- A symbol stays shown unless it and the next symbol are variables of one name. -/
theorem keep (h : IsShown visible symbol)
    (hother : other.key = symbol.key → (symbol.isVariable && other.isVariable) = false) :
    IsShown (visible ++ [other]) symbol := by
  cases h with
  | first hfirst hkind => exact .first (hfirst.append _) hkind
  | @last first hfirst hkind hlast =>
    refine .last (hfirst.append _) hkind ?_
    -- the next symbol is none of the variables of the name
    have hvariable := List.mem_of_getLast? hlast
    rw [List.mem_filter, Bool.and_eq_true] at hvariable
    have hout : (other.isVariable && other.key == symbol.key) = false := by
      by_cases hkey : other.key = symbol.key
      · have hpair := hother hkey
        rw [hvariable.2.1, Bool.true_and] at hpair
        rw [hpair, Bool.false_and]
      · rw [beq_eq_false_iff_ne.2 hkey, Bool.and_false]
    rw [List.filter_append, List.filter_cons_of_neg (by simp [hout]), List.filter_nil,
      List.append_nil, hlast]

/-- A variable that follows is shown in place of a variable of its name. -/
theorem replace (h : IsShown visible symbol) (hkey : other.key = symbol.key)
    (hsymbol : symbol.isVariable = true) (hother : other.isVariable = true) :
    IsShown (visible ++ [other]) other := by
  have hlast : ((visible ++ [other]).filter fun s => s.isVariable && s.key == other.key).getLast? =
      some other := by
    rw [List.filter_append, List.filter_cons_of_pos (by simp [hother]), List.filter_nil,
      List.getLast?_concat]
  cases h with
  | first hfirst => exact .last (hkey ▸ hfirst.append _) hsymbol hlast
  | @last first hfirst hkind => exact .last (hkey ▸ hfirst.append _) hkind hlast

/-- A symbol of a new name is shown. -/
theorem new (hnew : ∀ s ∈ visible, s.key ≠ other.key) : IsShown (visible ++ [other]) other := by
  have hfirst : Scope.IsFirst Symbol.key other.key (visible ++ [other]) other := .concat hnew
  cases hkind : other.isVariable with
  | false => exact .first hfirst hkind
  | true =>
    refine .last hfirst hkind ?_
    rw [List.filter_append, List.filter_cons_of_pos (by simp [hkind]), List.filter_nil,
      List.getLast?_concat]

end IsShown

/-! ## The choice of symbols -/

/-- One more visible symbol adds its name behind the names that are chosen, unless it is one of
them. -/
theorem map_key_chooseSymbol (chosen : List Symbol) (symbol : Symbol) :
    (chooseSymbol chosen symbol).map Symbol.key =
      if symbol.key ∈ chosen.map Symbol.key then chosen.map Symbol.key
      else chosen.map Symbol.key ++ [symbol.key] := by
  have hknown : (chosen.any fun other => other.key == symbol.key) = true ↔
      symbol.key ∈ chosen.map Symbol.key := by
    simp [List.any_eq_true, List.mem_map]
  rw [chooseSymbol]
  simp only [hknown]
  split_ifs with hmem
  · -- a symbol is replaced by one of its name
    rw [List.map_map]
    refine List.map_congr_left fun other _ => ?_
    rw [Function.comp_apply]
    split_ifs with hreplaced
    · rw [Bool.and_eq_true, Bool.and_eq_true, beq_iff_eq] at hreplaced
      exact hreplaced.1.1.symm
    · rfl
  · rw [List.map_append, List.map_singleton]

/-- The symbols that are chosen for the names of some visible symbols: one for each name, and the
one that the name shows. -/
structure Chosen (visible chosen : List Symbol) : Prop where
  /-- No name is chosen twice. -/
  nodup : (chosen.map Symbol.key).Nodup
  /-- What is chosen is shown. -/
  shown : ∀ symbol ∈ chosen, IsShown visible symbol
  /-- Every name is chosen. -/
  covers : ∀ symbol ∈ visible, symbol.key ∈ chosen.map Symbol.key

namespace Chosen

variable {visible chosen : List Symbol}

/-- Behind one more visible symbol, what is chosen is shown. -/
theorem isShown_of_mem (h : Chosen visible chosen) {symbol other : Symbol}
    (hmem : other ∈ chooseSymbol chosen symbol) : IsShown (visible ++ [symbol]) other := by
  rw [chooseSymbol] at hmem
  split_ifs at hmem with hknown
  · obtain ⟨old, hold, rfl⟩ := List.mem_map.1 hmem
    split_ifs with hreplaced
    · rw [Bool.and_eq_true, Bool.and_eq_true, beq_iff_eq] at hreplaced
      exact (h.shown old hold).replace hreplaced.1.1.symm hreplaced.1.2 hreplaced.2
    · refine (h.shown old hold).keep fun hkey => ?_
      rw [hkey, beq_self_eq_true, Bool.true_and, Bool.not_eq_true] at hreplaced
      exact hreplaced
  · -- the name is new, so it was not even visible before
    have hnew : ∀ old ∈ chosen, old.key ≠ symbol.key := by
      simpa using hknown
    rcases List.mem_append.1 hmem with hold | hsymbol
    · exact (h.shown other hold).keep fun hkey => absurd hkey.symm (hnew other hold)
    · rw [List.mem_singleton.1 hsymbol]
      refine .new fun s hs hkey => ?_
      obtain ⟨old, hold, heq⟩ := List.mem_map.1 (h.covers s hs)
      exact hnew old hold (heq.trans hkey)

/-- One more visible symbol keeps the choice. -/
theorem step (h : Chosen visible chosen) (symbol : Symbol) :
    Chosen (visible ++ [symbol]) (chooseSymbol chosen symbol) := by
  refine ⟨?_, fun _ hmem => h.isShown_of_mem hmem, fun s hs => ?_⟩
  · rw [map_key_chooseSymbol]
    split_ifs with hknown
    · exact h.nodup
    · exact List.Nodup.append h.nodup (List.nodup_singleton _) (List.disjoint_singleton.2 hknown)
  · rw [map_key_chooseSymbol]
    rcases List.mem_append.1 hs with hs | hs
    · split_ifs
      · exact h.covers s hs
      · exact List.mem_append_left _ (h.covers s hs)
    · rw [List.mem_singleton.1 hs]
      split_ifs with hknown
      · exact hknown
      · exact List.mem_append_right _ (List.mem_singleton_self _)

/-- The names that are chosen are those of the visible symbols. -/
theorem mem_keys_iff (h : Chosen visible chosen) {key : Text} :
    key ∈ chosen.map Symbol.key ↔ ∃ symbol ∈ visible, symbol.key = key := by
  constructor
  · intro hkey
    obtain ⟨symbol, hsymbol, rfl⟩ := List.mem_map.1 hkey
    exact ⟨symbol, (h.shown symbol hsymbol).mem, rfl⟩
  · rintro ⟨symbol, hsymbol, rfl⟩
    exact h.covers symbol hsymbol

/-- Going through the visible symbols chooses what their names show. -/
theorem foldl (visible : List Symbol) : Chosen visible (visible.foldl chooseSymbol []) := by
  -- the choice is made symbol by symbol, from the first one on
  induction visible using List.reverseRecOn with
  | nil => exact ⟨List.nodup_nil, List.forall_mem_nil _, List.forall_mem_nil _⟩
  | append_singleton visible symbol ih =>
    rw [List.foldl_append]
    exact ih.step symbol

end Chosen

/-! ## The built-ins -/

/-- The built-ins that are offered are the first ones of the names that are not offered yet. -/
theorem mem_newStubs_iff {seen : List Text} {stubs : List Stub} {stub : Stub} :
    stub ∈ newStubs seen stubs ↔
      stub.key ∉ seen ∧ stubs.find? (fun other => other.key == stub.key) = some stub := by
  induction stubs generalizing seen with
  | nil => exact iff_of_false nofun fun h => nomatch h.2
  | cons first stubs ih =>
    rw [newStubs]
    -- the first stub of a name hides the later ones, and it is hidden by a name that was seen
    by_cases hkey : first.key = stub.key
    · rw [List.find?_cons_of_pos (by simpa using hkey), Option.some.injEq]
      split_ifs with hseen
      · rw [List.contains_iff_mem, hkey] at hseen
        exact iff_of_false (fun hmem => (ih.1 hmem).1 hseen) fun h => h.1 hseen
      · rw [List.contains_iff_mem, hkey] at hseen
        rw [List.mem_cons, ih, hkey]
        constructor
        · rintro (rfl | ⟨hnew, -⟩)
          · exact ⟨hseen, rfl⟩
          · exact absurd List.mem_cons_self hnew
        · rintro ⟨-, rfl⟩
          exact .inl rfl
    · rw [List.find?_cons_of_neg (by simpa using hkey)]
      split_ifs with hseen
      · exact ih
      · have hother : stub ≠ first := fun heq => hkey (heq ▸ rfl)
        rw [List.mem_cons, or_iff_right hother, ih, List.mem_cons, not_or]
        exact and_congr_left' (and_iff_right fun heq => hkey heq.symm)

/-- The names that are offered for the built-ins are those that are not offered yet. -/
theorem mem_keys_newStubs_iff {seen : List Text} {stubs : List Stub} {key : Text} :
    key ∈ (newStubs seen stubs).map Stub.key ↔ key ∉ seen ∧ ∃ stub ∈ stubs, stub.key = key := by
  constructor
  · intro hkey
    obtain ⟨stub, hstub, rfl⟩ := List.mem_map.1 hkey
    obtain ⟨hnew, hfirst⟩ := mem_newStubs_iff.1 hstub
    exact ⟨hnew, stub, List.mem_of_find?_eq_some hfirst, rfl⟩
  · rintro ⟨hnew, stub, hstub, rfl⟩
    -- the stub that is offered is the first one of the name
    have hsome : (stubs.find? fun other => other.key == stub.key).isSome = true :=
      List.find?_isSome.2 ⟨stub, hstub, beq_self_eq_true _⟩
    obtain ⟨first, hfirst⟩ := Option.isSome_iff_exists.1 hsome
    have hkey : first.key = stub.key := by simpa using List.find?_some hfirst
    rw [← hkey] at hnew hfirst ⊢
    exact List.mem_map_of_mem (mem_newStubs_iff.2 ⟨hnew, hfirst⟩)

/-- No name is offered twice for the built-ins. -/
theorem nodup_newStubs (seen : List Text) (stubs : List Stub) :
    ((newStubs seen stubs).map Stub.key).Nodup := by
  induction stubs generalizing seen with
  | nil => exact List.nodup_nil
  | cons first stubs ih =>
    rw [newStubs]
    split_ifs
    · exact ih seen
    · rw [List.map_cons, List.nodup_cons]
      refine ⟨fun hmem => ?_, ih (first.key :: seen)⟩
      -- behind the first stub its name counts as seen
      obtain ⟨stub, hstub, hkey⟩ := List.mem_map.1 hmem
      exact (mem_newStubs_iff.1 hstub).1 (hkey ▸ List.mem_cons_self)

/-! ## Everything that is offered -/

/-- An item shows the name of its symbol. -/
@[simp]
theorem ofSymbol_label (symbol : Symbol) : (ofSymbol symbol).label = symbol.declared.name := by
  cases symbol <;> rfl

/-- An item shows the name of its built-in. -/
@[simp]
theorem ofStub_label (brackets : Bool) (stub : Stub) : (ofStub brackets stub).label = stub.name :=
  rfl

/-- Items list some visible symbols and the built-ins: every name once, the symbols in front. -/
structure ListsAll (visible : List Symbol) (stubs : StubTable) (brackets : Bool)
    (items : List CompletionItem) : Prop where
  /-- No two items show one name. -/
  distinct : (items.map fun item => item.label.lower).Nodup
  /-- The names are those of the visible symbols and of the built-ins. -/
  names : ∀ key, (∃ item ∈ items, item.label.lower = key) ↔
    (∃ symbol ∈ visible, symbol.key = key) ∨ ∃ stub ∈ stubs.stubs, stub.key = key
  /-- The names of visible symbols come first, each with the symbol that it shows, and then other
  names, each with its first stub. -/
  parts : ∃ (shown : List Symbol) (builtIns : List Stub),
    items = shown.map ofSymbol ++ builtIns.map (ofStub brackets) ∧
      (∀ symbol ∈ visible, ∃ other ∈ shown, other.key = symbol.key) ∧
      (∀ symbol ∈ shown, IsShown visible symbol) ∧
      ∀ stub ∈ builtIns, stubs.first? stub.name = some stub

/-- Where any word may stand, every visible name and every built-in is offered once. -/
theorem everything_listsAll {symbols : List Symbol} (h : Scope.KeyedByName symbols)
    (stubs : StubTable) (path : Text) (number : Int) (brackets : Bool) :
    ListsAll (Scope.visible symbols path number false) stubs brackets
      (everything symbols stubs path number brackets) := by
  have hchosen := Chosen.foldl (Scope.visible symbols path number false)
  rw [everything]
  generalize (Scope.visible symbols path number false).foldl chooseSymbol [] = chosen at hchosen ⊢
  -- the names that are shown are the keys of the symbols and stubs
  have hlabels : (chosen.map ofSymbol ++ (newStubs (chosen.map Symbol.key) stubs.stubs).map
      (ofStub brackets)).map (fun item => item.label.lower) =
        chosen.map Symbol.key ++ (newStubs (chosen.map Symbol.key) stubs.stubs).map Stub.key := by
    rw [List.map_append, List.map_map, List.map_map]
    refine congrArg₂ _ (List.map_congr_left fun symbol hsymbol => ?_) rfl
    rw [Function.comp_apply, ofSymbol_label]
    exact (h symbol (Scope.mem_of_mem_visible (hchosen.shown symbol hsymbol).mem)).symm
  refine ⟨?_, fun key => ?_, _, _, rfl, fun symbol hsymbol => ?_, hchosen.shown,
    fun stub hstub => (mem_newStubs_iff.1 hstub).2⟩
  · rw [hlabels]
    refine List.Nodup.append hchosen.nodup (nodup_newStubs _ _) (List.disjoint_right.2 ?_)
    exact fun key hkey => (mem_keys_newStubs_iff.1 hkey).1
  · rw [← List.mem_map, hlabels, List.mem_append, mem_keys_newStubs_iff, ← hchosen.mem_keys_iff]
    by_cases hkey : key ∈ chosen.map Symbol.key
    · rw [or_iff_left (fun h => h.1 hkey), or_iff_left_of_imp fun _ => hkey]
    · rw [and_iff_right hkey]
  · exact List.mem_map.1 (hchosen.covers symbol hsymbol)

/-- In a loop inside a function the iterator and the local are shown in place of the globals of
their names, a function hides the built-in of its name, and a second stub adds nothing. -/
theorem everything_listsAll_inside_loop :
    let disk := Disk.ofFile "lib.bb" [] 1
    let rules : IncludeRules := ⟨[], true, 2⟩
    let text : Text := "Global i\nFunction Cls()\nLocal score\nFor i = 1 To 3\n\nNext\n" ++
      "End Function\nGlobal score\n.i"
    let stubs : StubTable := ⟨[⟨"Cls", "Function Cls()", [], [], [], none⟩,
      ⟨"Print", "Function Print(x)", [], [], [], none⟩,
      ⟨"print", "Function print()", [], [], [], none⟩]⟩
    ∃ found items, (extract disk rules "main.bb" text).1 = .ok found ∧ Scope.KeyedByName found ∧
      complete found stubs "main.bb" text.lines ⟨4, 0⟩ none false = .ok items ∧
      items.map (fun item => item.detail) = ["For i".toList, "Function Cls()".toList,
        "Local score".toList, "Function Print(x)".toList] ∧
      ListsAll (Scope.visible found "main.bb" 4 false) stubs false items := by
  intro disk rules text stubs
  have hok : (extract disk rules "main.bb" text).1.isOk = true := by decide +kernel
  have hitems : ∀ found ∈ (extract disk rules "main.bb" text).1.toOption,
      complete found stubs "main.bb" text.lines ⟨4, 0⟩ none false =
        .ok (everything found stubs "main.bb" 4 false) ∧
      (everything found stubs "main.bb" 4 false).map (fun item => item.detail) =
        ["For i".toList, "Function Cls()".toList, "Local score".toList,
          "Function Print(x)".toList] := by decide +kernel
  obtain ⟨found, hfound⟩ := exists_eq_ok_of_isOk hok
  rw [hfound] at hitems
  obtain ⟨hcomplete, hdetails⟩ := hitems found rfl
  have hkeyed := extract_keyedByName hfound
  exact ⟨found, _, hfound, hkeyed, hcomplete, hdetails,
    everything_listsAll hkeyed stubs "main.bb" 4 false⟩

end Completion

end BlitzLens
