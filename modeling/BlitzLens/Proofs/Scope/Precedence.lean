import BlitzLens.Proofs.Line.Caret
import BlitzLens.Proofs.Scope.Member

/-!
# What goes before what

A word is resolved to the first function, type or label of its name whose guard admits it, and to
the last visible variable that is admitted if there is none (`Scope.resolve?_eq`). The guard of a
function admits every word of the code. So a function of the name is found, unless a type or a label
that is admitted stands in front of all of them (`Scope.find?_decides_function_iff`).
-/

namespace BlitzLens

open Line

namespace Scope

/-- A word may be a reference: whether a guard accepts it, except for the one of calls, is told by
the text before it. -/
def Reads (line : Text) (word : Word) (before : Text) : Prop :=
  ∀ guard : Guard, guard ≠ .call →
    guard.accepts line word.start word.stop = .ok (guard.admitsBefore before)

/-- Whether the guard of a symbol admits a word of a line. -/
def admits (line : Text) (word : Word) (symbol : Symbol) : Bool :=
  (accepts symbol line word).toOption == some true

/-- Whether a word of a line refers to a symbol whatever variables there are: it is a function, a
type or a label of the name, and its guard admits the word. -/
def decides (line : Text) (word : Word) (symbol : Symbol) : Bool :=
  symbol.key == word.text.lower && (!symbol.isVariable && admits line word symbol)

/-- The symbols in front of the first function of a name. -/
def beforeFunction (symbols : List Symbol) (key : Text) : List Symbol :=
  symbols.takeWhile fun symbol => !(symbol.kind == .function && symbol.key == key)

/-- A type or a label of the name of a word, whose guard admits the word, stands in front of every
function of the name. -/
def FunctionOutranked (symbols : List Symbol) (line : Text) (word : Word) : Prop :=
  ∃ symbol ∈ beforeFunction symbols word.text.lower,
    (symbol.kind = .type ∨ symbol.kind = .label) ∧ symbol.key = word.text.lower ∧
      accepts symbol line word = .ok true

instance (symbols : List Symbol) (line : Text) (word : Word) :
    Decidable (FunctionOutranked symbols line word) :=
  inferInstanceAs (Decidable (∃ symbol ∈ beforeFunction symbols word.text.lower, _))

section Choice

variable {symbols : List Symbol} {path line : Text} {number : Int} {word : Word}

/-! ## References -/

/-- Only the guard of calls looks at the text behind a word. -/
theorem admits_eq_admitsBefore {guard : Guard} (h : guard ≠ .call) (before after : Text) :
    guard.admits before after = guard.admitsBefore before := by
  rw [Guard.admits]
  cases guard <;> first | exact Bool.and_true _ | exact absurd rfl h

/-- A word that one guard accepts may be a reference. -/
theorem reads_of_accepts {guard : Guard}
    (h : guard.accepts line word.start word.stop = .ok true) :
    Reads line word (line.upTo word.start) := by
  intro other hother
  unfold Guard.accepts at h ⊢
  cases hboundary : isWordBoundary line word.start word.stop with
  | error error =>
    rw [hboundary] at h
    cases h
  | ok boundary =>
    rw [hboundary] at h
    cases boundary with
    | false => cases h
    | true =>
      by_cases houtside : (inString line word.start || inComment line word.start) = true
      · cases (if_pos houtside).symm.trans h
      · exact (if_neg houtside).trans (congrArg Except.ok (admits_eq_admitsBefore hother _ _))

/-- The guard of a symbol admits a reference behind the texts that it admits. -/
theorem Reads.admits_eq {before : Text} (h : Reads line word before) {symbol : Symbol}
    (hguard : symbol.declared.guard ≠ .call) :
    admits line word symbol = symbol.declared.guard.admitsBefore before := by
  rw [admits, accepts, h _ hguard]
  cases symbol.declared.guard.admitsBefore before <;> rfl

/-- A word of the code may be a reference. -/
theorem reads_of_isCode {text : Text} {start : Nat} (h : StandsAt line start text)
    (hcode : isCode line (start : Int) = true) :
    Reads line (.ofText start text) (line.take start) := by
  have hinside := h.inside
  have houtside : (inString line (start : Int) || inComment line (start : Int)) = false := by
    rw [isCode, Bool.and_eq_true, Bool.not_eq_true', Bool.not_eq_true'] at hcode
    rw [hcode.1, hcode.2]
    rfl
  have hanywhere : Guard.anywhere.accepts line (start : Int) ((start + text.length : Nat) : Int) =
      .ok true := by
    unfold Guard.accepts
    rw [h.isWordBoundary, houtside]
    rfl
  rw [← Text.upTo_natCast (by omega)]
  exact reads_of_accepts hanywhere

/-! ## The choice -/

/-- A guard admits a word if it accepts it. -/
theorem admits_iff {symbol : Symbol} :
    admits line word symbol = true ↔ accepts symbol line word = .ok true := by
  rw [admits, beq_iff_eq]
  cases accepts symbol line word with
  | error error => exact ⟨nofun, nofun⟩
  | ok accepted => exact ⟨fun h => congrArg Except.ok (Option.some.inj h), fun h => h ▸ rfl⟩

/-- What a word refers to is the first candidate that decides it, and if there is none the last
variable that admits it. -/
theorem choose_eq
    (h : ∀ guard : Guard, ∃ accepted, guard.accepts line word.start word.stop = .ok accepted)
    (best : Option Symbol) (list : List Symbol) :
    choose line word best list =
      .ok ((list.find? fun symbol => !symbol.isVariable && admits line word symbol).or
        ((list.filter (admits line word)).getLast?.or best)) := by
  induction list generalizing best with
  | nil => rfl
  | cons symbol list ih =>
    obtain ⟨accepted, haccepted⟩ : ∃ accepted, accepts symbol line word = .ok accepted :=
      h symbol.declared.guard
    have hadmits : admits line word symbol = accepted := by
      rw [admits, haccepted]
      cases accepted <;> rfl
    cases accepted with
    | false =>
      rw [choose_rejected haccepted, ih, List.find?_cons_of_neg (by simp [hadmits]),
        List.filter_cons_of_neg (by simp [hadmits])]
    | true =>
      cases hvariable : symbol.isVariable with
      | false =>
        rw [choose_accepted haccepted hvariable,
          List.find?_cons_of_pos (by simp [hadmits, hvariable])]
        rfl
      | true =>
        rw [choose_variable haccepted hvariable, ih,
          List.find?_cons_of_neg (by simp [hvariable]), List.filter_cons_of_pos hadmits,
          List.getLast?_cons]
        cases ((list.filter (admits line word)).getLast?) <;> rfl

/-- Of the visible symbols, those that are no variables are the ones that the list holds. -/
theorem find?_visible (symbols : List Symbol) (path : Text) (number : Int) {p : Symbol → Bool}
    (hp : ∀ symbol, p symbol = true → symbol.isVariable = false) :
    (visible symbols path number true).find? p = symbols.find? p := by
  have hvariables (held : List Variable) : (held.map Symbol.ofVariable).find? p = none := by
    refine List.find?_eq_none.2 fun symbol hsymbol hdecides => ?_
    obtain ⟨v, -, rfl⟩ := List.mem_map.1 hsymbol
    cases hp _ hdecides
  have htop : (symbols.filter (isVisible path number
      (enclosingFunction? symbols path number).isSome)).find? p = symbols.find? p := by
    rw [List.find?_filter]
    refine congrArg (List.find? · symbols) (funext fun symbol => ?_)
    cases hdecides : p symbol with
    | false => simp
    | true =>
      have hvisible : isVisible path number (enclosingFunction? symbols path number).isSome symbol =
          true := by
        have hother := hp symbol hdecides
        cases symbol <;> first | rfl | cases hother
      simp [hvisible]
  rw [visible, List.find?_append, List.find?_append, htop, if_pos rfl, hvariables]
  cases enclosingFunction? symbols path number with
  | none => simp
  | some f =>
    dsimp only
    rw [hvariables, Option.or_none, Option.or_none]

/-- A symbol that decides a word is no variable. -/
theorem isVariable_of_decides {symbol : Symbol} (h : decides line word symbol = true) :
    symbol.isVariable = false := by
  rw [decides, Bool.and_eq_true, Bool.and_eq_true, Bool.not_eq_true'] at h
  exact h.2.1

/-- A symbol decides a word if it has the name, is no variable and admits the word. -/
theorem decides_iff {symbol : Symbol} : decides line word symbol = true ↔
    symbol.key = word.text.lower ∧ symbol.isVariable = false ∧
      accepts symbol line word = .ok true := by
  rw [decides, Bool.and_eq_true, Bool.and_eq_true, Bool.not_eq_true', beq_iff_eq, admits_iff]

/-- A word is resolved to the first symbol that decides it, and if there is none to the last visible
variable of its name that admits it. -/
theorem resolve?_eq
    (h : ∀ guard : Guard, ∃ accepted, guard.accepts line word.start word.stop = .ok accepted)
    (symbols : List Symbol) (path : Text) (number : Int) :
    resolve? symbols path number line word =
      .ok ((symbols.find? (decides line word)).or
        ((visible symbols path number true).filter fun symbol =>
          symbol.key == word.text.lower && admits line word symbol).getLast?) := by
  have hdecides : (fun symbol => decide ((symbol.key == word.text.lower) = true ∧
      (!symbol.isVariable && admits line word symbol) = true)) = decides line word := by
    funext symbol
    rw [Bool.decide_and, Bool.decide_eq_true, Bool.decide_eq_true, decides]
  have hnamed : (fun symbol : Symbol =>
      admits line word symbol && (symbol.key == word.text.lower)) =
      fun symbol => symbol.key == word.text.lower && admits line word symbol :=
    funext fun symbol => Bool.and_comm _ _
  rw [resolve?, choose_eq h, Option.or_none, List.find?_filter, List.filter_filter, hdecides,
    hnamed, find?_visible symbols path number fun _ => isVariable_of_decides]

/-- What a word is resolved to decides the word, or it is a variable and nothing does. -/
theorem find?_decides_of_resolve? {symbol : Symbol}
    (hresolve : resolve? symbols path number line word = .ok (some symbol)) :
    symbols.find? (decides line word) = some symbol ∨
      symbols.find? (decides line word) = none ∧ symbol.isVariable = true := by
  have haccepts : accepts symbol line word = .ok true :=
    (accepts_of_choose hresolve).resolve_left nofun
  rw [resolve?_eq (Guard.exists_accepts_of_accepts haccepts)] at hresolve
  cases hfirst : symbols.find? (decides line word) with
  | some first =>
    rw [hfirst, Option.some_or] at hresolve
    exact .inl (Except.ok.inj hresolve)
  | none =>
    rw [hfirst, Option.none_or] at hresolve
    refine .inr ⟨rfl, Bool.of_not_eq_false fun hvariable => ?_⟩
    obtain ⟨hvisible, hnamed⟩ := List.mem_filter.1 (List.mem_of_getLast? (Except.ok.inj hresolve))
    rw [Bool.and_eq_true, beq_iff_eq, admits_iff] at hnamed
    rw [← find?_visible symbols path number fun _ => isVariable_of_decides] at hfirst
    exact List.find?_eq_none.1 hfirst symbol hvisible
      (decides_iff.2 ⟨hnamed.1, hvariable, hnamed.2⟩)

/-- A symbol that is no variable decides the words that are resolved to it. -/
theorem find?_decides_eq_some {symbol : Symbol}
    (hresolve : resolve? symbols path number line word = .ok (some symbol))
    (hvariable : symbol.isVariable = false) :
    symbols.find? (decides line word) = some symbol := by
  rcases find?_decides_of_resolve? hresolve with hfirst | ⟨-, hother⟩
  · exact hfirst
  · rw [hvariable] at hother
    cases hother

/-- Nothing decides a word that is resolved to a variable. -/
theorem find?_decides_eq_none {v : Variable}
    (hresolve : resolve? symbols path number line word = .ok (some (.ofVariable v))) :
    symbols.find? (decides line word) = none := by
  rcases find?_decides_of_resolve? hresolve with hfirst | ⟨hnone, -⟩
  · cases isVariable_of_decides (List.find?_some hfirst)
  · exact hnone

/-! ## Functions -/

/-- A symbol that outranks the functions of a name decides the word before they do. -/
theorem not_functionOutranked {f : Function}
    (hfirst : symbols.find? (decides line word) = some (.ofFunction f)) :
    ¬FunctionOutranked symbols line word := by
  rintro ⟨symbol, hmem, hkind, hname, haccepts⟩
  have hvariable : symbol.isVariable = false := by
    cases symbol <;> first | rfl | rcases hkind with hkind | hkind <;> cases hkind
  obtain ⟨first, hfound⟩ := Option.isSome_iff_exists.1 (List.find?_isSome.2
    ⟨symbol, hmem, decides_iff.2 ⟨hname, hvariable, haccepts⟩⟩)
  have hsplit : symbols.find? (decides line word) = some first := by
    rw [← List.takeWhile_append_dropWhile (l := symbols)
      (p := fun symbol => !(symbol.kind == .function && symbol.key == word.text.lower)),
      List.find?_append]
    exact congrArg (Option.or · _) hfound
  -- so the first one is the function, which does not stand in front of all functions
  obtain rfl : first = .ofFunction f := Option.some.inj (hsplit.symm.trans hfirst)
  have hkey : (Symbol.ofFunction f).key = word.text.lower :=
    (decides_iff.1 (List.find?_some hfirst)).1
  have hbefore := List.mem_takeWhile_imp (List.mem_of_find?_eq_some hfound)
  rw [hkey, beq_self_eq_true] at hbefore
  cases hbefore

/-- Where functions are admitted, what decides a word first is a function or outranks the functions
of the name. -/
theorem functionOutranked_of_find?
    (hfunctions : ∀ f, Symbol.ofFunction f ∈ symbols →
      accepts (.ofFunction f) line word = .ok true) {first : Symbol}
    (hfirst : symbols.find? (decides line word) = some first)
    (hkind : first.kind = .type ∨ first.kind = .label) : FunctionOutranked symbols line word := by
  obtain ⟨hdecided, front, back, hsymbols, hfront⟩ := List.find?_eq_some_iff_append.1 hfirst
  obtain ⟨hname, -, haccepts⟩ := decides_iff.1 hdecided
  refine ⟨first, ?_, hkind, hname, haccepts⟩
  rw [beforeFunction, hsymbols, List.takeWhile_append_of_pos, List.takeWhile_cons_of_pos]
  · exact List.mem_append_right _ List.mem_cons_self
  · rcases hkind with hkind | hkind <;> rw [hkind] <;> rfl
  · intro other hother
    cases other with
    | ofFunction g =>
      -- a function of the name would decide the word
      rw [Bool.not_eq_true', Bool.and_eq_false_iff, beq_eq_false_iff_ne]
      refine .inr (beq_eq_false_iff_ne.2 fun hg => ?_)
      have hmem : .ofFunction g ∈ symbols := hsymbols ▸ List.mem_append_left _ hother
      have hno := hfront _ hother
      rw [decides_iff.2 ⟨hg, rfl, hfunctions g hmem⟩] at hno
      cases hno
    | _ => rfl

/-- Where functions are admitted, the first symbol that decides a word of the name of a function is
a function, unless one of another kind outranks it. -/
theorem find?_decides_function_iff
    (hfunctions : ∀ f, Symbol.ofFunction f ∈ symbols →
      accepts (.ofFunction f) line word = .ok true) :
    (∃ f, symbols.find? (decides line word) = some (.ofFunction f)) ↔
      (∃ f, .ofFunction f ∈ symbols ∧ f.key = word.text.lower) ∧
        ¬FunctionOutranked symbols line word := by
  constructor
  · rintro ⟨f, hfirst⟩
    exact ⟨⟨f, List.mem_of_find?_eq_some hfirst, (decides_iff.1 (List.find?_some hfirst)).1⟩,
      not_functionOutranked hfirst⟩
  · rintro ⟨⟨f, hmem, hkey⟩, hrank⟩
    obtain ⟨first, hfirst⟩ := Option.isSome_iff_exists.1
      (List.find?_isSome.2 ⟨_, hmem, decides_iff.2 ⟨hkey, rfl, hfunctions f hmem⟩⟩)
    have hvariable := isVariable_of_decides (List.find?_some hfirst)
    cases first with
    | ofFunction g => exact ⟨g, hfirst⟩
    | ofVariable v => cases hvariable
    | ofType t => exact absurd (functionOutranked_of_find? hfunctions hfirst (.inl rfl)) hrank
    | ofLabel l => exact absurd (functionOutranked_of_find? hfunctions hfirst (.inr rfl)) hrank

end Choice

end Scope

end BlitzLens
