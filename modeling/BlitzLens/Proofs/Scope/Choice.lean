import BlitzLens.Extraction.Draft
import BlitzLens.Scope.Visible

/-!
# The choice between candidates

Out of the candidates for a word the first function, type or label is chosen whose guard accepts the
word, and the last accepted variable if there is none. So where nothing but variables is accepted
the choice can be made in parts (`Scope.choose_append`), and it is the last variable
(`Scope.choose_eq_getLast?`).
-/

namespace BlitzLens

section Views

variable {symbols : List Symbol}

/-- What is viewed as a function is a function among the symbols. -/
theorem mem_filterMap_asFunction? {f : Function} :
    f ∈ symbols.filterMap Symbol.asFunction? ↔ .ofFunction f ∈ symbols := by
  refine List.mem_filterMap.trans ⟨?_, fun hf => ⟨_, hf, rfl⟩⟩
  rintro ⟨symbol, hsymbol, hview⟩
  cases symbol <;> cases hview
  exact hsymbol

/-- What is viewed as a type is a type among the symbols. -/
theorem mem_filterMap_asType? {t : RecordType} :
    t ∈ symbols.filterMap Symbol.asType? ↔ .ofType t ∈ symbols := by
  refine List.mem_filterMap.trans ⟨?_, fun ht => ⟨_, ht, rfl⟩⟩
  rintro ⟨symbol, hsymbol, hview⟩
  cases symbol <;> cases hview
  exact hsymbol

end Views

/-- A guard accepts or rejects a word if it can be told whether the word is a whole one. -/
theorem Guard.exists_accepts_of_isWordBoundary (guard : Guard) {line : Text} {start stop : Int}
    {boundary : Bool} (h : Line.isWordBoundary line start stop = .ok boundary) :
    ∃ accepted, guard.accepts line start stop = .ok accepted := by
  unfold Guard.accepts
  rw [h]
  cases boundary with
  | false => exact ⟨false, rfl⟩
  | true =>
    by_cases houtside : (Line.inString line start || Line.inComment line start) = true
    · exact ⟨false, if_pos houtside⟩
    · exact ⟨_, if_neg houtside⟩

/-- A guard accepts or rejects a word if another one does. -/
theorem Guard.exists_accepts_of_accepts {guard : Guard} {line : Text} {start stop : Int}
    {accepted : Bool} (h : guard.accepts line start stop = .ok accepted) (other : Guard) :
    ∃ accepted, other.accepts line start stop = .ok accepted := by
  cases hboundary : Line.isWordBoundary line start stop with
  | error error =>
    unfold Guard.accepts at h
    rw [hboundary] at h
    cases h
  | ok boundary => exact other.exists_accepts_of_isWordBoundary hboundary

namespace Scope

variable {line : Text} {word : Word} {front list : List Symbol} {best : Option Symbol}

/-- A candidate that is rejected is passed over. -/
theorem choose_rejected {symbol : Symbol} (h : accepts symbol line word = .ok false) :
    choose line word best (symbol :: list) = choose line word best list := by
  rw [choose, h]
  rfl

/-- A variable that is accepted is kept for later candidates to override. -/
theorem choose_variable {symbol : Symbol} (h : accepts symbol line word = .ok true)
    (hvariable : symbol.isVariable = true) :
    choose line word best (symbol :: list) = choose line word (some symbol) list := by
  rw [choose, h]
  exact if_pos hvariable

/-- Anything else that is accepted is chosen. -/
theorem choose_accepted {symbol : Symbol} (h : accepts symbol line word = .ok true)
    (hvariable : symbol.isVariable = false) :
    choose line word best (symbol :: list) = .ok (some symbol) := by
  rw [choose, h]
  exact if_neg (by rw [hvariable]; exact Bool.false_ne_true)

/-- A choice between candidates succeeds if all guards accept or reject the word. -/
theorem exists_choose_eq_ok
    (h : ∀ guard : Guard, ∃ accepted, guard.accepts line word.start word.stop = .ok accepted)
    (best : Option Symbol) (list : List Symbol) :
    ∃ chosen, choose line word best list = .ok chosen := by
  induction list generalizing best with
  | nil => exact ⟨best, rfl⟩
  | cons symbol list ih =>
    obtain ⟨accepted, haccepted⟩ := h symbol.declared.guard
    have haccepts : accepts symbol line word = .ok accepted := haccepted
    cases accepted with
    | false =>
      rw [choose_rejected haccepts]
      exact ih best
    | true =>
      cases hvariable : symbol.isVariable with
      | false => exact ⟨some symbol, choose_accepted haccepts hvariable⟩
      | true =>
        rw [choose_variable haccepts hvariable]
        exact ih (some symbol)

/-- The choice goes on behind candidates of which none but variables are accepted. -/
theorem choose_append (hvariables : ∀ symbol ∈ front, symbol.isVariable = false →
      accepts symbol line word ≠ .ok true) :
    choose line word best (front ++ list) =
      choose line word best front >>= fun best => choose line word best list := by
  induction front generalizing best with
  | nil => rfl
  | cons symbol front ih =>
    obtain ⟨hsymbol, hfront⟩ := List.forall_mem_cons.1 hvariables
    rw [List.cons_append]
    cases haccepts : accepts symbol line word with
    | error error =>
      rw [choose, choose, haccepts]
      rfl
    | ok accepted =>
      cases accepted with
      | false =>
        rw [choose_rejected haccepts, choose_rejected haccepts]
        exact ih hfront
      | true =>
        have hvariable : symbol.isVariable = true :=
          Bool.of_not_eq_false fun hother => hsymbol hother haccepts
        rw [choose_variable haccepts hvariable, choose_variable haccepts hvariable]
        exact ih hfront

/-- Candidates that are rejected may be left out in front. -/
theorem choose_rejected_append (h : ∀ symbol ∈ front, accepts symbol line word = .ok false) :
    choose line word best (front ++ list) = choose line word best list := by
  induction front with
  | nil => rfl
  | cons symbol front ih =>
    obtain ⟨hsymbol, hfront⟩ := List.forall_mem_cons.1 h
    rw [List.cons_append, choose_rejected hsymbol, ih hfront]

/-- Whatever stands in front, the choice depends on the candidates behind only through the choices
that they lead to. -/
theorem choose_append_congr {list' : List Symbol}
    (h : ∀ best, choose line word best list = choose line word best list') :
    choose line word best (front ++ list) = choose line word best (front ++ list') := by
  induction front generalizing best with
  | nil => exact h best
  | cons symbol front ih =>
    rw [List.cons_append, List.cons_append, choose, choose]
    cases accepts symbol line word with
    | error error => rfl
    | ok accepted =>
      -- the rest decides unless the symbol stops the choice
      cases accepted with
      | false => exact ih
      | true =>
        by_cases hvariable : symbol.isVariable = true
        · exact (if_pos hvariable).trans (ih.trans (if_pos hvariable).symm)
        · exact (if_neg hvariable).trans (if_neg hvariable).symm

/-- If all variables are accepted and nothing else is, the last variable is chosen. -/
theorem choose_eq_getLast?
    (hvariables : ∀ v ∈ topVariables list, v.guard.accepts line word.start word.stop = .ok true)
    (hothers : ∀ symbol ∈ list, symbol.isVariable = false → accepts symbol line word = .ok false) :
    choose line word best list =
      .ok (((topVariables list).getLast?.map Symbol.ofVariable).or best) := by
  induction list generalizing best with
  | nil => rfl
  | cons symbol list ih =>
    obtain ⟨hsymbol, hlist⟩ := List.forall_mem_cons.1 hothers
    cases hview : symbol.asVariable? with
    | none =>
      rw [topVariables, List.filterMap_cons_none hview] at hvariables ⊢
      rw [choose_rejected (hsymbol (by rw [Symbol.isVariable, hview]; rfl))]
      exact ih hvariables hlist
    | some v =>
      cases symbol <;> cases hview
      obtain ⟨hv, hvariables⟩ := List.forall_mem_cons.1 hvariables
      have hlast : (topVariables (.ofVariable v :: list)).getLast? =
          some ((topVariables list).getLast?.getD v) := List.getLast?_cons
      have haccepts : accepts (.ofVariable v) line word = .ok true := hv
      rw [choose_variable haccepts rfl, ih hvariables hlist, hlast]
      cases (topVariables list).getLast? <;> rfl

/-- If all of some variables are accepted, the last one is chosen. -/
theorem choose_map_ofVariable {held : List Variable}
    (h : ∀ v ∈ held, v.guard.accepts line word.start word.stop = .ok true) :
    choose line word best (held.map .ofVariable) =
      .ok ((held.getLast?.map Symbol.ofVariable).or best) := by
  have htop : topVariables (held.map .ofVariable) = held := by
    rw [topVariables, List.filterMap_map]
    exact List.filterMap_some
  rw [choose_eq_getLast? (by rwa [htop]), htop]
  intro symbol hsymbol hother
  obtain ⟨v, -, rfl⟩ := List.mem_map.1 hsymbol
  cases hother

/-- If nothing is accepted, the choice stays as it is. -/
theorem choose_of_rejected (h : ∀ symbol ∈ list, accepts symbol line word = .ok false) :
    choose line word best list = .ok best := by
  induction list with
  | nil => rfl
  | cons symbol list ih =>
    obtain ⟨hsymbol, hlist⟩ := List.forall_mem_cons.1 h
    rw [choose_rejected hsymbol]
    exact ih hlist

/-- What is chosen is a candidate that is accepted. -/
theorem of_choose {symbol : Symbol} (h : choose line word best list = .ok (some symbol)) :
    best = some symbol ∨ symbol ∈ list ∧ accepts symbol line word = .ok true := by
  induction list generalizing best with
  | nil => exact .inl (Except.ok.inj h)
  | cons candidate list ih =>
    have hlater {best : Option Symbol} (h : choose line word best list = .ok (some symbol)) :
        best = some symbol ∨
          symbol ∈ candidate :: list ∧ accepts symbol line word = .ok true :=
      (ih h).imp_right (And.imp_left (List.mem_cons_of_mem candidate))
    cases haccepts : accepts candidate line word with
    | error error =>
      rw [choose, haccepts] at h
      cases h
    | ok accepted =>
      cases accepted with
      | false =>
        rw [choose_rejected haccepts] at h
        exact hlater h
      | true =>
        refine .inr ?_
        cases hvariable : candidate.isVariable with
        | false =>
          rw [choose_accepted haccepts hvariable] at h
          cases h
          exact ⟨List.mem_cons_self, haccepts⟩
        | true =>
          rw [choose_variable haccepts hvariable] at h
          rcases hlater h with heq | hfound
          · cases heq
            exact ⟨List.mem_cons_self, haccepts⟩
          · exact hfound

/-- What is chosen is a candidate. -/
theorem mem_of_choose {symbol : Symbol} (h : choose line word best list = .ok (some symbol)) :
    best = some symbol ∨ symbol ∈ list :=
  (of_choose h).imp_right And.left

/-- What is chosen is accepted. -/
theorem accepts_of_choose {symbol : Symbol} (h : choose line word best list = .ok (some symbol)) :
    best = some symbol ∨ accepts symbol line word = .ok true :=
  (of_choose h).imp_right And.right

end Scope

end BlitzLens
