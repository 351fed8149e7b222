import BlitzLens.Proofs.Line.Word
import BlitzLens.Proofs.Scope.Choice
import BlitzLens.Query.Highlight
import Mathlib.Data.List.Forall2

/-!
# What highlights depend on

Highlighting never fails, as the words of the code lie inside their line (`Highlight.tokens_eq`).
The tokens of a line depend on its words, on which guards accept them, and on a few properties of
the symbols (`Symbol.ResemblesAt`); so two lists of symbols that resemble one another on some lines
give the same tokens there (`Highlight.exists_tokens`).
-/

namespace BlitzLens

/-! ## The words of the code -/

/-- A guard accepts or rejects every stretch that starts inside the line. -/
theorem Guard.exists_accepts_eq_ok (guard : Guard) {line : Text} {start : Nat}
    (h : start ≤ line.length) (stop : Nat) :
    ∃ accepted, guard.accepts line (start : Int) (stop : Int) = .ok accepted :=
  guard.exists_accepts_of_isWordBoundary (Line.isWordBoundary_natCast h stop)

/-- The words of the code lie inside the line. -/
theorem Line.exists_of_mem_codeWords {line : Text} {word : Word} (h : word ∈ codeWords line) :
    ∃ start stop : Nat, word.start = start ∧ word.stop = stop ∧ stop ≤ line.length ∧
      start ≤ stop := by
  obtain ⟨⟨start, run⟩, hrun, rfl⟩ := List.mem_map.1 h
  have hstop := stop_le_of_mem_wordRuns (List.mem_of_mem_filter hrun)
  have hcode := codeEnd_le line
  rw [Nat.zero_add, length_code] at hstop
  exact ⟨start, start + run.length, rfl, rfl, Nat.le_trans hstop hcode, Nat.le_add_right _ _⟩

namespace Highlight

/-! ## Highlighting does not fail -/

/-- Going through a list succeeds if every element does. -/
theorem mapM_eq_ok {α β ε : Type} {f : α → Except ε β} {g : α → β} {list : List α}
    (h : ∀ a ∈ list, f a = .ok (g a)) : list.mapM f = .ok (list.map g) := by
  induction list with
  | nil => rfl
  | cons a list ih =>
    rw [List.mapM_cons, h a List.mem_cons_self, ih fun b hb => h b (List.mem_cons_of_mem _ hb)]
    rfl

/-- The token of a word of the code is found or not, without failure. -/
theorem exists_tokenOf?_eq_ok {line : Text} {word : Word} (h : word ∈ Line.codeWords line)
    (symbols : List Symbol) (path : Text) (number : Int) (enclosing : Option Function) :
    ∃ token, tokenOf? symbols path number line enclosing word = .ok token := by
  obtain ⟨start, stop, hstart, hstop, hinside, hle⟩ := Line.exists_of_mem_codeWords h
  have haccepts (guard : Guard) :
      ∃ accepted, guard.accepts line word.start word.stop = .ok accepted := by
    rw [hstart, hstop]
    exact guard.exists_accepts_eq_ok (Nat.le_trans hle hinside) stop
  obtain ⟨chosen, hchosen⟩ := Scope.exists_choose_eq_ok haccepts none
    (candidates symbols path number enclosing word.text.lower)
  exact ⟨_, by rw [tokenOf?, hchosen]; rfl⟩

/-- The token of a word is on its line and covers the word. -/
theorem exists_of_tokenOf? {symbols : List Symbol} {path : Text} {number : Int} {line : Text}
    {enclosing : Option Function} {word : Word} {token : Token}
    (h : (tokenOf? symbols path number line enclosing word).toOption.join = some token) :
    ∃ tokenClass, token = ⟨number, word.start, word.stop - word.start, tokenClass⟩ := by
  rw [tokenOf?] at h
  cases hchosen : Scope.choose line word none
      (candidates symbols path number enclosing word.text.lower) with
  | error error =>
    rw [hchosen] at h
    cases h
  | ok chosen =>
    rw [hchosen] at h
    obtain ⟨tokenClass, -, htoken⟩ := Option.map_eq_some_iff.1 h
    exact ⟨tokenClass, htoken.symm⟩

/-- The tokens that a line has. -/
def tokensOn (symbols : List Symbol) (path : Text) (number : Int) (line : Text) : List Token :=
  (Line.codeWords line).filterMap fun word => (tokenOf? symbols path number line
    (Scope.enclosingFunction? symbols path number) word).toOption.join

variable {symbols symbols' : List Symbol} {path : Text} {number : Int} {line line' : Text}

/-- The tokens of a line are found without failure. -/
theorem lineTokens_eq : lineTokens symbols path number line =
    .ok (tokensOn symbols path number line) := by
  have hwords : ∀ word ∈ Line.codeWords line,
      tokenOf? symbols path number line (Scope.enclosingFunction? symbols path number) word =
        .ok (tokenOf? symbols path number line (Scope.enclosingFunction? symbols path number)
          word).toOption.join := by
    intro word hword
    obtain ⟨token, htoken⟩ := exists_tokenOf?_eq_ok hword symbols path number
      (Scope.enclosingFunction? symbols path number)
    rw [htoken]
    rfl
  rw [lineTokens, mapM_eq_ok hwords]
  change Except.ok _ = Except.ok _
  rw [List.filterMap_map]
  rfl

/-- A token of a line is on the line. -/
theorem line_of_mem_tokensOn {token : Token} (h : token ∈ tokensOn symbols path number line) :
    token.line = number := by
  obtain ⟨word, -, htoken⟩ := List.mem_filterMap.1 h
  obtain ⟨tokenClass, rfl⟩ := exists_of_tokenOf? htoken
  rfl

/-- The tokens of a document are those of its lines, one after the other. -/
theorem tokens_eq (symbols : List Symbol) (path : Text) (lines : List Text) :
    tokens symbols path lines =
      .ok (lines.zipIdx.flatMap fun numbered => tokensOn symbols path numbered.2 numbered.1) := by
  rw [tokens, mapM_eq_ok fun numbered _ => lineTokens_eq, List.flatMap_def]
  rfl

end Highlight

/-! ## Symbols that resemble one another -/

/-- Two declarations are referred to alike. -/
structure Declared.Resembles (d d' : Declared) : Prop where
  /-- They are looked up by one key. -/
  key : d.key = d'.key
  /-- They belong to one file. -/
  path : d.path = d'.path
  /-- They have one guard. -/
  guard : d.guard = d'.guard
  /-- Their regions start on one line. -/
  startLine : d.scope.startLine = d'.scope.startLine
  /-- Their regions end on one line. -/
  endLine : d.scope.endLine = d'.scope.endLine

theorem Declared.Resembles.symm {d d' : Declared} (h : d.Resembles d') : d'.Resembles d :=
  ⟨h.key.symm, h.path.symm, h.guard.symm, h.startLine.symm, h.endLine.symm⟩

theorem Declared.Resembles.trans {d d' d'' : Declared} (h : d.Resembles d')
    (h' : d'.Resembles d'') : d.Resembles d'' :=
  ⟨h.key.trans h'.key, h.path.trans h'.path, h.guard.trans h'.guard,
    h.startLine.trans h'.startLine, h.endLine.trans h'.endLine⟩

/-- Two variables are referred to alike. -/
structure Variable.Resembles (v w : Variable) : Prop extends
    Declared.Resembles v.toDeclared w.toDeclared where
  /-- They live in the same kind of place. -/
  storage : v.storage = w.storage
  /-- Both are loop iterators, or none is. -/
  isIterator : v.isIterator = w.isIterator

/-- Two symbols are referred to alike on a line. The locals of a function count on its own lines
only. -/
inductive Symbol.ResemblesAt (number : Int) : Symbol → Symbol → Prop
  | ofVariable {v w : Variable} (h : v.Resembles w) :
      ResemblesAt number (.ofVariable v) (.ofVariable w)
  | ofFunction {f g : Function} (h : f.toDeclared.Resembles g.toDeclared)
      (hlocals : f.scope.containsLine number = true →
        List.Forall₂ Variable.Resembles f.locals g.locals) :
      ResemblesAt number (.ofFunction f) (.ofFunction g)
  | ofType {t u : RecordType} (h : t.toDeclared.Resembles u.toDeclared)
      (hfields : List.Forall₂ Variable.Resembles t.fields u.fields) :
      ResemblesAt number (.ofType t) (.ofType u)
  | ofLabel {l m : Label} (h : l.toDeclared.Resembles m.toDeclared) :
      ResemblesAt number (.ofLabel l) (.ofLabel m)

/-- Two words of two lines stand at one place, spell one key, and are accepted by the same
guards. -/
structure Line.SameReference (line line' : Text) (word word' : Word) : Prop where
  /-- They start at one column. -/
  start : word.start = word'.start
  /-- They stop at one column. -/
  stop : word.stop = word'.stop
  /-- They are looked up by one key. -/
  key : word.text.lower = word'.text.lower
  /-- They are accepted by the same guards. -/
  accepts : ∀ guard : Guard, guard.accepts line word.start word.stop =
    guard.accepts line' word'.start word'.stop

/-- Regions that start and end on the same lines contain the same lines. -/
theorem Declared.Resembles.containsLine {d d' : Declared} (h : d.Resembles d') (number : Int) :
    d.scope.containsLine number = d'.scope.containsLine number := by
  rw [Span.containsLine, Span.containsLine, h.startLine, h.endLine]

namespace Symbol.ResemblesAt

variable {number : Int} {symbol symbol' : Symbol}

/-- Symbols that are referred to alike are declared alike. -/
theorem declared (h : symbol.ResemblesAt number symbol') :
    symbol.declared.Resembles symbol'.declared := by
  cases h with
  | ofVariable h => exact h.toResembles
  | ofFunction h => exact h
  | ofType h => exact h
  | ofLabel h => exact h

/-- They are visible on the same conditions. -/
theorem isVisible_eq (h : symbol.ResemblesAt number symbol') (path : Text) (inside : Bool) :
    Scope.isVisible path number inside symbol = Scope.isVisible path number inside symbol' := by
  cases h with
  | ofVariable h =>
    rw [Scope.isVisible, Scope.isVisible, Scope.reaches, Scope.reaches, h.isIterator, h.storage,
      h.path, h.toResembles.containsLine]
  | ofFunction h => rfl
  | ofType h => rfl
  | ofLabel h => rfl

/-- They are highlighted alike. -/
theorem tokenClass_eq (h : symbol.ResemblesAt number symbol') :
    TokenClass.ofSymbol? symbol = TokenClass.ofSymbol? symbol' := by
  cases h with
  | ofVariable h => rw [TokenClass.ofSymbol?, TokenClass.ofSymbol?, h.storage]
  | ofFunction h => rfl
  | ofType h => rfl
  | ofLabel h => rfl

/-- Both are variables, or none is. -/
theorem isVariable_eq (h : symbol.ResemblesAt number symbol') :
    symbol.isVariable = symbol'.isVariable := by
  cases h <;> rfl

end Symbol.ResemblesAt

namespace Highlight

variable {symbols symbols' : List Symbol} {path : Text} {number : Int} {line line' : Text}

/-- The functions that enclose a line are referred to alike, with their locals. -/
theorem rel_enclosingFunction? (h : List.Forall₂ (Symbol.ResemblesAt number) symbols symbols') :
    Option.Rel (fun f g => List.Forall₂ Variable.Resembles f.locals g.locals)
      (Scope.enclosingFunction? symbols path number)
      (Scope.enclosingFunction? symbols' path number) := by
  unfold Scope.enclosingFunction?
  induction h with
  | nil => exact .none
  | cons hsymbol _ ih =>
    cases hsymbol with
    | ofFunction hdeclared hlocals =>
      simp only [List.filterMap_cons, Symbol.asFunction?, List.find?_cons]
      rw [← hdeclared.path, ← hdeclared.containsLine]
      split
      · next hencloses =>
        rw [Bool.and_eq_true] at hencloses
        exact .some (hlocals hencloses.2)
      · exact ih
    | ofVariable => exact ih
    | ofType => exact ih
    | ofLabel => exact ih

/-- The candidates for a word are referred to alike. -/
theorem forall₂_candidates (h : List.Forall₂ (Symbol.ResemblesAt number) symbols symbols')
    {enclosing enclosing' : Option Function}
    (henclosing : Option.Rel (fun f g => List.Forall₂ Variable.Resembles f.locals g.locals)
      enclosing enclosing') (key : Text) :
    List.Forall₂ (Symbol.ResemblesAt number) (candidates symbols path number enclosing key)
      (candidates symbols' path number enclosing' key) := by
  have hisSome : enclosing.isSome = enclosing'.isSome := by cases henclosing <;> rfl
  -- variables of one key are kept on both sides, or on none
  have hkeep {found found' : List Variable}
      (hfound : List.Forall₂ Variable.Resembles found found') :
      List.Forall₂ (Symbol.ResemblesAt number)
        ((found.filter fun v => v.key == key).map .ofVariable)
        ((found'.filter fun v => v.key == key).map .ofVariable) := by
    refine List.forall₂_map_left_iff.2 (List.forall₂_map_right_iff.2 ?_)
    refine (List.rel_filter ?_ hfound).imp fun _ _ => .ofVariable
    intro v w hv
    dsimp only
    rw [hv.key]
  refine List.rel_append (List.rel_append ?_ (hkeep ?_)) ?_
  · refine List.rel_filter ?_ h
    intro symbol symbol' hsymbol
    dsimp only
    rw [Symbol.key, Symbol.key, hsymbol.declared.key, hsymbol.isVisible_eq, hisSome]
  · induction h with
    | nil => exact .nil
    | cons hsymbol _ ih =>
      cases hsymbol with
      | ofType hdeclared hfields => exact List.rel_append hfields ih
      | ofVariable => exact ih
      | ofFunction => exact ih
      | ofLabel => exact ih
  · cases henclosing with
    | none => exact .nil
    | some hlocals =>
      refine hkeep (List.rel_filter ?_ hlocals)
      intro v w hv
      dsimp only
      rw [hv.isIterator, hv.toResembles.containsLine]

/-- The choice between candidates that are referred to alike is highlighted alike. -/
theorem choose_congr {word word' : Word} (hword : Line.SameReference line line' word word')
    {list list' : List Symbol} (h : List.Forall₂ (Symbol.ResemblesAt number) list list')
    {best best' : Option Symbol}
    (hbest : best.bind TokenClass.ofSymbol? = best'.bind TokenClass.ofSymbol?) :
    (Scope.choose line word best list).map (·.bind TokenClass.ofSymbol?) =
      (Scope.choose line' word' best' list').map (·.bind TokenClass.ofSymbol?) := by
  induction h generalizing best best' with
  | nil => exact congrArg Except.ok hbest
  | @cons symbol symbol' list list' hsymbol _ ih =>
    rw [Scope.choose, Scope.choose, Scope.accepts, Scope.accepts, hsymbol.declared.guard,
      hword.accepts]
    cases symbol'.declared.guard.accepts line' word'.start word'.stop with
    | error error => rfl
    | ok accepted =>
      cases accepted with
      | false => exact ih hbest
      | true =>
        change Except.map _ (if symbol.isVariable = true then _ else _) =
          Except.map _ (if symbol'.isVariable = true then _ else _)
        rw [hsymbol.isVariable_eq]
        split
        · exact ih hsymbol.tokenClass_eq
        · exact congrArg Except.ok hsymbol.tokenClass_eq

/-- The token of a word is the class of the choice, at the place of the word. -/
theorem tokenOf?_eq (symbols : List Symbol) (path : Text) (number : Int) (line : Text)
    (enclosing : Option Function) (word : Word) :
    tokenOf? symbols path number line enclosing word =
      ((Scope.choose line word none (candidates symbols path number enclosing word.text.lower)).map
        (·.bind TokenClass.ofSymbol?)).map fun chosen => chosen.map fun tokenClass =>
          ⟨number, word.start, word.stop - word.start, tokenClass⟩ := by
  rw [tokenOf?]
  cases Scope.choose line word none (candidates symbols path number enclosing word.text.lower) <;>
    rfl

/-- On a line on which the symbols and the words are referred to alike, the tokens are the same. -/
theorem tokensOn_congr (h : List.Forall₂ (Symbol.ResemblesAt number) symbols symbols')
    (hwords : List.Forall₂ (Line.SameReference line line') (Line.codeWords line)
      (Line.codeWords line')) :
    tokensOn symbols path number line = tokensOn symbols' path number line' := by
  unfold tokensOn
  generalize Line.codeWords line = words at hwords ⊢
  generalize Line.codeWords line' = words' at hwords ⊢
  induction hwords with
  | nil => rfl
  | @cons word word' words words' hword _ ih =>
    have htoken : tokenOf? symbols path number line
          (Scope.enclosingFunction? symbols path number) word =
        tokenOf? symbols' path number line'
          (Scope.enclosingFunction? symbols' path number) word' := by
      rw [tokenOf?_eq, tokenOf?_eq, hword.key, hword.start, hword.stop,
        choose_congr hword (forall₂_candidates h (rel_enclosingFunction? h) _) rfl]
    rw [List.filterMap_cons, List.filterMap_cons, htoken, ih]

/-- Documents with as many lines are highlighted, and have the same tokens on those lines on which
the symbols and the words are referred to alike. -/
theorem exists_tokens (path : Text) {lines lines' : List Text}
    (hlength : lines.length = lines'.length) (keep : Int → Bool)
    (h : ∀ (number : Nat) line line', lines[number]? = some line →
      lines'[number]? = some line' → keep number = true →
      List.Forall₂ (Symbol.ResemblesAt number) symbols symbols' ∧
        List.Forall₂ (Line.SameReference line line') (Line.codeWords line)
          (Line.codeWords line')) :
    ∃ found found', tokens symbols path lines = .ok found ∧
      tokens symbols' path lines' = .ok found' ∧
      found.filter (fun token => keep token.line) =
        found'.filter fun token => keep token.line := by
  refine ⟨_, _, tokens_eq symbols path lines, tokens_eq symbols' path lines', ?_⟩
  -- a line is kept or left out as a whole
  have hfilter (symbols : List Symbol) (line : Text) (number : Nat) :
      (tokensOn symbols path number line).filter (fun token => keep token.line) =
        if keep number then tokensOn symbols path number line else [] := by
    split
    · next hkeep =>
      refine List.filter_eq_self.2 fun token htoken => ?_
      rwa [line_of_mem_tokensOn htoken]
    · next hkeep =>
      refine List.filter_eq_nil_iff.2 fun token htoken => ?_
      rwa [line_of_mem_tokensOn htoken]
  rw [List.filter_flatMap, List.filter_flatMap, List.flatMap_def, List.flatMap_def]
  refine congrArg List.flatten (List.ext_getElem? fun index => ?_)
  simp only [List.getElem?_map, List.getElem?_zipIdx, Nat.zero_add, Option.map_map,
    Function.comp_def, hfilter]
  rcases Nat.lt_or_ge index lines.length with hindex | hindex
  · rw [List.getElem?_eq_getElem hindex, List.getElem?_eq_getElem (hlength ▸ hindex),
      Option.map_some, Option.map_some]
    split
    · next hkeep =>
      obtain ⟨hsymbols, hwords⟩ := h index _ _ (List.getElem?_eq_getElem hindex)
        (List.getElem?_eq_getElem (hlength ▸ hindex)) hkeep
      rw [tokensOn_congr hsymbols hwords]
    · rfl
  · rw [List.getElem?_eq_none hindex, List.getElem?_eq_none (hlength ▸ hindex)]
    rfl

end Highlight

end BlitzLens
