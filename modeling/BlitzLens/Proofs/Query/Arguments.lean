import BlitzLens.Proofs.Declaration.Part
import BlitzLens.Proofs.Query.Scan
import BlitzLens.Query.Completion
import BlitzLens.Stub.Library
import BlitzLens.Stub.Reader

/-!
# Arguments and parameters of a stub

Completion asks a stub whether it takes arguments, and signature help shows the parameters of its
declaration. The stub looks for a visible character between the first opening and the last closing
parenthesis of the declaration, wherever that stands. Signature help scans the list that the first
parenthesis opens, up to the parenthesis that closes it. A stub takes arguments if signature help
shows a parameter (`Stub.takesArguments_of_parameters`), but not the other way round: a declaration
in a stub file keeps its comment, and the last parenthesis may stand there, behind an empty list. In
a declaration file nothing stands behind the list (`Stub.exists_declaration_eq`).

## Main results

* `Stub.takesArguments_iff_parameters`: the stubs that take arguments if and only if their signature
  has a parameter.
-/

namespace BlitzLens

/-! ## Texts -/

namespace Text

variable {text before : Text} {c : Char}

/-- A text between two visible characters is not trimmed. -/
theorem trim_cons_concat {d : Char} (hc : isBlank c = false) (hd : isBlank d = false)
    (text : Text) : trim (c :: (text ++ [d])) = c :: (text ++ [d]) := by
  rw [trim, trimStart_cons hc, ← List.cons_append, trimEnd_concat hd]

/-- What stands somewhere in a text stands there for the last time. -/
theorem exists_append_last (h : c ∈ text) :
    ∃ before after, text = before ++ c :: after ∧ c ∉ after := by
  obtain ⟨after, before, hreverse, hafter⟩ := List.eq_append_cons_of_mem (List.mem_reverse.2 h)
  refine ⟨before.reverse, after.reverse, ?_, fun hmem => hafter (List.mem_reverse.1 hmem)⟩
  rw [← List.reverse_reverse text, hreverse]
  simp

/-- What stands in front of the last one goes on from what stands in front of any other. -/
theorem exists_eq_append_of_last {inner back list behind : Text} (hback : c ∉ back)
    (h : inner ++ c :: back = list ++ c :: behind) : ∃ more, inner = list ++ more := by
  rcases List.append_eq_append_iff.1 h with ⟨more, rfl, hmore⟩ | ⟨more, rfl, -⟩
  · cases more with
    | nil => exact ⟨[], by simp⟩
    | cons d more =>
      have hmem : c ∈ back := by
        rw [(List.cons.inj hmore).2]
        exact List.mem_append_right _ List.mem_cons_self
      exact absurd hmem hback
  · exact ⟨more, rfl⟩

/-- What is found from behind is the last one. -/
theorem lastIndexOf?_append {after : Text} (hafter : c ∉ after) (before : Text) :
    (before ++ c :: after).lastIndexOf? c = some before.length := by
  have hreversed : c ∉ after.reverse := fun hmem => hafter (List.mem_reverse.1 hmem)
  have hfirst := indexFrom?_append hreversed before.reverse
  rw [indexFrom?, List.drop_zero, Option.map_eq_some_iff] at hfirst
  obtain ⟨distance, hdistance, rfl⟩ := hfirst
  have hreverse : (before ++ c :: after).reverse = after.reverse ++ c :: before.reverse := by simp
  rw [lastIndexOf?, hreverse, hdistance, Option.map_some, List.length_append, List.length_cons]
  rw [List.length_reverse] at *
  exact congrArg some (by omega)

/-- The character stands where it is found from behind. -/
theorem getElem?_of_lastIndexOf? {index : Nat} (h : text.lastIndexOf? c = some index) :
    text[index]? = some c := by
  by_cases hmem : c ∈ text
  · obtain ⟨before, after, rfl, hafter⟩ := exists_append_last hmem
    rw [lastIndexOf?_append hafter] at h
    cases h
    simp
  · have hnone : text.reverse.findIdx? (· == c) = none :=
      List.findIdx?_eq_none_iff.2 fun d hd => beq_eq_false_iff_ne.2 fun heq =>
        hmem (heq ▸ List.mem_reverse.1 hd)
    rw [lastIndexOf?, hnone] at h
    cases h

end Text

/-- More than blanks stand in front of a parenthesis that does not close the one before it. -/
theorem Line.exists_visible_of_closingParen? {front inner back : Text}
    (h : closingParen? (front ++ '(' :: (inner ++ ')' :: back)) front.length = none) :
    ∃ c ∈ inner, isBlank c = false := by
  by_contra hnone
  push Not at hnone
  have hnested : Enclosed (inner ++ []) := by
    refine .chars inner (List.any_eq_false.2 fun d hd => ?_) .nil
    rw [Nesting.delimits_eq_false_of_isBlank (Bool.of_not_eq_false (hnone d hd))]
    exact Bool.false_ne_true
  rw [List.append_nil] at hnested
  rw [closingParen?_enclosed hnested] at h
  cases h

/-! ## Stubs -/

namespace Stub

variable {stub : Stub} {front rest inner list back : Text}

/-- What stands behind the first opening and in front of the last closing parenthesis. -/
theorem argumentText?_of_closed (hfront : '(' ∉ front) (hback : ')' ∉ back)
    (h : stub.declaration = front ++ '(' :: (inner ++ ')' :: back)) :
    stub.argumentText? = some inner := by
  have hclosing : stub.declaration.lastIndexOf? ')' = some (front.length + 1 + inner.length) := by
    have hlast := Text.lastIndexOf?_append hback (front ++ '(' :: inner)
    rw [List.append_assoc, List.cons_append, ← h, List.length_append, List.length_cons] at hlast
    rw [hlast]
    exact congrArg some (by omega)
  rw [argumentText?, hclosing, h, Text.indexFrom?_append hfront]
  simp only [Option.bind_eq_bind, Option.bind_some]
  rw [if_pos (by omega), Text.slice_natCast, ← List.drop_take, Text.drop_take_cons]
  rfl

/-- Without a closing parenthesis, all that stands behind the first opening one. -/
theorem argumentText?_of_unclosed (hfront : '(' ∉ front) (hrest : ')' ∉ rest)
    (h : stub.declaration = front ++ '(' :: rest) : stub.argumentText? = some rest := by
  have hdrop : (front ++ '(' :: rest).drop (front.length + 1) = rest := by
    rw [← List.drop_drop, List.drop_left]
    rfl
  -- a closing parenthesis can only stand in front of the opening one
  have hclosing : ∀ closing, stub.declaration.lastIndexOf? ')' = some closing →
      ¬front.length < closing := by
    intro closing hclosing hlt
    have hfound := Text.getElem?_of_lastIndexOf? hclosing
    obtain ⟨n, rfl⟩ := Nat.exists_eq_add_of_lt hlt
    rw [h, Nat.add_assoc, List.getElem?_append_right (Nat.le_add_right _ _),
      Nat.add_sub_cancel_left, List.getElem?_cons_succ] at hfound
    exact hrest (List.mem_of_getElem? hfound)
  rw [argumentText?, h, Text.indexFrom?_append hfront, ← h]
  simp only [Option.bind_eq_bind, Option.bind_some]
  split
  · next closing hlast =>
    rw [if_neg (hclosing closing hlast), h, hdrop]
    rfl
  · rw [h, hdrop]
    rfl

/-- A stub takes arguments if something in their text is visible. -/
theorem takesArguments_iff (h : stub.argumentText? = some inner) :
    stub.takesArguments = true ↔ ∃ c ∈ inner, isBlank c = false := by
  rw [takesArguments, h, Option.any_some, Bool.not_eq_true', Text.isBlankText_eq_false_iff]

/-- A stub takes arguments if its signature has a parameter. -/
theorem takesArguments_of_parameters
    (h : Signature.parameterSpans (Signature.labelOf stub.declaration) ≠ []) :
    stub.takesArguments = true := by
  obtain ⟨list, hlist, hlists⟩ := Signature.parameterSpans_ne_nil_iff.1 h
  obtain ⟨c, hc, hvisible⟩ := hlists.exists_visible
  obtain ⟨lead, trail, hdeclaration, hlead, htrail⟩ :=
    Signature.exists_append_labelOf stub.declaration
  obtain ⟨front, rest, hlabel, hfront, hrest⟩ := Signature.of_listText? hlist
  have hparen : '(' ∉ lead ++ front := fun hmem => (List.mem_append.1 hmem).elim hlead hfront
  have hblank : ')' ∉ trail := fun hmem => absurd (htrail _ hmem) (by decide)
  have hsplit : stub.declaration = lead ++ front ++ '(' :: (rest ++ trail) := by
    conv_lhs => rw [hdeclaration, hlabel]
    simp only [List.append_assoc, List.cons_append]
  -- the character that is shown stands in the list, and the stub looks at all of the list
  by_cases hclosing : ')' ∈ rest
  · obtain ⟨inner, back, rfl, hback⟩ := Text.exists_append_last hclosing
    have hinner : stub.argumentText? = some inner := by
      refine @argumentText?_of_closed _ _ _ (back ++ trail) hparen ?_ ?_
      · exact fun hmem => (List.mem_append.1 hmem).elim hback hblank
      · rw [hsplit, List.append_assoc inner, List.cons_append]
    rw [takesArguments_iff hinner]
    rcases hrest with ⟨behind, hbehind⟩ | ⟨rfl, hunclosed⟩
    · -- the last parenthesis closes the list or stands behind it
      obtain ⟨more, rfl⟩ := Text.exists_eq_append_of_last hback hbehind
      exact ⟨c, List.mem_append_left _ hc, hvisible⟩
    · exact Line.exists_visible_of_closingParen? (hlabel ▸ hunclosed)
  · rw [takesArguments_iff (argumentText?_of_unclosed hparen
      (fun hmem => (List.mem_append.1 hmem).elim hclosing hblank) hsplit)]
    rcases hrest with ⟨behind, rfl⟩ | ⟨rfl, -⟩
    · exact absurd (by simp) hclosing
    · exact ⟨c, List.mem_append_left _ hc, hvisible⟩

/-- For a properly nested list, a stub takes arguments if the list is not blank or a parenthesis is
closed behind it. -/
theorem takesArguments_enclosed (hfront : '(' ∉ front)
    (h : stub.declaration = front ++ '(' :: (list ++ ')' :: back)) :
    stub.takesArguments = true ↔ ')' ∈ back ∨ ∃ c ∈ list, isBlank c = false := by
  by_cases hclosing : ')' ∈ back
  · -- the parenthesis that closes the list stands in front of the last one
    obtain ⟨between, behind, rfl, hbehind⟩ := Text.exists_append_last hclosing
    have hinner : stub.argumentText? = some (list ++ ')' :: between) :=
      argumentText?_of_closed hfront hbehind (by rw [h, List.append_assoc, List.cons_append])
    rw [takesArguments_iff hinner]
    exact iff_of_true ⟨')', by simp, by decide⟩ (.inl hclosing)
  · rw [takesArguments_iff (argumentText?_of_closed hfront hclosing h), or_iff_right hclosing]

/-! ### Declaration files -/

/-- There is no parenthesis in the sign at the start of a text. -/
theorem notMem_take_sign (text : Text) :
    '(' ∉ text.take ((text.take 1).filter isTypeSign).length := by
  cases text with
  | nil => exact List.not_mem_nil
  | cons c text =>
    rw [List.take_succ_cons, List.take_zero]
    by_cases hc : isTypeSign c = true
    · rw [List.filter_cons_of_pos hc, List.filter_nil, List.length_singleton, List.take_succ_cons,
        List.take_zero, List.mem_singleton]
      rintro rfl
      cases hc
    · rw [List.filter_cons_of_neg hc]
      exact List.not_mem_nil

/-- Between a name and its list there are blanks and a sign. -/
theorem exists_append_list (behind : Text) : ∃ lead,
    behind = lead ++ Text.trimStart
      (behind.trimStart.drop ((behind.trimStart.take 1).filter isTypeSign).length) ∧
      '(' ∉ lead := by
  have hblank (text : Text) : '(' ∉ text.takeWhile isBlank := fun hmem =>
    absurd (List.mem_takeWhile_imp hmem) (by decide)
  have hsign := notMem_take_sign behind.trimStart
  generalize hn : ((behind.trimStart.take 1).filter isTypeSign).length = n at hsign ⊢
  refine ⟨behind.takeWhile isBlank ++ (behind.trimStart.take n ++
    (behind.trimStart.drop n).takeWhile isBlank), ?_, ?_⟩
  · rw [List.append_assoc, List.append_assoc, Text.blanks_append_trimStart,
      List.take_append_drop, Text.blanks_append_trimStart]
  · simp only [List.mem_append, not_or]
    exact ⟨hblank _, hsign, hblank _⟩

/-- A list of parameters is passed over up to its first closing parenthesis. -/
theorem of_afterParameters? {text : Text} (h : afterParameters? text = some rest) :
    text = rest ∨ ∃ list, text = '(' :: (list ++ ')' :: rest) ∧ ')' ∉ list := by
  unfold afterParameters? at h
  split at h
  · next text =>
    split at h
    · next d rest' hdrop =>
      cases h
      -- what is left behind all other characters starts with the parenthesis
      have hd := List.head?_dropWhile_not (fun c => c != ')') text
      rw [hdrop, List.head?_cons] at hd
      obtain rfl : d = ')' := by simpa using hd
      refine .inr ⟨text.takeWhile (· != ')'), ?_, fun hmem => ?_⟩
      · rw [← hdrop, List.takeWhile_append_dropWhile]
      · exact absurd (List.mem_takeWhile_imp hmem) (by decide)
    · cases h
  · exact .inl (Option.some.inj h)

/-- The signature of a declaration ends with its list, if it has one. -/
theorem of_declaration? {line name signature : Text}
    (h : declaration? line = some (name, signature)) :
    '(' ∉ signature ∨ ∃ front list, signature = front ++ '(' :: (list ++ [')']) ∧ '(' ∉ front ∧
      ')' ∉ list := by
  obtain ⟨name', hname, h⟩ := Option.bind_eq_some_iff.1 h
  obtain ⟨behind, rfl, hword, -⟩ := Text.identifier?_eq_some hname
  rw [List.drop_left] at h
  obtain ⟨lead, hbehind, hlead⟩ := exists_append_list behind
  obtain ⟨after, hafter, h⟩ := Option.bind_eq_some_iff.1 h
  split at h
  · cases h
    have hfront : '(' ∉ name ++ lead := fun hmem => (List.mem_append.1 hmem).elim
      (fun hmem => absurd (hword.all_word _ hmem) (by decide)) hlead
    have hcut (written : Text) :
        (written ++ after).take ((written ++ after).length - after.length) = written := by
      rw [List.length_append, Nat.add_sub_cancel, List.take_left]
    rcases of_afterParameters? hafter with hnone | ⟨list, hlist, hclosing⟩
    · left
      rw [hbehind, hnone, ← List.append_assoc, hcut]
      intro hmem
      obtain ⟨trail, htrim, -⟩ := Text.exists_eq_trim_append (name ++ lead)
      exact hfront (htrim ▸ List.mem_append_right _ (List.mem_append_left _ hmem))
    · right
      refine ⟨name ++ lead, list, ?_, hfront, hclosing⟩
      have hwritten : name ++ behind = (name ++ lead ++ '(' :: (list ++ [')'])) ++ after := by
        rw [hbehind, hlist]
        simp
      rw [hwritten, hcut]
      obtain ⟨c, name, rfl⟩ := List.exists_cons_of_ne_nil hword.ne_nil
      have hends : c :: name ++ lead ++ '(' :: (list ++ [')']) =
          c :: (name ++ lead ++ '(' :: list ++ [')']) := by simp
      rw [hends]
      exact Text.trim_cons_concat (isBlank_of_isWordChar (hword.all_word c List.mem_cons_self))
        (by decide) _
  · cases h

/-- Every stub of a declaration file comes from a line that declares it. -/
theorem exists_of_mem_gatherLibrary {source library : Text} {lines : List Text}
    (h : stub ∈ gatherLibrary source library lines) :
    ∃ library line name signature, declaration? line = some (name, signature) ∧
      stub = ofDeclaration library source name signature := by
  induction lines generalizing library with
  | nil => exact absurd h List.not_mem_nil
  | cons line lines ih =>
    rw [gatherLibrary] at h
    split at h
    · exact ih h
    · split at h
      · next name signature hdeclaration =>
        rcases List.mem_cons.1 h with rfl | h
        · exact ⟨library, _, name, signature, hdeclaration, rfl⟩
        · exact ih h
      · exact ih h

/-- The declaration of a stub of a declaration file ends with its list. -/
theorem exists_declaration_eq {text source : Text} (h : stub ∈ readLibrary text source) :
    ∃ front list, stub.declaration = front ++ '(' :: (list ++ [')']) ∧ '(' ∉ front ∧
      ')' ∉ list := by
  obtain ⟨library, line, name, signature, hsignature, rfl⟩ := exists_of_mem_gatherLibrary h
  have hkeyword : '(' ∉ "Function ".toList := by decide
  simp only [ofDeclaration, List.contains_iff_mem]
  rcases of_declaration? hsignature with hnone | ⟨front, list, rfl, hfront, hlist⟩
  · rw [if_neg hnone]
    exact ⟨"Function ".toList ++ signature, [], rfl,
      fun hmem => (List.mem_append.1 hmem).elim hkeyword hnone, List.not_mem_nil⟩
  · rw [if_pos (by simp)]
    exact ⟨"Function ".toList ++ front, list, (List.append_assoc ..).symm,
      fun hmem => (List.mem_append.1 hmem).elim hkeyword hfront, hlist⟩

/-! ### Arguments and parameters -/

/-- The item of a stub has a place for the arguments if the stub takes some. -/
theorem insertText_ofStub_iff (stub : Stub) (bracketsEverywhere : Bool) :
    (Completion.ofStub bracketsEverywhere stub).insertText = stub.name ++ "($\x7b1\x7d)" ↔
      stub.takesArguments = true := by
  change (if stub.takesArguments then _ else if bracketsEverywhere then _ else stub.name) = _ ↔ _
  by_cases htakes : stub.takesArguments = true
  · rw [if_pos htakes]
    exact iff_of_true rfl htakes
  · rw [if_neg htakes]
    refine iff_of_false (fun hinsert => ?_) htakes
    -- what is inserted otherwise is shorter
    have hlength := congrArg List.length hinsert
    cases bracketsEverywhere <;> simp at hlength

/-- A stub takes arguments if and only if its signature has parameters: that is so for the stubs
that take none, for those with a list that shows a parameter, and for no others. -/
theorem takesArguments_iff_parameters_iff (stub : Stub) (description docs : List Text) :
    (stub.takesArguments = true ↔
        (Signature.build stub.declaration description docs).parameters ≠ []) ↔
      stub.takesArguments = false ∨ ∃ list,
        Signature.listText? (Signature.labelOf stub.declaration) = some list ∧
          Signature.Place.outermost.Lists list := by
  rw [Signature.parameters_build_ne_nil_iff, ← Signature.parameterSpans_ne_nil_iff,
    ← Bool.not_eq_true]
  have := stub.takesArguments_of_parameters
  tauto

/-- If the list is properly nested, that is so if it is blank and no parenthesis is closed behind
it, or if something visible but commas stands in it. -/
theorem takesArguments_iff_parameters_iff_enclosed (hfront : '(' ∉ front)
    (hlist : Line.Enclosed list) (h : stub.declaration = front ++ '(' :: (list ++ ')' :: back))
    (description docs : List Text) :
    (stub.takesArguments = true ↔
        (Signature.build stub.declaration description docs).parameters ≠ []) ↔
      (list.all isBlank = true ∧ ')' ∉ back) ∨ ∃ c ∈ list, isBlank c = false ∧ c ≠ ',' := by
  obtain ⟨front', back', hlabel, hfront'⟩ := Signature.exists_labelOf_eq hfront h
  rw [takesArguments_iff_parameters_iff, ← Bool.not_eq_true, takesArguments_enclosed hfront h,
    not_or, ← Text.isBlankText_eq_false_iff, Bool.not_eq_false, and_comm, hlabel,
    Signature.listText?_enclosed hfront' hlist]
  simp only [Option.some.injEq, exists_eq_left', Signature.Place.lists_enclosed_iff hlist]
  rfl

/-- The item of a stub shows the parameters and has a place for the arguments if and only if the
stub takes arguments, which it does whenever its signature has a parameter. The converse holds for
the stubs that take none and for those with a list that shows a parameter, and for no others. So if
the list is properly nested, the converse holds if it is blank and no parenthesis is closed behind
it, or if something stands in it that is neither a blank nor a comma. In a declaration file nothing
stands behind the list. -/
theorem takesArguments_iff_parameters (stub : Stub) (bracketsEverywhere : Bool) :
    let parameters := (Signature.build stub.declaration stub.description stub.paramDocs).parameters
    let item := Completion.ofStub bracketsEverywhere stub
    (item.showsParameters = stub.takesArguments ∧
      (item.insertText = stub.name ++ "($\x7b1\x7d)" ↔ stub.takesArguments = true)) ∧
    (parameters ≠ [] → stub.takesArguments = true) ∧
    ((stub.takesArguments = true ↔ parameters ≠ []) ↔ stub.takesArguments = false ∨
      ∃ list, Signature.listText? (Signature.labelOf stub.declaration) = some list ∧
        Signature.Place.outermost.Lists list) ∧
    (∀ front list back, stub.declaration = front ++ '(' :: (list ++ ')' :: back) →
      '(' ∉ front → Line.Enclosed list →
      ((stub.takesArguments = true ↔ parameters ≠ []) ↔
        (list.all isBlank = true ∧ ')' ∉ back) ∨ ∃ c ∈ list, isBlank c = false ∧ c ≠ ',')) ∧
    ∀ text source, stub ∈ readLibrary text source →
      ∃ front list, stub.declaration = front ++ '(' :: (list ++ [')']) ∧ '(' ∉ front ∧
        (Line.Enclosed list → ((stub.takesArguments = true ↔ parameters ≠ []) ↔
          list.all isBlank = true ∨ ∃ c ∈ list, isBlank c = false ∧ c ≠ ',')) := by
  intro parameters item
  refine ⟨⟨rfl, insertText_ofStub_iff stub bracketsEverywhere⟩, fun h => ?_,
    takesArguments_iff_parameters_iff stub _ _, fun front list back h hfront hlist => ?_,
    fun text source h => ?_⟩
  · exact takesArguments_of_parameters ((Signature.parameters_build_ne_nil_iff ..).1 h)
  · exact takesArguments_iff_parameters_iff_enclosed hfront hlist h _ _
  · obtain ⟨front, list, hdeclaration, hfront, -⟩ := exists_declaration_eq h
    refine ⟨front, list, hdeclaration, hfront, fun hlist => ?_⟩
    have hiff := takesArguments_iff_parameters_iff_enclosed hfront hlist hdeclaration
      stub.description stub.paramDocs
    rwa [and_iff_left List.not_mem_nil] at hiff

/-- A list of two parameters, with a comment behind it. -/
theorem takesArguments_iff_parameters_two :
    ∃ stub ∈ Stub.readAll "Function Foo(a, b) ; both" none,
      let parameters :=
        (Signature.build stub.declaration stub.description stub.paramDocs).parameters
      stub.takesArguments = true ∧ (stub.takesArguments = true ↔ parameters ≠ []) := by
  let stub : Stub := { name := "Foo", declaration := "Function Foo(a, b) ; both" }
  have hlist : Line.Enclosed "a, b".toList := .chars "a, b".toList (by decide) .nil
  refine ⟨stub, by decide +kernel, by decide +kernel, ?_⟩
  exact ((takesArguments_iff_parameters stub true).2.2.2.1 "Function Foo" "a, b" " ; both" rfl
    (by decide) hlist).2 (.inr ⟨'a', by decide, by decide, by decide⟩)

/-- An empty list, with a comment behind it in which a parenthesis is closed. -/
theorem takesArguments_iff_parameters_comment :
    ∃ stub ∈ Stub.readAll "Function Foo() ; see Bar(x)" none,
      let parameters :=
        (Signature.build stub.declaration stub.description stub.paramDocs).parameters
      stub.takesArguments = true ∧ parameters = [] ∧
        ¬(stub.takesArguments = true ↔ parameters ≠ []) := by
  decide +kernel

end Stub

end BlitzLens
