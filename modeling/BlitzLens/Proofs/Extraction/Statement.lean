import BlitzLens.Proofs.Extraction.Readers
import BlitzLens.Proofs.Line.Word

/-!
# Where the names of a statement stand

A statement gives the columns of its names and lists. This file shows that they are right for every
line (`Statement.wellPlaced_read`): a name is a whole word of the code of the line, and a list is a
piece of the code that no word reaches out of.
-/

namespace BlitzLens

namespace Line

/-- A piece of text stands apart in the code of a line. -/
structure CodeAt (line : Text) (column : Nat) (piece : Text) : Prop extends
    StandsAt line column piece where
  /-- The piece ends before the comment. -/
  inCode : column + piece.length ≤ codeEnd line

/-- A name is a whole word of the code of a line. -/
structure NameAt (line : Text) (column : Nat) (name : Text) : Prop extends
    CodeAt line column name where
  /-- The name is a word. -/
  isWord : Text.IsWord name

/-- A semicolon stands at the column where the comment starts. -/
theorem head?_drop_semicolonFrom? {quoted : Bool} {text : Text} {n : Nat}
    (h : semicolonFrom? quoted text = some n) : (text.drop n).head? = some ';' := by
  induction text generalizing quoted n with
  | nil => cases h
  | cons c text ih =>
    rw [semicolonFrom?] at h
    split_ifs at h with hquote hsemicolon
    · obtain ⟨m, hm, rfl⟩ := Option.map_eq_some_iff.1 h
      exact ih hm
    · cases h
      simp only [Bool.and_eq_true, beq_iff_eq] at hsemicolon
      rw [List.drop_zero, List.head?_cons, hsemicolon.1]
    · obtain ⟨m, hm, rfl⟩ := Option.map_eq_some_iff.1 h
      exact ih hm

/-- No word goes on behind the code. -/
theorem startsWord_drop_codeEnd (line : Text) :
    Text.startsWord (line.drop (codeEnd line)) = false := by
  unfold codeEnd
  cases h : commentStart? line with
  | none => rw [Option.getD_none, List.drop_length, Text.startsWord_nil]
  | some n =>
    rw [Option.getD_some, Text.startsWord, head?_drop_semicolonFrom? h]
    decide

/-- What stands apart in the code stands apart in the line. -/
theorem CodeAt.of_code {line before piece after : Text} (h : code line = before ++ (piece ++ after))
    (hleft : Text.endsWord before = false) (hright : Text.startsWord after = false) :
    CodeAt line before.length piece := by
  have hline : line = before ++ (piece ++ (after ++ line.drop (codeEnd line))) := by
    calc line
      _ = code line ++ line.drop (codeEnd line) := (List.take_append_drop _ _).symm
      _ = _ := by rw [h, List.append_assoc, List.append_assoc]
  have hlength := length_code line
  rw [h, List.length_append, List.length_append] at hlength
  have hstands : StandsAt (before ++ (piece ++ (after ++ line.drop (codeEnd line))))
      before.length piece :=
    .of_append hleft (Text.startsWord_append_eq_false hright (startsWord_drop_codeEnd line))
  rw [← hline] at hstands
  exact ⟨hstands, by omega⟩

end Line

namespace Statement

open Line

/-- Every name and every list of a statement stands where the statement says. -/
def WellPlaced (line : Text) : Statement → Prop
  | .declare _ list column | .declareFields list column => CodeAt line column list
  | .openLoop name suffix column _ | .assign name suffix column =>
    NameAt line column name ∧ Text.startsWord suffix = false
  | .openFunction name _ column parameters =>
    NameAt line column name ∧ ∀ list start, parameters = some (list, start) →
      CodeAt line start list ∧ column + name.length ≤ start
  | .openType name column | .label name column => NameAt line column name
  | _ => True

variable {line : Text}

/-- The column of what is left behind a text is its length. -/
theorem columnOf_append (before rest : Text) : columnOf (before ++ rest) rest = before.length := by
  rw [columnOf, List.length_append, Nat.add_sub_cancel]

/-- What follows a keyword stands behind a blank. -/
theorem exists_append_of_afterKeyword? {keyword text rest : Text}
    (h : afterKeyword? keyword text = some rest) :
    ∃ before, text = before ++ rest ∧ Text.endsWord before = false := by
  obtain ⟨word, gap, htrim, -, hgap, hblank⟩ := afterKeyword?_eq_some h
  refine ⟨text.takeWhile isBlank ++ (word ++ gap), ?_, ?_⟩
  · calc text
      _ = text.takeWhile isBlank ++ text.trimStart := (Text.blanks_append_trimStart text).symm
      _ = _ := by rw [htrim, List.append_assoc, List.append_assoc]
  · rw [← List.append_assoc, Text.endsWord_append hgap]
    exact Text.endsWord_of_isBlank hblank

/-- A list that follows a keyword stands at its column. -/
theorem codeAt_of_afterKeyword? {keyword list : Text}
    (h : afterKeyword? keyword (code line) = some list) :
    CodeAt line (columnOf (code line) list) list := by
  obtain ⟨before, hcode, hbefore⟩ := exists_append_of_afterKeyword? h
  have hnil : code line = before ++ (list ++ []) := by rwa [List.append_nil]
  rw [hcode, columnOf_append]
  exact CodeAt.of_code hnil hbefore rfl

/-- A name that stands behind what no word reaches out of stands at its column. -/
theorem nameAt_of_code {before name behind : Text} (h : code line = before ++ (name ++ behind))
    (hleft : Text.endsWord before = false) (hname : Text.IsWord name)
    (hright : Text.startsWord behind = false) :
    NameAt line (columnOf (code line) (name ++ behind)) name := by
  have hplaced := CodeAt.of_code h hleft hright
  rw [h, columnOf_append]
  exact ⟨hplaced, hname⟩

/-- A name that follows a keyword stands at its column. -/
theorem nameAt_of_afterKeyword? {keyword named name behind : Text}
    (h : afterKeyword? keyword (code line) = some named)
    (hname : Text.looseIdentifier? named = some (name, behind)) :
    NameAt line (columnOf (code line) named) name := by
  obtain ⟨before, hcode, hbefore⟩ := exists_append_of_afterKeyword? h
  obtain ⟨rfl, hword, hbehind⟩ := Text.looseIdentifier?_eq_some hname
  exact nameAt_of_code hcode hbefore hword hbehind

/-- A sign that annotates a type belongs to no word. -/
theorem isWordChar_of_isTypeSign {c : Char} (h : isTypeSign c = true) : isWordChar c = false := by
  simp only [isTypeSign, Bool.or_eq_true, beq_iff_eq] at h
  rcases h with (rfl | rfl) | rfl <;> decide

/-- A suffix is what a text starts with, and it does not start with a word. -/
theorem takeLooseSuffix_append (text : Text) :
    (takeLooseSuffix text).1 ++ (takeLooseSuffix text).2 = text ∧
      Text.startsWord (takeLooseSuffix text).1 = false := by
  unfold takeLooseSuffix
  split
  · exact ⟨rfl, rfl⟩
  · next c rest =>
    split_ifs with hsign hdot
    · exact ⟨rfl, by rw [Text.startsWord_cons]; exact isWordChar_of_isTypeSign hsign⟩
    · cases hname : Text.looseIdentifier? (rest.dropWhile isBlank) with
      | none => exact ⟨rfl, rfl⟩
      | some found =>
        obtain ⟨name, rest'⟩ := found
        obtain ⟨hrest, -, -⟩ := Text.looseIdentifier?_eq_some hname
        refine ⟨?_, ?_⟩
        · simp only [List.cons_append, List.append_assoc, ← hrest,
            List.takeWhile_append_dropWhile]
        · rw [beq_iff_eq] at hdot
          subst hdot
          exact (Text.startsWord_cons '.' _).trans (by decide)
    · exact ⟨rfl, rfl⟩

/-! ## Parameter lists -/

/-- The parenthesis that closes a group stands in the text. -/
theorem exists_getElem?_of_closingFrom? {depth column closing : Int} {quoted : Bool} {text : Text}
    (h : closingFrom? depth quoted column text = some closing) :
    ∃ n : Nat, closing = column + n ∧ text[n]? = some ')' := by
  induction text generalizing depth column quoted with
  | nil => cases h
  | cons c text ih =>
    -- what closes the group behind a character stands one column further on
    have hlater {depth : Int} {quoted : Bool}
        (h : closingFrom? depth quoted (column + 1) text = some closing) :
        ∃ n : Nat, closing = column + n ∧ (c :: text)[n]? = some ')' := by
      obtain ⟨n, hn, htext⟩ := ih h
      exact ⟨n + 1, by omega, htext⟩
    rw [closingFrom?] at h
    split_ifs at h with hquote hquoted hopen hclose hdepth
    · exact hlater h
    · exact hlater h
    · exact hlater h
    · cases h
      rw [beq_iff_eq] at hclose
      exact ⟨0, by omega, by rw [hclose]; rfl⟩
    · exact hlater h
    · exact hlater h

/-- A parenthesis that is found at or behind a column stands there. -/
theorem drop_of_indexFrom? {text : Text} {c : Char} {column index : Nat}
    (h : text.indexFrom? c column = some index) :
    column ≤ index ∧ index < text.length ∧ text.drop index = c :: text.drop (index + 1) := by
  obtain ⟨distance, hdistance, rfl⟩ := Option.map_eq_some_iff.1 h
  obtain ⟨hinside, hfound, -⟩ := List.findIdx?_eq_some_iff_getElem.1 hdistance
  rw [List.length_drop] at hinside
  rw [List.getElem_drop, beq_iff_eq] at hfound
  have hindex : distance + column < text.length := by omega
  refine ⟨Nat.le_add_left _ _, hindex, ?_⟩
  rw [List.drop_eq_getElem_cons hindex, ← hfound]
  simp only [Nat.add_comm]

/-- What stands between two parentheses is followed by the second one. -/
theorem drop_of_closingParen? {text : Text} {opening : Nat} {closing : Int}
    (hopening : text.drop opening = '(' :: text.drop (opening + 1))
    (h : closingParen? text opening = some closing) :
    ∃ behind, text.drop (opening + 1) =
      text.slice ((opening + 1 : Nat) : Int) closing ++ ')' :: behind := by
  obtain ⟨n, rfl, hn⟩ := exists_getElem?_of_closingFrom? h
  rw [hopening] at hn
  cases n with
  | zero => cases hn
  | succ n =>
    rw [List.getElem?_cons_succ] at hn
    obtain ⟨hbound, hn⟩ := List.getElem?_eq_some_iff.1 hn
    have hlength : opening + (n + 1) - (opening + 1) = n := by omega
    refine ⟨(text.drop (opening + 1)).drop (n + 1), ?_⟩
    rw [← Int.natCast_add, Text.slice_natCast, hlength, ← hn, ← List.drop_eq_getElem_cons hbound,
      List.take_append_drop]

/-- A parameter list stands in parentheses, at or behind the column from which it is looked for. -/
theorem codeAt_of_parameterList? {list : Text} {column start : Nat}
    (h : parameterList? (code line) column = some (list, start)) :
    CodeAt line start list ∧ column ≤ start := by
  obtain ⟨opening, hopening, h⟩ := Option.bind_eq_some_iff.1 h
  obtain ⟨hle, hinside, hdrop⟩ := drop_of_indexFrom? hopening
  -- a list that is not closed goes on to the end of the code
  obtain ⟨after, hlist, hafter, rfl⟩ : ∃ after, (code line).drop (opening + 1) = list ++ after ∧
      Text.startsWord after = false ∧ start = opening + 1 := by
    cases hclosing : closingParen? (code line) opening with
    | none =>
      rw [hclosing] at h
      cases h
      exact ⟨[], (List.append_nil _).symm, rfl, rfl⟩
    | some closing =>
      rw [hclosing] at h
      cases h
      obtain ⟨behind, hbehind⟩ := drop_of_closingParen? hdrop hclosing
      exact ⟨_, hbehind, (Text.startsWord_cons _ _).trans (by decide), rfl⟩
  have hcode : code line = ((code line).take opening ++ ['(']) ++ (list ++ after) := by
    rw [← hlist, List.append_assoc, List.singleton_append, ← hdrop, List.take_append_drop]
  have hlength : ((code line).take opening ++ ['(']).length = opening + 1 := by
    rw [List.length_append, List.length_take, List.length_singleton]
    omega
  have hplaced := CodeAt.of_code hcode (by rw [Text.endsWord_concat]; decide) hafter
  rw [hlength] at hplaced
  exact ⟨hplaced, by omega⟩

/-! ## All statements -/

/-- Every name and every list of a statement stands where the statement says. -/
theorem wellPlaced_read (line : Text) : (read line).WellPlaced line := by
  rcases read_mem_readings line with hother | hmem
  · rw [hother]
    trivial
  -- one case for each reader, in the order in which they are tried
  generalize read line = statement at hmem
  simp only [readings, List.mem_cons, List.not_mem_nil, or_false] at hmem
  rcases hmem with hread | hread | hread | hread | hread | hread | hread | hread | hread | hread |
    hread | hread
  · obtain ⟨target, rfl⟩ := of_readInclude? hread.symm
    trivial
  · obtain ⟨keyword, -, list, hlist, rfl⟩ := of_readDeclaration? hread.symm
    exact codeAt_of_afterKeyword? hlist
  · obtain ⟨named, name, behind, closed, hnamed, hname, rfl⟩ := of_readLoop? hread.symm
    exact ⟨nameAt_of_afterKeyword? hnamed hname, (takeLooseSuffix_append _).2⟩
  · rw [of_readLoopEnd? hread.symm]
    trivial
  · obtain ⟨name, sign, hname, hsign, rfl⟩ := of_readAssignment? hread.symm
    obtain ⟨behind, htrim, hword, hbehind⟩ := Text.identifier?_eq_some hname
    refine ⟨?_, ?_⟩
    · have hcode := (Text.blanks_append_trimStart (code line)).symm
      rw [htrim] at hcode ⊢
      exact nameAt_of_code hcode
        (Text.endsWord_of_isBlank fun c hc => List.mem_takeWhile_imp hc) hword hbehind
    · cases sign with
      | nil => rfl
      | cons c sign =>
        rw [Text.startsWord_cons]
        exact isWordChar_of_isTypeSign (hsign c List.mem_cons_self)
  · obtain ⟨text, rfl | rfl | rfl⟩ := of_readDocument? hread.symm <;> trivial
  · rw [of_readFunctionEnd? hread.symm]
    trivial
  · obtain ⟨named, name, behind, hnamed, hname, rfl⟩ := of_readFunction? hread.symm
    refine ⟨nameAt_of_afterKeyword? hnamed hname, fun list start hlist => ?_⟩
    obtain ⟨hplaced, hbehind⟩ := codeAt_of_parameterList? hlist
    refine ⟨hplaced, Nat.le_trans ?_ hbehind⟩
    -- the list is looked for behind the suffix, which stands behind the name
    obtain ⟨before, hcode, -⟩ := exists_append_of_afterKeyword? hnamed
    have hnamedLength := congrArg List.length (Text.looseIdentifier?_eq_some hname).1
    have hbehindLength := congrArg List.length (Text.blanks_append_trimStart behind)
    have hrestLength := congrArg List.length (takeLooseSuffix_append behind.trimStart).1
    rw [hcode, columnOf_append, columnOf]
    simp only [List.length_append] at hnamedLength hbehindLength hrestLength ⊢
    omega
  · rw [of_readTypeEnd? hread.symm]
    trivial
  · obtain ⟨named, name, behind, hnamed, hname, rfl⟩ := of_readType? hread.symm
    exact nameAt_of_afterKeyword? hnamed hname
  · obtain ⟨list, hlist, rfl⟩ := of_readFields? hread.symm
    exact codeAt_of_afterKeyword? hlist
  · obtain ⟨rest, name, htrim, hname, rfl⟩ := of_readLabel? hread.symm
    obtain ⟨behind, rfl, hword, hbehind⟩ := Text.identifier?_eq_some hname
    have hcode := (Text.blanks_append_trimStart (code line)).symm
    rw [htrim, ← List.singleton_append, ← List.append_assoc] at hcode
    exact nameAt_of_code hcode (by rw [Text.endsWord_concat]; decide) hword hbehind

end Statement

end BlitzLens
