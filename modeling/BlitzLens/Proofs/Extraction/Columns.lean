import BlitzLens.Proofs.Extraction.Variables

/-!
# The columns of listed names

The parts of a list stand between its commas, so each of them has a place of its own on the line
(`Part.ownColumn`). The place of the variable that a part declares is not kept from there. The line
is searched for the name, from behind the name that was found for the part before (`Part.cursor`).
So the place is the part's own exactly if the name does not stand as a whole word in between, be it
in a default value, a type, a string or a piece without a name (`extract_listed_startCol`).

## Main definitions

* `Part.ownColumn`, `Part.cursor`: where the name of a part stands, and where it is searched from.
* `Line.NowhereBetween`: a name does not stand between two columns.
* `Variable.DeclaredBy`: which part of a list declares a variable.

## Main results

* `Part.locate_eq_ownColumn_iff`: when a part is located at its own column.
* `extract_listed_startCol`: the same of every variable that a pass finds.
-/

namespace BlitzLens

/-! ## The pieces of a list -/

namespace Text

/-- Each of the pieces in front of a piece has a separator behind it, and each of those behind the
piece has one in front of it. -/
theorem joinWith_append_cons (separator piece : Text) (front back : List Text) :
    joinWith separator (front ++ piece :: back) =
      front.flatMap (· ++ separator) ++ (piece ++ back.flatMap (separator ++ ·)) := by
  induction front with
  | nil =>
    induction back generalizing piece with
    | nil => simp
    | cons next back ih =>
      rw [List.nil_append, joinWith_cons_cons, ← List.nil_append (next :: back), ih]
      simp
  | cons first front ih =>
    obtain ⟨next, rest, hrest⟩ := List.exists_cons_of_ne_nil
      (List.append_ne_nil_of_right_ne_nil front (List.cons_ne_nil piece back))
    rw [List.cons_append, hrest, joinWith_cons_cons, ← hrest, ih]
    simp

end Text

namespace Part

/-- The column where the name of a piece stands in a list that starts at a column: behind the pieces
in front, each with its comma, and behind the blanks that the piece starts with. -/
def ownColumn (column : Nat) (front : List Text) (piece : Text) : Nat :=
  column + (front.flatMap (· ++ [','])).length + (piece.takeWhile isBlank).length

/-- The column behind the names of some parts that are located one behind the other, from a column
on. -/
def cursor (line : Text) (column : Nat) : List Part → Nat
  | [] => column
  | part :: parts => cursor line (locate line part.name column).2 parts

/-- Parts are located behind those in front of them. -/
theorem cursor_append (line : Text) (column : Nat) (parts later : List Part) :
    cursor line column (parts ++ later) = cursor line (cursor line column parts) later := by
  induction parts generalizing column with
  | nil => rfl
  | cons part parts ih => exact ih _

end Part

/-- A part is located behind those in front of it. -/
theorem snd_of_locateParts {line : Text} {column : Nat} {parts : List Part}
    {front back : List (Part × Nat)} {place : Part × Nat}
    (h : locateParts line column parts = front ++ place :: back) :
    place.2 = (locate line place.1.name (Part.cursor line column (front.map Prod.fst))).1 := by
  induction front generalizing column parts with
  | nil =>
    cases parts with
    | nil => cases h
    | cons part parts =>
      obtain ⟨rfl, -⟩ := List.cons.inj h
      rfl
  | cons first front ih =>
    cases parts with
    | nil => cases h
    | cons part parts =>
      obtain ⟨rfl, hrest⟩ := List.cons.inj h
      exact ih hrest

section List

variable {line list piece : Text} {column : Nat} {front back : List Text} {part : Part}

/-- A piece of a list that stands on a line stands there behind the pieces in front of it. -/
theorem Line.StandsAt.exists_append_piece (h : StandsAt line column list)
    (hsplit : splitTopLevel ',' list = front ++ piece :: back) :
    ∃ before after, line = before ++ (piece ++ after) ∧
      before.length = column + (front.flatMap (· ++ [','])).length ∧
      Text.endsWord before = false ∧ Text.startsWord after = false := by
  obtain ⟨before, after, rfl, rfl, hbefore, hafter⟩ := h.exists_append
  have hjoin := joinWith_splitFrom ',' .outermost list
  rw [splitTopLevel] at hsplit
  rw [hsplit, Text.joinWith_append_cons] at hjoin
  refine ⟨before ++ front.flatMap (· ++ [',']), back.flatMap ([','] ++ ·) ++ after, ?_, ?_, ?_, ?_⟩
  · rw [← hjoin]
    simp
  · exact List.length_append
  · -- a comma is behind the last of the pieces in front
    rcases List.eq_nil_or_concat front with rfl | ⟨init, last, rfl⟩
    · simpa using hbefore
    · rw [List.concat_eq_append, List.flatMap_append, List.flatMap_singleton, ← List.append_assoc,
        ← List.append_assoc, Text.endsWord_concat]
      decide
  · cases back with
    | nil => exact hafter
    | cons next back =>
      rw [List.flatMap_cons, List.append_assoc, List.append_assoc, List.singleton_append,
        Text.startsWord_cons]
      decide

/-- The parts of the pieces in front of a comma are located in front of it. -/
theorem Part.cursor_le (h : Line.StandsAt line column list)
    (hsplit : Line.splitTopLevel ',' list = front ++ back) :
    cursor line column (front.filterMap parse?) ≤ column + (front.flatMap (· ++ [','])).length ∧
      Line.BetweenWords line (cursor line column (front.filterMap parse?)) := by
  -- the last piece is searched for from the cursor behind all others
  induction front using List.reverseRecOn generalizing back with
  | nil =>
    refine ⟨Nat.le_refl _, ?_⟩
    change Line.BetweenWords line column
    rw [Line.BetweenWords, h.left, Bool.false_and]
  | append_singleton front piece ih =>
    rw [List.append_assoc, List.singleton_append] at hsplit
    obtain ⟨hle, hbetween⟩ := ih hsplit
    have hwidth : ((front ++ [piece]).flatMap (· ++ [','])).length =
        (front.flatMap (· ++ [','])).length + (piece.length + 1) := by
      rw [List.flatMap_append, List.flatMap_singleton, List.length_append, List.length_append,
        List.length_singleton]
    rw [List.filterMap_append, cursor_append, hwidth]
    cases hpart : parse? piece with
    | none =>
      rw [List.filterMap_cons_none hpart]
      exact ⟨Nat.le_trans hle (by omega), hbetween⟩
    | some part =>
      obtain ⟨before, after, hline, hlength, hbefore, hafter⟩ := h.exists_append_piece hsplit
      obtain ⟨start, -, hlast, -, -, hnext, hlocate⟩ :=
        exists_locate_piece hpart hline (hlength ▸ hle) hbetween hbefore hafter
      specialize hlocate [] rfl
      rw [List.append_nil] at hlocate
      rw [List.filterMap_cons_some hpart, List.filterMap_nil, cursor, hlocate]
      exact ⟨by simp only [cursor]; omega, hnext⟩

/-- A name does not stand as a whole word at any column from one up to another. -/
def Line.NowhereBetween (line name : Text) (first last : Nat) : Prop :=
  ∀ column, first ≤ column → column < last → ¬StandsAt line column name

/-- A name that stands behind a column is located there exactly if it does not stand in between. -/
theorem Line.locate_eq_iff {name : Text} {start : Nat} (h : StandsAt line start name)
    (hname : Text.IsWord name) (hcolumn : column ≤ start) (hcursor : BetweenWords line column) :
    (locate line name column).1 = start ↔ NowhereBetween line name column start := by
  -- wherever the name stands behind the column, it is located there or before
  have hlocated {place : Nat} (hstands : StandsAt line place name) (hle : column ≤ place) :
      column ≤ (locate line name column).1 ∧ (locate line name column).1 ≤ place ∧
        StandsAt line (locate line name column).1 name := by
    obtain ⟨before, after, hline, rfl, hbefore, hafter⟩ := hstands.exists_append
    obtain ⟨first, hfirst, hlast, hstands, hlocate⟩ :=
      exists_locate_eq hline hle hcursor hbefore hname hafter
    specialize hlocate [] rfl
    rw [List.append_nil] at hlocate
    rw [hlocate]
    exact ⟨hfirst, hlast, hstands⟩
  constructor
  · intro heq between hle hlt hstands
    have hplace := (hlocated hstands hle).2.1
    omega
  · intro hnone
    obtain ⟨hle, hplace, hstands⟩ := hlocated h hcolumn
    by_contra hne
    exact hnone _ hle (by omega) hstands

/-- The name of a part stands at the part's own column, and is located there exactly if it does not
stand between the cursor and this column. -/
theorem Part.locate_eq_ownColumn_iff (h : Line.StandsAt line column list)
    (hsplit : Line.splitTopLevel ',' list = front ++ piece :: back)
    (hpart : parse? piece = some part) :
    Line.StandsAt line (ownColumn column front piece) part.name ∧
      ((locate line part.name (cursor line column (front.filterMap parse?))).1 =
          ownColumn column front piece ↔
        Line.NowhereBetween line part.name (cursor line column (front.filterMap parse?))
          (ownColumn column front piece)) := by
  obtain ⟨before, after, hline, hlength, hbefore, hafter⟩ := h.exists_append_piece hsplit
  obtain ⟨lead, trail, rfl, hlead, hword, htrail⟩ := exists_append_of_parse? hpart
  have hblanks : (lead ++ (part.name ++ trail)).takeWhile isBlank = lead := by
    obtain ⟨c, rest, hname⟩ := List.exists_cons_of_ne_nil hword.ne_nil
    have hc := isBlank_of_isWordChar (hword.all_word c (hname ▸ List.mem_cons_self))
    rw [List.takeWhile_append_of_pos hlead, hname, List.cons_append,
      List.takeWhile_cons_of_neg (by simp [hc]), List.append_nil]
  have hown : ownColumn column front (lead ++ (part.name ++ trail)) = (before ++ lead).length := by
    rw [ownColumn, hblanks, List.length_append, hlength]
  have hstands : Line.StandsAt line (before ++ lead).length part.name := by
    have hsplit : line = (before ++ lead) ++ (part.name ++ (trail ++ after)) := by simpa using hline
    rw [hsplit]
    exact .of_append (Text.endsWord_append_eq_false hbefore (Text.endsWord_of_isBlank hlead))
      (Text.startsWord_append_eq_false htrail hafter)
  obtain ⟨hle, hbetween⟩ := cursor_le h hsplit
  rw [hown]
  refine ⟨hstands, Line.locate_eq_iff hstands hword ?_ hbetween⟩
  rw [List.length_append]
  omega

end List

/-! ## The variables that lists declare -/

/-- A variable is declared by a piece of a list: the piece spells a part with its name, and no piece
in front of it spells one with its key. -/
structure Variable.DeclaredBy (list : Text) (front : List Text) (piece : Text) (v : Variable) :
    Prop where
  /-- The piece is one of those between the commas, behind those in front. -/
  split : ∃ back, Line.splitTopLevel ',' list = front ++ piece :: back
  /-- The piece spells a part with the name and the key of the variable. -/
  spelled : ∃ part, Part.parse? piece = some part ∧ part.name = v.name ∧ part.key = v.key
  /-- The key is new. -/
  first : ∀ earlier ∈ front.filterMap Part.parse?, earlier.key ≠ v.key

namespace Statement

variable {line list : Text} {column number : Nat} {source : Source} {v : Variable}

/-- The list of a statement stands where the statement says. -/
theorem standsAt_of_list? (h : (read line).list? = some (list, column)) :
    Line.StandsAt line column list := by
  have hplaced := wellPlaced_read line
  generalize read line = statement at h hplaced
  cases statement with
  | declare keyword list column =>
    cases h
    exact hplaced.toStandsAt
  | openFunction name suffix column parameters =>
    exact (hplaced.2 list _ h).1.toStandsAt
  | declareFields list column =>
    cases h
    exact hplaced.toStandsAt
  | _ => cases h

/-- A statement that gives the name of a variable lists none. -/
theorem Gives.list?_eq_none {statement : Statement} {name : Text}
    (h : statement.Gives .var name column) : statement.list? = none := by
  cases h <;> rfl

/-- What a statement makes stands in its file, on its line. -/
theorem Makes.path_startLine {statement : Statement} (h : statement.Makes source number line v) :
    v.path = source.path ∧ v.range.startLine = number := by
  cases h <;> exact ⟨rfl, rfl⟩

/-- What the statement of a line makes from a list is declared by a piece of the list, and it is
placed at the piece's own column exactly if its name does not stand between the cursor and this
column. -/
theorem Makes.startCol_iff (h : (read line).Makes source number line v)
    (hlist : (read line).list? = some (list, column)) :
    ∃ front piece, v.DeclaredBy list front piece ∧
      Line.StandsAt line (Part.ownColumn column front piece) v.name ∧
      (v.range.startCol = Part.ownColumn column front piece ↔
        Line.NowhereBetween line v.name (Part.cursor line column (front.filterMap Part.parse?))
          (Part.ownColumn column front piece)) := by
  cases h with
  | given hgives part declaration storage hstorage description closing =>
    rw [hgives.list?_eq_none] at hlist
    cases hlist
  | @listed list' column' front' back' place hlist' hplaces hfront declaration storage hstorage
      description constant =>
    obtain ⟨rfl, rfl⟩ := Prod.mk.inj (Option.some.inj (hlist.symm.trans hlist'))
    -- the located parts are those of the pieces
    have hparts := congrArg (List.map Prod.fst) hplaces
    rw [map_fst_locateParts, Part.parseList, List.map_append, List.map_cons] at hparts
    obtain ⟨front, rest, hsplit, hbefore, hrest⟩ := List.filterMap_eq_append_iff.1 hparts
    obtain ⟨skipped, piece, back, rfl, hskipped, hpiece, hback⟩ :=
      List.filterMap_eq_cons_iff.1 hrest
    have hnone : skipped.filterMap Part.parse? = [] := List.filterMap_eq_nil_iff.2 hskipped
    have hall : (front ++ skipped).filterMap Part.parse? = front'.map Prod.fst := by
      rw [List.filterMap_append, hnone, List.append_nil, hbefore]
    rw [← List.append_assoc] at hsplit
    have hlocated := snd_of_locateParts hplaces
    obtain ⟨hstands, hiff⟩ :=
      Part.locate_eq_ownColumn_iff (standsAt_of_list? hlist) hsplit hpiece
    refine ⟨front ++ skipped, piece, ⟨⟨back, hsplit⟩, ⟨place.1, hpiece, rfl, rfl⟩, ?_⟩, hstands, ?_⟩
    · rw [hall]
      exact List.forall_mem_map.2 hfront
    · rw [hall, ← hlocated] at hiff
      rw [hall]
      exact Int.ofNat_inj.trans hiff

end Statement

/-- A variable that a list declares is placed at its part's own column exactly if its name does not
stand as a whole word between this column and the name that was found for the part before. This
holds of every variable that a pass finds, on its own and as a parameter, a local or a field. -/
theorem extract_listed_startCol {disk : Disk} {rules : IncludeRules} {path text : Text}
    {found : List Symbol} (h : (extract disk rules path text).1 = .ok found) {symbol : Symbol}
    (hsymbol : symbol ∈ found) {v : Variable} (hv : symbol = .ofVariable v ∨ v ∈ symbol.members) :
    ∃ (visit : Visit) (number : Nat) (line : Text),
      (Visit.document disk rules path text).Reaches disk rules visit ∧
      visit.source.lines[number]? = some line ∧ v.path = visit.source.path ∧
      v.range.startLine = number ∧
      ∀ list column, (Statement.read line).list? = some (list, column) →
        ∃ front piece, v.DeclaredBy list front piece ∧
          Line.StandsAt line (Part.ownColumn column front piece) v.name ∧
          (v.range.startCol = Part.ownColumn column front piece ↔
            Line.NowhereBetween line v.name
              (Part.cursor line column (front.filterMap Part.parse?))
              (Part.ownColumn column front piece)) := by
  rw [extract_fst] at h
  obtain ⟨visit, hreaches, hstated⟩ := Visit.exists_statedIn h hsymbol
  have hvariable : ∃ isField, v.StatedIn visit.source isField := by
    cases hstated with
    | ofVariable hvariable =>
      rcases hv with hv | hv
      · cases hv
        exact ⟨_, hvariable⟩
      · cases hv
    | ofFunction hlocals =>
      rcases hv with hv | hv
      · cases hv
      · exact ⟨_, hlocals v hv⟩
    | ofType hfields =>
      rcases hv with hv | hv
      · cases hv
      · exact ⟨_, hfields v hv⟩
    | ofLabel =>
      rcases hv with hv | hv
      · cases hv
      · cases hv
  obtain ⟨isField, number, line, hline, hmakes, -⟩ := hvariable
  obtain ⟨hpath, hnumber⟩ := hmakes.path_startLine
  exact ⟨visit, number, line, hreaches, hline, hpath, hnumber,
    fun list column hlist => hmakes.startCol_iff hlist⟩

/-- Commas in brackets and in strings do not matter, and neither do other names in default
values. -/
theorem extract_listed_startCol_parameter :
    let disk := Disk.ofFile "lib.bb" [] 1
    let rules : IncludeRules := ⟨[], true, 2⟩
    let text : Text := "Function f(a, b = g(1, [2, 3]), c$ = \"a, b\")\nEnd Function"
    ∃ found symbol v, (extract disk rules "main.bb" text).1 = .ok found ∧ symbol ∈ found ∧
      v ∈ symbol.members ∧ v.name = "c".toList ∧ v.range.startCol = 32 ∧
      ∃ (visit : Visit) (number : Nat) (line : Text),
        (Visit.document disk rules "main.bb" text).Reaches disk rules visit ∧
        visit.source.lines[number]? = some line ∧ v.path = visit.source.path ∧
        v.range.startLine = number ∧
        ∀ list column, (Statement.read line).list? = some (list, column) →
          ∃ front piece, v.DeclaredBy list front piece ∧
            Line.StandsAt line (Part.ownColumn column front piece) v.name ∧
            (v.range.startCol = Part.ownColumn column front piece ↔
              Line.NowhereBetween line v.name
                (Part.cursor line column (front.filterMap Part.parse?))
                (Part.ownColumn column front piece)) := by
  intro disk rules text
  have hok : (extract disk rules "main.bb" text).1.isOk = true := by decide +kernel
  obtain ⟨found, hfound⟩ := exists_eq_ok_of_isOk hok
  have hfacts : ∀ found ∈ (extract disk rules "main.bb" text).1.toOption, ∃ symbol ∈ found,
      ∃ v ∈ symbol.members, v.name = "c".toList ∧ v.range.startCol = 32 := by
    decide +kernel
  rw [hfound] at hfacts
  obtain ⟨symbol, hsymbol, v, hv, hname, hstart⟩ := hfacts found rfl
  exact ⟨found, symbol, v, hfound, hsymbol, hv, hname, hstart,
    extract_listed_startCol hfound hsymbol (.inr hv)⟩

/-- A name in a default value is taken for the name of the next part. -/
theorem extract_listed_startCol_default :
    let disk := Disk.ofFile "lib.bb" [] 1
    let rules : IncludeRules := ⟨[], true, 2⟩
    let text : Text := "Global a = b, b"
    let front : List Text := ["a = b"]
    ∃ found v, (extract disk rules "main.bb" text).1 = .ok found ∧ .ofVariable v ∈ found ∧
      (Statement.read text).list? = some ("a = b, b".toList, 7) ∧
      v.DeclaredBy "a = b, b" front " b" ∧ Part.ownColumn 7 front " b" = 14 ∧
      v.range.startCol = 11 := by
  intro disk rules text front
  have hok : (extract disk rules "main.bb" text).1.isOk = true := by decide +kernel
  obtain ⟨found, hfound⟩ := exists_eq_ok_of_isOk hok
  have hfacts : ∀ found ∈ (extract disk rules "main.bb" text).1.toOption,
      ∃ v ∈ topVariables found, v.name = "b".toList ∧ v.key = "b".toList ∧
        v.range.startCol = 11 := by
    decide +kernel
  rw [hfound] at hfacts
  obtain ⟨v, hv, hname, hkey, hstart⟩ := hfacts found rfl
  have hdeclared : v.DeclaredBy "a = b, b" front " b" := by
    refine ⟨⟨[], by decide +kernel⟩, ?_, ?_⟩
    · rw [hname, hkey]
      exact ⟨⟨"b", "b", .none, false, none⟩, by decide +kernel, rfl, by decide +kernel⟩
    · rw [hkey]
      decide +kernel
  exact ⟨found, v, hfound, mem_topVariables.1 hv, by decide +kernel, hdeclared, by decide +kernel,
    hstart⟩

end BlitzLens
