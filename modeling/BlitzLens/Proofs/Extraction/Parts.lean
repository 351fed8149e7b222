import BlitzLens.Proofs.Extraction.Statement

/-!
# The places of the parts of a list

A part begins with its name, behind blanks (`Part.exists_append_of_parse?`), and the parts of a list
stand between commas. So each of them is located where its name is a whole word of the list, the
places go from left to right, and what stands behind the list does not matter
(`exists_locateParts_eq`). Adding the parts of a list is locating all of them, and then adding those
that are not declared yet (`addParts_eq`).
-/

namespace BlitzLens

namespace Text

/-- Only the last of several pieces has no separator behind it. -/
theorem joinWith_cons_cons (separator piece next : Text) (pieces : List Text) :
    joinWith separator (piece :: next :: pieces) =
      piece ++ (separator ++ joinWith separator (next :: pieces)) := rfl

@[simp]
theorem joinWith_singleton (separator piece : Text) : joinWith separator [piece] = piece := by
  simp [joinWith]

/-- What is trimmed from the end of a text are blanks. -/
theorem exists_trimEnd_append (text : Text) :
    ∃ blanks, text = text.trimEnd ++ blanks ∧ ∀ c ∈ blanks, isBlank c = true := by
  refine ⟨text.takeEndWhile isBlank, ?_, fun c hc => ?_⟩
  · rw [trimEnd, dropEndWhile, takeEndWhile, ← List.reverse_append,
      List.takeWhile_append_dropWhile, List.reverse_reverse]
  · rw [takeEndWhile, List.mem_reverse] at hc
    exact List.mem_takeWhile_imp hc

end Text

namespace Line

/-- The pieces between separators, joined by the separator, are the text. -/
theorem joinWith_splitFrom (separator : Char) (place : Nesting) (text : Text) :
    Text.joinWith [separator] (splitFrom separator place text) = text := by
  induction text generalizing place with
  | nil => rfl
  | cons c text ih =>
    rw [splitFrom]
    split_ifs with hdivides
    · -- the separator ends a piece, which is empty here, and starts the next one
      have hc : c = separator := by
        simp only [Nesting.divides, Bool.and_eq_true, beq_iff_eq] at hdivides
        exact hdivides.1.1.1
      obtain ⟨piece, pieces, hpieces⟩ :=
        List.exists_cons_of_ne_nil (splitFrom_ne_nil separator place text)
      rw [hpieces, Text.joinWith_cons_cons, ← hpieces, ih place, hc]
      rfl
    · -- any other character belongs to the first piece of what follows
      specialize ih (place.after c)
      cases hpieces : splitFrom separator (place.after c) text with
      | nil => exact absurd hpieces (splitFrom_ne_nil _ _ _)
      | cons piece pieces =>
        rw [hpieces] at ih
        cases pieces with
        | nil => simpa using ih
        | cons next pieces =>
          rw [Text.joinWith_cons_cons] at ih ⊢
          rw [List.cons_append, ih]

end Line

namespace Part

variable {text : Text} {part : Part}

/-- The name of a part is the identifier that its trimmed text starts with. -/
theorem identifier?_of_parse? (h : parse? text = some part) :
    text.trim.identifier? = some part.name := by
  have hwhole {text : Text} (h : readWhole? text = some part) :
      text.identifier? = some part.name := by
    obtain ⟨name, hname, h⟩ := Option.bind_eq_some_iff.1 h
    obtain ⟨value, -, h⟩ := Option.bind_eq_some_iff.1 h
    rw [hname, ← Option.some.inj h]
  rw [parse?] at h
  split at h
  · next whole hread => exact hwhole (h ▸ hread)
  · obtain ⟨name, hname, h⟩ := Option.map_eq_some_iff.1 h
    rw [hname, ← h]

/-- A part begins with its name, behind blanks. -/
theorem exists_append_of_parse? (h : parse? text = some part) :
    ∃ lead trail, text = lead ++ (part.name ++ trail) ∧ (∀ c ∈ lead, isBlank c = true) ∧
      Text.IsWord part.name ∧ Text.startsWord trail = false := by
  obtain ⟨rest, htrim, hword, hrest⟩ := Text.identifier?_eq_some (identifier?_of_parse? h)
  obtain ⟨blanks, hblanks, hblank⟩ := Text.exists_trimEnd_append text.trimStart
  refine ⟨text.takeWhile isBlank, rest ++ blanks, ?_, fun c hc => List.mem_takeWhile_imp hc, hword,
    Text.startsWord_append_eq_false hrest (Text.startsWord_of_isBlank hblank)⟩
  calc text
    _ = text.takeWhile isBlank ++ text.trimStart := (Text.blanks_append_trimStart text).symm
    _ = _ := by
      rw [hblanks, show text.trimStart.trimEnd = part.name ++ rest from htrim, List.append_assoc]

/-- The part that a name makes with a suffix has this name. -/
theorem name_of_parse?_append {name suffix : Text} (h : parse? (name ++ suffix) = some part)
    (hname : Text.IsWord name) (hsuffix : Text.startsWord suffix = false) : part.name = name := by
  obtain ⟨lead, trail, htext, hlead, hword, htrail⟩ := exists_append_of_parse? h
  -- the name starts with a word character, so it stands behind no blanks
  have hnil : lead = [] := by
    cases lead with
    | nil => rfl
    | cons c lead =>
      have hstart := hname.startsWord_append suffix
      rw [htext, List.cons_append, Text.startsWord_cons,
        isWordChar_of_isBlank (hlead c List.mem_cons_self)] at hstart
      cases hstart
  rw [hnil, List.nil_append] at htext
  exact hword.eq_of_append_eq hname htrail hsuffix htext.symm

end Part

/-! ## Locating the parts of a list -/

/-- The parts of a list with the columns at which they are located, each behind the one before
it. -/
def locateParts (line : Text) (column : Nat) : List Part → List (Part × Nat)
  | [] => []
  | part :: parts =>
    let (start, stop) := locate line part.name column
    (part, start) :: locateParts line stop parts

/-- Adds to `found`, in order, those located parts that are not declared yet. -/
def addLocated (build : Part → Nat → Variable) (declared : List Variable → Text → Bool)
    (found : List Variable) (located : List (Part × Nat)) : List Variable :=
  located.foldl (fun found place =>
    if declared found place.1.key then found else found ++ [build place.1 place.2]) found

/-- Locating the parts of a list keeps all of them. -/
theorem map_fst_locateParts (line : Text) (column : Nat) (parts : List Part) :
    (locateParts line column parts).map Prod.fst = parts := by
  induction parts generalizing column with
  | nil => rfl
  | cons part parts ih => exact congrArg (part :: ·) (ih _)

/-- The parts of a list are added where they are located. -/
theorem addParts_eq (build : Part → Nat → Variable) (declared : List Variable → Text → Bool)
    (line : Text) (column : Nat) (found : List Variable) (parts : List Part) :
    addParts build declared line column found parts =
      addLocated build declared found (locateParts line column parts) := by
  induction parts generalizing column found with
  | nil => rfl
  | cons part parts ih => exact ih _ _

/-- Some of the located parts are added, in their order. -/
theorem exists_sublist_addLocated (build : Part → Nat → Variable)
    (declared : List Variable → Text → Bool) (found : List Variable)
    (located : List (Part × Nat)) :
    ∃ placed : List (Part × Nat), placed.Sublist located ∧ addLocated build declared found located =
      found ++ placed.map fun place => build place.1 place.2 := by
  induction located generalizing found with
  | nil => exact ⟨[], .refl _, (List.append_nil found).symm⟩
  | cons place located ih =>
    rw [addLocated, List.foldl_cons]
    cases declared found place.1.key with
    | true =>
      obtain ⟨placed, hplaced, hadd⟩ := ih found
      exact ⟨placed, hplaced.cons place, hadd⟩
    | false =>
      obtain ⟨placed, hplaced, hadd⟩ := ih (found ++ [build place.1 place.2])
      refine ⟨place :: placed, hplaced.cons_cons place, hadd.trans ?_⟩
      rw [List.append_assoc, List.map_cons, List.singleton_append]

/-- Places of parts on a line from one column to another: each part has its name there as a whole
word, and every place is behind the one before. -/
structure PlacedBetween (line : Text) (first last : Nat) (placed : List (Part × Nat)) : Prop where
  /-- The name of each part is a whole word of the line. -/
  standsAt : ∀ place ∈ placed, Line.StandsAt line place.2 place.1.name ∧
    Text.IsWord place.1.name
  /-- The places are not in front of the first column. -/
  first_le : ∀ place ∈ placed, first ≤ place.2
  /-- The names end at the last column at the latest. -/
  le_last : ∀ place ∈ placed, place.2 + place.1.name.length ≤ last
  /-- The places go from left to right. -/
  increasing : placed.Pairwise fun place later => place.2 < later.2

namespace PlacedBetween

variable {line : Text} {first middle last : Nat} {placed later : List (Part × Nat)}

theorem nil (line : Text) (first last : Nat) : PlacedBetween line first last [] :=
  ⟨fun _ => (nomatch ·), fun _ => (nomatch ·), fun _ => (nomatch ·), .nil⟩

/-- A part is placed where its name stands. -/
theorem singleton {part : Part} {start : Nat} (hstands : Line.StandsAt line start part.name)
    (hword : Text.IsWord part.name) (hfirst : first ≤ start)
    (hlast : start + part.name.length ≤ last) :
    PlacedBetween line first last [(part, start)] where
  standsAt place hplace := by rw [List.mem_singleton.1 hplace]; exact ⟨hstands, hword⟩
  first_le place hplace := by rw [List.mem_singleton.1 hplace]; exact hfirst
  le_last place hplace := by rw [List.mem_singleton.1 hplace]; exact hlast
  increasing := List.pairwise_singleton _ _

/-- Places up to a column and places from that column on are places together. -/
theorem append (h : PlacedBetween line first middle placed)
    (hlater : PlacedBetween line middle last later) (hfirst : first ≤ middle)
    (hlast : middle ≤ last) : PlacedBetween line first last (placed ++ later) where
  standsAt place hplace := (List.mem_append.1 hplace).elim (h.standsAt place)
    (hlater.standsAt place)
  first_le place hplace := (List.mem_append.1 hplace).elim (h.first_le place) fun hmem =>
    Nat.le_trans hfirst (hlater.first_le place hmem)
  le_last place hplace := (List.mem_append.1 hplace).elim
    (fun hmem => Nat.le_trans (h.le_last place hmem) hlast) (hlater.le_last place)
  increasing := by
    refine List.pairwise_append.2 ⟨h.increasing, hlater.increasing, ?_⟩
    intro place hplace next hnext
    have hend := h.le_last place hplace
    have hstart := hlater.first_le next hnext
    have hpositive := (h.standsAt place hplace).2.length_pos
    omega

/-- Places that are left out leave the others in order. -/
theorem sublist (h : PlacedBetween line first last later) (hsub : placed.Sublist later) :
    PlacedBetween line first last placed where
  standsAt place hplace := h.standsAt place (hsub.subset hplace)
  first_le place hplace := h.first_le place (hsub.subset hplace)
  le_last place hplace := h.le_last place (hsub.subset hplace)
  increasing := h.increasing.sublist hsub

end PlacedBetween

section Locate

variable {line before after : Text} {column : Nat}

/-- The part that a piece spells is located where its name is a whole word, at the latest where the
piece has it, and the cursor is behind the name then. -/
theorem exists_locate_piece {piece : Text} {part : Part} (hpart : Part.parse? piece = some part)
    (hline : line = before ++ (piece ++ after)) (hcolumn : column ≤ before.length)
    (hcursor : Line.BetweenWords line column) (hbefore : Text.endsWord before = false)
    (hafter : Text.startsWord after = false) :
    ∃ start, column ≤ start ∧ start + part.name.length ≤ before.length + piece.length ∧
      Line.StandsAt line start part.name ∧ Text.IsWord part.name ∧
      Line.BetweenWords line (start + part.name.length) ∧
      ∀ tail, Text.startsWord tail = false →
        locate (line ++ tail) part.name column = (start, start + part.name.length) := by
  -- only blanks stand in front of the name, so the name is located where it stands or before
  obtain ⟨lead, trail, rfl, hlead, hword, htrail⟩ := Part.exists_append_of_parse? hpart
  have hname : line = (before ++ lead) ++ (part.name ++ (trail ++ after)) := by
    simpa using hline
  obtain ⟨start, hfirst, hlast, hstands, hlocate⟩ := Line.exists_locate_eq hname
    (by rw [List.length_append]; omega) hcursor
    (Text.endsWord_append_eq_false hbefore (Text.endsWord_of_isBlank hlead)) hword
    (Text.startsWord_append_eq_false htrail hafter)
  have hnext : Line.BetweenWords line (start + part.name.length) := by
    rw [Line.BetweenWords, hstands.right, Bool.and_false]
  simp only [List.length_append] at hlast ⊢
  exact ⟨start, hfirst, by omega, hstands, hword, hnext, hlocate⟩

/-- One piece of a list yields at most the part that it spells, and moves the cursor behind its
name. -/
theorem exists_locateParts_piece {piece : Text} (hline : line = before ++ (piece ++ after))
    (hcolumn : column ≤ before.length) (hcursor : Line.BetweenWords line column)
    (hbefore : Text.endsWord before = false) (hafter : Text.startsWord after = false) :
    ∃ placed next, PlacedBetween line column next placed ∧ column ≤ next ∧
      next ≤ before.length + piece.length ∧ Line.BetweenWords line next ∧
      ∀ tail, Text.startsWord tail = false → ∀ parts,
        locateParts (line ++ tail) column ((Part.parse? piece).toList ++ parts) =
          placed ++ locateParts (line ++ tail) next parts := by
  cases hpart : Part.parse? piece with
  | none => exact ⟨[], column, .nil line column column, Nat.le_refl _, by omega, hcursor,
      fun _ _ _ => rfl⟩
  | some part =>
    obtain ⟨start, hfirst, hlast, hstands, hword, hnext, hlocate⟩ :=
      exists_locate_piece hpart hline hcolumn hcursor hbefore hafter
    refine ⟨[(part, start)], start + part.name.length,
      .singleton hstands hword hfirst (Nat.le_refl _), by omega, hlast, hnext,
      fun tail htail parts => ?_⟩
    simp only [Option.toList_some, List.singleton_append, locateParts, hlocate tail htail]

/-- The pieces of a list yield parts that are placed from left to right. -/
theorem exists_locateParts_pieces {pieces : List Text} (hpieces : pieces ≠ [])
    (hline : line = before ++ (Text.joinWith [','] pieces ++ after))
    (hcolumn : column ≤ before.length) (hcursor : Line.BetweenWords line column)
    (hbefore : Text.endsWord before = false) (hafter : Text.startsWord after = false) :
    ∃ placed, PlacedBetween line column (before.length + (Text.joinWith [','] pieces).length)
        placed ∧
      ∀ tail, Text.startsWord tail = false →
        locateParts (line ++ tail) column (pieces.filterMap Part.parse?) = placed := by
  induction pieces generalizing before column with
  | nil => exact absurd rfl hpieces
  | cons piece pieces ih =>
    have hparts : (piece :: pieces).filterMap Part.parse? =
        (Part.parse? piece).toList ++ pieces.filterMap Part.parse? := by
      rw [List.filterMap_cons]
      cases Part.parse? piece <;> rfl
    rw [hparts]
    cases pieces with
    | nil =>
      rw [Text.joinWith_singleton] at hline ⊢
      obtain ⟨placed, next, hplaced, hfirst, hlast, -, hlocate⟩ :=
        exists_locateParts_piece hline hcolumn hcursor hbefore hafter
      refine ⟨placed, by simpa using hplaced.append (.nil line next _) hfirst hlast,
        fun tail htail => ?_⟩
      rw [hlocate tail htail]
      exact List.append_nil placed
    | cons following pieces =>
      rw [Text.joinWith_cons_cons] at hline ⊢
      have hpiece : line = before ++
          (piece ++ (',' :: (Text.joinWith [','] (following :: pieces) ++ after))) := by
        rw [hline]
        simp
      have hbehind : line = (before ++ piece ++ [',']) ++
          (Text.joinWith [','] (following :: pieces) ++ after) := by
        rw [hline]
        simp
      -- the first piece leaves the cursor in front of the comma, and the others start behind it
      obtain ⟨placed, next, hplaced, hfirst, hlast, hnext, hlocate⟩ :=
        exists_locateParts_piece hpiece hcolumn hcursor hbefore
          ((Text.startsWord_cons _ _).trans (by decide))
      obtain ⟨later, hlater, hrest⟩ := ih (List.cons_ne_nil _ _) hbehind
        (by simp only [List.length_append, List.length_singleton]; omega) hnext
        (by rw [Text.endsWord_concat]; decide)
      refine ⟨placed ++ later, ?_, fun tail htail => ?_⟩
      · have hend : (before ++ piece ++ [',']).length +
            (Text.joinWith [','] (following :: pieces)).length = before.length +
            (piece ++ ([','] ++ Text.joinWith [','] (following :: pieces))).length := by
          simp only [List.length_append]
          omega
        rw [hend] at hlater
        exact hplaced.append hlater hfirst (by simp only [List.length_append]; omega)
      · rw [hlocate tail htail, hrest tail htail]

/-- The parts of a list that stands apart are located at places of the list, from left to right,
whatever stands behind the line. -/
theorem exists_locateParts_eq {list : Text} (h : Line.StandsAt line column list) :
    ∃ placed, PlacedBetween line column (column + list.length) placed ∧
      ∀ tail, Text.startsWord tail = false →
        locateParts (line ++ tail) column (Part.parseList list) = placed := by
  obtain ⟨before, after, hline, rfl, hbefore, hafter⟩ := h.exists_append
  have hcursor : Line.BetweenWords line before.length := by
    rw [Line.BetweenWords, h.left, Bool.false_and]
  have hjoin := Line.joinWith_splitFrom ',' .outermost list
  have hpieces := exists_locateParts_pieces (Line.splitFrom_ne_nil ',' .outermost list)
    (by rw [hjoin]; exact hline) (Nat.le_refl _) hcursor hbefore hafter
  rwa [hjoin] at hpieces

/-- The parts of a list that stands apart are added at places of the list, from left to right. -/
theorem exists_addParts_eq (build : Part → Nat → Variable)
    (declared : List Variable → Text → Bool) {list : Text} (h : Line.StandsAt line column list)
    (found : List Variable) :
    ∃ placed, PlacedBetween line column (column + list.length) placed ∧
      addParts build declared line column found (Part.parseList list) =
        found ++ placed.map fun place => build place.1 place.2 := by
  obtain ⟨located, hlocated, hlocate⟩ := exists_locateParts_eq h
  obtain ⟨placed, hsub, hadd⟩ := exists_sublist_addLocated build declared found located
  refine ⟨placed, hlocated.sublist hsub, ?_⟩
  rw [addParts_eq, ← hadd, ← hlocate [] rfl, List.append_nil]

end Locate

end BlitzLens
