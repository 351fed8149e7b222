import BlitzLens.Proofs.Query.Spans

/-!
# The scan of a label

Signature help scans the list that the first parenthesis of a label opens, up to the parenthesis
that closes it. The scan is told from the place of each character (`Signature.Place`), which counts
brackets below zero. It ends a parameter at the commas of the outermost place and behind the last
character, so it finds one if some visible character is no such comma and the outermost place is
reached again behind it (`Signature.spansFrom_ne_nil_iff`). In a properly nested list that is any
visible character but a comma (`Signature.Place.lists_enclosed_iff`).

## Main definitions

* `Signature.Place`: the place of a character in a label, between brackets and quotes.
* `Signature.Place.Lists`: texts in which a scan finds a parameter.
* `Signature.listText?`: the list of a label.

## Main results

* `Signature.parameterSpans_ne_nil_iff`: the labels that have a parameter.
* `Signature.exists_append_labelOf`: the label of a declaration is its end, without blanks.
-/

namespace BlitzLens

/-! ## Texts -/

namespace Text

variable {text before : Text} {c : Char}

theorem isBlankText_eq_false_iff : text.isBlankText = false ↔ ∃ c ∈ text, isBlank c = false := by
  simp [isBlankText]

/-- Nothing is left of a text that is trimmed if it is blank. -/
theorem isEmpty_trim_iff : text.trim.isEmpty = true ↔ text.isBlankText = true := by
  rw [List.isEmpty_iff]
  constructor
  · intro htrim
    have ⟨trail, htext, htrail⟩ := exists_eq_trim_append text
    rw [htrim, List.nil_append] at htext
    refine List.all_eq_true.2 fun c hc => ?_
    rw [htext, List.mem_append] at hc
    exact hc.elim List.mem_takeWhile_imp (htrail c)
  · intro hblank
    rw [trim, trimStart, List.dropWhile_eq_nil_iff.2 (List.all_eq_true.1 hblank)]
    rfl

/-- A text is split at the first occurrence of a character in one way only. -/
theorem append_cons_inj {before' after after' : Text} (hbefore : c ∉ before)
    (hbefore' : c ∉ before') (h : before ++ c :: after = before' ++ c :: after') :
    before = before' ∧ after = after' := by
  have hlength := indexFrom?_append hbefore after
  rw [h, indexFrom?_append hbefore'] at hlength
  obtain ⟨rfl, hcons⟩ := List.append_inj h (Option.some.inj hlength).symm
  exact ⟨rfl, (List.cons.inj hcons).2⟩

end Text

/-- A blank is no bracket and no quote. -/
theorem Nesting.delimits_eq_false_of_isBlank {c : Char} (h : isBlank c = true) :
    delimits c = false := by
  refine Bool.eq_false_iff.2 fun hdelimits => ?_
  simp only [delimits, Bool.or_eq_true, beq_iff_eq] at hdelimits
  rcases hdelimits with (((rfl | rfl) | rfl) | rfl) | rfl <;> revert h <;> decide

/-! ## Places in a label -/

namespace Signature

/-- The place of a character in a label. A bracket may close what is not open. -/
structure Place where
  /-- Whether the character stands in a string. -/
  quoted : Bool
  /-- How many more brackets are opened than closed in front of it. -/
  depth : Int
  deriving DecidableEq, Repr

namespace Place

/-- The place at the start of a list. -/
def outermost : Place := ⟨false, 0⟩

/-- The place behind a character. -/
def after (place : Place) (c : Char) : Place :=
  if c == '"' then { place with quoted := !place.quoted }
  else if place.quoted then place
  else if c == '(' || c == '[' then { place with depth := place.depth + 1 }
  else if c == ')' || c == ']' then { place with depth := place.depth - 1 }
  else place

/-- The place behind a text. -/
def behind (place : Place) (text : Text) : Place :=
  text.foldl after place

/-- Whether a character ends a parameter: a comma at the outermost place. -/
def divides (place : Place) (c : Char) : Bool :=
  c == ',' && place == outermost

/-- A parameter that goes on into a text ends in it, or right behind it. -/
def Ends (place : Place) (text : Text) : Prop :=
  ∃ between after, text ++ [','] = between ++ ',' :: after ∧ place.behind between = outermost

/-- A text shows a parameter: it has a visible character that divides nothing, and the parameter
with this character ends. -/
def Lists (place : Place) (text : Text) : Prop :=
  ∃ before c after, text = before ++ c :: after ∧ isBlank c = false ∧
    (place.behind before).divides c = false ∧ ((place.behind before).after c).Ends after

variable {place : Place} {c : Char} {text : Text}

theorem divides_eq_true_iff : place.divides c = true ↔ c = ',' ∧ place = outermost := by
  rw [divides, Bool.and_eq_true, beq_iff_eq, beq_iff_eq]

/-- Only brackets and quotes lead to other places. -/
theorem after_of_delimits_eq_false (hc : Nesting.delimits c = false) (place : Place) :
    place.after c = place := by
  simp only [Nesting.delimits, Bool.or_eq_false_iff] at hc
  obtain ⟨⟨⟨⟨hquote, hround⟩, hsquare⟩, hround'⟩, hsquare'⟩ := hc
  simp [after, hquote, hround, hsquare, hround', hsquare']

theorem ends_nil : place.Ends [] ↔ place = outermost := by
  constructor
  · rintro ⟨between, after, heq, hbehind⟩
    cases between with
    | nil => exact hbehind
    | cons d between => simp at heq
  · rintro rfl
    exact ⟨[], [], rfl, rfl⟩

theorem ends_cons :
    place.Ends (c :: text) ↔ place.divides c = true ∨ (place.after c).Ends text := by
  constructor
  · rintro ⟨between, after, heq, hbehind⟩
    cases between with
    | nil => exact .inl (divides_eq_true_iff.2 ⟨(List.cons.inj heq).1, hbehind⟩)
    | cons d between =>
      obtain ⟨rfl, hrest⟩ := List.cons.inj heq
      exact .inr ⟨between, after, hrest, hbehind⟩
  · rintro (hdivides | ⟨between, after, heq, hbehind⟩)
    · obtain ⟨rfl, hplace⟩ := divides_eq_true_iff.1 hdivides
      exact ⟨[], text ++ [','], rfl, hplace⟩
    · exact ⟨c :: between, after, congrArg (c :: ·) heq, hbehind⟩

theorem not_lists_nil : ¬place.Lists [] := by
  rintro ⟨before, c, after, heq, -⟩
  simp at heq

theorem lists_cons : place.Lists (c :: text) ↔
    (isBlank c = false ∧ place.divides c = false ∧ (place.after c).Ends text) ∨
      (place.after c).Lists text := by
  constructor
  · rintro ⟨before, d, after, heq, hd, hdivides, hends⟩
    cases before with
    | nil =>
      obtain ⟨rfl, rfl⟩ := List.cons.inj heq
      exact .inl ⟨hd, hdivides, hends⟩
    | cons e before =>
      obtain ⟨rfl, rfl⟩ := List.cons.inj heq
      exact .inr ⟨before, d, after, rfl, hd, hdivides, hends⟩
  · rintro (⟨hc, hdivides, hends⟩ | ⟨before, d, after, rfl, hd, hdivides, hends⟩)
    · exact ⟨[], c, text, rfl, hc, hdivides, hends⟩
    · exact ⟨c :: before, d, after, rfl, hd, hdivides, hends⟩

/-- A text without brackets and quotes leads to no other place. -/
theorem behind_of_delimits_eq_false (htext : ∀ c ∈ text, Nesting.delimits c = false)
    (place : Place) : place.behind text = place := by
  induction text with
  | nil => rfl
  | cons c text ih =>
    rw [List.forall_mem_cons] at htext
    change (place.after c).behind text = place
    rw [after_of_delimits_eq_false htext.1, ih htext.2]

/-- Between two quotes no place is reached but that of the string. -/
theorem behind_string {inside : Text} (hinside : '"' ∉ inside) (depth : Int) (rest : Text) :
    behind ⟨true, depth⟩ (inside ++ '"' :: rest) = behind ⟨false, depth⟩ rest := by
  induction inside with
  | nil => rfl
  | cons c inside ih =>
    rw [List.mem_cons, not_or] at hinside
    change behind (after ⟨true, depth⟩ c) (inside ++ '"' :: rest) = _
    rw [after, if_neg (by simpa using Ne.symm hinside.1), if_pos rfl, ih hinside.2]

/-- A properly nested text leads back to the place in front of it. -/
theorem behind_enclosed (h : Line.Enclosed text) (depth : Int) (rest : Text) :
    behind ⟨false, depth⟩ (text ++ rest) = behind ⟨false, depth⟩ rest := by
  induction h generalizing depth rest with
  | nil => rfl
  | @char c text hc htext ih =>
    change behind (after ⟨false, depth⟩ c) (text ++ rest) = _
    rw [after_of_delimits_eq_false hc, ih]
  | @string inside text hinside htext ih =>
    rw [List.cons_append, List.append_assoc, List.cons_append]
    exact (behind_string hinside depth _).trans (ih depth rest)
  | @round inside text hinside htext ihinside ihtext
  | @square inside text hinside htext ihinside ihtext =>
    rw [List.cons_append, List.append_assoc, List.cons_append]
    refine (ihinside (depth + 1) _).trans ?_
    -- the bracket behind the inner text takes back the one in front of it
    change behind ⟨false, depth + 1 - 1⟩ (text ++ rest) = _
    rw [Int.add_sub_cancel, ihtext]

/-- A properly nested list shows a parameter if it has anything visible but commas. -/
theorem lists_enclosed_iff (h : Line.Enclosed text) :
    outermost.Lists text ↔ ∃ c ∈ text, isBlank c = false ∧ c ≠ ',' := by
  constructor
  · rintro ⟨before, c, after, rfl, hc, hdivides, -⟩
    by_contra hnone
    push Not at hnone
    -- blanks and commas lead nowhere, so the character is a comma that divides
    have hbefore : ∀ d ∈ before, Nesting.delimits d = false := by
      intro d hd
      by_cases hblank : isBlank d = true
      · exact Nesting.delimits_eq_false_of_isBlank hblank
      · rw [hnone d (List.mem_append_left _ hd) (Bool.eq_false_iff.2 hblank)]
        decide
    rw [behind_of_delimits_eq_false hbefore, hnone c (by simp) hc] at hdivides
    cases hdivides
  · rintro ⟨c, hmem, hc, hcomma⟩
    obtain ⟨before, after, rfl⟩ := List.append_of_mem hmem
    -- the parameter ends behind the whole text, which leads back to the outermost place
    refine ⟨before, c, after, rfl, hc, ?_, after, [], rfl, ?_⟩
    · rw [divides, beq_eq_false_iff_ne.2 hcomma, Bool.false_and]
    · have hbehind := behind_enclosed h 0 []
      rw [List.append_nil, behind, List.foldl_append] at hbehind
      exact hbehind

/-- What shows a parameter is not blank. -/
theorem Lists.exists_visible (h : place.Lists text) : ∃ c ∈ text, isBlank c = false := by
  obtain ⟨before, c, after, rfl, hc, -⟩ := h
  exact ⟨c, by simp, hc⟩

end Place

/-! ## The scan of a label -/

variable {label before text pending tail : Text} {place : Place}

/-- A scan goes from place to place, and ends a parameter at a comma that divides. -/
theorem spansFrom_place (label : Text) (start column : Nat) (place : Place) (c : Char)
    (rest : Text) :
    spansFrom label start column place.depth place.quoted (c :: rest) =
      if place.divides c then
        (trimmedSpan? label start column).toList ++
          spansFrom label (column + 1) (column + 1) place.depth place.quoted rest
      else
        spansFrom label start (column + 1) (place.after c).depth (place.after c).quoted rest := by
  obtain ⟨quoted, depth⟩ := place
  by_cases hdivides : Place.divides ⟨quoted, depth⟩ c = true
  · obtain ⟨rfl, hplace⟩ := Place.divides_eq_true_iff.1 hdivides
    cases hplace
    rfl
  · rw [if_neg hdivides, spansFrom, Place.after]
    split_ifs with hquote hquoted hopen hclose hcomma
    · rfl
    · rfl
    · rfl
    · rfl
    · rw [Bool.and_eq_true, beq_iff_eq, beq_iff_eq] at hcomma
      obtain ⟨rfl, rfl⟩ := hcomma
      cases Bool.eq_false_iff.2 hquoted
      exact absurd rfl hdivides
    · rfl

/-- A stretch of a label has no columns if it is blank. -/
theorem trimmedSpan?_eq_none_iff (before pending after : Text) :
    trimmedSpan? (before ++ (pending ++ after)) before.length (before.length + pending.length) =
      none ↔ pending.isBlankText = true := by
  rw [trimmedSpan?, Text.slice_append_append]
  split_ifs with hempty
  · exact iff_of_true rfl (Text.isEmpty_trim_iff.1 hempty)
  · exact iff_of_false not_false fun hblank => hempty (Text.isEmpty_trim_iff.2 hblank)

/-- A scan with a part of a parameter behind it finds a parameter if that part is visible and the
parameter ends, or if the rest shows one. -/
theorem spansFrom_ne_nil_iff (hlabel : label = before ++ (pending ++ (text ++ tail))) :
    spansFrom label before.length (before.length + pending.length) place.depth place.quoted
        (text ++ [',']) ≠ [] ↔
      (pending.isBlankText = false ∧ place.Ends text) ∨ place.Lists text := by
  -- `before` is what is passed over, and `pending` the part of the current parameter
  induction text generalizing before pending place with
  | nil =>
    -- the comma behind the last character is all that is left
    have hspan := trimmedSpan?_eq_none_iff before pending tail
    rw [List.nil_append] at hlabel
    rw [← hlabel] at hspan
    rw [List.nil_append, spansFrom_place, Place.ends_nil, or_iff_left Place.not_lists_nil]
    by_cases hplace : place = .outermost
    · rw [if_pos (Place.divides_eq_true_iff.2 ⟨rfl, hplace⟩), and_iff_left hplace, spansFrom,
        List.append_nil, ne_eq, Option.toList_eq_nil_iff, hspan, Bool.not_eq_true]
    · rw [if_neg fun hdivides => hplace (Place.divides_eq_true_iff.1 hdivides).2]
      exact iff_of_false (fun hne => hne rfl) fun h => hplace h.2
  | cons c text ih =>
    have hspan := trimmedSpan?_eq_none_iff before pending (c :: text ++ tail)
    rw [← hlabel] at hspan
    rw [List.cons_append, spansFrom_place, Place.ends_cons, Place.lists_cons]
    by_cases hdivides : place.divides c = true
    · -- the comma ends the current parameter, and the next one starts behind it
      obtain ⟨rfl, -⟩ := Place.divides_eq_true_iff.1 hdivides
      have hrest := @ih (before ++ (pending ++ [','])) [] place (by simp [hlabel])
      have hcolumn :
          (before ++ (pending ++ [','])).length = before.length + pending.length + 1 := by
        simp [Nat.add_assoc]
      rw [hcolumn, List.length_nil, Nat.add_zero] at hrest
      rw [if_pos hdivides, ne_eq, List.append_eq_nil_iff, not_and_or, Option.toList_eq_nil_iff,
        hspan, Bool.not_eq_true, ← ne_eq, hrest, Place.after_of_delimits_eq_false (by decide)]
      simp [hdivides, Text.isBlankText]
    · -- any other character belongs to the current parameter
      have hrest := @ih before (pending ++ [c]) (place.after c) (by simp [hlabel])
      have hpending : (pending ++ [c]).isBlankText = false ↔
          pending.isBlankText = false ∨ isBlank c = false := by
        rw [Text.isBlankText, List.all_append, Bool.and_eq_false_iff, List.all_cons, List.all_nil,
          Bool.and_true, Text.isBlankText]
      rw [List.length_append, List.length_singleton, ← Nat.add_assoc, hpending] at hrest
      rw [if_neg hdivides, hrest, or_and_right, or_assoc, or_iff_right hdivides,
        and_iff_right (Bool.eq_false_iff.2 hdivides)]

/-! ## The list of a label -/

/-- The list of a label: what stands behind its first parenthesis, up to the one that closes it, or
to the end of the label if none does. -/
def listText? (label : Text) : Option Text :=
  (label.indexFrom? '(' 0).map fun opening =>
    match Line.closingParen? label opening with
    | some closing => (label.take closing.toNat).drop (opening + 1)
    | none => label.drop (opening + 1)

/-- A label has a parameter if its list shows one. -/
theorem parameterSpans_ne_nil_iff :
    parameterSpans label ≠ [] ↔
      ∃ list, listText? label = some list ∧ Place.outermost.Lists list := by
  cases hopening : label.indexFrom? '(' 0 with
  | none => simp [parameterSpans, listText?, hopening]
  | some opening =>
    -- a list that is not closed stops where the label does
    have hlist : ∃ stop, listText? label = some ((label.take stop).drop (opening + 1)) ∧
        parameterSpans label = spansFrom label (opening + 1) (opening + 1) 0 false
          ((label.take stop).drop (opening + 1) ++ [',']) := by
      simp only [listText?, parameterSpans, hopening, Option.map_some]
      cases Line.closingParen? label opening with
      | some closing => exact ⟨closing.toNat, rfl, rfl⟩
      | none => exact ⟨label.length, by rw [List.take_length], rfl⟩
    obtain ⟨stop, hlist, hspans⟩ := hlist
    obtain ⟨-, hinside, -⟩ := Statement.drop_of_indexFrom? hopening
    have hlabel : label = label.take (opening + 1) ++ ([] ++
        ((label.take stop).drop (opening + 1) ++
          (label.drop (opening + 1)).drop (stop - (opening + 1)))) := by
      rw [List.drop_take, List.take_append_drop, List.nil_append, List.take_append_drop]
    have hscan := @spansFrom_ne_nil_iff _ _ _ _ _ .outermost hlabel
    rw [List.length_take_of_le hinside] at hscan
    rw [hspans, hlist]
    simp only [Option.some.injEq, exists_eq_left']
    exact hscan.trans (or_iff_right fun h => by cases h.1)

/-- The list of a label ends in front of a parenthesis, or the first parenthesis is not closed. -/
theorem of_listText? {list : Text} (h : listText? label = some list) :
    ∃ front rest, label = front ++ '(' :: rest ∧ '(' ∉ front ∧
      ((∃ back, rest = list ++ ')' :: back) ∨
        list = rest ∧ Line.closingParen? label front.length = none) := by
  obtain ⟨opening, hopening, hlist⟩ := Option.map_eq_some_iff.1 h
  obtain ⟨front, rest, hlabel, hfront, rfl⟩ :=
    @Text.exists_append_of_indexFrom? [] label _ _ hopening
  rw [List.nil_append] at hlist
  have hdrop : label.drop (front.length + 1) = rest := by
    rw [hlabel, ← List.drop_drop, List.drop_left]
    rfl
  have hparen : label.drop front.length = '(' :: label.drop (front.length + 1) := by
    rw [hdrop, hlabel, List.drop_left]
  refine ⟨front, rest, hlabel, hfront, ?_⟩
  cases hclosing : Line.closingParen? label front.length with
  | none =>
    rw [hclosing, hdrop] at hlist
    exact .inr ⟨hlist.symm, rfl⟩
  | some closing =>
    obtain ⟨back, hback⟩ := Statement.drop_of_closingParen? hparen hclosing
    obtain ⟨n, rfl, -⟩ := Statement.exists_getElem?_of_closingFrom? hclosing
    rw [hdrop, ← Int.natCast_add, Text.slice_natCast, ← List.drop_take] at hback
    rw [hclosing, ← Int.natCast_add] at hlist
    exact .inl ⟨back, hlist ▸ hback⟩

/-- The list of a label is what stands between the parentheses, if it is properly nested. -/
theorem listText?_enclosed {front list : Text} (hfront : '(' ∉ front) (hlist : Line.Enclosed list)
    (back : Text) : listText? (front ++ '(' :: (list ++ ')' :: back)) = some list := by
  rw [listText?, Text.indexFrom?_append hfront, Option.map_some]
  simp only [Line.closingParen?_enclosed hlist, Int.toNat_natCast, Text.drop_take_cons]

/-! ## The label of a declaration -/

variable {declaration : Text}

/-- Around the label of a declaration there are blanks and, in front of it, the keyword. -/
theorem exists_append_labelOf (declaration : Text) :
    ∃ lead trail, declaration = lead ++ (labelOf declaration ++ trail) ∧ '(' ∉ lead ∧
      ∀ c ∈ trail, isBlank c = true := by
  have hlabel : labelOf declaration =
      ((Statement.afterKeyword? "function" declaration).getD declaration).trim := rfl
  have hparen : ¬isBlank '(' = true := by decide
  rw [hlabel]
  cases hnamed : Statement.afterKeyword? "function" declaration with
  | none =>
    obtain ⟨trail, hdeclaration, htrail⟩ := Text.exists_eq_trim_append declaration
    exact ⟨_, trail, hdeclaration, fun hmem => hparen (List.mem_takeWhile_imp hmem), htrail⟩
  | some named =>
    obtain ⟨word, gap, htrim, hspells, -, hgap⟩ := Statement.afterKeyword?_eq_some hnamed
    obtain ⟨trail, hlabel, htrail⟩ := Text.exists_eq_trim_append named
    -- the keyword is a word, and blanks stand around it
    have hword := Text.IsWord.of_spells hspells (by decide) (by decide)
    refine ⟨declaration.takeWhile isBlank ++ (word ++ (gap ++ named.takeWhile isBlank)), trail, ?_,
      ?_, htrail⟩
    · conv_lhs => rw [← Text.blanks_append_trimStart declaration, htrim, hlabel]
      simp only [Option.getD_some, List.append_assoc]
    · simp only [List.mem_append, not_or]
      refine ⟨fun hmem => ?_, fun hmem => ?_, fun hmem => ?_, fun hmem => ?_⟩
      · exact hparen (List.mem_takeWhile_imp hmem)
      · exact absurd (hword.all_word _ hmem) (by decide)
      · exact hparen (hgap _ hmem)
      · exact hparen (List.mem_takeWhile_imp hmem)

/-- The list of a declaration is that of its label. -/
theorem exists_labelOf_eq {front list back : Text} (hfront : '(' ∉ front)
    (h : declaration = front ++ '(' :: (list ++ ')' :: back)) :
    ∃ front' back', labelOf declaration = front' ++ '(' :: (list ++ ')' :: back') ∧
      '(' ∉ front' := by
  obtain ⟨lead, trail, hdeclaration, hlead, htrail⟩ := exists_append_labelOf declaration
  generalize labelOf declaration = label at hdeclaration ⊢
  have hopen : '(' ∉ trail := fun hmem => absurd (htrail _ hmem) (by decide)
  have hclose : ')' ∉ trail := fun hmem => absurd (htrail _ hmem) (by decide)
  have hmem : '(' ∈ label := by
    have hmem : '(' ∈ lead ++ (label ++ trail) := by simp [← hdeclaration, h]
    rwa [List.mem_append, List.mem_append, or_iff_right hlead, or_iff_left hopen] at hmem
  obtain ⟨front', rest, rfl, hfront'⟩ := List.eq_append_cons_of_mem hmem
  have hparen :
      lead ++ front' ++ '(' :: (rest ++ trail) = front ++ '(' :: (list ++ ')' :: back) := by
    rw [← h, hdeclaration, List.append_assoc, List.append_assoc, List.cons_append]
  obtain ⟨-, hrest⟩ := Text.append_cons_inj
    (fun hmem => (List.mem_append.1 hmem).elim hlead hfront') hfront hparen
  -- the closing parenthesis is no blank, so it is not behind the label
  rcases List.append_eq_append_iff.1 hrest with ⟨more, -, rfl⟩ | ⟨more, rfl, hmore⟩
  · exact absurd (List.mem_append_right _ List.mem_cons_self) hclose
  · cases more with
    | nil => exact absurd (show ')' ∈ [] ++ trail from hmore ▸ List.mem_cons_self) hclose
    | cons c more =>
      obtain ⟨rfl, -⟩ := List.cons.inj hmore
      exact ⟨front', more, rfl, hfront'⟩

/-- A signature has parameters if its label does. -/
theorem parameters_build_ne_nil_iff (declaration : Text) (description docs : List Text) :
    (build declaration description docs).parameters ≠ [] ↔
      parameterSpans (labelOf declaration) ≠ [] := by
  rw [← not_iff_not, not_ne_iff, not_ne_iff, ← List.map_eq_nil_iff, map_label_build,
    List.map_eq_nil_iff]

end Signature

end BlitzLens
