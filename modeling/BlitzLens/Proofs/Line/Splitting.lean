import BlitzLens.Proofs.Line.Pieces

/-!
# Splitting is lossless

Splitting a text at the separators outside brackets and strings loses nothing: joined by the
separator, the pieces are the text again. Every cut is made at the outermost place, which is where
a scan of the next piece starts, so a piece is never split again (`Line.splitFrom_of_eq_cons`). And
the cuts are made exactly at the separators that stand behind an even number of quotes where no
bracket is open (`Line.countFrom_eq_countP`), whether or not brackets are balanced and strings are
closed.

## Main definitions

* `Nesting.behind`: the place that a text leads to.
* `Line.DividesAt`: a column of a text with a separator outside brackets and strings.

## Main results

* `Line.splitTopLevel_lossless`: joining, splitting again and counting the pieces of a text.
-/

namespace BlitzLens

namespace Nesting

variable {place : Nesting} {c : Char}

/-- The place behind a text that begins at a place. -/
def behind (place : Nesting) (text : Text) : Nesting :=
  text.foldl after place

@[simp]
theorem behind_nil (place : Nesting) : place.behind [] = place := rfl

@[simp]
theorem behind_cons (place : Nesting) (c : Char) (text : Text) :
    place.behind (c :: text) = (place.after c).behind text := rfl

/-- A quote opens or closes a string, and nothing else does. -/
theorem quoted_after (place : Nesting) (c : Char) :
    (place.after c).quoted = if c = '"' then !place.quoted else place.quoted := by
  unfold after
  by_cases hquote : c = '"'
  · simp [hquote]
  · rw [if_neg (by simpa using hquote), if_neg hquote]
    split_ifs <;> rfl

/-- Behind a text one is in a string exactly if the quotes up to there are odd in number. -/
theorem quoted_behind (place : Nesting) (text : Text) :
    (place.behind text).quoted.toNat = (place.quoted.toNat + text.count '"') % 2 := by
  induction text generalizing place with
  | nil => cases hquoted : place.quoted <;> simp [hquoted]
  | cons c text ih =>
    rw [behind_cons, ih, quoted_after]
    by_cases hquote : c = '"'
    · -- the quote has turned the flag on the left and is counted on the right
      subst hquote
      rw [if_pos rfl, List.count_cons_self]
      cases place.quoted <;> simp <;> omega
    · rw [if_neg hquote, List.count_cons_of_ne hquote]

/-- What is no quote and no bracket. -/
theorem delimits_eq_false_iff : delimits c = false ↔ c ∉ ['"', '(', ')', '[', ']'] := by
  simp only [delimits, Bool.or_eq_false_iff, beq_eq_false_iff_ne, List.mem_cons,
    List.not_mem_nil, or_false, not_or]
  tauto

end Nesting

namespace Line

variable {separator : Char} {place : Nesting} {text : Text}

/-- A separator stands at a column of a text, outside strings and with no bracket open before it;
a bracket that closes nothing is passed over. -/
structure DividesAt (separator : Char) (text : Text) (column : Nat) : Prop where
  /-- A separator stands there. -/
  char_eq : text[column]? = some separator
  /-- An even number of quotes stands before it. -/
  even : (text.take column).count '"' % 2 = 0
  /-- No bracket is open before it. -/
  depth_eq : (Nesting.outermost.behind (text.take column)).depth = 0

/-- A separator divides a text where the characters before it lead to the outermost place. -/
theorem dividesAt_iff {column : Nat} : DividesAt separator text column ↔
    text[column]? = some separator ∧
      Nesting.outermost.behind (text.take column) = .outermost := by
  have hquoted := Nesting.quoted_behind .outermost (text.take column)
  have hplace (reached : Nesting) :
      reached = .outermost ↔ reached.quoted.toNat = 0 ∧ reached.depth = 0 := by
    obtain ⟨quoted, depth⟩ := reached
    cases quoted <;> simp [Nesting.outermost]
  rw [hplace, hquoted, Nesting.outermost, Bool.toNat_false, Nat.zero_add]
  constructor
  · intro h
    exact ⟨h.char_eq, h.even, h.depth_eq⟩
  · rintro ⟨hchar, heven, hdepth⟩
    exact ⟨hchar, heven, hdepth⟩

instance (separator : Char) (text : Text) (column : Nat) :
    Decidable (DividesAt separator text column) :=
  decidable_of_iff _ dividesAt_iff.symm

/-! ## Splitting again -/

/-- Each piece of a text is its only piece, the first one from the place where the text begins and
the others from the outermost place. -/
theorem splitFrom_of_eq_cons {first : Text} {others : List Text}
    (h : splitFrom separator place text = first :: others) :
    splitFrom separator place first = [first] ∧
      ∀ piece ∈ others, splitTopLevel separator piece = [piece] := by
  induction text generalizing place first others with
  | nil =>
    obtain ⟨rfl, rfl⟩ := List.cons.inj h
    exact ⟨rfl, nofun⟩
  | cons c text ih =>
    rw [splitFrom_cons] at h
    split_ifs at h with hdivides
    · -- a cut is made at the outermost place, so the next piece begins there
      obtain ⟨-, -, rfl⟩ := Nesting.divides_eq_true_iff.1 hdivides
      obtain ⟨rfl, rfl⟩ := List.cons.inj h
      refine ⟨rfl, fun piece hpiece => ?_⟩
      obtain ⟨next, later, hsplit⟩ :=
        List.exists_cons_of_ne_nil (splitFrom_ne_nil separator .outermost text)
      obtain ⟨hnext, hlater⟩ := ih hsplit
      rw [hsplit] at hpiece
      rcases List.mem_cons.1 hpiece with rfl | hpiece
      · exact hnext
      · exact hlater piece hpiece
    · -- the character is put in front of the first piece of the rest
      obtain ⟨next, later, hsplit⟩ :=
        List.exists_cons_of_ne_nil (splitFrom_ne_nil separator (place.after c) text)
      rw [hsplit, List.modifyHead_cons] at h
      obtain ⟨rfl, rfl⟩ := List.cons.inj h
      obtain ⟨hnext, hlater⟩ := ih hsplit
      refine ⟨?_, hlater⟩
      rw [splitFrom_cons, if_neg hdivides, hnext, List.modifyHead_cons]

/-! ## Counting the pieces -/

/-- The separators that divide a text are those that stand where the text before them leads to the
outermost place. -/
theorem countFrom_eq_countP (hseparator : Nesting.delimits separator = false) (place : Nesting)
    (text : Text) : countFrom separator place text =
      (List.range text.length).countP fun column =>
        text[column]? = some separator ∧ place.behind (text.take column) = .outermost := by
  induction text generalizing place with
  | nil => rfl
  | cons c text ih =>
    -- the first character divides if it is a separator and the text begins at the outermost place
    have hfirst : place.divides separator c = decide ((c :: text)[0]? = some separator ∧
        place.behind ((c :: text).take 0) = .outermost) := by
      rw [Bool.eq_iff_iff, decide_eq_true_iff, Nesting.divides_eq_true_iff,
        List.getElem?_cons_zero, Option.some.injEq]
      constructor
      · rintro ⟨rfl, -, rfl⟩
        exact ⟨rfl, rfl⟩
      · rintro ⟨rfl, hplace⟩
        exact ⟨rfl, hseparator, hplace⟩
    rw [countFrom_cons, ih, hfirst, List.length_cons, List.range_succ_eq_map, List.countP_cons,
      List.countP_map, Nat.add_comm]
    simp only [Function.comp_def, Nat.succ_eq_add_one, List.getElem?_cons_succ,
      List.take_succ_cons, Nesting.behind_cons]
    rfl

/-! ## Splitting -/

/-- **Splitting is lossless.** Take any text, with or without unbalanced brackets and open strings,
and any separator that is no quote and no bracket. The pieces joined by the separator are the text,
each piece split again is just that piece, and there is one piece more than there are separators
outside strings where no bracket is open. -/
theorem splitTopLevel_lossless {separator : Char}
    (hseparator : separator ∉ ['"', '(', ')', '[', ']']) (text : Text) :
    Text.joinWith [separator] (splitTopLevel separator text) = text ∧
      (∀ piece ∈ splitTopLevel separator text, splitTopLevel separator piece = [piece]) ∧
      (splitTopLevel separator text).length =
        (List.range text.length).countP (fun column => DividesAt separator text column) + 1 := by
  refine ⟨joinWith_splitFrom separator .outermost text, fun piece hpiece => ?_, ?_⟩
  · -- the first piece begins at the outermost place as well
    obtain ⟨first, others, hsplit⟩ :=
      List.exists_cons_of_ne_nil (splitFrom_ne_nil separator .outermost text)
    obtain ⟨hfirst, hothers⟩ := splitFrom_of_eq_cons hsplit
    rw [splitTopLevel, hsplit] at hpiece
    rcases List.mem_cons.1 hpiece with rfl | hpiece
    · exact hfirst
    · exact hothers piece hpiece
  · have hcount := countFrom_eq_countP (Nesting.delimits_eq_false_iff.2 hseparator) .outermost text
    simp only [dividesAt_iff]
    rw [← hcount]
    exact length_splitFrom separator .outermost text

/-- A closing bracket without an opening one, nested brackets, a string with a bracket, and a string
that is left open. -/
theorem splitTopLevel_lossless_unbalanced :
    let text : Text := "),a[(1,2],3),\",(\",b,\"c,d"
    let pieces : List Text := [")", "a[(1,2],3)", "\",(\"", "b", "\"c,d"]
    ',' ∉ ['"', '(', ')', '[', ']'] ∧ splitTopLevel ',' text = pieces ∧
      Text.joinWith [','] pieces = text ∧ (∀ piece ∈ pieces, splitTopLevel ',' piece = [piece]) ∧
      pieces.length =
        (List.range text.length).countP (fun column => DividesAt ',' text column) + 1 := by
  intro text pieces
  have hseparator : ',' ∉ ['"', '(', ')', '[', ']'] := by decide
  have hsplit : splitTopLevel ',' text = pieces := by decide +kernel
  have hlossless := splitTopLevel_lossless hseparator text
  rw [hsplit] at hlossless
  exact ⟨hseparator, hsplit, hlossless⟩

end Line

end BlitzLens
