import BlitzLens.Proofs.Extraction.Parts
import BlitzLens.Proofs.Line.Parenthesis
import BlitzLens.Proofs.Scope.Subscript

/-!
# Pieces of a nested text

Two scans that split a text at commas agree when no bracket closes what is not open: the one that
counts brackets down to zero and the one that counts on below. `Line.Settles` says from which place
a text does that and leaves nothing open. A text that may stand between brackets does so from the
outermost place (`Line.Enclosed.settles`), and the parenthesis behind it closes the one in front of
it (`Line.closingParen?_enclosed`).

## Main definitions

* `Line.Settles`: texts that close what is open and nothing else.

## Main results

* `Line.Enclosed.settles`, `Line.closingParen?_enclosed`: properly nested texts do so.
-/

namespace BlitzLens

/-! ## Places -/

namespace Nesting

variable {place : Nesting} {c separator : Char}

/-- A character that is no bracket and no quote leads to no other place. -/
theorem after_of_delimits_eq_false (hc : delimits c = false) (place : Nesting) :
    place.after c = place := by
  simp only [delimits, Bool.or_eq_false_iff] at hc
  obtain ⟨⟨⟨⟨hquote, hround⟩, hsquare⟩, hround'⟩, hsquare'⟩ := hc
  simp [after, hquote, hround, hsquare, hround', hsquare']

/-- Only a quote leads out of a string. -/
theorem after_of_quoted (hplace : place.quoted = true) (hc : c ≠ '"') : place.after c = place := by
  rw [after, if_neg (by simpa using hc), if_pos hplace]

/-- A separator that divides stands at the outermost place, and is neither a bracket nor a quote. -/
theorem divides_eq_true_iff : place.divides separator c = true ↔
    c = separator ∧ delimits c = false ∧ place = .outermost := by
  obtain ⟨quoted, depth⟩ := place
  simp only [divides, outermost, Bool.and_eq_true, Bool.not_eq_true', beq_iff_eq, mk.injEq]
  tauto

end Nesting

namespace Line

/-! ## Splitting -/

/-- Splitting a text that starts with some character. -/
theorem splitFrom_cons (separator : Char) (place : Nesting) (c : Char) (rest : Text) :
    splitFrom separator place (c :: rest) =
      if place.divides separator c then [] :: splitFrom separator place rest
      else (splitFrom separator (place.after c) rest).modifyHead (c :: ·) := by
  rw [splitFrom]
  split
  · rfl
  · split
    · next h => exact absurd h (splitFrom_ne_nil _ _ _)
    · next h => rw [h, List.modifyHead_cons]

/-- Counting in a text that starts with some character. -/
theorem countFrom_cons (separator : Char) (place : Nesting) (c : Char) (rest : Text) :
    countFrom separator place (c :: rest) =
      (if place.divides separator c then 1 else 0) +
        countFrom separator (place.after c) rest := by
  rw [countFrom]
  split_ifs with hdivides
  · obtain ⟨-, hc, -⟩ := Nesting.divides_eq_true_iff.1 hdivides
    rw [Nesting.after_of_delimits_eq_false hc, Nat.add_comm]
  · rw [Nat.zero_add]

/-! ## Texts that close what is open -/

/-- From a place on, a text closes no bracket that is not open, and leaves no bracket and no string
open. -/
def Settles (place : Nesting) : Text → Prop
  | [] => place = .outermost
  | c :: rest =>
    (place.quoted = false → c = ')' ∨ c = ']' → 0 < place.depth) ∧ Settles (place.after c) rest

/-- Between two quotes there may stand anything else. -/
theorem settles_string {place : Nesting} (hplace : place.quoted = false) {inside rest : Text}
    (hinside : '"' ∉ inside) (hrest : Settles place rest) :
    Settles place ('"' :: (inside ++ '"' :: rest)) := by
  obtain ⟨quoted, depth⟩ := place
  subst hplace
  refine ⟨fun _ h => absurd h (by decide), ?_⟩
  change Settles ⟨true, depth⟩ _
  induction inside with
  | nil => exact ⟨nofun, hrest⟩
  | cons c inside ih =>
    rw [List.mem_cons, not_or] at hinside
    refine ⟨nofun, ?_⟩
    rw [Nesting.after_of_quoted rfl (Ne.symm hinside.1)]
    exact ih hinside.2

/-- A properly nested text may be put in front of a text that closes what is open. -/
theorem Enclosed.settles_append {text rest : Text} (h : Enclosed text) {place : Nesting}
    (hplace : place.quoted = false) (hrest : Settles place rest) :
    Settles place (text ++ rest) := by
  induction h generalizing place rest with
  | nil => exact hrest
  | @char c text hc htext ih =>
    refine ⟨fun _ hclosing => ?_, ?_⟩
    · rcases hclosing with rfl | rfl <;> cases hc
    · rw [Nesting.after_of_delimits_eq_false hc]
      exact ih hplace hrest
  | @string inside text hinside htext ih =>
    rw [List.cons_append, List.append_assoc, List.cons_append]
    exact settles_string hplace hinside (ih hplace hrest)
  | @round inside text hinside htext ihinside ihtext
  | @square inside text hinside htext ihinside ihtext =>
    -- one bracket more is open inside, so the closing one is not the last
    obtain ⟨quoted, depth⟩ := place
    subst hplace
    rw [List.cons_append, List.append_assoc, List.cons_append]
    refine ⟨fun _ h => absurd h (by decide), ihinside rfl ⟨fun _ _ => Nat.succ_pos _, ?_⟩⟩
    exact ihtext rfl hrest

/-- Characters that are neither brackets nor quotes may be put in front of a properly nested
text. -/
theorem Enclosed.chars {text : Text} (chars : Text)
    (hchars : chars.any Nesting.delimits = false) (htext : Enclosed text) :
    Enclosed (chars ++ text) := by
  induction chars with
  | nil => exact htext
  | cons c chars ih =>
    rw [List.any_cons, Bool.or_eq_false_iff] at hchars
    exact .char hchars.1 (ih hchars.2)

/-- A properly nested text closes what it opens, and nothing else. -/
theorem Enclosed.settles {text : Text} (h : Enclosed text) : Settles .outermost text := by
  rw [← List.append_nil text]
  exact h.settles_append rfl rfl

/-! ## The parenthesis behind a nested text -/

/-- What stands in a string is passed over. -/
theorem closingFrom?_string {inside : Text} (hinside : '"' ∉ inside) (depth : Int) (column : Nat)
    (rest : Text) : closingFrom? depth true column (inside ++ '"' :: rest) =
      closingFrom? depth false ((column + (inside.length + 1) : Nat) : Int) rest := by
  induction inside generalizing column with
  | nil => rfl
  | cons c inside ih =>
    rw [List.mem_cons, not_or] at hinside
    rw [List.cons_append, closingFrom?_other fun _ => rfl,
      if_neg (by simpa using Ne.symm hinside.1), ih hinside.2, List.length_cons,
      Nat.add_right_comm, Nat.add_assoc]

/-- Inside parentheses, a properly nested text is passed over. -/
theorem closingFrom?_enclosed {text : Text} (h : Enclosed text) {depth : Int} (hdepth : 0 < depth)
    (column : Nat) (rest : Text) : closingFrom? depth false column (text ++ rest) =
      closingFrom? depth false ((column + text.length : Nat) : Int) rest := by
  induction h generalizing depth column rest with
  | nil => rfl
  | @char c text hc htext ih =>
    have hother : ¬(c = '(' ∨ c = ')') := by rintro (rfl | rfl) <;> cases hc
    have hquote : ¬(c == '"') = true := by rw [beq_iff_eq]; rintro rfl; cases hc
    rw [List.cons_append, closingFrom?_other (absurd · hother), if_neg hquote, ih hdepth,
      List.length_cons, Nat.add_right_comm, Nat.add_assoc]
  | @string inside text hinside htext ih =>
    rw [List.cons_append, List.append_assoc, List.cons_append,
      closingFrom?_other (absurd · (by decide)), if_pos (by decide), Bool.not_false,
      closingFrom?_string hinside, ih hdepth]
    exact congrArg (closingFrom? depth false · rest)
      (by simp only [List.length_cons, List.length_append]; omega)
  | @round inside text hinside htext ihinside ihtext =>
    have hopen (column : Nat) (rest : Text) : closingFrom? depth false column ('(' :: rest) =
      closingFrom? (depth + 1) false ((column + 1 : Nat) : Int) rest := rfl
    have hclose (column : Nat) (rest : Text) : closingFrom? (depth + 1) false column (')' :: rest) =
        closingFrom? depth false ((column + 1 : Nat) : Int) rest := by
      rw [closingFrom?, Int.add_sub_cancel, if_neg (by decide), if_neg (by decide),
        if_neg (by decide), if_pos (by decide), if_neg (by simpa using hdepth.ne')]
      rfl
    rw [List.cons_append, List.append_assoc, List.cons_append, hopen, ihinside (by omega), hclose,
      ihtext hdepth]
    exact congrArg (closingFrom? depth false · rest)
      (by simp only [List.length_cons, List.length_append]; omega)
  | @square inside text hinside htext ihinside ihtext =>
    rw [List.cons_append, List.append_assoc, List.cons_append,
      closingFrom?_other (absurd · (by decide)), if_neg (by decide), ihinside hdepth,
      closingFrom?_other (absurd · (by decide)), if_neg (by decide), ihtext hdepth]
    exact congrArg (closingFrom? depth false · rest)
      (by simp only [List.length_cons, List.length_append]; omega)

/-- The parenthesis behind a properly nested text closes the one in front of it. -/
theorem closingParen?_enclosed {inside : Text} (h : Enclosed inside) (front back : Text) :
    closingParen? (front ++ '(' :: (inside ++ ')' :: back)) front.length =
      some ((front.length + 1 + inside.length : Nat) : Int) := by
  have hopen : closingParen? (front ++ '(' :: (inside ++ ')' :: back)) front.length =
      closingFrom? 1 false ((front.length + 1 : Nat) : Int) (inside ++ ')' :: back) := by
    rw [closingParen?, List.drop_left]
    rfl
  rw [hopen, closingFrom?_enclosed h Int.one_pos]
  rfl

end Line

end BlitzLens
