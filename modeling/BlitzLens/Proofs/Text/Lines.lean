import BlitzLens.Text.Lines
import Mathlib.Data.List.Chain

/-!
# Lines and their endings

A text is its lines with an ending between any two of them (`Text.Joining`). The three endings
overlap: a carriage return, an empty line and a line feed are written like a carriage return with a
line feed. This is the only way in which endings can run together, and where it is excluded the
lines of the text are those that were joined (`Text.Joining.lines_text`), whichever endings were
taken. Every text is such a joining (`Text.Joining.exists_text_eq`).
-/

namespace BlitzLens.Text

/-! ## The first line -/

/-- A text has a line. -/
theorem linesAfter_ne_nil (returned : Bool) (text : Text) : linesAfter returned text ≠ [] := by
  induction text generalizing returned with
  | nil => exact List.cons_ne_nil _ _
  | cons c text ih =>
    rw [linesAfter]
    split_ifs
    · exact ih false
    · exact List.cons_ne_nil _ _
    · split <;> exact List.cons_ne_nil _ _

/-- A character that does not end a line belongs to the first line. -/
theorem linesAfter_cons {c : Char} (hc : ¬(c == '\n' || c == '\r') = true) (returned : Bool)
    (rest : Text) :
    linesAfter returned (c :: rest) = (linesAfter false rest).modifyHead (c :: ·) := by
  have hfeed : ¬(c == '\n' && returned) = true := by
    rw [Bool.or_eq_true, not_or] at hc
    simp [hc.1]
  obtain ⟨line, lines, hlines⟩ := List.exists_cons_of_ne_nil (linesAfter_ne_nil false rest)
  rw [linesAfter, if_neg hfeed, if_neg hc, hlines, List.modifyHead_cons]

/-! ## Endings -/

/-- What may end a line. -/
inductive Ending where
  /-- A carriage return with a line feed. -/
  | crlf
  /-- A lone carriage return. -/
  | cr
  /-- A lone line feed. -/
  | lf
  deriving DecidableEq, Repr

/-- How an ending is written. -/
def Ending.text : Ending → Text
  | .crlf => ['\r', '\n']
  | .cr => ['\r']
  | .lf => ['\n']

/-- A text without endings. -/
def Unbroken (line : Text) : Prop :=
  '\r' ∉ line ∧ '\n' ∉ line

instance (line : Text) : Decidable line.Unbroken :=
  inferInstanceAs (Decidable (_ ∧ _))

theorem unbroken_nil : Unbroken [] :=
  ⟨List.not_mem_nil, List.not_mem_nil⟩

theorem unbroken_cons_iff {c : Char} {line : Text} :
    Unbroken (c :: line) ↔ ¬(c == '\n' || c == '\r') = true ∧ line.Unbroken := by
  simp only [Unbroken, List.mem_cons, Bool.or_eq_true, beq_iff_eq, not_or, eq_comm (b := c)]
  tauto

/-- A text without endings is one line. -/
theorem Unbroken.linesAfter_eq {line : Text} (h : line.Unbroken) (returned : Bool) :
    linesAfter returned line = [line] := by
  induction line generalizing returned with
  | nil => rfl
  | cons c line ih =>
    obtain ⟨hc, hline⟩ := unbroken_cons_iff.1 h
    rw [linesAfter_cons hc, ih hline, List.modifyHead_cons]

/-- An ending ends the line in front of it, and what follows a lone carriage return is read as
such. Only where nothing stands between a carriage return and a lone line feed, the two are one
ending. -/
theorem Unbroken.linesAfter_append {line : Text} (h : line.Unbroken) {returned : Bool}
    {ending : Ending} (hapart : ¬(returned = true ∧ line = [] ∧ ending = .lf)) (rest : Text) :
    linesAfter returned (line ++ (ending.text ++ rest)) =
      line :: linesAfter (decide (ending = .cr)) rest := by
  induction line generalizing returned with
  | nil =>
    cases ending with
    | crlf | cr => simp [Ending.text, linesAfter]
    | lf =>
      have hfresh : returned = false := by simpa using hapart
      simp [Ending.text, linesAfter, hfresh]
  | cons c line ih =>
    obtain ⟨hc, hline⟩ := unbroken_cons_iff.1 h
    -- behind a character of the line, no carriage return is open
    rw [List.cons_append, linesAfter_cons hc, ih hline (by simp), List.modifyHead_cons]

/-! ## Joinings -/

/-- Two lines that follow each other, each with the ending before it, stay apart: the first one is
no empty line between a lone carriage return and a lone line feed. -/
def Apart (earlier next : Ending × Text) : Prop :=
  ¬(earlier = (.cr, []) ∧ next.1 = .lf)

instance : DecidableRel Apart :=
  fun _ _ => inferInstanceAs (Decidable (¬_))

/-- Lines that are joined to a text. There is always a first line, as the empty text is an empty
line. -/
structure Joining where
  /-- The first line. -/
  first : Text
  /-- The other lines, each with the ending before it. -/
  later : List (Ending × Text)
  /-- The lines contain no endings. -/
  unbroken : ∀ line ∈ first :: later.map Prod.snd, Unbroken line
  /-- No empty line stands between a lone carriage return and a lone line feed. -/
  apart : later.IsChain Apart

namespace Joining

/-- The lines that are joined. -/
def lines (joining : Joining) : List Text :=
  joining.first :: joining.later.map Prod.snd

/-- The text that the lines are joined to. -/
def text (joining : Joining) : Text :=
  joining.first ++ joining.later.flatMap fun next => next.1.text ++ next.2

/-- From any line on, the lines are those that were joined. -/
theorem linesAfter_flatMap {ending : Ending} {line : Text} {later : List (Ending × Text)}
    (hlines : ∀ other ∈ line :: later.map Prod.snd, Unbroken other)
    (hapart : ((ending, line) :: later).IsChain Apart) :
    linesAfter (decide (ending = .cr)) (line ++ later.flatMap fun next => next.1.text ++ next.2) =
      line :: later.map Prod.snd := by
  obtain ⟨hline, hothers⟩ := List.forall_mem_cons.1 hlines
  induction later generalizing ending line with
  | nil => simpa using hline.linesAfter_eq _
  | cons next later ih =>
    obtain ⟨hhead, htail⟩ := List.isChain_cons_cons.1 hapart
    have hends : ¬(decide (ending = .cr) = true ∧ line = [] ∧ next.1 = .lf) := by
      rintro ⟨hcr, rfl, hlf⟩
      exact hhead ⟨by rw [of_decide_eq_true hcr], hlf⟩
    obtain ⟨hnext, hrest⟩ := List.forall_mem_cons.1 hothers
    rw [List.flatMap_cons, List.append_assoc, hline.linesAfter_append hends,
      ih hothers htail hnext hrest, List.map_cons]

/-- The lines of a text that lines are joined to are these lines. -/
theorem lines_text (joining : Joining) : joining.text.lines = joining.lines := by
  -- the first line is read as if it followed an ending that leaves nothing open
  have hapart : ((Ending.crlf, joining.first) :: joining.later).IsChain Apart :=
    joining.apart.cons (by simp [Apart])
  exact linesAfter_flatMap joining.unbroken hapart

-- An empty line between a lone carriage return and a lone line feed is lost.
example : Text.lines (Ending.cr.text ++ ([] ++ Ending.lf.text)) = [[], []] := by
  decide

/-- Every text is a joining of lines. -/
theorem exists_text_eq (text : Text) : ∃ joining : Joining, joining.text = text := by
  -- a character is put in front of the first line, or ends an empty line before it
  induction text with
  | nil => exact ⟨⟨[], [], by simp [unbroken_nil], .nil⟩, rfl⟩
  | cons c text ih =>
    obtain ⟨⟨first, later, hlines, hapart⟩, rfl⟩ := ih
    have hbehind : ∀ line ∈ [] :: first :: later.map Prod.snd, Unbroken line :=
      List.forall_mem_cons.2 ⟨unbroken_nil, hlines⟩
    by_cases hfeed : c = '\n'
    · subst hfeed
      exact ⟨⟨[], (.lf, first) :: later, hbehind, hapart.cons (by simp [Apart])⟩, rfl⟩
    by_cases hreturn : c = '\r'
    · subst hreturn
      by_cases hchain : ((Ending.cr, first) :: later).IsChain Apart
      · exact ⟨⟨[], (.cr, first) :: later, hbehind, hchain⟩, rfl⟩
      -- the carriage return and the line feed behind it are one ending
      cases later with
      | nil => exact absurd (.singleton _) hchain
      | cons next others =>
        have hcrlf : first = [] ∧ next.1 = .lf := by
          simpa [List.isChain_cons_cons, hapart, Apart] using hchain
        obtain ⟨ending, line⟩ := next
        obtain ⟨rfl, rfl⟩ := hcrlf
        exact ⟨⟨[], (.crlf, line) :: others, hlines, hapart.tail.cons (by simp [Apart])⟩, rfl⟩
    · obtain ⟨hline, hothers⟩ := List.forall_mem_cons.1 hlines
      refine ⟨⟨c :: first, later, List.forall_mem_cons.2 ⟨?_, hothers⟩, hapart⟩, rfl⟩
      exact unbroken_cons_iff.2 ⟨by simp [hfeed, hreturn], hline⟩

end Joining

/-- No line contains the end of a line. -/
theorem newline_notMem_of_mem_lines {text line : Text} (h : line ∈ text.lines) : '\n' ∉ line := by
  obtain ⟨joining, rfl⟩ := Joining.exists_text_eq text
  rw [joining.lines_text] at h
  exact (joining.unbroken line h).2

end BlitzLens.Text
