import BlitzLens.Proofs.Extraction.Statement
import BlitzLens.Proofs.Query.Highlight
import BlitzLens.Symbol.Guard

/-!
# The code of a line and its comment

A line is its code and its comment one after the other, and the code taken for itself has no comment
(`Line.code_code`). A guard looks at the code only: it accepts a word of the code in the line if and
only if it does so in the code alone (`Line.accepts_code`).
-/

namespace BlitzLens

namespace Line

variable {line : Text}

/-- A line is its code and what stands behind it. -/
theorem code_append_drop (line : Text) : code line ++ line.drop (codeEnd line) = line :=
  List.take_append_drop _ _

/-- What stands behind the code is nothing, or a comment that starts with a semicolon. -/
theorem head?_drop_codeEnd (line : Text) :
    (line.drop (codeEnd line)).head? = none ∨ (line.drop (codeEnd line)).head? = some ';' := by
  unfold codeEnd
  cases h : commentStart? line with
  | none => exact .inl (by rw [Option.getD_none, List.drop_length]; rfl)
  | some start => exact .inr (head?_drop_semicolonFrom? h)

/-- No semicolon outside strings stands in front of the first one. -/
theorem semicolonFrom?_take (quoted : Bool) (text : Text) :
    semicolonFrom? quoted (text.take ((semicolonFrom? quoted text).getD text.length)) = none := by
  induction text generalizing quoted with
  | nil => rfl
  | cons c text ih =>
    -- a character in front of the semicolon is passed over in the whole text and in the part
    have hpass (found : Option Nat) :
        (c :: text).take ((found.map (· + 1)).getD (c :: text).length) =
          c :: text.take (found.getD text.length) := by
      cases found <;> rfl
    rw [semicolonFrom?]
    split_ifs with hquote hsemicolon
    · rw [hpass, semicolonFrom?, if_pos hquote, ih]
      rfl
    · rfl
    · rw [hpass, semicolonFrom?, if_neg hquote, if_neg hsemicolon, ih]
      rfl

/-- The code has no comment. -/
theorem commentStart?_code (line : Text) : commentStart? (code line) = none :=
  semicolonFrom?_take false line

/-- The code of the code is the code. -/
@[simp]
theorem code_code (line : Text) : code (code line) = code line := by
  rw [code, codeEnd, commentStart?_code, Option.getD_none, List.take_length]

/-- What stands apart in the code stands apart when there is no comment. -/
theorem CodeAt.standsAt_code {column : Nat} {piece : Text} (h : CodeAt line column piece) :
    StandsAt (code line) column piece := by
  have hinside := h.inCode
  have htake {n : Nat} (hn : n ≤ codeEnd line) : (code line).take n = line.take n := by
    rw [code, List.take_take, Nat.min_eq_left hn]
  refine ⟨by rwa [length_code], ?_, ?_, ?_⟩
  · rw [code, List.drop_take, List.take_take, Nat.min_eq_left (by omega)]
    exact h.slice
  · rw [htake (by omega)]
    exact h.left
  · -- what follows the piece in the code starts like what follows it in the line
    have hright := h.right
    rw [← code_append_drop line, List.drop_append_of_le_length (by rwa [length_code])] at hright
    cases hrest : (code line).drop (column + piece.length) with
    | nil => rfl
    | cons c rest =>
      rw [hrest, List.cons_append, Text.startsWord_cons] at hright
      rwa [Text.startsWord_cons]

/-! ## Guards -/

/-- What comes first behind a text of the code, but for blanks, is an opening parenthesis in the
line exactly when it is one in the code. -/
theorem head?_trimStart_append {text tail : Text}
    (htail : tail.head? = none ∨ tail.head? = some ';') :
    ((Text.trimStart (text ++ tail)).head? == some '(') =
      ((Text.trimStart text).head? == some '(') := by
  induction text with
  | nil =>
    cases tail with
    | nil => rfl
    | cons c tail =>
      have hc : c = ';' := by simpa using htail
      rw [hc, List.nil_append, Text.trimStart, List.dropWhile_cons_of_neg (by decide)]
      rfl
  | cons c text ih =>
    unfold Text.trimStart at ih ⊢
    by_cases hc : isBlank c = true
    · rwa [List.cons_append, List.dropWhile_cons_of_pos hc, List.dropWhile_cons_of_pos hc]
    · rw [List.cons_append, List.dropWhile_cons_of_neg hc, List.dropWhile_cons_of_neg hc]
      rfl

/-- A guard accepts a word of the code in the line if and only if it does so in the code alone. -/
theorem accepts_code (guard : Guard) {start stop : Nat} (hword : start < stop)
    (hinside : stop ≤ codeEnd line) :
    guard.accepts line (start : Int) (stop : Int) =
      guard.accepts (code line) (start : Int) (stop : Int) := by
  have hlength := codeEnd_le line
  have htake : (code line).take start = line.take start := by
    rw [code, List.take_take, Nat.min_eq_left (by omega)]
  have hdrop : line.drop stop = (code line).drop stop ++ line.drop (codeEnd line) := by
    rw [← List.drop_append_of_le_length (by rwa [length_code]), code_append_drop]
  -- each of the conditions is the same in the line and in the code
  have hboundary : isWordBoundary line (start : Int) (stop : Int) =
      isWordBoundary (code line) (start : Int) (stop : Int) := by
    have hstarts : Text.startsWord (line.drop stop) = Text.startsWord ((code line).drop stop) := by
      rw [hdrop]
      cases hrest : (code line).drop stop with
      | nil => exact startsWord_drop_codeEnd line
      | cons c rest => rw [List.cons_append, Text.startsWord_cons, Text.startsWord_cons]
    rw [isWordBoundary_natCast (by omega), isWordBoundary_natCast (by rw [length_code]; omega),
      htake, hstarts]
  have hupTo : line.upTo (start : Int) = (code line).upTo (start : Int) := by
    change line.take (min start line.length) = (code line).take (min start (code line).length)
    rw [Nat.min_eq_left (by omega), length_code, Nat.min_eq_left (by omega), htake]
  have hcomment : inComment line (start : Int) = false := by
    unfold inComment
    cases hstart : commentStart? line with
    | none => rfl
    | some column =>
      rw [codeEnd, hstart, Option.getD_some] at hinside
      exact decide_eq_false (by omega)
  have hcommentCode : inComment (code line) (start : Int) = false := by
    rw [inComment, commentStart?_code]
  have hafter : guard.admitsAfter (line.startingAt (stop : Int)) =
      guard.admitsAfter ((code line).startingAt (stop : Int)) := by
    have hstart : line.startingAt (stop : Int) =
        (code line).startingAt (stop : Int) ++ line.drop (codeEnd line) := by
      change line.drop (min stop line.length) =
        (code line).drop (min stop (code line).length) ++ _
      rw [Nat.min_eq_left (by omega), length_code, Nat.min_eq_left hinside, hdrop]
    rw [hstart]
    cases guard with
    | call => exact head?_trimStart_append (head?_drop_codeEnd line)
    | _ => rfl
  unfold Guard.accepts Guard.admits
  rw [hboundary, inString, inString, hupTo, hcomment, hcommentCode, hafter]

/-- The words of the code are those of the code alone. -/
theorem codeWords_code (line : Text) : codeWords (code line) = codeWords line := by
  have hlength := codeEnd_le line
  unfold codeWords
  rw [code_code]
  refine congrArg (List.map _) (List.filter_congr fun run hrun => ?_)
  have hstop := stop_le_of_mem_wordRuns hrun
  rw [Nat.zero_add, length_code] at hstop
  have hupTo : (code line).upTo (run.1 : Int) = line.upTo (run.1 : Int) := by
    change (code line).take (min run.1 (code line).length) = line.take (min run.1 line.length)
    rw [length_code, Nat.min_eq_left (by omega), Nat.min_eq_left (by omega), code, List.take_take,
      Nat.min_eq_left (by omega)]
  dsimp only
  rw [inString, inString, hupTo]

/-- Words of the code are accepted by the same guards in the line and in the code alone. -/
theorem accepts_code_of_mem {word : Word} (h : word ∈ codeWords line) (guard : Guard) :
    guard.accepts line word.start word.stop = guard.accepts (code line) word.start word.stop := by
  obtain ⟨⟨start, run⟩, hrun, rfl⟩ := List.mem_map.1 h
  obtain ⟨hmem, hopens⟩ := List.mem_filter.1 hrun
  have hstop := stop_le_of_mem_wordRuns hmem
  rw [Nat.zero_add, length_code] at hstop
  -- a word has at least one character
  have hlength : 0 < run.length := by
    cases run with
    | nil => cases hopens
    | cons c run => exact Nat.succ_pos _
  exact accepts_code guard (Nat.lt_add_of_pos_right hlength) hstop

/-- The words of two lines with the same code are referred to alike. -/
theorem forall₂_codeWords {line' : Text} (h : code line = code line') :
    List.Forall₂ (SameReference line line') (codeWords line) (codeWords line') := by
  have hwords : codeWords line = codeWords line' := by
    rw [← codeWords_code, h, codeWords_code]
  rw [hwords, List.forall₂_same]
  intro word hword
  refine ⟨rfl, rfl, rfl, fun guard => ?_⟩
  rw [accepts_code_of_mem (hwords ▸ hword), h, ← accepts_code_of_mem hword]

end Line

end BlitzLens
