import BlitzLens.Proofs.Extraction.Change

/-!
# Levels of loops

Which line closes a loop, said by counting and without a stack. Every line that opens a loop opens a
level. The level belongs to the function that is open at the line (`Source.functionAt`), or to the
top level when none is. From there on, the lines at which the same owner is open are counted: a line
that opens a loop adds a level, unless a later statement of it closes the loop, and a line that
closes a loop takes the innermost level away. The level is closed by the line that takes it away,
and if there is none, where the body of its owner ends (`Source.closingLine`).

## Main results

* `Source.functionEnd_of_functionAt`: what ends an open function is found from every line of it.
* `Source.closingLine_nested`: of two levels of one owner, the first is closed in front of the line
  that opens the second, or not before the second.
-/

namespace BlitzLens

/-- What a line does to the levels of its owner. -/
inductive LevelMove where
  /-- It opens a level. -/
  | opens
  /-- It closes the innermost level. -/
  | closes
  /-- It leaves the levels as they are. -/
  | stays
  deriving DecidableEq, Repr

/-- What a statement does to the levels of its owner. A loop that is closed on its own line opens no
level that goes on behind it. -/
def Statement.levelMove : Statement → LevelMove
  | openLoop _ _ _ closed => if closed then .stays else .opens
  | closeLoop => .closes
  | _ => .stays

namespace Source

/-! ## Counting -/

/-- What the lines of a file say. -/
def statements (source : Source) : List Statement :=
  source.lines.map Statement.read

/-- The line of the function that is open in front of a line, if there is one: the last line in
front that opens or closes a function opens it. -/
def functionAt (source : Source) : Nat → Option Nat
  | 0 => none
  | number + 1 =>
    match source.statements[number]? with
    | some (.openFunction ..) => some number
    | some .closeFunction => none
    | _ => source.functionAt number

/-- The last line of a function that is open in front of a line with which some statements start:
the line that closes it, the line above the next function, or the last line of the file. -/
def functionEndFrom (source : Source) (number : Nat) : List Statement → Nat
  | [] => source.lastLine
  | statement :: rest =>
    if statement = .closeFunction then number
    else if statement.opensFunction then number - 1
    else source.functionEndFrom (number + 1) rest

/-- The last line of the function that a line opens. -/
def functionEnd (source : Source) (line : Nat) : Nat :=
  source.functionEndFrom (line + 1) (source.statements.drop (line + 1))

/-- The line where the body of an owner ends: a function, given by its line, or the top level. -/
def bodyEnd (source : Source) : Option Nat → Nat
  | some line => source.functionEnd line
  | none => source.lastLine

/-- The line that closes a level of an owner which is open in front of a line with which some
statements start, when `depth` levels inside it are open there as well. -/
def closingFrom (source : Source) (owner : Option Nat) (depth number : Nat) :
    List Statement → Nat
  | [] => source.bodyEnd owner
  | statement :: rest =>
    if source.functionAt number = owner then
      match statement.levelMove with
      | .opens => source.closingFrom owner (depth + 1) (number + 1) rest
      | .closes =>
        if depth = 0 then number else source.closingFrom owner (depth - 1) (number + 1) rest
      | .stays => source.closingFrom owner depth (number + 1) rest
    -- what another owner does in between does not count
    else source.closingFrom owner depth (number + 1) rest

/-- The line that closes a level of an owner which is open in front of a line, when `depth` levels
inside it are open there as well. -/
def closingAt (source : Source) (owner : Option Nat) (depth number : Nat) : Nat :=
  source.closingFrom owner depth number (source.statements.drop number)

/-- A line opens a loop, and perhaps closes it again. -/
def OpensLevel (source : Source) (line : Nat) (closed : Bool) : Prop :=
  ∃ name suffix column, source.statements[line]? = some (.openLoop name suffix column closed)

/-- The line that closes the loop that a line opens. -/
def closingLine (source : Source) (line : Nat) : Nat :=
  match source.statements[line]? with
  | some (.openLoop _ _ _ true) => line
  | _ => source.closingAt (source.functionAt line) 0 (line + 1)

variable {source : Source} {owner : Option Nat} {statement : Statement}
  {number other line depth more : Nat}

/-- A line that has a statement is one of the file. -/
theorem lt_length_of_statement (h : source.statements[number]? = some statement) :
    number < source.lines.length := by
  have hlt := (List.getElem?_eq_some_iff.1 h).1
  rwa [statements, List.length_map] at hlt

/-- From a line on, the statements start with that of the line. -/
theorem drop_statements (h : source.statements[number]? = some statement) :
    source.statements.drop number = statement :: source.statements.drop (number + 1) := by
  obtain ⟨hlt, heq⟩ := List.getElem?_eq_some_iff.1 h
  rw [List.drop_eq_getElem_cons hlt, heq]

/-- Behind the last line, there are no statements. -/
theorem drop_statements_of_le (h : source.lines.length ≤ number) :
    source.statements.drop number = [] :=
  List.drop_eq_nil_of_le (by rwa [statements, List.length_map])

/-- What holds behind the last line, and in front of every line if it holds behind it, holds in
front of all lines. -/
@[elab_as_elim]
theorem backward_induction {motive : Nat → Prop} (source : Source) (number : Nat)
    (behind : ∀ number, source.lines.length ≤ number → motive number)
    (line : ∀ number statement, source.statements[number]? = some statement →
      motive (number + 1) → motive number) : motive number := by
  induction hcount : source.lines.length - number generalizing number with
  | zero => exact behind number (by omega)
  | succ count ih =>
    have hlt : number < source.statements.length := by
      rw [statements, List.length_map]
      omega
    exact line number _ (List.getElem?_eq_getElem hlt) (ih (number + 1) (by omega))

/-! ## The open function -/

/-- A line that opens a function. -/
theorem functionAt_openFunction {name suffix : Text} {column : Nat}
    {parameters : Option (Text × Nat)}
    (h : source.statements[number]? = some (.openFunction name suffix column parameters)) :
    source.functionAt (number + 1) = some number := by
  rw [functionAt, h]

/-- A line that closes a function. -/
theorem functionAt_closeFunction (h : source.statements[number]? = some .closeFunction) :
    source.functionAt (number + 1) = none := by
  rw [functionAt, h]

/-- A line that neither opens nor closes a function leaves the open one as it is. -/
theorem functionAt_succ (h : source.statements[number]? = some statement)
    (hbounds : statement.boundsFunction = false) :
    source.functionAt (number + 1) = source.functionAt number := by
  rw [functionAt, h]
  cases statement with
  | openFunction | closeFunction => cases hbounds
  | _ => rfl

/-- The function that is open was opened in front. -/
theorem lt_of_functionAt (h : source.functionAt number = some line) : line < number := by
  induction number with
  | zero => cases h
  | succ number ih =>
    rw [functionAt] at h
    split at h
    · cases h
      exact Nat.lt_succ_self _
    · cases h
    · exact Nat.lt_succ_of_lt (ih h)

/-- A function that is not open in front of a later line is never open again. -/
theorem functionAt_ne (h : source.functionAt number ≠ some line) (hlt : line < number)
    (hle : number ≤ other) : source.functionAt other ≠ some line := by
  induction hle with
  | refl => exact h
  | @step other hle ih =>
    rw [functionAt]
    split
    · -- only its own line opens the function
      intro heq
      cases heq
      exact Nat.lt_irrefl _ (Nat.lt_of_lt_of_le hlt hle)
    · exact nofun
    · exact ih

/-- What ends the open function is found from every line at which it is open. -/
theorem functionEnd_of_functionAt (h : source.functionAt number = some line)
    (hle : number ≤ source.lines.length) :
    source.functionEnd line =
      source.functionEndFrom number (source.statements.drop number) := by
  induction number with
  | zero => cases h
  | succ number ih =>
    have hlt : number < source.statements.length := by
      rw [statements, List.length_map]
      exact hle
    have hstatement := List.getElem?_eq_getElem hlt
    generalize source.statements[number] = statement at hstatement
    cases statement with
    | openFunction name suffix column parameters =>
      rw [functionAt_openFunction hstatement] at h
      cases h
      rfl
    | closeFunction =>
      rw [functionAt_closeFunction hstatement] at h
      cases h
    | _ =>
      rw [functionAt_succ hstatement rfl] at h
      rw [ih h (Nat.le_of_lt hle), drop_statements hstatement]
      rfl

/-- The statements from a line on do not end a function before the line above. -/
theorem le_functionEndFrom (hle : number ≤ source.lines.length) :
    number ≤ source.functionEndFrom number (source.statements.drop number) + 1 := by
  induction number using backward_induction source with
  | behind number hbehind =>
    rw [drop_statements_of_le hbehind, functionEndFrom, lastLine]
    omega
  | line number statement hstatement ih =>
    have hlt := lt_length_of_statement hstatement
    rw [drop_statements hstatement, functionEndFrom]
    split_ifs
    · exact Nat.le_succ number
    · omega
    · exact Nat.le_trans (Nat.le_succ number) (ih hlt)

/-- A line that opens no function is not behind the end of the body that it is in. -/
theorem le_bodyEnd (hstatement : source.statements[number]? = some statement)
    (hopens : statement.opensFunction = false) :
    number ≤ source.bodyEnd (source.functionAt number) := by
  have hlt := lt_length_of_statement hstatement
  cases howner : source.functionAt number with
  | none =>
    rw [bodyEnd, lastLine]
    omega
  | some line =>
    rw [bodyEnd, functionEnd_of_functionAt howner (Nat.le_of_lt hlt), drop_statements hstatement,
      functionEndFrom]
    simp only [hopens, Bool.false_eq_true, if_false]
    split_ifs
    · exact Nat.le_refl number
    · exact Nat.le_of_succ_le_succ (le_functionEndFrom hlt)

/-! ## The closing line -/

/-- Behind the last line, every level is closed where the body of its owner ends. -/
theorem closingAt_of_le (h : source.lines.length ≤ number) (depth : Nat) :
    source.closingAt owner depth number = source.bodyEnd owner := by
  rw [closingAt, drop_statements_of_le h, closingFrom]

/-- A line at which another owner is open does not count. -/
theorem closingAt_of_ne (h : source.functionAt number ≠ owner) (depth : Nat) :
    source.closingAt owner depth number = source.closingAt owner depth (number + 1) := by
  rw [closingAt, closingAt, ← List.tail_drop]
  cases source.statements.drop number with
  | nil => rfl
  | cons statement rest => rw [closingFrom, if_neg h, List.tail_cons]

/-- A line that leaves the levels as they are does not count. -/
theorem closingAt_of_stays (hstatement : source.statements[number]? = some statement)
    (hmove : statement.levelMove = .stays) (depth : Nat) :
    source.closingAt owner depth number = source.closingAt owner depth (number + 1) := by
  rw [closingAt, drop_statements hstatement, closingFrom, hmove]
  split_ifs <;> rfl

section Owner

variable (howner : source.functionAt number = owner)
  (hstatement : source.statements[number]? = some statement)

include howner hstatement

/-- A line that opens a level. -/
theorem closingAt_of_opens (hmove : statement.levelMove = .opens) (depth : Nat) :
    source.closingAt owner depth number = source.closingAt owner (depth + 1) (number + 1) := by
  rw [closingAt, drop_statements hstatement, closingFrom, if_pos howner, hmove]
  rfl

/-- A line that closes a level closes the innermost one. -/
theorem closingAt_zero_of_closes (hmove : statement.levelMove = .closes) :
    source.closingAt owner 0 number = number := by
  rw [closingAt, drop_statements hstatement, closingFrom, if_pos howner, hmove]
  rfl

/-- A line that closes a level leaves one level less inside the others. -/
theorem closingAt_succ_of_closes (hmove : statement.levelMove = .closes) (depth : Nat) :
    source.closingAt owner (depth + 1) number = source.closingAt owner depth (number + 1) := by
  rw [closingAt, drop_statements hstatement, closingFrom, if_pos howner, hmove]
  rfl

end Owner

/-- The levels of a function that has been closed are closed where it ends. -/
theorem closingAt_of_closed (h : source.functionAt number ≠ some line) (hlt : line < number)
    (depth : Nat) : source.closingAt (some line) depth number = source.functionEnd line := by
  induction number using backward_induction source with
  | behind number hbehind => exact closingAt_of_le hbehind depth
  | line number statement hstatement ih =>
    -- the function is not open at any later line either, and what is between does not count
    rw [closingAt_of_ne h]
    exact ih (functionAt_ne h hlt (Nat.le_succ number)) (Nat.lt_succ_of_lt hlt)

/-- A loop that is closed on its own line. -/
theorem closingLine_of_closed (h : source.OpensLevel line true) :
    source.closingLine line = line := by
  obtain ⟨name, suffix, column, hstatement⟩ := h
  rw [closingLine, hstatement]

/-- A loop that its own line leaves open. -/
theorem closingLine_of_open (h : source.OpensLevel line false) :
    source.closingLine line = source.closingAt (source.functionAt line) 0 (line + 1) := by
  obtain ⟨name, suffix, column, hstatement⟩ := h
  rw [closingLine, hstatement]

/-! ## Nesting -/

/-- A level that is open in front of a line is closed there or later, unless its body has ended in
front of it. -/
theorem le_closingAt (source : Source) (owner : Option Nat) (depth number : Nat) :
    number ≤ source.closingAt owner depth number ∨
      source.closingAt owner depth number = source.bodyEnd owner := by
  induction number using backward_induction source generalizing depth with
  | behind number hbehind => exact .inr (closingAt_of_le hbehind depth)
  | line number statement hstatement ih =>
    have hnext (depth : Nat) := (ih depth).imp_left Nat.le_of_succ_le
    by_cases howner : source.functionAt number = owner
    · cases hmove : statement.levelMove with
      | opens => exact closingAt_of_opens howner hstatement hmove depth ▸ hnext (depth + 1)
      | closes =>
        cases depth with
        | zero => exact .inl (Nat.le_of_eq (closingAt_zero_of_closes howner hstatement hmove).symm)
        | succ depth => exact closingAt_succ_of_closes howner hstatement hmove depth ▸ hnext depth
      | stays => exact closingAt_of_stays hstatement hmove depth ▸ hnext depth
    · exact closingAt_of_ne howner depth ▸ hnext depth

/-- A line that moves a level opens no function. -/
theorem opensFunction_of_levelMove (h : statement.levelMove ≠ .stays) :
    statement.opensFunction = false := by
  cases statement with
  | openFunction => exact absurd rfl h
  | _ => rfl

/-- The more levels are open inside a level, the later it is closed. -/
theorem closingAt_mono (h : depth ≤ more) (number : Nat) :
    source.closingAt owner depth number ≤ source.closingAt owner more number := by
  induction number using backward_induction source generalizing depth more with
  | behind number hbehind => rw [closingAt_of_le hbehind, closingAt_of_le hbehind]
  | line number statement hstatement ih =>
    by_cases howner : source.functionAt number = owner
    · cases hmove : statement.levelMove with
      | opens =>
        rw [closingAt_of_opens howner hstatement hmove, closingAt_of_opens howner hstatement hmove]
        exact ih (Nat.succ_le_succ h)
      | closes =>
        cases depth with
        | zero =>
          -- the level without levels inside is closed here, and no level is closed earlier
          rw [closingAt_zero_of_closes howner hstatement hmove]
          rcases le_closingAt source owner more number with hle | heq
          · exact hle
          · rw [heq, ← howner]
            exact le_bodyEnd hstatement (opensFunction_of_levelMove (by rw [hmove]; exact nofun))
        | succ depth =>
          obtain ⟨more, rfl⟩ := Nat.exists_eq_add_of_le' (Nat.le_trans (Nat.succ_pos depth) h)
          rw [closingAt_succ_of_closes howner hstatement hmove,
            closingAt_succ_of_closes howner hstatement hmove]
          exact ih (Nat.le_of_succ_le_succ h)
      | stays =>
        rw [closingAt_of_stays hstatement hmove, closingAt_of_stays hstatement hmove]
        exact ih h
    · rw [closingAt_of_ne howner, closingAt_of_ne howner]
      exact ih h

/-- A level that is open in front of a line is closed in front of a later line, or it is open there
still. -/
theorem closingAt_lt_or_eq (source : Source) (owner : Option Nat) (h : number ≤ other)
    (depth : Nat) :
    source.closingAt owner depth number < other ∨
      ∃ depth', source.closingAt owner depth number = source.closingAt owner depth' other := by
  induction h with
  | refl => exact .inr ⟨depth, rfl⟩
  | @step other hle ih =>
    rcases ih with hlt | ⟨inner, heq⟩
    · exact .inl (Nat.lt_succ_of_lt hlt)
    · rw [heq]
      cases hstatement : source.statements[other]? with
      | none =>
        have hle' : source.lines.length ≤ other := by
          simpa [statements] using hstatement
        exact .inr ⟨inner, by rw [closingAt_of_le hle', closingAt_of_le (Nat.le_succ_of_le hle')]⟩
      | some statement =>
        by_cases howner : source.functionAt other = owner
        · cases hmove : statement.levelMove with
          | opens => exact .inr ⟨inner + 1, closingAt_of_opens howner hstatement hmove inner⟩
          | closes =>
            cases inner with
            | zero =>
              rw [closingAt_zero_of_closes howner hstatement hmove]
              exact .inl (Nat.lt_succ_self other)
            | succ inner =>
              exact .inr ⟨inner, closingAt_succ_of_closes howner hstatement hmove inner⟩
          | stays => exact .inr ⟨inner, closingAt_of_stays hstatement hmove inner⟩
        · exact .inr ⟨inner, closingAt_of_ne howner inner⟩

/-- Of two levels of one owner, the first is closed in front of the line that opens the second, or
not before the second. -/
theorem closingLine_nested {closed closed' : Bool} (hfirst : source.OpensLevel line closed)
    (hsecond : source.OpensLevel other closed') (hlt : line < other)
    (howner : source.functionAt line = source.functionAt other) :
    source.closingLine line < other ∨ source.closingLine other ≤ source.closingLine line := by
  cases closed with
  | true => exact .inl (by rwa [closingLine_of_closed hfirst])
  | false =>
    rw [closingLine_of_open hfirst, howner]
    rcases closingAt_lt_or_eq source (source.functionAt other) (Nat.succ_le_of_lt hlt) 0 with
      hbefore | ⟨depth, heq⟩
    · exact .inl hbefore
    · rw [heq]
      refine .inr ?_
      obtain ⟨name, suffix, column, hstatement⟩ := id hsecond
      cases closed' with
      | true =>
        -- the second loop is closed on its own line, at which the first is still open
        rw [closingLine_of_closed hsecond]
        rcases le_closingAt source (source.functionAt other) depth other with hle | hend
        · exact hle
        · rw [hend]
          exact le_bodyEnd hstatement rfl
      | false =>
        rw [closingLine_of_open hsecond, closingAt_of_opens rfl hstatement rfl]
        exact closingAt_mono (Nat.zero_le _) (other + 1)

end Source

end BlitzLens
