import BlitzLens.Line.Nesting
import Mathlib.Order.Bounds.Basic
import Mathlib.Tactic.SplitIfs

/-!
# Open parentheses

A text is read from left to right with a stack of the parentheses that are open, while the search
for the parenthesis that closes another one looks ahead with a counter. The two agree: what is left
on the stack are the parentheses outside strings for which the search finds nothing
(`Line.mem_openParensFrom_iff`). The stack holds later parentheses above earlier ones, so its top is
the last of them (`Line.lastOpenParen?_eq_some_iff`).
-/

namespace BlitzLens.Line

variable {text rest : Text} {quoted : Bool} {opened : List Nat} {column i n : Nat} {c : Char}

/-- An open parenthesis stands at a column of a text: it is outside strings, and no parenthesis
closes it. -/
structure IsOpenParen (text : Text) (column : Nat) : Prop where
  /-- A parenthesis stands there. -/
  char_eq : text[column]? = some '('
  /-- An even number of quotes stands before it. -/
  even : (text.take column).count '"' % 2 = 0
  /-- No parenthesis closes it. -/
  unmatched : matchingParen? text (column : Int) = .ok none

/-! ## The search for a closing parenthesis -/

/-- Whether a closing parenthesis is found does not depend on where columns are counted from. -/
theorem closingFrom?_eq_none_congr {depth : Int} (column column' : Int) :
    closingFrom? depth quoted column text = none ↔
      closingFrom? depth quoted column' text = none := by
  induction text generalizing depth quoted column column' with
  | nil => rfl
  | cons c rest ih =>
    rw [closingFrom?, closingFrom?]
    -- both searches read the same character in the same state
    split_ifs with hquote hquoted hopen hclose hzero
    · exact ih _ _
    · exact ih _ _
    · exact ih _ _
    · exact iff_of_false nofun nofun
    · exact ih _ _
    · exact ih _ _

/-- Outside strings only parentheses move the counter of the search. -/
theorem closingFrom?_other (h : c = '(' ∨ c = ')' → quoted = true) (depth : Int) :
    closingFrom? depth quoted (column : Int) (c :: rest) =
      closingFrom? depth (if c == '"' then !quoted else quoted) ((column + 1 : Nat) : Int)
        rest := by
  rw [closingFrom?]
  split_ifs with hquote hquoted hopen hclose hzero
  · rfl
  · rfl
  · exact absurd (h (.inl (beq_iff_eq.1 hopen))) hquoted
  · exact absurd (h (.inr (beq_iff_eq.1 hclose))) hquoted
  · exact absurd (h (.inr (beq_iff_eq.1 hclose))) hquoted
  · rfl

/-- An open parenthesis stands at a distance from the start of a text, where `quoted` tells whether
the text starts inside a string. -/
structure OpensAt (quoted : Bool) (text : Text) (n : Nat) : Prop where
  /-- A parenthesis stands there. -/
  char_eq : text[n]? = some '('
  /-- The quotes before it leave no string open. -/
  even : (quoted.toNat + (text.take n).count '"') % 2 = 0
  /-- No parenthesis closes it. -/
  unclosed : closingParen? text n = none

/-- The open parentheses of a text are those at a distance from its start. -/
theorem isOpenParen_iff : IsOpenParen text i ↔ OpensAt false text i := by
  have hsearch : matchingParen? text (i : Int) = .ok (closingParen? text i) := rfl
  constructor
  · rintro ⟨hchar, heven, hunmatched⟩
    rw [hsearch] at hunmatched
    exact ⟨hchar, by simpa using heven, Except.ok.inj hunmatched⟩
  · rintro ⟨hchar, heven, hunclosed⟩
    exact ⟨hchar, by simpa using heven, by rw [hsearch, hunclosed]⟩

/-- A parenthesis at the start of a text is open if the rest of the text does not close it. -/
theorem opensAt_zero_iff : OpensAt quoted (c :: rest) 0 ↔
    c = '(' ∧ quoted = false ∧ closingFrom? 1 false (column : Int) rest = none := by
  have hsearch : closingParen? ('(' :: rest) 0 = closingFrom? 1 false 1 rest := rfl
  constructor
  · rintro ⟨hchar, heven, hunclosed⟩
    obtain rfl : c = '(' := by simpa using hchar
    rw [hsearch, closingFrom?_eq_none_congr _ (column : Int)] at hunclosed
    exact ⟨rfl, by cases quoted <;> simp_all, hunclosed⟩
  · rintro ⟨rfl, rfl, hunclosed⟩
    rw [closingFrom?_eq_none_congr _ 1, ← hsearch] at hunclosed
    exact ⟨rfl, rfl, hunclosed⟩

/-- The quotes of a text up to a column leave a string open or not as those of its rest do, if the
first character, a quote, has opened or closed a string. -/
theorem quotes_take_succ (quoted : Bool) (c : Char) (rest : Text) (n : Nat) :
    (quoted.toNat + ((c :: rest).take (n + 1)).count '"') % 2 =
      ((if c == '"' then !quoted else quoted).toNat + (rest.take n).count '"') % 2 := by
  rw [List.take_succ_cons, List.count_cons]
  -- a quote is counted on the left and has turned the flag on the right
  split_ifs <;> cases quoted <;> simp <;> omega

/-- Further on, the first character matters only if it is a quote. -/
theorem opensAt_succ_iff :
    OpensAt quoted (c :: rest) (n + 1) ↔ OpensAt (if c == '"' then !quoted else quoted) rest n := by
  have heven := quotes_take_succ quoted c rest n
  have hsearch : closingParen? (c :: rest) (n + 1) = none ↔ closingParen? rest n = none :=
    closingFrom?_eq_none_congr _ _
  constructor
  · rintro ⟨hchar, heven', hunclosed⟩
    exact ⟨by simpa using hchar, heven ▸ heven', hsearch.1 hunclosed⟩
  · rintro ⟨hchar, heven', hunclosed⟩
    exact ⟨by simpa using hchar, heven ▸ heven', hsearch.2 hunclosed⟩

/-- An open parenthesis of a text is its first character, or an open parenthesis of the rest. -/
theorem exists_opensAt_cons_iff : (∃ n, i = column + n ∧ OpensAt quoted (c :: rest) n) ↔
    (i = column ∧ c = '(' ∧ quoted = false ∧
        closingFrom? 1 false ((column + 1 : Nat) : Int) rest = none) ∨
      ∃ n, i = column + 1 + n ∧ OpensAt (if c == '"' then !quoted else quoted) rest n := by
  constructor
  · rintro ⟨n, rfl, hopens⟩
    cases n with
    | zero => exact .inl ⟨rfl, opensAt_zero_iff.1 hopens⟩
    | succ n => exact .inr ⟨n, by omega, opensAt_succ_iff.1 hopens⟩
  · rintro (⟨rfl, hfirst⟩ | ⟨n, rfl, hopens⟩)
    · exact ⟨0, rfl, opensAt_zero_iff.2 hfirst⟩
    · exact ⟨n + 1, by omega, opensAt_succ_iff.2 hopens⟩

/-! ## The stack -/

/-- A parenthesis on the stack is still open behind a text: the text does not close as many
parentheses as lie above it and one more. -/
def Survives (opened : List Nat) (quoted : Bool) (column : Nat) (text : Text) (i : Nat) : Prop :=
  ∃ above : Nat, opened[above]? = some i ∧
    closingFrom? ((above + 1 : Nat) : Int) quoted (column : Int) text = none

/-- Outside strings only parentheses move the stack. -/
theorem openParensFrom_other (h : c = '(' ∨ c = ')' → quoted = true) :
    openParensFrom opened quoted column (c :: rest) =
      openParensFrom opened (if c == '"' then !quoted else quoted) (column + 1) rest := by
  rw [openParensFrom]
  split_ifs with hquote hquoted hopen hclose
  · rfl
  · rfl
  · exact absurd (h (.inl (beq_iff_eq.1 hopen))) hquoted
  · exact absurd (h (.inr (beq_iff_eq.1 hclose))) hquoted
  · rfl

/-- An opening parenthesis lies above those that are open already. -/
theorem survives_cons_iff : Survives (column :: opened) false (column + 1) rest i ↔
    Survives opened false column ('(' :: rest) i ∨
      i = column ∧ closingFrom? 1 false ((column + 1 : Nat) : Int) rest = none := by
  have hopen (above : Nat) :
      closingFrom? ((above + 1 : Nat) : Int) false (column : Int) ('(' :: rest) =
        closingFrom? ((above + 1 + 1 : Nat) : Int) false ((column + 1 : Nat) : Int) rest := rfl
  constructor
  · rintro ⟨above, habove, hsearch⟩
    cases above with
    | zero => exact .inr ⟨(Option.some.inj habove).symm, hsearch⟩
    | succ above => exact .inl ⟨above, habove, (hopen above).trans hsearch⟩
  · rintro (⟨above, habove, hsearch⟩ | ⟨rfl, hsearch⟩)
    · exact ⟨above + 1, habove, (hopen above).symm.trans hsearch⟩
    · exact ⟨0, rfl, hsearch⟩

/-- A closing parenthesis takes the last open one off the stack. -/
theorem survives_tail_iff : Survives opened.tail false (column + 1) rest i ↔
    Survives opened false column (')' :: rest) i := by
  -- what lies above a parenthesis is closed before it, so the counter tells how much that is
  have hclose (above : Nat) :
      closingFrom? ((above + 1 : Nat) : Int) false (column : Int) (')' :: rest) =
        if (((above + 1 : Nat) : Int) - 1 == 0) = true then some (column : Int)
        else closingFrom? (((above + 1 : Nat) : Int) - 1) false ((column + 1 : Nat) : Int) rest :=
    rfl
  constructor
  · rintro ⟨above, habove, hsearch⟩
    refine ⟨above + 1, by rwa [List.getElem?_tail] at habove, ?_⟩
    rw [hclose, if_neg (by rw [beq_iff_eq]; omega)]
    have hdepth : ((above + 1 + 1 : Nat) : Int) - 1 = ((above + 1 : Nat) : Int) := by omega
    rwa [hdepth]
  · rintro ⟨above, habove, hsearch⟩
    rw [hclose] at hsearch
    cases above with
    | zero => cases hsearch
    | succ above =>
      rw [if_neg (by rw [beq_iff_eq]; omega)] at hsearch
      have hdepth : ((above + 1 + 1 : Nat) : Int) - 1 = ((above + 1 : Nat) : Int) := by omega
      rw [hdepth] at hsearch
      exact ⟨above, by rwa [List.getElem?_tail], hsearch⟩

/-- The parentheses on the stack behind a text are those that were on it and survive the text, and
the open parentheses of the text. -/
theorem mem_openParensFrom_iff : i ∈ openParensFrom opened quoted column text ↔
    Survives opened quoted column text i ∨ ∃ n, i = column + n ∧ OpensAt quoted text n := by
  -- the stack, the flag and the column are those behind what is read already
  induction text generalizing opened quoted column with
  | nil =>
    have hnone : ¬∃ n, i = column + n ∧ OpensAt quoted [] n := by
      rintro ⟨n, -, hopens⟩
      exact nomatch hopens.char_eq
    rw [openParensFrom, or_iff_left hnone, List.mem_iff_getElem?]
    exact exists_congr fun above => (and_iff_left rfl).symm
  | cons c rest ih =>
    rw [exists_opensAt_cons_iff]
    by_cases hother : c = '(' ∨ c = ')' → quoted = true
    · -- the character is no open parenthesis itself
      have hopen : ¬(i = column ∧ c = '(' ∧ quoted = false ∧
          closingFrom? 1 false ((column + 1 : Nat) : Int) rest = none) := by
        rintro ⟨-, hc, hquoted, -⟩
        cases hquoted.symm.trans (hother (.inl hc))
      rw [openParensFrom_other hother, ih, or_iff_right hopen]
      simp only [Survives, closingFrom?_other hother]
    · obtain ⟨hparen, hquoted⟩ := Classical.not_imp.1 hother
      obtain rfl : quoted = false := Bool.eq_false_iff.2 hquoted
      -- an opening parenthesis is pushed, a closing one pops
      rcases hparen with rfl | rfl
      · have hfirst : (i = column ∧ '(' = '(' ∧ false = false ∧
            closingFrom? 1 false ((column + 1 : Nat) : Int) rest = none) ↔
              i = column ∧ closingFrom? 1 false ((column + 1 : Nat) : Int) rest = none := by
          simp only [true_and]
        rw [hfirst, ← or_assoc, ← survives_cons_iff]
        exact ih
      · have hfirst : ¬(i = column ∧ ')' = '(' ∧ false = false ∧
            closingFrom? 1 false ((column + 1 : Nat) : Int) rest = none) := by
          rintro ⟨-, hc, -⟩
          cases hc
        rw [or_iff_right hfirst, ← survives_tail_iff]
        exact ih

/-- Later parentheses lie above earlier ones. -/
theorem pairwise_openParensFrom (hsorted : opened.Pairwise (· > ·))
    (hlt : ∀ i ∈ opened, i < column) :
    (openParensFrom opened quoted column text).Pairwise (· > ·) := by
  induction text generalizing opened quoted column with
  | nil => exact hsorted
  | cons c rest ih =>
    have hlt' : ∀ i ∈ opened, i < column + 1 := fun i hi => Nat.lt_succ_of_lt (hlt i hi)
    rw [openParensFrom]
    split_ifs
    · exact ih hsorted hlt'
    · exact ih hsorted hlt'
    -- what is pushed stands behind everything on the stack
    · exact ih (List.pairwise_cons.2 ⟨hlt, hsorted⟩)
        (List.forall_mem_cons.2 ⟨Nat.lt_succ_self column, hlt'⟩)
    · exact ih hsorted.tail fun i hi => hlt' i (List.mem_of_mem_tail hi)
    · exact ih hsorted hlt'

/-! ## The top of the stack -/

/-- The first element of a decreasing list is the greatest one. -/
theorem head?_eq_some_iff_isGreatest {list : List Nat} (h : list.Pairwise (· > ·)) :
    list.head? = some i ↔ IsGreatest {j | j ∈ list} i := by
  cases list with
  | nil => exact iff_of_false nofun fun hgreatest => nomatch hgreatest.1
  | cons first others =>
    have hfirst : IsGreatest {j | j ∈ first :: others} first := by
      refine ⟨List.mem_cons_self, fun j hj => ?_⟩
      rcases List.mem_cons.1 hj with rfl | hj
      · exact Nat.le_refl _
      · exact Nat.le_of_lt ((List.pairwise_cons.1 h).1 j hj)
    rw [List.head?_cons, Option.some.injEq]
    exact ⟨fun heq => heq ▸ hfirst, hfirst.unique⟩

/-- The stack holds the open parentheses of a text. -/
theorem mem_openParens_iff : i ∈ openParensFrom [] false 0 text ↔ IsOpenParen text i := by
  have hempty : ¬Survives [] false 0 text i := by
    rintro ⟨above, habove, -⟩
    cases habove
  rw [mem_openParensFrom_iff, or_iff_right hempty, isOpenParen_iff]
  simp

/-- The parenthesis that was opened last is the last one that is open. -/
theorem lastOpenParen?_eq_some_iff :
    lastOpenParen? text = some i ↔ IsGreatest {j | IsOpenParen text j} i := by
  rw [lastOpenParen?, head?_eq_some_iff_isGreatest (pairwise_openParensFrom .nil nofun)]
  simp only [mem_openParens_iff]

/-- No parenthesis was opened last if none is open. -/
theorem lastOpenParen?_eq_none_iff : lastOpenParen? text = none ↔ ∀ i, ¬IsOpenParen text i := by
  rw [lastOpenParen?, List.head?_eq_none_iff, List.eq_nil_iff_forall_not_mem]
  simp only [mem_openParens_iff]

end BlitzLens.Line
