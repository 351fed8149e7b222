import Mathlib.Algebra.GroupWithZero.Nat
import BlitzLens.Proofs.Line.Pieces
import BlitzLens.Proofs.Query.Session

/-!
# Calls without parentheses

In a statement that calls a function without parentheses, signature help takes the name of the
function from the start of the line and counts the commas from there. On a line of several
statements this is the name that the first of them starts with, and the commas of all of them
(`signatureHelp?_of_callsBare`). So the statement at the caret gets help for its own call exactly if
the first statement starts with the name of the same functions and no earlier statement has commas
outside brackets and strings, as when it is the first statement itself
(`signatureHelp?_callsBare_iff`).

## Main definitions

* `Signature.statementName?`: the name that a statement starts with.
* `Signature.CallsBare`: a caret in a call without parentheses.

## Main results

* `signatureHelp?_callsBare_iff`: when such a call gets help of its own.
-/

namespace BlitzLens

open Line

/-! ## Commas of statements -/

/-- The separators of a text are those of the pieces into which another separator splits it. -/
theorem Line.countFrom_eq_sum {separator other : Char} (hne : separator ≠ other) {place : Nesting}
    {text piece : Text} {pieces : List Text} (h : splitFrom other place text = piece :: pieces) :
    countFrom separator place text =
      countFrom separator place piece + (pieces.map (countTopLevel separator)).sum := by
  induction text generalizing place piece pieces with
  | nil =>
    cases h
    rfl
  | cons c text ih =>
    rw [splitFrom_cons] at h
    split_ifs at h with hdivides
    · -- the other separator ends a piece at the outermost place, where the next one starts
      obtain ⟨hother, hc, hplace⟩ := Nesting.divides_eq_true_iff.1 hdivides
      cases h
      have hnone : place.divides separator c ≠ true := fun hdivides =>
        hne ((Nesting.divides_eq_true_iff.1 hdivides).1.symm.trans hother)
      obtain ⟨next, more, hnext⟩ := List.exists_cons_of_ne_nil (splitFrom_ne_nil other place text)
      rw [countFrom_cons, if_neg hnone, Nesting.after_of_delimits_eq_false hc, ih hnext, hnext,
        List.map_cons, List.sum_cons, countTopLevel, hplace]
      rfl
    · obtain ⟨next, more, hnext⟩ :=
        List.exists_cons_of_ne_nil (splitFrom_ne_nil other (place.after c) text)
      rw [hnext] at h
      cases h
      rw [countFrom_cons, ih hnext, countFrom_cons, Nat.add_assoc]

/-- The top-level commas of a line are those of its statements. -/
theorem Line.countTopLevel_eq_sum {separator other : Char} (hne : separator ≠ other) (text : Text) :
    countTopLevel separator text =
      ((splitTopLevel other text).map (countTopLevel separator)).sum := by
  obtain ⟨piece, pieces, hsplit⟩ := List.exists_cons_of_ne_nil
    (splitFrom_ne_nil other .outermost text)
  rw [splitTopLevel, hsplit, List.map_cons, List.sum_cons]
  exact countFrom_eq_sum hne hsplit

/-! ## The first statement of a line -/

namespace Text

/-- A text that is not blank keeps its leading blanks apart when something is put behind it. -/
theorem trimStart_append {first : Text} (h : first.trimStart ≠ []) (tail : Text) :
    (first ++ tail).trimStart = first.trimStart ++ tail := by
  rw [Text.trimStart, List.dropWhile_append, if_neg (by rw [List.isEmpty_iff]; exact h)]
  rfl

/-- An identifier is read in front of anything that no word goes on in. -/
theorem identifier?_append {name rest tail : Text} (hname : (name ++ rest).identifier? = some name)
    (htail : Text.startsWord tail = false) : (name ++ tail).identifier? = some name := by
  obtain ⟨-, -, hword, -⟩ := Text.identifier?_eq_some hname
  obtain ⟨c, word, rfl⟩ := List.exists_cons_of_ne_nil hword.ne_nil
  have hstart : isIdentifierStart c = true := by
    by_contra hstart
    rw [List.cons_append, Text.identifier?, if_neg hstart] at hname
    cases hname
  have hrun : (word ++ tail).takeWhile isWordChar = word :=
    Text.wordRun_append (fun d hd => hword.all_word d (List.mem_cons_of_mem _ hd)) htail
  rw [List.cons_append, Text.identifier?, if_pos hstart, hrun]

end Text

namespace Signature

variable {line first tail rest name : Text} {column : Nat}

/-- The name that a statement starts with, unless it is reserved. -/
def statementName? (statement : Text) : Option Text :=
  (statement.trimStart.identifier?).filter fun name => !Keyword.isReserved name

/-- The help for a statement that calls a function without parentheses: the signatures of the
function, and the commas of the statement in front of the caret. -/
def bareHelp (symbols : List Symbol) (stubs : StubTable) (statement name : Text)
    (start : Position) : SignatureHelp where
  signatures := collect symbols stubs name
  activeSignature := 0
  activeParameter := (countTopLevel ',' statement : Nat)
  start := start

/-- A caret stands in a statement that starts with a name and a blank; no parenthesis is open in
front of the caret, and earlier statements of the line may stand in front of the one at the
caret. -/
structure CallsBare (line : Text) (column : Nat) (earlier : List Text) (statement name : Text) :
    Prop where
  /-- The caret is in the code. -/
  isCode : isCode line (min (column : Int) line.length) = true
  /-- No parenthesis is open. -/
  closed : lastOpenParen? (line.upTo column) = none
  /-- The statements in front of the caret, the last of which the caret stands in. -/
  split : splitTopLevel ':' (line.upTo column) = earlier ++ [statement]
  /-- The statement starts with the name, which is not reserved. -/
  name_eq : statementName? statement = some name
  /-- A blank stands behind the name. -/
  blank : ∃ b arguments, statement.trimStart = name ++ b :: arguments ∧ isBlank b = true

/-- The first word of a line is the one that its first statement starts with. -/
theorem statementWord?_append (hname : first.trimStart.identifier? = some name)
    (hfirst : first.trimStart = name ++ rest) (htail : Text.startsWord (rest ++ tail) = false)
    (hcolumn : first.length ≤ column) :
    (statementWord? (first ++ tail) column).map Word.text = statementName? first := by
  have hne : first.trimStart ≠ [] := fun hnil => by rw [hnil] at hname; cases hname
  have htrim : (first ++ tail).trimStart = name ++ (rest ++ tail) := by
    rw [Text.trimStart_append hne, hfirst, List.append_assoc]
  have hread : (first ++ tail).trimStart.identifier? = some name :=
    htrim ▸ Text.identifier?_append (hfirst ▸ hname) htail
  have hlength : first.length = (first.takeWhile isBlank).length + (name.length + rest.length) := by
    rw [← List.length_append, ← hfirst, ← List.length_append, Text.blanks_append_trimStart]
  have hbehind : ¬((column : Int) < (((first ++ tail).length - (first ++ tail).trimStart.length +
      name.length : Nat) : Int)) := by
    rw [htrim]
    simp only [List.length_append]
    omega
  have hword : statementWord? (first ++ tail) column =
      if (decide ((column : Int) < (((first ++ tail).length - (first ++ tail).trimStart.length +
        name.length : Nat) : Int)) || Keyword.isReserved name) = true then none
      else some ⟨((first ++ tail).length - (first ++ tail).trimStart.length : Nat),
        ((first ++ tail).length - (first ++ tail).trimStart.length : Nat) + name.length, name⟩ := by
    rw [statementWord?, hread]
    rfl
  rw [hword, decide_eq_false hbehind, Bool.false_or, statementName?, hname, Option.filter_some]
  cases Keyword.isReserved name <;> rfl

/-- A line whose first statement starts with no name starts with none. -/
theorem statementWord?_append_of_none (hname : first.trimStart.identifier? = none) (column : Int) :
    statementWord? (first ++ ':' :: tail) column = none := by
  have hread : (first ++ ':' :: tail).trimStart.identifier? = none := by
    cases hfirst : first.trimStart with
    | nil =>
      have hblank : (first.dropWhile isBlank).isEmpty = true := List.isEmpty_iff.2 hfirst
      rw [Text.trimStart, List.dropWhile_append, if_pos hblank]
      rfl
    | cons c rest =>
      have hne : first.trimStart ≠ [] := by rw [hfirst]; exact List.cons_ne_nil _ _
      rw [hfirst] at hname
      rw [Text.trimStart_append hne, hfirst, List.cons_append, Text.identifier?]
      rw [Text.identifier?] at hname
      split_ifs at hname ⊢ with hstart
      rfl
  rw [statementWord?, hread]
  rfl

namespace CallsBare

variable {earlier : List Text} {statement : Text}

/-- The text in front of the caret is that of the statements with colons between them. -/
theorem take_eq (h : CallsBare line column earlier statement name) :
    line.take (min column line.length) = Text.joinWith [':'] (earlier ++ [statement]) := by
  have hupto : line.upTo (column : Int) = line.take (min column line.length) := rfl
  rw [← hupto, ← h.split, splitTopLevel, joinWith_splitFrom]

/-- The function that is called is the one that the first statement of the line starts with. -/
theorem calledName?_eq (h : CallsBare line column earlier statement name) :
    calledName? line (min (column : Int) line.length) =
      (earlier ++ [statement]).head?.bind statementName? := by
  have hclosed := h.closed
  rw [← Text.upTo_min_length] at hclosed
  have hcolumn : min (column : Int) line.length = ((min column line.length : Nat) : Int) := by
    omega
  have hline : line = Text.joinWith [':'] (earlier ++ [statement]) ++
      line.drop (min column line.length) := by
    rw [← h.take_eq, List.take_append_drop]
  have hlength : (Text.joinWith [':'] (earlier ++ [statement])).length =
      min column line.length := by
    rw [← h.take_eq, List.length_take, Nat.min_assoc, Nat.min_self]
  rw [calledName?, hclosed]
  dsimp only
  rw [hcolumn]
  generalize line.drop (min column line.length) = after at hline
  generalize min column line.length = caret at hlength
  cases earlier with
  | nil =>
    -- the statement is the first one, and its name ends at the blank
    obtain ⟨b, arguments, hblank, hb⟩ := h.blank
    rw [List.nil_append, Text.joinWith_singleton] at hline hlength
    rw [hline]
    refine statementWord?_append (Option.filter_eq_some_iff.1 h.name_eq).1 hblank ?_
      (Nat.le_of_eq hlength)
    rw [List.cons_append, Text.startsWord_cons, isWordChar_of_isBlank hb]
  | cons first earlier =>
    obtain ⟨next, more, hnext⟩ : ∃ next more, earlier ++ [statement] = next :: more :=
      List.exists_cons_of_ne_nil (by simp)
    rw [List.cons_append, hnext, Text.joinWith_cons_cons, List.singleton_append] at hline hlength
    rw [List.append_assoc, List.cons_append] at hline
    rw [hline]
    -- the name of the first statement ends at the colon at the latest
    cases hname : first.trimStart.identifier? with
    | none =>
      rw [statementWord?_append_of_none hname]
      simp [statementName?, hname]
    | some word =>
      obtain ⟨rest, hrest, -, hend⟩ := Text.identifier?_eq_some hname
      refine statementWord?_append hname hrest ?_ ?_
      · exact Text.startsWord_append_eq_false hend ((Text.startsWord_cons ':' _).trans (by decide))
      · rw [← hlength, List.length_append]
        exact Nat.le_add_right _ _

end CallsBare

end Signature

variable {symbols : List Symbol} {stubs : StubTable} {lines : List Text}
  {line statement name : Text} {earlier : List Text} {number column : Nat}
  {context : Option HelpContext}

/-- In a call without parentheses, signature help takes the name from the first statement of the
line and counts the commas of all statements. -/
theorem signatureHelp?_of_callsBare (symbols : List Symbol) (stubs : StubTable)
    (hline : lines[number]? = some line) (hcontext : Signature.kept? context = none)
    (hcalls : Signature.CallsBare line column earlier statement name) :
    signatureHelp? symbols stubs lines ⟨number, column⟩ context =
      .ok (((((earlier ++ [statement]).head?.bind Signature.statementName?).map
        (Signature.collect symbols stubs)).filter fun signatures => !signatures.isEmpty).map
          fun signatures => {
            signatures
            activeSignature := 0
            activeParameter :=
              ((earlier.map (countTopLevel ',')).sum + countTopLevel ',' statement : Nat)
            start := ⟨number, min (column : Int) line.length⟩ }) := by
  have hcaret : (⟨number, column⟩ : Position).lineOf? lines = some line := hline
  have hactive : Signature.activeParameter (line.upTo column) =
      (earlier.map (countTopLevel ',')).sum + countTopLevel ',' statement := by
    rw [Signature.activeParameter, hcalls.closed]
    dsimp only
    rw [countTopLevel_eq_sum (by decide : ',' ≠ ':'), hcalls.split, List.map_append,
      List.sum_append, List.map_singleton, List.sum_singleton]
  rw [signatureHelp?_of_fresh symbols stubs hcaret hcontext]
  refine congrArg Except.ok ?_
  rw [Signature.openedHelp, Signature.callSignatures]
  dsimp only
  rw [hcalls.calledName?_eq, hactive, hcalls.isCode]
  rcases ((earlier ++ [statement]).head?.bind Signature.statementName?).map
    (Signature.collect symbols stubs) with - | - | ⟨signature, signatures⟩
  · rfl
  · rfl
  · exact if_pos ⟨rfl, List.cons_ne_nil _ _⟩

/-- A call without parentheses gets help of its own exactly if the first statement of the line
starts with the name of the same functions and earlier statements have no commas. -/
theorem signatureHelp?_eq_bareHelp_iff (hline : lines[number]? = some line)
    (hcontext : Signature.kept? context = none)
    (hcalls : Signature.CallsBare line column earlier statement name)
    (hknown : Signature.collect symbols stubs name ≠ []) :
    signatureHelp? symbols stubs lines ⟨number, column⟩ context =
        .ok (some (Signature.bareHelp symbols stubs statement name
          ⟨number, min (column : Int) line.length⟩)) ↔
      ((earlier ++ [statement]).head?.bind Signature.statementName?).map
          (Signature.collect symbols stubs) = some (Signature.collect symbols stubs name) ∧
        ∀ piece ∈ earlier, countTopLevel ',' piece = 0 := by
  have hsum : (earlier.map (countTopLevel ',')).sum = 0 ↔
      ∀ piece ∈ earlier, countTopLevel ',' piece = 0 := by
    rw [List.sum_eq_zero_iff_forall_eq_nat, List.forall_mem_map]
  rw [signatureHelp?_of_callsBare symbols stubs hline hcontext hcalls, Except.ok.injEq,
    Option.map_eq_some_iff, ← hsum]
  constructor
  · rintro ⟨signatures, hsignatures, heq⟩
    -- what is counted beyond the commas of the statement are those of the earlier ones
    obtain ⟨rfl, -, hactive, -⟩ := SignatureHelp.mk.inj heq
    exact ⟨(Option.filter_eq_some_iff.1 hsignatures).1, by omega⟩
  · rintro ⟨hsignatures, hzero⟩
    refine ⟨_, Option.filter_eq_some_iff.2 ⟨hsignatures, by simpa using hknown⟩, ?_⟩
    rw [hzero, Nat.zero_add]
    rfl

/-- In a call without parentheses, signature help shows the signatures of the called function and
counts the commas of the statement exactly if the first statement of the line starts with the name
of the same functions and earlier statements have no commas outside brackets and strings; it does so
if the statement is the first one. -/
theorem signatureHelp?_callsBare_iff (hline : lines[number]? = some line)
    (hcontext : Signature.kept? context = none)
    (hcalls : Signature.CallsBare line column earlier statement name)
    (hknown : Signature.collect symbols stubs name ≠ []) :
    (signatureHelp? symbols stubs lines ⟨number, column⟩ context =
        .ok (some (Signature.bareHelp symbols stubs statement name
          ⟨number, min (column : Int) line.length⟩)) ↔
      ((earlier ++ [statement]).head?.bind Signature.statementName?).map
          (Signature.collect symbols stubs) = some (Signature.collect symbols stubs name) ∧
        ∀ piece ∈ earlier, countTopLevel ',' piece = 0) ∧
    (earlier = [] → signatureHelp? symbols stubs lines ⟨number, column⟩ context =
      .ok (some (Signature.bareHelp symbols stubs statement name
        ⟨number, min (column : Int) line.length⟩))) := by
  have hiff := signatureHelp?_eq_bareHelp_iff hline hcontext hcalls hknown
  refine ⟨hiff, ?_⟩
  rintro rfl
  apply hiff.2
  rw [List.nil_append, List.head?_cons, Option.bind_some, hcalls.name_eq, Option.map_some]
  exact ⟨rfl, fun _ => nofun⟩

/-- The second of two calls of the same function gets help of its own if there are no commas in the
first one. -/
theorem signatureHelp?_callsBare_second :
    let symbols : List Symbol := []
    let stubs : StubTable := ⟨[⟨"Plot", "Function Plot(x, y)", [], [], [], none⟩]⟩
    let lines : List Text := ["Plot 1 : plot f(1, 2), "]
    let statement : Text := " plot f(1, 2), "
    Signature.CallsBare "Plot 1 : plot f(1, 2), " 23 ["Plot 1 ".toList] statement "plot" ∧
      Signature.collect symbols stubs "plot" ≠ [] ∧
      signatureHelp? symbols stubs lines ⟨0, 23⟩ none =
        .ok (some (Signature.bareHelp symbols stubs statement "plot" ⟨0, 23⟩)) ∧
      countTopLevel ',' statement = 1 := by
  intro symbols stubs lines statement
  have hcalls : Signature.CallsBare "Plot 1 : plot f(1, 2), " 23 ["Plot 1 ".toList] statement
      "plot" := by
    refine ⟨by decide +kernel, by decide +kernel, by decide +kernel, by decide +kernel, ?_⟩
    exact ⟨' ', "f(1, 2), ".toList, by decide +kernel, by decide⟩
  have hknown : Signature.collect symbols stubs "plot" ≠ [] := by decide +kernel
  have hline : lines[0]? = some "Plot 1 : plot f(1, 2), ".toList := rfl
  exact ⟨hcalls, hknown, (signatureHelp?_callsBare_iff hline rfl hcalls hknown).1.2
    ⟨by decide +kernel, by decide +kernel⟩, by decide +kernel⟩

/-- Behind an assignment on the same line, a call without parentheses gets no help. -/
theorem signatureHelp?_callsBare_behind_assignment :
    let disk := Disk.ofFile "lib.bb" [] 1
    let rules : IncludeRules := ⟨[], true, 2⟩
    let text : Text := "Function Move(x, y)\nEnd Function\nx = 1 : Move 2, "
    ∃ found, (extract disk rules "main.bb" text).1 = .ok found ∧
      Signature.CallsBare "x = 1 : Move 2, " 16 ["x = 1 ".toList] " Move 2, " "Move" ∧
      Signature.collect found ⟨[]⟩ "Move" ≠ [] ∧
      signatureHelp? found ⟨[]⟩ text.lines ⟨2, 16⟩ none = .ok none := by
  intro disk rules text
  have hok : (extract disk rules "main.bb" text).1.isOk = true := by decide +kernel
  have hanswers : ∀ found ∈ (extract disk rules "main.bb" text).1.toOption,
      Signature.collect found ⟨[]⟩ "Move" ≠ [] ∧
        signatureHelp? found ⟨[]⟩ text.lines ⟨2, 16⟩ none = .ok none := by
    decide +kernel
  have hcalls : Signature.CallsBare "x = 1 : Move 2, " 16 ["x = 1 ".toList] " Move 2, " "Move" := by
    refine ⟨by decide +kernel, by decide +kernel, by decide +kernel, by decide +kernel, ?_⟩
    exact ⟨' ', "2, ".toList, by decide +kernel, by decide⟩
  obtain ⟨found, hfound⟩ := exists_eq_ok_of_isOk hok
  rw [hfound] at hanswers
  obtain ⟨hknown, hnone⟩ := hanswers found rfl
  exact ⟨found, hfound, hcalls, hknown, hnone⟩

end BlitzLens
