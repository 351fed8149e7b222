import BlitzLens.Proofs.Extraction.Likeness
import BlitzLens.Proofs.Line.Parenthesis
import BlitzLens.Proofs.Scope.Member
import BlitzLens.Query.Signature

/-!
# Sessions of signature help

A session is opened for the call at the caret (`signatureHelp?_of_fresh`), and while it is open only
its active parameter follows the caret (`signatureHelp?_of_kept`). The session does not notice that
the caret enters another call on the way. So what it shows is what a new session would show exactly
if the new one is about the same functions, as it is when the same parenthesis is open last at both
places (`signatureHelp?_again`).

## Main definitions

* `Signature.calledName?`, `Signature.callSignatures`: the call at a caret.
* `SignatureHelp.Matches`: a kept session that is like a new one.

## Main results

* `signatureHelp?_of_fresh`, `signatureHelp?_of_kept`: the answers without and with a session.
* `signatureHelp?_again`: how a session that is kept relates to a new one.
-/

namespace BlitzLens

open Line

/-- A session that is kept is the one that would be opened instead, but for its start. -/
def SignatureHelp.Matches (kept : SignatureHelp) (fresh : Option SignatureHelp) : Prop :=
  ∃ help, fresh = some help ∧ kept = { help with start := kept.start }

namespace Signature

variable {symbols : List Symbol} {stubs : StubTable} {line : Text} {column : Int} {opening : Nat}

/-- The name of the function that is called at a caret. -/
def calledName? (line : Text) (column : Int) : Option Text :=
  match lastOpenParen? (line.upTo column) with
  | some opening => ((wordBefore? line opening).toOption.join).map Word.text
  | none => (statementWord? line column).map Word.text

/-- The signatures of the function that is called at a caret. -/
def callSignatures (symbols : List Symbol) (stubs : StubTable) (line : Text) (column : Int) :
    List Signature :=
  ((calledName? line column).map (collect symbols stubs)).getD []

/-- The session that is opened for the call at a position. -/
def openedHelp (symbols : List Symbol) (stubs : StubTable) (line : Text) (position : Position) :
    SignatureHelp where
  signatures := callSignatures symbols stubs line (min position.character line.length)
  activeSignature := 0
  activeParameter := activeParameter (line.upTo position.character)
  start := ⟨position.line, min position.character line.length⟩

/-- A parenthesis that is open left of a caret stands on the line. -/
theorem lt_length_of_lastOpenParen? (h : lastOpenParen? (line.upTo column) = some opening) :
    opening < line.length := by
  have hopen : IsOpenParen (line.upTo column) opening := (lastOpenParen?_eq_some_iff.1 h).1
  obtain ⟨hlt, -⟩ := List.getElem?_eq_some_iff.1 hopen.char_eq
  rw [Text.upTo, List.length_take] at hlt
  omega

/-- The word of a call has the name that is called. -/
theorem exists_calledWord?_eq_ok (line : Text) (column : Int) :
    ∃ word, calledWord? line (line.upTo column) column = .ok word ∧
      word.map Word.text = calledName? line column := by
  rw [calledWord?, calledName?]
  cases hopening : lastOpenParen? (line.upTo column) with
  | none => exact ⟨_, rfl, rfl⟩
  | some opening =>
    obtain ⟨word, hword, -⟩ :=
      exists_wordBefore? (Nat.le_of_lt (lt_length_of_lastOpenParen? hopening))
    exact ⟨word, hword, by dsimp only; rw [hword]; rfl⟩

end Signature

open Signature

variable {symbols : List Symbol} {stubs : StubTable} {lines : List Text} {line : Text}
  {position : Position} {context : Option HelpContext}

/-- A column behind the end of a line counts as the end. -/
theorem Text.upTo_min_length (text : Text) (column : Int) :
    text.upTo (min column text.length) = text.upTo column := by
  rcases Int.le_total column text.length with h | h
  · rw [Int.min_eq_left h]
  · obtain ⟨n, rfl⟩ := Int.eq_ofNat_of_zero_le (Int.le_trans (Int.natCast_nonneg _) h)
    rw [Int.min_eq_right h, upTo_natCast (Nat.le_refl _), upTo, List.take_length]
    exact (List.take_of_length_le (Nat.le_of_eq (Nat.min_eq_right (Int.ofNat_le.1 h)).symm)).symm

/-- Without an open session, a session is opened for the call at the caret, if the caret is in the
code and functions of the name are known. -/
theorem signatureHelp?_of_fresh (symbols : List Symbol) (stubs : StubTable)
    (hline : position.lineOf? lines = some line) (hcontext : kept? context = none) :
    signatureHelp? symbols stubs lines position context =
      .ok (if isCode line (min position.character line.length) = true ∧
          callSignatures symbols stubs line (min position.character line.length) ≠ [] then
        some (openedHelp symbols stubs line position) else none) := by
  obtain ⟨word, hword, hname⟩ :=
    exists_calledWord?_eq_ok line (min position.character line.length)
  rw [signatureHelp?, hline]
  dsimp only
  rw [hcontext, hword, openedHelp, callSignatures, ← hname, Text.upTo_min_length]
  cases isCode line (min position.character line.length) with
  | false => rfl
  | true =>
    cases word with
    | none => rfl
    | some word =>
      dsimp only [Option.map_some, Option.getD_some]
      change (if (collect symbols stubs word.text).isEmpty = true then _ else _) = _
      by_cases hnone : collect symbols stubs word.text = []
      · rw [if_pos (List.isEmpty_iff.2 hnone), if_neg fun h => h.2 hnone]
        rfl
      · rw [if_neg (by simpa using hnone), if_pos ⟨rfl, hnone⟩]
        rfl

/-- An open session is kept in the code, unless the caret leaves its call. -/
theorem signatureHelp?_of_kept (symbols : List Symbol) (stubs : StubTable)
    (hline : position.lineOf? lines = some line) {help : SignatureHelp}
    (hcontext : kept? context = some help) :
    signatureHelp? symbols stubs lines position context =
      .ok (if isCode line (min position.character line.length) = true then
        keep? help line position else none) := by
  rw [signatureHelp?, hline]
  dsimp only
  rw [hcontext]
  cases isCode line (min position.character line.length) <;> rfl

/-- The first word of a line is still called from further to the right. -/
theorem Signature.statementWord?_of_le {column column' : Int} {word : Word} (hle : column ≤ column')
    (h : statementWord? line column = some word) : statementWord? line column' = some word := by
  obtain ⟨name, hname, h⟩ := Option.bind_eq_some_iff.1 h
  dsimp only at h
  split_ifs at h with hguard
  rw [Bool.or_eq_true, not_or, decide_eq_true_eq] at hguard
  rw [statementWord?, hname]
  refine (if_neg ?_).trans h
  rw [Bool.or_eq_true, not_or, decide_eq_true_eq]
  exact ⟨by omega, hguard.2⟩

/-- While the same parenthesis is open last, or still none, the same function is called. -/
theorem Signature.calledName?_of_le {column column' : Int} {name : Text} (hle : column ≤ column')
    (hopening : lastOpenParen? (line.upTo column') = lastOpenParen? (line.upTo column))
    (h : calledName? line column = some name) : calledName? line column' = some name := by
  rw [calledName?] at h ⊢
  rw [hopening]
  cases hlast : lastOpenParen? (line.upTo column) with
  | some opening => rwa [hlast] at h
  | none =>
    rw [hlast] at h
    obtain ⟨word, hword, rfl⟩ := Option.map_eq_some_iff.1 h
    dsimp only
    rw [statementWord?_of_le hle hword]
    rfl

/-- Behind its start, a session is kept on its line unless the caret is behind a closing
parenthesis. -/
theorem Signature.keep?_of_le {help : SignatureHelp} {column : Int}
    (h : help.start.character ≤ column) (line : Text) : keep? help line ⟨help.start.line, column⟩ =
      if (line.upTo column).getLast? = some ')' then none
      else some { help with activeParameter := activeParameter (line.upTo column) } := by
  have hguard : ¬(help.start.line != help.start.line ||
      decide (column < help.start.character)) = true := by
    simpa using h
  rw [keep?]
  dsimp only
  rw [if_neg hguard]
  simp only [beq_iff_eq]

/-- While the same parenthesis is open last, or still none, a new session has the signatures that
one had further to the left. -/
theorem Signature.callSignatures_of_le {column column' : Int} (hle : column ≤ column')
    (hopening : lastOpenParen? (line.upTo column') = lastOpenParen? (line.upTo column))
    (h : callSignatures symbols stubs line column ≠ []) :
    callSignatures symbols stubs line column' = callSignatures symbols stubs line column := by
  rw [callSignatures] at h ⊢
  rw [callSignatures]
  cases hname : calledName? line column with
  | none =>
    rw [hname] at h
    exact absurd rfl h
  | some name => rw [calledName?_of_le hle hopening hname]

/-- The answer while a session is open that was opened further to the left. -/
theorem signatureHelp?_of_opened (symbols : List Symbol) (stubs : StubTable) {number : Nat}
    (hline : lines[number]? = some line) {column column' : Int} (hle : column ≤ column')
    (typed : Option Text) :
    signatureHelp? symbols stubs lines ⟨number, column'⟩
        (some ⟨.again, typed, some (openedHelp symbols stubs line ⟨number, column⟩)⟩) =
      .ok (if isCode line (min column' line.length) = true ∧
          (line.upTo column').getLast? ≠ some ')' then
        some { openedHelp symbols stubs line ⟨number, column⟩ with
          activeParameter := activeParameter (line.upTo column') }
      else none) := by
  have hcaret : (⟨number, column'⟩ : Position).lineOf? lines = some line := hline
  have hstart : (openedHelp symbols stubs line ⟨number, column⟩).start.character ≤ column' :=
    Int.le_trans (Int.min_le_left _ _) hle
  rw [signatureHelp?_of_kept symbols stubs hcaret rfl]
  refine congrArg Except.ok ?_
  change (if _ then keep? _ line ⟨(openedHelp symbols stubs line ⟨number, column⟩).start.line,
    column'⟩ else none) = _
  rw [keep?_of_le hstart]
  by_cases hcode : isCode line (min column' line.length) = true
  · by_cases hlast : (line.upTo column').getLast? = some ')'
    · rw [if_pos hcode, if_pos hlast, if_neg fun h => h.2 hlast]
    · rw [if_pos hcode, if_neg hlast, if_pos ⟨hcode, hlast⟩]
  · rw [if_neg hcode, if_neg fun h => hcode h.1]

/-- A new session about the same functions differs from the kept one in its start only. -/
theorem Signature.openedHelp_matches {number : Nat} {column column' : Int}
    (h : callSignatures symbols stubs line (min column' line.length) =
      callSignatures symbols stubs line (min column line.length)) :
    { openedHelp symbols stubs line ⟨number, column⟩ with
      activeParameter := activeParameter (line.upTo column') : SignatureHelp }.Matches
      (some (openedHelp symbols stubs line ⟨number, column'⟩)) := by
  refine ⟨_, rfl, ?_⟩
  rw [openedHelp, openedHelp, h]

/-- A session that is kept has its active parameter moved to the caret, and nothing else. It is what
a new session would be, but for its start, exactly if the new one is about the same functions, and
so it is while the same parenthesis is open last, or still none. -/
theorem signatureHelp?_again {number : Nat} (hline : lines[number]? = some line)
    (hcontext : kept? context = none) {column column' : Int} (hle : column ≤ column')
    {session : SignatureHelp}
    (h : signatureHelp? symbols stubs lines ⟨number, column⟩ context = .ok (some session))
    (typed : Option Text) :
    signatureHelp? symbols stubs lines ⟨number, column'⟩ (some ⟨.again, typed, some session⟩) =
      .ok (if isCode line (min column' line.length) = true ∧
          (line.upTo column').getLast? ≠ some ')' then
        some { session with activeParameter := activeParameter (line.upTo column') }
      else none) ∧
    ∃ fresh, signatureHelp? symbols stubs lines ⟨number, column'⟩ context = .ok fresh ∧
      ∀ kept, signatureHelp? symbols stubs lines ⟨number, column'⟩
          (some ⟨.again, typed, some session⟩) = .ok (some kept) →
        kept.start = session.start ∧
        (kept.Matches fresh ↔
          fresh.map SignatureHelp.signatures = some session.signatures) ∧
        (lastOpenParen? (line.upTo column') = lastOpenParen? (line.upTo column) →
          kept.Matches fresh) := by
  have hcaret : (⟨number, column⟩ : Position).lineOf? lines = some line := hline
  have hcaret' : (⟨number, column'⟩ : Position).lineOf? lines = some line := hline
  rw [signatureHelp?_of_fresh symbols stubs hcaret hcontext, Except.ok.injEq,
    Option.ite_none_right_eq_some] at h
  obtain ⟨⟨-, hsignatures⟩, heq⟩ := h
  obtain rfl := Option.some.inj heq
  have hagain := signatureHelp?_of_opened symbols stubs hline hle typed
  refine ⟨hagain, _, signatureHelp?_of_fresh symbols stubs hcaret' hcontext, ?_⟩
  intro kept hkept
  rw [hagain, Except.ok.injEq, Option.ite_none_right_eq_some] at hkept
  obtain ⟨⟨hcode, -⟩, heq⟩ := hkept
  obtain rfl := Option.some.inj heq
  refine ⟨rfl, ⟨?_, ?_⟩, ?_⟩
  · rintro ⟨help, hhelp, hkept⟩
    rw [hhelp]
    exact congrArg some (congrArg SignatureHelp.signatures hkept).symm
  · intro hsame
    obtain ⟨help, hhelp, hsame⟩ := Option.map_eq_some_iff.1 hsame
    rw [hhelp]
    rw [Option.ite_none_right_eq_some] at hhelp
    obtain rfl := Option.some.inj hhelp.2
    exact openedHelp_matches hsame
  · intro hopening
    -- the caret is further to the right, and so is its column if it is behind the end of the line
    have hsame : callSignatures symbols stubs line (min column' line.length) =
        callSignatures symbols stubs line (min column line.length) := by
      refine callSignatures_of_le (by omega) ?_ hsignatures
      rw [Text.upTo_min_length, Text.upTo_min_length]
      exact hopening
    rw [if_pos ⟨hcode, hsame ▸ hsignatures⟩]
    exact openedHelp_matches hsame

/-- Behind a call that is closed again, the session of the outer call is what a new one would
be. -/
theorem signatureHelp?_again_after_call :
    let disk := Disk.ofFile "lib.bb" [] 1
    let rules : IncludeRules := ⟨[], true, 2⟩
    let text : Text := "Function Move(x, y)\nEnd Function\nMove(Turn(1, 2), "
    let session : SignatureHelp :=
      ⟨[⟨"Move(x, y)", none, [⟨(5, 6), none⟩, ⟨(8, 9), none⟩]⟩], 0, 0, ⟨2, 5⟩⟩
    let again : HelpContext := ⟨.again, some [','], some session⟩
    ∃ found, (extract disk rules "main.bb" text).1 = .ok found ∧
      text.lines[2]? = some "Move(Turn(1, 2), ".toList ∧ kept? none = none ∧ (5 : Int) ≤ 17 ∧
      signatureHelp? found ⟨[]⟩ text.lines ⟨2, 5⟩ none = .ok (some session) ∧
      signatureHelp? found ⟨[]⟩ text.lines ⟨2, 17⟩ (some again) =
        .ok (some { session with activeParameter := 1 }) ∧
      ∃ fresh, signatureHelp? found ⟨[]⟩ text.lines ⟨2, 17⟩ none = .ok fresh ∧
        SignatureHelp.Matches { session with activeParameter := 1 } fresh := by
  intro disk rules text session again
  have hok : (extract disk rules "main.bb" text).1.isOk = true := by decide +kernel
  have hsession : ∀ found ∈ (extract disk rules "main.bb" text).1.toOption,
      signatureHelp? found ⟨[]⟩ text.lines ⟨2, 5⟩ none = .ok (some session) := by
    decide +kernel
  obtain ⟨found, hfound⟩ := exists_eq_ok_of_isOk hok
  rw [hfound] at hsession
  have hline : text.lines[2]? = some "Move(Turn(1, 2), ".toList := by decide +kernel
  obtain ⟨hagain, fresh, hfresh, hkept⟩ :=
    signatureHelp?_again hline rfl (by decide : (5 : Int) ≤ 17) (hsession found rfl) (some [','])
  have hactive := hagain.trans (congrArg (fun help => Except.ok help) (by decide +kernel :
    _ = some { session with activeParameter := 1 }))
  exact ⟨found, hfound, hline, rfl, by decide, hsession found rfl, hactive, fresh, hfresh,
    (hkept _ hactive).2.2 (by decide +kernel)⟩

/-- In a call that is an argument of another one, the session of the outer call is kept, while a new
session is about the inner call. -/
theorem signatureHelp?_again_nested :
    let disk := Disk.ofFile "lib.bb" [] 1
    let rules : IncludeRules := ⟨[], true, 2⟩
    let text : Text := "Function Move(x, y)\nEnd Function\nFunction Turn(a)\nEnd Function" ++
      "\nMove(Turn("
    let session : SignatureHelp :=
      ⟨[⟨"Move(x, y)", none, [⟨(5, 6), none⟩, ⟨(8, 9), none⟩]⟩], 0, 0, ⟨4, 5⟩⟩
    let fresh : SignatureHelp := ⟨[⟨"Turn(a)", none, [⟨(5, 6), none⟩]⟩], 0, 0, ⟨4, 10⟩⟩
    let again : HelpContext := ⟨.again, none, some session⟩
    ∃ found, (extract disk rules "main.bb" text).1 = .ok found ∧
      signatureHelp? found ⟨[]⟩ text.lines ⟨4, 5⟩ none = .ok (some session) ∧
      signatureHelp? found ⟨[]⟩ text.lines ⟨4, 10⟩ (some again) = .ok (some session) ∧
      signatureHelp? found ⟨[]⟩ text.lines ⟨4, 10⟩ none = .ok (some fresh) ∧
      ¬session.Matches (some fresh) := by
  intro disk rules text session fresh again
  have hok : (extract disk rules "main.bb" text).1.isOk = true := by decide +kernel
  have hanswers : ∀ found ∈ (extract disk rules "main.bb" text).1.toOption,
      signatureHelp? found ⟨[]⟩ text.lines ⟨4, 5⟩ none = .ok (some session) ∧
      signatureHelp? found ⟨[]⟩ text.lines ⟨4, 10⟩ (some again) = .ok (some session) ∧
      signatureHelp? found ⟨[]⟩ text.lines ⟨4, 10⟩ none = .ok (some fresh) := by
    decide +kernel
  obtain ⟨found, hfound⟩ := exists_eq_ok_of_isOk hok
  rw [hfound] at hanswers
  obtain ⟨hsession, hagain, hfresh⟩ := hanswers found rfl
  refine ⟨found, hfound, hsession, hagain, hfresh, ?_⟩
  rintro ⟨help, ⟨⟩, heq⟩
  exact absurd (congrArg SignatureHelp.signatures heq) (by decide +kernel)

end BlitzLens
