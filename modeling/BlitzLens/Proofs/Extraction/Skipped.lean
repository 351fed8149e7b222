import BlitzLens.Proofs.Extraction.Comments
import BlitzLens.Proofs.Extraction.Inclusion
import BlitzLens.Proofs.Extraction.Run

/-!
# Includes that are skipped

An include is skipped when the guard finds its file in the chain, when the limit is reached, or when
its file cannot be read (`Visit.included?_eq_none_iff`). Then its line says nothing: whatever is
open at that place stays open, and the pass goes on as if there were as many spaces
(`Visit.outcome_blankLine`). The spaces matter, for the end columns of scopes are told by the
lengths of lines; but of the lines of a file, a draft uses nothing else (`Draft.step_congr`).

## Main definitions

* `Text.blankLine`: a text with spaces for the characters of a line.
* `Visit.Skips`: the reasons for which an include is skipped.
* `Source.SameShape`: files with lines of the same lengths.

## Main results

* `extract_blankLine`: a document yields the same symbols without an include that is skipped.
-/

namespace BlitzLens

/-! ## Texts with a blank line -/

namespace Text

/-- As many spaces as a text has characters. -/
def spaces (text : Text) : Text :=
  List.replicate text.length ' '

/-- A text with a space for each character of a line, where `returned` tells whether the text
follows a carriage return. -/
def blankAfter (returned : Bool) (number : Nat) : Text → Text
  | [] => []
  | c :: rest =>
    if c == '\n' && returned then c :: blankAfter false number rest
    else if c == '\n' || c == '\r' then
      c :: if number = 0 then rest else blankAfter (c == '\r') (number - 1) rest
    else (if number = 0 then ' ' else c) :: blankAfter false number rest

/-- A text with a space for each character of a line. The ends of lines are kept. -/
def blankLine (text : Text) (number : Nat) : Text :=
  blankAfter false number text

/-- Only the line itself becomes blank, wherever a text starts. -/
theorem linesAfter_blankAfter (returned : Bool) (number : Nat) (text : Text) :
    linesAfter returned (blankAfter returned number text) =
      (linesAfter returned text).modify number spaces := by
  induction text generalizing returned number with
  | nil => cases number <;> simp [blankAfter, linesAfter, spaces]
  | cons c rest ih =>
    rw [blankAfter]
    obtain ⟨line, lines, hlines⟩ := List.exists_cons_of_ne_nil (linesAfter_ne_nil false rest)
    split_ifs with hfeed hend hfirst hfirst
    · rw [linesAfter, linesAfter, if_pos hfeed, if_pos hfeed, ih]
    · rw [linesAfter, if_neg hfeed, if_pos hend, hfirst]
      rfl
    · obtain ⟨number, rfl⟩ := Nat.exists_eq_succ_of_ne_zero hfirst
      rw [linesAfter, linesAfter, if_neg hfeed, if_pos hend, if_neg hfeed, if_pos hend,
        Nat.succ_sub_one, ih]
      rfl
    · rw [linesAfter_cons hend, linesAfter_cons (by decide), ih, hlines, hfirst]
      rfl
    · obtain ⟨number, rfl⟩ := Nat.exists_eq_succ_of_ne_zero hfirst
      rw [linesAfter_cons hend, linesAfter_cons hend, ih, hlines]
      rfl

/-- Only the line itself becomes blank. -/
theorem lines_blankLine (text : Text) (number : Nat) :
    (text.blankLine number).lines = text.lines.modify number spaces :=
  linesAfter_blankAfter false number text

/-- A line of spaces says nothing. -/
theorem read_spaces (text : Text) : Statement.read text.spaces = .other := by
  have hblank : ∀ c ∈ text.spaces, isBlank c = true := by
    intro c hc
    rw [List.eq_of_mem_replicate hc]
    decide
  have hcode : (Line.code text.spaces).isBlankText = true :=
    List.all_eq_true.2 fun c hc => hblank c (List.mem_of_mem_take hc)
  have htrim : text.spaces.trimStart = [] := List.dropWhile_eq_nil_iff.2 hblank
  rw [Statement.read_of_blank_code hcode, Statement.readDocument?, htrim]
  rfl

end Text

/-! ## Files of one shape -/

/-- Two files have one path, and their lines have the same lengths. -/
structure Source.SameShape (source source' : Source) : Prop where
  /-- They have one path. -/
  path : source.path = source'.path
  /-- Their lines have the same lengths. -/
  lengths : source.lines.map List.length = source'.lines.map List.length

section Shape

variable {source source' : Source} (h : source.SameShape source')
include h

/-- Whole lines end at one column. -/
theorem Source.SameShape.block_eq : source.block = source'.block := by
  have hlength (source : Source) (last : Nat) : ((source.lines[last]?).getD []).length =
      ((source.lines.map List.length)[last]?).getD 0 := by
    rw [List.getElem?_map]
    cases source.lines[last]? <;> rfl
  funext first last
  rw [block, block, hlength, hlength, h.lengths]

/-- The files end on one line. -/
theorem Source.SameShape.lastLine_eq : source.lastLine = source'.lastLine := by
  have hlength := congrArg List.length h.lengths
  rw [List.length_map, List.length_map] at hlength
  rw [lastLine, lastLine, hlength]

/-- A part declares one variable in both files. -/
theorem Part.toVariable_congr (part : Part) : part.toVariable source = part.toVariable source' := by
  unfold Part.toVariable
  rw [h.path, h.block_eq]

/-- A loop has one iterator in both files. -/
theorem OpenIterator.close_congr (iterator : OpenIterator) :
    iterator.close source = iterator.close source' := by
  unfold OpenIterator.close
  rw [iterator.part.toVariable_congr h]

namespace FunctionDraft

/-- A loop of a function is closed alike in both files. -/
theorem closeLoop_congr (f : FunctionDraft) : f.closeLoop source = f.closeLoop source' := by
  unfold closeLoop
  simp only [OpenIterator.close_congr h]

/-- Loops of a function are closed alike in both files. -/
theorem closeLoops_congr (f : FunctionDraft) (last count : Nat) :
    f.closeLoops source last count = f.closeLoops source' last count := by
  induction count generalizing f with
  | zero => rfl
  | succ count ih => rw [closeLoops, closeLoops, f.closeLoop_congr h, ih]

/-- A function ends alike in both files. -/
theorem finish_congr (f : FunctionDraft) : f.finish source = f.finish source' := by
  funext last
  rw [finish, finish, f.closeLoops_congr h, h.path, h.block_eq]

end FunctionDraft

/-- A type ends alike in both files. -/
theorem TypeDraft.finish_congr (t : TypeDraft) : t.finish source = t.finish source' := by
  unfold finish
  rw [h.path, h.block_eq]

namespace Draft

variable (draft : Draft)

/-- A loop of the top level is closed alike in both files. -/
theorem closeTopLoop_congr : draft.closeTopLoop source = draft.closeTopLoop source' := by
  unfold closeTopLoop
  simp only [OpenIterator.close_congr h]

/-- Loops of the top level are closed alike in both files. -/
theorem closeTopLoops_congr (last count : Nat) :
    draft.closeTopLoops source last count = draft.closeTopLoops source' last count := by
  induction count generalizing draft with
  | zero => rfl
  | succ count ih => rw [closeTopLoops, closeTopLoops, draft.closeTopLoop_congr h, ih]

/-- The open function is closed alike in both files. -/
theorem closeFunction_congr : draft.closeFunction source = draft.closeFunction source' := by
  unfold closeFunction
  simp only [FunctionDraft.finish_congr h]

/-- The open type is closed alike in both files. -/
theorem closeType_congr : draft.closeType source = draft.closeType source' := by
  unfold closeType
  simp only [TypeDraft.finish_congr h]

/-- A line leads to one draft in both files. -/
theorem step_congr : draft.step source = draft.step source' := by
  funext number line statement
  cases statement <;> simp only [step, declare, closeLoop, FunctionDraft.closeLoop_congr h,
    closeTopLoop_congr h, assign, closeFunction_congr h, openFunctionAt, closeType_congr h,
    openTypeAt, declareFields, setLabel, Part.toVariable_congr h, h.path]

/-- A line leads to one draft in both files, if its include yields the same. -/
theorem afterLine_congr (fetch : Text → Except ExtractError (List Symbol)) :
    draft.afterLine source fetch = draft.afterLine source' fetch := by
  unfold afterLine
  rw [draft.step_congr h]

/-- What is still open is closed alike in both files. -/
theorem finish_congr : draft.finish source = draft.finish source' := by
  unfold finish
  simp only [closeFunction_congr h, closeType_congr h, closeTopLoops_congr h, h.lastLine_eq]

end Draft

end Shape

/-! ## Skipped includes -/

/-- Runs over two lists are one run if their elements at each place do the same. -/
theorem foldlM_zipIdx_congr {m : Type → Type} [Monad m] {α β σ : Type} {step : σ → α × Nat → m σ}
    {step' : σ → β × Nat → m σ} {list : List α} {list' : List β} {start : Nat}
    (hlength : list.length = list'.length)
    (hstep : ∀ index a b s, list[index]? = some a → list'[index]? = some b →
      step s (a, start + index) = step' s (b, start + index)) (s : σ) :
    (list.zipIdx start).foldlM step s = (list'.zipIdx start).foldlM step' s := by
  induction list generalizing list' start s with
  | nil =>
    cases List.length_eq_zero_iff.1 hlength.symm
    rfl
  | cons a list ih =>
    obtain ⟨b, list', rfl⟩ := List.exists_cons_of_length_eq_add_one hlength.symm
    rw [List.zipIdx_cons, List.zipIdx_cons, List.foldlM_cons, List.foldlM_cons,
      show step s (a, start) = step' s (b, start) from hstep 0 a b s rfl rfl]
    refine congrArg _ (funext fun next =>
      ih (Nat.succ.inj hlength) (fun index a b s ha hb => ?_) next)
    rw [Nat.add_assoc, Nat.add_comm 1]
    exact hstep (index + 1) a b s ha hb

/-- A line that says nothing leaves the draft as it is. -/
theorem Draft.afterLine_of_other {line : Text} (h : Statement.read line = .other) (draft : Draft)
    (source : Source) (fetch : Text → Except ExtractError (List Symbol)) (number : Nat) :
    draft.afterLine source fetch (line, number) = .ok draft := by
  rw [afterLine, h]
  rfl

namespace Visit

variable {disk : Disk} {rules : IncludeRules} {visit : Visit} {target line : Text} {number : Nat}

/-- The reasons for which an include of a visit is skipped. -/
inductive Skips (disk : Disk) (rules : IncludeRules) (visit : Visit) (target : Text) : Prop
  /-- The file is being included already, and the guard is on. -/
  | circle (guarded : rules.guarded = true)
    (mem : disk.identity (Extraction.includedPath rules visit.path target) ∈ visit.chain)
  /-- No more files may be nested. -/
  | limit (depth : visit.depth = 0)
  /-- The file cannot be read. -/
  | unreadable {error : FileError}
    (read : Extraction.readStamped disk (Extraction.includedPath rules visit.path target) =
      .error error)

/-- An include that leads to no visit is skipped for one of the reasons. -/
theorem included?_eq_none_iff :
    visit.included? disk rules target = none ↔ visit.Skips disk rules target := by
  unfold included?
  extract_lets included
  constructor
  · intro hnone
    split_ifs at hnone with hguard
    · rw [Bool.and_eq_true, List.contains_iff_mem] at hguard
      exact .circle hguard.1 hguard.2
    · split at hnone
      · next hdepth => exact .limit hdepth
      · cases hread : Extraction.readStamped disk included with
        | error error => exact .unreadable hread
        | ok found =>
          rw [hread] at hnone
          cases hnone
  · intro hskips
    split_ifs with hguard
    · rfl
    · cases hskips with
      | circle hguarded hmem => exact absurd (by simp [hguarded, included, hmem]) hguard
      | limit hdepth => rw [hdepth]
      | unreadable hread =>
        rw [hread]
        cases visit.depth <;> rfl

/-- An include that is skipped yields nothing. -/
theorem Skips.fetch_eq (h : visit.Skips disk rules target) :
    visit.fetch disk rules target = .ok [] := by
  rw [fetch, included?_eq_none_iff.2 h]

/-- An include that is skipped leaves the draft as it is. -/
theorem Skips.afterLine_eq (h : visit.Skips disk rules target)
    (hread : Statement.read line = .includeFile target) (draft : Draft) (source : Source) :
    draft.afterLine source (visit.fetch disk rules) (line, number) = .ok draft := by
  have htarget : (Statement.read line).target? = some target := by rw [hread]; rfl
  rw [Draft.afterLine, htarget]
  dsimp only
  rw [h.fetch_eq]
  exact congrArg (fun symbols => Except.ok { draft with symbols }) (List.append_nil _)

/-- The visit of the file with a blank line. -/
def blankLine (visit : Visit) (number : Nat) : Visit :=
  { visit with text := visit.text.blankLine number }

/-- The lines of the file with a blank line. -/
theorem lines_blankLine (visit : Visit) (number : Nat) :
    (visit.blankLine number).source.lines = visit.source.lines.modify number Text.spaces :=
  visit.text.lines_blankLine number

/-- The file with a blank line has lines of the same lengths. -/
theorem sameShape_blankLine (visit : Visit) (number : Nat) :
    (visit.blankLine number).source.SameShape visit.source where
  path := rfl
  lengths := by
    rw [lines_blankLine]
    refine List.ext_getElem? fun index => ?_
    rw [List.getElem?_map, List.getElem?_map, List.getElem?_modify]
    cases visit.source.lines[index]? with
    | none => rfl
    | some line =>
      have hlength : line.spaces.length = line.length := List.length_replicate
      by_cases h : number = index
      · simp [h, hlength]
      · simp [h]

/-- The line that is blank now leads to the same draft as the include that is skipped, and so does
every other line. -/
theorem afterLine_blankLine (hline : visit.source.lines[number]? = some line)
    (hread : Statement.read line = .includeFile target) (hskips : visit.Skips disk rules target)
    {index : Nat} {new old : Text} (draft : Draft)
    (hnew : (visit.blankLine number).source.lines[index]? = some new)
    (hold : visit.source.lines[index]? = some old) :
    draft.afterLine (visit.blankLine number).source (visit.fetch disk rules) (new, index) =
      draft.afterLine visit.source (visit.fetch disk rules) (old, index) := by
  rw [lines_blankLine, List.getElem?_modify, hold] at hnew
  have hnew : (if number = index then old.spaces else old) = new := Option.some.inj hnew
  by_cases hindex : number = index
  · subst hindex
    rw [if_pos rfl] at hnew
    rw [hold, Option.some.injEq] at hline
    rw [← hnew, hline, hskips.afterLine_eq hread, Draft.afterLine_of_other (Text.read_spaces line)]
  · rw [if_neg hindex] at hnew
    rw [hnew, Draft.afterLine_congr (visit.sameShape_blankLine number)]

/-- A visit yields the same without an include that is skipped. -/
theorem outcome_blankLine (hline : visit.source.lines[number]? = some line)
    (hread : Statement.read line = .includeFile target) (hskips : visit.Skips disk rules target) :
    (visit.blankLine number).outcome disk rules = visit.outcome disk rules := by
  -- what the includes of a file yield does not depend on its text
  have hfetch : (visit.blankLine number).fetch disk rules = visit.fetch disk rules := rfl
  have hlength : (visit.blankLine number).source.lines.length = visit.source.lines.length := by
    rw [lines_blankLine, List.length_modify]
  have hrun := foldlM_zipIdx_congr hlength (fun index new old draft hnew hold => by
    rw [Nat.zero_add]
    exact afterLine_blankLine hline hread hskips draft hnew hold) Draft.empty
  rw [outcome_eq, outcome_eq, Source.outcome, Source.outcome, hfetch, hrun]
  simp only [Draft.finish_congr (visit.sameShape_blankLine number)]

/-- A pass that comes to an include that is skipped splices nothing in. -/
theorem Skips.splice_yields (h : visit.Skips disk rules target) :
    Pass.Yields (Extraction.splice disk rules (Extraction.deeper disk rules visit.depth) visit.path
      visit.chain target) (.ok []) := by
  rw [← h.fetch_eq]
  refine Extraction.splice_yields visit (fun hdepth => by rw [hdepth]; rfl)
    (fun depth hdepth => ⟨Extraction.scan disk rules depth, by rw [hdepth]; rfl,
      fun path text chain => ?_⟩) target
  rw [outcome_eq]
  exact Extraction.scan_yields depth path text chain

/-- A pass goes on behind an include that is skipped as it was in front of it. -/
theorem Skips.scanLine_yields (h : visit.Skips disk rules target)
    (hread : Statement.read line = .includeFile target) (source : Source) (draft : Draft) :
    Pass.Yields (Extraction.scanLine source (Extraction.splice disk rules
      (Extraction.deeper disk rules visit.depth) visit.path visit.chain) draft (line, number))
      (.ok draft) := by
  have htarget : (Statement.read (line, number).1).target? = some target := by rw [hread]; rfl
  rw [Extraction.scanLine_of_target htarget]
  have hspliced := h.splice_yields.bind fun found =>
    Pass.Yields.pure { draft with symbols := draft.symbols ++ found }
  have hnothing : { draft with symbols := draft.symbols ++ [] } = draft := by
    rw [List.append_nil]
  exact fun trace => (hspliced trace).trans (congrArg Except.ok hnothing)

end Visit

/-- An include of a document that is skipped, be it for a circle, for the limit or because its file
cannot be read, changes nothing: the document yields the same symbols, or fails in the same way,
with as many spaces for its line, and whatever is open in front of the line is open behind it. -/
theorem extract_blankLine {disk : Disk} {rules : IncludeRules} {path text line target : Text}
    {number : Nat} (hline : text.lines[number]? = some line)
    (hread : Statement.read line = .includeFile target)
    (hskips : (Visit.document disk rules path text).Skips disk rules target) :
    (text.blankLine number).lines = text.lines.set number (List.replicate line.length ' ') ∧
      (extract disk rules path (text.blankLine number)).1 = (extract disk rules path text).1 ∧
      ∀ draft, Pass.Yields (Extraction.scanLine (.ofText path text)
        (Extraction.splice disk rules (Extraction.deeper disk rules rules.maxDepth.toNat) path
          [disk.identity path]) draft (line, number)) (.ok draft) := by
  refine ⟨?_, ?_, fun draft => hskips.scanLine_yields hread _ draft⟩
  · rw [Text.lines_blankLine, List.modify_eq_set_getElem?, hline]
    rfl
  · exact Visit.outcome_blankLine hline hread hskips

/-- The missing file is included inside a loop, in the body of a function, while documentation
waits for the next function. -/
theorem extract_blankLine_missing :
    let disk := Disk.ofFile "main.bb" [] 1
    let rules : IncludeRules := ⟨[], true, 32⟩
    let text : Text :=
      "Function f(a)\r\nFor i = 1 To 2\n;; Later.\rInclude \"lib.bb\" ; lost\nNext\nFunction g()"
    let blank : Text :=
      "Function f(a)\r\nFor i = 1 To 2\n;; Later.\r                       \nNext\nFunction g()"
    text.lines[3]? = some "Include \"lib.bb\" ; lost".toList ∧
      Statement.read "Include \"lib.bb\" ; lost" = .includeFile "lib.bb" ∧
      (Visit.document disk rules "main.bb" text).Skips disk rules "lib.bb" ∧
      (extract disk rules "main.bb" blank).1 = (extract disk rules "main.bb" text).1 := by
  intro disk rules text blank
  have hline : text.lines[3]? = some "Include \"lib.bb\" ; lost".toList := by decide +kernel
  have hread : Statement.read "Include \"lib.bb\" ; lost" = .includeFile "lib.bb" := by
    decide +kernel
  have hmissing : Extraction.readStamped disk (Extraction.includedPath rules "main.bb" "lib.bb") =
      .error ⟨.notFound, "lib.bb"⟩ := by decide +kernel
  have hskips : (Visit.document disk rules "main.bb" text).Skips disk rules "lib.bb" :=
    .unreadable hmissing
  have hblank : text.blankLine 3 = blank := by decide +kernel
  exact ⟨hline, hread, hskips, hblank ▸ (extract_blankLine hline hread hskips).2.1⟩

end BlitzLens
