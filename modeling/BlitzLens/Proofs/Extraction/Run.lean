import BlitzLens.Proofs.Extraction.Invariant
import BlitzLens.Proofs.Extraction.Visit
import BlitzLens.Proofs.Text.Lines

/-!
# The invariant along a file

Every statement that a line can make keeps a draft sound, because its names stand where it says
(`Statement.wellPlaced_read`). So a draft is sound behind every line, and what a visit yields is
what its file owns (`Source.Owns`) together with what its includes yield, in some order
(`Visit.exists_owns`).
-/

namespace BlitzLens

namespace Draft.Sound

variable {source : Source} {line column : Nat} {text name : Text} {own spliced : List Symbol}
  {draft : Draft}

/-! ## The statements of a line -/

/-- A declaration keeps a draft sound. -/
theorem declare (h : draft.Sound source line own spliced) (hline : source.lines[line]? = some text)
    {list : Text} (hlist : Line.CodeAt text column list) (declarator : Declarator) :
    ∃ added, (draft.declare source line text declarator list column).Sound source (line + 1)
      (own ++ added) spliced := by
  unfold Draft.declare
  extract_lets build parts known declared
  split
  · next f hf =>
    obtain ⟨added, hadded, heq⟩ := exists_addParts_declaredOn build
      (fun _ _ => ⟨_, _, _, _, rfl⟩) hline hlist declaresKey f.locals
    rw [heq]
    exact (h.addLocals hf hadded).exists_append
  · obtain ⟨added, hadded, heq⟩ := exists_addParts_declaredOn build
      (fun _ _ => ⟨_, _, _, _, rfl⟩) hline hlist
      (fun found key => declaresKey (known ++ found) key) []
    have hdeclared : declared = added := heq
    rw [hdeclared]
    exact ⟨added.map .ofVariable, h.addVariables hadded⟩

/-- The part that a loop names has the name of the loop. -/
theorem name_of_loopPart? {draft : Draft} {suffix : Text} {part : Part}
    (hpart : draft.loopPart? (name ++ suffix) = some part) (hname : Text.IsWord name)
    (hsuffix : Text.startsWord suffix = false) : part.name = name := by
  obtain ⟨parsed, hparse, hparsed⟩ := Option.bind_eq_some_iff.1 hpart
  extract_lets shadowed at hparsed
  split_ifs at hparsed
  cases hparsed
  exact Part.name_of_parse?_append hparse hname hsuffix

/-- Opening a loop keeps a draft sound. -/
theorem openLoop (h : draft.Sound source line own spliced)
    (hline : source.lines[line]? = some text) {suffix : Text} {closed : Bool}
    (hread : Statement.read text = .openLoop name suffix column closed)
    (hname : Line.NameAt text column name) (hsuffix : Text.startsWord suffix = false) :
    (draft.openLoop line text name suffix column).Sound source (line + 1) own spliced := by
  have hiterator {slot : Nat} (iterator : OpenIterator)
      (hiterator : (draft.loopPart? (name ++ suffix)).map (fun part =>
        { part, line, column, description := Line.trailingComment text, slot : OpenIterator }) =
          some iterator) :
      iterator.PlacedBefore source (line + 1) ∧ iterator.line = line ∧ iterator.slot = slot := by
    obtain ⟨part, hpart, rfl⟩ := Option.map_eq_some_iff.1 hiterator
    have heq := name_of_loopPart? hpart hname.isWord hsuffix
    subst heq
    exact ⟨⟨Nat.lt_succ_self line, ⟨text, hline, hname⟩,
      ⟨text, suffix, column, closed, hline, hread⟩⟩, rfl, rfl⟩
  unfold Draft.openLoop
  cases hf : draft.openFunction with
  | some f =>
    refine h.addLocalLoop hf fun iterator heq => ?_
    obtain ⟨hplaced, hsame, hslot⟩ := hiterator iterator heq
    exact ⟨hplaced, hsame, Nat.le_of_eq hslot⟩
  | none =>
    have hadded := h.addLoop fun iterator heq => by
      obtain ⟨hplaced, hsame, hslot⟩ := hiterator iterator heq
      exact ⟨hplaced, hsame, Nat.le_of_eq hslot⟩
    rw [hf] at hadded
    exact hadded

/-- An assignment keeps a draft sound. -/
theorem assign (h : draft.Sound source line own spliced)
    (hline : source.lines[line]? = some text) {sign : Text}
    (hname : Line.NameAt text column name) (hsign : Text.startsWord sign = false) :
    ∃ added, (draft.assign source line text name sign column).Sound source (line + 1)
      (own ++ added) spliced := by
  unfold Draft.assign
  split
  · exact (h.mono (Nat.le_succ line)).exists_append
  split
  · exact (h.mono (Nat.le_succ line)).exists_append
  · next part hpart =>
    have heq := Part.name_of_parse?_append hpart hname.isWord hsign
    extract_lets made
    -- an assignment declares one variable, which is a list of one part
    have hmade : DeclaredOn source line column [made] := by
      refine ⟨fun v hv => ?_, fun v hv => ?_, List.pairwise_singleton _ _⟩
      · rw [List.mem_singleton.1 hv]
        refine ⟨Part.placedBefore_toVariable (Nat.lt_succ_self line) ⟨text, hline, ?_⟩
          fun _ => (nomatch ·), rfl⟩
        rwa [heq]
      · rw [List.mem_singleton.1 hv]
        exact Int.le_refl _
    split
    · next f hf => exact (h.addLocals hf hmade).exists_append
    · exact ⟨[.ofVariable made], h.addVariables hmade⟩

/-- A declaration of fields keeps a draft sound. -/
theorem declareFields (h : draft.Sound source line own spliced)
    (hline : source.lines[line]? = some text) {list : Text}
    (hlist : Line.CodeAt text column list) :
    (draft.declareFields source line text list column).Sound source (line + 1) own spliced := by
  unfold Draft.declareFields
  split
  · exact h.mono (Nat.le_succ line)
  · next t ht =>
    extract_lets build declared fields
    obtain ⟨added, hadded, heq⟩ := exists_addParts_declaredOn build
      (fun _ _ => ⟨_, _, _, _, rfl⟩) hline hlist declared t.fields
    have hfields : fields = t.fields ++ added := heq
    rw [hfields]
    exact h.addFields ht hadded

/-- Setting a label keeps a draft sound. -/
theorem setLabel (h : draft.Sound source line own spliced)
    (hline : source.lines[line]? = some text) (hname : Line.NameAt text column name) :
    ∃ added, (draft.setLabel source line text name column).Sound source (line + 1)
      (own ++ added) spliced := by
  unfold Draft.setLabel
  extract_lets range label
  refine ⟨[.ofLabel label], h.addSymbols (Nat.le_succ line) (List.forall_mem_singleton.2 ?_) rfl rfl
    (List.forall_mem_singleton.2 (Int.le_refl _)) (List.pairwise_singleton _ _)⟩
  exact ⟨⟨rfl, rfl, line, column, Nat.lt_succ_self line, ⟨text, hline, hname⟩, rfl⟩, rfl⟩

/-- When something new is opened, what is open is closed on the line above. -/
theorem closeAbove {α : Type} {opened : Option α} {start : α → Nat} {closed : Draft}
    (close : Nat → Draft) (IsClosed : Draft → Prop) (h : draft.Sound source line own spliced)
    (hlt : ∀ a, opened = some a → start a < line)
    (hclose : ∀ last, draft.Sound source (last + 1) own spliced →
      ∃ added, (close last).Sound source (last + 1) (own ++ added) spliced ∧
        IsClosed (close last))
    (hnone : opened = none → closed = draft ∧ IsClosed draft)
    (hsome : ∀ a, opened = some a → closed = close (max (line - 1) (start a))) :
    ∃ added, closed.Sound source line (own ++ added) spliced ∧ IsClosed closed := by
  cases hopened : opened with
  | none =>
    obtain ⟨heq, hdraft⟩ := hnone hopened
    obtain ⟨added, hsound⟩ := h.exists_append
    rw [heq]
    exact ⟨added, hsound, hdraft⟩
  | some a =>
    -- there is a line above, and it is not in front of the line that opened what is closed
    have hstart := hlt a hopened
    have hmax : max (line - 1) (start a) = line - 1 := by omega
    have hsucc : line - 1 + 1 = line := by omega
    rw [hsome a hopened, hmax]
    rw [← hsucc] at h
    obtain ⟨added, hsound, hdraft⟩ := hclose (line - 1) h
    exact ⟨added, hsucc ▸ hsound, hdraft⟩

/-- Opening a function keeps a draft sound. -/
theorem openFunctionAt (h : draft.Sound source line own spliced)
    (hline : source.lines[line]? = some text) {suffix : Text}
    {parameters : Option (Text × Nat)} (hname : Line.NameAt text column name)
    (hparameters : ∀ list start, parameters = some (list, start) →
      Line.CodeAt text start list ∧ column + name.length ≤ start) :
    ∃ added, (draft.openFunctionAt source line text name suffix column parameters).Sound source
      (line + 1) (own ++ added) spliced := by
  unfold Draft.openFunctionAt
  extract_lets closed build locals
  obtain ⟨added, hclosed, hnone⟩ :
      ∃ added, closed.Sound source line (own ++ added) spliced ∧ closed.openFunction = none :=
    h.closeAbove (draft.closeFunction source) (fun draft => draft.openFunction = none)
      (fun f hf => (h.openFunction f hf).line_lt) (fun _ h => h.closeFunction)
      (fun hf => ⟨by simp only [closed, hf], hf⟩)
      fun f hf => by simp only [closed, hf]
  -- the parameters stand behind the name
  obtain ⟨start, hstart, hlocals⟩ : ∃ start, column < start ∧
      DeclaredOn source line start locals := by
    cases hcases : parameters with
    | none =>
      have heq : locals = [] := by simp only [locals, hcases]
      rw [heq]
      exact ⟨column + 1, Nat.lt_succ_self column, fun _ => (nomatch ·), fun _ => (nomatch ·), .nil⟩
    | some found =>
      obtain ⟨list, start⟩ := found
      obtain ⟨hlist, hbehind⟩ := hparameters list start hcases
      obtain ⟨added, hadded, hadd⟩ := exists_addParts_declaredOn build
        (fun _ _ => ⟨_, _, _, _, rfl⟩) hline hlist declaresKey []
      have heq : locals = added := by simp only [locals, hcases, hadd, List.nil_append]
      have hpositive := hname.isWord.length_pos
      rw [heq]
      exact ⟨start, by omega, hadded⟩
  refine ⟨added, (hclosed.openNewFunction hnone ⟨Nat.lt_succ_self line,
    ⟨text, hline, hname⟩, fun v hv => ?_, fun _ hmem => ?_⟩ rfl ?_ ?_).withDoc .empty⟩
  · obtain ⟨hplaced, hsame⟩ := hlocals.placed v hv
    exact ⟨hplaced, Int.le_of_eq hsame.symm⟩
  · cases hmem
  · rw [FunctionDraft.starts, List.forall_mem_cons, loopStarts, List.filterMap_nil,
      List.append_nil]
    exact ⟨Int.le_refl _, hlocals.le_start⟩
  · rw [FunctionDraft.starts, loopStarts, List.filterMap_nil, List.append_nil]
    exact hlocals.nodup_cons hstart

/-- Opening a type keeps a draft sound. -/
theorem openTypeAt (h : draft.Sound source line own spliced)
    (hline : source.lines[line]? = some text) (hname : Line.NameAt text column name) :
    ∃ added, (draft.openTypeAt source line text name column).Sound source (line + 1)
      (own ++ added) spliced := by
  unfold Draft.openTypeAt
  extract_lets closed
  obtain ⟨added, hclosed, hnone⟩ :
      ∃ added, closed.Sound source line (own ++ added) spliced ∧ closed.openType = none :=
    h.closeAbove (draft.closeType source) (fun draft => draft.openType = none)
      (fun t ht => (h.openType t ht).line_lt) (fun _ h => h.closeType)
      (fun ht => ⟨by simp only [closed, ht], ht⟩)
      fun t ht => by simp only [closed, ht]
  refine ⟨added, (hclosed.openNewType hnone ⟨Nat.lt_succ_self line, ⟨text, hline, hname⟩,
    fun _ hmem => ?_⟩ rfl ?_ ?_).withDoc .empty⟩
  · cases hmem
  · exact List.forall_mem_singleton.2 (Int.le_refl _)
  · exact List.pairwise_singleton _ _

/-- The step of a line that is no include keeps a draft sound. -/
theorem step {next : Draft} (h : draft.Sound source line own spliced)
    (hline : source.lines[line]? = some text)
    (hstep : draft.step source line text (Statement.read text) = .ok next) :
    ∃ added, next.Sound source (line + 1) (own ++ added) spliced := by
  -- closing belongs to the line itself, so that the draft is first taken to the next bound
  have hmono := h.mono (Nat.le_succ line)
  have hplaced := Statement.wellPlaced_read text
  generalize hread : Statement.read text = statement at hstep hplaced
  cases statement with
  | includeFile target =>
    cases hstep
    exact hmono.exists_append
  | declare keyword list column =>
    rw [Draft.step] at hstep
    split at hstep
    · cases hstep
      exact h.declare hline hplaced _
    · cases hstep
  | openLoop name suffix column closed =>
    cases hstep
    have hopened := h.openLoop hline hread hplaced.1 hplaced.2
    cases closed with
    | true => exact hopened.closeLoop
    | false => exact hopened.exists_append
  | closeLoop =>
    cases hstep
    exact hmono.closeLoop
  | assign name sign column =>
    cases hstep
    exact h.assign hline hplaced.1 hplaced.2
  | documentParameter doc =>
    cases hstep
    exact (hmono.withDoc _).exists_append
  | documentExample doc =>
    cases hstep
    exact (hmono.withDoc _).exists_append
  | document doc =>
    cases hstep
    exact (hmono.withDoc _).exists_append
  | closeFunction =>
    cases hstep
    obtain ⟨added, hsound, -⟩ := hmono.closeFunction
    exact ⟨added, hsound⟩
  | openFunction name suffix column parameters =>
    cases hstep
    exact h.openFunctionAt hline hplaced.1 hplaced.2
  | closeType =>
    cases hstep
    obtain ⟨added, hsound, -⟩ := hmono.closeType
    exact ⟨added, hsound⟩
  | openType name column =>
    cases hstep
    exact h.openTypeAt hline hplaced
  | declareFields list column =>
    cases hstep
    exact (h.declareFields hline hplaced).exists_append
  | label name column =>
    cases hstep
    exact h.setLabel hline hplaced
  | other =>
    cases hstep
    exact hmono.exists_append

end Draft.Sound

/-! ## A whole file -/

/-- What the includes of a file yield together, in order. -/
def Source.inclusions (source : Source) (fetch : Text → Except ExtractError (List Symbol)) :
    List Symbol :=
  source.lines.flatMap fun line =>
    (((Statement.read line).target?.map fetch).bind Except.toOption).getD []

/-- A file without the lines from a number on. -/
def Source.front (source : Source) (number : Nat) : Source :=
  { source with lines := source.lines.take number }

theorem Source.front_length (source : Source) : source.front source.lines.length = source := by
  rw [front, List.take_length]

/-- One line more adds what its include yields. -/
theorem Source.inclusions_front_succ {source : Source}
    {fetch : Text → Except ExtractError (List Symbol)} {number : Nat} {line : Text}
    (hline : source.lines[number]? = some line) :
    (source.front (number + 1)).inclusions fetch = (source.front number).inclusions fetch ++
      (((Statement.read line).target?.map fetch).bind Except.toOption).getD [] := by
  rw [inclusions, front, List.take_add_one, hline, Option.toList_some, List.flatMap_append,
    List.flatMap_singleton]
  rfl

/-- The includes of a file without includes yield nothing. -/
theorem Source.inclusions_eq_nil {source : Source}
    (hincludes : ∀ line ∈ source.lines, (Statement.read line).target? = none)
    (fetch : Text → Except ExtractError (List Symbol)) : source.inclusions fetch = [] := by
  refine List.flatMap_eq_nil_iff.2 fun line hline => ?_
  rw [hincludes line hline]
  rfl

/-- What an include of a file yields, the includes of the file yield together. -/
theorem Source.mem_inclusions {source : Source}
    {fetch : Text → Except ExtractError (List Symbol)} {line target : Text} {result : List Symbol}
    {symbol : Symbol} (hline : line ∈ source.lines)
    (htarget : (Statement.read line).target? = some target) (hresult : fetch target = .ok result)
    (hmem : symbol ∈ result) : symbol ∈ source.inclusions fetch := by
  refine List.mem_flatMap.2 ⟨line, hline, ?_⟩
  rw [htarget, Option.map_some, Option.bind_some, hresult]
  exact hmem

/-- Symbols are all that a file declares itself: each is in place, functions share no line, nor do
types, and no two names start at one place. -/
structure Source.Owns (source : Source) (own : List Symbol) : Prop where
  /-- Every symbol is in place. -/
  placed : ∀ symbol ∈ own, symbol.PlacedBefore source source.lines.length
  /-- A function ends in front of every later one. -/
  functions : (functionLines own).Pairwise fun block later => block.2 < later.1
  /-- A type ends in front of every later one. -/
  types : (typeLines own).Pairwise fun block later => block.2 < later.1
  /-- No two names start at one place. -/
  nodup : (own.flatMap Symbol.starts).Nodup

namespace Draft.Sound

variable {source : Source} {own spliced : List Symbol} {draft last : Draft}
  {fetch : Text → Except ExtractError (List Symbol)}

/-- A line keeps a draft sound. -/
theorem afterLine {line : Nat} {text : Text} (h : draft.Sound source line own spliced)
    (hline : source.lines[line]? = some text)
    (hafter : draft.afterLine source fetch (text, line) = .ok last) :
    ∃ added, last.Sound source (line + 1) (own ++ added)
      (spliced ++ (((Statement.read text).target?.map fetch).bind Except.toOption).getD []) := by
  rcases Draft.afterLine_cases hafter with ⟨htarget, hstep⟩ | ⟨target, found, htarget, hfetch, rfl⟩
  · rw [htarget, Option.map_none, Option.bind_none, Option.getD_none, List.append_nil]
    exact h.step hline hstep
  · rw [htarget, Option.map_some, Option.bind_some, hfetch]
    exact ((h.splice found).mono (Nat.le_succ line)).exists_append

/-- When a file ends, its symbols are in place. -/
theorem finish (h : draft.Sound source source.lines.length own spliced)
    (hne : source.lines ≠ []) :
    ∃ added, source.Owns (own ++ added) ∧
      (draft.finish source).Perm ((own ++ added) ++ spliced) := by
  have hlast : source.lastLine + 1 = source.lines.length :=
    Nat.sub_add_cancel (List.length_pos_iff.2 hne)
  rw [← hlast] at h
  -- the function is closed first, then the type, then the loops of the top level
  obtain ⟨functions, hfunctions, -⟩ := h.closeFunction
  obtain ⟨types, htypes, -⟩ := hfunctions.closeType
  obtain ⟨loops, hloops⟩ := htypes.closeTopLoops
    ((draft.closeFunction source source.lastLine).closeType source source.lastLine).loops.length
  refine ⟨functions ++ types ++ loops, ?_⟩
  rw [← List.append_assoc, ← List.append_assoc]
  refine ⟨⟨fun symbol hmem => hlast ▸ hloops.placed symbol hmem, hloops.functions.pairwise,
    hloops.types.pairwise, ?_⟩, hloops.symbols⟩
  exact (List.nodup_append.1 hloops.nodup).1

end Draft.Sound

/-- A file yields what it declares itself and what its includes yield, in some order. -/
theorem Source.exists_owns {source : Source} {fetch : Text → Except ExtractError (List Symbol)}
    {found : List Symbol} (hne : source.lines ≠ []) (h : source.outcome fetch = .ok found) :
    ∃ own, source.Owns own ∧ found.Perm (own ++ source.inclusions fetch) := by
  obtain ⟨last, ⟨own, hsound⟩, rfl⟩ := source.exists_draft_of_outcome (P := fun number draft =>
    ∃ own, draft.Sound source number own ((source.front number).inclusions fetch))
    ⟨[], .empty source⟩ (fun number line draft next hline hnext hdraft => by
      obtain ⟨own, hown⟩ := hdraft
      rw [inclusions_front_succ hline]
      obtain ⟨added, hadded⟩ := hown.afterLine hline hnext
      exact ⟨own ++ added, hadded⟩) h
  rw [front_length] at hsound
  obtain ⟨added, howns, hperm⟩ := hsound.finish hne
  exact ⟨_, howns, hperm⟩

/-- A visit yields what its file declares itself and what its includes yield, in some order. -/
theorem Visit.exists_owns {disk : Disk} {rules : IncludeRules} {visit : Visit}
    {found : List Symbol} (h : visit.outcome disk rules = .ok found) :
    ∃ own, visit.source.Owns own ∧
      found.Perm (own ++ visit.source.inclusions (visit.fetch disk rules)) := by
  rw [outcome_eq] at h
  exact Source.exists_owns (Text.linesAfter_ne_nil false visit.text) h

end BlitzLens
