import BlitzLens.Proofs.Extraction.Likeness
import Mathlib.Data.List.InsertIdx

/-!
# The top level stands outside functions

A variable of the top level, or an open loop of the top level, was declared while no function was
open, and a function was opened behind all of them. So no function of the file reaches over the line
of such a declaration. This is kept by every line (`Draft.Apart.step`) and holds when the file ends
(`Source.apart_of_outcome`).
-/

namespace BlitzLens

/-- The top level of a draft declares something on a line: a variable, or the iterator of an open
loop. -/
def Draft.DeclaresOn (draft : Draft) (line : Int) : Prop :=
  (∃ v, .ofVariable v ∈ draft.symbols ∧ v.range.startLine = line) ∨
    ∃ iterator, some iterator ∈ draft.loops ∧ (iterator.line : Int) = line

/-- The functions of a draft in front of a line are apart from what the top level declares. -/
structure Draft.Apart (bound : Nat) (draft : Draft) : Prop where
  /-- The declarations stand in front of the line. -/
  line_lt : ∀ line, draft.DeclaresOn line → line < bound
  /-- The finished functions do not reach over the declarations. -/
  functions : ∀ f : Function, .ofFunction f ∈ draft.symbols → f.scope.endLine < bound ∧
    ∀ line, draft.DeclaresOn line → f.scope.containsLine line = false
  /-- The open function was opened behind the declarations. -/
  openFunction : ∀ f, draft.openFunction = some f → f.line < bound ∧
    ∀ line, draft.DeclaresOn line → line < f.line

namespace Draft.Apart

variable {source : Source} {draft next : Draft} {bound bound' number : Nat} {line : Text}

/-- Before the first line, there is nothing to keep apart. -/
theorem empty : Draft.empty.Apart bound where
  line_lt line h := by
    rcases h with ⟨v, hv, -⟩ | ⟨iterator, hiterator, -⟩
    · cases hv
    · cases hiterator
  functions _ := nofun
  openFunction _ := nofun

/-- What is apart in front of a line is so in front of a later one. -/
theorem mono (h : draft.Apart bound) (hle : bound ≤ bound') : draft.Apart bound' where
  line_lt line hline := by
    have := h.line_lt line hline
    omega
  functions f hf := by
    obtain ⟨hend, hlines⟩ := h.functions f hf
    exact ⟨by omega, hlines⟩
  openFunction f hf := by
    obtain ⟨hline, hlines⟩ := h.openFunction f hf
    exact ⟨by omega, hlines⟩

/-- Waiting documentation does not matter. -/
theorem withDoc (h : draft.Apart bound) (doc : DocBlock) :
    Draft.Apart bound { draft with doc } :=
  ⟨h.line_lt, h.functions, h.openFunction⟩

/-- A draft without new functions and without new declarations of the top level stays apart. -/
theorem of_subset (h : draft.Apart bound)
    (hdeclares : ∀ line, next.DeclaresOn line → draft.DeclaresOn line)
    (hfunctions : ∀ f, .ofFunction f ∈ next.symbols → .ofFunction f ∈ draft.symbols)
    (hopen : ∀ f, next.openFunction = some f →
      ∃ g, draft.openFunction = some g ∧ f.line = g.line) : next.Apart bound where
  line_lt line hline := h.line_lt line (hdeclares line hline)
  functions f hf :=
    ⟨(h.functions f (hfunctions f hf)).1,
      fun line hline => (h.functions f (hfunctions f hf)).2 line (hdeclares line hline)⟩
  openFunction f hf := by
    obtain ⟨g, hg, hsame⟩ := hopen f hf
    rw [hsame]
    exact ⟨(h.openFunction g hg).1,
      fun line hline => (h.openFunction g hg).2 line (hdeclares line hline)⟩

/-- What the top level declares on a line stands behind all functions, for none is open. -/
theorem declares (h : draft.Apart number)
    (hdeclares : ∀ line, next.DeclaresOn line → draft.DeclaresOn line ∨ line = number)
    (hfunctions : ∀ f, .ofFunction f ∈ next.symbols → .ofFunction f ∈ draft.symbols)
    (hnone : next.openFunction = none) : next.Apart (number + 1) where
  line_lt line hline := by
    rcases hdeclares line hline with hold | rfl
    · have := h.line_lt line hold
      omega
    · omega
  functions f hf := by
    obtain ⟨hend, hlines⟩ := h.functions f (hfunctions f hf)
    refine ⟨by omega, fun line hline => ?_⟩
    rcases hdeclares line hline with hold | rfl
    · exact hlines line hold
    · rw [Span.containsLine, Bool.and_eq_false_iff, decide_eq_false_iff_not,
        decide_eq_false_iff_not]
      omega
  openFunction f hf := by
    rw [hnone] at hf
    cases hf

/-- Symbols that are neither variables nor functions do not matter. -/
theorem addOther (h : draft.Apart bound) {symbol : Symbol}
    (hkind : symbol.kind = .type ∨ symbol.kind = .label) :
    Draft.Apart bound { draft with symbols := draft.symbols ++ [symbol] } := by
  have hmem {other : Symbol} (hother : other.kind = .var ∨ other.kind = .function)
      (hmem : other ∈ draft.symbols ++ [symbol]) : other ∈ draft.symbols := by
    rcases List.mem_append.1 hmem with hold | hnew
    · exact hold
    · rw [List.mem_singleton.1 hnew] at hother
      rcases hkind with hkind | hkind <;> rw [hkind] at hother <;>
        rcases hother with hother | hother <;> cases hother
  refine h.of_subset (fun line hline => ?_) (fun f hf => hmem (.inr rfl) hf)
    fun f hf => ⟨f, hf, rfl⟩
  rcases hline with ⟨v, hv, hstart⟩ | hloop
  · exact .inl ⟨v, hmem (.inl rfl) hv, hstart⟩
  · exact .inr hloop

/-- The open type is closed. -/
theorem closeType (h : draft.Apart bound) (source : Source) (last : Nat) :
    (draft.closeType source last).Apart bound := by
  unfold Draft.closeType
  split
  · next t ht =>
    have hother : Draft.Apart bound { draft with
        symbols := draft.symbols ++ [.ofType (t.finish source last)] } := h.addOther (.inl rfl)
    exact ⟨hother.line_lt, hother.functions, hother.openFunction⟩
  · exact h

/-- The open function is closed in front of the bound. -/
theorem closeFunction (h : draft.Apart bound) (source : Source) {last : Nat}
    (hlast : last < bound) :
    (draft.closeFunction source last).Apart bound := by
  unfold Draft.closeFunction
  split
  · next f hf =>
    obtain ⟨-, hopen⟩ := h.openFunction f hf
    have hdeclares (line : Int) (hline : Draft.DeclaresOn { draft with
        openFunction := none
        symbols := draft.symbols ++ [.ofFunction (f.finish source last)] } line) :
        draft.DeclaresOn line := by
      rcases hline with ⟨v, hv, hstart⟩ | hloop
      · rcases List.mem_append.1 hv with hold | hnew
        · exact .inl ⟨v, hold, hstart⟩
        · cases List.mem_singleton.1 hnew
      · exact .inr hloop
    refine ⟨fun line hline => h.line_lt line (hdeclares line hline), fun g hg => ?_,
      fun _ => nofun⟩
    rcases List.mem_append.1 hg with hold | hnew
    · exact ⟨(h.functions g hold).1,
        fun line hline => (h.functions g hold).2 line (hdeclares line hline)⟩
    · cases List.mem_singleton.1 hnew
      refine ⟨Int.ofNat_lt.2 hlast, fun line hline => ?_⟩
      have hlt := hopen line (hdeclares line hline)
      have hscope : (f.finish source last).scope = source.block f.line last := by
        rw [f.finish_eq]
        rfl
      rw [hscope, Span.containsLine, Bool.and_eq_false_iff, decide_eq_false_iff_not]
      exact .inl (Int.not_le.2 hlt)
  · exact h

/-- The innermost loop of the top level is closed. -/
theorem closeTopLoop (h : draft.Apart bound) (source : Source) (last : Nat) :
    (draft.closeTopLoop source last).Apart bound := by
  unfold Draft.closeTopLoop
  split
  · exact h
  · next loops hloops =>
    refine h.of_subset (fun line hline => ?_) (fun f hf => hf) fun f hf => ⟨f, hf, rfl⟩
    rcases hline with hvariable | ⟨iterator, hmem, hstart⟩
    · exact .inl hvariable
    · exact .inr ⟨iterator, by rw [hloops]; exact List.mem_cons_of_mem _ hmem, hstart⟩
  · next iterator loops hloops =>
    refine h.of_subset (fun line hline => ?_) (fun f hf => ?_) fun f hf => ⟨f, hf, rfl⟩
    · rcases hline with ⟨v, hv, hstart⟩ | ⟨other, hmem, hstart⟩
      · rcases List.eq_or_mem_of_mem_insertIdx hv with heq | hold
        · cases heq
          exact .inr ⟨iterator, by rw [hloops]; exact List.mem_cons_self, hstart⟩
        · exact .inl ⟨v, hold, hstart⟩
      · exact .inr ⟨other, by rw [hloops]; exact List.mem_cons_of_mem _ hmem, hstart⟩
    · rcases List.eq_or_mem_of_mem_insertIdx hf with heq | hold
      · cases heq
      · exact hold

/-- Some loops of the top level are closed. -/
theorem closeTopLoops (h : draft.Apart bound) (source : Source) (last count : Nat) :
    (draft.closeTopLoops source last count).Apart bound := by
  induction count generalizing draft with
  | zero => exact h
  | succ count ih => exact ih (h.closeTopLoop source last)

/-- A statement inside a function tells the top level nothing. -/
theorem ofInner {f : FunctionDraft} (h : draft.Apart bound) (hf : draft.openFunction = some f)
    {statement : Statement} (hinner : statement.isInner = true)
    (hnext : draft.step source number line statement = .ok next) : next.Apart bound := by
  obtain ⟨locals, loops, rfl⟩ := exists_step_eq_of_isInner hf hinner hnext
  refine h.of_subset (fun line hline => hline) (fun f hf => hf) fun g hg => ⟨f, hf, ?_⟩
  cases hg
  rfl

/-- Variables that the top level declares on a line are added. -/
theorem addVariables (h : draft.Apart number) (hnone : draft.openFunction = none)
    {added : List Variable} (hadded : ∀ v ∈ added, v.range.startLine = number) :
    Draft.Apart (number + 1)
      { draft with symbols := draft.symbols ++ added.map .ofVariable } := by
  refine h.declares (fun line hline => ?_) (fun f hf => ?_) hnone
  · rcases hline with ⟨v, hv, hstart⟩ | hloop
    · rcases List.mem_append.1 hv with hold | hnew
      · exact .inl (.inl ⟨v, hold, hstart⟩)
      · obtain ⟨u, hu, heq⟩ := List.mem_map.1 hnew
        cases heq
        exact .inr (hstart.symm.trans (hadded v hu))
    · exact .inl (.inr hloop)
  · rcases List.mem_append.1 hf with hold | hnew
    · exact hold
    · obtain ⟨u, -, heq⟩ := List.mem_map.1 hnew
      cases heq

/-- A loop of the top level is opened. -/
theorem openLoop (h : draft.Apart number) (hnone : draft.openFunction = none)
    (line name suffix : Text) (column : Nat) :
    (draft.openLoop number line name suffix column).Apart (number + 1) := by
  rw [openLoop_of_none hnone]
  refine h.declares (fun line hline => ?_) (fun f hf => hf) hnone
  rcases hline with hvariable | ⟨iterator, hmem, hstart⟩
  · exact .inl (.inl hvariable)
  · rcases List.mem_cons.1 hmem with heq | hold
    · obtain ⟨part, -, rfl⟩ := Option.map_eq_some_iff.1 heq.symm
      exact .inr hstart.symm
    · exact .inl (.inr ⟨iterator, hold, hstart⟩)

/-- Variables are declared outside functions. -/
theorem declare (h : draft.Apart number) (hnone : draft.openFunction = none)
    (line : Text) (declarator : Declarator) (list : Text) (column : Nat) :
    (draft.declare source number line declarator list column).Apart (number + 1) := by
  obtain ⟨placed, -, hadd⟩ := exists_sublist_addLocated (declarator.build source number line)
    (fun found key => declaresKey (topVariables draft.symbols ++ found) key) []
    (locateParts line column (Part.parseList list))
  rw [declare_of_none hnone, hadd]
  refine h.addVariables hnone fun v hv => ?_
  obtain ⟨place, -, rfl⟩ := List.mem_map.1 hv
  rfl

/-- A value is assigned outside functions. -/
theorem assign (h : draft.Apart number) (hnone : draft.openFunction = none)
    (line name sign : Text) (column : Nat) :
    (draft.assign source number line name sign column).Apart (number + 1) := by
  have hmono := h.mono (Nat.le_succ number)
  unfold Draft.assign
  split
  · exact hmono
  split
  · exact hmono
  · next part _ =>
    have hadded : ∀ v ∈ [part.toAssigned source number line column],
        v.range.startLine = number := by
      intro v hv
      rw [List.mem_singleton.1 hv]
      rfl
    split
    · next f hopen =>
      rw [hnone] at hopen
      cases hopen
    · exact h.addVariables hnone hadded

/-- A statement outside functions adds to the top level, if it could stand in a function. -/
theorem ofTop (h : draft.Apart number) (hnone : draft.openFunction = none)
    {statement : Statement} (hinner : statement.isInner = true)
    (hnext : draft.step source number line statement = .ok next) : next.Apart (number + 1) := by
  have hmono := h.mono (Nat.le_succ number)
  cases statement with
  | declare keyword list column =>
    obtain ⟨declarator, -, rfl⟩ := Draft.step_declare_eq_ok_iff.1 hnext
    exact h.declare hnone line declarator list column
  | openLoop name suffix column closed =>
    cases hnext
    have hopened := h.openLoop hnone line name suffix column
    cases closed with
    | true =>
      have hstill : (draft.openLoop number line name suffix column).openFunction = none := by
        rw [openLoop_of_none hnone]
        exact hnone
      rw [if_pos rfl, Draft.closeLoop, hstill]
      exact hopened.closeTopLoop source number
    | false => exact hopened
  | closeLoop =>
    cases hnext
    rw [Draft.closeLoop, hnone]
    exact hmono.closeTopLoop source number
  | assign name sign column => cases hnext; exact h.assign hnone line name sign column
  | other => cases hnext; exact hmono
  | _ => cases hinner

/-- A function is opened. -/
theorem openFunctionAt (h : draft.Apart number) (name suffix : Text) (column : Nat)
    (parameters : Option (Text × Nat)) :
    (draft.openFunctionAt source number line name suffix column parameters).Apart (number + 1) := by
  have hclosed : (draft.endFunction source number).Apart number := by
    unfold Draft.endFunction
    split
    · next f hf =>
      have hline := (h.openFunction f hf).1
      exact h.closeFunction source (by omega)
    · exact h
  rw [openFunctionAt_eq]
  refine ⟨(hclosed.mono (Nat.le_succ number)).line_lt,
    (hclosed.mono (Nat.le_succ number)).functions, fun f hf => ?_⟩
  cases hf
  exact ⟨Nat.lt_succ_self number, hclosed.line_lt⟩

/-- A type is opened. -/
theorem openTypeAt (h : draft.Apart bound) (name : Text) (column : Nat) :
    (draft.openTypeAt source number line name column).Apart bound := by
  unfold Draft.openTypeAt
  extract_lets closed
  have hclosed : closed.Apart bound := by
    simp only [closed]
    split
    · exact h.closeType source _
    · exact h
  exact ⟨hclosed.line_lt, hclosed.functions, hclosed.openFunction⟩

/-- Fields belong to their type. -/
theorem declareFields (h : draft.Apart bound) (list : Text) (column : Nat) :
    (draft.declareFields source number line list column).Apart bound := by
  unfold Draft.declareFields
  split <;> exact ⟨h.line_lt, h.functions, h.openFunction⟩

/-- Every line that is no include keeps functions and the top level apart. -/
theorem step (h : draft.Apart number) {statement : Statement}
    (hnext : draft.step source number line statement = .ok next) : next.Apart (number + 1) := by
  have hmono := h.mono (Nat.le_succ number)
  by_cases hinner : statement.isInner = true
  · cases hf : draft.openFunction with
    | some f => exact hmono.ofInner hf hinner hnext
    | none => exact h.ofTop hf hinner hnext
  · cases statement with
    | includeFile target => cases hnext; exact hmono
    | documentParameter text => cases hnext; exact hmono.withDoc _
    | documentExample text => cases hnext; exact hmono.withDoc _
    | document text => cases hnext; exact hmono.withDoc _
    | closeFunction => cases hnext; exact hmono.closeFunction source (Nat.lt_succ_self number)
    | openFunction name suffix column parameters =>
      cases hnext
      exact h.openFunctionAt name suffix column parameters
    | closeType => cases hnext; exact hmono.closeType source number
    | openType name column => cases hnext; exact hmono.openTypeAt name column
    | declareFields list column => cases hnext; exact hmono.declareFields list column
    | label name column => cases hnext; exact hmono.addOther (.inr rfl)
    | _ => exact absurd rfl hinner

end Draft.Apart

/-- In a file without includes no function reaches over a variable of the top level. -/
theorem Source.apart_of_outcome {source : Source}
    {fetch : Text → Except ExtractError (List Symbol)} {found : List Symbol}
    (hincludes : ∀ line ∈ source.lines, (Statement.read line).target? = none)
    (h : source.outcome fetch = .ok found) {f : Function} (hf : .ofFunction f ∈ found)
    {v : Variable} (hv : .ofVariable v ∈ found) :
    f.scope.containsLine v.range.startLine = false := by
  obtain ⟨draft, hapart, rfl⟩ := source.exists_draft_of_no_includes (P := fun number draft =>
    draft.Apart number) .empty hincludes (fun _ _ _ _ _ hnext hdraft => hdraft.step hnext) h
  -- the last line is in front of the bound, even if there is none
  have hbound : source.lines.length ≤ source.lastLine + 1 := by
    rw [Source.lastLine]
    omega
  have hclosed := (hapart.mono hbound).closeFunction source (Nat.lt_succ_self source.lastLine)
  have hfinished := (hclosed.closeType source source.lastLine).closeTopLoops source source.lastLine
    ((draft.closeFunction source source.lastLine).closeType source source.lastLine).loops.length
  exact (hfinished.functions f hf).2 _ (.inl ⟨v, hv, rfl⟩)

end BlitzLens
