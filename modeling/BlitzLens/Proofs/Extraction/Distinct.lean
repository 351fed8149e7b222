import BlitzLens.Proofs.Extraction.Arrangement
import BlitzLens.Proofs.Extraction.Matching

/-!
# The first declaration of a name wins

A name is declared once by the locals of a function, by the fields of a type and by the variables of
the top level, where loop iterators do not count. On the top level, what an include yields is known
as well: what the file declares behind it has other names. But nothing is lost, for a name that a
line lists is declared in its scope when the line is done (`ScopeDeclares`), by itself or by what
was there before.

The invariant is `Draft.Distinct`. It follows the symbols of the file apart from those that includes
yield, as the loops of the top level insert their iterators anywhere between them, and it does not
speak of iterators otherwise.

## Main definitions

* `ScopeDeclares`: the scope of an owner declares a name on a line or in front of it.
* `Source.DeclaresOnce`: what a file lists is declared, and nothing is declared twice.

## Main results

* `Draft.Distinct.change`: every way in which a line changes a draft declares a name once.
* `Source.exists_distinct`: what a file declares itself is declared once, and is complete.
* `Source.distinct_of_outcome`: so it is for all that a file without includes yields.
-/

namespace BlitzLens

/-! ## Scopes -/

/-- Among some variables, one that lasts has a key and stands on a line or in front of it. -/
def DeclaredBy (line : Nat) (key : Text) (found : List Variable) : Prop :=
  ∃ v ∈ lasting found, v.key = key ∧ v.range.startLine ≤ line

/-- A key is declared in a scope on a line or in front of it: by the locals of the function that is
opened on the line `first`, or at the top level, where an include on an earlier line may have
yielded it. -/
def ScopeDeclares (own : List Symbol) (spliced : List (Nat × List Symbol)) (line : Nat)
    (key : Text) : Option Nat → Prop
  | some first => ∃ f : Function, .ofFunction f ∈ own ∧ f.range.startLine = first ∧
      DeclaredBy line key f.locals
  | none => DeclaredBy line key (topVariables own) ∨
      ∃ splice ∈ spliced, splice.1 < line ∧ ∃ v ∈ lasting (topVariables splice.2), v.key = key

/-- A line in front of the bound lists a key in the scope of an owner: that of the function that is
open behind the line, or of the top level. -/
def Source.Lists (source : Source) (bound line : Nat) (key : Text) (owner : Option Nat) : Prop :=
  line < bound ∧ source.functionAt (line + 1) = owner ∧
    ∃ statement, source.statements[line]? = some statement ∧
      ∃ part ∈ statement.declaredParts, part.key = key

/-- A function declares its locals once, and a type its fields; loop iterators do not count. -/
def Symbol.MembersDistinct : Symbol → Prop
  | .ofFunction f => DistinctKeys (lasting f.locals)
  | .ofType t => DistinctKeys t.fields
  | _ => True

section Scopes

variable {found added : List Variable} {own own' : List Symbol}
  {spliced : List (Nat × List Symbol)} {line : Nat} {key : Text} {owner : Option Nat}

/-- What is declared stays so as long as variables last. -/
theorem DeclaredBy.mono (h : DeclaredBy line key found) (hsub : lasting found ⊆ lasting added) :
    DeclaredBy line key added := by
  obtain ⟨v, hv, hdeclared⟩ := h
  exact ⟨v, hsub hv, hdeclared⟩

/-- What a scope declares, it declares when there are more symbols of the file. -/
theorem ScopeDeclares.of_subset (h : ScopeDeclares own spliced line key owner)
    (hsub : own ⊆ own') : ScopeDeclares own' spliced line key owner := by
  cases owner with
  | some first =>
    obtain ⟨f, hf, hdeclared⟩ := h
    exact ⟨f, hsub hf, hdeclared⟩
  | none =>
    refine h.imp_left fun hown => hown.mono fun v hv => ?_
    rw [mem_lasting, mem_topVariables] at hv ⊢
    exact ⟨hsub hv.1, hv.2⟩

/-- What a scope declares, it declares when there are more includes. -/
theorem ScopeDeclares.splice (h : ScopeDeclares own spliced line key owner)
    (more : List (Nat × List Symbol)) :
    ScopeDeclares own (spliced ++ more) line key owner := by
  cases owner with
  | some first => exact h
  | none =>
    exact h.imp_right fun ⟨splice, hsplice, hdeclared⟩ =>
      ⟨splice, List.mem_append_left _ hsplice, hdeclared⟩

/-- Distinct keys are so in any order. -/
theorem DistinctKeys.perm (h : DistinctKeys found) (hperm : found.Perm added) :
    DistinctKeys added :=
  (hperm.pairwise_iff fun h => h.symm).1 h

end Scopes

/-! ## Functions -/

/-- An open function in front of a line declares a local once; loop iterators do not count. -/
structure FunctionDraft.Distinct (bound : Nat) (f : FunctionDraft) : Prop where
  /-- No two locals have one key. -/
  keys : DistinctKeys (lasting f.locals)
  /-- The locals stand in front of the line. -/
  line_lt : ∀ v ∈ lasting f.locals, v.range.startLine < bound

namespace FunctionDraft

variable {bound bound' : Nat} {f : FunctionDraft}

/-- Closing a loop matters to no local that lasts. -/
theorem lasting_closeLoop (f : FunctionDraft) (source : Source) (last : Nat) :
    lasting (f.closeLoop source last).locals = lasting f.locals := by
  unfold closeLoop
  split
  · rfl
  · rfl
  · exact lasting_insertIdx rfl f.locals _

/-- Closing some loops matters to no local that lasts. -/
theorem lasting_closeLoops (f : FunctionDraft) (source : Source) (last count : Nat) :
    lasting (f.closeLoops source last count).locals = lasting f.locals := by
  induction count generalizing f with
  | zero => rfl
  | succ count ih => rw [closeLoops, ih, lasting_closeLoop]

/-- A function that ends has the locals that it had, apart from iterators. -/
theorem lasting_finish (f : FunctionDraft) (source : Source) (last : Nat) :
    lasting (f.finish source last).locals = lasting f.locals := by
  rw [finish_eq]
  exact f.lasting_closeLoops source last f.loops.length

/-- What is distinct in front of a line is so in front of a later one. -/
theorem Distinct.mono (h : f.Distinct bound) (hle : bound ≤ bound') : f.Distinct bound' where
  keys := h.keys
  line_lt v hv := by
    have hlt := h.line_lt v hv
    omega

/-- The locals of a line that have new keys are added. -/
theorem Distinct.append {number : Nat} (h : f.Distinct number) {parts : List Part}
    {added : List Variable} (hadded : ListedOn number added)
    (hnew : Introduces parts (lasting f.locals) added) :
    Distinct (number + 1) { f with locals := f.locals ++ added } := by
  have hlasting := hadded.lasting_append f.locals
  refine ⟨hlasting ▸ h.keys.append hnew, fun v hv => ?_⟩
  rw [hlasting] at hv
  rcases List.mem_append.1 hv with hold | hadd
  · exact (h.mono (Nat.le_succ number)).line_lt v hold
  · rw [hadded.startLine v hadd]
    omega

/-- What an open function declares in front of a line, it declares on the line above or before. -/
theorem Distinct.declaredBy {number : Nat} (h : f.Distinct (number + 1)) {v : Variable}
    (hv : v ∈ lasting f.locals) : DeclaredBy number v.key f.locals :=
  ⟨v, hv, rfl, Int.lt_add_one_iff.1 (h.line_lt v hv)⟩

end FunctionDraft

/-! ## Drafts -/

/-- A key is declared in a scope so far: among the symbols, or by the function that is open. -/
def DeclaresSoFar (own : List Symbol) (spliced : List (Nat × List Symbol))
    (opened : Option FunctionDraft) (line : Nat) (key : Text) (owner : Option Nat) : Prop :=
  ScopeDeclares own spliced line key owner ∨
    ∃ f, opened = some f ∧ owner = some f.line ∧ DeclaredBy line key f.locals

/-- A draft in front of a line declares a name once, and every name that is `listed` is declared in
its scope. Its symbols are the file's `own` and those that includes yielded. -/
structure Draft.Distinct (bound : Nat) (own : List Symbol) (spliced : List (Nat × List Symbol))
    (listed : Nat → Text → Option Nat → Prop) (draft : Draft) : Prop where
  /-- The symbols are those of the file and those spliced in. -/
  symbols : draft.symbols.Perm (own ++ spliced.flatMap Prod.snd)
  /-- The includes stand in front of the line. -/
  splice_lt : ∀ splice ∈ spliced, splice.1 < bound
  /-- The file declares a variable once. -/
  top : DistinctKeys (lasting (topVariables own))
  /-- The variables of the file stand in front of the line. -/
  line_lt : ∀ v ∈ lasting (topVariables own), v.range.startLine < bound
  /-- What the file declares behind an include has other names than what the include yields. -/
  behind : ∀ v ∈ lasting (topVariables own), ∀ splice ∈ spliced,
    (splice.1 : Int) ≤ v.range.startLine → ∀ w ∈ lasting (topVariables splice.2), w.key ≠ v.key
  /-- Functions and types declare what they own once. -/
  members : ∀ symbol ∈ own, symbol.MembersDistinct
  /-- The open function declares a local once. -/
  openFunction : ∀ f, draft.openFunction = some f → f.Distinct bound
  /-- The open type declares a field once. -/
  openType : ∀ t, draft.openType = some t → DistinctKeys t.fields
  /-- What is listed is declared. -/
  complete : ∀ line key owner, listed line key owner →
    DeclaresSoFar own spliced draft.openFunction line key owner

namespace Draft

variable {source : Source} {bound bound' number last line : Nat} {key : Text} {owner : Option Nat}
  {own : List Symbol} {spliced : List (Nat × List Symbol)} {draft next : Draft}
  {listed : Nat → Text → Option Nat → Prop}

/-- Behind the line above another function, no function is open. -/
theorem openFunction_endFunction (draft : Draft) (source : Source) (number : Nat) :
    (draft.endFunction source number).openFunction = none := by
  unfold endFunction
  split
  · obtain ⟨symbols, hclosed⟩ := draft.closeFunction_eq source _
    rw [hclosed]
  · assumption

/-- Closing loops of the top level leaves the open function. -/
theorem openFunction_closeTopLoops (draft : Draft) (source : Source) (last count : Nat) :
    (draft.closeTopLoops source last count).openFunction = draft.openFunction := by
  induction count generalizing draft with
  | zero => rfl
  | succ count ih =>
    obtain ⟨symbols, hclosed⟩ := draft.closeTopLoop_eq source last
    rw [closeTopLoops, ih, hclosed]

namespace Distinct

/-- Before the first line, nothing is declared, and nothing is listed. -/
theorem empty (hlisted : ∀ line key owner, ¬ listed line key owner) :
    Draft.Distinct 0 [] [] listed .empty where
  symbols := .nil
  splice_lt _ := (nomatch ·)
  top := .nil
  line_lt _ := (nomatch ·)
  behind _ := (nomatch ·)
  members _ := (nomatch ·)
  openFunction _ := (nomatch ·)
  openType _ := (nomatch ·)
  complete line key owner h := absurd h (hlisted line key owner)

/-- What is distinct in front of a line is so in front of a later one. -/
theorem mono (h : draft.Distinct bound own spliced listed) (hle : bound ≤ bound') :
    draft.Distinct bound' own spliced listed where
  symbols := h.symbols
  splice_lt splice hsplice := Nat.lt_of_lt_of_le (h.splice_lt splice hsplice) hle
  top := h.top
  line_lt v hv := by
    have hlt := h.line_lt v hv
    omega
  behind := h.behind
  members := h.members
  openFunction f hf := (h.openFunction f hf).mono hle
  openType := h.openType
  complete := h.complete

/-- More may be listed if it is declared. -/
theorem list {listed' : Nat → Text → Option Nat → Prop}
    (h : draft.Distinct bound own spliced listed)
    (hlisted : ∀ line key owner, listed' line key owner →
      listed line key owner ∨ DeclaresSoFar own spliced draft.openFunction line key owner) :
    draft.Distinct bound own spliced listed' :=
  { h with
    complete := fun line key owner hlist =>
      (hlisted line key owner hlist).elim (h.complete line key owner) id }

/-- Neither documentation nor open loops matter. -/
theorem withOthers (h : draft.Distinct bound own spliced listed) (doc : DocBlock)
    (loops : List OpenLoop) :
    Draft.Distinct bound own spliced listed { draft with doc, loops } :=
  ⟨h.symbols, h.splice_lt, h.top, h.line_lt, h.behind, h.members, h.openFunction, h.openType,
    h.complete⟩

/-- The open function may have more locals. -/
theorem withFunction (h : draft.Distinct bound own spliced listed) {f g : FunctionDraft}
    (hf : draft.openFunction = some f) (hg : g.Distinct bound) (hline : g.line = f.line)
    (hsub : lasting f.locals ⊆ lasting g.locals) :
    Draft.Distinct bound own spliced listed { draft with openFunction := some g } :=
  { h with
    openFunction := fun _ heq => Option.some.inj heq ▸ hg
    complete := fun line key owner hlisted => by
      rcases h.complete line key owner hlisted with hscope | ⟨f', hf', howner, hdeclared⟩
      · exact .inl hscope
      · obtain rfl := Option.some.inj (hf.symm.trans hf')
        exact .inr ⟨g, rfl, hline ▸ howner, hdeclared.mono hsub⟩ }

/-- A function is opened where none is open. -/
theorem newFunction (h : draft.Distinct bound own spliced listed)
    (hnone : draft.openFunction = none) {f : FunctionDraft} (hf : f.Distinct bound) :
    Draft.Distinct bound own spliced listed { draft with openFunction := some f } :=
  { h with
    openFunction := fun _ heq => Option.some.inj heq ▸ hf
    complete := fun line key owner hlisted => by
      rcases h.complete line key owner hlisted with hscope | ⟨f', hf', -⟩
      · exact .inl hscope
      · rw [hnone] at hf'
        cases hf' }

/-- The open type may be another one. -/
theorem withType (h : draft.Distinct bound own spliced listed) {t : TypeDraft}
    (ht : DistinctKeys t.fields) :
    Draft.Distinct bound own spliced listed { draft with openType := some t } :=
  { h with openType := fun _ heq => Option.some.inj heq ▸ ht }

/-- A symbol of the file that is no variable, or an iterator, is added anywhere. -/
theorem insert (h : draft.Distinct bound own spliced listed) {symbol : Symbol}
    {symbols : List Symbol} (hsymbols : symbols.Perm (symbol :: draft.symbols))
    (hother : lasting (topVariables [symbol]) = []) (hmembers : symbol.MembersDistinct) :
    Draft.Distinct bound (own ++ [symbol]) spliced listed { draft with symbols } := by
  have hown : lasting (topVariables (own ++ [symbol])) = lasting (topVariables own) := by
    rw [topVariables_append, lasting_append, hother, List.append_nil]
  exact
    { h with
      symbols := by
        refine hsymbols.trans ((h.symbols.cons symbol).trans ?_)
        rw [List.append_assoc]
        exact List.perm_middle.symm
      top := hown ▸ h.top
      line_lt := hown ▸ h.line_lt
      behind := hown ▸ h.behind
      members := List.forall_mem_append.2 ⟨h.members, List.forall_mem_singleton.2 hmembers⟩
      complete := fun line key owner hlisted => (h.complete line key owner hlisted).imp_left
        fun hscope => hscope.of_subset (List.subset_append_left _ _) }

/-- A symbol of the file that is no variable is added behind all others. -/
theorem concat (h : draft.Distinct bound own spliced listed) {symbol : Symbol}
    (hother : topVariables [symbol] = []) (hmembers : symbol.MembersDistinct) :
    Draft.Distinct bound (own ++ [symbol]) spliced listed
      { draft with symbols := draft.symbols ++ [symbol] } :=
  h.insert (List.perm_append_singleton symbol draft.symbols) (by rw [hother]; rfl) hmembers

/-- The variables of the top level are those of the file and those that includes yielded. -/
theorem mem_lasting_topVariables (h : draft.Distinct bound own spliced listed) {v : Variable} :
    v ∈ lasting (topVariables draft.symbols) ↔ v ∈ lasting (topVariables own) ∨
      ∃ splice ∈ spliced, v ∈ lasting (topVariables splice.2) := by
  simp only [mem_lasting, mem_topVariables, h.symbols.mem_iff, List.mem_append, List.mem_flatMap]
  grind

/-- The variables of a line that have new keys are added at the top level. -/
theorem addVariables (h : draft.Distinct number own spliced listed) {parts : List Part}
    {added : List Variable} (hadded : ListedOn number added)
    (hnew : Introduces parts (lasting (topVariables draft.symbols)) added) :
    Draft.Distinct (number + 1) (own ++ added.map .ofVariable) spliced listed
      { draft with symbols := draft.symbols ++ added.map .ofVariable } := by
  have hown : lasting (topVariables (own ++ added.map .ofVariable)) =
      lasting (topVariables own) ++ added := by
    rw [topVariables_append, topVariables_map_ofVariable, hadded.lasting_append]
  have hnext := h.mono (Nat.le_succ number)
  -- the new keys are new to the file and to its includes, as both are known
  exact
    { hnext with
      symbols := by
        refine (h.symbols.append_right _).trans ?_
        rw [List.append_assoc, List.append_assoc]
        exact List.perm_append_comm.append_left own
      top := by
        rw [hown]
        refine List.pairwise_append.2 ⟨h.top, hnew.distinct, fun w hw v hv => ?_⟩
        exact hnew.fresh v hv w (h.mem_lasting_topVariables.2 (.inl hw))
      line_lt := by
        rw [hown]
        refine List.forall_mem_append.2 ⟨hnext.line_lt, fun v hv => ?_⟩
        rw [hadded.startLine v hv]
        omega
      behind := by
        rw [hown]
        refine List.forall_mem_append.2 ⟨h.behind, fun v hv splice hsplice _ w hw => ?_⟩
        exact hnew.fresh v hv w (h.mem_lasting_topVariables.2 (.inr ⟨splice, hsplice, hw⟩))
      members := by
        refine List.forall_mem_append.2 ⟨h.members, fun symbol hsymbol => ?_⟩
        obtain ⟨v, -, rfl⟩ := List.mem_map.1 hsymbol
        trivial
      complete := fun line key owner hlisted => (h.complete line key owner hlisted).imp_left
        fun hscope => hscope.of_subset (List.subset_append_left _ _) }

/-- What the include on the next line yields is added. -/
theorem splice (h : draft.Distinct number own spliced listed) (found : List Symbol) :
    Draft.Distinct (number + 1) own (spliced ++ [(number, found)]) listed
      { draft with symbols := draft.symbols ++ found } := by
  have hnext := h.mono (Nat.le_succ number)
  exact
    { hnext with
      symbols := by
        rw [List.flatMap_append, List.flatMap_singleton, ← List.append_assoc]
        exact h.symbols.append_right found
      splice_lt := List.forall_mem_append.2 ⟨hnext.splice_lt,
        List.forall_mem_singleton.2 (Nat.lt_succ_self number)⟩
      behind := fun v hv => List.forall_mem_append.2 ⟨h.behind v hv,
        List.forall_mem_singleton.2 fun hle => by
          -- what the file has declared so far stands in front of the include
          have hlt := h.line_lt v hv
          omega⟩
      complete := fun line key owner hlisted => (h.complete line key owner hlisted).imp_left
        fun hscope => hscope.splice [(number, found)] }

/-! ## Closing -/

/-- The innermost loop of the top level is closed. -/
theorem closeTopLoop (h : draft.Distinct bound own spliced listed) (source : Source) (last : Nat) :
    ∃ own, (draft.closeTopLoop source last).Distinct bound own spliced listed := by
  unfold Draft.closeTopLoop
  split
  · exact ⟨own, h⟩
  · exact ⟨own, h.withOthers draft.doc _⟩
  · next iterator loops hloops =>
    have hothers := h.withOthers draft.doc loops
    rcases Nat.lt_or_ge draft.symbols.length iterator.slot with hlt | hle
    · -- an iterator whose place does not exist is lost
      rw [List.insertIdx_of_length_lt hlt]
      exact ⟨own, hothers⟩
    · exact ⟨_, hothers.insert (List.perm_insertIdx _ _ hle) (lasting_singleton_iterator rfl)
        trivial⟩

/-- Some loops of the top level are closed. -/
theorem closeTopLoops (h : draft.Distinct bound own spliced listed) (source : Source)
    (last count : Nat) :
    ∃ own, (draft.closeTopLoops source last count).Distinct bound own spliced listed := by
  induction count generalizing draft own with
  | zero => exact ⟨own, h⟩
  | succ count ih =>
    obtain ⟨own, hclosed⟩ := h.closeTopLoop source last
    exact ih hclosed

/-- The innermost loop is closed. -/
theorem closeLoop (h : draft.Distinct bound own spliced listed) (source : Source) (last : Nat) :
    ∃ own, (draft.closeLoop source last).Distinct bound own spliced listed := by
  unfold Draft.closeLoop
  split
  · next f hf =>
    have hopen := h.openFunction f hf
    have hlasting := f.lasting_closeLoop source last
    obtain ⟨locals, hclosed⟩ := f.closeLoop_eq source last
    refine ⟨own, h.withFunction hf ⟨?_, ?_⟩ (by rw [hclosed]) ?_⟩ <;> rw [hlasting]
    · exact hopen.keys
    · exact hopen.line_lt
    · exact fun _ hv => hv
  · exact h.closeTopLoop source last

/-- The open function is closed. -/
theorem closeFunction (h : draft.Distinct bound own spliced listed) (source : Source)
    (last : Nat) :
    ∃ own, (draft.closeFunction source last).Distinct bound own spliced listed := by
  unfold Draft.closeFunction
  split
  · next f hf =>
    have hlasting := f.lasting_finish source last
    have hmembers : (Symbol.ofFunction (f.finish source last)).MembersDistinct := by
      rw [Symbol.MembersDistinct, hlasting]
      exact (h.openFunction f hf).keys
    have hconcat := h.concat rfl hmembers
    refine ⟨_, { hconcat with
      openFunction := fun _ => nofun
      complete := fun line key owner hlisted => ?_ }⟩
    -- what the open function declared, the finished one declares
    rcases hconcat.complete line key owner hlisted with hscope | ⟨g, hg, rfl, hdeclared⟩
    · exact .inl hscope
    · obtain rfl := Option.some.inj (hf.symm.trans hg)
      refine .inl ⟨_, List.mem_append_right _ List.mem_cons_self, ?_, hdeclared.mono ?_⟩
      · rw [f.finish_eq]
        rfl
      · rw [hlasting]
        exact fun _ hv => hv
  · exact ⟨own, h⟩

/-- The open type is closed. -/
theorem closeType (h : draft.Distinct bound own spliced listed) (source : Source) (last : Nat) :
    ∃ own, (draft.closeType source last).Distinct bound own spliced listed := by
  unfold Draft.closeType
  split
  · next t ht =>
    have hmembers : (Symbol.ofType (t.finish source last)).MembersDistinct := h.openType t ht
    have hconcat := h.concat rfl hmembers
    exact ⟨_, { hconcat with openType := fun _ => nofun }⟩
  · exact ⟨own, h⟩

/-- The open function is closed in front of a line that opens another one. -/
theorem endFunction (h : draft.Distinct bound own spliced listed) (source : Source)
    (number : Nat) :
    ∃ own, (draft.endFunction source number).Distinct bound own spliced listed := by
  unfold Draft.endFunction
  split
  · exact h.closeFunction source _
  · exact ⟨own, h⟩

/-- The open type is closed in front of a line that opens another one. -/
theorem endType (h : draft.Distinct bound own spliced listed) (source : Source) (number : Nat) :
    ∃ own, (draft.endType source number).Distinct bound own spliced listed := by
  unfold Draft.endType
  split
  · exact h.closeType source _
  · exact ⟨own, h⟩

/-! ## Lines -/

/-- Every line that is no include declares a name once, and declares all that it lists. -/
theorem change (h : draft.Distinct number own spliced listed) {statement : Statement}
    (hchange : draft.Change source number statement next) :
    ∃ own, next.Distinct (number + 1) own spliced listed ∧
      ∀ part ∈ statement.declaredParts, DeclaresSoFar own spliced next.openFunction number part.key
        (next.openFunction.map FunctionDraft.line) := by
  have hmono := h.mono (Nat.le_succ number)
  -- most statements list nothing
  have hnone {next : Draft} {statement : Statement} (hparts : statement.declaredParts = [])
      (hnext : ∃ own, next.Distinct (number + 1) own spliced listed) :
      ∃ own, next.Distinct (number + 1) own spliced listed ∧
        ∀ part ∈ statement.declaredParts, DeclaresSoFar own spliced next.openFunction number
          part.key (next.openFunction.map FunctionDraft.line) := by
    obtain ⟨own, hown⟩ := hnext
    rw [hparts]
    exact ⟨own, hown, fun _ => (nomatch ·)⟩
  cases hchange with
  | remark _ hparts doc => exact hnone hparts ⟨own, hmono.withOthers doc draft.loops⟩
  | @locals _ f added _ hf hadded hnew =>
    have hopen := (h.openFunction f hf).append hadded hnew
    have hlasting := hadded.lasting_append f.locals
    refine ⟨own, hmono.withFunction hf hopen rfl ?_, fun part hpart => .inr ⟨_, rfl, rfl, ?_⟩⟩
    · rw [hlasting]
      exact List.subset_append_left _ _
    · obtain ⟨v, hv, hkey⟩ := hnew.complete part hpart
      rw [← hlasting] at hv
      exact hkey ▸ hopen.declaredBy hv
  | @topVariables _ added _ hf hadded hnew =>
    have hadd := h.addVariables hadded hnew
    refine ⟨_, hadd, fun part hpart => .inl ?_⟩
    obtain ⟨v, hv, hkey⟩ := hnew.complete part hpart
    have hmem : v ∈ lasting (topVariables (draft.symbols ++ added.map .ofVariable)) := by
      rwa [topVariables_append, topVariables_map_ofVariable, hadded.lasting_append]
    dsimp only
    rw [hf]
    -- a part that was dropped is known to the file or to one of its includes
    rcases hadd.mem_lasting_topVariables.1 hmem with hown | ⟨splice, hsplice, hmem⟩
    · exact .inl ⟨v, hown, hkey, Int.lt_add_one_iff.1 (hadd.line_lt v hown)⟩
    · exact .inr ⟨splice, hsplice, h.splice_lt splice hsplice, v, hmem, hkey⟩
  | label _ hparts => exact hnone hparts ⟨_, hmono.concat rfl trivial⟩
  | @fields _ t added _ hparts ht hadded hnew =>
    exact hnone hparts ⟨own, hmono.withType ((h.openType t ht).append hnew)⟩
  | endType => exact hnone rfl (hmono.closeType source number)
  | newType doc _ hfields =>
    obtain ⟨own, hclosed⟩ := hmono.endType source number
    refine hnone rfl ⟨own, (hclosed.withOthers doc _).withType ?_⟩
    rw [hfields]
    exact .nil
  | @localLoop _ _ _ f loop closed hf hloop =>
    have hopen := hmono.openFunction f hf
    have hopened := hmono.withFunction (g := { f with loops := loop :: f.loops }) hf
      ⟨hopen.keys, hopen.line_lt⟩ rfl fun _ hv => hv
    refine hnone rfl ?_
    split
    · exact hopened.closeLoop source number
    · exact ⟨own, hopened⟩
  | @topLoop _ _ _ loop closed hf hloop =>
    have hopened := hmono.withOthers draft.doc (loop :: draft.loops)
    refine hnone rfl ?_
    split
    · exact hopened.closeLoop source number
    · exact ⟨own, hopened⟩
  | endLoop => exact hnone rfl (hmono.closeLoop source number)
  | endFunction => exact hnone rfl (hmono.closeFunction source number)
  | @newFunction _ _ _ _ f doc hline hloops hlocals hnew =>
    obtain ⟨own, hclosed⟩ := hmono.endFunction source number
    have hlasting := lasting_eq_self hlocals.isIterator
    have hopen : f.Distinct (number + 1) := by
      refine ⟨hlasting.symm ▸ hnew.distinct, fun v hv => ?_⟩
      rw [hlocals.startLine v (hlasting ▸ hv)]
      omega
    have hended := draft.openFunction_endFunction source number
    refine ⟨own, (hclosed.withOthers doc _).newFunction hended hopen,
      fun part hpart => .inr ⟨_, rfl, rfl, ?_⟩⟩
    obtain ⟨v, hv, hkey⟩ := hnew.complete part hpart
    rw [List.nil_append, ← hlasting] at hv
    exact hkey ▸ hopen.declaredBy hv

/-- When the file ends, what is still open is closed. -/
theorem finish (h : draft.Distinct bound own spliced listed) (source : Source) :
    ∃ (last : Draft) (own : List Symbol), draft.finish source = last.symbols ∧
      last.openFunction = none ∧ last.Distinct bound own spliced listed := by
  obtain ⟨_, hfunction⟩ := h.closeFunction source source.lastLine
  obtain ⟨_, htype⟩ := hfunction.closeType source source.lastLine
  obtain ⟨own, hloops⟩ := htype.closeTopLoops source source.lastLine
    ((draft.closeFunction source source.lastLine).closeType source source.lastLine).loops.length
  refine ⟨_, own, rfl, ?_, hloops⟩
  obtain ⟨_, hclosed⟩ := draft.closeFunction_eq source source.lastLine
  obtain ⟨_, hclosed'⟩ := (draft.closeFunction source source.lastLine).closeType_eq source
    source.lastLine
  rw [openFunction_closeTopLoops, hclosed', hclosed]

end Distinct

end Draft

/-! ## Files -/

/-- What a scan yields declares every name once, and nothing that is listed is lost: `batches` tells
what the file declares from what its includes yield. Loop iterators do not count. -/
structure Source.DeclaresOnce (source : Source) (found : List Symbol) (batches : List Batch) :
    Prop where
  /-- A function declares a local once, parameters included. -/
  locals : ∀ f : Function, .ofFunction f ∈ found → DistinctKeys (lasting f.locals)
  /-- A type declares a field once. -/
  fields : ∀ t : RecordType, .ofType t ∈ found → DistinctKeys t.fields
  /-- A variable that the file declares at the top level has another name than every variable in
  front of it, of the file or of an include. -/
  first : batches.Pairwise fun batch later => ∀ w : Variable,
    later = .own (.ofVariable w) → w.isIterator = false →
      ∀ v ∈ lasting (topVariables batch.symbols), v.key ≠ w.key
  /-- What a line lists, its scope declares on the line, in front of it, or by an include in front
  of it. -/
  complete : ∀ line key owner, source.Lists source.lines.length line key owner →
    ScopeDeclares (batches.filterMap Batch.own?) (batches.filterMap Batch.splice?) line key owner

section Files

variable {source : Source} {fetch : Text → Except ExtractError (List Symbol)}
  {own found : List Symbol} {spliced : List (Nat × List Symbol)} {draft next : Draft}
  {batches : List Batch}

/-- A line declares a name once, and declares all that it lists. -/
theorem Draft.Distinct.afterLine {number : Nat} {line : Text}
    (h : draft.Distinct number own spliced (source.Lists number))
    (hline : source.lines[number]? = some line)
    (hfunction : source.functionAt (number + 1) = next.openFunction.map FunctionDraft.line)
    (hnext : draft.afterLine source fetch (line, number) = .ok next) :
    ∃ own, next.Distinct (number + 1) own (spliced ++ splicesOf fetch [(line, number)])
      (source.Lists (number + 1)) := by
  have hstatement : source.statements[number]? = some (Statement.read line) := by
    rw [Source.statements, List.getElem?_map, hline, Option.map_some]
  -- what is listed was listed in front of the line, or the line lists it
  have hlisted {own : List Symbol} {spliced : List (Nat × List Symbol)}
      (hdistinct : next.Distinct (number + 1) own spliced (source.Lists number))
      (hparts : ∀ part ∈ (Statement.read line).declaredParts,
        DeclaresSoFar own spliced next.openFunction number part.key
          (next.openFunction.map FunctionDraft.line)) :
      next.Distinct (number + 1) own spliced (source.Lists (number + 1)) := by
    refine hdistinct.list fun other key owner hlist => ?_
    obtain ⟨hlt, howner, statement, hother, part, hpart, rfl⟩ := hlist
    rcases Nat.lt_succ_iff_lt_or_eq.1 hlt with hbefore | rfl
    · exact .inl ⟨hbefore, howner, statement, hother, part, hpart, rfl⟩
    · obtain rfl := Option.some.inj (hstatement.symm.trans hother)
      rw [← howner, hfunction]
      exact .inr (hparts part hpart)
  rcases Draft.afterLine_cases hnext with ⟨htarget, hstep⟩ | ⟨target, result, htarget, hresult, rfl⟩
  · obtain ⟨own, hdistinct, hparts⟩ :=
      h.change (Draft.change_of_step (Statement.wellPlaced_read line) hstep)
    simp only [splicesOf, htarget, List.filterMap_cons, List.filterMap_nil, Option.map_none,
      Option.bind_none, List.append_nil]
    exact ⟨own, hlisted hdistinct hparts⟩
  · simp only [splicesOf, htarget, hresult, List.filterMap_cons, List.filterMap_nil,
      Option.map_some, Option.bind_some, Except.toOption]
    refine ⟨own, hlisted (h.splice result) fun part hpart => ?_⟩
    rw [Statement.eq_includeFile htarget] at hpart
    cases hpart

/-- What a file declares itself is declared once, and it is all that is listed. -/
theorem Source.exists_distinct (h : source.outcome fetch = .ok found) :
    ∃ (last : Draft) (own : List Symbol), found = last.symbols ∧ last.openFunction = none ∧
      last.Distinct source.lines.length own (source.splices fetch)
        (source.Lists source.lines.length) := by
  -- which function is open is known along with the loops
  obtain ⟨draft, ⟨-, _, hdistinct⟩, rfl⟩ := source.exists_draft_of_outcome
    (P := fun number draft =>
      (∃ own spliced, draft.LoopsMatched source number own spliced) ∧
      ∃ own, draft.Distinct number own ((source.front number).splices fetch) (source.Lists number))
    ⟨⟨_, _, .empty source⟩, _, .empty fun _ _ _ hlist => Nat.not_lt_zero _ hlist.1⟩
    (fun number line draft next hline hnext hdraft => by
      obtain ⟨⟨_, _, hmatched⟩, _, hdistinct⟩ := hdraft
      obtain ⟨_, hmatched⟩ := hmatched.afterLine hline hnext
      rw [splices_front_succ hline]
      exact ⟨⟨_, _, hmatched⟩, hdistinct.afterLine hline hmatched.functionAt hnext⟩) h
  rw [front_length] at hdistinct
  exact hdistinct.finish source

/-- In a file without includes, no two variables of the top level other than loop iterators have one
key, and no two fields of a type. -/
theorem Source.distinct_of_outcome
    (hincludes : ∀ line ∈ source.lines, (Statement.read line).target? = none)
    (h : source.outcome fetch = .ok found) :
    DistinctKeys (lasting (topVariables found)) ∧
      ∀ t : RecordType, .ofType t ∈ found → DistinctKeys t.fields := by
  obtain ⟨last, own, rfl, -, hdistinct⟩ := exists_distinct h
  have hperm := hdistinct.symbols
  rw [source.flatMap_splices, source.inclusions_eq_nil hincludes, List.append_nil] at hperm
  exact ⟨hdistinct.top.perm (((hperm.filterMap _).filter _).symm), fun t ht =>
    hdistinct.members _ (hperm.mem_iff.1 ht)⟩

/-- The functions and types of a file declare what they own once, if those of its includes do. -/
theorem Source.membersDistinct_of_outcome
    (hfetch : ∀ symbol ∈ source.inclusions fetch, symbol.MembersDistinct)
    (h : source.outcome fetch = .ok found) : ∀ symbol ∈ found, symbol.MembersDistinct := by
  obtain ⟨last, own, rfl, -, hdistinct⟩ := exists_distinct h
  intro symbol hsymbol
  rcases List.mem_append.1 (hdistinct.symbols.mem_iff.1 hsymbol) with hown | hspliced
  · exact hdistinct.members symbol hown
  · rw [source.flatMap_splices] at hspliced
    exact hfetch symbol hspliced

/-- A file whose symbols are arranged in batches declares every name once and loses none. -/
theorem Source.Arranges.declaresOnce (harranges : source.Arranges fetch found batches)
    (hmembers : ∀ symbol ∈ found, symbol.MembersDistinct)
    (h : source.outcome fetch = .ok found) : source.DeclaresOnce found batches := by
  obtain ⟨last, own, hfound, hnone, hdistinct⟩ := exists_distinct h
  have hown : own.Perm (batches.filterMap Batch.own?) := by
    have hperm := hdistinct.symbols
    have hbatches := Batch.symbols_perm batches
    rw [harranges.splices, ← harranges.symbols, hfound] at hbatches
    exact (List.perm_append_right_iff _).1 (hperm.symm.trans hbatches)
  have hmem {v : Variable} (hv : .own (.ofVariable v) ∈ batches) (hlasts : v.isIterator = false) :
      v ∈ lasting (topVariables own) :=
    mem_lasting.2 ⟨mem_topVariables.2 (hown.mem_iff.2 (List.mem_filterMap.2 ⟨_, hv, rfl⟩)), hlasts⟩
  -- what the file declares itself stands in the batches in another order
  have htop : batches.Pairwise fun batch later => ∀ v w : Variable,
      batch = .own (.ofVariable v) → later = .own (.ofVariable w) → v.isIterator = false →
        w.isIterator = false → v.key ≠ w.key := by
    have htop := hdistinct.top.perm ((hown.filterMap _).filter _)
    rw [DistinctKeys, List.pairwise_filter, List.filterMap_filterMap,
      List.pairwise_filterMap] at htop
    refine htop.imp fun {batch later} hne v w hv hw hlasts hlasts' => ?_
    subst hv hw
    exact hne v rfl w rfl (by simp [hlasts]) (by simp [hlasts'])
  refine ⟨fun f hf => hmembers _ hf, fun t ht => hmembers _ ht, ?_, fun line key owner hlist => ?_⟩
  · refine (harranges.lines.and htop).imp_of_mem fun {batch later} hbatch hlater hpair w hw hlasts
      v hv => ?_
    obtain ⟨hle, hne⟩ := hpair
    subst hw
    obtain ⟨hv, hlasts'⟩ := mem_lasting.1 hv
    cases batch with
    | own symbol =>
      -- an earlier variable of the file, which differs anyway
      obtain rfl := List.mem_singleton.1 (mem_topVariables.1 hv)
      exact hne v w rfl rfl hlasts' hlasts
    | spliced line symbols =>
      have hsplice : (line, symbols) ∈ source.splices fetch := by
        rw [← harranges.splices]
        exact List.mem_filterMap.2 ⟨_, hbatch, rfl⟩
      exact hdistinct.behind w (hmem hlater hlasts) _ hsplice hle v (mem_lasting.2 ⟨hv, hlasts'⟩)
  · rw [harranges.splices]
    rcases hdistinct.complete line key owner hlist with hscope | ⟨f, hf, -⟩
    · exact hscope.of_subset hown.subset
    · rw [hnone] at hf
      cases hf

end Files

/-! ## Scans -/

namespace Visit

variable {disk : Disk} {rules : IncludeRules} {visit : Visit} {found : List Symbol}

/-- In every scan that yields symbols, of a document or of a file that is included, the first
declaration of a name wins in its scope, and no name that is listed is lost. -/
theorem declares_once (h : visit.outcome disk rules = .ok found) :
    ∃ batches, visit.source.Arranges (visit.fetch disk rules) found batches ∧
      visit.source.DeclaresOnce found batches := by
  have hmembers : ∀ symbol ∈ found, symbol.MembersDistinct :=
    forall_mem_of_inclusions (fun _ _ h hfetch => Source.membersDistinct_of_outcome hfetch h) h
  have hinclusions : ∀ symbol ∈ visit.source.inclusions (visit.fetch disk rules),
      symbol.MembersInOrder := by
    intro symbol hmem
    obtain ⟨_, _, _, _, _, _, _, hresult, hsymbol⟩ := exists_of_mem_inclusions hmem
    exact membersInOrder hresult symbol hsymbol
  rw [outcome_eq] at h
  obtain ⟨batches, harranges⟩ :=
    Source.exists_arranges (Text.linesAfter_ne_nil false visit.text) hinclusions h
  exact ⟨batches, harranges, harranges.declaresOnce hmembers h⟩

/-- A parameter and a local that are declared again, a variable that an include has yielded already,
and a loop whose iterator is listed in front of the variable of its name. -/
theorem declares_once_around_include :
    let disk := Disk.ofFile "lib.bb" (Encoding.encodeUtf8 "Global a, b") 1
    let rules : IncludeRules := ⟨[], true, 2⟩
    let text : Text := "Function f(x, X)\nLocal y, x, Y\nEnd Function\nFor d = 1 To 2" ++
      "\nInclude \"lib.bb\"\nGlobal a, d, D\nNext"
    let visit := Visit.document disk rules "main.bb" text
    ∃ found batches, (extract disk rules "main.bb" text).1 = .ok found ∧
      (found.map (fun symbol => symbol.declared.name) = [['f'], ['d'], ['a'], ['b'], ['d']] ∧
        (found.filterMap Symbol.asFunction?).map (fun f => f.locals.map fun v => v.name) =
          [[['x'], ['y']]]) ∧
      visit.source.Arranges (visit.fetch disk rules) found batches ∧
      visit.source.DeclaresOnce found batches := by
  intro disk rules text visit
  have hnames : (extract disk rules "main.bb" text).1.toOption.map (fun found =>
      (found.map (fun symbol => symbol.declared.name),
        (found.filterMap Symbol.asFunction?).map (fun f => f.locals.map fun v => v.name))) =
      some ([['f'], ['d'], ['a'], ['b'], ['d']], [[['x'], ['y']]]) := by
    decide +kernel
  obtain ⟨found, hfound, hnames⟩ := exists_of_map_toOption hnames
  have hvisit := hfound
  rw [extract_fst] at hvisit
  obtain ⟨batches, harranges, honce⟩ := declares_once hvisit
  exact ⟨found, batches, hfound, Prod.mk.inj hnames, harranges, honce⟩

end Visit

end BlitzLens
