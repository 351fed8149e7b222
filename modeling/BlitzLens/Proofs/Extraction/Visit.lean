import BlitzLens.Proofs.Extraction.Dependencies

/-!
# Visits

A pass visits the document and, through includes, other files. What a visit yields depends on
nothing but the visit: `Visit.outcome_eq` says how it is found line by line, with the trace of the
pass left out, and `extract_fst` that the outcome of a document is that of its first visit. The
visits of a pass are those that `Visit.Reaches` leads to.

Invariants come in two directions. What every line of a file keeps holds behind its last line
(`Source.exists_draft_of_outcome`), and what a visit inherits from the visits that its includes lead
to holds of all visits (`Visit.nestedInduction`).
-/

namespace BlitzLens

/-! ## Sequences that succeed -/

/-- A sequence succeeds if its first part does, and its second part for the result of the first. -/
theorem exists_of_bind_eq_ok {ε α β : Type} {first : Except ε α} {next : α → Except ε β} {b : β}
    (h : first >>= next = .ok b) : ∃ a, first = .ok a ∧ next a = .ok b := by
  cases first with
  | error error => cases h
  | ok a => exact ⟨a, rfl, h⟩

/-- What is no failure is a result. -/
theorem exists_eq_ok_of_isOk {ε α : Type} {result : Except ε α} (h : result.isOk = true) :
    ∃ a, result = .ok a := by
  cases result with
  | error error => cases h
  | ok a => exact ⟨a, rfl⟩

/-- What is told of a result is told of no failure. -/
theorem exists_of_map_toOption {ε α β : Type} {result : Except ε α} {f : α → β} {b : β}
    (h : result.toOption.map f = some b) : ∃ a, result = .ok a ∧ f a = b := by
  cases result with
  | error error => cases h
  | ok a => exact ⟨a, rfl, Option.some.inj h⟩

/-- Two runs side by side: what holds between the states before the first elements, and is kept by
every pair of elements at one place, holds behind the last elements. -/
theorem rel_foldlM_zipIdx {ε α β σ τ : Type} {R : Nat → σ → τ → Prop}
    {step : σ → α × Nat → Except ε σ} {step' : τ → β × Nat → Except ε τ} {list : List α}
    {list' : List β} {start : Nat} {s last : σ} {t last' : τ} (hlength : list.length = list'.length)
    (hstep : ∀ index a b s t next next', list[index]? = some a → list'[index]? = some b →
      R (start + index) s t → step s (a, start + index) = .ok next →
      step' t (b, start + index) = .ok next' → R (start + index + 1) next next')
    (h : R start s t) (hlast : (list.zipIdx start).foldlM step s = .ok last)
    (hlast' : (list'.zipIdx start).foldlM step' t = .ok last') :
    R (start + list.length) last last' := by
  induction list generalizing list' start s t with
  | nil =>
    cases List.length_eq_zero_iff.1 hlength.symm
    cases hlast
    cases hlast'
    exact h
  | cons a list ih =>
    obtain ⟨b, list', rfl⟩ := List.exists_cons_of_length_eq_add_one hlength.symm
    rw [List.zipIdx_cons, List.foldlM_cons] at hlast hlast'
    obtain ⟨next, hnext, hlast⟩ := exists_of_bind_eq_ok hlast
    obtain ⟨next', hnext', hlast'⟩ := exists_of_bind_eq_ok hlast'
    have hfirst := hstep 0 a b s t next next' rfl rfl h hnext hnext'
    have hrest := ih (Nat.succ.inj hlength) (fun index c d s t n n' hc hd hR hn hn' => by
      have hsucc : start + 1 + index = start + (index + 1) := by omega
      rw [hsucc] at hR hn hn' ⊢
      exact hstep (index + 1) c d s t n n' hc hd hR hn hn') hfirst hlast hlast'
    rwa [Nat.add_assoc, Nat.add_comm 1] at hrest

/-- The first elements of a list with their places, and one element more. -/
theorem zipIdx_take_succ {α : Type} {list : List α} {index : Nat} {a : α}
    (h : list[index]? = some a) :
    (list.take (index + 1)).zipIdx = (list.take index).zipIdx ++ [(a, index)] := by
  have hlength : (list.take index).length = index :=
    List.length_take_of_le (Nat.le_of_lt (List.getElem?_eq_some_iff.1 h).1)
  rw [List.take_add_one, h, List.zipIdx_append, hlength, Nat.zero_add]
  rfl

/-! ## Files and visits -/

/-- The reading of one file in a pass. -/
structure Visit where
  /-- The number of files that may be nested in the file. -/
  depth : Nat
  /-- The path of the file. -/
  path : Text
  /-- The text of the file. -/
  text : Text
  /-- The identities of the files that are being included, this one first. -/
  chain : List Text
  deriving DecidableEq, Repr

/-- The draft after a line of a file whose includes yield what `fetch` says. -/
def Draft.afterLine (draft : Draft) (source : Source)
    (fetch : Text → Except ExtractError (List Symbol)) (numbered : Text × Nat) :
    Except ExtractError Draft :=
  match (Statement.read numbered.1).target? with
  | some target =>
    fetch target >>= fun found => pure { draft with symbols := draft.symbols ++ found }
  | none => draft.step source numbered.2 numbered.1 (Statement.read numbered.1)

/-- What a file yields whose includes yield what `fetch` says. -/
def Source.outcome (source : Source) (fetch : Text → Except ExtractError (List Symbol)) :
    Except ExtractError (List Symbol) :=
  source.lines.zipIdx.foldlM (fun (draft : Draft) => draft.afterLine source fetch) .empty >>=
    fun (draft : Draft) => pure (draft.finish source)

/-- A line that is no include is a step of the draft, and an include adds what it yields. -/
theorem Draft.afterLine_cases {draft next : Draft} {source : Source}
    {fetch : Text → Except ExtractError (List Symbol)} {number : Nat} {line : Text}
    (h : draft.afterLine source fetch (line, number) = .ok next) :
    ((Statement.read line).target? = none ∧
        draft.step source number line (Statement.read line) = .ok next) ∨
      ∃ target result, (Statement.read line).target? = some target ∧ fetch target = .ok result ∧
        next = { draft with symbols := draft.symbols ++ result } := by
  unfold afterLine at h
  dsimp only at h
  split at h
  · next target htarget =>
    obtain ⟨result, hresult, hok⟩ := exists_of_bind_eq_ok h
    cases hok
    exact .inr ⟨target, result, htarget, hresult, rfl⟩
  · next htarget => exact .inl ⟨htarget, h⟩

/-- What holds in front of the first line, and is kept by every line, holds behind the last line of
the draft that is finished there. -/
theorem Source.exists_draft_of_outcome {source : Source} {P : Nat → Draft → Prop}
    {fetch : Text → Except ExtractError (List Symbol)} {found : List Symbol}
    (hempty : P 0 .empty)
    (hline : ∀ number line draft next, source.lines[number]? = some line →
      draft.afterLine source fetch (line, number) = .ok next → P number draft →
      P (number + 1) next)
    (h : source.outcome fetch = .ok found) :
    ∃ draft, P source.lines.length draft ∧ draft.finish source = found := by
  obtain ⟨draft, hdraft, hok⟩ := exists_of_bind_eq_ok h
  cases hok
  have hlast : P (0 + source.lines.length) draft :=
    rel_foldlM_zipIdx (R := fun number draft _ => P number draft) rfl
      (fun number line _ draft _ next _ hmem _ hholds hnext _ => by
        rw [Nat.zero_add] at hholds hnext ⊢
        exact hline number line draft next hmem hnext hholds) hempty hdraft hdraft
  rw [Nat.zero_add] at hlast
  exact ⟨draft, hlast, rfl⟩

/-- It is enough that every step and every include keeps it. -/
theorem Source.exists_draft_of_steps {source : Source} {P : Nat → Draft → Prop}
    {fetch : Text → Except ExtractError (List Symbol)} {found : List Symbol}
    (hempty : P 0 .empty)
    (hstep : ∀ number line draft next, source.lines[number]? = some line →
      draft.step source number line (Statement.read line) = .ok next → P number draft →
      P (number + 1) next)
    (hinclude : ∀ number line draft target result, source.lines[number]? = some line →
      (Statement.read line).target? = some target → fetch target = .ok result → P number draft →
      P (number + 1) { draft with symbols := draft.symbols ++ result })
    (h : source.outcome fetch = .ok found) :
    ∃ draft, P source.lines.length draft ∧ draft.finish source = found := by
  refine exists_draft_of_outcome hempty (fun number line draft next hline hnext hholds => ?_) h
  rcases Draft.afterLine_cases hnext with ⟨-, hnext⟩ | ⟨target, result, htarget, hresult, rfl⟩
  · exact hstep number line draft next hline hnext hholds
  · exact hinclude number line draft target result hline htarget hresult hholds

/-- In a file without includes, it is enough that every step keeps it. -/
theorem Source.exists_draft_of_no_includes {source : Source} {P : Nat → Draft → Prop}
    {fetch : Text → Except ExtractError (List Symbol)} {found : List Symbol}
    (hempty : P 0 .empty)
    (hincludes : ∀ line ∈ source.lines, (Statement.read line).target? = none)
    (hstep : ∀ number line draft next, source.lines[number]? = some line →
      draft.step source number line (Statement.read line) = .ok next → P number draft →
      P (number + 1) next)
    (h : source.outcome fetch = .ok found) :
    ∃ draft, P source.lines.length draft ∧ draft.finish source = found := by
  refine exists_draft_of_steps hempty hstep
    (fun number line draft target result hline htarget => ?_) h
  rw [hincludes line (List.mem_of_getElem? hline)] at htarget
  cases htarget

namespace Visit

/-- The visit of a document. -/
def document (disk : Disk) (rules : IncludeRules) (path text : Text) : Visit :=
  ⟨rules.maxDepth.toNat, path, text, [disk.identity path]⟩

/-- The file that is visited. -/
def source (visit : Visit) : Source :=
  .ofText visit.path visit.text

/-- The visit that an include leads to; there is none when the include is skipped. -/
def included? (disk : Disk) (rules : IncludeRules) (visit : Visit) (target : Text) :
    Option Visit :=
  let included := Extraction.includedPath rules visit.path target
  if rules.guarded && visit.chain.contains (disk.identity included) then none
  else
    match visit.depth with
    | 0 => none
    | depth + 1 => (Extraction.readStamped disk included).toOption.map fun (text, _) =>
      ⟨depth, included, text, disk.identity included :: visit.chain⟩

/-- What a visit yields. -/
def outcome (disk : Disk) (rules : IncludeRules) (visit : Visit) :
    Except ExtractError (List Symbol) :=
  (Pass.outcome
    (Extraction.scan disk rules visit.depth visit.path visit.text visit.chain) .empty).1

/-- What an include of a visit yields; an include that is skipped yields nothing. -/
def fetch (disk : Disk) (rules : IncludeRules) (visit : Visit) (target : Text) :
    Except ExtractError (List Symbol) :=
  match visit.included? disk rules target with
  | some included => included.outcome disk rules
  | none => .ok []

/-- `visit` leads to a visit directly or through includes of other files. -/
inductive Reaches (disk : Disk) (rules : IncludeRules) (visit : Visit) : Visit → Prop
  | self : Reaches disk rules visit visit
  | step {middle last : Visit} {line target : Text} : Reaches disk rules visit middle →
      line ∈ middle.source.lines → (Statement.read line).target? = some target →
      middle.included? disk rules target = some last → Reaches disk rules visit last

variable {disk : Disk} {rules : IncludeRules} {visit included : Visit} {target : Text}

/-- What an include that is not skipped leads to. -/
theorem included?_eq_some (h : visit.included? disk rules target = some included) :
    visit.depth = included.depth + 1 ∧
      included.path = Extraction.includedPath rules visit.path target ∧
      included.chain = disk.identity included.path :: visit.chain ∧
      (rules.guarded = true → disk.identity included.path ∉ visit.chain) := by
  unfold included? at h
  extract_lets path at h
  split at h
  · cases h
  · next hguard =>
    split at h
    · cases h
    · next depth hdepth =>
      obtain ⟨found, -, rfl⟩ := Option.map_eq_some_iff.1 h
      refine ⟨hdepth, rfl, rfl, fun hguarded hmem => hguard ?_⟩
      simpa [hguarded] using hmem

/-- Visits by induction on how deep files may be nested in them: each include that is not skipped
leads to a visit with room for one file less. -/
@[elab_as_elim]
theorem nestedInduction (disk : Disk) (rules : IncludeRules) {motive : Visit → Prop}
    (nested : ∀ visit, (∀ target included, visit.included? disk rules target = some included →
      motive included) → motive visit) (visit : Visit) : motive visit := by
  induction hdepth : visit.depth generalizing visit with
  | zero =>
    refine nested visit fun target included hincluded => ?_
    have hroom := (included?_eq_some hincluded).1
    omega
  | succ depth ih =>
    refine nested visit fun target included hincluded => ih included ?_
    have hroom := (included?_eq_some hincluded).1
    omega

/-- Where a visit leads, the visits that lead to it lead as well. -/
theorem Reaches.trans {first middle last : Visit} (h : Reaches disk rules first middle)
    (h' : Reaches disk rules middle last) : Reaches disk rules first last := by
  induction h' with
  | self => exact h
  | step _ hline htarget hincluded ih => exact ih.step hline htarget hincluded

end Visit

/-! ## The outcome without the trace -/

namespace Extraction

/-- A reading of a file yields the outcome of the file if its includes do. -/
theorem scanLines_yields {source : Source} {read : Text → Pass (List Symbol)}
    {fetch : Text → Except ExtractError (List Symbol)}
    (h : ∀ target, Pass.Yields (read target) (fetch target)) :
    Pass.Yields (scanLines source read) (source.outcome fetch) := by
  unfold scanLines Source.outcome
  refine Pass.Yields.bind (Pass.Yields.foldlM (fun draft numbered => ?_) _ _) fun draft =>
    Pass.Yields.pure (Draft.finish draft source)
  unfold Draft.afterLine
  cases htarget : (Statement.read numbered.1).target? with
  | some target =>
    rw [scanLine_of_target htarget]
    exact (h target).bind fun found => Pass.Yields.pure _
  | none =>
    rw [scanLine_of_no_target htarget]
    cases draft.step source numbered.2 numbered.1 (Statement.read numbered.1) with
    | ok draft => exact Pass.Yields.pure draft
    | error error => exact Pass.Yields.throw error

variable {disk : Disk} {rules : IncludeRules}

/-- An include yields what its visit yields. -/
theorem splice_yields (visit : Visit)
    {deeper : Option (Text → Text → List Text → Pass (List Symbol))}
    (hnone : visit.depth = 0 → deeper = none)
    (hsome : ∀ depth, visit.depth = depth + 1 → ∃ read, deeper = some read ∧ ∀ path text chain,
      Pass.Yields (read path text chain) (Visit.outcome disk rules ⟨depth, path, text, chain⟩))
    (target : Text) :
    Pass.Yields (splice disk rules deeper visit.path visit.chain target)
      (visit.fetch disk rules target) := by
  unfold splice Visit.fetch Visit.included?
  extract_lets included identity
  split
  · exact fun _ => rfl
  cases hdepth : visit.depth with
  | zero =>
    rw [hnone hdepth]
    exact fun _ => rfl
  | succ depth =>
    obtain ⟨read, hread, hyields⟩ := hsome depth hdepth
    rw [hread]
    cases readStamped disk included with
    | error error => exact fun _ => rfl
    | ok found => exact Pass.Yields.bind (Pass.Yields.modify _) fun _ => hyields _ _ _

/-- A reading of a file yields what the visit yields, line by line. -/
theorem scan_yields (depth : Nat) (path text : Text) (chain : List Text) :
    Pass.Yields (scan disk rules depth path text chain)
      (Source.outcome (.ofText path text)
        (Visit.fetch disk rules ⟨depth, path, text, chain⟩)) := by
  -- the readings of included files are those of the depth below
  induction depth generalizing path text chain with
  | zero =>
    exact scanLines_yields (splice_yields ⟨0, path, text, chain⟩ (fun _ => rfl)
      fun depth h => nomatch h)
  | succ depth ih =>
    refine scanLines_yields (splice_yields ⟨depth + 1, path, text, chain⟩
      (fun h => nomatch h) fun depth' h => ⟨_, rfl, fun path text chain => ?_⟩)
    cases h
    intro trace
    rw [ih path text chain trace, Visit.outcome, ih path text chain]

end Extraction

/-- A visit yields what its lines and its includes make. -/
theorem Visit.outcome_eq (disk : Disk) (rules : IncludeRules) (visit : Visit) :
    visit.outcome disk rules = visit.source.outcome (visit.fetch disk rules) :=
  Extraction.scan_yields visit.depth visit.path visit.text visit.chain .empty

/-- The symbols of a document are those of its visit. -/
theorem extract_fst (disk : Disk) (rules : IncludeRules) (path text : Text) :
    (extract disk rules path text).1 = (Visit.document disk rules path text).outcome disk rules :=
  rfl

end BlitzLens
