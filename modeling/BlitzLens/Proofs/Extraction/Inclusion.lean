import BlitzLens.Proofs.Extraction.Visit
import Mathlib.Data.Set.Card
import Mathlib.Data.Set.Finite.Lattice

/-!
# Chains of includes

An include leads from a file to another one, whose identity is put in front of the chain. Each file
of the chain costs one of the nested files that the rules allow (`Visit.Reaches.length_add_depth`),
so that chains are bounded and a pass makes finitely many visits, even where files include each
other in a circle. Where the guard is on, a chain has no identity twice, so that it can only be as
long as there are `identities`. A limit that leaves room for all of them is
never reached, and then it does not matter what the limit is: any two limits that leave enough room
(`Visit.Roomy`) make the same pass.

## Main definitions

* `Includes`: the paths that includes lead to, directly or through files that can be read.
* `identities`: the identities of a document and of all that it includes.
* `Visit.Roomy`: the limit leaves room for every identity that is not in the chain.

## Main results

* `Visit.Reaches.length_add_depth`, `Visit.Reaches.nodup`: what chains look like.
* `Visit.finite_reaches`: the visits of a pass are finitely many.
* `Extraction.scan_of_roomy`: where there is room, the limit is not reported and does not matter.
-/

namespace BlitzLens

/-! ## What a document includes -/

/-- The paths that the includes of a file lead to, directly or through files that can be read. -/
inductive Includes (disk : Disk) (rules : IncludeRules) (path text : Text) : Text → Prop
  /-- A line of the file includes it. -/
  | direct {target : Text} : target ∈ (Source.ofText path text).targets →
      Includes disk rules path text (Extraction.includedPath rules path target)
  /-- A line of an included file includes it. -/
  | nested {middle target : Text} {found : Text × Stamp} : Includes disk rules path text middle →
      Extraction.readStamped disk middle = .ok found →
      target ∈ (Source.ofText middle found.1).targets →
      Includes disk rules path text (Extraction.includedPath rules middle target)

/-- The identities of a file and of the paths that its includes lead to. -/
def identities (disk : Disk) (rules : IncludeRules) (path text : Text) : Set Text :=
  insert (disk.identity path) (disk.identity '' {included | Includes disk rules path text included})

namespace Visit

variable {disk : Disk} {rules : IncludeRules} {path text : Text} {visit last : Visit}

/-! ## The chain of a visit -/

/-- Each file of the chain is one less that may be nested. -/
theorem Reaches.length_add_depth (h : Reaches disk rules visit last) :
    last.chain.length + last.depth = visit.chain.length + visit.depth := by
  induction h with
  | self => rfl
  | step _ _ _ hincluded ih =>
    obtain ⟨hdepth, -, hchain, -⟩ := included?_eq_some hincluded
    rw [hchain, List.length_cons]
    omega

/-- A visit that is nested in another one may nest fewer files. -/
theorem Reaches.depth_lt (h : Reaches disk rules visit last) (hne : last ≠ visit) :
    last.depth < visit.depth := by
  have hle {last : Visit} (h : Reaches disk rules visit last) : last.depth ≤ visit.depth := by
    induction h with
    | self => exact Nat.le_refl _
    | step _ _ _ hincluded ih =>
      have hdepth := (included?_eq_some hincluded).1
      omega
  cases h with
  | self => exact absurd rfl hne
  | step hmiddle _ _ hincluded =>
    have hdepth := (included?_eq_some hincluded).1
    have hmiddle := hle hmiddle
    omega

/-- A nested visit of a document has a chain of at most one file more than the rules allow to be
nested. -/
theorem Reaches.length_le_maxDepth (h : Reaches disk rules (document disk rules path text) visit)
    (hne : visit ≠ document disk rules path text) :
    (visit.chain.length : Int) ≤ rules.maxDepth + 1 := by
  have hlength := h.length_add_depth
  have hdepth := h.depth_lt hne
  simp only [document, List.length_singleton] at hlength hdepth
  omega

/-- Where the guard is on, no chain has an identity twice. -/
theorem Reaches.nodup (hguarded : rules.guarded = true) (hvisit : visit.chain.Nodup)
    (h : Reaches disk rules visit last) : last.chain.Nodup := by
  induction h with
  | self => exact hvisit
  | step _ _ _ hincluded ih =>
    obtain ⟨-, -, hchain, hguard⟩ := included?_eq_some hincluded
    rw [hchain]
    exact List.nodup_cons.2 ⟨hguard hguarded, ih⟩

/-- A visit leads to another one through the first include on the way, if not to itself. -/
theorem Reaches.eq_or_exists_included (h : Reaches disk rules visit last) :
    last = visit ∨ ∃ target ∈ visit.source.targets,
      ∃ included ∈ visit.included? disk rules target, Reaches disk rules included last := by
  induction h with
  | self => exact .inl rfl
  | step _ hline htarget hincluded ih =>
    have hmem := Source.mem_targets hline htarget
    rcases ih with rfl | ⟨first, hfirst, included, hfirstIncluded, hreaches⟩
    · exact .inr ⟨_, hmem, _, hincluded, .self⟩
    · exact .inr ⟨first, hfirst, included, hfirstIncluded, hreaches.step hline htarget hincluded⟩

/-- A visit leads to finitely many visits. -/
theorem finite_reaches (visit : Visit) : {last | Reaches disk rules visit last}.Finite := by
  -- a file has finitely many includes
  induction visit using nestedInduction disk rules with
  | nested visit ih =>
    have hsub : {last | Reaches disk rules visit last} ⊆ {visit} ∪
        ⋃ target ∈ {target | target ∈ visit.source.targets},
          ⋃ included ∈ {included | visit.included? disk rules target = some included},
            {last | Reaches disk rules included last} := by
      intro last hlast
      rcases Reaches.eq_or_exists_included hlast with rfl | ⟨target, hmem, included, hincluded, h⟩
      · exact .inl rfl
      · exact .inr (Set.mem_biUnion hmem (Set.mem_biUnion hincluded h))
    have htargets : {target | target ∈ visit.source.targets}.Finite := List.finite_toSet _
    have hincluded (target : Text) :
        {included | visit.included? disk rules target = some included}.Finite :=
      Set.Subsingleton.finite fun _ h _ h' => Option.some.inj (h.symm.trans h')
    refine Set.Finite.subset ((Set.finite_singleton _).union ?_) hsub
    exact htargets.biUnion fun target _ => (hincluded target).biUnion fun included h =>
      ih target included h

/-! ## Room for all includes -/

/-- A visit of a pass over a document, or of its like under another limit, whose limit leaves room
for every identity that is not in its chain. -/
structure Roomy (disk : Disk) (rules : IncludeRules) (path text : Text) (visit : Visit) :
    Prop where
  /-- What the file includes is included by the document. -/
  included : ∀ target ∈ visit.source.targets,
    Includes disk rules path text (Extraction.includedPath rules visit.path target)
  /-- The chain has no identity twice. -/
  nodup : visit.chain.Nodup
  /-- The identities of the chain are those of the document and of what it includes. -/
  chain : ∀ identity ∈ visit.chain, identity ∈ identities disk rules path text
  /-- As many files may be nested as there are identities that are not in the chain. -/
  room : (identities disk rules path text).ncard ≤ visit.chain.length + visit.depth

/-- A document has room for its includes if at least all identities but one may be nested. -/
theorem roomy_document {depth : Nat} (h : (identities disk rules path text).ncard ≤ depth + 1) :
    Roomy disk rules path text ⟨depth, path, text, [disk.identity path]⟩ where
  included _ htarget := .direct htarget
  nodup := List.nodup_singleton _
  chain identity hmem := by
    rw [List.mem_singleton.1 hmem]
    exact Set.mem_insert _ _
  room := by
    simp only [List.length_singleton]
    omega

/-- Where there is room, an include that the guard does not skip may be nested: the chain has fewer
identities than there are. -/
theorem Roomy.depth_pos (h : Roomy disk rules path text visit)
    (hfinite : (identities disk rules path text).Finite) {target : Text}
    (hmem : target ∈ visit.source.targets)
    (hguard : disk.identity (Extraction.includedPath rules visit.path target) ∉ visit.chain) :
    0 < visit.depth := by
  have hidentity : disk.identity (Extraction.includedPath rules visit.path target) ∈
      identities disk rules path text :=
    Set.mem_insert_of_mem _ ⟨_, h.included target hmem, rfl⟩
  generalize disk.identity (Extraction.includedPath rules visit.path target) = identity at *
  -- the chain and the new identity are as many different identities, all of the document
  have hnodup : (identity :: visit.chain).Nodup := List.nodup_cons.2 ⟨hguard, h.nodup⟩
  have hsub : ((identity :: visit.chain).toFinset : Set Text) ⊆
      identities disk rules path text := by
    intro other hother
    rw [List.coe_toFinset] at hother
    rcases List.mem_cons.1 hother with rfl | hother
    · exact hidentity
    · exact h.chain other hother
  have hcard := Set.ncard_le_ncard hsub hfinite
  rw [Set.ncard_coe_finset, List.toFinset_card_of_nodup hnodup, List.length_cons] at hcard
  have hroom := h.room
  omega

/-- Where there is room, there is room in what is included. -/
theorem Roomy.nested {depth : Nat} (h : Roomy disk rules path text visit)
    (hdepth : visit.depth = depth + 1) {target : Text} (hmem : target ∈ visit.source.targets)
    (hguard : disk.identity (Extraction.includedPath rules visit.path target) ∉ visit.chain)
    {found : Text × Stamp}
    (hread : Extraction.readStamped disk (Extraction.includedPath rules visit.path target) =
      .ok found) :
    Roomy disk rules path text
      ⟨depth, Extraction.includedPath rules visit.path target, found.1,
        disk.identity (Extraction.includedPath rules visit.path target) :: visit.chain⟩ where
  included _ htarget := .nested (h.included target hmem) hread htarget
  nodup := List.nodup_cons.2 ⟨hguard, h.nodup⟩
  chain identity hidentity := by
    rcases List.mem_cons.1 hidentity with rfl | hidentity
    · exact Set.mem_insert_of_mem _ ⟨_, h.included target hmem, rfl⟩
    · exact h.chain identity hidentity
  room := by
    have hroom := h.room
    simp only [List.length_cons]
    omega

end Visit

namespace Extraction

variable {disk : Disk} {rules : IncludeRules} {path text : Text}

/-! ## The limit -/

/-- How a file is read that is nested in a file under a limit, unless the limit is reached. -/
def deeper (disk : Disk) (rules : IncludeRules) :
    Nat → Option (Text → Text → List Text → Pass (List Symbol))
  | 0 => none
  | depth + 1 => some (scan disk rules depth)

/-- A reading of a file goes through its lines, whatever the limit. -/
theorem scan_eq (disk : Disk) (rules : IncludeRules) (depth : Nat) (path text : Text)
    (chain : List Text) :
    scan disk rules depth path text chain =
      scanLines (.ofText path text) (splice disk rules (deeper disk rules depth) path chain) := by
  cases depth <;> rfl

/-- Readings of one file are equal if they are on its includes. -/
theorem scanLines_congr {source : Source} {fetch fetch' : Text → Pass (List Symbol)}
    (h : ∀ target ∈ source.targets, fetch target = fetch' target) :
    scanLines source fetch = scanLines source fetch' := by
  have hstep : ∀ numbered ∈ source.lines.zipIdx, ∀ draft,
      scanLine source fetch draft numbered = scanLine source fetch' draft numbered := by
    intro numbered hmem draft
    cases htarget : (Statement.read numbered.1).target? with
    | some target =>
      have hline := List.fst_mem_of_mem_zipIdx hmem
      rw [scanLine_of_target htarget, scanLine_of_target htarget,
        h target (Source.mem_targets hline htarget)]
    | none => rw [scanLine_of_no_target htarget, scanLine_of_no_target htarget]
  unfold scanLines
  rw [Pass.foldlM_congr hstep]

/-- The limit of the rules is of no account to a reading that is told its own. -/
theorem scan_maxDepth (limit : Int) (depth : Nat) :
    scan disk { rules with maxDepth := limit } depth = scan disk rules depth := by
  induction depth with
  | zero => rfl
  | succ depth ih =>
    funext path text chain
    rw [scan, scan, ih]
    -- of the rules, an include uses only the roots and the guard
    rfl

/-- The trace does not say that the limit was reached. -/
def Unlimited (trace : Trace) : Prop :=
  ∀ included, .depthReached included ∉ trace.events

/-- What is reported is not that the limit was reached. -/
theorem unlimited_report {event : Event} (h : ∀ included, event ≠ .depthReached included) :
    Pass.Keeps Unlimited (report event) := by
  intro trace htrace included hmem
  rcases List.mem_append.1 hmem with hmem | hmem
  · exact htrace included hmem
  · exact h included (List.mem_singleton.1 hmem).symm

variable {including : Text} {chain : List Text} {target : Text}

/-- The guard skips an include of a file of the chain. -/
theorem splice_of_mem {deeper : Option (Text → Text → List Text → Pass (List Symbol))}
    (hguarded : rules.guarded = true)
    (h : disk.identity (includedPath rules including target) ∈ chain) :
    splice disk rules deeper including chain target = (do
      report (.cycleSkipped including (includedPath rules including target))
      return []) := by
  unfold splice
  simp only [hguarded, List.contains_iff_mem.2 h, Bool.and_self, ↓reduceIte]

section Read

variable {read : Text → Text → List Text → Pass (List Symbol)}
  (h : disk.identity (includedPath rules including target) ∉ chain)
include h

/-- Any other include is skipped if it cannot be read. -/
theorem splice_of_error {error : FileError}
    (hread : readStamped disk (includedPath rules including target) = .error error) :
    splice disk rules (some read) including chain target = (do
      modify fun trace => trace.depend (includedPath rules including target) none
      report (.includeUnreadable (includedPath rules including target) error)
      return []) := by
  unfold splice
  simp only [List.contains_iff_mem, h, Bool.and_eq_true, and_false, ↓reduceIte, hread]

/-- Any other include that can be read is read where the limit is not reached. -/
theorem splice_of_ok {found : Text × Stamp}
    (hread : readStamped disk (includedPath rules including target) = .ok found) :
    splice disk rules (some read) including chain target = (do
      modify fun trace => trace.depend (includedPath rules including target) (some found.2)
      read (includedPath rules including target) found.1
        (disk.identity (includedPath rules including target) :: chain)) := by
  unfold splice
  simp only [List.contains_iff_mem, h, Bool.and_eq_true, and_false, ↓reduceIte, hread]

end Read

/-- Where two limits leave room, both read a file alike, and neither is reported. -/
theorem scan_of_roomy (hguarded : rules.guarded = true)
    (hfinite : (identities disk rules path text).Finite) {visit : Visit} {depth : Nat}
    (h : visit.Roomy disk rules path text)
    (h' : Visit.Roomy disk rules path text { visit with depth }) :
    scan disk rules visit.depth visit.path visit.text visit.chain =
        scan disk rules depth visit.path visit.text visit.chain ∧
      Pass.Keeps Unlimited (scan disk rules visit.depth visit.path visit.text visit.chain) := by
  -- the induction is on the limit, which is one less in every nested file
  induction hdepth : visit.depth using Nat.strong_induction_on generalizing visit depth with
  | _ limit ih =>
    subst hdepth
    have hsplice : ∀ target ∈ visit.source.targets,
        splice disk rules (deeper disk rules visit.depth) visit.path visit.chain target =
            splice disk rules (deeper disk rules depth) visit.path visit.chain target ∧
          Pass.Keeps Unlimited
            (splice disk rules (deeper disk rules visit.depth) visit.path visit.chain target) := by
      intro target hmem
      by_cases hguard : disk.identity (includedPath rules visit.path target) ∈ visit.chain
      · -- the guard comes before the limit
        rw [splice_of_mem hguarded hguard, splice_of_mem hguarded hguard]
        exact ⟨rfl, (unlimited_report (by simp)).bind fun _ => Pass.Keeps.pure _⟩
      · -- there is room for one more file under both limits
        obtain ⟨below, hbelow⟩ := Nat.exists_eq_add_one.2 (h.depth_pos hfinite hmem hguard)
        obtain ⟨below', hbelow'⟩ := Nat.exists_eq_add_one.2 (h'.depth_pos hfinite hmem hguard)
        replace hbelow' : depth = below' + 1 := hbelow'
        rw [hbelow, hbelow', deeper, deeper]
        cases hread : readStamped disk (includedPath rules visit.path target) with
        | error error =>
          rw [splice_of_error hguard hread, splice_of_error hguard hread]
          refine ⟨rfl, Pass.Keeps.bind (Pass.Keeps.modify fun _ htrace => htrace) fun _ => ?_⟩
          exact (unlimited_report (by simp)).bind fun _ => Pass.Keeps.pure _
        | ok found =>
          obtain ⟨hequal, hkeeps⟩ := ih below (by omega)
            (h.nested hbelow hmem hguard hread) (h'.nested hbelow' hmem hguard hread) rfl
          rw [splice_of_ok hguard hread, splice_of_ok hguard hread, hequal]
          rw [hequal] at hkeeps
          exact ⟨rfl, Pass.Keeps.bind (Pass.Keeps.modify fun _ htrace => htrace) fun _ => hkeeps⟩
    rw [scan_eq, scan_eq]
    exact ⟨scanLines_congr fun target hmem => (hsplice target hmem).1,
      scanLines_keeps fun target hmem => (hsplice target hmem).2⟩

end Extraction

/-- Where the limit leaves room for all identities, a pass does not report it, and is the pass that
any other such limit makes. -/
theorem extract_of_room {disk : Disk} {rules : IncludeRules} {path text : Text}
    (hguarded : rules.guarded = true) (hfinite : (identities disk rules path text).Finite)
    {limit limit' : Int} (h : ((identities disk rules path text).ncard : Int) ≤ limit + 1)
    (h' : ((identities disk rules path text).ncard : Int) ≤ limit' + 1) :
    extract disk { rules with maxDepth := limit } path text =
        extract disk { rules with maxDepth := limit' } path text ∧
      ∀ included, .depthReached included ∉
        (extract disk { rules with maxDepth := limit } path text).2.events := by
  have hroom {limit : Int} (h : ((identities disk rules path text).ncard : Int) ≤ limit + 1) :
      Visit.Roomy disk rules path text ⟨limit.toNat, path, text, [disk.identity path]⟩ :=
    Visit.roomy_document (by omega)
  obtain ⟨hequal, hkeeps⟩ := Extraction.scan_of_roomy hguarded hfinite (hroom h) (hroom h')
  simp only [extract, Extraction.pass, Extraction.scan_maxDepth]
  refine ⟨?_, hkeeps .empty fun included hmem => by simp [Trace.empty] at hmem⟩
  rw [hequal]

/-- Chains of includes are bounded. The visits that the visit of a document leads to are the nested
readings of its pass: the pass has the outcome of the first one (`extract_fst`), and each of them
comes from its lines and from the visits that its includes lead to (`Visit.outcome_eq`). Whether the
guard is on or off, a file that is nested in a document is visited with a chain of at most one file
more than the rules allow to be nested, and a pass makes finitely many visits. Where the guard is
on, no chain has an identity twice; and all limits from one below the number of identities on, but
at least one, are never reported and make the same pass. -/
theorem extract_chains_bounded (disk : Disk) (rules : IncludeRules) (path text : Text) :
    let document := Visit.document disk rules path text
    let number : Int := (identities disk rules path text).ncard
    ((extract disk rules path text).1 = document.outcome disk rules ∧
        ∀ visit, Visit.Reaches disk rules document visit →
          visit.outcome disk rules = visit.source.outcome (visit.fetch disk rules)) ∧
      (∀ visit, Visit.Reaches disk rules document visit → visit ≠ document →
        (visit.chain.length : Int) ≤ rules.maxDepth + 1) ∧
      {visit | Visit.Reaches disk rules document visit}.Finite ∧
      (rules.guarded = true →
        (∀ visit, Visit.Reaches disk rules document visit → visit.chain.Nodup) ∧
        ((identities disk rules path text).Finite → ∀ limit, max 1 (number - 1) ≤ limit →
          (∀ included, .depthReached included ∉
            (extract disk { rules with maxDepth := limit } path text).2.events) ∧
          ∀ limit', max 1 (number - 1) ≤ limit' →
            extract disk { rules with maxDepth := limit' } path text =
              extract disk { rules with maxDepth := limit } path text)) := by
  intro document number
  refine ⟨⟨extract_fst disk rules path text, fun visit _ => visit.outcome_eq disk rules⟩,
    fun _ h hne => h.length_le_maxDepth hne, Visit.finite_reaches document, fun hguarded => ?_⟩
  refine ⟨fun _ h => h.nodup hguarded (List.nodup_singleton _), fun hfinite limit hlimit => ?_⟩
  -- the document is in the chain from the start and needs no room
  have hroom : number ≤ limit + 1 := by omega
  refine ⟨(extract_of_room hguarded hfinite hroom hroom).2, fun limit' hlimit' => ?_⟩
  have hroom' : number ≤ limit' + 1 := by omega
  exact (extract_of_room hguarded hfinite hroom' hroom).1

/-- A document and a file that include each other, and the file also itself: there are two
identities, and the limits one and thirty-two make the same pass. -/
theorem extract_chains_bounded_circle :
    let lib : Text := "Include \"main.bb\"\nInclude \"lib.bb\"\nGlobal a"
    let disk := Disk.ofFile "lib.bb" (Encoding.encodeUtf8 lib) 1
    let rules : IncludeRules := ⟨[], true, 1⟩
    let text : Text := "Include \"lib.bb\"\nGlobal b"
    (identities disk rules "main.bb" text).Finite ∧
      (identities disk rules "main.bb" text).ncard ≤ 2 ∧
      (∀ included, .depthReached included ∉
        (extract disk { rules with maxDepth := 1 } "main.bb" text).2.events) ∧
      extract disk { rules with maxDepth := 32 } "main.bb" text =
        extract disk { rules with maxDepth := 1 } "main.bb" text := by
  intro lib disk rules text
  have hlib : disk.textAt? "lib.bb" = some lib := by decide +kernel
  have hmain : disk.textAt? "main.bb" = none := by decide +kernel
  have hdirect : ∀ target ∈ (Source.ofText "main.bb" text).targets,
      Extraction.includedPath rules "main.bb" target ∈ ["main.bb".toList, "lib.bb".toList] := by
    decide +kernel
  have hnested : ∀ target ∈ (Source.ofText "lib.bb" lib).targets,
      Extraction.includedPath rules "lib.bb" target ∈ ["main.bb".toList, "lib.bb".toList] := by
    decide +kernel
  -- the document itself is not on the disk, so that nothing is included through it
  have hincludes : ∀ included, Includes disk rules "main.bb" text included →
      included ∈ ["main.bb".toList, "lib.bb".toList] := by
    intro included h
    induction h with
    | direct hmem => exact hdirect _ hmem
    | @nested middle target found _ hread hmem ih =>
      have htext : disk.textAt? middle = some found.1 := by
        rw [Disk.textAt?, hread]
        rfl
      simp only [List.mem_cons, List.not_mem_nil, or_false] at ih
      rcases ih with rfl | rfl
      · rw [hmain] at htext
        cases htext
      · rw [hlib, Option.some_inj] at htext
        rw [← htext] at hmem
        exact hnested _ hmem
  have hsub : identities disk rules "main.bb" text ⊆
      {disk.identity "main.bb", disk.identity "lib.bb"} := by
    rintro identity (rfl | ⟨included, hincluded, rfl⟩)
    · exact .inl rfl
    · have hmem := hincludes included hincluded
      simp only [List.mem_cons, List.not_mem_nil, or_false] at hmem
      rcases hmem with rfl | rfl
      · exact .inl rfl
      · exact .inr rfl
  have hfinite : (identities disk rules "main.bb" text).Finite := (Set.toFinite _).subset hsub
  have hcard : (identities disk rules "main.bb" text).ncard ≤ 2 := by
    have hpair := Set.ncard_insert_le (disk.identity "main.bb") {disk.identity "lib.bb"}
    rw [Set.ncard_singleton] at hpair
    exact (Set.ncard_le_ncard hsub).trans hpair
  obtain ⟨-, -, -, hguarded⟩ := extract_chains_bounded disk rules "main.bb" text
  obtain ⟨hlimit, hequal⟩ := (hguarded rfl).2 hfinite 1 (by omega)
  exact ⟨hfinite, hcard, hlimit, hequal 32 (by omega)⟩

end BlitzLens
