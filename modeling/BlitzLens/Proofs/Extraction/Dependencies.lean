import BlitzLens.Proofs.Extraction.Pass

/-!
# What a pass depends on

A pass records every file that it tries to read. The records are complete: on a second disk on which
the recorded files have the same texts, or cannot be read either, a pass finds the same symbols and
records the same files (`extract_eq_of_agree`). They are also true: the stamp of a record is that of
the disk (`stamp_of_mem_dependencies`). So nothing but what is recorded matters: whatever else
changes, a pass goes as before where each record still holds (`Dependency.HoldsOn`).
-/

namespace BlitzLens

/-- The disk that holds one file. -/
def Disk.ofFile (name : Text) (bytes : List UInt8) (modified : Int) : Disk where
  here := ⟨['/'], []⟩
  read path := if path = name then .ok bytes else .error ⟨.notFound, path⟩
  stat path := if path = name then .ok ⟨modified, bytes.length⟩ else .error ⟨.notFound, path⟩

/-- Two disks agree on a path: it has the same text on both, or can be read on neither. -/
def Disk.Agree (disk disk' : Disk) (path : Text) : Prop :=
  (Extraction.readStamped disk' path).toOption.map Prod.fst =
    (Extraction.readStamped disk path).toOption.map Prod.fst

/-- The identity of a path depends on nothing but the directory that relative paths start from. -/
theorem Disk.identity_congr {disk disk' : Disk} (here : disk'.here = disk.here) (path : Text) :
    disk'.identity path = disk.identity path := by
  rw [identity, identity, here]

/-- The file that a statement includes. -/
def Statement.target? : Statement → Option Text
  | .includeFile target => some target
  | _ => none

/-- The files that the lines of a file include, as they name them. -/
def Source.targets (source : Source) : List Text :=
  source.lines.filterMap fun line => (Statement.read line).target?

/-- A line that includes a file names one of the targets. -/
theorem Source.mem_targets {source : Source} {line target : Text} (h : line ∈ source.lines)
    (htarget : (Statement.read line).target? = some target) : target ∈ source.targets :=
  List.mem_filterMap.2 ⟨line, h, htarget⟩

/-- Only an include has a target. -/
theorem Statement.eq_includeFile {statement : Statement} {target : Text}
    (h : statement.target? = some target) : statement = .includeFile target := by
  cases statement <;> simp_all [target?]

namespace Extraction

variable {source : Source} {fetch fetch' : Text → Pass (List Symbol)} {draft : Draft}
  {numbered : Text × Nat}

/-- An include appends the symbols of its file. -/
theorem scanLine_of_target {target : Text}
    (h : (Statement.read numbered.1).target? = some target) :
    scanLine source fetch draft numbered =
      fetch target >>= fun found => pure { draft with symbols := draft.symbols ++ found } := by
  unfold scanLine
  simp only [Statement.eq_includeFile h]

/-- Any other line is a step of the draft. -/
theorem scanLine_of_no_target (h : (Statement.read numbered.1).target? = none) :
    scanLine source fetch draft numbered =
      match draft.step source numbered.2 numbered.1 (Statement.read numbered.1) with
      | .ok draft => pure draft
      | .error error => throw error := by
  unfold scanLine
  split
  · next line number =>
    split
    · next target hread => simp [hread, Statement.target?] at h
    · rfl

/-! ## Completeness of the records -/

section Follows

variable {same : Text → Prop}

/-- Readings of one file follow each other if their includes do. -/
theorem scanLines_follows (h : ∀ target, Pass.Follows same (fetch target) (fetch' target)) :
    Pass.Follows same (scanLines source fetch) (scanLines source fetch') := by
  unfold scanLines
  refine Pass.Follows.bind (Pass.Follows.foldlM (fun draft numbered => ?_) _ _) fun _ =>
    Pass.Follows.pure _
  cases htarget : (Statement.read numbered.1).target? with
  | some target =>
    rw [scanLine_of_target htarget, scanLine_of_target htarget]
    exact (h target).bind fun _ => Pass.Follows.pure _
  | none =>
    rw [scanLine_of_no_target htarget, scanLine_of_no_target htarget]
    cases draft.step source numbered.2 numbered.1 (Statement.read numbered.1) with
    | ok draft => exact Pass.Follows.pure draft
    | error error => exact Pass.Follows.throw error

variable {disk disk' : Disk} {rules : IncludeRules}
  {deeper deeper' : Option (Text → Text → List Text → Pass (List Symbol))}

/-- The symbols of an include are the same on a disk that agrees on the recorded files. -/
theorem splice_follows (here : disk'.here = disk.here)
    (hdeeper : Option.Rel (fun read read' => ∀ path text chain,
      Pass.Follows (disk.Agree disk') (read path text chain) (read' path text chain))
      deeper deeper') (including : Text) (chain : List Text) (target : Text) :
    Pass.Follows (disk.Agree disk') (splice disk rules deeper including chain target)
      (splice disk' rules deeper' including chain target) := by
  unfold splice
  simp only [Disk.identity_congr here]
  split
  · exact (Pass.Follows.report _ _).bind fun _ => Pass.Follows.pure _
  cases hdeeper with
  | none => exact (Pass.Follows.report _ _).bind fun _ => Pass.Follows.pure _
  | some hread =>
    -- whether it can be read or not, the included file is recorded first
    have hreport (error : FileError) (found : List Symbol) (trace : Trace) :
        trace.paths ⊆ (Pass.outcome (do
          report (.includeUnreadable (includedPath rules including target) error)
          return found) trace).2.paths := fun _ hp => hp
    cases h : readStamped disk (includedPath rules including target) with
    | error error =>
      cases h' : readStamped disk' (includedPath rules including target) with
      | error error' =>
        exact Pass.Follows.depend_bind _ _ (hreport error []) fun _ =>
          (Pass.Follows.report _ _).bind fun _ => Pass.Follows.pure _
      | ok found' =>
        refine Pass.Follows.depend_bind _ _ (hreport error []) fun hagree => ?_
        simp [Disk.Agree, h, h', Except.toOption] at hagree
    | ok found =>
      cases h' : readStamped disk' (includedPath rules including target) with
      | error error' =>
        refine Pass.Follows.depend_bind _ _ (hread _ _ _).grows fun hagree => ?_
        simp [Disk.Agree, h, h', Except.toOption] at hagree
      | ok found' =>
        refine Pass.Follows.depend_bind _ _ (hread _ _ _).grows fun hagree => ?_
        have htext : found'.1 = found.1 := by
          simpa [Disk.Agree, h, h', Except.toOption] using hagree
        rw [htext]
        exact hread _ _ _

/-- A reading of a file is followed by one on a disk that agrees on the recorded files. -/
theorem scan_follows (rules : IncludeRules) (here : disk'.here = disk.here) (depth : Nat)
    (path text : Text) (chain : List Text) :
    Pass.Follows (disk.Agree disk') (scan disk rules depth path text chain)
      (scan disk' rules depth path text chain) := by
  induction depth generalizing path text chain with
  | zero => exact scanLines_follows (splice_follows here .none path chain)
  | succ depth ih => exact scanLines_follows (splice_follows here (.some ih) path chain)

end Follows

/-! ## Truth of the records -/

/-- Every record of a trace has the stamp that the disk has for its path. -/
def Stamped (disk : Disk) (trace : Trace) : Prop :=
  ∀ dependency ∈ trace.dependencies,
    dependency.stamp = (readStamped disk dependency.path).toOption.map Prod.snd

section Stamped

variable {disk : Disk} {rules : IncludeRules}

theorem stamped_empty : Stamped disk .empty := by
  simp [Stamped, Trace.empty]

/-- A record with the stamp of the disk keeps all records true. -/
theorem Stamped.depend {trace : Trace} (h : Stamped disk trace) {path : Text}
    {stamp : Option Stamp} (hstamp : stamp = (readStamped disk path).toOption.map Prod.snd) :
    Stamped disk (trace.depend path stamp) := by
  intro dependency hmem
  simp only [Trace.depend] at hmem
  split at hmem
  · obtain ⟨old, hold, heq⟩ := List.mem_map.1 hmem
    split at heq
    · subst heq
      exact hstamp
    · subst heq
      exact h old hold
  · rcases List.mem_append.1 hmem with hold | hnew
    · exact h dependency hold
    · rw [List.mem_singleton] at hnew
      subst hnew
      exact hstamp

/-- A reading of a file keeps of the trace what its includes keep. -/
theorem scanLines_keeps {inv : Trace → Prop}
    (h : ∀ target ∈ source.targets, Pass.Keeps inv (fetch target)) :
    Pass.Keeps inv (scanLines source fetch) := by
  unfold scanLines
  refine Pass.Keeps.bind (Pass.Keeps.foldlM (fun draft numbered hmem => ?_) _) fun _ =>
    Pass.Keeps.pure _
  cases htarget : (Statement.read numbered.1).target? with
  | some target =>
    rw [scanLine_of_target htarget]
    have hline := List.fst_mem_of_mem_zipIdx hmem
    exact (h target (Source.mem_targets hline htarget)).bind fun _ => Pass.Keeps.pure _
  | none =>
    rw [scanLine_of_no_target htarget]
    cases draft.step source numbered.2 numbered.1 (Statement.read numbered.1) with
    | ok draft => exact Pass.Keeps.pure draft
    | error error => exact Pass.Keeps.throw error

/-- An include keeps the records true. -/
theorem splice_keeps_stamped {deeper : Option (Text → Text → List Text → Pass (List Symbol))}
    (hdeeper : ∀ read ∈ deeper, ∀ path text chain,
      Pass.Keeps (Stamped disk) (read path text chain))
    (including : Text) (chain : List Text) (target : Text) :
    Pass.Keeps (Stamped disk) (splice disk rules deeper including chain target) := by
  have hreport (event : Event) : Pass.Keeps (Stamped disk) (report event) := fun _ h => h
  unfold splice
  extract_lets included identity
  split
  · exact (hreport _).bind fun _ => Pass.Keeps.pure _
  cases deeper with
  | none => exact (hreport _).bind fun _ => Pass.Keeps.pure _
  | some read =>
    cases h : readStamped disk included with
    | error error =>
      refine Pass.Keeps.bind (Pass.Keeps.modify fun trace htrace => ?_) fun _ =>
        (hreport _).bind fun _ => Pass.Keeps.pure _
      exact htrace.depend (by simp [h, Except.toOption])
    | ok found =>
      refine Pass.Keeps.bind (Pass.Keeps.modify fun trace htrace => ?_) fun _ =>
        hdeeper read rfl _ _ _
      exact htrace.depend (by simp [h, Except.toOption])

/-- A reading of a file keeps the records true. -/
theorem scan_keeps_stamped (depth : Nat) (path text : Text) (chain : List Text) :
    Pass.Keeps (Stamped disk) (scan disk rules depth path text chain) := by
  induction depth generalizing path text chain with
  | zero => exact scanLines_keeps fun target _ => splice_keeps_stamped (by simp) path chain target
  | succ depth ih =>
    refine scanLines_keeps fun target _ =>
      splice_keeps_stamped (fun read hread => ?_) path chain target
    rw [Option.mem_some_iff] at hread
    subst hread
    exact ih

end Stamped

end Extraction

variable {disk disk' : Disk} {rules : IncludeRules} {path text : Text}

/-- On a disk that agrees on all files that a pass depends on, the pass finds the same symbols, or
fails in the same way, and depends on the same files in the same order. -/
theorem extract_eq_of_agree (here : disk'.here = disk.here)
    (h : ∀ dependency ∈ (extract disk rules path text).2.dependencies,
      disk.Agree disk' dependency.path) :
    (extract disk' rules path text).1 = (extract disk rules path text).1 ∧
      (extract disk' rules path text).2.paths = (extract disk rules path text).2.paths := by
  have hfollows := (Extraction.scan_follows rules here rules.maxDepth.toNat path text
    [disk.identity path] .empty .empty rfl).2
  have hsame : ∀ p ∈ (extract disk rules path text).2.paths, disk.Agree disk' p := by
    intro p hp
    obtain ⟨dependency, hmem, rfl⟩ := List.mem_map.1 hp
    exact h dependency hmem
  have hpass : Extraction.pass disk' rules path text =
      Extraction.scan disk' rules rules.maxDepth.toNat path text [disk.identity path] := by
    rw [Extraction.pass, Disk.identity_congr here]
  rw [extract, hpass]
  exact hfollows hsame

/-- The stamps that a pass records are those of its disk. -/
theorem stamp_of_mem_dependencies {dependency : Dependency}
    (h : dependency ∈ (extract disk rules path text).2.dependencies) :
    dependency.stamp = (Extraction.readStamped disk dependency.path).toOption.map Prod.snd :=
  Extraction.scan_keeps_stamped rules.maxDepth.toNat path text [disk.identity path] .empty
    Extraction.stamped_empty dependency h

/-- The text that a pass gets from a path, if it can read it. -/
def Disk.textAt? (disk : Disk) (path : Text) : Option Text :=
  (Extraction.readStamped disk path).toOption.map Prod.fst

/-- What a dependency records of a path on one disk holds on another: where the file was read, it
has the same text, and where it could not be read, it cannot be read either. -/
def Dependency.HoldsOn (disk disk' : Disk) (dependency : Dependency) : Prop :=
  match dependency.stamp with
  | some _ => ∃ text,
      disk.textAt? dependency.path = some text ∧ disk'.textAt? dependency.path = some text
  | none => disk'.textAt? dependency.path = none

/-- Where a true record holds, the disks agree on its path. -/
theorem Dependency.HoldsOn.agree {dependency : Dependency} (h : dependency.HoldsOn disk disk')
    (hstamp : dependency.stamp =
      (Extraction.readStamped disk dependency.path).toOption.map Prod.snd) :
    disk.Agree disk' dependency.path := by
  unfold HoldsOn at h
  change disk'.textAt? dependency.path = disk.textAt? dependency.path
  cases hthen : (Extraction.readStamped disk dependency.path).toOption with
  | none =>
    rw [hstamp, hthen] at h
    have hnow : disk'.textAt? dependency.path = none := h
    rw [hnow, Disk.textAt?, hthen]
    rfl
  | some found =>
    rw [hstamp, hthen] at h
    obtain ⟨text, htext, htext'⟩ := h
    rw [htext, htext']

/-- What a pass records is all that it depends on. On any other file system on which every recorded
file that was read has the same text and every recorded file that could not be read is unreadable,
the pass finds the same symbols, or fails in the same way, and records the same paths in the same
order. -/
theorem extract_eq_of_records_hold (disk : Disk) (rules : IncludeRules) (path text : Text)
    (read : Text → Except FileError (List UInt8)) (stat : Text → Except FileError Stamp)
    (h : ∀ dependency ∈ (extract disk rules path text).2.dependencies,
      dependency.HoldsOn disk { disk with read, stat }) :
    (extract { disk with read, stat } rules path text).1 = (extract disk rules path text).1 ∧
      (extract { disk with read, stat } rules path text).2.paths =
        (extract disk rules path text).2.paths :=
  extract_eq_of_agree rfl fun dependency hmem =>
    (h dependency hmem).agree (stamp_of_mem_dependencies hmem)

/-- A pass reads one file and misses another. It finds the same symbols after the file was written
anew with the same text, and after a third file has appeared. -/
theorem extract_eq_of_records_hold_missing :
    let disk := Disk.ofFile "lib.bb" (Encoding.encodeUtf8 "Global a") 1
    let read (path : Text) : Except FileError (List UInt8) :=
      if path = "other.bb" then .ok (Encoding.encodeUtf8 "Global b") else disk.read path
    let stat (path : Text) : Except FileError Stamp :=
      if path = "other.bb" then .ok ⟨5, 8⟩ else (disk.stat path).map fun _ => ⟨2, 9⟩
    let rules : IncludeRules := ⟨[], true, 32⟩
    let text : Text := "Include \"lib.bb\"\nInclude \"missing.bb\""
    (extract disk rules "main.bb" text).2.paths = ["lib.bb".toList, "missing.bb".toList] ∧
      (∀ dependency ∈ (extract disk rules "main.bb" text).2.dependencies,
        dependency.HoldsOn disk { disk with read, stat }) ∧
      (extract { disk with read, stat } rules "main.bb" text).1 =
        (extract disk rules "main.bb" text).1 := by
  intro disk read stat rules text
  have hrecords : (extract disk rules "main.bb" text).2.dependencies =
      [⟨"lib.bb", some ⟨1, 8⟩⟩, ⟨"missing.bb", none⟩] := by decide +kernel
  have hholds : ∀ dependency ∈ (extract disk rules "main.bb" text).2.dependencies,
      dependency.HoldsOn disk { disk with read, stat } := by
    intro dependency hmem
    rw [hrecords, List.mem_cons, List.mem_singleton] at hmem
    obtain rfl | rfl := hmem
    · exact ⟨"Global a", by decide +kernel, by decide +kernel⟩
    · exact (by decide +kernel : Disk.textAt? { disk with read, stat } "missing.bb" = none)
  refine ⟨by decide +kernel, hholds, ?_⟩
  exact (extract_eq_of_records_hold disk rules "main.bb" text read stat hholds).1

end BlitzLens
