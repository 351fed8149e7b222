import BlitzLens.Cache
import BlitzLens.Proofs.Extraction.Dependencies

/-!
# The cache answers what a new pass finds

A cache lives through requests, changes of files and invalidations. Files may change in any way
between two requests, as long as the stamp of a path tells: what has the same stamp at two moments
reads the same (`StampsTell`). The invariant is `Cache.Coherent`: every entry is the outcome of a
pass on one of the disks seen so far. It is kept by every step (`Cache.Coherent.after`), hence by
every run (`Cache.Coherent.run`), and an entry whose files are current is the outcome of a new pass
(`CacheEntry.IsOutcome.symbols_of_isCurrent`), so that every request is answered as by a new pass
(`Cache.Coherent.symbols_eq`).
-/

namespace BlitzLens

/-! ## Histories -/

/-- A step in the life of what answers requests. -/
inductive Step (Request : Type) where
  /-- Something is asked. -/
  | ask (request : Request)
  /-- A file is written or deleted: from now on paths read and look as given. -/
  | change (read : Text → Except FileError (List UInt8)) (stat : Text → Except FileError Stamp)
  /-- What is kept for a path, or for all paths, is dropped. -/
  | invalidate (path : Option Text)

namespace Step

variable {Request : Type}

/-- The disk after a step. -/
def disk (disk : Disk) : Step Request → Disk
  | .change read stat => { disk with read, stat }
  | _ => disk

/-- What a step asks. -/
def request? : Step Request → Option Request
  | .ask request => some request
  | _ => none

/-- A step leaves the directory that relative paths start from. -/
theorem here_disk (before : Disk) (step : Step Request) :
    (step.disk before).here = before.here := by
  cases step <;> rfl

/-- The disk after steps. -/
def lastDisk (before : Disk) (steps : List (Step Request)) : Disk :=
  steps.foldl (fun before step => step.disk before) before

/-- The disks that are met along steps, the one before them first. -/
def disks (before : Disk) : List (Step Request) → List Disk
  | [] => [before]
  | step :: steps => before :: disks (step.disk before) steps

/-- The state after steps, where `after` is the state after one step on a disk. -/
def run {State : Type} (after : State → Disk → Step Request → State) (state : State)
    (before : Disk) : List (Step Request) → State
  | [] => state
  | step :: steps => run after (after state before step) (step.disk before) steps

/-- The texts that are asked for in steps, where `text?` is the text that a request asks for. -/
def askedTexts (text? : Request → Option Text) (steps : List (Step Request)) : List Text :=
  steps.filterMap fun step => step.request?.bind text?

/-- The disk before the steps is met. -/
theorem mem_disks_self (before : Disk) (steps : List (Step Request)) :
    before ∈ disks before steps := by
  cases steps <;> simp [disks]

/-- The disk after the steps is met. -/
theorem lastDisk_mem_disks (before : Disk) (steps : List (Step Request)) :
    lastDisk before steps ∈ disks before steps := by
  induction steps generalizing before with
  | nil => simp [lastDisk, disks]
  | cons step steps ih => exact List.mem_cons_of_mem _ (ih _)

/-- All disks along steps start relative paths from one directory. -/
theorem here_of_mem_disks {before disk : Disk} {steps : List (Step Request)}
    (h : disk ∈ disks before steps) : disk.here = before.here := by
  induction steps generalizing before with
  | nil => rw [List.mem_singleton.1 h]
  | cons step steps ih =>
    rcases List.mem_cons.1 h with rfl | h
    · rfl
    · rw [ih h, here_disk]

/-- A text that the first step asks for is asked for. -/
theorem mem_askedTexts_head {text? : Request → Option Text} {step : Step Request}
    {steps : List (Step Request)} {text : Text} (h : text ∈ step.request?.bind text?) :
    text ∈ askedTexts text? (step :: steps) :=
  List.mem_filterMap.2 ⟨step, List.mem_cons_self, h⟩

/-- The texts that later steps ask for are asked for. -/
theorem askedTexts_tail_subset (text? : Request → Option Text) (step : Step Request)
    (steps : List (Step Request)) : askedTexts text? steps ⊆ askedTexts text? (step :: steps) := by
  intro text h
  obtain ⟨other, hmem, hother⟩ := List.mem_filterMap.1 h
  exact List.mem_filterMap.2 ⟨other, List.mem_cons_of_mem _ hmem, hother⟩

end Step

/-- On all of `disks` stamps tell when files change: a path that has the same stamp twice reads the
same, and a path without a stamp cannot be read. -/
structure StampsTell (disks : List Disk) : Prop where
  /-- The same stamp means the same outcome of reading. -/
  read_eq : ∀ disk ∈ disks, ∀ disk' ∈ disks, ∀ path stamp,
    disk.stat path = .ok stamp → disk'.stat path = .ok stamp → disk'.read path = disk.read path
  /-- What cannot be looked at cannot be read. -/
  read_error : ∀ disk ∈ disks, ∀ path error,
    disk.stat path = .error error → ∃ fault, disk.read path = .error fault

/-- Stamps tell the versions of a single file if no two of them have the same time. -/
theorem stampsTell_ofFile (name : Text) (versions : List (List UInt8 × Int))
    (h : ∀ v ∈ versions, ∀ v' ∈ versions, v.2 = v'.2 → v = v') :
    StampsTell (versions.map fun v => Disk.ofFile name v.1 v.2) where
  read_eq disk hdisk disk' hdisk' path stamp hstat hstat' := by
    obtain ⟨v, hv, rfl⟩ := List.mem_map.1 hdisk
    obtain ⟨v', hv', rfl⟩ := List.mem_map.1 hdisk'
    by_cases hpath : path = name
    · simp only [Disk.ofFile, hpath, ↓reduceIte, Except.ok.injEq] at hstat hstat'
      rw [← hstat'] at hstat
      have hv : v = v' := h v hv v' hv' (congrArg Stamp.modified hstat)
      rw [hv]
    · simp [Disk.ofFile, hpath] at hstat
  read_error disk hdisk path error hstat := by
    obtain ⟨v, hv, rfl⟩ := List.mem_map.1 hdisk
    by_cases hpath : path = name
    · simp [Disk.ofFile, hpath] at hstat
    · exact ⟨⟨.notFound, path⟩, by simp [Disk.ofFile, hpath]⟩

/-! ## Entries -/

/-- The entry is the outcome of a pass over a document. -/
structure CacheEntry.IsOutcome (entry : CacheEntry) (disk : Disk) (rules : IncludeRules)
    (text : Text) : Prop where
  /-- The pass finds the symbols of the entry. -/
  symbols : (extract disk rules entry.path text).1 = .ok entry.symbols
  /-- The pass depends on the files of the entry. -/
  dependencies : (extract disk rules entry.path text).2.dependencies = entry.dependencies

/-- A file that is read with a stamp has that stamp. -/
theorem Extraction.stat_of_readStamped {disk : Disk} {path : Text} {found : Text × Stamp}
    (h : readStamped disk path = .ok found) : disk.stat path = .ok found.2 := by
  unfold readStamped at h
  cases hread : disk.readSource path with
  | error error => simp [hread, bind, Except.bind] at h
  | ok text =>
    cases hstat : disk.stat path with
    | error error => simp [hread, hstat, bind, Except.bind] at h
    | ok stamp =>
      simp only [hread, hstat, bind, Except.bind, pure, Except.pure, Except.ok.injEq] at h
      rw [← h]

/-- A file that cannot be read is not read with a stamp. -/
theorem Extraction.readStamped_of_read_error {disk : Disk} {path : Text} {fault : FileError}
    (h : disk.read path = .error fault) : readStamped disk path = .error fault := by
  simp [readStamped, Disk.readSource, h, Except.map, bind, Except.bind]

/-- Where stamps tell, a current dependency is a path on which the disk agrees with that of the
pass. -/
theorem Dependency.agree_of_isCurrent {disks : List Disk} (tell : StampsTell disks)
    {disk disk' : Disk} (hdisk : disk ∈ disks) (hdisk' : disk' ∈ disks) {dependency : Dependency}
    (hstamp : dependency.stamp =
      (Extraction.readStamped disk dependency.path).toOption.map Prod.snd)
    (hcurrent : dependency.isCurrent disk' = true) : disk.Agree disk' dependency.path := by
  unfold isCurrent at hcurrent
  unfold Disk.Agree
  cases hstat' : disk'.stat dependency.path with
  | error error =>
    -- the file has no stamp now, so it cannot be read now, and could not be read then
    rw [hstat'] at hcurrent
    obtain ⟨fault, hread'⟩ := tell.read_error disk' hdisk' _ _ hstat'
    have hnone : dependency.stamp = none := Option.isNone_iff_eq_none.1 hcurrent
    rw [hnone] at hstamp
    have hthen : (Extraction.readStamped disk dependency.path).toOption = none :=
      Option.map_eq_none_iff.1 hstamp.symm
    rw [hthen, Extraction.readStamped_of_read_error hread']
    rfl
  | ok stamp =>
    -- the file has the stamp that it had then, so it reads as it did then
    rw [hstat'] at hcurrent
    have hsome : dependency.stamp = some stamp := by simpa using hcurrent
    rw [hsome] at hstamp
    cases hthen : Extraction.readStamped disk dependency.path with
    | error error => simp [hthen, Except.toOption] at hstamp
    | ok found =>
      have hfound : found.2 = stamp := by simpa [hthen, Except.toOption] using hstamp.symm
      have hstat : disk.stat dependency.path = .ok stamp :=
        hfound ▸ Extraction.stat_of_readStamped hthen
      have hread := tell.read_eq disk hdisk disk' hdisk' _ _ hstat hstat'
      have hnow : Extraction.readStamped disk' dependency.path =
          Extraction.readStamped disk dependency.path := by
        simp only [Extraction.readStamped, Disk.readSource, hread, hstat, hstat']
      rw [hnow, hthen]

/-- Where stamps tell, the symbols of an entry whose files are current are those of a new pass. -/
theorem CacheEntry.IsOutcome.symbols_of_isCurrent {disks : List Disk} (tell : StampsTell disks)
    {disk disk' : Disk} (hdisk : disk ∈ disks) (hdisk' : disk' ∈ disks)
    (here : disk'.here = disk.here) {entry : CacheEntry} {rules : IncludeRules} {text : Text}
    (h : entry.IsOutcome disk rules text) (hcurrent : entry.isCurrent disk' = true) :
    (extract disk' rules entry.path text).1 = .ok entry.symbols := by
  rw [← h.symbols]
  refine (extract_eq_of_agree here fun dependency hmem => ?_).1
  refine dependency.agree_of_isCurrent tell hdisk hdisk' (stamp_of_mem_dependencies hmem) ?_
  rw [h.dependencies] at hmem
  exact List.all_eq_true.1 hcurrent dependency hmem

/-! ## The invariant -/

/-- What holds of a cache that has seen `disks` and was asked for `texts`. -/
structure Cache.Coherent (rules : IncludeRules) (digest : Text → Text) (disks : List Disk)
    (texts : List Text) (cache : Cache) : Prop where
  /-- The rules stay what they are. -/
  rules_eq : cache.rules = rules
  /-- The digest stays what it is. -/
  digest_eq : cache.digest = digest
  /-- There is room for no less than no entry. -/
  capacity_nonneg : 0 ≤ cache.capacity
  /-- Every entry is the outcome of a pass over a text that was asked for, on a disk that was
  seen. -/
  entries : ∀ entry ∈ cache.entries, ∃ disk ∈ disks, ∃ text ∈ texts,
    entry.digest = digest text ∧ entry.IsOutcome disk rules text

namespace Cache

variable {rules : IncludeRules} {digest : Text → Text} {disks : List Disk} {texts : List Text}
  {cache : Cache} {disk : Disk} {path text : Text}

/-- An empty cache is coherent. -/
theorem coherent_empty {capacity : Int} (h : 0 ≤ capacity) :
    Coherent rules digest disks texts (.empty rules capacity digest) where
  rules_eq := rfl
  digest_eq := rfl
  capacity_nonneg := h
  entries := by simp [empty]

/-- A cache stays coherent when it keeps its rules and only drops entries. -/
theorem Coherent.of_subset {cache' : Cache} (h : Coherent rules digest disks texts cache)
    (hrules : cache'.rules = cache.rules) (hdigest : cache'.digest = cache.digest)
    (hcapacity : cache'.capacity = cache.capacity)
    (hentries : ∀ entry ∈ cache'.entries, entry ∈ cache.entries) :
    Coherent rules digest disks texts cache' where
  rules_eq := hrules.trans h.rules_eq
  digest_eq := hdigest.trans h.digest_eq
  capacity_nonneg := hcapacity ▸ h.capacity_nonneg
  entries entry hmem := h.entries entry (hentries entry hmem)

/-- Making room drops entries. -/
theorem Coherent.makeRoom (h : Coherent rules digest disks texts cache) :
    Coherent rules digest disks texts cache.makeRoom.1 :=
  h.of_subset rfl rfl rfl fun _ hmem => List.mem_of_mem_drop hmem

/-- Where there is room for no less than no entry, making room succeeds. -/
theorem makeRoom_ok (h : 0 ≤ cache.capacity) : cache.makeRoom.2 = .ok () := by
  simp [makeRoom, Int.not_lt.2 h]

/-- The cache with one more outcome at its end, before room is made. -/
def withOutcome (cache : Cache) (path text : Text) (symbols : List Symbol)
    (dependencies : List Dependency) : Cache :=
  { cache with
    entries := cache.entries ++ [⟨path, cache.digest text, symbols, dependencies⟩]
    stats := { cache.stats with misses := cache.stats.misses + 1 } }

/-- A pass that fails is answered by its failure and leaves the entries. -/
theorem runPass_of_error {error : ExtractError}
    (h : (extract disk cache.rules path text).1 = .error error) :
    (cache.runPass disk path text).1 = .error (.failed error) ∧
      (cache.runPass disk path text).2.1 =
        { cache with stats := { cache.stats with misses := cache.stats.misses + 1 } } := by
  rcases hpass : extract disk cache.rules path text with ⟨error' | symbols, trace⟩ <;>
    rw [hpass] at h <;> cases h
  simp only [runPass, hpass, and_self]

/-- A pass that succeeds is kept, and answered if there can be room. -/
theorem runPass_of_ok {symbols : List Symbol}
    (h : (extract disk cache.rules path text).1 = .ok symbols) :
    let kept := cache.withOutcome path text symbols
      (extract disk cache.rules path text).2.dependencies
    (cache.runPass disk path text).1 = kept.makeRoom.2.map (fun _ => symbols) ∧
      (cache.runPass disk path text).2.1 = kept.makeRoom.1 := by
  rcases hpass : extract disk cache.rules path text with ⟨error | symbols', trace⟩ <;>
    rw [hpass] at h <;> cases h
  simp only [runPass, hpass, withOutcome, and_self]

/-- A new pass is answered as such. -/
theorem Coherent.runPass_eq (h : Coherent rules digest disks texts cache) :
    (cache.runPass disk path text).1 = (extract disk rules path text).1.mapError .failed := by
  rw [← h.rules_eq]
  cases hpass : (extract disk cache.rules path text).1 with
  | error error => rw [(runPass_of_error hpass).1]; rfl
  | ok symbols =>
    rw [(runPass_of_ok hpass).1, makeRoom_ok (by exact h.capacity_nonneg)]
    rfl

/-- A new pass keeps the cache coherent. -/
theorem Coherent.runPass (h : Coherent rules digest disks texts cache) (hdisk : disk ∈ disks)
    (htext : text ∈ texts) :
    Coherent rules digest disks texts (cache.runPass disk path text).2.1 := by
  cases hpass : (extract disk cache.rules path text).1 with
  | error error =>
    rw [(runPass_of_error hpass).2]
    exact h.of_subset rfl rfl rfl fun _ hmem => hmem
  | ok symbols =>
    rw [(runPass_of_ok hpass).2]
    refine Coherent.makeRoom ⟨h.rules_eq, h.digest_eq, h.capacity_nonneg, fun entry hmem => ?_⟩
    rcases List.mem_append.1 hmem with hold | hnew
    · exact h.entries entry hold
    · rw [List.mem_singleton] at hnew
      subst hnew
      rw [h.rules_eq] at hpass
      exact ⟨disk, hdisk, text, htext, by rw [h.digest_eq], hpass, by rw [h.rules_eq]⟩

/-- The entry that is found for a document has its path, the digest of its text, and is kept. -/
theorem find?_eq_some {entry : CacheEntry} (h : cache.find? path text = some entry) :
    entry ∈ cache.entries ∧ entry.path = path ∧ entry.digest = cache.digest text := by
  have hfor := List.find?_some h
  simp only [CacheEntry.isFor, Bool.and_eq_true, beq_iff_eq] at hfor
  exact ⟨List.mem_of_find?_eq_some h, hfor⟩

/-- The entries for other documents are kept entries. -/
theorem mem_of_mem_others {entry : CacheEntry} (h : entry ∈ cache.others path text) :
    entry ∈ cache.entries :=
  (List.mem_filter.1 h).1

/-- Dropping an entry that is not current keeps the cache coherent. -/
theorem Coherent.dropStale (h : Coherent rules digest disks texts cache) (path text : Text) :
    Coherent rules digest disks texts { cache with
      entries := cache.others path text
      stats := { cache.stats with invalidations := cache.stats.invalidations + 1 } } :=
  h.of_subset rfl rfl rfl fun _ => mem_of_mem_others

/-- A coherent cache answers what a new pass finds: where stamps tell, and where the digest tells
the text from those asked for before. -/
theorem Coherent.symbols_eq (h : Coherent rules digest disks texts cache)
    (tell : StampsTell disks) (here : ∀ d ∈ disks, d.here = disk.here) (hdisk : disk ∈ disks)
    (hdigest : ∀ t ∈ texts, digest t = digest text → t = text) :
    (cache.symbols disk path text).1 = (extract disk rules path text).1.mapError .failed := by
  unfold Cache.symbols
  cases hfind : cache.find? path text with
  | none => exact h.runPass_eq
  | some entry =>
    obtain ⟨hmem, hpath, hkey⟩ := find?_eq_some hfind
    by_cases hcurrent : entry.isCurrent disk = true
    · -- the digest tells that the entry is for this text
      obtain ⟨then_, hthen, old, hold, hentry, houtcome⟩ := h.entries entry hmem
      have htext : old = text := by
        apply hdigest old hold
        rw [← hentry, hkey, h.digest_eq]
      have hfound := houtcome.symbols_of_isCurrent tell hthen hdisk (here then_ hthen).symm hcurrent
      rw [htext, hpath] at hfound
      simp only [hcurrent, ↓reduceIte, hfound]
      rfl
    · -- the entry is dropped before the new pass
      have hdropped := h.dropStale path text
      simpa only [hcurrent, ↓reduceIte, Bool.false_eq_true] using hdropped.runPass_eq

/-- A request keeps the cache coherent. -/
theorem Coherent.symbols (h : Coherent rules digest disks texts cache) (hdisk : disk ∈ disks)
    (htext : text ∈ texts) :
    Coherent rules digest disks texts (cache.symbols disk path text).2.1 := by
  unfold Cache.symbols
  cases hfind : cache.find? path text with
  | none => exact h.runPass hdisk htext
  | some entry =>
    obtain ⟨hmem, -⟩ := find?_eq_some hfind
    by_cases hcurrent : entry.isCurrent disk = true
    · simp only [hcurrent, ↓reduceIte]
      -- the entry only moves to the end
      refine h.of_subset rfl rfl rfl fun other hother => ?_
      rcases List.mem_append.1 hother with hold | hnew
      · exact mem_of_mem_others hold
      · rw [List.mem_singleton.1 hnew]
        exact hmem
    · have hdropped := h.dropStale path text
      simpa only [hcurrent, ↓reduceIte, Bool.false_eq_true] using hdropped.runPass hdisk htext

/-- Invalidation keeps the cache coherent. -/
theorem Coherent.invalidate (h : Coherent rules digest disks texts cache) (path : Option Text) :
    Coherent rules digest disks texts (cache.invalidate path) := by
  cases path with
  | none => exact h.of_subset rfl rfl rfl (by simp [Cache.invalidate])
  | some path => exact h.of_subset rfl rfl rfl fun _ hmem => (List.mem_filter.1 hmem).1

/-! ## Runs -/

/-- The cache after a step on a disk; the requests are paths with texts. -/
def after (cache : Cache) (disk : Disk) : Step (Text × Text) → Cache
  | .ask (path, text) => (cache.symbols disk path text).2.1
  | .change .. => cache
  | .invalidate path => cache.invalidate path

/-- A step keeps the cache coherent. -/
theorem Coherent.after (h : Coherent rules digest disks texts cache) (hdisk : disk ∈ disks)
    {step : Step (Text × Text)}
    (htext : ∀ text ∈ step.request?.bind fun request => some request.2, text ∈ texts) :
    Coherent rules digest disks texts (cache.after disk step) := by
  cases step with
  | ask request => exact h.symbols hdisk (htext request.2 rfl)
  | change read stat => exact h
  | invalidate path => exact h.invalidate path

/-- A run keeps the cache coherent. -/
theorem Coherent.run (h : Coherent rules digest disks texts cache)
    {steps : List (Step (Text × Text))} (hdisks : Step.disks disk steps ⊆ disks)
    (htexts : Step.askedTexts (fun request => some request.2) steps ⊆ texts) :
    Coherent rules digest disks texts (Step.run Cache.after cache disk steps) := by
  -- the disks and texts of the whole run are fixed, so that the steps keep one invariant
  induction steps generalizing cache disk with
  | nil => exact h
  | cons step steps ih =>
    have hdisk : disk ∈ disks := hdisks (Step.mem_disks_self disk _)
    exact ih (h.after hdisk fun text htext => htexts (Step.mem_askedTexts_head htext))
      (fun d hd => hdisks (List.mem_cons_of_mem _ hd))
      (fun t ht => htexts (Step.askedTexts_tail_subset _ step steps ht))

/-- After any run of an empty cache, a request is answered as by a new pass on the disk of that
moment. -/
theorem symbols_run_empty {capacity : Int} (hcapacity : 0 ≤ capacity)
    {steps : List (Step (Text × Text))} (tell : StampsTell (Step.disks disk steps))
    (hdigest : ∀ t ∈ Step.askedTexts (fun request => some request.2) steps,
      digest t = digest text → t = text) :
    ((Step.run Cache.after (.empty rules capacity digest) disk steps).symbols
        (Step.lastDisk disk steps) path text).1 =
      (extract (Step.lastDisk disk steps) rules path text).1.mapError .failed := by
  have hcoherent : Coherent rules digest (Step.disks disk steps) _
      (Step.run Cache.after (.empty rules capacity digest) disk steps) :=
    (coherent_empty hcapacity).run (fun _ h => h) (fun _ h => h)
  have hlast := Step.lastDisk_mem_disks disk steps
  refine hcoherent.symbols_eq tell (fun d hd => ?_) hlast hdigest
  rw [Step.here_of_mem_disks hd, Step.here_of_mem_disks hlast]

end Cache

end BlitzLens
