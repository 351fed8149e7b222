import BlitzLens.Files.Tree
import BlitzLens.Proofs.Cache.Accounting

/-!
# Requests that are repeated at once

An entry is checked by looking at the files that its pass met, not by reading them. A file that was
read still has the stamp that was recorded of it, and what is not there is still not there. But what
is there and cannot be read, such as a directory, was recorded as missing, and does not look missing
when the entry is checked. So a request that is repeated on the same disk is a hit exactly if the
first one was, or if all that its pass could not read cannot be looked at either
(`Cache.symbols_repeated`); otherwise the entry is dropped and made anew each time.

## Main definitions

* `Dependency.Reproducible`: what could not be read cannot be looked at either.
* `Cache.EndsWith`: the last entry is the only one for a document.
* `Cache.EndsWithOutcome`: besides, it is the outcome of a pass on the disk.

## Main results

* `Dependency.isCurrent_iff_reproducible`: which dependencies are current on the disk of their pass.
* `FileTree.reproducible_iff`: on a file tree, those at whose path nothing but a file stands.
* `Cache.symbols_repeated`: what a repeated request answers, and the cache that it leaves.
-/

namespace BlitzLens

variable {disk : Disk}

/-! ## Looking again -/

/-- Where a dependency records that a file could not be read, it cannot be looked at either. -/
def Dependency.Reproducible (disk : Disk) (dependency : Dependency) : Prop :=
  dependency.stamp = none → ∃ error, disk.stat dependency.path = .error error

/-- A true record is current, on the disk that it was made on, exactly if it is reproducible. -/
theorem Dependency.isCurrent_iff_reproducible {dependency : Dependency}
    (hstamp : dependency.stamp =
      (Extraction.readStamped disk dependency.path).toOption.map Prod.snd) :
    dependency.isCurrent disk = true ↔ dependency.Reproducible disk := by
  unfold isCurrent Reproducible
  cases hread : Extraction.readStamped disk dependency.path with
  | ok found =>
    -- the file was read, so it has a stamp and is found to have it
    rw [hread] at hstamp
    have hsome : dependency.stamp = some found.2 := hstamp
    rw [Extraction.stat_of_readStamped hread, hsome]
    simp
  | error error =>
    rw [hread] at hstamp
    have hnone : dependency.stamp = none := hstamp
    cases hstat : disk.stat dependency.path <;> simp [hnone]

/-- An outcome is current, on the disk of its pass, exactly if all that the pass met is
reproducible. -/
theorem CacheEntry.IsOutcome.isCurrent_iff {entry : CacheEntry} {rules : IncludeRules} {text : Text}
    (h : entry.IsOutcome disk rules text) :
    entry.isCurrent disk = true ↔
      ∀ dependency ∈ (extract disk rules entry.path text).2.dependencies,
        dependency.Reproducible disk := by
  rw [CacheEntry.isCurrent, List.all_eq_true, h.dependencies]
  refine forall₂_congr fun dependency hmem => ?_
  rw [← h.dependencies] at hmem
  exact Dependency.isCurrent_iff_reproducible (stamp_of_mem_dependencies hmem)

/-- The disk of which nothing but one directory is known. -/
def Disk.ofDirectory (name : Text) (stamp : Stamp) : Disk where
  here := .ofText "/"
  read path := if path = name then .error ⟨.isDirectory, path⟩ else .error ⟨.notFound, path⟩
  stat path := if path = name then .ok stamp else .error ⟨.notFound, path⟩

/-- On a file tree, a true record is reproducible exactly if nothing but a file stands at its
path. -/
theorem FileTree.reproducible_iff {tree : FileTree} {dependency : Dependency}
    (hstamp : dependency.stamp =
      (Extraction.readStamped tree.disk dependency.path).toOption.map Prod.snd) :
    dependency.Reproducible tree.disk ↔
      ∀ route node, tree.find true dependency.path = .ok (route, node) →
        ∃ bytes modified, node = .file bytes modified := by
  unfold Dependency.Reproducible
  rw [hstamp]
  simp only [Extraction.readStamped, Disk.readSource, FileTree.disk, FileTree.read, FileTree.stat]
  cases hfind : tree.find true dependency.path with
  | error fault => simp
  | ok found =>
    obtain ⟨route, node⟩ := found
    cases node <;> simp [Except.map, Except.toOption, bind, Except.bind, pure, Except.pure]

/-! ## The entry for a document -/

namespace Cache

variable {cache : Cache} {path text : Text} {entry : CacheEntry}

/-- The last entry is for a document, and no other entry is. -/
structure EndsWith (cache : Cache) (path text : Text) (entry : CacheEntry) : Prop where
  /-- The entry is for the document. -/
  isFor : entry.isFor path (cache.digest text) = true
  /-- All that stands in front of the entry is for other documents. -/
  entries_eq : ∃ front, cache.entries = front ++ [entry] ∧
    ∀ other ∈ front, other.isFor path (cache.digest text) = false

/-- The last entry has the path of the document and the digest of its text. -/
theorem EndsWith.path_digest (h : cache.EndsWith path text entry) :
    entry.path = path ∧ entry.digest = cache.digest text := by
  simpa [CacheEntry.isFor] using h.isFor

/-- The entries for other documents are those in front of the last one. -/
theorem EndsWith.others_concat (h : cache.EndsWith path text entry) :
    cache.others path text ++ [entry] = cache.entries := by
  obtain ⟨front, hentries, hfront⟩ := h.entries_eq
  have hkept : front.filter (fun entry => !entry.isFor path (cache.digest text)) = front :=
    List.filter_eq_self.2 fun other hmem => by rw [hfront other hmem]; rfl
  rw [others, hentries, List.filter_append, hkept, List.filter_cons_of_neg (by simp [h.isFor]),
    List.filter_nil, List.append_nil]

/-- The last entry is the one that is found. -/
theorem EndsWith.find?_eq (h : cache.EndsWith path text entry) :
    cache.find? path text = some entry := by
  obtain ⟨front, hentries, hfront⟩ := h.entries_eq
  have hnone : front.find? (fun entry => entry.isFor path (cache.digest text)) = none :=
    List.find?_eq_none.2 fun other hmem => by simp [hfront other hmem]
  rw [find?, hentries, List.find?_append, hnone, Option.none_or]
  exact List.find?_cons_of_pos h.isFor

/-- Making room keeps the last entry, as long as there is room for one. -/
theorem EndsWith.makeRoom (h : cache.EndsWith path text entry) (hcapacity : 1 ≤ cache.capacity) :
    cache.makeRoom.1.EndsWith path text entry := by
  obtain ⟨front, hentries, hfront⟩ := h.entries_eq
  refine ⟨h.isFor, front.drop (min (cache.entries.length - cache.capacity).toNat
    cache.entries.length), ?_, fun other hmem => hfront other (List.mem_of_mem_drop hmem)⟩
  have hlength : cache.entries.length = front.length + 1 := by
    rw [hentries, List.length_append, List.length_singleton]
  exact (congrArg _ hentries).trans (List.drop_append_of_le_length (by omega))

/-- After room is made, there is room for all entries. -/
theorem length_makeRoom_le (h : 0 ≤ cache.capacity) :
    (cache.makeRoom.1.entries.length : Int) ≤ cache.makeRoom.1.capacity := by
  simp only [Cache.makeRoom, List.length_drop]
  omega

/-- Where there is room for all entries, nothing is dropped. -/
theorem makeRoom_of_le (h : cache.entries.length ≤ cache.capacity) :
    cache.makeRoom = (cache, .ok ()) := by
  have hsurplus : ((cache.entries.length : Int) - cache.capacity).toNat = 0 := by omega
  have hcapacity : ¬cache.capacity < 0 := by omega
  simp [Cache.makeRoom, hsurplus, hcapacity]

/-! ## The first request -/

/-- The cache ends with the outcome of a pass on the disk, and there is room for all entries. -/
structure EndsWithOutcome (cache : Cache) (disk : Disk) (path text : Text) (entry : CacheEntry) :
    Prop extends cache.EndsWith path text entry, entry.IsOutcome disk cache.rules text where
  /-- There is room for all entries. -/
  bounded : (cache.entries.length : Int) ≤ cache.capacity

/-- A new pass over a document for which there is no entry is kept at the end. -/
theorem runPass_endsWith (hcapacity : 1 ≤ cache.capacity) {symbols : List Symbol}
    (hok : (extract disk cache.rules path text).1 = .ok symbols)
    (habsent : ∀ other ∈ cache.entries, other.isFor path (cache.digest text) = false) :
    (cache.runPass disk path text).1 = .ok symbols ∧
      (cache.runPass disk path text).2.1.EndsWithOutcome disk path text
        ⟨path, cache.digest text, symbols,
          (extract disk cache.rules path text).2.dependencies⟩ := by
  have hnonneg : 0 ≤ cache.capacity := by omega
  obtain ⟨hanswer, hnext⟩ := runPass_of_ok hok
  refine ⟨?_, ?_⟩
  · rw [hanswer, makeRoom_ok (by exact hnonneg)]
    rfl
  · rw [hnext]
    have hkept : (cache.withOutcome path text symbols
        (extract disk cache.rules path text).2.dependencies).EndsWith path text _ :=
      ⟨by simp [CacheEntry.isFor, withOutcome], cache.entries, rfl, habsent⟩
    exact ⟨hkept.makeRoom hcapacity, ⟨hok, rfl⟩, length_makeRoom_le hnonneg⟩

/-- A request that is a hit leaves the entry at the end. -/
theorem symbols_of_hit (hfind : cache.find? path text = some entry)
    (hcurrent : entry.isCurrent disk = true) :
    (cache.symbols disk path text).1 = .ok entry.symbols ∧
      (cache.symbols disk path text).2.1.EndsWith path text entry ∧
      (cache.symbols disk path text).2.1.stats.hits = cache.stats.hits + 1 := by
  have hfor : entry.isFor path (cache.digest text) = true := by
    obtain ⟨-, hpath, hdigest⟩ := find?_eq_some hfind
    simp [CacheEntry.isFor, hpath, hdigest]
  have hothers : ∀ other ∈ cache.others path text,
      other.isFor path (cache.digest text) = false := fun other hmem => by
    simpa using (List.mem_filter.1 hmem).2
  unfold Cache.symbols
  simp only [hfind, hcurrent, ↓reduceIte, true_and, and_true]
  exact ⟨hfor, _, rfl, hothers⟩

/-- A pass counts no hit. -/
theorem hits_runPass (cache : Cache) (disk : Disk) (path text : Text) :
    (cache.runPass disk path text).2.1.stats.hits = cache.stats.hits := by
  cases hpass : (extract disk cache.rules path text).1 with
  | error error => rw [(runPass_of_error hpass).2]
  | ok symbols =>
    rw [(runPass_of_ok hpass).2]
    rfl

/-- A request for which no current entry is found runs a pass, after the stale entry, if any, is
dropped. -/
theorem symbols_eq_runPass
    (h : ∀ entry, cache.find? path text = some entry → entry.isCurrent disk = false) :
    ∃ cleared : Cache, cache.symbols disk path text = cleared.runPass disk path text ∧
      cleared.rules = cache.rules ∧ cleared.digest = cache.digest ∧
      cleared.capacity = cache.capacity ∧ cleared.stats.hits = cache.stats.hits ∧
      ∀ other ∈ cleared.entries, other.isFor path (cache.digest text) = false := by
  unfold Cache.symbols
  cases hfind : cache.find? path text with
  | none =>
    refine ⟨cache, rfl, rfl, rfl, rfl, rfl, fun other hmem => ?_⟩
    simpa using List.find?_eq_none.1 hfind other hmem
  | some entry =>
    simp only [h entry hfind, Bool.false_eq_true, ↓reduceIte]
    refine ⟨cache.withoutStale path text, rfl, rfl, rfl, rfl, rfl, fun other hmem => ?_⟩
    simpa using (List.mem_filter.1 hmem).2

/-- A request that is no hit leaves the outcome of its pass at the end. -/
theorem symbols_of_miss (hcapacity : 1 ≤ cache.capacity) {symbols : List Symbol}
    (hok : (extract disk cache.rules path text).1 = .ok symbols)
    (hmiss : ∀ entry, cache.find? path text = some entry → entry.isCurrent disk = false) :
    ∃ entry, (cache.symbols disk path text).1 = .ok entry.symbols ∧
      (cache.symbols disk path text).2.1.EndsWithOutcome disk path text entry ∧
      (cache.symbols disk path text).2.1.rules = cache.rules ∧
      (cache.symbols disk path text).2.1.stats.hits = cache.stats.hits := by
  obtain ⟨cleared, heq, hrules, hdigest, hroom, hhits, habsent⟩ := symbols_eq_runPass hmiss
  rw [heq]
  rw [← hrules] at hok ⊢
  rw [← hdigest] at habsent
  obtain ⟨hanswer, hends⟩ := runPass_endsWith (hroom ▸ hcapacity) hok habsent
  refine ⟨_, hanswer, hends, ?_, (hits_runPass ..).trans hhits⟩
  rw [(runPass_of_ok hok).2]
  rfl

/-! ## The second request -/

/-- Where the last entry is current, a request is a hit and moves nothing. -/
theorem EndsWith.symbols_of_current (h : cache.EndsWith path text entry)
    (hcurrent : entry.isCurrent disk = true) :
    (cache.symbols disk path text).1 = .ok entry.symbols ∧
      (cache.symbols disk path text).2.1 =
        { cache with stats := { cache.stats with hits := cache.stats.hits + 1 } } := by
  unfold Cache.symbols
  simp only [h.find?_eq, hcurrent, ↓reduceIte, h.others_concat, and_self]

/-- Where the last entry is the outcome of a pass on the disk and is not current, a request drops it
and puts the same entry in its place. -/
theorem EndsWithOutcome.symbols_of_stale (h : cache.EndsWithOutcome disk path text entry)
    (hstale : entry.isCurrent disk = false) :
    (cache.symbols disk path text).1 = .ok entry.symbols ∧
      (cache.symbols disk path text).2.1 = { cache with
        stats := { cache.stats with
          misses := cache.stats.misses + 1
          invalidations := cache.stats.invalidations + 1 } } := by
  obtain ⟨hpath, hdigest⟩ := h.path_digest
  have hsymbols : cache.symbols disk path text =
      (cache.withoutStale path text).runPass disk path text := by
    unfold Cache.symbols
    simp only [h.find?_eq, hstale, Bool.false_eq_true, ↓reduceIte]
    rfl
  set next : Cache := { cache with
    stats := { cache.stats with
      misses := cache.stats.misses + 1
      invalidations := cache.stats.invalidations + 1 } }
  -- the new entry is the one that was dropped, so that all entries are as before
  have hkept : (cache.withoutStale path text).withOutcome path text entry.symbols
      (extract disk (cache.withoutStale path text).rules path text).2.dependencies = next := by
    have hentry : (⟨path, cache.digest text, entry.symbols,
        (extract disk cache.rules path text).2.dependencies⟩ : CacheEntry) = entry := by
      rw [← hdigest, ← hpath, h.dependencies]
    have hentries := h.others_concat
    rw [← hentry] at hentries
    exact congrArg (fun entries => { next with entries }) hentries
  have hroom : next.makeRoom = (next, .ok ()) := makeRoom_of_le h.bounded
  have hok : (extract disk (cache.withoutStale path text).rules path text).1 =
      .ok entry.symbols := hpath ▸ h.symbols
  obtain ⟨hanswer, hnext⟩ := runPass_of_ok hok
  rw [hkept, hroom] at hanswer hnext
  rw [hsymbols]
  exact ⟨hanswer, hnext⟩

/-- A request that succeeds is repeated on the same disk. It is answered as before and leaves the
entries as they are. It is a hit if the first one was, or if nothing that its pass could not read
can be looked at; otherwise its entry has been dropped and made anew. -/
theorem symbols_repeated (hcapacity : 1 ≤ cache.capacity)
    (hok : (extract disk cache.rules path text).1.isOk = true) :
    let first := cache.symbols disk path text
    let second := first.2.1.symbols disk path text
    let again := first.2.1.stats.hits = cache.stats.hits + 1 ∨
      ∀ dependency ∈ (extract disk cache.rules path text).2.dependencies,
        dependency.Reproducible disk
    second.1 = first.1 ∧
      (again → second.2.1 = { first.2.1 with
        stats := { first.2.1.stats with hits := first.2.1.stats.hits + 1 } }) ∧
      (¬again → second.2.1 = { first.2.1 with
        stats := { first.2.1.stats with
          misses := first.2.1.stats.misses + 1
          invalidations := first.2.1.stats.invalidations + 1 } }) := by
  intro first second again
  by_cases hhit : ∃ entry, cache.find? path text = some entry ∧ entry.isCurrent disk = true
  · obtain ⟨entry, hfind, hcurrent⟩ := hhit
    obtain ⟨hanswer, hends, hhits⟩ := symbols_of_hit hfind hcurrent
    obtain ⟨hanswer', hsecond⟩ := hends.symbols_of_current hcurrent
    exact ⟨hanswer'.trans hanswer.symm, fun _ => hsecond, fun hagain => absurd (.inl hhits) hagain⟩
  · have hmiss : ∀ entry, cache.find? path text = some entry → entry.isCurrent disk = false :=
      fun entry hfind => Bool.eq_false_iff.2 fun hcurrent => hhit ⟨entry, hfind, hcurrent⟩
    obtain ⟨symbols, hpass⟩ : ∃ symbols, (extract disk cache.rules path text).1 = .ok symbols := by
      cases h : (extract disk cache.rules path text).1 with
      | error error => rw [h] at hok; cases hok
      | ok symbols => exact ⟨symbols, rfl⟩
    obtain ⟨entry, hanswer, hends, hrules, hhits⟩ := symbols_of_miss hcapacity hpass hmiss
    -- the first request is no hit, so it depends on the files alone what the second one is
    have hagain : again ↔ entry.isCurrent disk = true := by
      rw [hends.isCurrent_iff, hends.path_digest.1, hrules]
      exact or_iff_right fun hhit => Nat.succ_ne_self _ (hhit.symm.trans hhits)
    cases hcurrent : entry.isCurrent disk with
    | true =>
      obtain ⟨hanswer', hsecond⟩ := hends.symbols_of_current hcurrent
      exact ⟨hanswer'.trans hanswer.symm, fun _ => hsecond,
        fun hnot => absurd (hagain.2 hcurrent) hnot⟩
    | false =>
      obtain ⟨hanswer', hsecond⟩ := hends.symbols_of_stale hcurrent
      exact ⟨hanswer'.trans hanswer.symm, fun h => by simp [hagain.1 h] at hcurrent,
        fun _ => hsecond⟩

/-- The document includes a file that is missing, so that the second request is a hit. -/
theorem symbols_repeated_missing :
    let disk := Disk.ofFile "other.bb" [] 1
    let cache := Cache.empty ⟨[], true, 32⟩ 64
    let text : Text := "Include \"lib.bb\"\nGlobal own"
    let first := cache.symbols disk "main.bb" text
    let second := first.2.1.symbols disk "main.bb" text
    1 ≤ cache.capacity ∧ (extract disk cache.rules "main.bb" text).1.isOk = true ∧
      first.2.1.stats = ⟨0, 1, 0, 0⟩ ∧ second.2.1.stats = ⟨1, 1, 0, 0⟩ := by
  intro disk cache text first second
  have hcapacity : 1 ≤ cache.capacity := by decide
  have hok : (extract disk cache.rules "main.bb" text).1.isOk = true := by decide +kernel
  have hfirst : first.2.1.stats = ⟨0, 1, 0, 0⟩ := by decide +kernel
  have hdependencies : (extract disk cache.rules "main.bb" text).2.dependencies =
      [⟨"lib.bb", none⟩] := by decide +kernel
  have hreproducible : ∀ dependency ∈ (extract disk cache.rules "main.bb" text).2.dependencies,
      dependency.Reproducible disk := by
    rw [hdependencies, List.forall_mem_singleton]
    exact fun _ => ⟨⟨.notFound, "lib.bb"⟩, by decide +kernel⟩
  obtain ⟨-, hagain, -⟩ := symbols_repeated hcapacity hok
  refine ⟨hcapacity, hok, hfirst, ?_⟩
  rw [hagain (.inr hreproducible), hfirst]

/-- The document includes a directory, so that the second request is a miss like the first one. -/
theorem symbols_repeated_directory :
    let disk := Disk.ofDirectory "lib" ⟨0, 4096⟩
    let cache := Cache.empty ⟨[], true, 32⟩ 64
    let text : Text := "Include \"lib\"\nGlobal own"
    let first := cache.symbols disk "main.bb" text
    let second := first.2.1.symbols disk "main.bb" text
    1 ≤ cache.capacity ∧ (extract disk cache.rules "main.bb" text).1.isOk = true ∧
      first.2.1.stats = ⟨0, 1, 0, 0⟩ ∧ second.2.1.stats = ⟨0, 2, 1, 0⟩ := by
  decide +kernel

end Cache

end BlitzLens
