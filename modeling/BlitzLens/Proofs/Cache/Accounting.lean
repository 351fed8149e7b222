import BlitzLens.Proofs.Cache.Coherence
import Mathlib.Data.List.Dedup
import Mathlib.Data.List.DropRight

/-!
# The accounts of the cache

A cache that has room for some entries keeps those that were requested last. An entry is found by
the key of its document, and what an answered request does to the keys is the same in all cases
(`Cache.Answer.keys_eq`): the requested key moves to the end, and what is too many is dropped at the
front. So the keys stay in the order of their latest requests, and as long as nothing is invalidated
they are the last of all keys that were ever requested. The counters account for every entry: one
is made at each miss, and every one that is gone was stale, evicted or invalidated.

## Main definitions

* `Cache.Answer`: the ways in which a request is answered, with the cache that each leaves.
* `Cache.Accounted`: the counters add up and the keys are in order.

## Main results

* `Cache.Accounted.run`: every run of answered requests keeps the accounts.
* `Cache.Accounted.recent_run`: without invalidations, the cache holds the keys that were requested
  last.
-/

namespace BlitzLens

/-! ## Lists by recency -/

section Recency

variable {α : Type}

/-- A list that is short enough is taken whole. -/
theorem rtake_of_length_le {list : List α} {n : Nat} (h : list.length ≤ n) :
    list.rtake n = list := by
  rw [List.rtake, Nat.sub_eq_zero_of_le h, List.drop_zero]

/-- What is taken from the end of a list that is long enough does not reach into what stands in
front of it. -/
theorem rtake_append_of_le {front list : List α} {n : Nat} (h : n ≤ list.length) :
    (front ++ list).rtake n = list.rtake n := by
  rw [List.rtake, List.rtake, List.length_append, Nat.add_sub_assoc h, List.drop_length_add_append]

variable [BEq α] [LawfulBEq α]

/-- Of a list without repetitions, only the last elements matter to those that are last when an
element is moved to the end. -/
theorem rtake_concat_erase {list : List α} (hnodup : list.Nodup) (a : α) (n : Nat) :
    ((list.rtake n).erase a ++ [a]).rtake n = (list.erase a ++ [a]).rtake n := by
  cases n with
  | zero => rw [List.rtake_zero, List.rtake_zero]
  | succ n =>
    rw [List.rtake_concat_succ, List.rtake_concat_succ]
    rcases Nat.le_total list.length (n + 1) with hle | hle
    · rw [rtake_of_length_le hle]
    · -- the list falls into a front that is forgotten and the last elements
      obtain ⟨front, hlist⟩ : ∃ front, list = front ++ list.rtake (n + 1) :=
        ⟨_, (List.take_append_drop _ list).symm⟩
      have hlength : (list.rtake (n + 1)).length = n + 1 := by
        rw [List.rtake, List.length_drop]
        omega
      generalize list.rtake (n + 1) = last at hlist hlength
      subst hlist
      by_cases hmem : a ∈ front
      · -- the element is not among the last ones, which stay as they are
        have hlast : a ∉ last := fun h => (List.disjoint_of_nodup_append hnodup) hmem h
        rw [List.erase_of_not_mem hlast, List.erase_append_left _ hmem,
          rtake_append_of_le (by omega)]
      · -- at most one of the last elements goes, and enough of them remain
        have herase := List.le_length_erase (l := last) (a := a)
        rw [List.erase_append_right _ hmem, rtake_append_of_le (by omega)]

/-- One more element at the end is kept there, and nowhere else. -/
theorem dedup_concat [DecidableEq α] (list : List α) (a : α) :
    (list ++ [a]).dedup = list.dedup.erase a ++ [a] := by
  induction list with
  | nil => rfl
  | cons b list ih =>
    rw [List.cons_append, List.dedup_cons, ih]
    by_cases hmem : b ∈ list
    · rw [if_pos (List.mem_append_left _ hmem), List.dedup_cons_of_mem hmem]
    · rw [List.dedup_cons_of_notMem hmem]
      by_cases heq : b = a
      · -- the first element is repeated at the end only, where it is kept instead
        rw [heq] at hmem ⊢
        rw [if_pos (by simp), List.erase_cons_head,
          List.erase_of_not_mem fun h => hmem (List.mem_dedup.1 h)]
      · rw [if_neg (by simp [hmem, heq]), List.erase_cons_tail (by simpa using heq)]
        rfl

end Recency

/-! ## Keys -/

/-- What an entry is found by: the path of its document and the digest of its text. -/
def CacheEntry.key (entry : CacheEntry) : Text × Text :=
  (entry.path, entry.digest)

/-- The keys that steps ask for, where `digest` is the digest of the cache. -/
def Step.requestedKeys (digest : Text → Text) (steps : List (Step (Text × Text))) :
    List (Text × Text) :=
  steps.filterMap fun step => step.request?.map fun request => (request.1, digest request.2)

/-- The keys that a run asks for are those of its first step and then those of the others. -/
theorem Step.requestedKeys_cons (digest : Text → Text) (step : Step (Text × Text))
    (steps : List (Step (Text × Text))) :
    requestedKeys digest (step :: steps) =
      requestedKeys digest [step] ++ requestedKeys digest steps :=
  List.filterMap_append (l := [step])

/-- A step that is no request asks for no key. -/
theorem Step.requestedKeys_singleton_eq_nil {step : Step (Text × Text)}
    (h : step.request? = none) (digest : Text → Text) : requestedKeys digest [step] = [] := by
  rw [requestedKeys, List.filterMap_cons, h]
  rfl

namespace Cache

variable {cache next : Cache} {disk : Disk} {path text : Text}

/-- The keys of the entries, the one asked for last at the end. -/
def keys (cache : Cache) : List (Text × Text) :=
  cache.entries.map CacheEntry.key

/-- There are as many keys as entries. -/
theorem length_keys (cache : Cache) : cache.keys.length = cache.entries.length :=
  List.length_map _

/-- The entry that is found has the requested key. -/
theorem key_of_find? {entry : CacheEntry} (h : cache.find? path text = some entry) :
    entry.key = (path, cache.digest text) := by
  obtain ⟨-, hpath, hdigest⟩ := find?_eq_some h
  rw [CacheEntry.key, hpath, hdigest]

/-- The key of the entry that is found is one of the keys. -/
theorem mem_keys_of_find? {entry : CacheEntry} (h : cache.find? path text = some entry) :
    (path, cache.digest text) ∈ cache.keys :=
  List.mem_map.2 ⟨entry, (find?_eq_some h).1, key_of_find? h⟩

/-- Where no entry is found, the requested key is none of the keys. -/
theorem notMem_keys_of_find? (h : cache.find? path text = none) :
    (path, cache.digest text) ∉ cache.keys := by
  intro hmem
  obtain ⟨entry, hentry, hkey⟩ := List.mem_map.1 hmem
  have hfor := List.find?_eq_none.1 h entry hentry
  simp only [CacheEntry.key, Prod.mk.injEq] at hkey
  simp [CacheEntry.isFor, hkey.1, hkey.2] at hfor

/-- The keys of the other entries are all keys but the requested one. -/
theorem map_key_others (hnodup : cache.keys.Nodup) (path text : Text) :
    (cache.others path text).map CacheEntry.key = cache.keys.erase (path, cache.digest text) := by
  rw [hnodup.erase_eq_filter, keys, List.filter_map, others]
  rfl

/-- The other entries are one less where an entry is found. -/
theorem length_others (hnodup : cache.keys.Nodup) {entry : CacheEntry}
    (h : cache.find? path text = some entry) :
    (cache.others path text).length + 1 = cache.entries.length := by
  have hmem := mem_keys_of_find? h
  have hpos := List.length_pos_of_mem hmem
  have hlength := congrArg List.length (map_key_others hnodup path text)
  rw [List.length_map, List.length_erase_of_mem hmem] at hlength
  rw [length_keys] at hpos hlength
  omega

/-- Making room keeps the keys that were asked for last. -/
theorem keys_makeRoom {room : Nat} (h : cache.capacity = room) :
    cache.makeRoom.1.keys = cache.keys.rtake room := by
  have hdropped : min ((cache.entries.length : Int) - cache.capacity).toNat cache.entries.length =
      cache.entries.length - room := by
    rw [h]
    omega
  simp only [makeRoom, keys, List.rtake, List.length_map, List.map_drop, hdropped]

/-- Every entry that is dropped to make room is counted. -/
theorem length_makeRoom_add_evictions (cache : Cache) :
    cache.makeRoom.1.entries.length + cache.makeRoom.1.stats.evictions =
      cache.entries.length + cache.stats.evictions := by
  simp only [makeRoom, List.length_drop]
  omega

/-! ## Answered requests -/

/-- The cache without the entry for a document whose files have changed. -/
def withoutStale (cache : Cache) (path text : Text) : Cache :=
  { cache with
    entries := cache.others path text
    stats := { cache.stats with invalidations := cache.stats.invalidations + 1 } }

/-- The ways in which a request is answered, with the cache afterwards. -/
inductive Answer (cache : Cache) (path text : Text) : Cache → Prop
  /-- The entry that is found answers, and moves to the end. -/
  | hit {entry : CacheEntry} (found : cache.find? path text = some entry) :
    Answer cache path text { cache with
      entries := cache.others path text ++ [entry]
      stats := { cache.stats with hits := cache.stats.hits + 1 } }
  /-- No entry is found, and a new pass is kept. -/
  | miss {symbols : List Symbol} {dependencies : List Dependency}
    (absent : cache.find? path text = none) :
    Answer cache path text (cache.withOutcome path text symbols dependencies).makeRoom.1
  /-- The entry that is found is dropped, and a new pass is kept. -/
  | stale {entry : CacheEntry} {symbols : List Symbol} {dependencies : List Dependency}
    (found : cache.find? path text = some entry) :
    Answer cache path text
      ((cache.withoutStale path text).withOutcome path text symbols dependencies).makeRoom.1

/-- A pass that is answered with symbols is kept. -/
theorem exists_of_runPass (h : (cache.runPass disk path text).1.isOk = true) :
    ∃ symbols dependencies, (cache.runPass disk path text).2.1 =
      (cache.withOutcome path text symbols dependencies).makeRoom.1 := by
  cases hpass : (extract disk cache.rules path text).1 with
  | error error =>
    rw [(runPass_of_error hpass).1] at h
    cases h
  | ok symbols => exact ⟨symbols, _, (runPass_of_ok hpass).2⟩

/-- A request that succeeds is answered in one of the ways. -/
theorem answer_of_symbols (h : (cache.symbols disk path text).1.isOk = true) :
    cache.Answer path text (cache.symbols disk path text).2.1 := by
  unfold Cache.symbols at h ⊢
  cases hfind : cache.find? path text with
  | none =>
    rw [hfind] at h
    obtain ⟨symbols, dependencies, hnext⟩ := exists_of_runPass h
    exact hnext ▸ .miss hfind
  | some entry =>
    rw [hfind] at h
    by_cases hcurrent : entry.isCurrent disk = true
    · simp only [hcurrent, ↓reduceIte]
      exact .hit hfind
    · simp only [hcurrent, Bool.false_eq_true, ↓reduceIte] at h ⊢
      obtain ⟨symbols, dependencies, hnext⟩ := exists_of_runPass h
      exact hnext ▸ .stale hfind

/-- A new pass is kept under the requested key, and room is made for it. -/
theorem keys_withOutcome_makeRoom {room : Nat} (h : cache.capacity = room) (path text : Text)
    (symbols : List Symbol) (dependencies : List Dependency) :
    (cache.withOutcome path text symbols dependencies).makeRoom.1.keys =
      (cache.keys ++ [(path, cache.digest text)]).rtake room := by
  have hcapacity : (cache.withOutcome path text symbols dependencies).capacity = room := h
  rw [keys_makeRoom hcapacity, keys, withOutcome, List.map_append]
  rfl

/-- However a request is answered, its key moves to the end and the keys that were asked for last
are kept. -/
theorem Answer.keys_eq (h : cache.Answer path text next) {room : Nat}
    (hcapacity : cache.capacity = room) (hbound : cache.entries.length ≤ room)
    (hnodup : cache.keys.Nodup) :
    next.keys =
      (cache.keys.erase (path, cache.digest text) ++ [(path, cache.digest text)]).rtake room := by
  have hothers := map_key_others hnodup path text
  cases h with
  | @hit entry found =>
    -- no entry is added, so that there is still room for all
    have hlength := length_others hnodup found
    rw [rtake_of_length_le, ← hothers, ← key_of_find? found]
    · exact List.map_append
    · rw [List.length_append, ← hothers, List.length_map, List.length_singleton]
      omega
  | miss absent =>
    rw [keys_withOutcome_makeRoom hcapacity, List.erase_of_not_mem (notMem_keys_of_find? absent)]
  | stale found =>
    -- what is left without the stale entry is what is left when its key is erased
    have hstale : (cache.withoutStale path text).capacity = room := hcapacity
    rw [keys_withOutcome_makeRoom hstale, ← hothers]
    rfl

/-- However a request is answered, it is counted once, as a hit or as a miss. -/
theorem Answer.hits_add_misses (h : cache.Answer path text next) :
    next.stats.hits + next.stats.misses = cache.stats.hits + cache.stats.misses + 1 := by
  cases h with
  | hit => exact Nat.add_right_comm ..
  | miss | stale => rfl

/-- However a request is answered, a miss makes an entry, and each entry that is gone is counted as
stale or as evicted. -/
theorem Answer.balance (h : cache.Answer path text next) (hnodup : cache.keys.Nodup) :
    next.entries.length + next.stats.invalidations + next.stats.evictions + cache.stats.misses =
      cache.entries.length + cache.stats.invalidations + cache.stats.evictions +
        next.stats.misses := by
  cases h with
  | hit found =>
    have hlength := length_others hnodup found
    simp only [List.length_append, List.length_singleton]
    omega
  | @miss symbols dependencies absent =>
    -- the new entry is in the cache before room is made, so that it may be evicted at once
    have hroom := length_makeRoom_add_evictions
      (cache.withOutcome path text symbols dependencies)
    simp only [withOutcome, makeRoom, List.length_append, List.length_singleton] at hroom ⊢
    omega
  | @stale entry symbols dependencies found =>
    have hlength := length_others hnodup found
    have hroom := length_makeRoom_add_evictions
      ((cache.withoutStale path text).withOutcome path text symbols dependencies)
    simp only [withOutcome, withoutStale, makeRoom, List.length_append,
      List.length_singleton] at hroom ⊢
    omega

/-- Requests leave the digest and the capacity. -/
theorem Answer.digest_capacity (h : cache.Answer path text next) :
    next.digest = cache.digest ∧ next.capacity = cache.capacity := by
  cases h <;> exact ⟨rfl, rfl⟩

/-! ## Accounts -/

/-- How many entries a step drops because it is told to. -/
def invalidated (cache : Cache) : Step (Text × Text) → Nat
  | .invalidate path => cache.entries.length - (cache.invalidate path).entries.length
  | _ => 0

/-- How many entries the steps of a run drop because they are told to. -/
def invalidatedAlong (cache : Cache) (disk : Disk) : List (Step (Text × Text)) → Nat
  | [] => 0
  | step :: steps =>
    cache.invalidated step + invalidatedAlong (cache.after disk step) (step.disk disk) steps

/-- Every request of a run is answered with symbols. -/
def Answers (cache : Cache) (disk : Disk) : List (Step (Text × Text)) → Prop
  | [] => True
  | step :: steps =>
    (∀ request ∈ step.request?, (cache.symbols disk request.1 request.2).1.isOk = true) ∧
      Answers (cache.after disk step) (step.disk disk) steps

/-- Whether all requests are answered is decided along the run. -/
instance Answers.decidable (cache : Cache) (disk : Disk) :
    (steps : List (Step (Text × Text))) → Decidable (cache.Answers disk steps)
  | [] => inferInstanceAs (Decidable True)
  | step :: steps =>
    have := Answers.decidable (cache.after disk step) (step.disk disk) steps
    inferInstanceAs (Decidable (_ ∧ _))

/-- The counters of a cache with room for `room` entries add up and its keys are in order, after
requests for the keys `requested` and when `dropped` entries were invalidated. -/
structure Accounted (digest : Text → Text) (room : Nat) (requested : List (Text × Text))
    (dropped : Nat) (cache : Cache) : Prop where
  /-- The digest stays what it is. -/
  digest_eq : cache.digest = digest
  /-- The capacity stays what it is. -/
  capacity_eq : cache.capacity = room
  /-- There is room for all entries. -/
  bounded : cache.entries.length ≤ room
  /-- Every request is a hit or a miss. -/
  answers : cache.stats.hits + cache.stats.misses = requested.length
  /-- Every miss made an entry, which is kept, was stale, was evicted or was invalidated. -/
  balance : cache.entries.length + cache.stats.invalidations + cache.stats.evictions + dropped =
    cache.stats.misses
  /-- The keys stand in the order of their latest requests, without repetitions. -/
  ordered : cache.keys.Sublist requested.dedup

variable {digest : Text → Text} {room dropped : Nat} {requested : List (Text × Text)}

/-- The accounts of an empty cache. -/
theorem accounted_empty (rules : IncludeRules) (room : Nat) (digest : Text → Text) :
    Accounted digest room [] 0 (.empty rules room digest) where
  digest_eq := rfl
  capacity_eq := rfl
  bounded := Nat.zero_le _
  answers := rfl
  balance := rfl
  ordered := List.nil_sublist _

/-- The keys do not repeat. -/
theorem Accounted.nodup (h : Accounted digest room requested dropped cache) : cache.keys.Nodup :=
  (List.nodup_dedup _).sublist h.ordered

/-- What the keys are after an answered request. -/
theorem Accounted.keys_answer (h : Accounted digest room requested dropped cache)
    (hanswer : cache.Answer path text next) :
    next.keys = (cache.keys.erase (path, digest text) ++ [(path, digest text)]).rtake room :=
  h.digest_eq ▸ hanswer.keys_eq h.capacity_eq h.bounded h.nodup

/-- An answered request keeps the accounts. -/
theorem Accounted.answer (h : Accounted digest room requested dropped cache)
    (hanswer : cache.Answer path text next) :
    Accounted digest room (requested ++ [(path, digest text)]) dropped next where
  digest_eq := hanswer.digest_capacity.1.trans h.digest_eq
  capacity_eq := hanswer.digest_capacity.2.trans h.capacity_eq
  bounded := by
    rw [← length_keys, h.keys_answer hanswer, List.rtake, List.length_drop]
    omega
  answers := by
    rw [hanswer.hits_add_misses, h.answers, List.length_append, List.length_singleton]
  balance := by
    have hbefore := h.balance
    have hafter := hanswer.balance h.nodup
    omega
  ordered := by
    -- the key moves to the end of the requests just as it does in the cache
    rw [h.keys_answer hanswer, dedup_concat]
    exact (List.drop_sublist _ _).trans ((h.ordered.erase _).append (List.Sublist.refl _))

/-- Invalidation only drops entries. -/
theorem entries_invalidate_sublist (cache : Cache) (path : Option Text) :
    (cache.invalidate path).entries.Sublist cache.entries := by
  cases path with
  | none => exact List.nil_sublist _
  | some path => exact List.filter_sublist

/-- Invalidation keeps the accounts. -/
theorem Accounted.invalidate (h : Accounted digest room requested dropped cache)
    (path : Option Text) :
    Accounted digest room requested (dropped + cache.invalidated (.invalidate path))
      (cache.invalidate path) := by
  have hsublist := entries_invalidate_sublist cache path
  have hlength := hsublist.length_le
  have hstats : (cache.invalidate path).stats = cache.stats := by cases path <;> rfl
  exact
    { digest_eq := by cases path <;> exact h.digest_eq
      capacity_eq := by cases path <;> exact h.capacity_eq
      bounded := hlength.trans h.bounded
      answers := hstats ▸ h.answers
      balance := by
        have hbalance := h.balance
        rw [hstats, invalidated]
        omega
      ordered := (hsublist.map _).trans h.ordered }

/-- A step whose request, if any, is answered keeps the accounts. -/
theorem Accounted.after (h : Accounted digest room requested dropped cache)
    {step : Step (Text × Text)}
    (hanswers : ∀ request ∈ step.request?,
      (cache.symbols disk request.1 request.2).1.isOk = true) :
    Accounted digest room (requested ++ Step.requestedKeys digest [step])
      (dropped + cache.invalidated step) (cache.after disk step) := by
  cases step with
  | ask request =>
    exact h.answer (answer_of_symbols (hanswers request rfl))
  | change read stat =>
    rw [Step.requestedKeys_singleton_eq_nil rfl, List.append_nil]
    exact h
  | invalidate path =>
    rw [Step.requestedKeys_singleton_eq_nil rfl, List.append_nil]
    exact h.invalidate path

/-- Every run of answered requests keeps the accounts. -/
theorem Accounted.run (h : Accounted digest room requested dropped cache)
    {steps : List (Step (Text × Text))} (hanswers : cache.Answers disk steps) :
    Accounted digest room (requested ++ Step.requestedKeys digest steps)
      (dropped + cache.invalidatedAlong disk steps) (Step.run Cache.after cache disk steps) := by
  -- the requests and the invalidated entries so far grow along the run, the disk changes
  induction steps generalizing requested dropped cache disk with
  | nil => simpa [Step.requestedKeys, invalidatedAlong, Step.run] using h
  | cons step steps ih =>
    have hrun := ih (h.after hanswers.1) hanswers.2
    rw [List.append_assoc, ← Step.requestedKeys_cons, Nat.add_assoc] at hrun
    exact hrun

/-- Where the cache holds the keys that were requested last, it does so after a step that does not
invalidate. -/
theorem Accounted.recent_after (h : Accounted digest room requested dropped cache)
    (hrecent : cache.keys = requested.dedup.rtake room) {step : Step (Text × Text)}
    (hanswers : ∀ request ∈ step.request?,
      (cache.symbols disk request.1 request.2).1.isOk = true)
    (hkept : ∀ path, step ≠ .invalidate path) :
    (cache.after disk step).keys =
      (requested ++ Step.requestedKeys digest [step]).dedup.rtake room := by
  cases step with
  | ask request =>
    -- keys that were dropped earlier do not come back into reach
    have hkeys := h.keys_answer (answer_of_symbols (hanswers request rfl))
    rw [hrecent, rtake_concat_erase (List.nodup_dedup _), ← dedup_concat] at hkeys
    exact hkeys
  | change read stat =>
    rw [Step.requestedKeys_singleton_eq_nil rfl, List.append_nil]
    exact hrecent
  | invalidate path => exact absurd rfl (hkept path)

/-- Without invalidations, a cache holds the keys that were requested last. -/
theorem Accounted.recent_run (h : Accounted digest room requested dropped cache)
    (hrecent : cache.keys = requested.dedup.rtake room) {steps : List (Step (Text × Text))}
    (hanswers : cache.Answers disk steps) (hkept : ∀ path, .invalidate path ∉ steps) :
    (Step.run Cache.after cache disk steps).keys =
      (requested ++ Step.requestedKeys digest steps).dedup.rtake room := by
  induction steps generalizing requested dropped cache disk with
  | nil => simpa [Step.requestedKeys, Step.run] using hrecent
  | cons step steps ih =>
    have hstep := h.recent_after hrecent hanswers.1 fun path heq => hkept path (by simp [heq])
    have hrun := ih (h.after hanswers.1) hstep hanswers.2
      fun path hmem => hkept path (List.mem_cons_of_mem _ hmem)
    rw [List.append_assoc, ← Step.requestedKeys_cons] at hrun
    exact hrun

/-- However an empty cache is run, as long as its requests succeed: it has room for its entries,
every request is a hit or a miss, every miss made an entry that is still there unless it was stale,
evicted or invalidated, and the entries stand in the order of their latest requests. Where nothing
is invalidated, they are those of the documents that were requested last, as many as there is room
for. -/
theorem run_empty_accounts (rules : IncludeRules) (capacity : Nat) (digest : Text → Text)
    (disk : Disk) (steps : List (Step (Text × Text)))
    (hanswers : (Cache.empty rules capacity digest).Answers disk steps) :
    let cache := Step.run Cache.after (.empty rules capacity digest) disk steps
    let requested := Step.requestedKeys digest steps
    let dropped := (Cache.empty rules capacity digest).invalidatedAlong disk steps
    cache.entries.length ≤ capacity ∧
      cache.stats.hits + cache.stats.misses = requested.length ∧
      (cache.entries.length : Int) =
        cache.stats.misses - cache.stats.invalidations - cache.stats.evictions - dropped ∧
      cache.keys.Sublist requested.dedup ∧
      ((∀ path, .invalidate path ∉ steps) →
        cache.keys = requested.dedup.rtake capacity ∧
          cache.entries.length = min capacity requested.dedup.length) := by
  intro cache requested dropped
  have hempty := accounted_empty rules capacity digest
  have hrun : Accounted digest capacity requested dropped cache := by
    have hrun := hempty.run hanswers
    rwa [List.nil_append, Nat.zero_add] at hrun
  refine ⟨hrun.bounded, hrun.answers, ?_, hrun.ordered, fun hkept => ?_⟩
  · have hbalance := hrun.balance
    omega
  · -- nothing has been requested yet, and the empty cache holds all of it
    have hrecent : cache.keys = requested.dedup.rtake capacity :=
      hempty.recent_run (List.drop_nil).symm hanswers hkept
    refine ⟨hrecent, ?_⟩
    rw [← length_keys, hrecent, List.rtake, List.length_drop]
    omega

/-- A cache with room for two documents: the first is asked for anew after the file that it
includes has changed, so that the second one makes room for the third. -/
theorem run_empty_accounts_stale :
    let disk := Disk.ofFile "lib.bb" (Encoding.encodeUtf8 "Global a") 1
    let later := Disk.ofFile "lib.bb" (Encoding.encodeUtf8 "Global b") 2
    let rules : IncludeRules := ⟨[], true, 32⟩
    let first : Text × Text := ("first.bb", "Include \"lib.bb\"")
    let second : Text × Text := ("second.bb", "Global two")
    let third : Text × Text := ("third.bb", "Global three")
    let steps := [.ask first, .ask second, .ask second, .change later.read later.stat, .ask first,
      .ask third]
    let cache := Step.run Cache.after (.empty rules 2) disk steps
    (Cache.empty rules 2).Answers disk steps ∧ (∀ path, .invalidate path ∉ steps) ∧
      cache.stats = ⟨1, 4, 1, 1⟩ ∧ cache.keys = [first, third] ∧
      cache.keys = (Step.requestedKeys id steps).dedup.rtake 2 := by
  intro disk later rules first second third steps cache
  have hanswers : (Cache.empty rules 2).Answers disk steps := by decide +kernel
  have hkept : ∀ path, .invalidate path ∉ steps := by simp [steps]
  refine ⟨hanswers, hkept, by decide +kernel, by decide +kernel, ?_⟩
  have haccounts := run_empty_accounts rules 2 id disk steps hanswers
  exact (haccounts.2.2.2.2 hkept).1

end Cache

end BlitzLens
