import BlitzLens.Extraction.Scan

/-!
# The extraction cache

A pass depends on the path and text of its document, on the rules for includes and on every file it
read. The cache keeps the symbols of the passes that were asked for last, with a digest of their
text and the stamps of the files they read. An entry is dropped as soon as one of its files has
changed, has vanished or has become readable, so that what the cache answers is what a new pass
would find.
-/

namespace BlitzLens

/-- The outcome of one pass. -/
structure CacheEntry where
  /-- The path of the document. -/
  path : Text
  /-- The digest of the text of the document. -/
  digest : Text
  /-- The symbols of the document. -/
  symbols : List Symbol
  /-- The files that the pass depends on. -/
  dependencies : List Dependency
  deriving DecidableEq, Repr

/-- How often what happened. -/
structure CacheStats where
  /-- Answers from the cache. -/
  hits : Nat
  /-- New passes. -/
  misses : Nat
  /-- Entries dropped because a file had changed. -/
  invalidations : Nat
  /-- Entries dropped for lack of room. -/
  evictions : Nat
  deriving DecidableEq, Repr

/-- A bounded cache of passes. -/
structure Cache where
  /-- The rules for includes. -/
  rules : IncludeRules
  /-- The digest by which texts are told apart. -/
  digest : Text → Text
  /-- The number of entries there is room for. -/
  capacity : Int
  /-- The entries, the one asked for last at the end. -/
  entries : List CacheEntry
  /-- How often what happened. -/
  stats : CacheStats

/-- Why the cache cannot answer. -/
inductive CacheError where
  /-- The pass failed. -/
  | failed (error : ExtractError)
  /-- There is room for less than no entry. -/
  | nothingToDrop
  deriving DecidableEq, Repr

namespace Dependency

/-- Whether a file is as it was when the pass met it. -/
def isCurrent (disk : Disk) (dependency : Dependency) : Bool :=
  match disk.stat dependency.path with
  | .ok stamp => dependency.stamp == some stamp
  | .error _ => dependency.stamp.isNone

end Dependency

namespace CacheEntry

/-- Whether an entry is the outcome for a document, given by its path and the digest of its text. -/
def isFor (entry : CacheEntry) (path digest : Text) : Bool :=
  entry.path == path && entry.digest == digest

/-- Whether every file the pass met is as it was. -/
def isCurrent (disk : Disk) (entry : CacheEntry) : Bool :=
  entry.dependencies.all (Dependency.isCurrent disk)

end CacheEntry

namespace Cache

/-- The number of entries there is room for unless a cache says otherwise. -/
def defaultCapacity : Int := 64

/-- A cache without entries. Every text is its own digest unless another digest is given. -/
def empty (rules : IncludeRules) (capacity : Int) (digest : Text → Text := id) : Cache :=
  ⟨rules, digest, capacity, [], ⟨0, 0, 0, 0⟩⟩

/-- The entry for a document. -/
def find? (cache : Cache) (path text : Text) : Option CacheEntry :=
  cache.entries.find? fun entry => entry.isFor path (cache.digest text)

/-- The entries for other documents. -/
def others (cache : Cache) (path text : Text) : List CacheEntry :=
  cache.entries.filter fun entry => !entry.isFor path (cache.digest text)

/-- Drops entries from the front until there is room for the rest. -/
def makeRoom (cache : Cache) : Cache × Except CacheError Unit :=
  let surplus := cache.entries.length - cache.capacity
  let dropped := min surplus.toNat cache.entries.length
  ({ cache with
      entries := cache.entries.drop dropped
      stats := { cache.stats with evictions := cache.stats.evictions + dropped } },
    if cache.capacity < 0 then .error .nothingToDrop else .ok ())

/-- Runs a pass and keeps its outcome. -/
def runPass (cache : Cache) (disk : Disk) (path text : Text) :
    Except CacheError (List Symbol) × Cache × List Event :=
  let cache := { cache with stats := { cache.stats with misses := cache.stats.misses + 1 } }
  match extract disk cache.rules path text with
  | (.error error, trace) => (.error (.failed error), cache, .cacheMiss path :: trace.events)
  | (.ok symbols, trace) =>
    let entry : CacheEntry := ⟨path, cache.digest text, symbols, trace.dependencies⟩
    let (cache, room) := { cache with entries := cache.entries ++ [entry] }.makeRoom
    (room.map fun _ => symbols, cache, .cacheMiss path :: trace.events)

/-- The symbols of a document, the cache afterwards, and what happened. -/
def symbols (cache : Cache) (disk : Disk) (path text : Text) :
    Except CacheError (List Symbol) × Cache × List Event :=
  match cache.find? path text with
  | none => cache.runPass disk path text
  | some entry =>
    let others := cache.others path text
    if entry.isCurrent disk then
      -- the entry moves to the end, where it is dropped last
      (.ok entry.symbols,
        { cache with
          entries := others ++ [entry]
          stats := { cache.stats with hits := cache.stats.hits + 1 } },
        [.cacheHit path])
    else
      let dropped : Cache :=
        { cache with
          entries := others
          stats := { cache.stats with invalidations := cache.stats.invalidations + 1 } }
      dropped.runPass disk path text

/-- The cache without the entries for a path, or without any entry when no path is given. -/
def invalidate (cache : Cache) (path : Option Text) : Cache :=
  match path with
  | none => { cache with entries := [] }
  | some path => { cache with entries := cache.entries.filter fun entry => entry.path != path }

end Cache

end BlitzLens
