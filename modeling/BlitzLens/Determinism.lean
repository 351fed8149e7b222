import BlitzLens.Cache
import BlitzLens.Data.Json
import BlitzLens.Exchange.Symbols
import BlitzLens.Files.Tree

/-!
# Determinism

A check that the symbols of a file depend on nothing but the files that are read: passes over the
file, with and without a cache, must find symbols with one and the same written form.
-/

namespace BlitzLens

/-- A pass that is compared with a first one. -/
inductive RepeatedPass where
  /-- A second pass without a cache. -/
  | second
  /-- A pass through an empty cache. -/
  | cacheMiss
  /-- An answer of the cache from the pass before. -/
  | cacheHit
  deriving DecidableEq, Repr

/-- The word for a pass. -/
def RepeatedPass.word : RepeatedPass → Text
  | .second => "second-pass"
  | .cacheMiss => "cache-miss"
  | .cacheHit => "cache-hit"

/-- The outcome of the check. -/
structure Determinism where
  /-- The number of symbols that the first pass found. -/
  symbolCount : Nat
  /-- The passes that found something else. -/
  mismatches : List RepeatedPass
  deriving DecidableEq, Repr

/-- Why a file cannot be checked. -/
inductive DeterminismError where
  /-- There is no such file. -/
  | missing (path : Text)
  /-- The file cannot be read. -/
  | unreadable (error : FileError)
  /-- A pass failed. -/
  | failed (error : CacheError)
  deriving DecidableEq, Repr

/-- The message of a determinism error. -/
def DeterminismError.message : DeterminismError → Text
  | .missing path => "Source file does not exist: " ++ path
  | .unreadable error => error.message
  | .failed _ => "A pass failed"

namespace Determinism

/-- Whether all passes found the same. -/
def holds (outcome : Determinism) : Bool :=
  outcome.mismatches.isEmpty

/-- The written form of symbols, by which passes are compared. -/
def written (symbols : List Symbol) : Text :=
  Json.line (Exchange.ofSymbols symbols)

/-- The outcome of a first pass and others. -/
def compare (baseline : List Symbol) (others : List (RepeatedPass × List Symbol)) : Determinism :=
  { symbolCount := baseline.length
    mismatches :=
      (others.filter fun (_, symbols) => written symbols != written baseline).map Prod.fst }

/-- Checks a text, and tells what happened on the way. -/
def checkText (disk : Disk) (rules : IncludeRules) (path text : Text) :
    Except DeterminismError Determinism × List Event :=
  let (first, trace) := extract disk rules path text
  let (second, again) := extract disk rules path text
  let (miss, cache, missed) := (Cache.empty rules Cache.defaultCapacity).symbols disk path text
  let (hit, _, found) := cache.symbols disk path text
  match first, second, miss, hit with
  | .ok first, .ok second, .ok miss, .ok hit =>
    (.ok (compare first [(.second, second), (.cacheMiss, miss), (.cacheHit, hit)]),
      trace.events ++ again.events ++ missed ++ found)
  | .error error, _, _, _ => (.error (.failed (.failed error)), trace.events)
  | _, .error error, _, _ => (.error (.failed (.failed error)), trace.events ++ again.events)
  | _, _, .error error, _ => (.error (.failed error), trace.events ++ again.events ++ missed)
  | _, _, _, .error error =>
    (.error (.failed error), trace.events ++ again.events ++ missed ++ found)

/-- Checks the file that a path names, and tells what happened on the way. -/
def check (tree : FileTree) (rules : IncludeRules) (path : Text) :
    Except DeterminismError Determinism × List Event :=
  match tree.isFile path with
  | .error error => (.error (.unreadable error), [])
  | .ok false => (.error (.missing path), [])
  | .ok true =>
    match tree.disk.readSource path with
    | .error error => (.error (.unreadable error), [])
    | .ok text => checkText tree.disk rules path text

end Determinism

end BlitzLens
