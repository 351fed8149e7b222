import BlitzLens.Workspace.Glob

/-!
# Ignore rules

An ignore file lists patterns of paths that are left out, one a line. A pattern with a slash before
its end is anchored at the directory of the ignore file, any other may match from any directory on.
A pattern that ends with a slash is for directories. A class never holds a slash. A line that starts
with `!` takes paths back in; with such lines, the last pattern that matches a path decides.
-/

namespace BlitzLens

/-- Why an ignore file cannot be used. -/
inductive IgnoreError where
  /-- A line, or a class in it, has nothing left to match. -/
  | emptyPattern
  /-- A class holds a range whose end comes before its start, or is a bare negation. -/
  | emptyRange
  /-- The file is not text in UTF-8. -/
  | noText
  deriving DecidableEq, Repr

/-- One line of an ignore file. -/
structure IgnoreRule where
  /-- The pattern, or what is wrong with a class of it. -/
  pattern : Except IgnoreError Glob
  /-- Whether the pattern matches from the start of a path only. -/
  anchored : Bool
  /-- Whether the pattern is for directories. -/
  directoryOnly : Bool
  /-- Whether matching paths are taken back in. -/
  negated : Bool

namespace IgnoreRule

/-- A pattern in which a run of stars counts as two stars if it fills the place between two slashes,
and as one star otherwise. `opening` tells whether a slash or nothing stands before the text; `fuel`
bounds its length. -/
def collapseStars : Nat → Bool → Text → Text
  | 0, _, text => text
  | _ + 1, _, [] => []
  | fuel + 1, opening, c :: rest =>
    let stars := (c :: rest).takeWhile (· == '*')
    if 2 ≤ stars.length then
      let rest := (c :: rest).drop stars.length
      let closing := rest.head?.all (· == '/')
      let kept : Text := if opening && closing then ['*', '*'] else ['*']
      kept ++ collapseStars fuel false rest
    else c :: collapseStars fuel (c == '/') rest

/-- Removes the spaces at the end of a pattern that is given in reverse, in front of `tail`. A space
behind a backslash stays, and from then on all others stay; the first two characters of a pattern
are never looked at. -/
def trimSpaces (strip : Bool) (tail : Text) : Text → Text
  | ' ' :: '\\' :: c :: rest => trimSpaces false (' ' :: tail) (c :: rest)
  | ' ' :: c :: d :: rest =>
    if strip then trimSpaces strip tail (c :: d :: rest)
    else trimSpaces strip (' ' :: tail) (c :: d :: rest)
  | reversed => reversed.reverse ++ tail

/-- The pattern without its first character, if that is `c`. -/
def dropMark (c : Char) : Text → Option Text
  | [] => none
  | d :: rest => some (if d == c then rest else d :: rest)

/-- The pattern without the backslash before a mark that opens it. -/
def unescapeMark : Text → Option Text
  | [] => none
  | ['\\'] => none
  | '\\' :: c :: rest => some (if c == '#' || c == '!' then c :: rest else '\\' :: c :: rest)
  | pattern => some pattern

/-- The piece that the text of a class stands for; slashes in it do not count. -/
def ofClass (text : Text) : Except IgnoreError GlobPiece :=
  let text := text.filter (· != '/')
  let negated := text.head? == some '!'
  let parts := Glob.classParts (if negated then text.drop 1 else text)
  if text.isEmpty then .error .emptyPattern
  else if text == ['!'] then .error .emptyRange
  else if (Glob.spannedRanges parts).any fun (first, last) => last.toNat < first.toNat then
    .error .emptyRange
  else .ok (.oneOf ⟨negated, Glob.classRanges parts⟩)

/-- A pattern that starts with a piece. An empty class goes before an empty range. -/
def startWith (piece : Except IgnoreError GlobPiece) (pieces : Except IgnoreError Glob) :
    Except IgnoreError Glob :=
  match piece, pieces with
  | .ok piece, .ok pieces => .ok (piece :: pieces)
  | .error .emptyPattern, _ => .error .emptyPattern
  | .error error, .ok _ => .error error
  | _, .error error => .error error

/-- The pattern that a text spells, in which wildcards stop at slashes; `fuel` bounds the number of
its pieces. -/
def readGlob : Nat → Text → Except IgnoreError Glob
  | 0, _ => .ok []
  | _ + 1, [] => .ok []
  | fuel + 1, '*' :: '*' :: '/' :: rest => startWith (.ok .directories) (readGlob fuel rest)
  | fuel + 1, '*' :: '*' :: rest => startWith (.ok (.run true)) (readGlob fuel rest)
  | fuel + 1, '*' :: rest => startWith (.ok (.run false)) (readGlob fuel rest)
  | fuel + 1, '?' :: rest => startWith (.ok (.any false)) (readGlob fuel rest)
  | fuel + 1, '[' :: rest =>
    match Glob.classLength? rest with
    | some n => startWith (ofClass (rest.take n)) (readGlob fuel (rest.drop (n + 1)))
    | none => startWith (.ok (.char '[')) (readGlob fuel rest)
  | fuel + 1, c :: rest => startWith (.ok (.char c)) (readGlob fuel rest)

/-- The pattern of a line without the marks at its ends, and whether it may match from any directory
on for two stars in front. -/
def bareName? (pattern : Text) : Option (Text × Bool) := do
  let pattern ← dropMark '/' pattern
  let free := ['*', '*'].isPrefixOf pattern
  let pattern ← dropMark '/' (if free then pattern.drop 2 else pattern)
  let pattern ← (dropMark '/' pattern.reverse).map List.reverse
  let pattern ← unescapeMark pattern
  return (trimSpaces true [] pattern.reverse, free)

/-- The rule of a line, if it has one. -/
def ofLine (line : Text) : Except IgnoreError (Option IgnoreRule) :=
  if line.isBlankText || line.head? == some '#' then .ok none
  else
    let negated := line.head? == some '!'
    let line := if negated then line.drop 1 else line
    let pattern := collapseStars line.length true line
    if Text.trimEnd pattern == ['/'] then .ok none
    else
      match bareName? pattern with
      | none => .error .emptyPattern
      | some (name, free) =>
        match readGlob name.length name with
        | .error .emptyPattern => .error .emptyPattern
        -- an empty range is no fault until the rule is asked
        | read =>
          .ok (some {
            pattern := read
            anchored := pattern.dropLast.contains '/' && !free
            directoryOnly := pattern.getLast? == some '/'
            negated })

/-- Whether a text left over by the pattern may stand behind a match. -/
def mayFollow (rule : IgnoreRule) (rest : Text) : Bool :=
  if !rule.directoryOnly then rest.isEmpty
  else if rule.negated then rest == ['/']
  else rest.isEmpty || rest.head? == some '/'

/-- Whether a rule matches a path. -/
def isMatch (rule : IgnoreRule) (path : Text) : Except IgnoreError Bool :=
  match rule.pattern with
  | .error error => .error error
  | .ok pattern =>
    let starts := if rule.anchored then [path] else path :: GlobPiece.endingsBehindSlash path
    .ok ((pattern.rests starts).any rule.mayFollow)

end IgnoreRule

namespace Ignore

/-- The rules of an ignore file. -/
def read (lines : List Text) : Except IgnoreError (List IgnoreRule) := do
  return (← lines.mapM IgnoreRule.ofLine).filterMap id

/-- Whether one of the rules matches a path. -/
def anyMatch (path : Text) : List IgnoreRule → Except IgnoreError Bool
  | [] => .ok false
  | rule :: rules => do if ← rule.isMatch path then return true else anyMatch path rules

/-- Whether the first of the rules that matches a path leaves it out. -/
def firstMatch (path : Text) : List IgnoreRule → Except IgnoreError Bool
  | [] => .ok false
  | rule :: rules => do if ← rule.isMatch path then return !rule.negated else firstMatch path rules

/-- Whether rules leave out a path. -/
def ignores (rules : List IgnoreRule) (path : Text) : Except IgnoreError Bool :=
  if rules.any IgnoreRule.negated then firstMatch path rules.reverse else anyMatch path rules

end Ignore

end BlitzLens
