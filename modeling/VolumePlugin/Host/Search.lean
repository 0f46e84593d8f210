import VolumePlugin.Host.FileTree
import VolumePlugin.Text.Wildcard

/-! Searches for the paths in a tree of files that match a pattern. The paths come in the order of
their names, a directory before what it holds. -/

namespace VolumePlugin.Host.Search

open Text.Wildcard (Token)

/-- The pattern of one component. -/
abbrev Pattern := List Token

/-- The character that a part of a pattern stands for, if it is one. -/
def plainChar? : Token → Option Char
  | .literal c => some c
  | _ => none

/-- The text that a pattern without wildcards stands for. -/
def plainText? (p : Pattern) : Option String :=
  (p.mapM plainChar?).map String.ofList

def isRecursive (p : Pattern) : Bool :=
  p.contains .anyDirectories

def join (path name : String) : String :=
  if path.endsWith "/" then path ++ name else s!"{path}/{name}"

/-- The patterns without recursive ones that another recursive one follows. -/
def collapse : List Pattern → List Pattern
  | p :: q :: rest =>
    if isRecursive p && isRecursive q then collapse (q :: rest) else p :: q :: rest
  | short => short

/-- The steps to the same or the upper directory that a pattern allows. It must start with a dot of
its own. -/
def dotSteps (p : Pattern) : List String :=
  if p.head? = some (.literal '.') then
    ["..", "."].filter fun s => Text.Wildcard.matchesText p s.toList
  else []

def lastName (path : String) : String :=
  (Path.fileName? path).getD ""

mutual

/-- The paths below a directory that match, with at most `fuel` calls on a way. -/
def below (t : FileTree) (onlyDirectories : Bool) : Nat → List Pattern → String → List String
  | 0, _, _ => []
  | _, [], _ => []
  | fuel + 1, p :: rest, path =>
    match plainText? p with
    | some name =>
      let next := join path name
      let isThere := if name = "." || name = ".." then t.isDirectory path else t.isPresent next
      if isThere then settle t onlyDirectories fuel rest next else []
    | none =>
      if t.isDirectory path then
        let dots := (dotSteps p).flatMap fun s => settle t onlyDirectories fuel rest (join path s)
        let place := match t.findExisting true path with
          | .ok (place, _) => place
          | .error _ => []
        let names := (t.children place).mergeSort fun a b => !decide (b < a)
        dots ++ names.flatMap fun name => visit t onlyDirectories fuel (p :: rest) (join path name)
      else []

/-- A path whose last name was checked, and what is below it. -/
def settle (t : FileTree) (onlyDirectories : Bool) : Nat → List Pattern → String → List String
  | 0, _, _ => []
  | fuel + 1, rest, path =>
    if rest.isEmpty then (if onlyDirectories && !t.isDirectory path then [] else [path])
    else below t onlyDirectories fuel rest path

/-- A path whose last name is yet to be matched, and what is below it. -/
def visit (t : FileTree) (onlyDirectories : Bool) : Nat → List Pattern → String → List String
  | 0, _, _ => []
  | fuel + 1, patterns, path =>
    match collapse patterns with
    | [] => []
    | p :: rest =>
      if isRecursive p then
        let contents :=
          if t.isDirectory path then below t onlyDirectories fuel (p :: rest) path else []
        match rest with
        | [] => if t.isDirectory path then path :: contents else []
        | q :: more => matching t onlyDirectories fuel q more path ++ contents
      else matching t onlyDirectories fuel p rest path

/-- A path if its last name matches, or what is below it. -/
def matching (t : FileTree) (onlyDirectories : Bool) :
    Nat → Pattern → List Pattern → String → List String
  | 0, _, _, _ => []
  | fuel + 1, p, rest, path =>
    if Text.Wildcard.matchesText p (lastName path).toList then
      settle t onlyDirectories fuel rest path
    else []

end

/-- The patterns of the components of a path. A slash at the end begins no component. -/
def components? (pattern : String) : Option (List Pattern) :=
  let pieces := Text.pieces '/' (pattern.toList.dropWhile (· = '/'))
  let pieces := if pieces.getLast? = some [] then pieces.dropLast else pieces
  pieces.mapM Text.Wildcard.parse?

/-- The number of calls that no way takes. Every step makes a path longer, so the bound on paths is
one on steps, and a step takes at most four calls. -/
def callBound (patterns : List Pattern) : Nat :=
  4 * (FileTree.pathBound + patterns.length)

/-- The paths that match a pattern, which starts with a slash. -/
def glob (t : FileTree) (pattern : String) : Except FileError (List String) :=
  match Text.Wildcard.parse? pattern.toList, components? pattern with
  | some _, some patterns =>
    if patterns.isEmpty then .ok ["/"]
    else .ok (below t (pattern.endsWith "/") (callBound patterns) patterns "/")
  | _, _ => .error .invalidPattern

end VolumePlugin.Host.Search
