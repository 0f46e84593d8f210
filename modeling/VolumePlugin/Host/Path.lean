import VolumePlugin.Text.Pieces

/-! Host paths as texts. Two texts name the same path when they have the same components: repeated
and trailing slashes and inner dots do not count, a dot at the start of a relative path does. -/

namespace VolumePlugin.Host

/-- One step of a path. -/
inductive Component where
  | root
  | current
  | parent
  | named (name : List Char)
  deriving DecidableEq, Repr

namespace Component

/-- The component that a segment between slashes stands for, if it stands for one. -/
def ofSegment? : List Char → Option Component
  | [] => none
  | ['.'] => none
  | ['.', '.'] => some .parent
  | name => some (.named name)

/-- The place of each kind of component in the order of paths. -/
def rank : Component → Nat
  | .root => 0
  | .current => 1
  | .parent => 2
  | .named _ => 3

/-- Components are ordered by kind, and names by their characters. -/
def before (a b : Component) : Bool :=
  match a, b with
  | .named m, .named n => decide (m < n)
  | a, b => decide (a.rank < b.rank)

end Component

namespace Path

/-- Whether a relative path starts with a dot of its own. -/
def startsWithDot : List Char → Bool
  | ['.'] => true
  | '.' :: '/' :: _ => true
  | _ => false

/-- Splits a path into the slash or dot it starts with and the rest. -/
def splitStart : List Char → List Char × List Char
  | '/' :: rest => (['/'], rest)
  | text => if startsWithDot text then (['.'], text.drop 1) else ([], text)

/-- The component at the start of a path, if the start is a slash or a dot. -/
def startComponent : List Char → List Component
  | ['/'] => [.root]
  | ['.'] => [.current]
  | _ => []

def components (path : String) : List Component :=
  let (start, rest) := splitStart path.toList
  startComponent start ++ (Text.pieces '/' rest).filterMap Component.ofSegment?

/-- Whether two texts name the same path. -/
def same (a b : String) : Bool :=
  decide (components a = components b)

/-- Paths are ordered by their components from left to right. -/
def componentsBefore : List Component → List Component → Bool
  | [], [] => false
  | [], _ :: _ => true
  | _ :: _, [] => false
  | a :: as, b :: bs => if a = b then componentsBefore as bs else a.before b

def before (a b : String) : Bool :=
  componentsBefore (components a) (components b)

/-- The segments without those at the end that stand for no component. -/
def trimSegments (segments : List (List Char)) : List (List Char) :=
  (segments.reverse.dropWhile fun s => (Component.ofSegment? s).isNone).reverse

/-- The path that holds this one: the text before the last component, without trailing slashes
and dots. The root and the empty path have none. -/
def parent? (path : String) : Option String :=
  let (start, rest) := splitStart path.toList
  match trimSegments (Text.pieces '/' rest) with
  | [] => if start = ['.'] then some "" else none
  | segments =>
    some (String.ofList (start ++ List.intercalate ['/'] (trimSegments segments.dropLast)))

/-- The name of the last component, if that component is a name. -/
def fileName? (path : String) : Option String :=
  match (components path).getLast? with
  | some (.named name) => some (String.ofList name)
  | _ => none

/-- The path and the paths that hold it, at most `fuel` of them. -/
def ancestorsUpTo : Nat → String → List String
  | 0, _ => []
  | fuel + 1, path =>
    path :: match parent? path with
      | none => []
      | some up => ancestorsUpTo fuel up

/-- The path and every path that holds it, the nearest first. Each is shorter than the one before,
so the length of the text bounds their number. -/
def ancestors (path : String) : List String :=
  ancestorsUpTo (path.length + 1) path

end Path

/-- A set of paths in path order. Of two texts for one path the set keeps the one it got first. -/
structure PathSet where
  paths : List String
  deriving DecidableEq, Repr, Inhabited

namespace PathSet

def empty : PathSet := ⟨[]⟩

def contains (set : PathSet) (path : String) : Bool :=
  set.paths.any (Path.same · path)

/-- Puts a path that is not in the list before the first path that comes after it. -/
def place (path : String) : List String → List String
  | [] => [path]
  | p :: ps => if Path.before path p then path :: p :: ps else p :: place path ps

def insert (set : PathSet) (path : String) : PathSet :=
  if set.contains path then set else ⟨place path set.paths⟩

def erase (set : PathSet) (path : String) : PathSet :=
  ⟨set.paths.filter fun p => !Path.same p path⟩

end PathSet

end VolumePlugin.Host
