import VolumePlugin.Host.Path
import VolumePlugin.Text.Utf8

/-! Trees of files as a host keeps them. Directories hold files, links, sockets and other
directories, and a path leads through links to what it names. -/

namespace VolumePlugin.Host

/-- Why an operation on files fails. -/
inductive FileError where
  | notFound
  | alreadyExists
  | notADirectory
  | isADirectory
  | directoryNotEmpty
  | filesystemLoop
  | invalidFilename
  | invalidArgument
  /-- A path holds the character that ends texts. -/
  | endInPath
  | invalidPattern
  deriving DecidableEq, Repr

namespace FileError

def kind : FileError → String
  | notFound => "NotFound"
  | alreadyExists => "AlreadyExists"
  | notADirectory => "NotADirectory"
  | isADirectory => "IsADirectory"
  | directoryNotEmpty => "DirectoryNotEmpty"
  | filesystemLoop => "FilesystemLoop"
  | invalidFilename => "InvalidFilename"
  | invalidArgument | endInPath | invalidPattern => "InvalidInput"

def reason : FileError → String
  | notFound => "No such file or directory"
  | alreadyExists => "File exists"
  | notADirectory => "Not a directory"
  | isADirectory => "Is a directory"
  | directoryNotEmpty => "Directory not empty"
  | filesystemLoop => "Too many levels of symbolic links"
  | invalidFilename => "File name too long"
  | invalidArgument => "Invalid argument"
  | endInPath => "file name contained an unexpected NUL byte"
  | invalidPattern => "invalid pattern"

/-- The number that the host has for a failure, if the host was asked at all. -/
def number? : FileError → Option Nat
  | notFound => some 2
  | alreadyExists => some 17
  | notADirectory => some 20
  | isADirectory => some 21
  | directoryNotEmpty => some 39
  | filesystemLoop => some 40
  | invalidFilename => some 36
  | invalidArgument => some 22
  | endInPath | invalidPattern => none

def message (e : FileError) : String :=
  match e.number? with
  | some n => s!"{e.reason} (os error {n})"
  | none => e.reason

end FileError

inductive FileKind where
  | file (contents : String)
  | directory
  | link (target : String)
  | socket
  deriving DecidableEq, Repr

/-- A tree of files: what there is at every place but the root, which is a directory. A place is
given by the names that lead to it. -/
structure FileTree where
  entries : List (List String × FileKind) := []
  /-- The directories in which, and below which, nothing can be made. -/
  closed : List (List String) := []
  deriving DecidableEq, Repr

namespace FileTree

def kindAt? (t : FileTree) (place : List String) : Option FileKind :=
  if place = [] then some .directory else t.entries.lookup place

def put (t : FileTree) (place : List String) (kind : FileKind) : FileTree :=
  { t with entries := (place, kind) :: t.entries.filter (·.1 ≠ place) }

def drop (t : FileTree) (place : List String) : FileTree :=
  { t with entries := t.entries.filter (·.1 ≠ place) }

def isClosed (t : FileTree) (directory : List String) : Bool :=
  t.closed.any (·.isPrefixOf directory)

def children (t : FileTree) (place : List String) : List String :=
  t.entries.filterMap fun e =>
    match e.1.getLast? with
    | some name => if e.1.dropLast = place then some name else none
    | none => none

def names (path : String) : List String :=
  ((Text.pieces '/' path.toList).filter (· ≠ [])).map String.ofList

/-- Whether a path must lead to a directory. -/
def wantsDirectory (path : String) : Bool :=
  path.endsWith "/"

/-- The steps of a path. A slash at its end is a step within the directory there. -/
def steps (path : String) : List String :=
  names path ++ if wantsDirectory path then ["."] else []

def maxName : Nat := 255

/-- The number of bytes that no path reaches. -/
def pathBound : Nat := 4096

def maxLinks : Nat := 40

/-- What names lead to that are followed from a place. Of the last name the link is followed only if
that is asked for. -/
def follow (t : FileTree) (followLast : Bool) (links : Nat) (here : List String) :
    List String → Except FileError (List String × FileKind)
  | [] => .ok (here, .directory)
  | "." :: rest => follow t followLast links here rest
  | ".." :: rest => follow t followLast links here.dropLast rest
  | name :: rest =>
    if maxName < name.utf8ByteSize then .error .invalidFilename
    else
      let place := here ++ [name]
      match t.kindAt? place with
      | none => .error .notFound
      | some .directory => follow t followLast links place rest
      | some (.link target) =>
        if rest.isEmpty && !followLast then .ok (place, .link target)
        else match links with
          | 0 => .error .filesystemLoop
          | links + 1 =>
            let start := if target.startsWith "/" then [] else here
            follow t followLast links start (steps target ++ rest)
      | some kind => if rest.isEmpty then .ok (place, kind) else .error .notADirectory
termination_by names => (links, names.length)

/-- Whether a path can be asked about at all. -/
def checkText (path : String) : Except FileError Unit :=
  if path.toList.contains (Char.ofNat 0) then .error .endInPath
  else if path = "" then .error .notFound
  else if pathBound ≤ path.utf8ByteSize then .error .invalidFilename
  else .ok ()

/-- What there is at the end of a path, which must be something. -/
def findExisting (t : FileTree) (followLast : Bool) (path : String) :
    Except FileError (List String × FileKind) := do
  checkText path
  t.follow followLast maxLinks [] (steps path)

/-- The directory in which the last step of a path is made, and the name of that step unless it
leads to the same or the upper directory. Relative paths start at a place. -/
def lastStep (t : FileTree) (links : Nat) (here : List String) (path : String) :
    Except FileError (List String × Option String) := do
  checkText path
  let start := if path.startsWith "/" then [] else here
  match (names path).getLast? with
  | none => return (start, none)
  | some name =>
    let (place, kind) ← t.follow true links start (names path).dropLast
    if kind ≠ .directory then throw .notADirectory
    if name = "." || name = ".." then return (place, none)
    if maxName < name.utf8ByteSize then throw .invalidFilename
    return (place, some name)

/-- The place at the end of a path, at which there must be nothing. -/
def freePlace (t : FileTree) (path : String) : Except FileError (List String) := do
  match ← t.lastStep maxLinks [] path with
  | (_, none) => throw .alreadyExists
  | (directory, some name) =>
    let place := directory ++ [name]
    if (t.kindAt? place).isSome then throw .alreadyExists
    if t.isClosed directory then throw .notFound
    return place

def pathExists (t : FileTree) (path : String) : Bool :=
  (t.findExisting true path).toOption.isSome

/-- Whether there is anything at the end of a path, if only a link that leads nowhere. -/
def isPresent (t : FileTree) (path : String) : Bool :=
  (t.findExisting false path).toOption.isSome

def isDirectory (t : FileTree) (path : String) : Bool :=
  match t.findExisting true path with
  | .ok (_, .directory) => true
  | _ => false

/-- The path without links that a path leads to. -/
def resolve (t : FileTree) (path : String) : Except FileError String := do
  let (place, _) ← t.findExisting true path
  return "/" ++ "/".intercalate place

def makeDirectory (t : FileTree) (path : String) : Except FileError FileTree := do
  return t.put (← t.freePlace path) .directory

/-- Makes one directory, unless it is there. -/
def ensureDirectory (t : FileTree) (path : String) : Except FileError FileTree :=
  match t.makeDirectory path with
  | .ok t => .ok t
  | .error e => if t.isDirectory path then .ok t else .error e

/-- Makes a directory and those that hold it, given how many those can be. -/
def makeDirectoriesUpTo : Nat → FileTree → String → Except FileError Unit × FileTree
  | 0, t, _ => (.ok (), t)
  | fuel + 1, t, path =>
    if path = "" then (.ok (), t)
    else match t.makeDirectory path, Path.parent? path with
      | .ok t, _ => (.ok (), t)
      | .error .notFound, some up =>
        match makeDirectoriesUpTo fuel t up with
        | (.error e, t) => (.error e, t)
        | (.ok (), t) =>
          match t.ensureDirectory path with
          | .ok t => (.ok (), t)
          | .error e => (.error e, t)
      | .error e, _ => (if t.isDirectory path then .ok () else .error e, t)

/-- Makes a directory and those that hold it. Each of them has a shorter path than the one in it, so
the length of the path bounds their number. What was made before a failure stays. -/
def makeDirectories (t : FileTree) (path : String) : Except FileError Unit × FileTree :=
  makeDirectoriesUpTo (path.length + 1) t path

/-- The place of the file that is opened to write to, which need not be there. Links are
followed. -/
def openPlace (t : FileTree) : Nat → List String → String → Except FileError (List String)
  | links, here, path => do
    match ← t.lastStep links here path with
    | (_, none) => throw .isADirectory
    | (directory, some name) =>
      if wantsDirectory path then throw .isADirectory
      let place := directory ++ [name]
      match t.kindAt? place with
      | some .directory => throw .isADirectory
      | some (.link target) =>
        match links with
        | 0 => throw .filesystemLoop
        | links + 1 => openPlace t links directory target
      | some _ => return place
      | none => if t.isClosed directory then throw .notFound else return place

def createFile (t : FileTree) (path : String) : Except FileError FileTree := do
  let place ← t.openPlace maxLinks [] path
  return if (t.kindAt? place).isSome then t else t.put place (.file "")

def write (t : FileTree) (path contents : String) : Except FileError FileTree := do
  return t.put (← t.openPlace maxLinks [] path) (.file contents)

def read (t : FileTree) (path : String) : Except FileError String := do
  match ← t.findExisting true path with
  | (_, .file contents) => return contents
  | (_, .directory) => throw .isADirectory
  | _ => throw .invalidArgument

/-- Puts something that is no directory at the end of a path. -/
def putNew (t : FileTree) (path : String) (kind : FileKind) : Except FileError FileTree := do
  let place ← t.freePlace path
  if wantsDirectory path then throw .notFound
  return t.put place kind

def makeLink (t : FileTree) (path target : String) : Except FileError FileTree := do
  checkText target
  t.putNew path (.link target)

/-- Removes a directory, which must be empty. -/
def removeDirectory (t : FileTree) (path : String) : Except FileError FileTree := do
  match ← t.lastStep maxLinks [] path with
  | (_, none) =>
    throw (if (names path).getLast? = some "." then .invalidArgument else .directoryNotEmpty)
  | (directory, some name) =>
    let place := directory ++ [name]
    match t.kindAt? place with
    | none => throw .notFound
    | some .directory =>
      if (t.children place).isEmpty then return t.drop place else throw .directoryNotEmpty
    | some _ => throw .notADirectory

/-- Removes anything but a directory. -/
def removeFile (t : FileTree) (path : String) : Except FileError FileTree := do
  match ← t.lastStep maxLinks [] path with
  | (_, none) => throw .isADirectory
  | (directory, some name) =>
    let place := directory ++ [name]
    match t.kindAt? place with
    | none => throw .notFound
    | some .directory => throw .isADirectory
    | some _ => if wantsDirectory path then throw .notADirectory else return t.drop place

/-- Removes what there is at a path, if there is something. A directory must be empty. -/
def remove (t : FileTree) (path : String) : Except FileError FileTree :=
  let removed := do
    match ← t.findExisting false path with
    | (_, .directory) => t.removeDirectory path
    | _ => t.removeFile path
  match removed with
  | .error .notFound => .ok t
  | other => other

end FileTree

end VolumePlugin.Host
