import VolumePlugin.Host.Search
import VolumePlugin.Testbed.Bare
import VolumePlugin.Testbed.Spec

/-! Scripts of steps on the files of a temporary directory. -/

namespace VolumePlugin.Testbed.Files

open Host (FileTree FileError)

def base : String := "/tmp/.tmpAbCdEf"

/-- What stands for the temporary directory in scripts and answers. -/
def mark : String := "\x7bTMP\x7d"

/-- A value of a script with the directory in the place of its mark. -/
def resolve (v : Json) : Json :=
  v.mapTexts (Text.substitute mark base)

/-- A value of an answer with the mark in the place of the directory. -/
def restore (v : Json) : Json :=
  v.mapTexts (Text.substitute base mark)

/-- The tree of a bare host with the temporary directory, which is empty. -/
def fresh : FileTree :=
  Host.Bare.files.put (FileTree.names base) .directory

/-- The whole of a path below the temporary directory. -/
def absolute (path : String) : String :=
  s!"{base}/{path}"

/-- A path as it is seen from the temporary directory. What stands for no component at either end is
left out. -/
def relative (path : String) : String :=
  match Text.dropStart? base.toList path.toList with
  | some rest =>
    let segments := (Text.pieces '/' rest).dropWhile fun s => (Host.Component.ofSegment? s).isNone
    String.ofList (List.intercalate ['/'] (Host.Path.trimSegments segments))
  | none => path

def withDirectory (t : FileTree) (path : String) : FileTree :=
  (t.makeDirectories (absolute path)).2

def withFile (t : FileTree) (path contents : String) : FileTree :=
  let full := absolute path
  let (_, t) := t.makeDirectories ((Host.Path.parent? full).getD base)
  (t.write full contents).toOption.getD t

/-- The reply to a step that changes the tree. -/
def changed (t : FileTree) : Except FileError FileTree → Json × FileTree
  | .ok t => (.text "ok", t)
  | .error e => (Spec.named e.kind, t)

/-- The reply to a step that only looks at the tree. -/
def seen {α : Type} (t : FileTree) (f : α → Json) : Except FileError α → Json × FileTree
  | .ok a => (f a, t)
  | .error e => (Spec.named e.kind, t)

/-- Goes a step with a path. -/
def perform (v : Json) (path : String) (t : FileTree) : Json × FileTree :=
  match v.getText "do" with
  | "exists" => (.bool (t.pathExists path), t)
  | "mkdir_all" =>
    let (made, t) := t.makeDirectories path
    seen t (fun _ => .text "ok") made
  | "create_file" => changed t (t.createFile path)
  | "remove" => changed t (t.remove path)
  | "write" => changed t (t.write path (v.getText "text"))
  | "symlink" => changed t (t.makeLink path (v.getText "target"))
  | "read" => seen t .text (t.read path)
  | "eval_symlinks" => seen t (fun p => .text (relative p)) (t.resolve path)
  | "glob" => seen t (fun paths => .texts (paths.map relative)) (Host.Search.glob t path)
  | _ => seen t (fun _ => .bool true) (t.findExisting true path)

def step (v : Json) (t : FileTree) : Json × FileTree :=
  perform v (absolute (v.getText "path")) t

def steps : List Json → FileTree → List Json
  | [], _ => []
  | v :: rest, t =>
    let (answer, t) := step v t
    answer :: steps rest t

end VolumePlugin.Testbed.Files
