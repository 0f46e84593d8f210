import VolumePlugin.Config
import VolumePlugin.Host.FileTree

/-! The socket at which a process listens for requests, as a place in a tree of files. -/

namespace VolumePlugin.Socket

open Host (FileTree FileError)

/-- Makes the directories that hold a socket, and removes what an earlier process left in its
place. -/
def prepare (path : String) (t : FileTree) : Except CsiError FileTree := do
  let (made, t) := match Host.Path.parent? path with
    | some up => t.makeDirectories up
    | none => (.ok (), t)
  made.mapError fun e => .transport e.message
  match t.removeFile path with
  | .ok t => return t
  | .error .notFound => return t
  | .error e => throw (.transport s!"remove stale socket {path}: {e.message}")

/-- The number of bytes that no path of a socket reaches. -/
def pathBound : Nat := 108

/-- The wording of a failure to put a socket at its place. -/
def placeFailure : FileError → String
  | .alreadyExists => "Address already in use (os error 98)"
  | e => e.message

/-- Puts a socket at a place where there is nothing. -/
def place (path : String) (t : FileTree) : Except String FileTree :=
  if pathBound ≤ path.utf8ByteSize then .error "path must be shorter than SUN_LEN"
  else (t.putNew path .socket).mapError placeFailure

def listen (endpoint : String) (t : FileTree) : Except CsiError (String × FileTree) := do
  let path ← DriverConfig.socketPath endpoint
  let t ← prepare path t
  let t ← (place path t).mapError fun reason => .transport s!"bind {path}: {reason}"
  return (path, t)

/-- Removes a socket at which nobody listens any more. If that fails, it stays. -/
def close (path : String) (t : FileTree) : FileTree :=
  match t.removeFile path with
  | .ok t => t
  | .error _ => t

/-- Reaches for the process that listens at an endpoint. -/
def dial (endpoint : String) (t : FileTree) : Except CsiError Unit := do
  let path ← DriverConfig.socketPath endpoint
  match t.findExisting true path with
  | .ok (_, .socket) => return ()
  | _ => throw (.transport "transport error")

end VolumePlugin.Socket
