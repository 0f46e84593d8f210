import VolumePlugin.Host.Call
import VolumePlugin.Host.Path
import VolumePlugin.Text.Wildcard

/-! A host that keeps everything in memory. Its commands answer what they are told to, or else as
`blkid` and `cryptsetup` would about its devices. -/

namespace VolumePlugin.Host

/-- The state of the host. -/
structure Memory where
  files : PathSet := .empty
  directories : PathSet := .empty
  /-- The links, and the path that each leads to. -/
  links : List (String × String) := []
  statistics : List (String × FsStats) := []
  /-- The type of what a device holds. -/
  fsTypes : List (String × String) := []
  /-- What command lines that start with a text are answered with. -/
  responses : List (String × CommandOutput) := []
  commands : List Command := []
  /-- The mounts, the oldest first. -/
  mounts : List Mount := []
  /-- The devices that were mounted with a file system to put on blank ones, and that type. -/
  formatted : List (String × String) := []
  mountCalls : Nat := 0
  deriving DecidableEq, Repr

namespace Memory

def lookupPath {α : Type} (path : String) (entries : List (String × α)) : Option α :=
  (entries.find? fun e => Path.same e.1 path).map (·.2)

def putPath {α : Type} (path : String) (value : α) (entries : List (String × α)) :
    List (String × α) :=
  (path, value) :: entries.filter fun e => !Path.same e.1 path

def addFile (h : Memory) (path : String) : Memory :=
  { h with files := h.files.insert path }

def addDirectory (h : Memory) (path : String) : Memory :=
  { h with directories := h.directories.insert path }

/-- The host with a link to a file, and with that file. -/
def addLink (h : Memory) (link target : String) : Memory :=
  { h.addFile target with links := putPath link target h.links }

/-- The host without a file or directory. Links stay. -/
def removePath (h : Memory) (path : String) : Memory :=
  { h with files := h.files.erase path, directories := h.directories.erase path }

def addDirectories (h : Memory) (path : String) : Memory :=
  ((Path.ancestors path).filter (· ≠ "")).foldl addDirectory h

/-- The host on which a device holds something of a type. -/
def setFsType (h : Memory) (device fsType : String) : Memory :=
  { h with fsTypes := (device, fsType) :: h.fsTypes.filter (·.1 ≠ device) }

/-- Whether there is a file, directory or link. -/
def pathExists (h : Memory) (path : String) : Bool :=
  (lookupPath path h.links).isSome || h.files.contains path || h.directories.contains path

def mapping (name : String) : String :=
  s!"/dev/mapper/{name}"

/-- What a command that does nothing visible leaves behind. -/
def silent : CommandOutput := { code := some 0 }

/-- What `blkid` says about a device. -/
def blkid (h : Memory) (arguments : List String) (device : String) : CommandOutput :=
  match h.fsTypes.lookup device with
  | none => { code := some 2 }
  | some fsType =>
    { code := some 0, stdout := if arguments.contains "value" then s!"{fsType}\n" else "" }

/-- The device that the arguments of `cryptsetup` ask to format, if they do. Between the action and
the device stand four options with their values. -/
def formattedDevice? (arguments : List String) : Option String :=
  match arguments.reverse with
  | device :: _ :: _ :: _ :: _ :: _ :: _ :: _ :: _ :: "luksFormat" :: _ => some device
  | _ => none

/-- What `cryptsetup` does: it formats devices, and opens, closes and describes mappings. -/
def cryptsetup (h : Memory) (arguments : List String) : CommandOutput × Memory :=
  match formattedDevice? arguments with
  | some device => (silent, h.setFsType device "crypto_LUKS")
  | none =>
    match arguments with
    | ["luksOpen", _, _, _, name] => (silent, h.addFile (mapping name))
    | ["luksClose", name] => (silent, h.removePath (mapping name))
    | ["status", name] =>
      (if h.files.contains (mapping name) then
          { code := some 0, stdout := s!"{mapping name} is active.\n  type:    LUKS2\n" }
        else { code := some 4, stderr := s!"{mapping name} is inactive." }, h)
    | _ => (silent, h)

/-- What a command does for which no answer is given. -/
def carryOut (h : Memory) (c : Command) : CommandOutput × Memory :=
  match c.program with
  | "blkid" =>
    match c.arguments.getLast? with
    | some device => (h.blkid c.arguments device, h)
    | none => (silent, h)
  | "cryptsetup" => h.cryptsetup c.arguments
  | _ => (silent, h)

/-- The answer that is given for a command line. Of several the first one counts. -/
def response? (h : Memory) (line : String) : Option CommandOutput :=
  (h.responses.find? fun r => (Text.dropStart? r.1.toList line.toList).isSome).map (·.2)

def run (h : Memory) (c : Command) : CommandOutput × Memory :=
  let h := { h with commands := h.commands ++ [c] }
  match h.response? c.line with
  | some out => (out, h)
  | none => h.carryOut c

/-- Puts a mount on top of the others. -/
def mount (h : Memory) (m : Mount) : Memory :=
  { h with mounts := h.mounts ++ [m], mountCalls := h.mountCalls + 1 }

/-- The list without the last mount on a target, if there is one on it. -/
def dropLastOn? (target : String) : List Mount → Option (List Mount)
  | [] => none
  | m :: ms =>
    match dropLastOn? target ms with
    | some rest => some (m :: rest)
    | none => if m.target = target then some ms else none

/-- Takes away the last mount on a target. -/
def unmount (h : Memory) (target : String) : Except CsiError Unit × Memory :=
  match dropLastOn? target h.mounts with
  | some mounts => (.ok (), { h with mounts := mounts })
  | none => (.error (.unmountFailed target "not mounted"), h)

def sourcesOf (h : Memory) (target : String) : List String :=
  (h.mounts.filter (·.target = target)).map (·.source)

def targetsOf (h : Memory) (source : String) : List String :=
  (h.mounts.filter (·.source = source)).map (·.target)

def isMountPoint (h : Memory) (path : String) : Bool :=
  h.mounts.any (·.target = path)

def glob (h : Memory) (pattern : String) : Except Failure (List String) :=
  match Text.Wildcard.parse? pattern.toList with
  | none => .error ⟨"invalid pattern"⟩
  | some wildcard => .ok (h.files.paths.filter fun p => Text.Wildcard.matchesText wildcard p.toList)

def resolveLinks (h : Memory) (path : String) : Except Failure String :=
  match lookupPath path h.links with
  | some target => .ok target
  | none => if h.pathExists path then .ok path else .error ⟨"entity not found"⟩

def answer : (call : Call) → Memory → call.Answer × Memory
  | .pathExists path, h => (h.pathExists path, h)
  | .glob pattern, h => (h.glob pattern, h)
  | .resolveLinks path, h => (h.resolveLinks path, h)
  | .makeDirectories path, h => (.ok (), h.addDirectories path)
  | .createFile path, h => (.ok (), h.addFile path)
  | .remove path, h => (.ok (), h.removePath path)
  | .statistics path, h =>
    (match lookupPath path h.statistics with
      | some stats => .ok stats
      | none => .error ⟨"no stats"⟩, h)
  | .run command, h =>
    let (out, h) := h.run command
    (.ok out, h)
  | .mount m, h => (.ok (), h.mount m)
  | .unmount target, h => h.unmount target
  | .isMountPoint path, h => (.ok (h.isMountPoint path), h)
  | .mountSources target, h => (.ok (h.sourcesOf target), h)
  | .mountTargets source, h => (.ok (h.targetsOf source), h)
  | .formatAndMount m, h =>
    (.ok (), { h with formatted := h.formatted ++ [(m.source, m.fsType)] }.mount m)

end Memory

end VolumePlugin.Host
