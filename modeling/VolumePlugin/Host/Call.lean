import VolumePlugin.Error

/-! What a node asks of the host it runs on: its files, its commands and its mounts. -/

namespace VolumePlugin.Host

/-- A command line, and what the command reads. -/
structure Command where
  program : String
  arguments : List String
  stdin : Option String := none
  deriving DecidableEq, Repr

def Command.line (c : Command) : String :=
  " ".intercalate (c.program :: c.arguments)

/-- What a command leaves behind. -/
structure CommandOutput where
  /-- The exit code, unless a signal killed the command. -/
  code : Option Int
  stdout : String := ""
  stderr : String := ""
  deriving DecidableEq, Repr, Inhabited

namespace CommandOutput

def success (out : CommandOutput) : Bool :=
  out.code = some 0

def codeText (out : CommandOutput) : String :=
  match out.code with
  | some code => s!"Some({code})"
  | none => "None"

end CommandOutput

/-- Space and inodes of a file system. -/
structure FsStats where
  totalBytes : Nat := 0
  availableBytes : Nat := 0
  usedBytes : Nat := 0
  totalInodes : Nat := 0
  freeInodes : Nat := 0
  usedInodes : Nat := 0
  deriving DecidableEq, Repr, Inhabited

structure Mount where
  source : String
  target : String
  fsType : String := ""
  options : List String := []
  deriving DecidableEq, Repr, Inhabited

/-- Why the host could not do something with a file or a command. -/
structure Failure where
  text : String
  deriving DecidableEq, Repr, Inhabited

inductive Call where
  | pathExists (path : String)
  | glob (pattern : String)
  | resolveLinks (path : String)
  /-- Makes a directory and those that hold it. -/
  | makeDirectories (path : String)
  | createFile (path : String)
  | remove (path : String)
  | statistics (path : String)
  | run (command : Command)
  | mount (m : Mount)
  | unmount (target : String)
  | isMountPoint (path : String)
  | mountSources (target : String)
  | mountTargets (source : String)
  /-- Mounts a device, and before that puts a file system on it if it is blank. -/
  | formatAndMount (m : Mount)
  deriving DecidableEq, Repr

namespace Call

abbrev Answer : Call → Type
  | pathExists _ => Bool
  | glob _ => Except Failure (List String)
  | resolveLinks _ => Except Failure String
  | makeDirectories _ | createFile _ | remove _ => Except Failure Unit
  | statistics _ => Except Failure FsStats
  | run _ => Except Failure CommandOutput
  | mount _ | unmount _ | formatAndMount _ => Except CsiError Unit
  | isMountPoint _ => Except CsiError Bool
  | mountSources _ | mountTargets _ => Except CsiError (List String)

end Call

end VolumePlugin.Host
