import VolumePlugin.Host.Call
import VolumePlugin.Mounts.Options
import VolumePlugin.Mounts.Table
import VolumePlugin.Prog
import VolumePlugin.Text.Pieces

/-! Mounting by means of a kernel and of the commands that look at devices and put file systems on
them. -/

namespace VolumePlugin.Mounts

open Host (Command CommandOutput Failure)

/-- What the kernel is asked to mount. A remount has neither a source nor a type. -/
structure Wanted where
  source : Option String
  target : String
  fsType : Option String
  flags : Flags
  data : Option String
  deriving DecidableEq, Repr

/-- What mounting asks for. -/
inductive Query where
  | run (command : Command)
  | mount (wanted : Wanted)
  | unmount (target : String)
  | table
  deriving DecidableEq, Repr

abbrev Query.Answer : Query → Type
  | run _ => Except Failure CommandOutput
  | mount _ | unmount _ => Except Failure Unit
  | table => Except Failure String

/-- Work that may fail. -/
abbrev Job := ExceptT CsiError (Prog Query.Answer)

/-- Asks for something that must succeed, with the wording of its failure. -/
def demand {α : Type} (work : Prog Query.Answer (Except Failure α))
    (failure : Failure → CsiError) : Job α :=
  ExceptT.mk (work.bind fun result => .done (result.mapError failure))

def run (command : Command) : Job CommandOutput :=
  demand (Prog.question (A := Query.Answer) (.run command)) fun e => .internal e.text

def request (wanted : Wanted) (failure : Failure → CsiError) : Job Unit :=
  demand (Prog.question (A := Query.Answer) (.mount wanted)) failure

def tablePath : String := "/proc/self/mounts"

def entries : Job (List Entry) := do
  let contents ← demand (Prog.question (A := Query.Answer) .table) fun e =>
    .internal s!"read {tablePath}: {e.text}"
  return readTable contents

/-- Mounts something. The kernel pays no heed to the wish for read-only access when it binds a path,
so that wish is repeated for the bound path. -/
def mount (m : Host.Mount) : Job Unit := do
  let wanted : Wanted :=
    { source := some m.source, target := m.target
      fsType := if m.fsType = "" then none else some m.fsType
      flags := flags m.options, data := data? m.options }
  request wanted fun e => .mountFailed m.target e.text
  if wanted.flags.bind && wanted.flags.readOnly then
    request
      { source := none, target := m.target, fsType := none, data := none
        flags := { bind := true, remount := true, readOnly := true } }
      fun e => .mountFailed m.target s!"remount read-only: {e.text}"

def unmount (target : String) : Job Unit :=
  demand (Prog.question (A := Query.Answer) (.unmount target)) fun e =>
    .unmountFailed target e.text

/-- The type of what a device holds, if it holds anything. -/
def probeFsType (device : String) : Job (Option String) := do
  let out ← run ⟨"blkid", ["-p", "-s", "TYPE", "-o", "value", device], none⟩
  match out.code with
  | some 0 => return some (Text.trim out.stdout) |>.filter (· ≠ "")
  | some 2 => return none
  | _ => throw (.internal s!"blkid {device} failed: {Text.trim out.stderr}")

/-- The command that puts a file system on a device. -/
def formatCommand (fsType device : String) : Command :=
  { program := s!"mkfs.{fsType}"
    arguments :=
      if (Text.dropStart? "ext".toList fsType.toList).isSome then ["-F", "-m0", device]
      else [device] }

def format (m : Host.Mount) : Job Unit := do
  let command := formatCommand m.fsType m.source
  let out ← run command
  if !out.success then
    throw (.mountFailed m.target s!"{command.program} {m.source}: {Text.trim out.stderr}")

/-- Mounts a device. If it holds nothing, a file system is put on it before. -/
def formatAndMount (m : Host.Mount) : Job Unit := do
  if (← probeFsType m.source).isNone then format m
  mount m

end VolumePlugin.Mounts
