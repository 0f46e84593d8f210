import VolumePlugin.Host.Search
import VolumePlugin.Mounts.Kernel
import VolumePlugin.Testbed.Programs

/-! A host that keeps its files in a tree and runs the programs of a bare host. Its kernel lets the
plugin mount nothing. -/

namespace VolumePlugin.Host.Machine

/-- A result, or the wording of the failure of an operation on files. -/
def told {α : Type} (result : Except FileError α) : Except Failure α :=
  result.mapError fun e => ⟨e.message⟩

/-- The result of an operation that changes the tree, and the tree after it. A failure leaves the
tree as it was. -/
def changed (t : FileTree) (result : Except FileError FileTree) :
    Except Failure Unit × FileTree :=
  match result with
  | .ok t => (.ok (), t)
  | .error e => (.error ⟨e.message⟩, t)

def run (command : Command) (t : FileTree) : Except Failure CommandOutput × FileTree :=
  match Programs.run command with
  | .ok ended => (.ok (Programs.output ended), t)
  | .error e => (.error ⟨e.message⟩, t)

/-- Works through a job of the kernel. -/
def mounting {α : Type} (job : Mounts.Job α) (t : FileTree) : Except CsiError α × FileTree :=
  Mounts.Kernel.run run job t

/-- The answer to a call, and the tree after it. No size of a file system is of interest. -/
def answer : (call : Call) → FileTree → call.Answer × FileTree
  | .pathExists path, t => (t.pathExists path, t)
  | .glob pattern, t => (told (Search.glob t pattern), t)
  | .resolveLinks path, t => (told (t.resolve path), t)
  | .makeDirectories path, t =>
    let (made, t) := t.makeDirectories path
    (told made, t)
  | .createFile path, t => changed t (t.createFile path)
  | .remove path, t => changed t (t.remove path)
  | .statistics path, t => (told ((t.findExisting true path).map fun _ => {}), t)
  | .run command, t => run command t
  | .mount m, t => mounting (Mounts.mount m) t
  | .unmount target, t => mounting (Mounts.unmount target) t
  | .isMountPoint path, t => mounting ((Mounts.isMountPoint · path) <$> Mounts.entries) t
  | .mountSources target, t => mounting ((Mounts.sourcesOf · target) <$> Mounts.entries) t
  | .mountTargets source, t => mounting ((Mounts.targetsOf · source) <$> Mounts.entries) t
  | .formatAndMount m, t => mounting (Mounts.formatAndMount m) t

end VolumePlugin.Host.Machine
