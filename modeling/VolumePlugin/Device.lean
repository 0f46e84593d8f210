import VolumePlugin.Host.Job

/-! The devices of attached volumes. The host links every device under names that are made of the
label of its volume. A link that is missing may appear once the host has been told to look at its
disks again, which it is told once for each disk. -/

namespace VolumePlugin.Device

def linkDirectory : String := "/dev/disk/by-id"

def diskPattern : String := "/dev/sd*"

/-- The paths that a volume's device, or a partition of it, can be found at, the preferred one
first. -/
def candidates (label : String) (partition : Option String) : List String :=
  let part := match partition.filter (· ≠ "") with
    | some p => s!"-part{p}"
    | none => ""
  [s!"{linkDirectory}/linode-{label}{part}",
    s!"{linkDirectory}/scsi-0Linode_Volume_{label}{part}"]

def findExisting : List String → Host.Work (Option String)
  | [] => return none
  | path :: rest => do
    if ← Host.ask (.pathExists path) then return some path else findExisting rest

/-- The device that the first path that exists leads to, or else that path itself. -/
def firstExisting (paths : List String) : Host.Work (Option String) := do
  match ← findExisting paths with
  | none => return none
  | some path =>
    match ← Host.ask (.resolveLinks path) with
    | .ok device => return some device
    | .error _ => return some path

/-- The command that has the host look at a disk again. -/
def triggerCommand (disk : String) : Host.Command :=
  { program := "udevadm"
    arguments := ["trigger", "--action=change", s!"--property-match=DEVNAME={disk}"] }

/-- Has the host look at disks again, whatever comes of it. -/
def trigger : List String → Host.Work Unit
  | [] => return ()
  | disk :: rest => do
    let _ ← Host.ask (.run (triggerCommand disk))
    trigger rest

/-- Has the host look again at the disks that it was not told to look at before. -/
def triggerNew : Host.Work Unit := do
  match ← Host.ask (.glob diskPattern) with
  | .error _ => return ()
  | .ok disks => trigger (← Prog.question (A := Host.Query.Answer) (.newDisks disks))

/-- The device that one of the paths leads to, if necessary after the host has looked at its disks
again. -/
def verify (paths : List String) : Host.Work (Option String) := do
  match ← firstExisting paths with
  | some device => return some device
  | none =>
    triggerNew
    firstExisting paths

end VolumePlugin.Device
