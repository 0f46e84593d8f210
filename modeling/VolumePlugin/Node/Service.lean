import VolumePlugin.Capability
import VolumePlugin.Cloud.Basic
import VolumePlugin.Device
import VolumePlugin.Handle
import VolumePlugin.Luks
import VolumePlugin.Message.Node

/-! The node service: staging a volume, which mounts its device at one path of the node, and
publishing it, which binds that path to the paths of workloads. Requests that change something work
one at a time. -/

namespace VolumePlugin.Node

open Host (Job)

def requireCapability : Option VolumeCapability → Except CsiError VolumeCapability
  | none => .error (.invalidArgument "volume capability is required")
  | some cap => .ok cap

def requireHandle (handle : String) : Except CsiError VolumeKey :=
  (VolumeKey.parse handle).mapError HandleError.toCsi

def isMountPoint (path : String) : Job Bool :=
  Job.ofWork (Host.ask (.isMountPoint path))

/-- The device of a volume, which must be there. -/
def resolveDevice (key : VolumeKey) (partition : Option String) : Job String := do
  let paths := Device.candidates key.label partition
  match ← Device.verify paths with
  | some device => return device
  | none =>
    let tried := ", ".intercalate paths
    throw (.internal s!"no device found for volume {key.handle}, tried {tried}")

def makeDirectories (path : String) : Job Unit :=
  Job.demand (Host.ask (.makeDirectories path)) fun e =>
    .mountFailed path s!"create directory: {e.text}"

/-- What a request to stage a volume asks for. -/
structure Staging where
  key : VolumeKey
  cap : VolumeCapability
  luks : LuksContext
  deriving DecidableEq

/-- What a request to stage a volume asks for, or the first thing that is wrong with it. -/
def staging (req : NodeStageVolumeRequest) : Except CsiError Staging := do
  requireText "volume id" req.volumeId
  requireText "staging target path" req.stagingTargetPath
  let cap ← requireCapability req.volumeCapability
  let key ← requireHandle req.volumeId
  let luks := LuksContext.ofRequest req.volumeContext req.secrets key.label .stage
  if luks.enabled && !cap.isBlock then luks.validate
  return ⟨key, cap, luks⟩

/-- The device to mount: the volume's own one, or the mapping of it if it is encrypted. A blank
device is formatted before its mapping is opened. -/
def mountSource (device : String) (luks : LuksContext) : Job String := do
  if luks.enabled then
    if !(← Luks.isFormatted device) then Luks.format device luks
    Luks.openMapping device luks
  else return device

/-- Mounts a volume at its staging path, while no other request has the lock. -/
def stageLocked (req : NodeStageVolumeRequest) (s : Staging) : Job NodeStageVolumeResponse := do
  let path := req.stagingTargetPath
  let device ← resolveDevice s.key (req.volumeContext.get? Setting.partition)
  if ← isMountPoint path then return {}
  if s.cap.isBlock then return {}
  let source ← mountSource device s.luks
  makeDirectories path
  Job.ofWork (Host.ask (.formatAndMount ⟨source, path, s.cap.fsType, s.cap.mountFlags⟩))
  return {}

/-- Mounts a volume at its staging path, unless something is mounted there. -/
def stage (req : NodeStageVolumeRequest) : Job NodeStageVolumeResponse := do
  let s ← Job.ofExcept (staging req)
  Job.locked (stageLocked req s)

/-- Fails if one of the sources is mounted anywhere but at the staging path. -/
def requireUnused (path : String) : List String → Job Unit
  | [] => return ()
  | source :: rest => do
    let targets ← Job.ofWork (Host.ask (.mountTargets source))
    let users := targets.filter (· ≠ path)
    if users.isEmpty then requireUnused path rest
    else
      let places := ", ".intercalate users
      throw (.failedPrecondition s!"{path} is still published at {places}")

/-- Closes a mapping if it is that of an encrypted device, whatever comes of it. -/
def closeMapping (path : String) : Host.Work Unit := do
  match ← (Luks.isLuksMapping path).run with
  | .ok true =>
    let _ ← (Luks.close (Luks.mappingName path)).run
  | _ => return ()

def closeMappings : List String → Host.Work Unit
  | [] => return ()
  | path :: rest => do
    closeMapping path
    closeMappings rest

/-- Unmounts a staging path that nobody uses, and yields the mappings that were mounted there. -/
def unmountStaging (path : String) : Job (List String) := do
  if ← isMountPoint path then
    let sources ← Job.ofWork (Host.ask (.mountSources path))
    requireUnused path (sources ++ [path])
    Job.ofWork (Host.ask (.unmount path))
    return sources.filter Luks.isMapperPath
  else return []

/-- The mapping of a volume if it is open, although nothing of it was mounted. -/
def leftOpen (key : Option VolumeKey) (mappings : List String) : Host.Work (List String) := do
  match key with
  | none => return []
  | some key =>
    let path := Luks.mapperPath key.label
    if mappings.contains path then return []
    else if ← Host.ask (.pathExists path) then return [path]
    else return []

/-- Unmounts a volume from its staging path, while no other request has the lock. A mapping that
could not be closed by an earlier request is found by its name. -/
def unstageLocked (req : NodeUnstageVolumeRequest) (key : Option VolumeKey) :
    Job NodeUnstageVolumeResponse := do
  let mappings ← unmountStaging req.stagingTargetPath
  let more ← leftOpen key mappings
  closeMappings (mappings ++ more)
  return {}

/-- What a request to unstage a volume asks for, or the first thing that is wrong with it. The
handle need not be one. -/
def unstaging (req : NodeUnstageVolumeRequest) : Except CsiError (Option VolumeKey) := do
  requireText "volume id" req.volumeId
  requireText "staging target path" req.stagingTargetPath
  return (VolumeKey.parse req.volumeId).toOption

/-- Unmounts a volume from its staging path, unless it is still in use. -/
def unstage (req : NodeUnstageVolumeRequest) : Job NodeUnstageVolumeResponse := do
  let key ← Job.ofExcept (unstaging req)
  Job.locked (unstageLocked req key)

/-- The options that bind a path. -/
def bindOptions (readOnly : Bool) : List String :=
  if readOnly then ["bind", "ro"] else ["bind"]

/-- The device to hand over: the one that the controller named, or else the one of the handle. -/
def blockDevice (req : NodePublishVolumeRequest) : Job String := do
  let named := req.publishContext.getD Setting.devicePath
  if named ≠ "" then return named
  let key ← Job.ofExcept (requireHandle req.volumeId)
  resolveDevice key (req.volumeContext.get? Setting.partition)

/-- Binds a device to a file. -/
def publishBlock (req : NodePublishVolumeRequest) : Job Unit := do
  let device ← blockDevice req
  if let some up := Host.Path.parent? req.targetPath then makeDirectories up
  Job.demand (Host.ask (.createFile req.targetPath)) fun e =>
    .mountFailed req.targetPath s!"create block target: {e.text}"
  Job.ofWork (Host.ask (.mount ⟨device, req.targetPath, "", bindOptions req.readonly⟩))

/-- The options that bind a staging path for a workload. -/
def publishOptions (req : NodePublishVolumeRequest) (cap : VolumeCapability) : List String :=
  bindOptions req.readonly ++ cap.mountFlags

/-- Binds a staging path to a directory. -/
def publishMount (req : NodePublishVolumeRequest) (cap : VolumeCapability) : Job Unit := do
  makeDirectories req.targetPath
  Job.ofWork (Host.ask
    (.mount ⟨req.stagingTargetPath, req.targetPath, "", publishOptions req cap⟩))

/-- What a request to publish a volume asks for, or the first thing that is wrong with it. -/
def publishing (req : NodePublishVolumeRequest) : Except CsiError VolumeCapability := do
  requireText "volume id" req.volumeId
  requireText "staging target path" req.stagingTargetPath
  requireText "target path" req.targetPath
  requireCapability req.volumeCapability

/-- Binds a volume to a path of a workload, while no other request has the lock. -/
def publishLocked (req : NodePublishVolumeRequest) (cap : VolumeCapability) :
    Job NodePublishVolumeResponse := do
  if ← isMountPoint req.targetPath then return {}
  if cap.isBlock then publishBlock req else publishMount req cap
  return {}

/-- Binds a volume to a path of a workload, unless something is mounted there. -/
def publish (req : NodePublishVolumeRequest) : Job NodePublishVolumeResponse := do
  let cap ← Job.ofExcept (publishing req)
  Job.locked (publishLocked req cap)

/-- What is wrong with a request to unpublish a volume. -/
def unpublishing (req : NodeUnpublishVolumeRequest) : Except CsiError Unit := do
  requireText "volume id" req.volumeId
  requireText "target path" req.targetPath

/-- Takes a volume from a path of a workload, while no other request has the lock. The path is
removed, if it can be. -/
def unpublishLocked (req : NodeUnpublishVolumeRequest) : Job NodeUnpublishVolumeResponse := do
  if ← isMountPoint req.targetPath then
    Job.ofWork (Host.ask (.unmount req.targetPath))
  let _ ← Host.ask (.remove req.targetPath)
  return {}

/-- Takes a volume from a path of a workload. -/
def unpublish (req : NodeUnpublishVolumeRequest) : Job NodeUnpublishVolumeResponse := do
  Job.ofExcept (unpublishing req)
  Job.locked (unpublishLocked req)

def fsTypeOf (device : String) : Job String := do
  let out ← Job.demand
    (Host.ask (.run ⟨"blkid", ["-p", "-s", "TYPE", "-o", "value", device], none⟩)) fun e =>
    .internal e.text
  if !out.success then
    throw (.internal s!"cannot determine filesystem on {device}: {Text.trim out.stderr}")
  return Text.trim out.stdout

/-- The command that makes a file system as large as its device. -/
def growCommand? (fsType device path : String) : Option Host.Command :=
  match fsType with
  | "ext2" | "ext3" | "ext4" => some ⟨"resize2fs", [device], none⟩
  | "xfs" => some ⟨"xfs_growfs", [path], none⟩
  | _ => none

/-- Makes the mapping of an encrypted device as large as that device. -/
def growMapping (device : String) (secrets : Attributes) : Job Unit := do
  if Luks.isMapperPath device then
    if ← Luks.isLuksMapping device then
      Luks.resize (Luks.mappingName device) (secrets.get? Setting.luksKey)

/-- Makes the file system that is mounted at a path as large as its device. -/
def growFileSystem (device path : String) : Job Unit := do
  let fsType ← fsTypeOf device
  match growCommand? fsType device path with
  | none => throw (.internal s!"growing {Text.quoted fsType} filesystems is not supported")
  | some command =>
    let out ← Job.demand (Host.ask (.run command)) fun e => .internal e.text
    if !out.success then
      throw (.internal s!"{command.program} {device} failed: {Text.trim out.stderr}")

def expanding (req : NodeExpandVolumeRequest) : Except CsiError Unit := do
  requireText "volume id" req.volumeId
  requireText "volume path" req.volumePath

def expanded (req : NodeExpandVolumeRequest) : NodeExpandVolumeResponse :=
  { capacityBytes := match req.capacityRange with
      | some range => range.requiredBytes
      | none => 0 }

/-- Makes use of the new size of a volume, while no other request has the lock. -/
def expandLocked (req : NodeExpandVolumeRequest) : Job NodeExpandVolumeResponse := do
  let path := req.volumePath
  if !(← isMountPoint path) then throw (.notFound s!"{path} is not mounted")
  if req.volumeCapability.any VolumeCapability.isBlock then return expanded req
  match ← Job.ofWork (Host.ask (.mountSources path)) with
  | [] => throw (.notFound s!"no device mounted at {path}")
  | device :: _ =>
    growMapping device req.secrets
    growFileSystem device path
    return expanded req

/-- Makes use of the new size of a volume. -/
def expand (req : NodeExpandVolumeRequest) : Job NodeExpandVolumeResponse := do
  Job.ofExcept (expanding req)
  Job.locked (expandLocked req)

/-- A count as an answer holds it, which is the greatest such number where the count is more. -/
def counted (n : Nat) : Int64 :=
  Int64.ofNat (min n 0x7fffffffffffffff)

/-- What is said about the use of a volume. The units are bytes and inodes. -/
def usage (stats : Host.FsStats) : List VolumeUsage :=
  [{ available := counted stats.availableBytes, total := counted stats.totalBytes,
     used := counted stats.usedBytes, unit := 1 },
   { available := counted stats.freeInodes, total := counted stats.totalInodes,
     used := counted stats.usedInodes, unit := 2 }]

def condition (path : String) (mounted : Bool) : VolumeCondition :=
  { abnormal := !mounted
    message := if mounted then "volume is mounted" else s!"{path} is not a mount point" }

def measuring (req : NodeGetVolumeStatsRequest) : Except CsiError Unit := do
  requireText "volume id" req.volumeId
  requireText "volume path" req.volumePath

def volumeStats (req : NodeGetVolumeStatsRequest) : Job NodeGetVolumeStatsResponse := do
  Job.ofExcept (measuring req)
  let path := req.volumePath
  if !(← Host.ask (.pathExists path)) then
    throw (.notFound s!"volume path {path} does not exist")
  let stats ← Job.demand (Host.ask (.statistics path)) fun e =>
    .internal s!"statfs {path}: {e.text}"
  let mounted ← isMountPoint path
  return { usage := usage stats, volumeCondition := some (condition path mounted) }

/-- The numbers of what the service can do: stage and unstage volumes, expand them, say how much of
them is used and in what condition they are. -/
def abilities : List Int32 := [1, 3, 2, 4]

def capabilities : NodeGetCapabilitiesResponse :=
  { capabilities := abilities.map fun n => { type := some (.rpc { type := n }) } }

/-- The number of volumes that a node with some memory can have: one for each GiB between 8 and 64,
less the one it runs from. -/
def maxVolumes (memory : Nat) : Nat :=
  max 8 (min (memory / 0x40000000) 64) - 1

/-- Says which instance the node is, and what it can take. -/
def info (i : Instance) : NodeGetInfoResponse :=
  { nodeId := toString i.id
    maxVolumesPerNode := Int64.ofNat (maxVolumes i.memory)
    accessibleTopology := some (Topology.ofRegion i.region) }

end VolumePlugin.Node
