import VolumePlugin.Message.Field

/-! Messages about volumes that requests and answers of several services share. -/

namespace VolumePlugin

/-- Access as a raw block device. -/
structure BlockVolume where
  deriving DecidableEq

instance : Message BlockVolume where
  empty := {}
  fields := []

/-- Access through a file system. -/
structure MountVolume where
  fsType : String := ""
  mountFlags : List String := []
  volumeMountGroup : String := ""
  deriving DecidableEq

instance : Message MountVolume where
  empty := {}
  fields := [
    .text "fs_type" 1 (·.fsType) fun v m => { m with fsType := v },
    .texts "mount_flags" 2 (·.mountFlags) fun v m => { m with mountFlags := v },
    .text "volume_mount_group" 3 (·.volumeMountGroup) fun v m => { m with volumeMountGroup := v }]

/-- How many nodes may use a volume, and for what. -/
structure AccessMode where
  mode : Int32 := 0
  deriving DecidableEq

instance : Message AccessMode where
  empty := {}
  fields := [
    .int32 "mode" 1 (·.mode) fun v m => { m with mode := v }]

/-- The two forms in which a volume is handed to a workload. -/
inductive AccessType where
  | block (value : BlockVolume)
  | mount (value : MountVolume)
  deriving DecidableEq

/-- What a workload wants to do with a volume. -/
structure VolumeCapability where
  accessType : Option AccessType := none
  accessMode : Option AccessMode := none
  deriving DecidableEq

instance : Message VolumeCapability where
  empty := {}
  fields := [
    .choice "access_type" [
      .of "block" 1 (fun m => match m.accessType with | some (.block v) => some v | _ => none)
        fun v m => { m with accessType := some (.block v) },
      .of "mount" 2 (fun m => match m.accessType with | some (.mount v) => some v | _ => none)
        fun v m => { m with accessType := some (.mount v) }],
    .message "access_mode" 3 (·.accessMode) fun v m => { m with accessMode := some v }]

/-- Bounds on the size of a volume in bytes; zero stands for no bound. -/
structure CapacityRange where
  requiredBytes : Int64 := 0
  limitBytes : Int64 := 0
  deriving DecidableEq

instance : Message CapacityRange where
  empty := {}
  fields := [
    .int64 "required_bytes" 1 (·.requiredBytes) fun v m => { m with requiredBytes := v },
    .int64 "limit_bytes" 2 (·.limitBytes) fun v m => { m with limitBytes := v }]

structure SnapshotSource where
  snapshotId : String := ""
  deriving DecidableEq

instance : Message SnapshotSource where
  empty := {}
  fields := [
    .text "snapshot_id" 1 (·.snapshotId) fun v m => { m with snapshotId := v }]

structure VolumeSource where
  volumeId : String := ""
  deriving DecidableEq

instance : Message VolumeSource where
  empty := {}
  fields := [
    .text "volume_id" 1 (·.volumeId) fun v m => { m with volumeId := v }]

/-- The two origins of the content of a new volume. -/
inductive ContentOrigin where
  | snapshot (value : SnapshotSource)
  | volume (value : VolumeSource)
  deriving DecidableEq

/-- What a new volume holds at the start. -/
structure VolumeContentSource where
  type : Option ContentOrigin := none
  deriving DecidableEq

instance : Message VolumeContentSource where
  empty := {}
  fields := [
    .choice "type" [
      .of "snapshot" 1 (fun m => match m.type with | some (.snapshot v) => some v | _ => none)
        fun v m => { m with type := some (.snapshot v) },
      .of "volume" 2 (fun m => match m.type with | some (.volume v) => some v | _ => none)
        fun v m => { m with type := some (.volume v) }]]

/-- A part of the cluster, given by named segments. -/
structure Topology where
  segments : Attributes := .empty
  deriving DecidableEq

instance : Message Topology where
  empty := {}
  fields := [
    .attributes "segments" 1 (·.segments) fun v m => { m with segments := v }]

/-- Where a volume must be reachable, and where it should be. -/
structure TopologyRequirement where
  requisite : List Topology := []
  preferred : List Topology := []
  deriving DecidableEq

instance : Message TopologyRequirement where
  empty := {}
  fields := [
    .messages "requisite" 1 (·.requisite) fun v m => { m with requisite := v },
    .messages "preferred" 2 (·.preferred) fun v m => { m with preferred := v }]

structure Volume where
  capacityBytes : Int64 := 0
  volumeId : String := ""
  volumeContext : Attributes := .empty
  contentSource : Option VolumeContentSource := none
  accessibleTopology : List Topology := []
  deriving DecidableEq

instance : Message Volume where
  empty := {}
  fields := [
    .int64 "capacity_bytes" 1 (·.capacityBytes) fun v m => { m with capacityBytes := v },
    .text "volume_id" 2 (·.volumeId) fun v m => { m with volumeId := v },
    .attributes "volume_context" 3 (·.volumeContext) fun v m => { m with volumeContext := v },
    .message "content_source" 4 (·.contentSource) fun v m => { m with contentSource := some v },
    .messages "accessible_topology" 5 (·.accessibleTopology)
      fun v m => { m with accessibleTopology := v }]

/-- Whether something is wrong with a volume, and a text about it. -/
structure VolumeCondition where
  abnormal : Bool := false
  message : String := ""
  deriving DecidableEq

instance : Message VolumeCondition where
  empty := {}
  fields := [
    .bool "abnormal" 1 (·.abnormal) fun v m => { m with abnormal := v },
    .text "message" 2 (·.message) fun v m => { m with message := v }]

end VolumePlugin
