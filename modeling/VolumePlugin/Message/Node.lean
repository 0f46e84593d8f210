import VolumePlugin.Message.Volume

/-! Messages of the node service. -/

namespace VolumePlugin

/-- Asks that an attached volume be made ready at its staging path. -/
structure NodeStageVolumeRequest where
  volumeId : String := ""
  publishContext : Attributes := .empty
  stagingTargetPath : String := ""
  volumeCapability : Option VolumeCapability := none
  secrets : Attributes := .empty
  volumeContext : Attributes := .empty
  deriving DecidableEq

instance : Message NodeStageVolumeRequest where
  empty := {}
  fields := [
    .text "volume_id" 1 (·.volumeId) fun v m => { m with volumeId := v },
    .attributes "publish_context" 2 (·.publishContext) fun v m => { m with publishContext := v },
    .text "staging_target_path" 3 (·.stagingTargetPath)
      fun v m => { m with stagingTargetPath := v },
    .message "volume_capability" 4 (·.volumeCapability)
      fun v m => { m with volumeCapability := some v },
    .attributes "secrets" 5 (·.secrets) fun v m => { m with secrets := v },
    .attributes "volume_context" 6 (·.volumeContext) fun v m => { m with volumeContext := v }]

structure NodeStageVolumeResponse where
  deriving DecidableEq

instance : Message NodeStageVolumeResponse where
  empty := {}
  fields := []

structure NodeUnstageVolumeRequest where
  volumeId : String := ""
  stagingTargetPath : String := ""
  deriving DecidableEq

instance : Message NodeUnstageVolumeRequest where
  empty := {}
  fields := [
    .text "volume_id" 1 (·.volumeId) fun v m => { m with volumeId := v },
    .text "staging_target_path" 2 (·.stagingTargetPath)
      fun v m => { m with stagingTargetPath := v }]

structure NodeUnstageVolumeResponse where
  deriving DecidableEq

instance : Message NodeUnstageVolumeResponse where
  empty := {}
  fields := []

/-- Asks that a volume be mounted where a workload sees it. -/
structure NodePublishVolumeRequest where
  volumeId : String := ""
  publishContext : Attributes := .empty
  stagingTargetPath : String := ""
  targetPath : String := ""
  volumeCapability : Option VolumeCapability := none
  readonly : Bool := false
  secrets : Attributes := .empty
  volumeContext : Attributes := .empty
  deriving DecidableEq

instance : Message NodePublishVolumeRequest where
  empty := {}
  fields := [
    .text "volume_id" 1 (·.volumeId) fun v m => { m with volumeId := v },
    .attributes "publish_context" 2 (·.publishContext) fun v m => { m with publishContext := v },
    .text "staging_target_path" 3 (·.stagingTargetPath)
      fun v m => { m with stagingTargetPath := v },
    .text "target_path" 4 (·.targetPath) fun v m => { m with targetPath := v },
    .message "volume_capability" 5 (·.volumeCapability)
      fun v m => { m with volumeCapability := some v },
    .bool "readonly" 6 (·.readonly) fun v m => { m with readonly := v },
    .attributes "secrets" 7 (·.secrets) fun v m => { m with secrets := v },
    .attributes "volume_context" 8 (·.volumeContext) fun v m => { m with volumeContext := v }]

structure NodePublishVolumeResponse where
  deriving DecidableEq

instance : Message NodePublishVolumeResponse where
  empty := {}
  fields := []

structure NodeUnpublishVolumeRequest where
  volumeId : String := ""
  targetPath : String := ""
  deriving DecidableEq

instance : Message NodeUnpublishVolumeRequest where
  empty := {}
  fields := [
    .text "volume_id" 1 (·.volumeId) fun v m => { m with volumeId := v },
    .text "target_path" 2 (·.targetPath) fun v m => { m with targetPath := v }]

structure NodeUnpublishVolumeResponse where
  deriving DecidableEq

instance : Message NodeUnpublishVolumeResponse where
  empty := {}
  fields := []

/-- Asks how full a volume is. -/
structure NodeGetVolumeStatsRequest where
  volumeId : String := ""
  volumePath : String := ""
  stagingTargetPath : String := ""
  deriving DecidableEq

instance : Message NodeGetVolumeStatsRequest where
  empty := {}
  fields := [
    .text "volume_id" 1 (·.volumeId) fun v m => { m with volumeId := v },
    .text "volume_path" 2 (·.volumePath) fun v m => { m with volumePath := v },
    .text "staging_target_path" 3 (·.stagingTargetPath)
      fun v m => { m with stagingTargetPath := v }]

/-- How much of a volume is used, in some unit. -/
structure VolumeUsage where
  available : Int64 := 0
  total : Int64 := 0
  used : Int64 := 0
  unit : Int32 := 0
  deriving DecidableEq

instance : Message VolumeUsage where
  empty := {}
  fields := [
    .int64 "available" 1 (·.available) fun v m => { m with available := v },
    .int64 "total" 2 (·.total) fun v m => { m with total := v },
    .int64 "used" 3 (·.used) fun v m => { m with used := v },
    .int32 "unit" 4 (·.unit) fun v m => { m with unit := v }]

structure NodeGetVolumeStatsResponse where
  usage : List VolumeUsage := []
  volumeCondition : Option VolumeCondition := none
  deriving DecidableEq

instance : Message NodeGetVolumeStatsResponse where
  empty := {}
  fields := [
    .messages "usage" 1 (·.usage) fun v m => { m with usage := v },
    .message "volume_condition" 2 (·.volumeCondition)
      fun v m => { m with volumeCondition := some v }]

structure NodeGetCapabilitiesRequest where
  deriving DecidableEq

instance : Message NodeGetCapabilitiesRequest where
  empty := {}
  fields := []

/-- An ability of the node service, by number. -/
structure NodeRpc where
  type : Int32 := 0
  deriving DecidableEq

instance : Message NodeRpc where
  empty := {}
  fields := [
    .int32 "type" 1 (·.type) fun v m => { m with type := v }]

inductive NodeAbility where
  | rpc (value : NodeRpc)
  deriving DecidableEq

structure NodeServiceCapability where
  type : Option NodeAbility := none
  deriving DecidableEq

instance : Message NodeServiceCapability where
  empty := {}
  fields := [
    .choice "type" [
      .of "rpc" 1 (fun m => match m.type with | some (.rpc v) => some v | none => none)
        fun v m => { m with type := some (.rpc v) }]]

structure NodeGetCapabilitiesResponse where
  capabilities : List NodeServiceCapability := []
  deriving DecidableEq

instance : Message NodeGetCapabilitiesResponse where
  empty := {}
  fields := [
    .messages "capabilities" 1 (·.capabilities) fun v m => { m with capabilities := v }]

structure NodeGetInfoRequest where
  deriving DecidableEq

instance : Message NodeGetInfoRequest where
  empty := {}
  fields := []

/-- The name of the node, how many volumes it takes, and where it is. -/
structure NodeGetInfoResponse where
  nodeId : String := ""
  maxVolumesPerNode : Int64 := 0
  accessibleTopology : Option Topology := none
  deriving DecidableEq

instance : Message NodeGetInfoResponse where
  empty := {}
  fields := [
    .text "node_id" 1 (·.nodeId) fun v m => { m with nodeId := v },
    .int64 "max_volumes_per_node" 2 (·.maxVolumesPerNode)
      fun v m => { m with maxVolumesPerNode := v },
    .message "accessible_topology" 3 (·.accessibleTopology)
      fun v m => { m with accessibleTopology := some v }]

/-- Asks that the file system of a volume fill the volume. -/
structure NodeExpandVolumeRequest where
  volumeId : String := ""
  volumePath : String := ""
  capacityRange : Option CapacityRange := none
  stagingTargetPath : String := ""
  volumeCapability : Option VolumeCapability := none
  secrets : Attributes := .empty
  deriving DecidableEq

instance : Message NodeExpandVolumeRequest where
  empty := {}
  fields := [
    .text "volume_id" 1 (·.volumeId) fun v m => { m with volumeId := v },
    .text "volume_path" 2 (·.volumePath) fun v m => { m with volumePath := v },
    .message "capacity_range" 3 (·.capacityRange) fun v m => { m with capacityRange := some v },
    .text "staging_target_path" 4 (·.stagingTargetPath)
      fun v m => { m with stagingTargetPath := v },
    .message "volume_capability" 5 (·.volumeCapability)
      fun v m => { m with volumeCapability := some v },
    .attributes "secrets" 6 (·.secrets) fun v m => { m with secrets := v }]

/-- The size that was asked for. -/
structure NodeExpandVolumeResponse where
  capacityBytes : Int64 := 0
  deriving DecidableEq

instance : Message NodeExpandVolumeResponse where
  empty := {}
  fields := [
    .int64 "capacity_bytes" 1 (·.capacityBytes) fun v m => { m with capacityBytes := v }]

end VolumePlugin
