import VolumePlugin.Message.Volume

/-! Messages of the controller service. -/

namespace VolumePlugin

/-- A whole number on its own. -/
instance : Message Int64 where
  empty := 0
  fields := [.int64 "value" 1 id fun v _ => v]

/-- The field of a whole number on its own. -/
def wholeNumber : Field Int64 :=
  .int64 "value" 1 id fun v _ => v

structure CreateVolumeRequest where
  name : String := ""
  capacityRange : Option CapacityRange := none
  volumeCapabilities : List VolumeCapability := []
  parameters : Attributes := .empty
  secrets : Attributes := .empty
  volumeContentSource : Option VolumeContentSource := none
  accessibilityRequirements : Option TopologyRequirement := none
  mutableParameters : Attributes := .empty
  deriving DecidableEq

instance : Message CreateVolumeRequest where
  empty := {}
  fields := [
    .text "name" 1 (·.name) fun v m => { m with name := v },
    .message "capacity_range" 2 (·.capacityRange) fun v m => { m with capacityRange := some v },
    .messages "volume_capabilities" 3 (·.volumeCapabilities)
      fun v m => { m with volumeCapabilities := v },
    .attributes "parameters" 4 (·.parameters) fun v m => { m with parameters := v },
    .attributes "secrets" 5 (·.secrets) fun v m => { m with secrets := v },
    .message "volume_content_source" 6 (·.volumeContentSource)
      fun v m => { m with volumeContentSource := some v },
    .message "accessibility_requirements" 7 (·.accessibilityRequirements)
      fun v m => { m with accessibilityRequirements := some v },
    .attributes "mutable_parameters" 8 (·.mutableParameters)
      fun v m => { m with mutableParameters := v }]

structure CreateVolumeResponse where
  volume : Option Volume := none
  deriving DecidableEq

instance : Message CreateVolumeResponse where
  empty := {}
  fields := [
    .message "volume" 1 (·.volume) fun v m => { m with volume := some v }]

structure DeleteVolumeRequest where
  volumeId : String := ""
  secrets : Attributes := .empty
  deriving DecidableEq

instance : Message DeleteVolumeRequest where
  empty := {}
  fields := [
    .text "volume_id" 1 (·.volumeId) fun v m => { m with volumeId := v },
    .attributes "secrets" 2 (·.secrets) fun v m => { m with secrets := v }]

structure DeleteVolumeResponse where
  deriving DecidableEq

instance : Message DeleteVolumeResponse where
  empty := {}
  fields := []

structure ControllerPublishVolumeRequest where
  volumeId : String := ""
  nodeId : String := ""
  volumeCapability : Option VolumeCapability := none
  readonly : Bool := false
  secrets : Attributes := .empty
  volumeContext : Attributes := .empty
  deriving DecidableEq

instance : Message ControllerPublishVolumeRequest where
  empty := {}
  fields := [
    .text "volume_id" 1 (·.volumeId) fun v m => { m with volumeId := v },
    .text "node_id" 2 (·.nodeId) fun v m => { m with nodeId := v },
    .message "volume_capability" 3 (·.volumeCapability)
      fun v m => { m with volumeCapability := some v },
    .bool "readonly" 4 (·.readonly) fun v m => { m with readonly := v },
    .attributes "secrets" 5 (·.secrets) fun v m => { m with secrets := v },
    .attributes "volume_context" 6 (·.volumeContext) fun v m => { m with volumeContext := v }]

/-- The volume is attached; the context says where the node finds it. -/
structure ControllerPublishVolumeResponse where
  publishContext : Attributes := .empty
  deriving DecidableEq

instance : Message ControllerPublishVolumeResponse where
  empty := {}
  fields := [
    .attributes "publish_context" 1 (·.publishContext) fun v m => { m with publishContext := v }]

/-- Asks that a volume be detached from a node, or from any node. -/
structure ControllerUnpublishVolumeRequest where
  volumeId : String := ""
  nodeId : String := ""
  secrets : Attributes := .empty
  deriving DecidableEq

instance : Message ControllerUnpublishVolumeRequest where
  empty := {}
  fields := [
    .text "volume_id" 1 (·.volumeId) fun v m => { m with volumeId := v },
    .text "node_id" 2 (·.nodeId) fun v m => { m with nodeId := v },
    .attributes "secrets" 3 (·.secrets) fun v m => { m with secrets := v }]

structure ControllerUnpublishVolumeResponse where
  deriving DecidableEq

instance : Message ControllerUnpublishVolumeResponse where
  empty := {}
  fields := []

structure ValidateVolumeCapabilitiesRequest where
  volumeId : String := ""
  volumeContext : Attributes := .empty
  volumeCapabilities : List VolumeCapability := []
  parameters : Attributes := .empty
  secrets : Attributes := .empty
  mutableParameters : Attributes := .empty
  deriving DecidableEq

instance : Message ValidateVolumeCapabilitiesRequest where
  empty := {}
  fields := [
    .text "volume_id" 1 (·.volumeId) fun v m => { m with volumeId := v },
    .attributes "volume_context" 2 (·.volumeContext) fun v m => { m with volumeContext := v },
    .messages "volume_capabilities" 3 (·.volumeCapabilities)
      fun v m => { m with volumeCapabilities := v },
    .attributes "parameters" 4 (·.parameters) fun v m => { m with parameters := v },
    .attributes "secrets" 5 (·.secrets) fun v m => { m with secrets := v },
    .attributes "mutable_parameters" 6 (·.mutableParameters)
      fun v m => { m with mutableParameters := v }]

/-- The capabilities that a volume has. -/
structure ConfirmedCapabilities where
  volumeContext : Attributes := .empty
  volumeCapabilities : List VolumeCapability := []
  parameters : Attributes := .empty
  mutableParameters : Attributes := .empty
  deriving DecidableEq

instance : Message ConfirmedCapabilities where
  empty := {}
  fields := [
    .attributes "volume_context" 1 (·.volumeContext) fun v m => { m with volumeContext := v },
    .messages "volume_capabilities" 2 (·.volumeCapabilities)
      fun v m => { m with volumeCapabilities := v },
    .attributes "parameters" 3 (·.parameters) fun v m => { m with parameters := v },
    .attributes "mutable_parameters" 4 (·.mutableParameters)
      fun v m => { m with mutableParameters := v }]

/-- The capabilities if the volume has all of them, or else a text. -/
structure ValidateVolumeCapabilitiesResponse where
  confirmed : Option ConfirmedCapabilities := none
  message : String := ""
  deriving DecidableEq

instance : Message ValidateVolumeCapabilitiesResponse where
  empty := {}
  fields := [
    .message "confirmed" 1 (·.confirmed) fun v m => { m with confirmed := some v },
    .text "message" 2 (·.message) fun v m => { m with message := v }]

structure ListVolumesRequest where
  maxEntries : Int32 := 0
  startingToken : String := ""
  deriving DecidableEq

instance : Message ListVolumesRequest where
  empty := {}
  fields := [
    .int32 "max_entries" 1 (·.maxEntries) fun v m => { m with maxEntries := v },
    .text "starting_token" 2 (·.startingToken) fun v m => { m with startingToken := v }]

structure PublishedStatus where
  publishedNodeIds : List String := []
  volumeCondition : Option VolumeCondition := none
  deriving DecidableEq

instance : Message PublishedStatus where
  empty := {}
  fields := [
    .texts "published_node_ids" 1 (·.publishedNodeIds) fun v m => { m with publishedNodeIds := v },
    .message "volume_condition" 2 (·.volumeCondition)
      fun v m => { m with volumeCondition := some v }]

structure ListedVolume where
  volume : Option Volume := none
  status : Option PublishedStatus := none
  deriving DecidableEq

instance : Message ListedVolume where
  empty := {}
  fields := [
    .message "volume" 1 (·.volume) fun v m => { m with volume := some v },
    .message "status" 2 (·.status) fun v m => { m with status := some v }]

structure ListVolumesResponse where
  entries : List ListedVolume := []
  nextToken : String := ""
  deriving DecidableEq

instance : Message ListVolumesResponse where
  empty := {}
  fields := [
    .messages "entries" 1 (·.entries) fun v m => { m with entries := v },
    .text "next_token" 2 (·.nextToken) fun v m => { m with nextToken := v }]

structure ControllerGetVolumeRequest where
  volumeId : String := ""
  deriving DecidableEq

instance : Message ControllerGetVolumeRequest where
  empty := {}
  fields := [
    .text "volume_id" 1 (·.volumeId) fun v m => { m with volumeId := v }]

structure ControllerGetVolumeResponse where
  volume : Option Volume := none
  status : Option PublishedStatus := none
  deriving DecidableEq

instance : Message ControllerGetVolumeResponse where
  empty := {}
  fields := [
    .message "volume" 1 (·.volume) fun v m => { m with volume := some v },
    .message "status" 2 (·.status) fun v m => { m with status := some v }]

structure GetCapacityRequest where
  volumeCapabilities : List VolumeCapability := []
  parameters : Attributes := .empty
  accessibleTopology : Option Topology := none
  deriving DecidableEq

instance : Message GetCapacityRequest where
  empty := {}
  fields := [
    .messages "volume_capabilities" 1 (·.volumeCapabilities)
      fun v m => { m with volumeCapabilities := v },
    .attributes "parameters" 2 (·.parameters) fun v m => { m with parameters := v },
    .message "accessible_topology" 3 (·.accessibleTopology)
      fun v m => { m with accessibleTopology := some v }]

/-- The capacity that is left, and bounds on one volume. -/
structure GetCapacityResponse where
  availableCapacity : Int64 := 0
  maximumVolumeSize : Option Int64 := none
  minimumVolumeSize : Option Int64 := none
  deriving DecidableEq

instance : Message GetCapacityResponse where
  empty := {}
  fields := [
    .int64 "available_capacity" 1 (·.availableCapacity)
      fun v m => { m with availableCapacity := v },
    .wrapped "maximum_volume_size" 2 wholeNumber (·.maximumVolumeSize)
      fun v m => { m with maximumVolumeSize := some v },
    .wrapped "minimum_volume_size" 3 wholeNumber (·.minimumVolumeSize)
      fun v m => { m with minimumVolumeSize := some v }]

structure ControllerGetCapabilitiesRequest where
  deriving DecidableEq

instance : Message ControllerGetCapabilitiesRequest where
  empty := {}
  fields := []

/-- An ability of the controller service, by number. -/
structure ControllerRpc where
  type : Int32 := 0
  deriving DecidableEq

instance : Message ControllerRpc where
  empty := {}
  fields := [
    .int32 "type" 1 (·.type) fun v m => { m with type := v }]

inductive ControllerAbility where
  | rpc (value : ControllerRpc)
  deriving DecidableEq

structure ControllerServiceCapability where
  type : Option ControllerAbility := none
  deriving DecidableEq

instance : Message ControllerServiceCapability where
  empty := {}
  fields := [
    .choice "type" [
      .of "rpc" 1 (fun m => match m.type with | some (.rpc v) => some v | none => none)
        fun v m => { m with type := some (.rpc v) }]]

structure ControllerGetCapabilitiesResponse where
  capabilities : List ControllerServiceCapability := []
  deriving DecidableEq

instance : Message ControllerGetCapabilitiesResponse where
  empty := {}
  fields := [
    .messages "capabilities" 1 (·.capabilities) fun v m => { m with capabilities := v }]

structure CreateSnapshotRequest where
  sourceVolumeId : String := ""
  name : String := ""
  secrets : Attributes := .empty
  parameters : Attributes := .empty
  deriving DecidableEq

instance : Message CreateSnapshotRequest where
  empty := {}
  fields := [
    .text "source_volume_id" 1 (·.sourceVolumeId) fun v m => { m with sourceVolumeId := v },
    .text "name" 2 (·.name) fun v m => { m with name := v },
    .attributes "secrets" 3 (·.secrets) fun v m => { m with secrets := v },
    .attributes "parameters" 4 (·.parameters) fun v m => { m with parameters := v }]

structure Snapshot where
  sizeBytes : Int64 := 0
  snapshotId : String := ""
  sourceVolumeId : String := ""
  readyToUse : Bool := false
  groupSnapshotId : String := ""
  deriving DecidableEq

instance : Message Snapshot where
  empty := {}
  fields := [
    .int64 "size_bytes" 1 (·.sizeBytes) fun v m => { m with sizeBytes := v },
    .text "snapshot_id" 2 (·.snapshotId) fun v m => { m with snapshotId := v },
    .text "source_volume_id" 3 (·.sourceVolumeId) fun v m => { m with sourceVolumeId := v },
    .bool "ready_to_use" 5 (·.readyToUse) fun v m => { m with readyToUse := v },
    .text "group_snapshot_id" 6 (·.groupSnapshotId) fun v m => { m with groupSnapshotId := v }]

structure CreateSnapshotResponse where
  snapshot : Option Snapshot := none
  deriving DecidableEq

instance : Message CreateSnapshotResponse where
  empty := {}
  fields := [
    .message "snapshot" 1 (·.snapshot) fun v m => { m with snapshot := some v }]

structure DeleteSnapshotRequest where
  snapshotId : String := ""
  secrets : Attributes := .empty
  deriving DecidableEq

instance : Message DeleteSnapshotRequest where
  empty := {}
  fields := [
    .text "snapshot_id" 1 (·.snapshotId) fun v m => { m with snapshotId := v },
    .attributes "secrets" 2 (·.secrets) fun v m => { m with secrets := v }]

structure DeleteSnapshotResponse where
  deriving DecidableEq

instance : Message DeleteSnapshotResponse where
  empty := {}
  fields := []

structure ListSnapshotsRequest where
  maxEntries : Int32 := 0
  startingToken : String := ""
  sourceVolumeId : String := ""
  snapshotId : String := ""
  secrets : Attributes := .empty
  deriving DecidableEq

instance : Message ListSnapshotsRequest where
  empty := {}
  fields := [
    .int32 "max_entries" 1 (·.maxEntries) fun v m => { m with maxEntries := v },
    .text "starting_token" 2 (·.startingToken) fun v m => { m with startingToken := v },
    .text "source_volume_id" 3 (·.sourceVolumeId) fun v m => { m with sourceVolumeId := v },
    .text "snapshot_id" 4 (·.snapshotId) fun v m => { m with snapshotId := v },
    .attributes "secrets" 5 (·.secrets) fun v m => { m with secrets := v }]

structure ListedSnapshot where
  snapshot : Option Snapshot := none
  deriving DecidableEq

instance : Message ListedSnapshot where
  empty := {}
  fields := [
    .message "snapshot" 1 (·.snapshot) fun v m => { m with snapshot := some v }]

structure ListSnapshotsResponse where
  entries : List ListedSnapshot := []
  nextToken : String := ""
  deriving DecidableEq

instance : Message ListSnapshotsResponse where
  empty := {}
  fields := [
    .messages "entries" 1 (·.entries) fun v m => { m with entries := v },
    .text "next_token" 2 (·.nextToken) fun v m => { m with nextToken := v }]

structure ControllerExpandVolumeRequest where
  volumeId : String := ""
  capacityRange : Option CapacityRange := none
  secrets : Attributes := .empty
  volumeCapability : Option VolumeCapability := none
  deriving DecidableEq

instance : Message ControllerExpandVolumeRequest where
  empty := {}
  fields := [
    .text "volume_id" 1 (·.volumeId) fun v m => { m with volumeId := v },
    .message "capacity_range" 2 (·.capacityRange) fun v m => { m with capacityRange := some v },
    .attributes "secrets" 3 (·.secrets) fun v m => { m with secrets := v },
    .message "volume_capability" 4 (·.volumeCapability)
      fun v m => { m with volumeCapability := some v }]

/-- The size of a volume, and whether its file system must grow too. -/
structure ControllerExpandVolumeResponse where
  capacityBytes : Int64 := 0
  nodeExpansionRequired : Bool := false
  deriving DecidableEq

instance : Message ControllerExpandVolumeResponse where
  empty := {}
  fields := [
    .int64 "capacity_bytes" 1 (·.capacityBytes) fun v m => { m with capacityBytes := v },
    .bool "node_expansion_required" 2 (·.nodeExpansionRequired)
      fun v m => { m with nodeExpansionRequired := v }]

end VolumePlugin
