import VolumePlugin.Message.Controller
import VolumePlugin.Message.Identity
import VolumePlugin.Message.Node

/-! The catalog of messages by name. -/

namespace VolumePlugin.Message

/-- A message in its two forms. -/
structure Packed where
  json : Json
  bytes : List UInt8
  /-- Whether the bytes are the only wire form of the message. -/
  settled : Bool

def pack {σ : Type} [Message σ] (m : σ) : Packed :=
  ⟨toJson m, encode m, settled m⟩

/-- A type of messages in the catalog. -/
structure Kind where
  name : String
  ofBytes : List UInt8 → Option Packed
  ofJson : Json → Option Packed

def Kind.of (name : String) (σ : Type) [Message σ] : Kind :=
  { name
    ofBytes := fun bytes => (decode bytes : Option σ).map pack
    ofJson := fun v => (Message.ofJson v : Option σ).map pack }

/-- The types of messages that have a name of their own in the interface. -/
def catalog : List Kind := [
  .of "GetPluginInfoRequest" GetPluginInfoRequest,
  .of "GetPluginInfoResponse" GetPluginInfoResponse,
  .of "GetPluginCapabilitiesRequest" GetPluginCapabilitiesRequest,
  .of "GetPluginCapabilitiesResponse" GetPluginCapabilitiesResponse,
  .of "PluginCapability" PluginCapability,
  .of "ProbeRequest" ProbeRequest,
  .of "ProbeResponse" ProbeResponse,
  .of "VolumeCapability" VolumeCapability,
  .of "CapacityRange" CapacityRange,
  .of "Volume" Volume,
  .of "VolumeContentSource" VolumeContentSource,
  .of "TopologyRequirement" TopologyRequirement,
  .of "Topology" Topology,
  .of "VolumeCondition" VolumeCondition,
  .of "CreateVolumeRequest" CreateVolumeRequest,
  .of "CreateVolumeResponse" CreateVolumeResponse,
  .of "DeleteVolumeRequest" DeleteVolumeRequest,
  .of "DeleteVolumeResponse" DeleteVolumeResponse,
  .of "ControllerPublishVolumeRequest" ControllerPublishVolumeRequest,
  .of "ControllerPublishVolumeResponse" ControllerPublishVolumeResponse,
  .of "ControllerUnpublishVolumeRequest" ControllerUnpublishVolumeRequest,
  .of "ControllerUnpublishVolumeResponse" ControllerUnpublishVolumeResponse,
  .of "ValidateVolumeCapabilitiesRequest" ValidateVolumeCapabilitiesRequest,
  .of "ValidateVolumeCapabilitiesResponse" ValidateVolumeCapabilitiesResponse,
  .of "ListVolumesRequest" ListVolumesRequest,
  .of "ListVolumesResponse" ListVolumesResponse,
  .of "ControllerGetVolumeRequest" ControllerGetVolumeRequest,
  .of "ControllerGetVolumeResponse" ControllerGetVolumeResponse,
  .of "GetCapacityRequest" GetCapacityRequest,
  .of "GetCapacityResponse" GetCapacityResponse,
  .of "ControllerGetCapabilitiesRequest" ControllerGetCapabilitiesRequest,
  .of "ControllerGetCapabilitiesResponse" ControllerGetCapabilitiesResponse,
  .of "ControllerServiceCapability" ControllerServiceCapability,
  .of "CreateSnapshotRequest" CreateSnapshotRequest,
  .of "CreateSnapshotResponse" CreateSnapshotResponse,
  .of "Snapshot" Snapshot,
  .of "DeleteSnapshotRequest" DeleteSnapshotRequest,
  .of "DeleteSnapshotResponse" DeleteSnapshotResponse,
  .of "ListSnapshotsRequest" ListSnapshotsRequest,
  .of "ListSnapshotsResponse" ListSnapshotsResponse,
  .of "ControllerExpandVolumeRequest" ControllerExpandVolumeRequest,
  .of "ControllerExpandVolumeResponse" ControllerExpandVolumeResponse,
  .of "NodeStageVolumeRequest" NodeStageVolumeRequest,
  .of "NodeStageVolumeResponse" NodeStageVolumeResponse,
  .of "NodeUnstageVolumeRequest" NodeUnstageVolumeRequest,
  .of "NodeUnstageVolumeResponse" NodeUnstageVolumeResponse,
  .of "NodePublishVolumeRequest" NodePublishVolumeRequest,
  .of "NodePublishVolumeResponse" NodePublishVolumeResponse,
  .of "NodeUnpublishVolumeRequest" NodeUnpublishVolumeRequest,
  .of "NodeUnpublishVolumeResponse" NodeUnpublishVolumeResponse,
  .of "NodeGetVolumeStatsRequest" NodeGetVolumeStatsRequest,
  .of "NodeGetVolumeStatsResponse" NodeGetVolumeStatsResponse,
  .of "VolumeUsage" VolumeUsage,
  .of "NodeGetCapabilitiesRequest" NodeGetCapabilitiesRequest,
  .of "NodeGetCapabilitiesResponse" NodeGetCapabilitiesResponse,
  .of "NodeServiceCapability" NodeServiceCapability,
  .of "NodeGetInfoRequest" NodeGetInfoRequest,
  .of "NodeGetInfoResponse" NodeGetInfoResponse,
  .of "NodeExpandVolumeRequest" NodeExpandVolumeRequest,
  .of "NodeExpandVolumeResponse" NodeExpandVolumeResponse]

def kind? (name : String) : Option Kind :=
  catalog.find? (·.name == name)

end VolumePlugin.Message
