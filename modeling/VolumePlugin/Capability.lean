import VolumePlugin.Error
import VolumePlugin.Message.Volume
import VolumePlugin.Setting

/-! What the plugin makes of the capabilities and topologies in requests. -/

namespace VolumePlugin

namespace VolumeCapability

def singleNodeWriterMode : Int32 := 1

/-- Whether one node is to read and write the volume, the one access mode that is supported. -/
def isSingleNodeWriter (cap : VolumeCapability) : Bool :=
  cap.accessMode.any fun a => a.mode = singleNodeWriterMode

/-- Whether the volume is to be handed over as a raw block device. -/
def isBlock (cap : VolumeCapability) : Bool :=
  match cap.accessType with
  | some (.block _) => true
  | _ => false

/-- The file system to put on a blank volume. -/
def fsType (cap : VolumeCapability) : String :=
  match cap.accessType with
  | some (.mount m) => if m.fsType = "" then Setting.defaultFsType else m.fsType
  | _ => Setting.defaultFsType

def mountFlags (cap : VolumeCapability) : List String :=
  match cap.accessType with
  | some (.mount m) => m.mountFlags
  | _ => []

/-- Refuses a missing capability, and every access mode but the one that is supported. -/
def requireSingleNodeWriter : Option VolumeCapability → Except CsiError VolumeCapability
  | none => .error (.invalidArgument "volume capability is required")
  | some cap =>
    if cap.isSingleNodeWriter then .ok cap
    else .error (.invalidArgument "only the SINGLE_NODE_WRITER access mode is supported")

end VolumeCapability

namespace Topology

/-- The part of the cluster that lies in a region. -/
def ofRegion (region : String) : Topology :=
  { segments := .single Setting.region region }

def region? (t : Topology) : Option String :=
  t.segments.get? Setting.region

end Topology

/-- The first region among the preferred topologies, then among the required ones. -/
def TopologyRequirement.region? (r : TopologyRequirement) : Option String :=
  (r.preferred ++ r.requisite).findSome? Topology.region?

end VolumePlugin
